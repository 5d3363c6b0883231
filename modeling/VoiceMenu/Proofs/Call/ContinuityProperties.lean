import VoiceMenu.Proofs.Call.RequestProperties
import VoiceMenu.Proofs.Interpreter.RunProperties

/-! Keeping a call in a store between its turns makes no difference. A call that is kept
in memory, as its state and domain value, gives the same answers to the same requests. -/

set_option autoImplicit false

namespace VoiceMenu

/-! ## Calls kept in memory -/

/-- What the session has to say and takes as input. -/
def Interpreter.present {δ : Type} (interpreter : Interpreter δ) (session : Session δ) :
    Query Turn := do
  let prompts ← interpreter.prompts session
  let acceptedKeys ← .ofExcept (interpreter.acceptedKeys session)
  let gather ← interpreter.gather session
  pure ⟨session.callId, session.state, prompts, acceptedKeys, gather⟩

def Interpreter.presentAfter {δ : Type} (interpreter : Interpreter δ) :
    Report δ String → Report δ Turn
  | ⟨.error error, session, log⟩ => ⟨.error error, session, log⟩
  | ⟨.ok _, session, log⟩ =>
      let shown := interpreter.present session
      ⟨shown.result, session, log ++ shown.log⟩

structure Place (δ : Type) where
  state : String
  domain : δ

/-- A call that is not stored. Before its first turn it is in no place. -/
structure LiveCall (δ : Type) where
  callId : String
  place : Option (Place δ) := none

structure LiveTurn (δ : Type) where
  answer : Except CycleError Turn
  call : LiveCall δ
  log : Log

namespace LiveCall

variable {δ : Type}

def session (call : LiveCall δ) (attendant : Attendant δ) : Session δ :=
  match call.place with
  | none => attendant.interpreter.start call.callId attendant.codec.fresh
  | some place => ⟨call.callId, place.state, place.domain⟩

def settle (call : LiveCall δ) (session : Session δ) : LiveCall δ :=
  { call with place := some ⟨session.state, session.domain⟩ }

/-- The first turn takes the initial decisions; the later ones respond to digits. -/
def move (call : LiveCall δ) (attendant : Attendant δ) (digits : Option String) :
    Report δ String :=
  match call.place, digits with
  | none, _ => attendant.interpreter.decide (call.session attendant)
  | some _, some pressed =>
      attendant.interpreter.respond (.ofText pressed) (call.session attendant)
  | some place, none => ⟨.ok place.state, call.session attendant, []⟩

def attempt (call : LiveCall δ) (attendant : Attendant δ) (digits : Option String) :
    Report δ Turn :=
  attendant.interpreter.presentAfter (call.move attendant digits)

/-- A failed attempt continues in the fallback state, with the domain value that the
attempt left behind. -/
def outcome (call : LiveCall δ) (attendant : Attendant δ) (digits : Option String) :
    Report δ Turn :=
  match call.attempt attendant digits with
  | ⟨.ok turn, session, log⟩ => ⟨.ok turn, session, log⟩
  | ⟨.error error, session, log⟩ =>
      match attendant.fallback with
      | none => ⟨.error error, session, log⟩
      | some state =>
          let moved := { session with state }
          let shown := attendant.interpreter.present moved
          ⟨shown.result, moved, log ++ shown.log⟩

/-- A turn that fails in the end leaves the call where it was. -/
def turn (call : LiveCall δ) (attendant : Attendant δ) (digits : Option String) : LiveTurn δ :=
  match call.outcome attendant digits with
  | ⟨.ok turn, session, log⟩ => ⟨.ok turn, call.settle session, log⟩
  | ⟨.error error, _, log⟩ => ⟨.error error, call, log⟩

end LiveCall

/-! ## Stored calls -/

/-- Every domain value can be written, and is read as itself. -/
def DomainCodec.RoundTrips {δ : Type} (codec : DomainCodec δ) : Prop :=
  ∀ domain, ∃ data, codec.encode domain = some data ∧ codec.decode data = some domain

/-- The store has a record of exactly the call's place, and none if there is none. -/
def CallStore.Holds {δ : Type} (store : CallStore) (codec : DomainCodec δ)
    (call : LiveCall δ) : Prop :=
  match call.place with
  | none => store.records.get? call.callId = none
  | some place => ∃ record, store.records.get? call.callId = some record ∧
      record.callId = call.callId ∧ record.state = place.state ∧
      codec.encode place.domain = some record.data

structure Request where
  now : Instant
  digits : Option String

namespace Attendant

variable {δ : Type} (attendant : Attendant δ)

def storeAfter (callId : String) (requests : List Request) (store : CallStore) : CallStore :=
  requests.foldl (fun store request =>
    (attendant.handle request.now callId request.digits store).store) store

def callAfter (requests : List Request) (call : LiveCall δ) : LiveCall δ :=
  requests.foldl (fun call request => (call.turn attendant request.digits).call) call

/-- What connects a store to a live call, before each turn. -/
structure Carries (store : CallStore) (call : LiveCall δ) : Prop where
  holds : store.Holds attendant.codec call
  ofCall : (call.session attendant).OfCall attendant.interpreter.flow call.callId
  inOrder : store.outages = {}

variable {attendant : Attendant δ} {store : CallStore} {call : LiveCall δ}

/-! ## One turn -/

theorem presentAfter_session (interpreter : Interpreter δ) (moved : Report δ String) :
    (interpreter.presentAfter moved).session = moved.session := by
  rcases moved with ⟨_ | _, session, log⟩ <;> rfl

theorem render_run (attendant : Attendant δ) (session : Session δ) :
    attendant.render session =
      ⟨(attendant.interpreter.present session).result, session,
        (attendant.interpreter.present session).log⟩ := by
  refine Cycle.query_bind_run fun prompts => ?_
  refine Cycle.query_bind_run fun acceptedKeys => ?_
  exact Cycle.query_bind_run fun gather => rfl

theorem bind_render_run (attendant : Attendant δ) (first : Cycle δ String)
    (session : Session δ) :
    (first >>= fun _ => attendant.render) session =
      attendant.interpreter.presentAfter (first session) := by
  cases moved : first session with
  | mk result changed log =>
      cases result with
      | error error => exact Cycle.bind_of_error moved
      | ok state =>
          rw [Cycle.bind_of_ok moved, attendant.render_run]
          rfl

theorem advance_run (attendant : Attendant δ) (call : LiveCall δ) (digits : Option String) :
    attendant.advance call.place.isNone digits (call.session attendant) =
      call.attempt attendant digits := by
  unfold LiveCall.attempt
  rcases call with ⟨callId, _ | place⟩
  · exact attendant.bind_render_run _ _
  · cases digits with
    | some pressed => exact attendant.bind_render_run _ _
    | none => exact attendant.render_run _

theorem recover_run (attendant : Attendant δ) {state : String}
    (set : attendant.fallback = some state) (error : CycleError) (session : Session δ) :
    attendant.recover error session =
      attendant.render { session with state } := by
  obtain ⟨fallback, -, named⟩ :=
    Interpreter.stateNamed_of_declares (attendant.fallback_declared state set)
  unfold recover
  rw [set]
  exact Cycle.bind_of_ok (by rw [Cycle.query_run, named]; rfl)

theorem play_run (attendant : Attendant δ) (call : LiveCall δ) (digits : Option String) :
    attendant.play call.place.isNone digits (call.session attendant) =
      call.outcome attendant digits := by
  unfold play Cycle.orElse LiveCall.outcome
  rw [attendant.advance_run]
  cases call.attempt attendant digits with
  | mk result session log =>
      cases result with
      | ok turn => rfl
      | error error =>
          cases set : attendant.fallback with
          | none => simp [recover, set]
          | some state => simp only [attendant.recover_run set, attendant.render_run]

/-! ## Declared states -/

theorem attempt_ofCall (built : attendant.interpreter.flow.Built) (digits : Option String)
    (ofCall : (call.session attendant).OfCall attendant.interpreter.flow call.callId) :
    (call.attempt attendant digits).session.OfCall attendant.interpreter.flow call.callId := by
  unfold LiveCall.attempt
  rw [presentAfter_session]
  rcases call with ⟨callId, _ | place⟩
  · exact Interpreter.decide_ofCall built ofCall
  · cases digits with
    | some pressed => exact Interpreter.respond_ofCall built _ ofCall
    | none => exact ofCall

theorem outcome_ofCall (built : attendant.interpreter.flow.Built) (digits : Option String)
    (ofCall : (call.session attendant).OfCall attendant.interpreter.flow call.callId) :
    (call.outcome attendant digits).session.OfCall attendant.interpreter.flow call.callId := by
  have attempted := attempt_ofCall built digits ofCall
  unfold LiveCall.outcome
  split
  · rename_i attempt
    rw [attempt] at attempted
    exact attempted
  · rename_i attempt
    rw [attempt] at attempted
    split
    · exact attempted
    · rename_i state set
      exact ⟨attendant.fallback_declared state set, attempted.sameCall⟩

/-! ## Stored places -/

theorem settle_session {session : Session δ} (sameCall : session.callId = call.callId) :
    (call.settle session).session attendant = session := by
  rcases session with ⟨callId, state, domain⟩
  cases sameCall
  rfl

theorem Carries.record (roundTrips : attendant.codec.RoundTrips) {callId : String}
    {place : Place δ} (carries : attendant.Carries store ⟨callId, some place⟩) :
    ∃ record, store.records.get? callId = some record ∧ record.callId = callId ∧
      record.state = place.state ∧ attendant.codec.encode place.domain = some record.data ∧
      attendant.codec.decode record.data = some place.domain := by
  obtain ⟨record, present, own, sameState, written⟩ := carries.holds
  obtain ⟨data, encodes, decodes⟩ := roundTrips place.domain
  cases encodes.symm.trans written
  exact ⟨record, present, own, sameState, written, decodes⟩

theorem sessionOf_of_carries (roundTrips : attendant.codec.RoundTrips)
    (carries : attendant.Carries store call) :
    ∃ existing, store.load call.callId = .ok existing ∧
      existing.isNone = call.place.isNone ∧
      attendant.sessionOf call.callId existing = .ok (call.session attendant) := by
  refine ⟨store.records.get? call.callId, by rw [CallStore.load, carries.inOrder], ?_⟩
  rcases call with ⟨callId, _ | place⟩
  · have absent : store.records.get? callId = none := carries.holds
    rw [absent]
    exact ⟨rfl, rfl⟩
  · obtain ⟨record, present, -, sameState, -, decodes⟩ := carries.record roundTrips
    rw [present]
    refine ⟨rfl, ?_⟩
    simp only [sessionOf, decodes, sameState]
    have resumed :=
      attendant.interpreter.resume_of_declares callId place.domain carries.ofCall.declared
    exact congrArg (Except.mapError TurnError.cycle) resumed

theorem callId_of_holds {codec : DomainCodec δ} (holds : store.Holds codec call)
    {record : CallRecord} (present : store.records.get? call.callId = some record) :
    record.callId = call.callId := by
  rcases call with ⟨callId, _ | place⟩
  · have absent : store.records.get? callId = none := holds
    rw [absent] at present
    cases present
  · obtain ⟨stored, found, sameCall, -, -⟩ := holds
    cases found.symm.trans present
    exact sameCall

theorem holds_file {codec : DomainCodec δ} (holds : store.Holds codec call)
    {existing : Option CallRecord} (loaded : store.load call.callId = .ok existing)
    {played : Session δ} {data : Json} (written : codec.encode played.domain = some data)
    (now : Instant) :
    (store.file (recordOf call.callId existing played data now)).Holds codec
      (call.settle played) := by
  have found := CallStore.load_of_ok loaded
  have sameCall : (recordOf call.callId existing played data now).callId = call.callId :=
    recordOf_callId (fun record same => callId_of_holds holds (found.trans same)) played data now
  refine ⟨recordOf call.callId existing played data now, ?_, sameCall, ?_, ?_⟩
  · exact (CallStore.get?_file store _ _).trans (if_pos sameCall)
  · cases existing <;> rfl
  · cases existing <;> exact written

theorem handle_of_outcome_error (roundTrips : attendant.codec.RoundTrips)
    (carries : attendant.Carries store call) {digits : Option String} {error : CycleError}
    {played : Session δ} {log : Log}
    (ended : call.outcome attendant digits = ⟨.error error, played, log⟩) (now : Instant) :
    attendant.handle now call.callId digits store = ⟨.error (.cycle error), store, log⟩ := by
  obtain ⟨existing, loaded, isNew, opened⟩ := sessionOf_of_carries roundTrips carries
  have plays := attendant.play_run call digits
  rw [ended] at plays
  simp only [handle, loaded, opened, isNew, plays]

/-- A turn that is answered is always saved. -/
theorem handle_of_outcome_ok (roundTrips : attendant.codec.RoundTrips)
    (carries : attendant.Carries store call) {digits : Option String} {turn : Turn}
    {played : Session δ} {log : Log}
    (ended : call.outcome attendant digits = ⟨.ok turn, played, log⟩) (now : Instant) :
    ∃ existing data, store.load call.callId = .ok existing ∧
      attendant.codec.encode played.domain = some data ∧
      attendant.handle now call.callId digits store =
        ⟨.ok turn, store.file (recordOf call.callId existing played data now), log⟩ := by
  obtain ⟨existing, loaded, isNew, opened⟩ := sessionOf_of_carries roundTrips carries
  have plays := attendant.play_run call digits
  rw [ended] at plays
  obtain ⟨data, written, -⟩ := roundTrips played.domain
  have saves : store.save (recordOf call.callId existing played data now) =
      .ok (store.file (recordOf call.callId existing played data now)) := by
    rw [CallStore.save, carries.inOrder]
  refine ⟨existing, data, loaded, written, ?_⟩
  simp only [handle, loaded, opened, isNew, plays, written, saves]

/-- One turn of the stored call is one turn of the live call. -/
theorem handle_eq_turn (built : attendant.interpreter.flow.Built)
    (roundTrips : attendant.codec.RoundTrips) (carries : attendant.Carries store call)
    (request : Request) :
    let handled := attendant.handle request.now call.callId request.digits store
    let live := call.turn attendant request.digits
    handled.result = live.answer.mapError .cycle ∧ handled.log = live.log ∧
      attendant.Carries handled.store live.call := by
  intro handled live
  have stays := outcome_ofCall built request.digits carries.ofCall
  rcases ended : call.outcome attendant request.digits with ⟨error | turn, played, log⟩
  · have failed : handled = ⟨.error (.cycle error), store, log⟩ :=
      handle_of_outcome_error roundTrips carries ended request.now
    have unchanged : live = ⟨.error error, call, log⟩ := by
      simp only [live, LiveCall.turn, ended]
    rw [failed, unchanged]
    exact ⟨rfl, rfl, carries⟩
  · obtain ⟨existing, data, loaded, written, (answered : handled = _)⟩ :=
      handle_of_outcome_ok roundTrips carries ended request.now
    have settled : live = ⟨.ok turn, call.settle played, log⟩ := by
      simp only [live, LiveCall.turn, ended]
    rw [ended] at stays
    rw [answered, settled]
    refine ⟨rfl, rfl, ?_, ?_, carries.inOrder⟩
    · exact holds_file carries.holds loaded written request.now
    · rw [settle_session stays.sameCall]
      exact stays

theorem turn_callId (attendant : Attendant δ) (call : LiveCall δ) (digits : Option String) :
    (call.turn attendant digits).call.callId = call.callId := by
  unfold LiveCall.turn
  split <;> rfl

theorem turn_of_error {digits : Option String} {error : CycleError}
    (failed : (call.turn attendant digits).answer = .error error) :
    (call.turn attendant digits).call = call := by
  unfold LiveCall.turn at failed ⊢
  split
  · rename_i ended
    rw [ended] at failed
    cases failed
  · rfl

/-! ## All turns -/

theorem carries_start (attendant : Attendant δ) {callId : String} (inOrder : store.outages = {})
    (unknown : store.records.get? callId = none) : attendant.Carries store ⟨callId, none⟩ :=
  ⟨unknown, ⟨Flow.declares_initial _, rfl⟩, inOrder⟩

theorem carries_after (built : attendant.interpreter.flow.Built)
    (roundTrips : attendant.codec.RoundTrips) (requests : List Request)
    (carries : attendant.Carries store call) :
    attendant.Carries (attendant.storeAfter call.callId requests store)
        (attendant.callAfter requests call) ∧
      (attendant.callAfter requests call).callId = call.callId := by
  induction requests generalizing store call with
  | nil => exact ⟨carries, rfl⟩
  | cons request rest ih =>
      have sameCall := attendant.turn_callId call request.digits
      obtain ⟨-, -, carried⟩ := handle_eq_turn built roundTrips carries request
      have later := ih carried
      rw [sameCall] at later
      exact later

/-- Between its turns a call may as well be stored. Whatever was requested before, the
next turn of the stored call gives the answer or error of the live call, after doing the
same things; the record then is the place of the live call. A turn that fails leaves both
as they were. -/
theorem stored_call_follows_live_call (attendant : Attendant δ)
    (built : attendant.interpreter.flow.Built) (roundTrips : attendant.codec.RoundTrips)
    (store : CallStore) (inOrder : store.outages = {}) (callId : String)
    (unknown : store.records.get? callId = none) (requests : List Request) (next : Request) :
    let before := attendant.storeAfter callId requests store
    let call := attendant.callAfter requests ⟨callId, none⟩
    let handled := attendant.handle next.now callId next.digits before
    let live := call.turn attendant next.digits
    handled.result = live.answer.mapError .cycle ∧ handled.log = live.log ∧
      handled.store.Holds attendant.codec live.call ∧
      ∀ error, handled.result = .error error → handled.store = before ∧ live.call = call := by
  intro before call handled live
  obtain ⟨carries, sameCall⟩ := carries_after built roundTrips requests
    (attendant.carries_start inOrder unknown)
  have follows := handle_eq_turn built roundTrips carries next
  rw [sameCall] at follows
  obtain ⟨answers, logs, carried⟩ := follows
  refine ⟨answers, logs, carried.holds, ?_⟩
  intro error failed
  refine ⟨(attendant.handles_handle _ _ _ _).store_of_error failed, ?_⟩
  cases ended : live.answer with
  | ok turn =>
      rw [answers, ended] at failed
      cases failed
  | error error => exact turn_of_error ended

end Attendant

theorem countCodec_roundTrips : countCodec.RoundTrips := fun count =>
  ⟨.integer count, rfl, Json.digitLimit?_eq_some_iff.mpr rfl⟩

theorem ratingAttendant_rated_call_follows_live_call :
    ratingAttendant.interpreter.flow.Built ∧ countCodec.RoundTrips ∧
      CallStore.empty.outages = {} ∧ CallStore.empty.records.get? "call-1" = none ∧
      ∀ rated, rated = ratingAttendant.handle ⟨9, 0⟩ "call-1" (some "42#")
          (ratingAttendant.storeAfter "call-1" [⟨⟨1, 0⟩, some "1"⟩, ⟨⟨5, 0⟩, none⟩] .empty) →
        rated.result = .ok ⟨"call-1", "thanks", ["Thank you"], .empty, ⟨none, none⟩⟩ ∧
          rated.store.Holds countCodec ⟨"call-1", some ⟨"thanks", 3⟩⟩ := by
  refine ⟨ratingFlow_built, countCodec_roundTrips, rfl, rfl, ?_⟩
  rintro rated rfl
  have follows := ratingAttendant.stored_call_follows_live_call ratingFlow_built
    countCodec_roundTrips .empty rfl "call-1" rfl [⟨⟨1, 0⟩, some "1"⟩, ⟨⟨5, 0⟩, none⟩]
    ⟨⟨9, 0⟩, some "42#"⟩
  exact ⟨follows.1, follows.2.2.1⟩

end VoiceMenu
