import Mathlib.Data.List.Induction
import VoiceMenu.Proofs.Call.SeparationProperties

/-! What stands in the records while calls come and go. Every call is at all times stored as
some live call would be, so that its record can be resumed. The record of a call tells of the
turns that were answered since it last hung up: the state of the latest, and the times of the
first and the latest. -/

set_option autoImplicit false

namespace VoiceMenu

/-- The record is filed under the call id, and a turn can go on from it. -/
structure CallRecord.Resumable {δ : Type} (attendant : Attendant δ) (callId : String)
    (record : CallRecord) : Prop where
  own : record.callId = callId
  declared : attendant.interpreter.flow.declares record.state
  decodes : ∃ domain, attendant.codec.decode record.data = some domain

/-! ## Answered turns -/

def Exchange.turnOf? (callId : String) (exchange : Exchange) : Option (Instant × Turn) :=
  match exchange.request, exchange.answer with
  | .handle other request, .ok (some turn) =>
      if other = callId then some (request.now, turn) else none
  | _, _ => none

/-- The answered turns of the call since its last hangup. -/
def turnsOf (callId : String) (exchanges : List Exchange) : List (Instant × Turn) :=
  (afterLast (·.request.ends callId) exchanges).filterMap (·.turnOf? callId)

structure RecordSummary where
  state : String
  createdAt : Instant
  updatedAt : Instant

def CallStore.summary? (store : CallStore) (callId : String) : Option RecordSummary :=
  (store.records.get? callId).map fun record => ⟨record.state, record.createdAt, record.updatedAt⟩

def summaryOf : List (Instant × Turn) → Option RecordSummary
  | [] => none
  | first :: later =>
      let latest := later.getLast?.getD first
      some ⟨latest.2.state, first.1, latest.1⟩

section AfterLast

variable {α : Type} {marks : α → Bool}

theorem afterLast_concat_of_marked (items : List α) {item : α} (marked : marks item = true) :
    afterLast marks (items ++ [item]) = [] := by
  induction items with
  | nil => simp [afterLast, marked]
  | cons first rest ih => simpa [afterLast, marked] using ih

theorem afterLast_concat_of_unmarked (items : List α) {item : α} (unmarked : marks item = false) :
    afterLast marks (items ++ [item]) = afterLast marks items ++ [item] := by
  induction items with
  | nil => simp [afterLast, unmarked]
  | cons first rest ih =>
      have sameMarks : (first :: (rest ++ [item])).any marks = (first :: rest).any marks := by
        simp [unmarked]
      rw [List.cons_append, afterLast, sameMarks, ih, afterLast]
      split <;> rfl

end AfterLast

theorem turnsOf_concat_of_ends {callId : String} (exchanges : List Exchange)
    {exchange : Exchange} (ends : exchange.request.ends callId = true) :
    turnsOf callId (exchanges ++ [exchange]) = [] := by
  have cut : afterLast (·.request.ends callId) (exchanges ++ [exchange]) = [] :=
    afterLast_concat_of_marked exchanges ends
  rw [turnsOf, cut, List.filterMap_nil]

theorem turnsOf_concat {callId : String} (exchanges : List Exchange) {exchange : Exchange}
    (stays : exchange.request.ends callId = false) :
    turnsOf callId (exchanges ++ [exchange]) =
      turnsOf callId exchanges ++ (exchange.turnOf? callId).toList := by
  have extended : afterLast (·.request.ends callId) (exchanges ++ [exchange]) =
      afterLast (·.request.ends callId) exchanges ++ [exchange] :=
    afterLast_concat_of_unmarked exchanges stays
  rw [turnsOf, extended, List.filterMap_append, turnsOf]
  cases turned : exchange.turnOf? callId <;> simp [turned]

theorem turnsOf_concat_of_none {callId : String} (exchanges : List Exchange)
    {exchange : Exchange} (stays : exchange.request.ends callId = false)
    (nothing : exchange.turnOf? callId = none) :
    turnsOf callId (exchanges ++ [exchange]) = turnsOf callId exchanges := by
  rw [turnsOf_concat exchanges stays, nothing, Option.toList_none, List.append_nil]

theorem turnsOf_concat_of_answer (callId : String) (exchanges : List Exchange)
    (request : Request) (turn : Turn) (log : Log) :
    turnsOf callId (exchanges ++ [⟨.handle callId request, .ok (some turn), log⟩]) =
      turnsOf callId exchanges ++ [(request.now, turn)] := by
  rw [turnsOf_concat exchanges rfl, Exchange.turnOf?]
  simp

theorem Exchange.turnOf?_of_other {callId : String} {exchange : Exchange}
    (foreign : exchange.request.ofCall? callId = none) : exchange.turnOf? callId = none := by
  obtain ⟨request, answer, log⟩ := exchange
  cases request with
  | hangup other => rfl
  | handle other request =>
      have different : other ≠ callId := by
        intro same
        simp [CallRequest.ofCall?, same] at foreign
      cases answer with
      | error error => rfl
      | ok answer => cases answer <;> simp [turnOf?, different]

theorem summaryOf_concat (turns : List (Instant × Turn)) (now : Instant) (turn : Turn) :
    summaryOf (turns ++ [(now, turn)]) =
      some ⟨turn.state, ((summaryOf turns).map (·.createdAt)).getD now, now⟩ := by
  cases turns with
  | nil => rfl
  | cons first rest => simp [summaryOf]

namespace Attendant

variable {δ : Type} {attendant : Attendant δ} {store later : CallStore} {call : LiveCall δ}

/-! ## Every call is carried -/

theorem serve_hangup (attendant : Attendant δ) (inOrder : store.outages = {})
    (callId : String) :
    attendant.serve store (.hangup callId) =
      ⟨.ok none, { store with records := store.records.erase callId }, []⟩ := by
  simp only [serve, hangup, CallStore.remove, inOrder]
  rfl

/-- Each call is stored as some live call would be. -/
def CarriesAll (attendant : Attendant δ) (store : CallStore) : Prop :=
  ∀ callId, ∃ place, attendant.Carries store ⟨callId, place⟩

theorem carriesAll_empty (attendant : Attendant δ) : attendant.CarriesAll .empty :=
  fun _ => ⟨none, attendant.carries_start rfl rfl⟩

theorem CarriesAll.filed (all : attendant.CarriesAll store) : store.Filed := by
  intro callId record present
  obtain ⟨place, carries⟩ := all callId
  exact callId_of_holds carries.holds present

theorem CarriesAll.inOrder (all : attendant.CarriesAll store) : store.outages = {} := by
  obtain ⟨place, carries⟩ := all ""
  exact carries.inOrder

theorem Carries.transfer (carries : attendant.Carries store call)
    (same : later.records.get? call.callId = store.records.get? call.callId)
    (inOrder : later.outages = {}) : attendant.Carries later call := by
  refine ⟨?_, carries.ofCall, inOrder⟩
  have holds := carries.holds
  rcases call with ⟨callId, _ | place⟩
  · exact same.trans holds
  · obtain ⟨record, present, rest⟩ := holds
    exact ⟨record, same.trans present, rest⟩

theorem CarriesAll.serve (built : attendant.interpreter.flow.Built)
    (roundTrips : attendant.codec.RoundTrips) (all : attendant.CarriesAll store)
    (request : CallRequest) : attendant.CarriesAll (attendant.serve store request).store := by
  have reliable : store.Reliable := ⟨all.filed, all.inOrder⟩
  have inOrder := (attendant.serve_reliable reliable request).inOrder
  intro callId
  obtain ⟨place, carries⟩ := all callId
  cases ends : request.ends callId with
  | true =>
      have forgotten := attendant.serve_get?_of_ends all.inOrder ends
      exact ⟨none, attendant.carries_start inOrder forgotten⟩
  | false =>
      cases asked : request.ofCall? callId with
      | none =>
          have kept := attendant.serve_get?_of_other all.filed asked ends
          exact ⟨place, carries.transfer kept inOrder⟩
      | some wanted =>
          cases CallRequest.ofCall?_eq_some_iff.mp asked
          obtain ⟨-, -, carried⟩ := handle_eq_turn built roundTrips carries wanted
          have sameCall := attendant.turn_callId ⟨callId, place⟩ wanted.digits
          generalize (LiveCall.turn ⟨callId, place⟩ attendant wanted.digits).call = turned
            at carried sameCall
          obtain ⟨turnedId, turnedPlace⟩ := turned
          cases sameCall
          exact ⟨turnedPlace, carried⟩

theorem CarriesAll.serveAll (built : attendant.interpreter.flow.Built)
    (roundTrips : attendant.codec.RoundTrips) (all : attendant.CarriesAll store)
    (requests : List CallRequest) :
    attendant.CarriesAll (attendant.serveAll requests store) := by
  induction requests generalizing store with
  | nil => exact all
  | cons request rest ih => exact ih (all.serve built roundTrips request)

/-! ## What is recorded -/

theorem present_ok {interpreter : Interpreter δ} {session : Session δ} {turn : Turn}
    (shown : (interpreter.present session).result = .ok turn) :
    turn.callId = session.callId ∧ turn.state = session.state := by
  obtain ⟨prompts, -, shown⟩ := Query.of_bind_ok shown
  obtain ⟨acceptedKeys, -, shown⟩ := Query.of_bind_ok shown
  obtain ⟨gather, -, shown⟩ := Query.of_bind_ok shown
  cases shown
  exact ⟨rfl, rfl⟩

theorem presentAfter_ok {interpreter : Interpreter δ} {moved : Report δ String} {turn : Turn}
    {session : Session δ} {log : Log}
    (shown : interpreter.presentAfter moved = ⟨.ok turn, session, log⟩) :
    (interpreter.present session).result = .ok turn := by
  obtain ⟨_ | _, reached, earlier⟩ := moved
  · cases shown
  · have stays := congrArg Report.session shown
    rw [presentAfter_session] at stays
    cases stays
    exact congrArg Report.result shown

/-- An answered turn is what the session that is stored after it has to say. -/
theorem outcome_ok {digits : Option String} {turn : Turn} {played : Session δ} {log : Log}
    (ended : call.outcome attendant digits = ⟨.ok turn, played, log⟩) :
    (attendant.interpreter.present played).result = .ok turn := by
  unfold LiveCall.outcome at ended
  split at ended
  · rename_i attempted
    cases ended
    exact presentAfter_ok attempted
  · split at ended
    · cases ended
    · have stays := congrArg Report.session ended
      cases stays
      exact congrArg Report.result ended

/-- The record after an answered turn is that of the turn, kept since the call was first
recorded. -/
theorem handle_ok_record (built : attendant.interpreter.flow.Built)
    (roundTrips : attendant.codec.RoundTrips) (carries : attendant.Carries store call)
    {request : Request} {turn : Turn}
    (answered : (attendant.handle request.now call.callId request.digits store).result =
      .ok turn) :
    turn.callId = call.callId ∧
      (attendant.handle request.now call.callId request.digits store).store.summary? call.callId =
        some ⟨turn.state, ((store.summary? call.callId).map (·.createdAt)).getD request.now,
          request.now⟩ := by
  have stays := outcome_ofCall built request.digits carries.ofCall
  rcases ended : call.outcome attendant request.digits with ⟨error | shown, played, log⟩
  · rw [handle_of_outcome_error roundTrips carries ended] at answered
    cases answered
  · obtain ⟨known, data, loaded, -, saved⟩ :=
      handle_of_outcome_ok roundTrips carries ended request.now
    rw [saved] at answered ⊢
    cases answered
    rw [ended] at stays
    obtain ⟨sameCall, sameState⟩ := present_ok (outcome_ok ended)
    have found := CallStore.load_of_ok loaded
    have own : ∀ record, known = some record → record.callId = call.callId :=
      fun record same => callId_of_holds carries.holds (found.trans same)
    refine ⟨sameCall.trans stays.sameCall, ?_⟩
    rw [CallStore.summary?, CallStore.get?_file, if_pos (recordOf_callId own _ _ _),
      CallStore.summary?, found]
    cases known with
    | none => simp [recordOf, CallRecord.new, sameState]
    | some record => simp [recordOf, CallRecord.update, sameState]

/-! ## What can fail -/

theorem present_statesKnown {interpreter : Interpreter δ} {session : Session δ}
    (declared : interpreter.flow.declares session.state) :
    StatesKnown (interpreter.present session).result := by
  refine .bind (Interpreter.prompts_statesKnown declared) fun prompts => ?_
  refine .bind (Interpreter.acceptedKeys_statesKnown declared) fun acceptedKeys => ?_
  exact .bind (Interpreter.gather_statesKnown declared) fun gather => .ok

theorem move_statesKnown (built : attendant.interpreter.flow.Built) (digits : Option String)
    (ofCall : (call.session attendant).OfCall attendant.interpreter.flow call.callId) :
    StatesKnown (call.move attendant digits).result := by
  rcases call with ⟨callId, _ | place⟩
  · exact Interpreter.perform_statesKnown built .decide ofCall
  · cases digits with
    | some pressed =>
        exact Interpreter.perform_statesKnown built (.respond (.ofText pressed)) ofCall
    | none => exact .ok

theorem attempt_statesKnown (built : attendant.interpreter.flow.Built) (digits : Option String)
    (ofCall : (call.session attendant).OfCall attendant.interpreter.flow call.callId) :
    StatesKnown (call.attempt attendant digits).result := by
  have known := move_statesKnown built digits ofCall
  have stays := attempt_ofCall built digits ofCall
  unfold LiveCall.attempt at stays ⊢
  generalize call.move attendant digits = moved at *
  obtain ⟨error | state, session, log⟩ := moved
  · exact known.error
  · exact present_statesKnown stays.declared

theorem outcome_statesKnown (built : attendant.interpreter.flow.Built) (digits : Option String)
    (ofCall : (call.session attendant).OfCall attendant.interpreter.flow call.callId) :
    StatesKnown (call.outcome attendant digits).result := by
  have known := attempt_statesKnown built digits ofCall
  unfold LiveCall.outcome
  split
  · exact .ok
  · rename_i attempted
    rw [attempted] at known
    split
    · exact known
    · rename_i state set
      exact present_statesKnown (attendant.fallback_declared state set)

/-- What is left that can fail is the turn itself, and not for an unknown state. -/
theorem serve_error (built : attendant.interpreter.flow.Built)
    (roundTrips : attendant.codec.RoundTrips) (all : attendant.CarriesAll store)
    {request : CallRequest} {error : TurnError}
    (failed : (attendant.serve store request).result = .error error) :
    ∃ cause, error = .cycle cause ∧ ∀ state flow, cause ≠ .unknownState state flow := by
  cases request with
  | hangup callId =>
      rw [serve_hangup attendant all.inOrder] at failed
      cases failed
  | handle callId request =>
      obtain ⟨place, carries⟩ := all callId
      obtain ⟨answers, -, -⟩ := handle_eq_turn built roundTrips carries request
      have known := outcome_statesKnown built request.digits carries.ofCall
      simp only [serve, Handled.map, answers, LiveCall.turn] at failed
      generalize LiveCall.outcome ⟨callId, place⟩ attendant request.digits = ended at *
      obtain ⟨cause | turn, session, log⟩ := ended
      · cases failed
        exact ⟨cause, rfl, fun state flow same => known state flow (congrArg _ same)⟩
      · cases failed

/-! ## All requests -/

theorem serveAll_concat (attendant : Attendant δ) (requests : List CallRequest)
    (request : CallRequest) (store : CallStore) :
    attendant.serveAll (requests ++ [request]) store =
      (attendant.serve (attendant.serveAll requests store) request).store := by
  rw [serveAll, List.foldl_append]
  rfl

theorem exchanges_concat (attendant : Attendant δ) (requests : List CallRequest)
    (request : CallRequest) (store : CallStore) :
    let served := attendant.serve (attendant.serveAll requests store) request
    attendant.exchanges (requests ++ [request]) store =
      attendant.exchanges requests store ++ [⟨request, served.result, served.log⟩] := by
  induction requests generalizing store with
  | nil => rfl
  | cons first rest ih => exact congrArg (_ :: ·) (ih _)

theorem exchanges_error (built : attendant.interpreter.flow.Built)
    (roundTrips : attendant.codec.RoundTrips) (all : attendant.CarriesAll store)
    {requests : List CallRequest} {exchange : Exchange}
    (member : exchange ∈ attendant.exchanges requests store) {error : TurnError}
    (failed : exchange.answer = .error error) :
    ∃ cause, error = .cycle cause ∧ ∀ state flow, cause ≠ .unknownState state flow := by
  induction requests generalizing store with
  | nil => cases member
  | cons request rest ih =>
      rcases List.mem_cons.mp member with same | later
      · subst same
        exact serve_error built roundTrips all failed
      · exact ih (all.serve built roundTrips request) later

/-- What one request does to the record of a call, and to the turns that it has had. -/
inductive Serves (attendant : Attendant δ) (store : CallStore) (callId : String)
    (request : CallRequest) (turns : List (Instant × Turn)) : List (Instant × Turn) → Prop where
  | forgotten : (attendant.serve store request).store.records.get? callId = none →
      Serves attendant store callId request turns []
  | kept : (attendant.serve store request).store.records.get? callId =
        store.records.get? callId →
      Serves attendant store callId request turns turns
  | answered {wanted : Request} {turn : Turn} : request = .handle callId wanted →
      (attendant.handle wanted.now callId wanted.digits store).result = .ok turn →
      Serves attendant store callId request turns (turns ++ [(wanted.now, turn)])

theorem serves_serve (all : attendant.CarriesAll store) (callId : String)
    (exchanges : List Exchange) (request : CallRequest) :
    let served := attendant.serve store request
    attendant.Serves store callId request (turnsOf callId exchanges)
      (turnsOf callId (exchanges ++ [⟨request, served.result, served.log⟩])) := by
  intro served
  cases ends : request.ends callId with
  | true =>
      rw [turnsOf_concat_of_ends exchanges ends]
      exact .forgotten (attendant.serve_get?_of_ends all.inOrder ends)
  | false =>
      cases asked : request.ofCall? callId with
      | none =>
          rw [turnsOf_concat_of_none exchanges ends (Exchange.turnOf?_of_other asked)]
          exact .kept (attendant.serve_get?_of_other all.filed asked ends)
      | some wanted =>
          cases CallRequest.ofCall?_eq_some_iff.mp asked
          cases answered : (attendant.handle wanted.now callId wanted.digits store).result with
          | error error =>
              have handles := attendant.handles_handle wanted.now callId wanted.digits store
              have unchanged : served.store = store := handles.store_of_error answered
              have failed : served.result = .error error := congrArg (Except.map some) answered
              rw [turnsOf_concat_of_none exchanges ends (by rw [failed]; rfl)]
              exact .kept (congrArg (·.records.get? callId) unchanged)
          | ok turn =>
              have result : served.result = .ok (some turn) :=
                congrArg (Except.map some) answered
              rw [result, turnsOf_concat_of_answer]
              exact .answered rfl answered

/-- One request changes what is recorded of a call as it changes the turns of the call. -/
theorem summary?_serve (built : attendant.interpreter.flow.Built)
    (roundTrips : attendant.codec.RoundTrips) (all : attendant.CarriesAll store)
    {callId : String} {request : CallRequest} {turns after : List (Instant × Turn)}
    (told : store.summary? callId = summaryOf turns)
    (serves : attendant.Serves store callId request turns after) :
    (attendant.serve store request).store.summary? callId = summaryOf after := by
  cases serves with
  | forgotten forgotten =>
      rw [CallStore.summary?, forgotten]
      rfl
  | kept kept =>
      rw [CallStore.summary?, kept]
      exact told
  | @answered wanted turn own answered =>
      subst own
      obtain ⟨place, carries⟩ := all callId
      obtain ⟨-, recorded⟩ := handle_ok_record built roundTrips carries answered
      rw [summaryOf_concat, ← told]
      exact recorded

theorem summary?_serveAll (built : attendant.interpreter.flow.Built)
    (roundTrips : attendant.codec.RoundTrips) (requests : List CallRequest) (callId : String) :
    (attendant.serveAll requests .empty).summary? callId =
      summaryOf (turnsOf callId (attendant.exchanges requests .empty)) := by
  induction requests using List.reverseRecOn with
  | nil => rfl
  | append_singleton requests request ih =>
      have all := (attendant.carriesAll_empty).serveAll built roundTrips requests
      rw [serveAll_concat, exchanges_concat]
      exact summary?_serve built roundTrips all ih (serves_serve all callId _ request)

theorem Carries.resumable (roundTrips : attendant.codec.RoundTrips)
    (carries : attendant.Carries store call) {record : CallRecord}
    (present : store.records.get? call.callId = some record) :
    record.Resumable attendant call.callId := by
  rcases call with ⟨callId, _ | place⟩
  · cases present.symm.trans carries.holds
  · obtain ⟨stored, found, own, sameState, -, decodes⟩ := carries.record roundTrips
    cases found.symm.trans present
    exact ⟨own, sameState ▸ carries.ofCall.declared, place.domain, decodes⟩

/-- Whatever was requested from the start, every record can be resumed, and nothing fails but
turns, and those not for an unknown state. The record of a call is in the state of its latest
answered turn, was created at the first one since the last hangup, and updated at the latest. -/
theorem records_tell_the_turns (attendant : Attendant δ)
    (built : attendant.interpreter.flow.Built) (roundTrips : attendant.codec.RoundTrips)
    (requests : List CallRequest) :
    let store := attendant.serveAll requests .empty
    let exchanges := attendant.exchanges requests .empty
    (∀ callId record, store.records.get? callId = some record →
      record.Resumable attendant callId) ∧
    (∀ exchange ∈ exchanges, ∀ error, exchange.answer = .error error →
      ∃ cause, error = .cycle cause ∧ ∀ state flow, cause ≠ .unknownState state flow) ∧
    (∀ callId (request : Request) turn,
      let handled := attendant.handle request.now callId request.digits store
      handled.result = .ok turn → turn.callId = callId ∧
        ∃ record, handled.store.records.get? callId = some record ∧ record.state = turn.state) ∧
    ∀ callId, store.summary? callId = summaryOf (turnsOf callId exchanges) := by
  intro store exchanges
  have start := attendant.carriesAll_empty
  have all : attendant.CarriesAll store := start.serveAll built roundTrips requests
  refine ⟨fun callId record present => ?_, fun exchange member error failed => ?_,
    fun callId request turn answered => ?_, summary?_serveAll built roundTrips requests⟩
  · obtain ⟨place, carries⟩ := all callId
    exact carries.resumable roundTrips present
  · exact exchanges_error built roundTrips start member failed
  · obtain ⟨place, carries⟩ := all callId
    obtain ⟨sameCall, recorded⟩ := handle_ok_record built roundTrips carries answered
    obtain ⟨record, present, shown⟩ := Option.map_eq_some_iff.mp recorded
    exact ⟨sameCall, record, present, congrArg RecordSummary.state shown⟩

end Attendant

theorem ratingAttendant_busy_hour_is_recorded :
    ratingAttendant.interpreter.flow.Built ∧ ratingAttendant.codec.RoundTrips ∧
      (ratingAttendant.serveAll busyHour .empty).summary? "call-1" =
        some ⟨"thanks", ⟨5, 0⟩, ⟨6, 0⟩⟩ ∧
      ∀ record, (ratingAttendant.serveAll busyHour .empty).records.get? "call-1" = some record →
        record.Resumable ratingAttendant "call-1" := by
  have told := ratingAttendant.records_tell_the_turns ratingFlow_built countCodec_roundTrips
    busyHour
  exact ⟨ratingFlow_built, countCodec_roundTrips, (told.2.2.2 "call-1").trans rfl,
    told.1 "call-1"⟩

end VoiceMenu
