import VoiceMenu.Proofs.Call.AcceptedKeysProperties
import VoiceMenu.Proofs.Interpreter.IdleProperties

/-! A call that gets nothing to respond to repeats its last answer. What is stored of a call
is at all times what its latest answer was rendered from, whatever failed and whoever called
in between. -/

set_option autoImplicit false

namespace VoiceMenu

/-! ## Rendering -/

namespace Interpreter

variable {δ : Type}

theorem onlyAsks_inquiry (interpreter : Interpreter δ) (domain : δ) :
    interpreter.Inquiry domain fun query => query.log.OnlyAsks where
  pure _ := .nil
  refusal _ := .nil
  asking name := fun activity member => ⟨name, List.mem_singleton.mp member⟩
  bind {_ _ first next} asks asksNext := by
    cases answered : first.result with
    | error error =>
        rw [Query.bind_of_error answered]
        exact asks
    | ok value =>
        rw [Query.bind_of_ok answered]
        exact Log.OnlyAsks.append asks (asksNext value)

theorem present_onlyAsks (interpreter : Interpreter δ) (session : Session δ)
    (declared : interpreter.flow.declares session.state) :
    (interpreter.present session).log.OnlyAsks := by
  have inquiry := interpreter.onlyAsks_inquiry session.domain
  refine inquiry.bind (inquiry.prompts declared) fun prompts => ?_
  refine inquiry.bind Log.OnlyAsks.nil fun accepted => ?_
  exact inquiry.bind (inquiry.gather declared) fun gathered => .nil

end Interpreter

/-! ## The latest answer -/

/-- The answer of the call's latest turn that got one, since its last hangup. -/
def latestTurn? (callId : String) (exchanges : List Exchange) : Option Turn :=
  (turnsOf callId exchanges).getLast?.map Prod.snd

namespace Attendant

variable {δ : Type} {attendant : Attendant δ} {store later : CallStore} {callId : String}
variable {latest : Option Turn} {turn : Turn}

/-- Nothing is stored of the call before its first answer. After that the call is where its
latest answer can be given again. -/
inductive Shows (attendant : Attendant δ) (store : CallStore) (callId : String) :
    Option Turn → Prop where
  | unanswered : attendant.Carries store ⟨callId, none⟩ → Shows attendant store callId none
  | answered {place : Place δ} {turn : Turn} :
      attendant.Carries store ⟨callId, some place⟩ →
      (attendant.interpreter.present ⟨callId, place.state, place.domain⟩).result = .ok turn →
      Shows attendant store callId (some turn)

theorem Shows.carries (shows : attendant.Shows store callId latest) :
    ∃ place, attendant.Carries store ⟨callId, place⟩ := by
  cases shows with
  | unanswered carries => exact ⟨none, carries⟩
  | @answered place _ carries _ => exact ⟨some place, carries⟩

theorem Shows.transfer (shows : attendant.Shows store callId latest)
    (same : later.records.get? callId = store.records.get? callId)
    (inOrder : later.outages = {}) : attendant.Shows later callId latest := by
  cases shows with
  | unanswered carries => exact .unanswered (carries.transfer same inOrder)
  | answered carries shown => exact .answered (carries.transfer same inOrder) shown

theorem Shows.handle_ok (built : attendant.interpreter.flow.Built)
    (roundTrips : attendant.codec.RoundTrips) (shows : attendant.Shows store callId latest)
    {request : Request}
    (answered : (attendant.handle request.now callId request.digits store).result = .ok turn) :
    attendant.Shows (attendant.handle request.now callId request.digits store).store callId
      (some turn) := by
  obtain ⟨place, carries⟩ := shows.carries
  obtain ⟨answers, -, carried⟩ := handle_eq_turn built roundTrips carries request
  have stays := outcome_ofCall built request.digits carries.ofCall
  simp only [LiveCall.turn] at answers carried
  rcases ended : LiveCall.outcome ⟨callId, place⟩ attendant request.digits with
    ⟨error | shown, played, log⟩
  · rw [ended] at answers
    cases answers.symm.trans answered
  · rw [ended] at answers carried stays
    cases answers.symm.trans answered
    have shown : (attendant.interpreter.present played).result = .ok turn := outcome_ok ended
    have same : LiveCall.session (LiveCall.settle ⟨callId, place⟩ played) attendant = played :=
      settle_session stays.sameCall
    rw [← same] at shown
    exact .answered carried shown

/-- One request changes what is shown as it changes what the latest answer is. -/
theorem Shows.serve (built : attendant.interpreter.flow.Built)
    (roundTrips : attendant.codec.RoundTrips) (all : attendant.CarriesAll store)
    {request : CallRequest} {turns after : List (Instant × Turn)}
    (shows : attendant.Shows store callId (turns.getLast?.map Prod.snd))
    (serves : attendant.Serves store callId request turns after) :
    attendant.Shows (attendant.serve store request).store callId
      (after.getLast?.map Prod.snd) := by
  have inOrder := (attendant.serve_reliable ⟨all.filed, all.inOrder⟩ request).inOrder
  cases serves with
  | forgotten forgotten => exact .unanswered (attendant.carries_start inOrder forgotten)
  | kept kept => exact shows.transfer kept inOrder
  | answered own answered =>
      subst own
      rw [List.getLast?_concat]
      exact shows.handle_ok built roundTrips answered

theorem shows_serveAll (built : attendant.interpreter.flow.Built)
    (roundTrips : attendant.codec.RoundTrips) (requests : List CallRequest) (callId : String) :
    attendant.Shows (attendant.serveAll requests .empty) callId
      (latestTurn? callId (attendant.exchanges requests .empty)) := by
  induction requests using List.reverseRecOn with
  | nil => exact .unanswered (attendant.carries_start rfl rfl)
  | append_singleton requests request ih =>
      have all := (attendant.carriesAll_empty).serveAll built roundTrips requests
      rw [serveAll_concat, exchanges_concat]
      exact ih.serve built roundTrips all (serves_serve all callId _ request)

/-! ## Idle requests -/

/-- Nothing was pressed, or nothing that a key is bound to where the call is recorded. -/
inductive Ignores (attendant : Attendant δ) (record : CallRecord) : Option String → Prop where
  | silence : Ignores attendant record none
  | unbound {pressed : String} {state : State} {domain : δ} :
      attendant.interpreter.flow.state? record.state = some state →
      attendant.codec.decode record.data = some domain →
      (∀ binding, (attendant.interpreter.resolveKey state (.ofText pressed) domain).result ≠
        .ok (some binding)) →
      Ignores attendant record (some pressed)

end Attendant

/-- The turn is given, texts were asked for it and nothing else was done, and the record has
the time of the request now. -/
structure Handled.Gives (handled : Handled Turn) (turn : Turn) (store : CallStore)
    (record : CallRecord) (now : Instant) : Prop where
  answers : handled.result = .ok turn
  files : handled.store = store.file { record with updatedAt := now }
  onlyAsks : handled.log.OnlyAsks

namespace Attendant

variable {δ : Type} {attendant : Attendant δ} {store : CallStore} {callId : String}
variable {turn : Turn} {place : Place δ} {record : CallRecord} {digits : Option String}

theorem move_of_ignores (callId : String) (built : attendant.interpreter.flow.Built)
    (decodes : attendant.codec.decode record.data = some place.domain)
    (sameState : record.state = place.state) (ignores : attendant.Ignores record digits) :
    ∃ state log, LiveCall.move ⟨callId, some place⟩ attendant digits =
        ⟨.ok state, ⟨callId, place.state, place.domain⟩, log⟩ ∧ log.OnlyAsks := by
  cases ignores with
  | silence => exact ⟨place.state, [], rfl, .nil⟩
  | @unbound pressed state domain found decoded unbound =>
      cases decoded.symm.trans decodes
      rw [sameState] at found
      have idle : attendant.interpreter.Idle ⟨callId, place.state, place.domain⟩
          (.ofText pressed) := (Interpreter.idle_iff found).mpr unbound
      obtain ⟨kept, asks⟩ := Interpreter.respond_of_idle built found idle
      obtain ⟨reached, responded⟩ :=
        attendant.interpreter.respond_result (.ofText pressed) ⟨callId, place.state, place.domain⟩
      rcases moved : attendant.interpreter.respond (.ofText pressed)
        ⟨callId, place.state, place.domain⟩ with ⟨result, session, log⟩
      rw [moved] at kept asks responded
      cases kept
      cases responded
      exact ⟨reached, log, moved, asks.onlyAsks⟩

theorem outcome_of_ignores (built : attendant.interpreter.flow.Built)
    (decodes : attendant.codec.decode record.data = some place.domain)
    (sameState : record.state = place.state)
    (declared : attendant.interpreter.flow.declares place.state)
    (shown : (attendant.interpreter.present ⟨callId, place.state, place.domain⟩).result = .ok turn)
    (ignores : attendant.Ignores record digits) :
    ∃ log, LiveCall.outcome ⟨callId, some place⟩ attendant digits =
        ⟨.ok turn, ⟨callId, place.state, place.domain⟩, log⟩ ∧ log.OnlyAsks := by
  obtain ⟨state, log, moved, asks⟩ := move_of_ignores callId built decodes sameState ignores
  have asksShown :=
    attendant.interpreter.present_onlyAsks ⟨callId, place.state, place.domain⟩ declared
  refine ⟨_, ?_, asks.append asksShown⟩
  simp only [LiveCall.outcome, LiveCall.attempt, moved, Interpreter.presentAfter, shown]

/-- A call that is stored where its latest answer can be given again gives it to every request
that it ignores. -/
theorem Shows.gives (built : attendant.interpreter.flow.Built)
    (roundTrips : attendant.codec.RoundTrips) (shows : attendant.Shows store callId (some turn)) :
    ∃ record, store.records.get? callId = some record ∧ record.callId = callId ∧
      record.state = turn.state ∧ ∀ (now : Instant) (digits : Option String),
        attendant.Ignores record digits →
        (attendant.handle now callId digits store).Gives turn store record now := by
  cases shows with
  | @answered place _ carries shown =>
      obtain ⟨record, present, own, sameState, encodes, decodes⟩ := carries.record roundTrips
      obtain ⟨-, shownState⟩ := present_ok shown
      refine ⟨record, present, own, sameState.trans shownState.symm, fun now digits ignores => ?_⟩
      obtain ⟨log, ended, asks⟩ :=
        outcome_of_ignores built decodes sameState carries.ofCall.declared shown ignores
      obtain ⟨existing, data, loaded, encodesAgain, handled⟩ :=
        handle_of_outcome_ok roundTrips carries ended now
      cases (CallStore.load_of_ok loaded).symm.trans present
      cases encodesAgain.symm.trans encodes
      rw [handled]
      refine ⟨rfl, ?_, asks⟩
      rw [recordOf, CallRecord.update, ← sameState]

/-! ## Final turns -/

theorem ignores_of_isFinal (built : attendant.interpreter.flow.Built)
    (roundTrips : attendant.codec.RoundTrips) (shows : attendant.Shows store callId (some turn))
    (final : turn.isFinal = true) (present : store.records.get? callId = some record)
    (digits : Option String) : attendant.Ignores record digits := by
  cases shows with
  | @answered place _ carries shown =>
      obtain ⟨stored, found, -, sameState, -, decodes⟩ := carries.record roundTrips
      cases found.symm.trans present
      obtain ⟨-, shownState⟩ := present_ok shown
      obtain ⟨state, declared, listed⟩ := Interpreter.listsKeys_of_present built shown
      rw [shownState, ← sameState] at declared
      have keyless : state.keys = [] := listed.empty_iff.mp final
      cases digits with
      | none => exact .silence
      | some pressed =>
          refine .unbound declared decodes fun binding bound => ?_
          have member := attendant.interpreter.mem_of_resolveKey bound
          rw [keyless] at member
          cases member

theorem Shows.answers_of_isFinal (built : attendant.interpreter.flow.Built)
    (roundTrips : attendant.codec.RoundTrips) (shows : attendant.Shows store callId (some turn))
    (final : turn.isFinal = true) (now : Instant) (digits : Option String) :
    let handled := attendant.handle now callId digits store
    handled.result = .ok turn ∧ handled.log.OnlyAsks := by
  obtain ⟨record, present, -, -, gives⟩ := shows.gives built roundTrips
  have given := gives now digits
    (ignores_of_isFinal built roundTrips shows final present digits)
  exact ⟨given.answers, given.onlyAsks⟩

/-- After a final answer nothing but a hangup makes a difference to the call. -/
theorem Shows.exchanges_of_isFinal (built : attendant.interpreter.flow.Built)
    (roundTrips : attendant.codec.RoundTrips) (all : attendant.CarriesAll store)
    (shows : attendant.Shows store callId (some turn)) (final : turn.isFinal = true)
    {requests : List CallRequest} (stays : ∀ request ∈ requests, request.ends callId = false) :
    ∀ exchange ∈ attendant.exchanges requests store, ∀ next,
      exchange.request = .handle callId next →
        exchange.answer = .ok (some turn) ∧ exchange.log.OnlyAsks := by
  induction requests generalizing store with
  | nil => intro exchange member; cases member
  | cons request rest ih =>
      have staysLater := fun later member => stays later (List.mem_cons_of_mem request member)
      have showsLater : attendant.Shows (attendant.serve store request).store callId
          (some turn) := by
        cases asked : request.ofCall? callId with
        | none =>
            have kept := attendant.serve_get?_of_other all.filed asked
              (stays request List.mem_cons_self)
            exact shows.transfer kept (all.serve built roundTrips request).inOrder
        | some wanted =>
            cases CallRequest.ofCall?_eq_some_iff.mp asked
            obtain ⟨answered, -⟩ :=
              shows.answers_of_isFinal built roundTrips final wanted.now wanted.digits
            exact shows.handle_ok built roundTrips answered
      intro exchange member next asks
      cases member with
      | head =>
          cases asks
          obtain ⟨answered, onlyAsks⟩ :=
            shows.answers_of_isFinal built roundTrips final next.now next.digits
          exact ⟨congrArg (Except.map some) answered, onlyAsks⟩
      | tail _ inRest =>
          exact ih (all.serve built roundTrips request) showsLater staysLater exchange inRest
            next asks

/-- Whatever was requested from the start, a call that gets nothing its state responds to gets
its latest answer again, and only the time of its record changes. A final answer, which takes
no keys, is given to all that is pressed until the call hangs up. In both cases texts and limits
are asked for, but no decider and no side effect is called. -/
theorem idle_requests_repeat_latest_turn (attendant : Attendant δ)
    (built : attendant.interpreter.flow.Built) (roundTrips : attendant.codec.RoundTrips)
    (requests : List CallRequest) (callId : String)
    (latest : latestTurn? callId (attendant.exchanges requests .empty) = some turn) :
    let store := attendant.serveAll requests .empty
    (∃ record, store.records.get? callId = some record ∧ record.callId = callId ∧
      record.state = turn.state ∧ ∀ next : Request, attendant.Ignores record next.digits →
        (attendant.handle next.now callId next.digits store).Gives turn store record next.now) ∧
    (turn.isFinal = true → ∀ later : List CallRequest,
      (∀ request ∈ later, request.ends callId = false) →
      ∀ exchange ∈ attendant.exchanges later store, ∀ next,
        exchange.request = .handle callId next →
          exchange.answer = .ok (some turn) ∧ exchange.log.OnlyAsks) := by
  intro store
  have all : attendant.CarriesAll store :=
    (attendant.carriesAll_empty).serveAll built roundTrips requests
  have shows := shows_serveAll built roundTrips requests callId
  rw [latest] at shows
  constructor
  · obtain ⟨record, present, own, sameState, gives⟩ := shows.gives built roundTrips
    exact ⟨record, present, own, sameState,
      fun next ignores => gives next.now next.digits ignores⟩
  · exact fun final later stays => shows.exchanges_of_isFinal built roundTrips all final stays

end Attendant

def ratingFarewell : Turn := ⟨"call-1", "thanks", ["Thank you"], .empty, ⟨none, none⟩⟩

theorem ratingAttendant_repeats_itself :
    ratingAttendant.interpreter.flow.Built ∧ ratingAttendant.codec.RoundTrips ∧
      latestTurn? "call-1" (ratingAttendant.exchanges (busyHour.take 2) .empty) =
        some ratingGreeting ∧
      (ratingAttendant.handle ⟨3, 0⟩ "call-1" (some "123")
        (ratingAttendant.serveAll (busyHour.take 2) .empty)).result = .ok ratingGreeting ∧
      latestTurn? "call-1" (ratingAttendant.exchanges busyHour .empty) = some ratingFarewell ∧
      ∀ exchange ∈ ratingAttendant.exchanges [.handle "call-1" ⟨⟨7, 0⟩, some "42#"⟩]
          (ratingAttendant.serveAll busyHour .empty),
        exchange.answer = .ok (some ratingFarewell) := by
  have greeted : latestTurn? "call-1" (ratingAttendant.exchanges (busyHour.take 2) .empty) =
      some ratingGreeting := rfl
  have farewell : latestTurn? "call-1" (ratingAttendant.exchanges busyHour .empty) =
      some ratingFarewell := rfl
  refine ⟨ratingFlow_built, countCodec_roundTrips, greeted, ?_, farewell, ?_⟩
  · obtain ⟨⟨record, present, -, -, gives⟩, -⟩ :=
      ratingAttendant.idle_requests_repeat_latest_turn ratingFlow_built countCodec_roundTrips
        (busyHour.take 2) "call-1" greeted
    have known : some (CallRecord.new "call-1" "hello" (.integer 0) ⟨1, 0⟩) = some record :=
      present
    cases known
    have tooLong : ratingAttendant.interpreter.resolveKey ratingAttendant.interpreter.flow.initial
        (.ofText "123") 0 = ⟨.ok none, [.asked "most"]⟩ := rfl
    have ignores : ratingAttendant.Ignores (.new "call-1" "hello" (.integer 0) ⟨1, 0⟩)
        (some "123") :=
      .unbound rfl rfl fun binding bound => by rw [tooLong] at bound; cases bound
    exact (gives ⟨⟨3, 0⟩, some "123"⟩ ignores).answers
  · obtain ⟨-, final⟩ :=
      ratingAttendant.idle_requests_repeat_latest_turn ratingFlow_built countCodec_roundTrips
        busyHour "call-1" farewell
    have stays : ∀ request ∈ [CallRequest.handle "call-1" ⟨⟨7, 0⟩, some "42#"⟩],
        request.ends "call-1" = false := by simp [CallRequest.ends]
    intro exchange member
    cases List.mem_singleton.mp member
    exact (final rfl _ stays _ member _ rfl).1

end VoiceMenu
