import VoiceMenu.Proofs.Call.RecordProperties

/-! A fallback state that needs no callback keeps every request from failing, whatever the
callbacks do. The turn itself may fail in many ways, but then the call is in that state, and
what is said and taken as input there is known from the flow alone. -/

set_option autoImplicit false

namespace VoiceMenu

/-- Neither what the state says nor how much input it takes depends on a callback. -/
structure State.Harmless (state : State) : Prop where
  texts : ∀ fragment ∈ state.prompts, ∃ words, fragment = .text words
  limits : ∀ binding ∈ state.keys, ∀ name, binding.pattern ≠ .wildcard (.callback name)

/-- A request, and how the callbacks behave when it comes. -/
structure Occasion (δ : Type) where
  request : CallRequest
  resolver : Resolver δ

/-! ## Harmless states -/

namespace Interpreter

variable {δ : Type}

theorem linesOf_of_texts (interpreter : Interpreter δ) (domain : δ) {fragments : List Fragment}
    (texts : ∀ fragment ∈ fragments, ∃ words, fragment = .text words) :
    ∃ lines, interpreter.linesOf domain fragments = ⟨.ok lines, []⟩ := by
  induction fragments with
  | nil => exact ⟨[], rfl⟩
  | cons fragment rest ih =>
      obtain ⟨words, rfl⟩ := texts fragment List.mem_cons_self
      obtain ⟨lines, spoken⟩ := ih fun later inRest => texts later (.tail _ inRest)
      refine ⟨interpreter.flow.translate words :: lines, ?_⟩
      rw [linesOf, spoken]
      rfl

theorem mostDigits_of_fixed (interpreter : Interpreter δ) (domain : δ) {keys : List KeyBinding}
    (limits : ∀ binding ∈ keys, ∀ name, binding.pattern ≠ .wildcard (.callback name)) :
    ∃ most, interpreter.mostDigits domain keys = ⟨.ok most, []⟩ := by
  induction keys with
  | nil => exact ⟨0, rfl⟩
  | cons binding rest ih =>
      have fixed := limits binding List.mem_cons_self
      obtain ⟨most, counted⟩ := ih fun later inRest => limits later (.tail _ inRest)
      rw [mostDigits, counted]
      cases form : binding.pattern with
      | key char => exact ⟨max 1 most, rfl⟩
      | sequence keys => exact ⟨max 0 most, rfl⟩
      | collector => exact ⟨max 0 most, rfl⟩
      | wildcard limit =>
          cases limit with
          | fixed own => exact ⟨max own most, rfl⟩
          | callback name => exact absurd form (fixed name)

theorem gather_of_harmless (interpreter : Interpreter δ) {session : Session δ} {state : State}
    (named : interpreter.stateNamed session.state = .ok state) (harmless : state.Harmless) :
    ∃ gather, interpreter.gather session = ⟨.ok gather, []⟩ := by
  obtain ⟨most, counted⟩ := interpreter.mostDigits_of_fixed session.domain harmless.limits
  rw [gather, named, Query.bind_of_ok rfl, Query.bind_of_ok (congrArg Query.result counted),
    counted]
  split
  · exact ⟨_, rfl⟩
  · exact ⟨_, rfl⟩

/-- A harmless state has something to say whatever the callbacks do, and asks none of them. -/
theorem present_of_harmless (interpreter : Interpreter δ) (session : Session δ) {state : State}
    (found : interpreter.flow.state? session.state = some state) (harmless : state.Harmless) :
    ∃ turn, interpreter.present session = ⟨.ok turn, []⟩ := by
  have named : interpreter.stateNamed session.state = .ok state := by simp [stateNamed, found]
  obtain ⟨lines, spoken⟩ := interpreter.linesOf_of_texts session.domain harmless.texts
  obtain ⟨gathered, gathers⟩ := interpreter.gather_of_harmless named harmless
  have prompted : interpreter.prompts session = ⟨.ok lines, []⟩ := by
    rw [prompts, named]
    exact spoken
  rw [present, prompted, acceptedKeys, named, gathers]
  exact ⟨_, rfl⟩

end Interpreter

namespace Attendant

variable {δ : Type} {attendant : Attendant δ} {store : CallStore}

/-- Calls whose turn fails go on in a harmless state. -/
def FallsSoftly (attendant : Attendant δ) : Prop :=
  ∃ name state, attendant.fallback = some name ∧
    attendant.interpreter.flow.state? name = some state ∧ state.Harmless

/-- A fallback is accepted only if it is declared, and nothing else is changed. -/
theorem withFallback_ok {name : String} {guarded : Attendant δ}
    (accepted : attendant.withFallback name = .ok guarded) :
    attendant.interpreter.flow.declares name ∧ guarded.interpreter = attendant.interpreter ∧
      guarded.codec = attendant.codec ∧ guarded.fallback = some name := by
  unfold withFallback at accepted
  split at accepted
  · rename_i declared
    cases accepted
    exact ⟨declared, rfl, rfl, rfl⟩
  · cases accepted

/-! ## One request -/

theorem outcome_ok_of_fallsSoftly (falls : attendant.FallsSoftly) (call : LiveCall δ)
    (digits : Option String) :
    ∃ turn session log, call.outcome attendant digits = ⟨.ok turn, session, log⟩ := by
  obtain ⟨name, state, set, found, harmless⟩ := falls
  unfold LiveCall.outcome
  rcases call.attempt attendant digits with ⟨error | turn, session, log⟩
  · obtain ⟨turn, presented⟩ :=
      attendant.interpreter.present_of_harmless { session with state := name } found harmless
    simp only [set, presented]
    exact ⟨turn, _, _, rfl⟩
  · exact ⟨turn, session, log, rfl⟩

theorem serve_ok_of_fallsSoftly (built : attendant.interpreter.flow.Built)
    (roundTrips : attendant.codec.RoundTrips) (falls : attendant.FallsSoftly)
    (all : attendant.CarriesAll store) (request : CallRequest) :
    ∃ answer, (attendant.serve store request).result = .ok answer := by
  cases request with
  | hangup callId => exact ⟨none, by rw [serve_hangup attendant all.inOrder]⟩
  | handle callId request =>
      obtain ⟨place, carries⟩ := all callId
      obtain ⟨answers, -, -⟩ := handle_eq_turn built roundTrips carries request
      obtain ⟨turn, session, log, ended⟩ :=
        outcome_ok_of_fallsSoftly falls ⟨callId, place⟩ request.digits
      refine ⟨some turn, ?_⟩
      rw [serve, Handled.map, answers, LiveCall.turn, ended]
      rfl

/-! ## All requests, whatever the callbacks do -/

def withResolver (attendant : Attendant δ) (resolver : Resolver δ) : Attendant δ :=
  { attendant with interpreter := attendant.interpreter.withResolver resolver }

def exchangesOn (attendant : Attendant δ) : List (Occasion δ) → CallStore → List Exchange
  | [], _ => []
  | occasion :: rest, store =>
      let served := (attendant.withResolver occasion.resolver).serve store occasion.request
      ⟨occasion.request, served.result, served.log⟩ :: attendant.exchangesOn rest served.store

theorem exchangesOn_own (attendant : Attendant δ) (requests : List CallRequest)
    (store : CallStore) :
    attendant.exchangesOn (requests.map (⟨·, attendant.interpreter.resolver⟩)) store =
      attendant.exchanges requests store := by
  induction requests generalizing store with
  | nil => rfl
  | cons request rest ih => exact congrArg (_ :: ·) (ih _)

theorem CarriesAll.withResolver (all : attendant.CarriesAll store) (resolver : Resolver δ) :
    (attendant.withResolver resolver).CarriesAll store := by
  intro callId
  obtain ⟨place, holds, ofCall, inOrder⟩ := all callId
  exact ⟨place, holds, ofCall, inOrder⟩

theorem CarriesAll.of_withResolver {resolver : Resolver δ}
    (all : (attendant.withResolver resolver).CarriesAll store) : attendant.CarriesAll store :=
  all.withResolver attendant.interpreter.resolver

theorem exchangesOn_ok_of_fallsSoftly (built : attendant.interpreter.flow.Built)
    (roundTrips : attendant.codec.RoundTrips) (falls : attendant.FallsSoftly)
    (all : attendant.CarriesAll store) {occasions : List (Occasion δ)} {exchange : Exchange}
    (member : exchange ∈ attendant.exchangesOn occasions store) :
    ∃ answer, exchange.answer = .ok answer := by
  induction occasions generalizing store with
  | nil => cases member
  | cons occasion rest ih =>
      -- The callbacks of the occasion matter neither for what is stored nor for the fallback.
      let acting := attendant.withResolver occasion.resolver
      have builtActing : acting.interpreter.flow.Built := built
      have fallsActing : acting.FallsSoftly := falls
      have allActing : acting.CarriesAll store := all.withResolver occasion.resolver
      rcases List.mem_cons.mp member with same | later
      · subst same
        exact serve_ok_of_fallsSoftly builtActing roundTrips fallsActing allActing
          occasion.request
      · have served := allActing.serve builtActing roundTrips occasion.request
        exact ih served.of_withResolver later

/-- With a fallback state that says literal texts and takes no input of a length that a callback
decides, no request ever fails: whatever was requested before, of whatever calls, and however
the callbacks of the turn behave. They may behave differently at each request. Within a request
a reply depends on the name, the domain and, unless a text is asked for, the digits; so a text
that is asked for twice at the same domain gets the same reply. -/
theorem harmless_fallback_never_fails (attendant : Attendant δ)
    (built : attendant.interpreter.flow.Built) (roundTrips : attendant.codec.RoundTrips)
    {fallback : String} {guarded : Attendant δ}
    (accepted : attendant.withFallback fallback = .ok guarded)
    (harmless : ∀ state, attendant.interpreter.flow.state? fallback = some state →
      state.Harmless) :
    (∀ requests, ∀ exchange ∈ guarded.exchanges requests .empty,
      ∃ answer, exchange.answer = .ok answer) ∧
    ∀ occasions, ∀ exchange ∈ guarded.exchangesOn occasions .empty,
      ∃ answer, exchange.answer = .ok answer := by
  obtain ⟨declared, sameInterpreter, sameCodec, set⟩ := withFallback_ok accepted
  rw [← sameInterpreter] at built declared harmless
  rw [← sameCodec] at roundTrips
  obtain ⟨state, found⟩ := Flow.state?_of_declares declared
  have falls : guarded.FallsSoftly := ⟨fallback, state, set, found, harmless state found⟩
  have start := guarded.carriesAll_empty
  have always : ∀ occasions, ∀ exchange ∈ guarded.exchangesOn occasions .empty,
      ∃ answer, exchange.answer = .ok answer :=
    fun _ _ => exchangesOn_ok_of_fallsSoftly built roundTrips falls start
  refine ⟨fun requests exchange member => ?_, always⟩
  rw [← guarded.exchangesOn_own] at member
  exact always _ exchange member

end Attendant

/-! ## Callbacks that are out of service -/

def brokenResolver : Resolver Nat where
  call name _ count := (count + 1, .error (.failed name "offline"))
  text name _ := .error (.unknown name)
  hasAction _ := true

/-- The callbacks break during the first call, and work again for the second. -/
def brokenHour : List (Occasion Nat) :=
  [⟨.handle "call-1" ⟨⟨1, 0⟩, none⟩, ratingInterpreter.resolver⟩,
    ⟨.handle "call-1" ⟨⟨2, 0⟩, some "42#"⟩, brokenResolver⟩,
    ⟨.hangup "call-1", brokenResolver⟩,
    ⟨.handle "call-2" ⟨⟨3, 0⟩, none⟩, brokenResolver⟩,
    ⟨.handle "call-2" ⟨⟨4, 0⟩, some "42#"⟩, ratingInterpreter.resolver⟩]

theorem ratingAttendant_survives_broken_hour :
    ratingAttendant.interpreter.flow.Built ∧ ratingAttendant.codec.RoundTrips ∧
      ratingAttendant.withFallback "thanks" = .ok ratingAttendant ∧
      (∀ state, ratingFlow.state? "thanks" = some state → state.Harmless) ∧
      ∀ exchange ∈ ratingAttendant.exchangesOn brokenHour .empty,
        ∃ answer, exchange.answer = .ok answer := by
  have harmless : ∀ state, ratingFlow.state? "thanks" = some state → state.Harmless := by
    intro state found
    cases found
    exact ⟨by simp, by simp⟩
  have accepted : ratingAttendant.withFallback "thanks" = .ok ratingAttendant := rfl
  have survives := ratingAttendant.harmless_fallback_never_fails ratingFlow_built
    countCodec_roundTrips accepted harmless
  exact ⟨ratingFlow_built, countCodec_roundTrips, accepted, harmless, survives.2 brokenHour⟩

/-- A fallback state that needs a callback for its digit limit fails with it. -/
example : ∃ guarded, ratingAttendant.withFallback "hello" = .ok guarded ∧
    (guarded.exchangesOn brokenHour .empty).map (·.answer.isOk) =
      [true, false, true, false, true] :=
  ⟨_, rfl, rfl⟩

end VoiceMenu
