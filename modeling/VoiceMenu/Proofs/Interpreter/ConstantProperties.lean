import VoiceMenu.Proofs.Interpreter.RunProperties

/-! Constant replies leave the domain out of a call: it is neither read nor changed. Two
sessions in the same state run side by side, whatever their domain values are, and even if
these are of different types. -/

set_option autoImplicit false

namespace VoiceMenu

/-! ## Side by side -/

/-- Both reports tell the same, and of its session each changes the state alone. -/
def Report.Parallel {δ ε α : Type} (session : Session δ) (another : Session ε)
    (report : Report δ α) (reportToo : Report ε α) : Prop :=
  ∃ result state log, report = ⟨result, { session with state }, log⟩ ∧
    reportToo = ⟨result, { another with state }, log⟩

def Cycle.Parallel {δ ε α : Type} (one : Cycle δ α) (other : Cycle ε α) : Prop :=
  ∀ session another, another.state = session.state →
    Report.Parallel session another (one session) (other another)

theorem Report.parallel_of_same {δ ε α : Type} {session : Session δ} {another : Session ε}
    (same : another.state = session.state) (result : Except CycleError α) (log : Log) :
    Report.Parallel session another ⟨result, session, log⟩ ⟨result, another, log⟩ := by
  refine ⟨result, session.state, log, rfl, ?_⟩
  rw [← same]

theorem Report.Parallel.behind {δ ε α : Type} {session : Session δ} {another : Session ε}
    {report : Report δ α} {reportToo : Report ε α}
    (parallel : Report.Parallel session another report reportToo) (log : Log) :
    Report.Parallel session another (report.behind log) (reportToo.behind log) := by
  obtain ⟨result, state, later, rfl, rfl⟩ := parallel
  exact ⟨result, state, log ++ later, rfl, rfl⟩

namespace Cycle

variable {δ ε α β : Type}

/-- Of what goes on in parallel the second part need only be looked at for equal values. -/
theorem parallel_bind {one : Cycle δ α} {other : Cycle ε α} {next : α → Cycle δ β}
    {nextToo : α → Cycle ε β} (first : one.Parallel other)
    (second : ∀ value, (next value).Parallel (nextToo value)) :
    (one >>= next).Parallel (other >>= nextToo) := by
  intro session another same
  obtain ⟨result, state, log, ran, ranToo⟩ := first session another same
  cases result with
  | error error =>
      rw [bind_of_error ran, bind_of_error ranToo]
      exact ⟨_, state, log, rfl, rfl⟩
  | ok value =>
      rw [bind_of_ok ran, bind_of_ok ranToo]
      obtain ⟨result, later, more, ran, ranToo⟩ :=
        second value { session with state } { another with state } rfl
      rw [ran, ranToo]
      exact ⟨result, later, log ++ more, rfl, rfl⟩

theorem parallel_pure (value : α) : (pure value : Cycle δ α).Parallel (pure value : Cycle ε α) :=
  fun _ _ same => Report.parallel_of_same same (.ok value) []

theorem parallel_fail (error : CycleError) :
    (fail error : Cycle δ α).Parallel (fail error : Cycle ε α) :=
  fun _ _ same => Report.parallel_of_same same (.error error) []

theorem parallel_stateName : (stateName : Cycle δ String).Parallel (stateName : Cycle ε String) := by
  intro session another same
  rw [stateName_run, stateName_run, same]
  exact Report.parallel_of_same same (.ok session.state) []

theorem parallel_moveTo (state : String) :
    (moveTo state : Cycle δ Unit).Parallel (moveTo state : Cycle ε Unit) :=
  fun _ _ _ => ⟨.ok (), state, [], rfl, rfl⟩

theorem parallel_query {ask : Session δ → Query α} {askToo : Session ε → Query α}
    (sameAnswer : ∀ session another, another.state = session.state →
      askToo another = ask session) : (query ask).Parallel (query askToo) := by
  intro session another same
  rw [query_run, query_run, sameAnswer session another same]
  exact Report.parallel_of_same same (ask session).result (ask session).log

end Cycle

/-! ## Interpreters with constant replies -/

namespace Interpreter

/-- The interpreter whose callbacks reply with what the table says. -/
def constant (flow : Flow) (replies : Table Json) (limit : Nat) (δ : Type) : Interpreter δ :=
  withStepLimit { flow, resolver := .constant replies } limit

variable (flow : Flow) (replies : Table Json) (limit : Nat) (δ ε : Type)

theorem parallel_call (name : String) (digits : Option String) :
    ((constant flow replies limit δ).call name digits).Parallel
      ((constant flow replies limit ε).call name digits) := by
  intro session another same
  exact Report.parallel_of_same same _ [.called name digits]

theorem parallel_current :
    (constant flow replies limit δ).current.Parallel (constant flow replies limit ε).current := by
  apply Cycle.parallel_query
  intro session another same
  rw [same]
  rfl

theorem parallel_replyTo (decision : Decision) (digits : Option String) :
    ((constant flow replies limit δ).replyTo decision digits).Parallel
      ((constant flow replies limit ε).replyTo decision digits) := by
  have answered : ∀ reply : Json,
      (if reply.isUnset then (constant flow replies limit δ).call decision.decider digits
        else pure reply).Parallel
      (if reply.isUnset then (constant flow replies limit ε).call decision.decider digits
        else pure reply) := by
    intro reply
    by_cases unset : reply.isUnset = true
    · rw [if_pos unset, if_pos unset]
      exact parallel_call flow replies limit δ ε decision.decider digits
    · rw [if_neg unset, if_neg unset]
      exact Cycle.parallel_pure reply
  unfold replyTo
  cases decision.action with
  | none => exact answered .null
  | some action =>
      exact Cycle.parallel_bind (parallel_call flow replies limit δ ε action digits) answered

theorem parallel_evaluate (decision : Decision) (digits : Option String) :
    ((constant flow replies limit δ).evaluate decision digits).Parallel
      ((constant flow replies limit ε).evaluate decision digits) := by
  intro session another same
  simp only [evaluate, Cycle.session_bind_run, Cycle.note_bind_run, same]
  -- The state before is the same in both, so only what follows the note is compared.
  refine Report.Parallel.behind ?_ _
  refine Cycle.parallel_bind (parallel_replyTo flow replies limit δ ε decision digits) ?_
    session another same
  intro reply
  cases reply.outcome? with
  | none => exact Cycle.parallel_fail _
  | some outcome =>
      dsimp only
      cases decision.target? outcome with
      | none => exact Cycle.parallel_pure none
      | some target =>
          exact Cycle.parallel_bind (Cycle.parallel_moveTo target) fun _ => Cycle.parallel_pure _

theorem parallel_cascade (steps : Nat) (pending : List Decision) :
    ((constant flow replies limit δ).cascade steps pending).Parallel
      ((constant flow replies limit ε).cascade steps pending) := by
  induction steps generalizing pending with
  | zero =>
      cases pending with
      | nil => exact Cycle.parallel_stateName
      | cons decision rest => exact Cycle.parallel_fail _
  | succ steps ih =>
      cases pending with
      | nil => exact Cycle.parallel_stateName
      | cons decision rest =>
          apply Cycle.parallel_bind (parallel_evaluate flow replies limit δ ε decision none)
          intro moved
          cases moved with
          | none => exact ih rest
          | some target =>
              apply Cycle.parallel_bind (parallel_current flow replies limit δ ε)
              intro entered
              by_cases silent : entered.isSilent = true
              · rw [if_pos silent, if_pos silent]
                exact ih entered.decisions
              · rw [if_neg silent, if_neg silent]
                exact Cycle.parallel_stateName

theorem parallel_decide :
    (constant flow replies limit δ).decide.Parallel (constant flow replies limit ε).decide := by
  apply Cycle.parallel_bind (parallel_current flow replies limit δ ε)
  intro state
  exact parallel_cascade flow replies limit δ ε _ state.decisions

theorem parallel_follow (transition : Transition) (digits : String) :
    ((constant flow replies limit δ).follow transition digits).Parallel
      ((constant flow replies limit ε).follow transition digits) := by
  cases transition with
  | event fired =>
      have sameEffect : (constant flow replies limit ε).effectOf? fired =
          (constant flow replies limit δ).effectOf? fired := rfl
      simp only [follow, fire, sameEffect]
      cases (constant flow replies limit δ).effectOf? fired with
      | none => exact Cycle.parallel_moveTo fired.target
      | some action =>
          apply Cycle.parallel_bind (parallel_call flow replies limit δ ε action (some digits))
          intro _
          exact Cycle.parallel_moveTo fired.target
  | decision asked =>
      apply Cycle.parallel_bind (parallel_evaluate flow replies limit δ ε asked (some digits))
      intro _
      exact Cycle.parallel_pure ()

variable {δ ε} (domain : δ) (domainToo : ε)

theorem runBinding?_constant (digits : Digits) (keys : List KeyBinding) :
    (constant flow replies limit ε).runBinding? domainToo digits keys =
      (constant flow replies limit δ).runBinding? domain digits keys := by
  induction keys with
  | nil => rfl
  | cons binding rest ih =>
      have sameLimit : (constant flow replies limit ε).digitLimit domainToo =
          (constant flow replies limit δ).digitLimit domain := rfl
      rw [runBinding?, runBinding?, ih, sameLimit]

theorem resolveKey_constant (state : State) (digits : Digits) :
    (constant flow replies limit ε).resolveKey state digits domainToo =
      (constant flow replies limit δ).resolveKey state digits domain := by
  rw [resolveKey, resolveKey, runBinding?_constant flow replies limit domain domainToo]

variable (δ ε)

theorem parallel_tryRespond (digits : Digits) :
    ((constant flow replies limit δ).tryRespond digits).Parallel
      ((constant flow replies limit ε).tryRespond digits) := by
  apply Cycle.parallel_bind (parallel_current flow replies limit δ ε)
  intro state
  by_cases keyless : state.keys.isEmpty = true
  · rw [if_pos keyless, if_pos keyless]
    exact Cycle.parallel_fail _
  · rw [if_neg keyless, if_neg keyless]
    apply Cycle.parallel_bind
    · apply Cycle.parallel_query
      intro session another _
      exact resolveKey_constant flow replies limit session.domain another.domain state digits
    · intro found
      cases found with
      | none => exact Cycle.parallel_stateName
      | some binding =>
          apply Cycle.parallel_bind
            (parallel_follow flow replies limit δ ε binding.transition digits.text)
          intro _
          apply Cycle.parallel_bind (parallel_current flow replies limit δ ε)
          intro entered
          split
          · exact parallel_decide flow replies limit δ ε
          · exact Cycle.parallel_stateName

theorem parallel_respond (digits : Digits) :
    ((constant flow replies limit δ).respond digits).Parallel
      ((constant flow replies limit ε).respond digits) := by
  intro session another same
  obtain ⟨result, state, log, ran, ranToo⟩ :=
    parallel_tryRespond flow replies limit δ ε digits session another same
  rw [respond, respond, ran, ranToo]
  cases result with
  | ok name => exact ⟨.ok name, state, log, rfl, rfl⟩
  | error error => exact ⟨.ok session.state, session.state, log, rfl, by rw [same]⟩

theorem parallel_perform (operation : Operation) :
    ((constant flow replies limit δ).perform operation).Parallel
      ((constant flow replies limit ε).perform operation) := by
  cases operation with
  | respond digits => exact parallel_respond flow replies limit δ ε digits
  | tryRespond digits => exact parallel_tryRespond flow replies limit δ ε digits
  | decide => exact parallel_decide flow replies limit δ ε

/-! ## What a caller gets to hear and may press -/

variable {δ ε}

theorem linesOf_constant (fragments : List Fragment) :
    (constant flow replies limit ε).linesOf domainToo fragments =
      (constant flow replies limit δ).linesOf domain fragments := by
  induction fragments with
  | nil => rfl
  | cons fragment rest ih =>
      have sameLines : (constant flow replies limit ε).fragmentLines domainToo fragment =
          (constant flow replies limit δ).fragmentLines domain fragment := by
        cases fragment <;> rfl
      rw [linesOf, linesOf, ih, sameLines]

theorem mostDigits_constant (keys : List KeyBinding) :
    (constant flow replies limit ε).mostDigits domainToo keys =
      (constant flow replies limit δ).mostDigits domain keys := by
  induction keys with
  | nil => rfl
  | cons binding rest ih =>
      have sameLimit : (constant flow replies limit ε).digitLimit domainToo =
          (constant flow replies limit δ).digitLimit domain := rfl
      rw [mostDigits, mostDigits, ih, sameLimit]

variable {session : Session δ} {another : Session ε}

theorem prompts_constant (same : another.state = session.state) :
    (constant flow replies limit ε).prompts another =
      (constant flow replies limit δ).prompts session := by
  simp only [prompts, same, linesOf_constant flow replies limit session.domain another.domain]
  rfl

theorem acceptedKeys_constant (same : another.state = session.state) :
    (constant flow replies limit ε).acceptedKeys another =
      (constant flow replies limit δ).acceptedKeys session := by
  simp only [acceptedKeys, same]
  rfl

theorem gather_constant (same : another.state = session.state) :
    (constant flow replies limit ε).gather another =
      (constant flow replies limit δ).gather session := by
  simp only [gather, same, mostDigits_constant flow replies limit session.domain another.domain]
  rfl

end Interpreter

/-! ## Uses of a session -/

/-- A session is operated, or asked what the caller hears and may press. -/
inductive SessionUse where
  | perform (operation : Operation)
  | prompts
  | acceptedKeys
  | gather
  deriving DecidableEq, Repr

inductive Finding where
  | state (result : Except CycleError String)
  | prompts (result : Except CycleError (List String))
  | acceptedKeys (result : Except CycleError (Table Bool))
  | gather (result : Except CycleError Gather)

namespace Interpreter

variable {δ ε : Type}

def use (interpreter : Interpreter δ) : SessionUse → Session δ → Finding × Session δ
  | .perform operation, session =>
      let report := interpreter.perform operation session
      (.state report.result, report.session)
  | .prompts, session => (.prompts (interpreter.prompts session).result, session)
  | .acceptedKeys, session => (.acceptedKeys (interpreter.acceptedKeys session), session)
  | .gather, session => (.gather (interpreter.gather session).result, session)

/-- What is found by each use, with the session after it. -/
def useAll (interpreter : Interpreter δ) : List SessionUse → Session δ → List (Finding × Session δ)
  | [], _ => []
  | next :: rest, session =>
      let found := interpreter.use next session
      found :: interpreter.useAll rest found.2

variable (flow : Flow) (replies : Table Json) (limit : Nat)

theorem use_constant {session : Session δ} {another : Session ε}
    (same : another.state = session.state) (next : SessionUse) :
    ∃ finding state,
      (constant flow replies limit δ).use next session = (finding, { session with state }) ∧
        (constant flow replies limit ε).use next another = (finding, { another with state }) := by
  have unmoved : another = { another with state := session.state } := by rw [← same]
  cases next with
  | perform operation =>
      obtain ⟨result, state, log, ran, ranToo⟩ :=
        parallel_perform flow replies limit δ ε operation session another same
      exact ⟨.state result, state, by rw [use, ran], by rw [use, ranToo]⟩
  | prompts =>
      refine ⟨_, session.state, rfl, ?_⟩
      rw [use, prompts_constant flow replies limit same, ← unmoved]
  | acceptedKeys =>
      refine ⟨_, session.state, rfl, ?_⟩
      rw [use, acceptedKeys_constant flow replies limit same, ← unmoved]
  | gather =>
      refine ⟨_, session.state, rfl, ?_⟩
      rw [use, gather_constant flow replies limit same, ← unmoved]

/-- Whatever is done with two sessions in the same state, constant replies lead to the same
results or errors and to the same states after each use, and neither domain value changes. -/
theorem constant_replies_leave_domain_out (session : Session δ) (another : Session ε)
    (same : another.state = session.state) (uses : List SessionUse) :
    let found := (constant flow replies limit δ).useAll uses session
    let foundToo := (constant flow replies limit ε).useAll uses another
    foundToo.map (fun (finding, now) => (finding, now.state)) =
        found.map (fun (finding, now) => (finding, now.state)) ∧
      (∀ entry ∈ found, entry.2.domain = session.domain) ∧
      ∀ entry ∈ foundToo, entry.2.domain = another.domain := by
  induction uses generalizing session another with
  | nil => simp [useAll]
  | cons next rest ih =>
      obtain ⟨finding, state, used, usedToo⟩ := use_constant flow replies limit same next
      obtain ⟨sameRest, kept, keptToo⟩ := ih { session with state } { another with state } rfl
      simp only [useAll, used, usedToo, List.map_cons, List.mem_cons, forall_eq_or_imp]
      exact ⟨by rw [sameRest], ⟨trivial, kept⟩, trivial, keptToo⟩

end Interpreter

/-- Callers are asked for up to two digits; ratings are valid, and the line stays open. -/
def ratingReplies : Table Json :=
  .ofList [("most", .integer 2), ("valid?", .bool true), ("open?", .string "yes")]

theorem ratingReplies_leave_names_out :
    let session : Session Nat := ⟨"call-1", "hello", 7⟩
    let another : Session String := ⟨"call-2", "hello", "Ann"⟩
    let uses : List SessionUse :=
      [.gather, .perform (.tryRespond ⟨"42#"⟩), .prompts, .perform .decide, .perform (.respond ⟨"1"⟩)]
    let found := (Interpreter.constant ratingFlow ratingReplies 5 Nat).useAll uses session
    let foundToo := (Interpreter.constant ratingFlow ratingReplies 5 String).useAll uses another
    another.state = session.state ∧
      foundToo.map (fun (finding, now) => (finding, now.state)) =
        found.map (fun (finding, now) => (finding, now.state)) ∧
      ∀ entry ∈ foundToo, entry.2.domain = "Ann" := by
  intro session another uses found foundToo
  have apart := Interpreter.constant_replies_leave_domain_out ratingFlow ratingReplies 5
    session another rfl uses
  exact ⟨rfl, apart.1, apart.2.2⟩

end VoiceMenu
