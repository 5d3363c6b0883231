import VoiceMenu.Proofs.Interpreter.KeyOrderProperties
import VoiceMenu.Proofs.Interpreter.RunProperties

/-! How input is gathered fits how it is looked up. A look-up with known limits binds exactly
the input that some pattern accepts, and the hints are as long as the longest such input. -/

set_option autoImplicit false

namespace VoiceMenu

namespace Digits

theorem length_withoutTerminator_le (chars : List Char) :
    (withoutTerminator chars).length ≤ chars.length := by
  unfold withoutTerminator
  split
  · rw [List.length_dropLast]
    exact Nat.sub_le _ _
  · exact Nat.le_refl _

theorem chars_ofText_of_runKeys {keys : List Char} (runKeys : ∀ char ∈ keys, isRunKey char = true) :
    (ofText (String.ofList keys)).chars = keys := by
  rw [chars, ofText, Text.toList_trim, String.toList_ofList]
  refine Text.trimChars_of_ends (fun char front => ?_) (fun char back => ?_)
  · exact not_blank_of_isRunKey (runKeys char (List.mem_of_head? front))
  · exact not_blank_of_isRunKey (runKeys char (List.mem_of_getLast? back))

end Digits

namespace Interpreter

variable {δ : Type}

/-! ## Look-up with known limits -/

/-- The pattern accepts the input, within the limit that is in force. -/
inductive Accepts (interpreter : Interpreter δ) (domain : δ) (digits : Digits) :
    KeyPattern → Prop where
  | exactly {pattern : KeyPattern} :
      pattern.acceptsExactly digits = true → Accepts interpreter domain digits pattern
  | collected : KeyPattern.collects digits = true → Accepts interpreter domain digits .collector
  | within {limit : DigitLimit} {most : Nat} :
      (interpreter.digitLimit domain limit).result = .ok most →
      KeyPattern.fits most digits = true → Accepts interpreter domain digits (.wildcard limit)

def LimitsKnown (interpreter : Interpreter δ) (domain : δ) (keys : List KeyBinding) : Prop :=
  ∀ binding ∈ keys, ∀ limit, binding.pattern = .wildcard limit →
    ∃ most, (interpreter.digitLimit domain limit).result = .ok most

variable {interpreter : Interpreter δ} {domain : δ} {digits : Digits} {keys : List KeyBinding}

theorem not_accepts_of_empty (empty : digits.chars = []) (pattern : KeyPattern) :
    ¬ interpreter.Accepts domain digits pattern := by
  have body : digits.body = [] := by simp [Digits.body, Digits.withoutTerminator, empty]
  intro accepted
  cases accepted with
  | exactly exactly =>
      cases pattern with
      | key char => simp [KeyPattern.acceptsExactly_key_iff, empty] at exactly
      | sequence keys => simp [KeyPattern.acceptsExactly_sequence_iff, empty] at exactly
      | collector | wildcard => cases exactly
  | collected collects => simp [KeyPattern.collects, KeyPattern.isRun, body] at collects
  | within _ fits => simp [KeyPattern.fits, KeyPattern.isRun, body] at fits

theorem runBinding?_of_limitsKnown (known : interpreter.LimitsKnown domain keys)
    (inexact : ∀ binding ∈ keys, ¬ binding.pattern.acceptsExactly digits = true) :
    ∃ found, (interpreter.runBinding? domain digits keys).result = .ok found ∧
      (found = none ↔ ∀ binding ∈ keys, ¬ interpreter.Accepts domain digits binding.pattern) := by
  induction keys with
  | nil => exact ⟨none, rfl, by simp⟩
  -- The first binding ends the search if it accepts the input, and is passed over if not.
  | cons binding rest ih =>
      obtain ⟨inexactHere, inexactLater⟩ := List.forall_mem_cons.mp inexact
      obtain ⟨knownHere, knownLater⟩ := List.forall_mem_cons.mp known
      obtain ⟨found, ran, unbound⟩ := ih knownLater inexactLater
      have passedOver (refused : ¬ interpreter.Accepts domain digits binding.pattern) :
          found = none ↔ ∀ bound ∈ binding :: rest,
            ¬ interpreter.Accepts domain digits bound.pattern := by
        rw [unbound, List.forall_mem_cons]
        exact ⟨fun later => ⟨refused, later⟩, And.right⟩
      have bound (accepted : interpreter.Accepts domain digits binding.pattern) :
          some binding = none ↔ ∀ bound ∈ binding :: rest,
            ¬ interpreter.Accepts domain digits bound.pattern := by
        simp [accepted]
      rw [runBinding?]
      cases form : binding.pattern with
      | key char | sequence keys =>
          refine ⟨found, ran, passedOver fun accepted => ?_⟩
          rw [form] at accepted inexactHere
          cases accepted with
          | exactly exactly => exact inexactHere exactly
      | collector =>
          by_cases collects : KeyPattern.collects digits = true
          · exact ⟨some binding, by simp [collects], bound (form ▸ .collected collects)⟩
          · refine ⟨found, by simpa [collects] using ran, passedOver fun accepted => ?_⟩
            rw [form] at accepted
            cases accepted with
            | exactly exactly => cases exactly
            | collected collected => exact collects collected
      | wildcard limit =>
          obtain ⟨most, inForce⟩ := knownHere limit form
          dsimp only
          rw [Query.bind_of_ok inForce]
          by_cases fits : KeyPattern.fits most digits = true
          · exact ⟨some binding, by simp [fits, Query.behind], bound (form ▸ .within inForce fits)⟩
          · refine ⟨found, by simpa [fits, Query.behind] using ran, passedOver fun accepted => ?_⟩
            rw [form] at accepted
            cases accepted with
            | exactly exactly => cases exactly
            | within otherInForce otherFits =>
                cases inForce.symm.trans otherInForce
                exact fits otherFits

theorem resolveKey_of_limitsKnown {state : State}
    (known : interpreter.LimitsKnown domain state.keys) (digits : Digits) :
    ∃ found, (interpreter.resolveKey state digits domain).result = .ok found ∧
      (found = none ↔
        ∀ binding ∈ state.keys, ¬ interpreter.Accepts domain digits binding.pattern) := by
  by_cases empty : digits.chars = []
  · refine ⟨none, by simp [resolveKey, Digits.isEmpty, empty], ?_⟩
    exact ⟨fun _ binding _ => not_accepts_of_empty empty binding.pattern, fun _ => rfl⟩
  · cases exact : exactBinding? state.keys digits with
    | some binding =>
        obtain ⟨bound, accepted⟩ := of_exactBinding? exact
        refine ⟨some binding, by rw [interpreter.resolveKey_of_exact empty exact], ?_⟩
        exact ⟨fun none => (by cases none), fun refused => absurd (.exactly accepted) (refused _ bound)⟩
    | none =>
        obtain ⟨found, ran, unbound⟩ := runBinding?_of_limitsKnown known (List.find?_eq_none.mp exact)
        exact ⟨found, by rwa [interpreter.resolveKey_of_inexact empty exact], unbound⟩

/-! ## Lengths of patterns -/

/-- The longest run that the pattern accepts without waiting for the terminator. -/
inductive Spans (interpreter : Interpreter δ) (domain : δ) : KeyPattern → Nat → Prop where
  | key {char : Char} : Spans interpreter domain (.key char) 1
  | wildcard {limit : DigitLimit} {most : Nat} :
      (interpreter.digitLimit domain limit).result = .ok most →
      Spans interpreter domain (.wildcard limit) most

variable {pattern : KeyPattern} {most : Nat}

theorem Accepts.length_le (accepted : interpreter.Accepts domain digits pattern)
    (spans : interpreter.Spans domain pattern most) : digits.body.length ≤ most := by
  cases spans with
  | @key char =>
      cases accepted with
      | exactly exactly =>
          rw [KeyPattern.acceptsExactly_key_iff] at exactly
          have short : digits.body.length ≤ digits.chars.length :=
            Digits.length_withoutTerminator_le digits.chars
          rwa [exactly] at short
  | wildcard inForce =>
      cases accepted with
      | exactly exactly => cases exactly
      | within otherInForce fits =>
          cases inForce.symm.trans otherInForce
          rw [KeyPattern.fits, Bool.and_eq_true, decide_eq_true_eq] at fits
          exact fits.2

theorem Spans.not_accepts (spans : interpreter.Spans domain pattern 0) :
    ¬ interpreter.Accepts domain digits pattern := by
  intro accepted
  cases spans with
  | wildcard inForce =>
      cases accepted with
      | exactly exactly => cases exactly
      | within otherInForce fits =>
          cases inForce.symm.trans otherInForce
          obtain ⟨run, some, -, short, -⟩ := KeyPattern.fits_iff.mp fits
          exact some (List.eq_nil_of_length_eq_zero (Nat.le_zero.mp short))

/-- Unless nothing is accepted at all, some run is as long as the pattern allows. -/
theorem Spans.reached (spans : interpreter.Spans domain pattern most)
    (wellFormed : pattern.WellFormed) (positive : 0 < most) :
    ∃ keys : List Char, keys.length = most ∧ (∀ char ∈ keys, isRunKey char = true) ∧
      interpreter.Accepts domain (.ofText (String.ofList keys)) pattern := by
  cases spans with
  | @key char =>
      have runKeys : ∀ other ∈ [char], isRunKey other = true :=
        List.forall_mem_singleton.mpr wellFormed
      refine ⟨[char], rfl, runKeys, .exactly ?_⟩
      rw [KeyPattern.acceptsExactly_key_iff, Digits.chars_ofText_of_runKeys runKeys]
  | wildcard inForce =>
      have zeros : ∀ char ∈ List.replicate most '0', char.isDigit = true := by
        intro char member
        rw [List.eq_of_mem_replicate member]
        decide
      have runKeys : ∀ char ∈ List.replicate most '0', isRunKey char = true :=
        fun char member => isRunKey_of_isDigit (zeros char member)
      refine ⟨List.replicate most '0', List.length_replicate, runKeys, .within inForce ?_⟩
      rw [KeyPattern.fits_iff]
      refine ⟨List.replicate most '0', ?_, zeros, by simp, .inl ?_⟩
      · exact List.ne_nil_of_length_pos (by simpa using positive)
      · exact Digits.chars_ofText_of_runKeys runKeys

theorem mostDigits_cons {binding : KeyBinding} {rest : List KeyBinding}
    (answered : (interpreter.mostDigits domain (binding :: rest)).result = .ok most) :
    ∃ others, (interpreter.mostDigits domain rest).result = .ok others ∧
      (binding.pattern.isCollecting = true ∧ most = others ∨
        ∃ own, interpreter.Spans domain binding.pattern own ∧ most = max own others) := by
  have goesOn : ∀ {first : Query Nat}, (do
      let own ← first
      let others ← interpreter.mostDigits domain rest
      pure (max own others) : Query Nat).result = .ok most →
      ∃ own others, first.result = .ok own ∧
        (interpreter.mostDigits domain rest).result = .ok others ∧ most = max own others := by
    intro first ran
    obtain ⟨own, here, ran⟩ := Query.of_bind_ok ran
    obtain ⟨others, later, ran⟩ := Query.of_bind_ok ran
    cases ran
    exact ⟨own, others, here, later, rfl⟩
  rw [mostDigits] at answered
  cases form : binding.pattern with
  | key char =>
      rw [form] at answered
      obtain ⟨own, others, here, later, same⟩ := goesOn answered
      cases here
      exact ⟨others, later, .inr ⟨1, .key, same⟩⟩
  | sequence keys | collector =>
      rw [form] at answered
      obtain ⟨own, others, here, later, same⟩ := goesOn answered
      cases here
      exact ⟨others, later, .inl ⟨rfl, same.trans (Nat.zero_max _)⟩⟩
  | wildcard limit =>
      rw [form] at answered
      obtain ⟨own, others, here, later, same⟩ := goesOn answered
      exact ⟨others, later, .inr ⟨own, .wildcard here, same⟩⟩

theorem limitsKnown_of_mostDigits (answered : (interpreter.mostDigits domain keys).result = .ok most) :
    interpreter.LimitsKnown domain keys := by
  induction keys generalizing most with
  | nil =>
      intro binding member
      cases member
  | cons binding rest ih =>
      obtain ⟨others, later, here⟩ := mostDigits_cons answered
      refine List.forall_mem_cons.mpr ⟨fun limit form => ?_, ih later⟩
      rw [form] at here
      obtain ⟨collecting, -⟩ | ⟨own, spans, -⟩ := here
      · cases collecting
      · cases spans with
        | wildcard inForce => exact ⟨own, inForce⟩

theorem mostDigits_longest (answered : (interpreter.mostDigits domain keys).result = .ok most)
    (plain : ∀ binding ∈ keys, ¬ binding.pattern.isCollecting = true) :
    (∀ binding ∈ keys, ∃ own ≤ most, interpreter.Spans domain binding.pattern own) ∧
      (0 < most → ∃ binding ∈ keys, interpreter.Spans domain binding.pattern most) := by
  induction keys generalizing most with
  | nil =>
      cases answered
      refine ⟨fun binding member => ?_, fun positive => absurd positive (Nat.lt_irrefl 0)⟩
      cases member
  | cons binding rest ih =>
      obtain ⟨plainHere, plainLater⟩ := List.forall_mem_cons.mp plain
      obtain ⟨others, later, here⟩ := mostDigits_cons answered
      obtain ⟨own, spans, rfl⟩ := here.resolve_left fun ⟨collecting, _⟩ => plainHere collecting
      obtain ⟨atMost, reached⟩ := ih later plainLater
      constructor
      · refine List.forall_mem_cons.mpr ⟨⟨own, Nat.le_max_left _ _, spans⟩, fun bound member => ?_⟩
        obtain ⟨length, short, spansBound⟩ := atMost bound member
        exact ⟨length, Nat.le_trans short (Nat.le_max_right _ _), spansBound⟩
      · intro positive
        obtain longer | shorter := Nat.le_total others own
        · rw [Nat.max_eq_left longer]
          exact ⟨binding, List.mem_cons_self, spans⟩
        · rw [Nat.max_eq_right shorter] at positive ⊢
          obtain ⟨bound, member, spansBound⟩ := reached positive
          exact ⟨bound, List.mem_cons_of_mem _ member, spansBound⟩

end Interpreter

/-! ## Hints -/

theorem KeyPattern.isCollecting_iff {pattern : KeyPattern} :
    pattern.isCollecting = true ↔ pattern = .collector ∨ ∃ keys, pattern = .sequence keys := by
  cases pattern <;> simp [isCollecting]

/-- The hints of a state say how its input ends: by the terminator where a pattern collects,
and else at the length of the longest input that is bound. -/
structure Gather.Fits {δ : Type} (interpreter : Interpreter δ) (state : State) (domain : δ)
    (hints : Gather) : Prop where
  ends_iff : hints.finishOnKey = some terminator ↔
    ∃ binding ∈ state.keys, binding.pattern = .collector ∨
      ∃ keys, binding.pattern = .sequence keys
  ends_alone : ∀ key, hints.finishOnKey = some key → key = terminator ∧ hints.numDigits = none
  positive : ∀ most, hints.numDigits = some most → 0 < most
  long_enough : ∀ most, hints.numDigits = some most → ∀ digits binding,
    (interpreter.resolveKey state digits domain).result = .ok (some binding) →
    digits.body.length ≤ most
  reached : ∀ most, hints.numDigits = some most →
    ∃ keys : List Char, keys.length = most ∧ (∀ char ∈ keys, isRunKey char = true) ∧
      ∃ binding, (interpreter.resolveKey state (.ofText (String.ofList keys)) domain).result =
        .ok (some binding)
  nothing_bound : hints.numDigits = none → hints.finishOnKey = none →
    ∀ digits, (interpreter.resolveKey state digits domain).result = .ok none

namespace Interpreter

variable {δ : Type}

theorem gather_ok {interpreter : Interpreter δ} {session : Session δ} {state : State}
    (found : interpreter.flow.state? session.state = some state) {hints : Gather}
    (gathered : (interpreter.gather session).result = .ok hints) :
    ∃ most, (interpreter.mostDigits session.domain state.keys).result = .ok most ∧
      hints = if state.keys.any (·.pattern.isCollecting) then ⟨none, some terminator⟩
        else ⟨if 0 < most then some most else none, none⟩ := by
  rw [gather] at gathered
  obtain ⟨current, named, gathered⟩ := Query.of_bind_ok gathered
  have same : state = current := by
    simpa [stateNamed, found, Query.ofExcept] using named
  subst same
  obtain ⟨most, answered, gathered⟩ := Query.of_bind_ok gathered
  refine ⟨most, answered, ?_⟩
  split at gathered <;> rename_i collecting <;> cases gathered
  · rw [if_pos collecting]
  · rw [if_neg collecting]

theorem fits_of_collecting (interpreter : Interpreter δ) (domain : δ) {state : State}
    (collecting : ∃ binding ∈ state.keys, binding.pattern.isCollecting = true) :
    Gather.Fits interpreter state domain ⟨none, some terminator⟩ := by
  simp only [KeyPattern.isCollecting_iff] at collecting
  refine ⟨by simpa using collecting, ?_, ?_, ?_, ?_, ?_⟩
  · rintro key ⟨⟩
    exact ⟨rfl, rfl⟩
  all_goals (intros; contradiction)

theorem fits_of_plain {interpreter : Interpreter δ} {domain : δ} {state : State} {most : Nat}
    (wellFormed : ∀ binding ∈ state.keys, binding.pattern.WellFormed)
    (plain : ∀ binding ∈ state.keys, ¬ binding.pattern.isCollecting = true)
    (answered : (interpreter.mostDigits domain state.keys).result = .ok most) :
    Gather.Fits interpreter state domain ⟨if 0 < most then some most else none, none⟩ := by
  obtain ⟨atMost, longest⟩ := mostDigits_longest answered plain
  have lookUp := resolveKey_of_limitsKnown (limitsKnown_of_mostDigits answered)
  have short : ∀ digits binding,
      (interpreter.resolveKey state digits domain).result = .ok (some binding) →
      digits.body.length ≤ most := by
    intro digits binding bound
    obtain ⟨found, resolved, unbound⟩ := lookUp digits
    cases resolved.symm.trans bound
    simp only [reduceCtorEq, false_iff, not_forall, not_not] at unbound
    obtain ⟨accepting, member, accepted⟩ := unbound
    obtain ⟨own, ownShort, spans⟩ := atMost accepting member
    exact Nat.le_trans (accepted.length_le spans) ownShort
  have hinted : ∀ {length}, (if 0 < most then some most else none) = some length →
      0 < most ∧ most = length := by
    intro length same
    simpa using same
  constructor
  · simp only [reduceCtorEq, false_iff, not_exists, not_and]
    intro binding member pattern
    exact plain binding member (KeyPattern.isCollecting_iff.mpr pattern)
  · rintro key ⟨⟩
  · intro length given
    obtain ⟨positive, rfl⟩ := hinted given
    exact positive
  · intro length given
    obtain ⟨-, rfl⟩ := hinted given
    exact short
  · intro length given
    obtain ⟨positive, rfl⟩ := hinted given
    obtain ⟨binding, member, spans⟩ := longest positive
    obtain ⟨keys, long, runKeys, accepted⟩ := spans.reached (wellFormed binding member) positive
    obtain ⟨found, resolved, unbound⟩ := lookUp (.ofText (String.ofList keys))
    refine ⟨keys, long, runKeys, ?_⟩
    cases found with
    | none => exact absurd accepted (unbound.mp rfl binding member)
    | some bound => exact ⟨bound, resolved⟩
  · intro noLength _ digits
    have zero : most = 0 := by simpa using noLength
    obtain ⟨found, resolved, unbound⟩ := lookUp digits
    have none : found = none := by
      refine unbound.mpr fun binding member => ?_
      obtain ⟨own, ownShort, spans⟩ := atMost binding member
      obtain rfl : own = 0 := by omega
      exact spans.not_accepts
    rw [resolved, none]

/-- Hints that are given fit the state: they end input where it has to end, and cut off none
that is bound. -/
theorem gather_hints_fit_bound_input (interpreter : Interpreter δ) (built : interpreter.flow.Built)
    (session : Session δ) {state : State}
    (found : interpreter.flow.state? session.state = some state) {hints : Gather}
    (gathered : (interpreter.gather session).result = .ok hints) :
    hints.Fits interpreter state session.domain := by
  have wellFormed := (built.state_wellFormed (Flow.mem_of_state? found)).patterns_wellFormed
  obtain ⟨most, answered, rfl⟩ := gather_ok found gathered
  split
  · rename_i collecting
    exact fits_of_collecting interpreter session.domain (List.any_eq_true.mp collecting)
  · rename_i plain
    exact fits_of_plain wellFormed (by simpa using plain) answered

end Interpreter

theorem ratingInterpreter_gathers_two_digits :
    ratingInterpreter.flow.Built ∧ ratingFlow.state? "hello" = some ratingFlow.initial ∧
      (ratingInterpreter.gather ⟨"call-1", "hello", 0⟩).result = .ok ⟨some 2, none⟩ ∧
      (∀ digits binding, (ratingInterpreter.resolveKey ratingFlow.initial digits 0).result =
        .ok (some binding) → digits.body.length ≤ 2) ∧
      ∃ keys : List Char, keys.length = 2 ∧ ∃ binding,
        (ratingInterpreter.resolveKey ratingFlow.initial (.ofText (String.ofList keys)) 0).result =
          .ok (some binding) := by
  have fits : Gather.Fits ratingInterpreter ratingFlow.initial 0 ⟨some 2, none⟩ :=
    ratingInterpreter.gather_hints_fit_bound_input ratingFlow_built ⟨"call-1", "hello", 0⟩ rfl rfl
  obtain ⟨keys, long, -, bound⟩ := fits.reached 2 rfl
  exact ⟨ratingFlow_built, rfl, rfl, fits.long_enough 2 rfl, keys, long, bound⟩

end VoiceMenu
