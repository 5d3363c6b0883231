import VoiceMenu.Proofs.Flow.WellFormedProperties
import VoiceMenu.Proofs.Interpreter.ResponseProperties
import VoiceMenu.Proofs.Key.TextProperties

/-! What a key look-up does not depend on. No two exact patterns of a state accept the same
input, so only collectors and wildcards need their order. Input is looked up alike with and
without the terminator, unless it is a single key that the state binds. -/

set_option autoImplicit false

namespace VoiceMenu

/-! ## Input with the terminator -/

namespace Digits

/-- There are no blanks left to drop. -/
def Normalized (digits : Digits) : Prop := digits = .ofText digits.text

/-- The input with the terminator typed behind it. -/
def ended (digits : Digits) : Digits := .ofText (digits.text ++ String.singleton terminator)

theorem normalized_ofText (text : String) : (ofText text).Normalized := by
  have same : Text.trimChars (Text.trimChars text.toList) = Text.trimChars text.toList :=
    Text.trimChars_of_ends (fun _ => Text.not_blank_of_head?) (fun _ => Text.not_blank_of_getLast?)
  simp only [Normalized, ofText, Text.trim, String.toList_ofList, same]

variable {typed : Digits}

theorem chars_ended (normalized : typed.Normalized) :
    typed.ended.chars = typed.chars ++ [terminator] := by
  have trimmed : Text.trimChars typed.chars = typed.chars := by
    conv_rhs => rw [normalized]
    exact (Text.toList_trim typed.text).symm
  have kept : Text.trimChars (typed.chars ++ [terminator]) = typed.chars ++ [terminator] := by
    refine Text.trimChars_of_ends (fun char front => ?_) (fun char back => ?_)
    · rw [← trimmed, List.head?_append] at front
      cases first : (Text.trimChars typed.chars).head? with
      | none =>
          rw [first] at front
          cases front
          rfl
      | some other =>
          rw [first] at front
          cases front
          exact Text.not_blank_of_head? first
    · rw [List.getLast?_concat] at back
      cases back
      rfl
  calc
    typed.ended.chars = Text.trimChars (typed.chars ++ [terminator]) := by
      simp [chars, ended, ofText]
    _ = typed.chars ++ [terminator] := kept

theorem body_ended (normalized : typed.Normalized) : typed.ended.body = typed.chars := by
  simp [body, withoutTerminator, chars_ended normalized]

theorem body_of_unended (unended : typed.chars.getLast? ≠ some terminator) :
    typed.body = typed.chars := by
  rw [body, withoutTerminator, if_neg unended]

end Digits

/-! ## Exact patterns -/

namespace KeyPattern

variable {pattern other : KeyPattern} {digits : Digits}

theorem eq_of_acceptsExactly (accepted : pattern.acceptsExactly digits = true)
    (otherAccepted : other.acceptsExactly digits = true) : pattern = other := by
  have apart {char : Char} {keys : String} (single : (key char).acceptsExactly digits = true)
      (several : (sequence keys).acceptsExactly digits = true) : False := by
    rw [acceptsExactly_key_iff] at single
    rw [acceptsExactly_sequence_iff, single] at several
    exact absurd several.1 (Nat.lt_irrefl 1)
  cases pattern with
  | collector | wildcard => cases accepted
  | key char =>
      cases other with
      | collector | wildcard => cases otherAccepted
      | key otherChar =>
          rw [acceptsExactly_key_iff] at accepted otherAccepted
          cases accepted.symm.trans otherAccepted
          rfl
      | sequence keys => exact (apart accepted otherAccepted).elim
  | sequence keys =>
      cases other with
      | collector | wildcard => cases otherAccepted
      | key char => exact (apart otherAccepted accepted).elim
      | sequence otherKeys =>
          rw [acceptsExactly_sequence_iff] at accepted otherAccepted
          rw [String.toList_inj.mp (accepted.2.symm.trans otherAccepted.2)]

theorem acceptsExactly_single {key : Char} (single : digits.chars = [key])
    (pattern : KeyPattern) :
    pattern.acceptsExactly digits = Decidable.decide (pattern = .key key) := by
  cases pattern with
  | key char =>
      rw [Bool.eq_iff_iff, acceptsExactly_key_iff, single]
      simp [eq_comm]
  | sequence keys =>
      rw [Bool.eq_iff_iff, acceptsExactly_sequence_iff, single]
      simp
  | collector | wildcard => rfl

variable {typed : Digits}

theorem acceptsExactly_ended (normalized : typed.Normalized) (several : 1 < typed.length)
    (unended : typed.chars.getLast? ≠ some terminator) (pattern : KeyPattern) :
    pattern.acceptsExactly typed.ended = pattern.acceptsExactly typed := by
  rw [Digits.length] at several
  have severalEnded : 1 < typed.ended.chars.length := by
    rw [Digits.chars_ended normalized, List.length_append]
    omega
  have notSingle {digits : Digits} {char : Char} (long : 1 < digits.chars.length) :
      ¬ digits.chars = [char] := by
    intro single
    rw [single] at long
    exact Nat.lt_irrefl 1 long
  cases pattern with
  | key char =>
      rw [Bool.eq_iff_iff, acceptsExactly_key_iff, acceptsExactly_key_iff]
      exact iff_of_false (notSingle severalEnded) (notSingle several)
  | sequence keys =>
      rw [Bool.eq_iff_iff, acceptsExactly_sequence_iff, acceptsExactly_sequence_iff,
        Digits.body_ended normalized, Digits.body_of_unended unended]
      exact and_congr_left' (iff_of_true severalEnded several)
  | collector | wildcard => rfl

theorem acceptsExactly_ended_single {key : Char} (normalized : typed.Normalized)
    (single : typed.chars = [key]) (pattern : KeyPattern) :
    pattern.acceptsExactly typed.ended =
      Decidable.decide (pattern = .sequence (String.singleton key)) := by
  have chars : typed.ended.chars = [key, terminator] := by
    rw [Digits.chars_ended normalized, single]
    rfl
  cases pattern with
  | key char =>
      rw [Bool.eq_iff_iff, acceptsExactly_key_iff, chars]
      simp
  | sequence keys =>
      rw [Bool.eq_iff_iff, acceptsExactly_sequence_iff, chars, Digits.body_ended normalized, single]
      simp [← String.toList_inj, eq_comm]
  | collector | wildcard => rfl

end KeyPattern

namespace Interpreter

variable {δ : Type} {keys others : List KeyBinding} {digits other : Digits}

theorem binding_eq_of_acceptsExactly (distinct : (keys.map (·.pattern)).Nodup)
    {first second : KeyBinding} (firstBound : first ∈ keys) (secondBound : second ∈ keys)
    (accepted : first.pattern.acceptsExactly digits = true)
    (alsoAccepted : second.pattern.acceptsExactly digits = true) : first = second :=
  List.inj_on_of_nodup_map distinct firstBound secondBound
    (KeyPattern.eq_of_acceptsExactly accepted alsoAccepted)

theorem length_filter_acceptsExactly (distinct : (keys.map (·.pattern)).Nodup) (digits : Digits) :
    (keys.filter (·.pattern.acceptsExactly digits)).length ≤ 1 := by
  have once : (keys.filter (·.pattern.acceptsExactly digits)).Nodup :=
    (List.Nodup.of_map _ distinct).filter _
  rcases accepting : keys.filter (·.pattern.acceptsExactly digits) with _ | ⟨first, _ | ⟨second, rest⟩⟩
  · rw [accepting]
    exact Nat.zero_le 1
  · rw [accepting]
    exact Nat.le_refl 1
  -- Two bindings that accept the input would be one binding twice.
  · have accepts : ∀ binding ∈ first :: second :: rest,
        binding ∈ keys ∧ binding.pattern.acceptsExactly digits = true := by
      intro binding member
      rw [← accepting] at member
      exact List.mem_filter.mp member
    obtain ⟨firstBound, accepted⟩ := accepts first (by simp)
    obtain ⟨secondBound, alsoAccepted⟩ := accepts second (by simp)
    have same := binding_eq_of_acceptsExactly distinct firstBound secondBound accepted alsoAccepted
    rw [accepting, same] at once
    exact absurd List.mem_cons_self (List.nodup_cons.mp once).1

theorem of_exactBinding? {binding : KeyBinding} (found : exactBinding? keys digits = some binding) :
    binding ∈ keys ∧ binding.pattern.acceptsExactly digits = true := by
  rw [exactBinding?] at found
  exact ⟨List.mem_of_find?_eq_some found, by simpa using List.find?_some found⟩

theorem exactBinding?_perm (distinct : (keys.map (·.pattern)).Nodup) (reordered : others.Perm keys)
    (digits : Digits) : exactBinding? others digits = exactBinding? keys digits := by
  cases found : exactBinding? others digits with
  | none =>
      symm
      apply List.find?_eq_none.mpr
      intro binding bound
      exact List.find?_eq_none.mp found binding (reordered.mem_iff.mpr bound)
  | some first =>
      obtain ⟨moved, accepted⟩ := of_exactBinding? found
      have bound := reordered.mem_iff.mp moved
      cases foundHere : exactBinding? keys digits with
      | none => exact absurd accepted (List.find?_eq_none.mp foundHere first bound)
      | some second =>
          obtain ⟨alsoBound, alsoAccepted⟩ := of_exactBinding? foundHere
          rw [binding_eq_of_acceptsExactly distinct bound alsoBound accepted alsoAccepted]

/-! ## Collectors and wildcards -/

variable (interpreter : Interpreter δ) {domain : δ}

theorem runBinding?_of_exact {binding : KeyBinding} (exact : binding.pattern.isExact = true)
    (rest : List KeyBinding) :
    interpreter.runBinding? domain digits (binding :: rest) =
      interpreter.runBinding? domain digits rest := by
  rw [runBinding?]
  cases form : binding.pattern with
  | key | sequence => rfl
  | collector | wildcard => rw [form] at exact; cases exact

theorem runBinding?_filter (domain : δ) (digits : Digits) (keys : List KeyBinding) :
    interpreter.runBinding? domain digits (keys.filter (!·.pattern.isExact)) =
      interpreter.runBinding? domain digits keys := by
  induction keys with
  | nil => rfl
  | cons binding rest ih =>
      by_cases exact : binding.pattern.isExact = true
      · rw [List.filter_cons_of_neg (by simp [exact]), ih, runBinding?_of_exact _ exact]
      · rw [List.filter_cons_of_pos (by simp [exact])]
        simp only [runBinding?, ih]

theorem runBinding?_congr (collects : KeyPattern.collects other = KeyPattern.collects digits)
    (fits : ∀ most, KeyPattern.fits most other = KeyPattern.fits most digits)
    (keys : List KeyBinding) :
    interpreter.runBinding? domain other keys = interpreter.runBinding? domain digits keys := by
  induction keys with
  | nil => rfl
  | cons binding rest ih => simp only [runBinding?, collects, fits, ih]

/-! ## Look-up -/

theorem resolveKey_of_exact {state : State} {binding : KeyBinding} (input : digits.chars ≠ [])
    (exact : exactBinding? state.keys digits = some binding) :
    interpreter.resolveKey state digits domain = ⟨.ok (some binding), []⟩ := by
  simp [resolveKey, Digits.isEmpty, input, exact]

theorem resolveKey_of_inexact {state : State} (input : digits.chars ≠ [])
    (inexact : exactBinding? state.keys digits = none) :
    interpreter.resolveKey state digits domain =
      interpreter.runBinding? domain digits state.keys := by
  simp [resolveKey, Digits.isEmpty, input, inexact]

theorem not_isExact_of_runBinding? {binding : KeyBinding}
    (ran : (interpreter.runBinding? domain digits keys).result = .ok (some binding)) :
    binding.pattern.isExact = false := by
  rw [← interpreter.runBinding?_filter] at ran
  obtain ⟨answer, tried⟩ := exists_tries interpreter.resolver domain digits
    (keys.filter (!·.pattern.isExact))
  rw [interpreter.runBinding?_eq_of_tries tried] at ran
  simpa using (List.mem_filter.mp (tried.mem_of_some ran)).2

theorem resolveKey_reordered {state : State} (distinct : (state.keys.map (·.pattern)).Nodup)
    (reordered : others.Perm state.keys)
    (inOrder : others.filter (!·.pattern.isExact) = state.keys.filter (!·.pattern.isExact))
    (digits : Digits) :
    interpreter.resolveKey { state with keys := others } digits domain =
      interpreter.resolveKey state digits domain := by
  have runs : interpreter.runBinding? domain digits others =
      interpreter.runBinding? domain digits state.keys := by
    rw [← interpreter.runBinding?_filter, inOrder, interpreter.runBinding?_filter]
  simp only [resolveKey, exactBinding?_perm distinct reordered, runs]

variable {typed : Digits}

theorem runBinding?_ended (normalized : typed.Normalized)
    (unended : typed.chars.getLast? ≠ some terminator) :
    interpreter.runBinding? domain typed.ended keys =
      interpreter.runBinding? domain typed keys := by
  have body : typed.ended.body = typed.body :=
    (Digits.body_ended normalized).trans (Digits.body_of_unended unended).symm
  refine interpreter.runBinding?_congr ?_ (fun most => ?_) keys
  · rw [KeyPattern.collects, KeyPattern.collects, body]
  · rw [KeyPattern.fits, KeyPattern.fits, body]

theorem resolveKey_ended {state : State} (normalized : typed.Normalized)
    (several : 1 < typed.length) (unended : typed.chars.getLast? ≠ some terminator) :
    interpreter.resolveKey state typed.ended domain =
      interpreter.resolveKey state typed domain := by
  have input : typed.chars ≠ [] := List.length_pos_iff.mp (Nat.lt_of_succ_lt several)
  have endedInput : typed.ended.chars ≠ [] := by simp [Digits.chars_ended normalized]
  have exact : exactBinding? state.keys typed.ended = exactBinding? state.keys typed := by
    simp only [exactBinding?, KeyPattern.acceptsExactly_ended normalized several unended]
  cases found : exactBinding? state.keys typed with
  | none =>
      rw [interpreter.resolveKey_of_inexact input found,
        interpreter.resolveKey_of_inexact endedInput (exact.trans found),
        interpreter.runBinding?_ended normalized unended]
  | some binding =>
      rw [interpreter.resolveKey_of_exact input found,
        interpreter.resolveKey_of_exact endedInput (exact.trans found)]

/-- The terminator alone is no run of keys, with another one behind it or without. -/
theorem runBinding?_ended_single {key : Char} (normalized : typed.Normalized)
    (single : typed.chars = [key]) :
    interpreter.runBinding? domain typed.ended keys =
      interpreter.runBinding? domain typed keys := by
  by_cases terminal : key = terminator
  · have body : typed.body = [] := by
      simp [Digits.body, Digits.withoutTerminator, single, terminal]
    have endedBody : typed.ended.body = [terminator] := by
      rw [Digits.body_ended normalized, single, terminal]
    refine interpreter.runBinding?_congr ?_ (fun most => ?_) keys
    · rw [KeyPattern.collects, KeyPattern.collects, body, endedBody]
      rfl
    · rw [KeyPattern.fits, KeyPattern.fits, body, endedBody]
      rfl
  · refine interpreter.runBinding?_ended normalized ?_
    simp [single, terminal]

theorem resolveKey_ended_single_iff {state : State} {key : Char} (normalized : typed.Normalized)
    (single : typed.chars = [key]) :
    interpreter.resolveKey state typed.ended domain = interpreter.resolveKey state typed domain ↔
      state.binding? (.key key) = none ∧
        state.binding? (.sequence (String.singleton key)) = none := by
  have asKey : exactBinding? state.keys typed = state.binding? (.key key) := by
    simp only [exactBinding?, State.binding?, KeyPattern.acceptsExactly_single single]
  have asSequence : exactBinding? state.keys typed.ended =
      state.binding? (.sequence (String.singleton key)) := by
    simp only [exactBinding?, State.binding?,
      KeyPattern.acceptsExactly_ended_single normalized single]
  have input : typed.chars ≠ [] := by simp [single]
  have endedInput : typed.ended.chars ≠ [] := by simp [Digits.chars_ended normalized]
  -- Each spelling finds its own exact pattern, and no run ever ends at an exact one.
  cases keyBound : state.binding? (.key key) with
  | none =>
      rw [interpreter.resolveKey_of_inexact input (asKey.trans keyBound)]
      cases sequenceBound : state.binding? (.sequence (String.singleton key)) with
      | none =>
          rw [interpreter.resolveKey_of_inexact endedInput (asSequence.trans sequenceBound),
            interpreter.runBinding?_ended_single normalized single]
          simp
      | some binding =>
          rw [interpreter.resolveKey_of_exact endedInput (asSequence.trans sequenceBound)]
          simp only [reduceCtorEq, and_false, iff_false]
          intro same
          have inexact := interpreter.not_isExact_of_runBinding? (congrArg Query.result same.symm)
          rw [State.pattern_of_binding? sequenceBound] at inexact
          cases inexact
  | some binding =>
      rw [interpreter.resolveKey_of_exact input (asKey.trans keyBound)]
      simp only [reduceCtorEq, false_and, iff_false]
      intro same
      cases sequenceBound : state.binding? (.sequence (String.singleton key)) with
      | none =>
          rw [interpreter.resolveKey_of_inexact endedInput (asSequence.trans sequenceBound)] at same
          have inexact := interpreter.not_isExact_of_runBinding? (congrArg Query.result same)
          rw [State.pattern_of_binding? keyBound] at inexact
          cases inexact
      | some other =>
          rw [interpreter.resolveKey_of_exact endedInput (asSequence.trans sequenceBound)] at same
          cases same
          have asSequence := State.pattern_of_binding? sequenceBound
          rw [State.pattern_of_binding? keyBound] at asSequence
          cases asSequence

/-- A look-up needs the order of collectors and wildcards only, and a run of keys is looked up
as the same run ended by the terminator. Of a single key that is so unless the state binds
either of the two spellings. -/
theorem lookup_needs_wildcard_order_only (interpreter : Interpreter δ)
    (built : interpreter.flow.Built) {state : State} (member : state ∈ interpreter.flow.states)
    (domain : δ) :
    (∀ digits, (state.keys.filter (·.pattern.acceptsExactly digits)).length ≤ 1) ∧
      (∀ digits keys, keys.Perm state.keys →
        keys.filter (!·.pattern.isExact) = state.keys.filter (!·.pattern.isExact) →
        interpreter.resolveKey { state with keys } digits domain =
          interpreter.resolveKey state digits domain) ∧
      ∀ text, let typed := Digits.ofText text
        (1 < typed.length → typed.chars.getLast? ≠ some terminator →
          interpreter.resolveKey state typed.ended domain =
            interpreter.resolveKey state typed domain) ∧
        ∀ key, typed.chars = [key] →
          (interpreter.resolveKey state typed.ended domain =
              interpreter.resolveKey state typed domain ↔
            state.binding? (.key key) = none ∧
              state.binding? (.sequence (String.singleton key)) = none) := by
  have distinct := (built.state_wellFormed member).patterns_distinct
  refine ⟨length_filter_acceptsExactly distinct, fun digits keys reordered inOrder => ?_,
    fun text => ⟨fun several unended => ?_, fun key single => ?_⟩⟩
  · exact interpreter.resolveKey_reordered distinct reordered inOrder digits
  · exact interpreter.resolveKey_ended (Digits.normalized_ofText text) several unended
  · exact interpreter.resolveKey_ended_single_iff (Digits.normalized_ofText text) single

end Interpreter

theorem ratingInterpreter_looks_up_in_any_order :
    ratingInterpreter.flow.Built ∧ ratingFlow.initial ∈ ratingFlow.states ∧
      (∀ digits, ratingInterpreter.resolveKey
          { ratingFlow.initial with keys := ratingFlow.initial.keys.reverse } digits 0 =
        ratingInterpreter.resolveKey ratingFlow.initial digits 0) ∧
      ratingInterpreter.resolveKey ratingFlow.initial (Digits.ofText " 42\n").ended 0 =
        ratingInterpreter.resolveKey ratingFlow.initial (.ofText " 42\n") 0 ∧
      ratingInterpreter.resolveKey ratingFlow.initial (Digits.ofText "1").ended 0 ≠
        ratingInterpreter.resolveKey ratingFlow.initial (.ofText "1") 0 := by
  have member : ratingFlow.initial ∈ ratingFlow.states := List.mem_cons_self
  obtain ⟨-, anyOrder, spellings⟩ :=
    ratingInterpreter.lookup_needs_wildcard_order_only ratingFlow_built member 0
  refine ⟨ratingFlow_built, member, fun digits => ?_, ?_, fun same => ?_⟩
  · exact anyOrder digits _ (List.reverse_perm _) rfl
  · exact (spellings " 42\n").1 (by decide) (by decide)
  · have unbound := ((spellings "1").2 '1' rfl).mp same
    cases unbound.1

end VoiceMenu
