import VoiceMenu.Interpreter.KeyLookup
import VoiceMenu.Proofs.Interpreter.Rules
import VoiceMenu.Proofs.Key.PatternProperties

/-! Key look-up follows the rules, on states whose keys are bound to well-formed
patterns. Both directions are kept apart: the rules derive what the look-up answers,
and whatever they derive is that answer. -/

set_option autoImplicit false

namespace VoiceMenu

open Rules

/-! ## Input and patterns -/

theorem isRunKey_of_isDigit {char : Char} (digit : char.isDigit) : isRunKey char := by
  simp [isRunKey, digit]

namespace Digits

theorem single?_eq_some_iff {digits : Digits} {char : Char} :
    digits.single? = some char ↔ digits.chars = [char] := by
  unfold single?
  split <;> simp_all

theorem spells_body (digits : Digits) : Spells digits digits.body := by
  unfold Spells body withoutTerminator
  split
  · rename_i terminated
    obtain ⟨run, split⟩ := List.getLast?_eq_some_iff.mp terminated
    exact .inr (by simp [split])
  · exact .inl rfl

theorem body_eq_of_spells {digits : Digits} {run : List Char} (spelled : Spells digits run)
    (keys : ∀ char ∈ run, isRunKey char) : digits.body = run := by
  unfold body withoutTerminator
  rcases spelled with plain | terminated
  · rw [plain, if_neg]
    intro final
    have member := List.mem_of_getLast? final
    exact absurd (keys terminator member) (by simp [KeyPattern.terminator_not_runKey])
  · rw [terminated]
    simp

end Digits

namespace KeyPattern

theorem isRun_iff {body : List Char} :
    isRun body = true ↔ body ≠ [] ∧ ∀ char ∈ body, isRunKey char := by
  simp [isRun]

theorem acceptsExactly_key_iff {char : Char} {digits : Digits} :
    (key char).acceptsExactly digits = true ↔ digits.chars = [char] := by
  rw [acceptsExactly, decide_eq_true_eq, Digits.single?_eq_some_iff]

theorem acceptsExactly_sequence_iff {keys : String} {digits : Digits} :
    (sequence keys).acceptsExactly digits = true ↔
      1 < digits.chars.length ∧ digits.body = keys.toList := by
  rw [acceptsExactly, Bool.and_eq_true, decide_eq_true_eq, decide_eq_true_eq, Digits.length]

theorem acceptsExactly_iff {pattern : KeyPattern} {digits : Digits}
    (wellFormed : pattern.WellFormed) :
    pattern.acceptsExactly digits = true ↔ MatchesExactly digits pattern := by
  cases pattern with
  | key char =>
      rw [acceptsExactly_key_iff]
      exact ⟨.key, fun matched => by cases matched; assumption⟩
  | sequence keys =>
      rw [acceptsExactly_sequence_iff]
      constructor
      · rintro ⟨several, same⟩
        exact .sequence several (same ▸ digits.spells_body)
      · intro matched
        cases matched with
        | sequence several spelled =>
            exact ⟨several, Digits.body_eq_of_spells spelled wellFormed.2⟩
  | collector => constructor <;> intro accepted <;> cases accepted
  | wildcard limit => constructor <;> intro accepted <;> cases accepted

theorem collects_iff {digits : Digits} : collects digits = true ↔ Collected digits := by
  rw [collects, isRun_iff]
  constructor
  · rintro ⟨nonempty, keys⟩
    exact ⟨digits.body, nonempty, keys, digits.spells_body⟩
  · rintro ⟨run, nonempty, keys, spelled⟩
    rw [Digits.body_eq_of_spells spelled keys]
    exact ⟨nonempty, keys⟩

theorem fits_iff {most : Nat} {digits : Digits} :
    fits most digits = true ↔ WithinLimit most digits := by
  rw [fits, Bool.and_eq_true, Bool.and_eq_true, isRun_iff, List.all_eq_true, decide_eq_true_eq]
  constructor
  · rintro ⟨⟨⟨nonempty, -⟩, digitsOnly⟩, short⟩
    exact ⟨digits.body, nonempty, digitsOnly, short, digits.spells_body⟩
  · rintro ⟨run, nonempty, digitsOnly, short, spelled⟩
    have keys : ∀ char ∈ run, isRunKey char :=
      fun char member => isRunKey_of_isDigit (digitsOnly char member)
    rw [Digits.body_eq_of_spells spelled keys]
    exact ⟨⟨⟨nonempty, keys⟩, digitsOnly⟩, short⟩

end KeyPattern

theorem Json.digitLimit?_eq_some_iff {reply : Json} {most : Nat} :
    reply.digitLimit? = some most ↔ reply = .integer most := by
  unfold digitLimit?
  split
  · rename_i value
    simp only [Json.integer, Json.number.injEq, Number.integer.injEq]
    exact Int.mem_toNat?
  · rename_i different
    exact ⟨fun found => (by cases found), fun same => absurd same (different _)⟩

namespace Interpreter

variable {δ : Type} (interpreter : Interpreter δ)

/-! ## Limits -/

theorem askText_of_ok {name : String} {domain : δ} {reply : Json}
    (replied : interpreter.resolver.text name domain = .ok reply) :
    interpreter.askText name domain = ⟨.ok reply, [.asked name]⟩ := by
  rw [askText, replied]
  rfl

theorem askText_of_error {name : String} {domain : δ} {error : CallbackError}
    (failed : interpreter.resolver.text name domain = .error error) :
    interpreter.askText name domain = ⟨.error (.callback error), [.asked name]⟩ := by
  rw [askText, failed]
  rfl

theorem digitLimit_eq_of_limitIs {domain : δ} {limit : DigitLimit} {answer : Query Nat}
    (inForce : LimitIs interpreter.resolver domain limit answer) :
    interpreter.digitLimit domain limit = answer := by
  cases inForce with
  | fixed => rfl
  | @count name most replied =>
      rw [digitLimit, Query.bind_of_ok (by rw [askText_of_ok _ replied]),
        Json.digitLimit?_eq_some_iff.mpr rfl, askText_of_ok _ replied]
      rfl
  | @noCount name reply replied noCount =>
      have uncounted : reply.digitLimit? = none :=
        Option.eq_none_iff_forall_ne_some.mpr fun most counted =>
          noCount most (Json.digitLimit?_eq_some_iff.mp counted)
      rw [digitLimit, Query.bind_of_ok (by rw [askText_of_ok _ replied]), uncounted,
        askText_of_ok _ replied]
      rfl
  | failure failed =>
      rw [digitLimit, Query.bind_of_error (by rw [askText_of_error _ failed]),
        askText_of_error _ failed]

theorem exists_limitIs (resolver : Resolver δ) (domain : δ) (limit : DigitLimit) :
    ∃ answer, LimitIs resolver domain limit answer := by
  cases limit with
  | fixed most => exact ⟨_, .fixed⟩
  | callback name =>
      cases replied : resolver.text name domain with
      | error error => exact ⟨_, .failure replied⟩
      | ok reply =>
          cases counted : reply.digitLimit? with
          | some most =>
              rw [Json.digitLimit?_eq_some_iff.mp counted] at replied
              exact ⟨_, .count replied⟩
          | none =>
              refine ⟨_, .noCount replied fun most same => ?_⟩
              rw [Json.digitLimit?_eq_some_iff.mpr same] at counted
              cases counted

/-! ## Bindings -/

theorem runBinding?_eq_of_tries {domain : δ} {digits : Digits} {keys : List KeyBinding}
    {answer : Query (Option KeyBinding)}
    (tried : Tries interpreter.resolver domain digits keys answer) :
    interpreter.runBinding? domain digits keys = answer := by
  induction tried with
  | nothing => rfl
  | @exactPattern binding rest answer exactly _ ih =>
      rw [← ih, runBinding?]
      cases form : binding.pattern with
      | key char => rfl
      | sequence keys => rfl
      | collector => rw [form] at exactly; cases exactly
      | wildcard limit => rw [form] at exactly; cases exactly
  | collected form collected =>
      rw [runBinding?, form]
      exact if_pos (KeyPattern.collects_iff.mpr collected)
  | uncollected form uncollected _ ih =>
      rw [← ih, runBinding?, form]
      exact if_neg fun collects => uncollected (KeyPattern.collects_iff.mp collects)
  | limitFailure form inForce =>
      have limited := interpreter.digitLimit_eq_of_limitIs inForce
      rw [runBinding?, form]
      dsimp only
      rw [Query.bind_of_error (by rw [limited]), limited]
  | @within binding rest limit most log form inForce within =>
      have limited := interpreter.digitLimit_eq_of_limitIs inForce
      rw [runBinding?, form]
      dsimp only
      rw [Query.bind_of_ok (by rw [limited]), limited, if_pos (KeyPattern.fits_iff.mpr within)]
      simp [Query.behind]
  | beyond form inForce beyond _ ih =>
      have limited := interpreter.digitLimit_eq_of_limitIs inForce
      rw [runBinding?, form]
      dsimp only
      rw [Query.bind_of_ok (by rw [limited]), limited,
        if_neg fun fits => beyond (KeyPattern.fits_iff.mp fits), ih]

theorem exists_tries (resolver : Resolver δ) (domain : δ) (digits : Digits)
    (keys : List KeyBinding) : ∃ answer, Tries resolver domain digits keys answer := by
  induction keys with
  | nil => exact ⟨_, .nothing⟩
  | cons binding rest ih =>
      obtain ⟨answer, tried⟩ := ih
      cases form : binding.pattern with
      | key char => exact ⟨_, .exactPattern (by rw [form]; rfl) tried⟩
      | sequence keys => exact ⟨_, .exactPattern (by rw [form]; rfl) tried⟩
      | collector =>
          by_cases collected : Collected digits
          · exact ⟨_, .collected form collected⟩
          · exact ⟨_, .uncollected form collected tried⟩
      | wildcard limit =>
          obtain ⟨⟨result, log⟩, inForce⟩ := exists_limitIs resolver domain limit
          cases result with
          | error error => exact ⟨_, .limitFailure form inForce⟩
          | ok most =>
              by_cases within : WithinLimit most digits
              · exact ⟨_, .within form inForce within⟩
              · exact ⟨_, .beyond form inForce within tried⟩

theorem exactBinding?_eq_some_iff {keys : List KeyBinding} {digits : Digits}
    {binding : KeyBinding} (wellFormed : ∀ bound ∈ keys, bound.pattern.WellFormed) :
    exactBinding? keys digits = some binding ↔
      MatchesExactly digits binding.pattern ∧ ∃ before after, keys = before ++ binding :: after ∧
        ∀ earlier ∈ before, ¬ MatchesExactly digits earlier.pattern := by
  rw [exactBinding?, List.find?_eq_some_iff_append]
  constructor
  · rintro ⟨accepted, before, after, split, refused⟩
    subst split
    refine ⟨(KeyPattern.acceptsExactly_iff (wellFormed binding (by simp))).mp accepted,
      before, after, rfl, fun earlier member matched => ?_⟩
    have accepts := (KeyPattern.acceptsExactly_iff
      (wellFormed earlier (List.mem_append_left _ member))).mpr matched
    simpa [accepts] using refused earlier member
  · rintro ⟨matched, before, after, split, refused⟩
    subst split
    refine ⟨(KeyPattern.acceptsExactly_iff (wellFormed binding (by simp))).mpr matched,
      before, after, rfl, fun earlier member => ?_⟩
    rw [Bool.not_eq_true', Bool.eq_false_iff]
    exact fun accepts => refused earlier member ((KeyPattern.acceptsExactly_iff
      (wellFormed earlier (List.mem_append_left _ member))).mp accepts)

theorem exactBinding?_eq_none_iff {keys : List KeyBinding} {digits : Digits}
    (wellFormed : ∀ bound ∈ keys, bound.pattern.WellFormed) :
    exactBinding? keys digits = none ↔
      ∀ binding ∈ keys, ¬ MatchesExactly digits binding.pattern := by
  rw [exactBinding?, List.find?_eq_none]
  constructor
  · intro refused binding member matched
    exact refused binding member
      ((KeyPattern.acceptsExactly_iff (wellFormed binding member)).mpr matched)
  · intro unmatched binding member accepts
    exact unmatched binding member
      ((KeyPattern.acceptsExactly_iff (wellFormed binding member)).mp accepts)

theorem resolveKey_eq_of_resolves {state : State} {digits : Digits} {domain : δ}
    {answer : Query (Option KeyBinding)}
    (wellFormed : ∀ bound ∈ state.keys, bound.pattern.WellFormed)
    (resolved : Resolves interpreter.resolver domain digits state.keys answer) :
    interpreter.resolveKey state digits domain = answer := by
  cases resolved with
  | noInput none => simp [resolveKey, Digits.isEmpty, none]
  | @exact before after binding some split unmatched matched =>
      have found := (exactBinding?_eq_some_iff wellFormed).mpr
        ⟨matched, before, after, split, unmatched⟩
      simp [resolveKey, Digits.isEmpty, some, found]
  | run some unmatched tried =>
      have found := (exactBinding?_eq_none_iff wellFormed).mpr unmatched
      simp [resolveKey, Digits.isEmpty, some, found, interpreter.runBinding?_eq_of_tries tried]

theorem exists_resolves (resolver : Resolver δ) (domain : δ) (digits : Digits)
    {keys : List KeyBinding} (wellFormed : ∀ bound ∈ keys, bound.pattern.WellFormed) :
    ∃ answer, Resolves resolver domain digits keys answer := by
  by_cases empty : digits.chars = []
  · exact ⟨_, .noInput empty⟩
  · cases found : exactBinding? keys digits with
    | none =>
        obtain ⟨answer, tried⟩ := exists_tries resolver domain digits keys
        exact ⟨answer, .run empty ((exactBinding?_eq_none_iff wellFormed).mp found) tried⟩
    | some binding =>
        obtain ⟨matched, before, after, split, unmatched⟩ :=
          (exactBinding?_eq_some_iff wellFormed).mp found
        exact ⟨_, .exact empty split unmatched matched⟩

end Interpreter

end VoiceMenu
