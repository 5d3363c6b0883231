import Mathlib.Data.List.TakeWhile
import VoiceMenu.Proofs.Key.TextProperties

/-! The grammar of key patterns: one rule for each form. A text is read just if, apart from
white space around it, a rule writes it; it is then read as the pattern of that rule. -/

set_option autoImplicit false

namespace VoiceMenu

namespace Text

/-- The 25 code points with the Unicode property White_Space. -/
def WhiteSpace (char : Char) : Prop :=
  char.toNat ∈
    [0x09, 0x0A, 0x0B, 0x0C, 0x0D, 0x20, 0x85, 0xA0, 0x1680, 0x2000, 0x2001, 0x2002, 0x2003,
      0x2004, 0x2005, 0x2006, 0x2007, 0x2008, 0x2009, 0x200A, 0x2028, 0x2029, 0x202F, 0x205F,
      0x3000]

/-- What is kept begins and ends with no white space, which is all that is left out around it. -/
structure Trims (chars kept : List Char) : Prop where
  split : ∃ before after, chars = before ++ kept ++ after ∧
    ∀ char ∈ before ++ after, WhiteSpace char
  front : ∀ char, kept.head? = some char → ¬ WhiteSpace char
  back : ∀ char, kept.getLast? = some char → ¬ WhiteSpace char

theorem isBlank_iff {char : Char} : isBlank char = true ↔ WhiteSpace char := by
  simp only [isBlank, WhiteSpace, Bool.or_eq_true, Bool.and_eq_true, decide_eq_true_iff,
    beq_iff_eq, List.mem_cons, List.not_mem_nil, or_false]
  omega

theorem isBlank_eq_false_iff {char : Char} : isBlank char = false ↔ ¬ WhiteSpace char := by
  rw [← Bool.not_eq_true, isBlank_iff]

theorem trimStart_blanks_append {blanks rest : List Char}
    (blank : ∀ char ∈ blanks, isBlank char = true) :
    trimStart (blanks ++ rest) = trimStart rest := by
  induction blanks with
  | nil => rfl
  | cons char blanks ih =>
      obtain ⟨here, later⟩ := List.forall_mem_cons.mp blank
      rw [List.cons_append, trimStart, List.dropWhile_cons_of_pos here]
      exact ih later

theorem trimStart_append_blanks {kept blanks : List Char}
    (front : ∀ char, kept.head? = some char → isBlank char = false)
    (blank : ∀ char ∈ blanks, isBlank char = true) :
    ∃ rest, trimStart (kept ++ blanks) = kept ++ rest ∧ ∀ char ∈ rest, isBlank char = true := by
  cases kept with
  | nil =>
      refine ⟨[], ?_, by simp⟩
      exact List.dropWhile_eq_nil_iff.mpr blank
  | cons char kept =>
      refine ⟨blanks, ?_, blank⟩
      exact trimStart_of_head front

theorem trims_iff {chars kept : List Char} : Trims chars kept ↔ trimChars chars = kept := by
  constructor
  · intro trims
    obtain ⟨⟨before, after, rfl, blank⟩, front, back⟩ := trims
    simp only [← isBlank_iff, Bool.not_eq_true] at blank front back
    obtain ⟨blankBefore, blankAfter⟩ := List.forall_mem_append.mp blank
    obtain ⟨rest, kept_rest, blankRest⟩ := trimStart_append_blanks front blankAfter
    have backFirst : ∀ char, kept.reverse.head? = some char → isBlank char = false := by
      rw [List.head?_reverse]
      exact back
    have blankReverse : ∀ char ∈ rest.reverse, isBlank char = true := by simpa using blankRest
    rw [trimChars, List.append_assoc, trimStart_blanks_append blankBefore, kept_rest,
      List.reverse_append, trimStart_blanks_append blankReverse, trimStart_of_head backFirst,
      List.reverse_reverse]
  · intro kept_eq
    subst kept_eq
    obtain ⟨before, after, split, blank⟩ := trimChars_append chars
    refine ⟨⟨before, after, split.symm, fun char member => isBlank_iff.mp (blank char member)⟩,
      fun char first => ?_, fun char last => ?_⟩
    · exact isBlank_eq_false_iff.mp (not_blank_of_head? first)
    · exact isBlank_eq_false_iff.mp (not_blank_of_getLast? last)

end Text

open Text

namespace KeyPattern

def DecimalDigit (char : Char) : Prop := '0' ≤ char ∧ char ≤ '9'

def TelephoneKey (char : Char) : Prop := DecimalDigit char ∨ char = '*'

/-- The rules of the grammar. A limit is written with leading zeros or a plus sign or not, and
fits into 64 bits. -/
inductive Rule : List Char → KeyPattern → Prop where
  | collector : Rule ['#'] .collector
  | key {char : Char} : TelephoneKey char → Rule [char] (.key char)
  | sequence {keys : List Char} :
      keys ≠ [] → (∀ char ∈ keys, TelephoneKey char) →
      Rule (keys ++ ['#']) (.sequence (String.ofList keys))
  | fixed {sign digits : List Char} {most : Nat} :
      sign = [] ∨ sign = ['+'] → digits ≠ [] → (∀ char ∈ digits, DecimalDigit char) →
      Nat.ofDigitChars 10 digits 0 = most → 1 ≤ most → most ≤ 18446744073709551615 →
      Rule ('.' :: (sign ++ digits)) (.wildcard (.fixed most))
  | callback {name : List Char} :
      name ≠ [] → Rule ('.' :: ':' :: name) (.wildcard (.callback (String.ofList name)))

/-! ## Characters and limits -/

theorem isDigit_iff {char : Char} : char.isDigit = true ↔ DecimalDigit char := by
  rw [Char.isDigit, Bool.and_eq_true, decide_eq_true_iff, decide_eq_true_iff]
  exact Iff.rfl

theorem isRunKey_iff {char : Char} : isRunKey char = true ↔ TelephoneKey char := by
  rw [isRunKey, Bool.or_eq_true, isDigit_iff, beq_iff_eq, TelephoneKey]

theorem decimal_ne_plus {char : Char} (decimal : DecimalDigit char) : char ≠ '+' := by
  intro same
  subst same
  exact absurd decimal (by unfold DecimalDigit; decide)

/-- The digits write the number, which is small enough for a limit. -/
structure Numeral (digits : List Char) (most : Nat) : Prop where
  nonempty : digits ≠ []
  decimal : ∀ char ∈ digits, DecimalDigit char
  value : Nat.ofDigitChars 10 digits 0 = most
  below : most < limitBound

/-- What is left to read of a limit without its sign. -/
def unsigned? (digits : List Char) : Option Nat :=
  if digits.isEmpty ∨ ¬ digits.all Char.isDigit then none
  else if numeral 10 digits < limitBound then some (numeral 10 digits) else none

theorem limit?_plus (digits : List Char) : limit? ('+' :: digits) = unsigned? digits := rfl

theorem limit?_plain {digits : List Char} (plain : ∀ rest, digits = '+' :: rest → False) :
    limit? digits = unsigned? digits := by
  rw [limit?, unsigned?]
  exact plain

theorem numeral_of_decimal {digits : List Char} (decimal : ∀ char ∈ digits, DecimalDigit char) :
    numeral 10 digits = Nat.ofDigitChars 10 digits 0 :=
  foldl_digitValue_eq (fun char member => isDigit_iff.mpr (decimal char member)) 0

theorem unsigned?_eq_some_iff {digits : List Char} {most : Nat} :
    unsigned? digits = some most ↔ Numeral digits most := by
  have all_iff : digits.all Char.isDigit = true ↔ ∀ char ∈ digits, DecimalDigit char := by
    simp only [List.all_eq_true, isDigit_iff]
  simp only [unsigned?, Option.ite_none_left_eq_some, Option.ite_none_right_eq_some,
    Option.some.injEq, not_or, not_not, all_iff, List.isEmpty_iff]
  constructor
  · intro read
    obtain ⟨⟨nonempty, decimal⟩, below, rfl⟩ := read
    exact ⟨nonempty, decimal, (numeral_of_decimal decimal).symm, below⟩
  · intro written
    obtain ⟨nonempty, decimal, rfl, below⟩ := written
    have value := numeral_of_decimal decimal
    exact ⟨⟨nonempty, decimal⟩, value.trans_lt below, value⟩

theorem limit?_eq_some_iff {chars : List Char} {most : Nat} :
    limit? chars = some most ↔ ∃ sign digits, chars = sign ++ digits ∧
      (sign = [] ∨ sign = ['+']) ∧ Numeral digits most := by
  by_cases plus : ∃ rest, chars = '+' :: rest
  · obtain ⟨rest, rfl⟩ := plus
    rw [limit?_plus, unsigned?_eq_some_iff]
    constructor
    · exact fun read => ⟨['+'], rest, rfl, .inr rfl, read⟩
    · intro written
      obtain ⟨sign, digits, split, rfl | rfl, read⟩ := written
      · rw [List.nil_append] at split
        subst split
        exact absurd rfl (decimal_ne_plus (read.decimal '+' List.mem_cons_self))
      · cases split
        exact read
  · have plain : ∀ rest, chars = '+' :: rest → False := fun rest same => plus ⟨rest, same⟩
    rw [limit?_plain plain, unsigned?_eq_some_iff]
    constructor
    · exact fun read => ⟨[], chars, rfl, .inl rfl, read⟩
    · intro written
      obtain ⟨sign, digits, rfl, rfl | rfl, read⟩ := written
      · exact read
      · exact absurd rfl (plain digits)

/-! ## Reading -/

theorem rule_of_ofChars {chars : List Char} {pattern : KeyPattern}
    (read : ofChars chars = .ok pattern) : Rule chars pattern := by
  unfold ofChars at read
  split at read
  · cases read
  · cases read
    exact .collector
  · cases read
  · rename_i name nonempty
    cases read
    exact .callback nonempty
  · split at read
    · cases read
    · cases read
    · rename_i most positive limit
      cases read
      obtain ⟨sign, digits, rfl, signed, numeral⟩ := limit?_eq_some_iff.mp limit
      have below : most < 18446744073709551616 := numeral.below
      exact .fixed signed numeral.nonempty numeral.decimal numeral.value
        (Nat.pos_of_ne_zero positive) (by omega)
  · split at read
    · rename_i runKey
      cases read
      exact .key (isRunKey_iff.mp runKey)
    · cases read
  · rename_i several
    split at read
    · rename_i accepted
      cases read
      obtain ⟨last, runKeys⟩ := accepted
      obtain ⟨keys, rfl⟩ := List.getLast?_eq_some_iff.mp last
      rw [List.dropLast_concat] at runKeys ⊢
      have nonempty : keys ≠ [] := by
        intro empty
        subst empty
        exact several terminator rfl
      refine .sequence nonempty fun char member => isRunKey_iff.mp ?_
      exact List.all_eq_true.mp runKeys char member
    · cases read

theorem ofChars_of_rule {chars : List Char} {pattern : KeyPattern} (rule : Rule chars pattern) :
    ofChars chars = .ok pattern := by
  cases rule with
  | collector => rfl
  | key telephone => exact ofChars_key (isRunKey_iff.mpr telephone)
  | sequence nonempty telephone =>
      exact ofChars_sequence nonempty fun char member => isRunKey_iff.mpr (telephone char member)
  | @fixed sign digits most signed nonempty decimal value positive below =>
      have bounded : most < limitBound := by
        change most < 18446744073709551616
        omega
      have limit : limit? (sign ++ digits) = some most :=
        limit?_eq_some_iff.mpr
          ⟨sign, digits, rfl, signed, nonempty, decimal, value, bounded⟩
      obtain ⟨digit, rest, split⟩ : ∃ digit rest, sign ++ digits = digit :: rest :=
        List.exists_cons_of_ne_nil (by simp [nonempty])
      have colonless : digit ≠ ':' := by
        have member : digit ∈ sign ++ digits := split ▸ List.mem_cons_self
        intro same
        subst same
        rcases List.mem_append.mp member with inSign | inDigits
        · rcases signed with rfl | rfl
          · cases inSign
          · exact absurd inSign (by decide)
        · exact absurd (decimal ':' inDigits) (by unfold DecimalDigit; decide)
      rw [split] at limit ⊢
      exact ofChars_fixed colonless limit (Nat.one_le_iff_ne_zero.mp positive)
  | callback nonempty => exact ofChars_callback nonempty

/-- Just the texts that a rule writes are read, each as the pattern of its rule, and all others are
refused. White space around a text does not count; that inside the name of a callback does. -/
theorem texts_of_grammar_are_read (text : String) :
    (∀ pattern, parse text = .ok pattern ↔
      ∃ chars, Trims text.toList chars ∧ Rule chars pattern) ∧
    ((∃ reason, parse text = .error reason) ↔
      ∀ chars pattern, Trims text.toList chars → ¬ Rule chars pattern) := by
  have reads : ∀ pattern, parse text = .ok pattern ↔
      ∃ chars, Trims text.toList chars ∧ Rule chars pattern := by
    intro pattern
    constructor
    · intro read
      exact ⟨_, trims_iff.mpr rfl, rule_of_ofChars read⟩
    · intro written
      obtain ⟨chars, trims, rule⟩ := written
      rw [parse, trims_iff.mp trims]
      exact ofChars_of_rule rule
  refine ⟨reads, ?_⟩
  constructor
  · intro refuses chars pattern trims rule
    obtain ⟨reason, refused⟩ := refuses
    cases refused.symm.trans ((reads pattern).mpr ⟨chars, trims, rule⟩)
  · intro unwritten
    cases read : parse text with
    | error reason => exact ⟨reason, rfl⟩
    | ok pattern =>
        obtain ⟨chars, trims, rule⟩ := (reads pattern).mp read
        exact absurd rule (unwritten chars pattern trims)

/-- The least number that does not fit into 64 bits is no limit. -/
example : parse ".18446744073709551616" = .error (.notANumber "18446744073709551616") ∧
    (parse " .018446744073709551615").map text = .ok ".18446744073709551615" :=
  ⟨rfl, rfl⟩

end KeyPattern

end VoiceMenu
