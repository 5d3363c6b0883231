import Mathlib.Data.List.Basic
import VoiceMenu.Proofs.Key.PatternProperties

/-! Every pattern that can be read can be written: its own text is read as that pattern. -/

set_option autoImplicit false

namespace VoiceMenu

namespace Text

theorem trimStart_of_head {chars : List Char}
    (front : ∀ char, chars.head? = some char → isBlank char = false) :
    trimStart chars = chars := by
  cases chars with
  | nil => rfl
  | cons char rest => exact List.dropWhile_cons_of_neg (by simp [front char rfl])

theorem trimChars_of_ends {chars : List Char}
    (front : ∀ char, chars.head? = some char → isBlank char = false)
    (back : ∀ char, chars.getLast? = some char → isBlank char = false) :
    trimChars chars = chars := by
  have backFirst : ∀ char, chars.reverse.head? = some char → isBlank char = false := by
    rw [List.head?_reverse]
    exact back
  rw [trimChars, trimStart_of_head front, trimStart_of_head backFirst, List.reverse_reverse]

theorem not_blank_of_getLast? {chars : List Char} {char : Char}
    (last : (trimChars chars).getLast? = some char) : isBlank char = false := by
  rw [trimChars, List.getLast?_reverse, trimStart] at last
  have kept := List.head?_dropWhile_not isBlank (trimStart chars).reverse
  rw [last] at kept
  simpa using kept

theorem not_blank_of_head? {chars : List Char} {char : Char}
    (first : (trimChars chars).head? = some char) : isBlank char = false := by
  obtain ⟨blanks, split, -⟩ := trimStart_append (trimStart chars).reverse
  have last : (trimStart chars).reverse.getLast? = some char := by
    rw [trimChars, List.head?_reverse] at first
    rw [← split, List.getLast?_append, first, Option.some_or]
  have kept := List.head?_dropWhile_not isBlank chars
  rw [List.getLast?_reverse, trimStart] at last
  rw [last] at kept
  simpa using kept

theorem digitValue?_of_isDigit {char : Char} (digit : char.isDigit = true) :
    digitValue? char = some (char.toNat - '0'.toNat) := by
  have bounds : '0' ≤ char ∧ char ≤ '9' := by
    rw [Char.isDigit, Bool.and_eq_true, decide_eq_true_iff, decide_eq_true_iff] at digit
    exact digit
  rw [digitValue?, if_pos bounds]

theorem foldl_digitValue_eq {digits : List Char} (all : ∀ char ∈ digits, char.isDigit = true)
    (value : Nat) :
    digits.foldl (fun value char => value * 10 + (digitValue? char).getD 0) value =
      Nat.ofDigitChars 10 digits value := by
  induction digits generalizing value with
  | nil => rfl
  | cons digit rest ih =>
      obtain ⟨here, later⟩ := List.forall_mem_cons.mp all
      rw [List.foldl_cons, Nat.ofDigitChars_cons, ih later, digitValue?_of_isDigit here,
        Option.getD_some, Nat.mul_comm]

theorem isDigit_toDigits (number : Nat) :
    ∀ char ∈ Nat.toDigits 10 number, char.isDigit = true :=
  fun _ => Nat.isDigit_of_mem_toDigits (by decide) (by decide)

/-- A number is the one that its decimal digits write. -/
theorem numeral_toDigits (number : Nat) : numeral 10 (Nat.toDigits 10 number) = number := by
  rw [numeral, foldl_digitValue_eq (isDigit_toDigits number), Nat.ofDigitChars_ten_toDigits]

end Text

open Text

theorem not_blank_of_isDigit {char : Char} (digit : char.isDigit = true) :
    isBlank char = false := by
  have bounds : 48 ≤ char.toNat ∧ char.toNat ≤ 57 := by
    simpa [Char.isDigit, UInt32.le_iff_toNat_le] using digit
  simp [isBlank]
  omega

theorem not_blank_of_isRunKey {char : Char} (runKey : isRunKey char = true) :
    isBlank char = false := by
  rcases Bool.or_eq_true_iff.mp runKey with digit | star
  · exact not_blank_of_isDigit digit
  · rw [beq_iff_eq.mp star]
    decide

namespace KeyPattern

/-- What reading leaves to a well-formed pattern beside: limits are below the bound, and a
name does not end in a blank. -/
def Tidy : KeyPattern → Prop
  | .key _ | .sequence _ | .collector => True
  | .wildcard (.fixed most) => most < limitBound
  | .wildcard (.callback name) =>
      ∀ char, name.toList.getLast? = some char → isBlank char = false

theorem limit?_lt {chars : List Char} {most : Nat} (read : limit? chars = some most) :
    most < limitBound := by
  simp only [limit?, Option.ite_none_left_eq_some, Option.ite_none_right_eq_some] at read
  obtain ⟨-, below, same⟩ := read
  cases same
  exact below

theorem limit?_toDigits {most : Nat} (below : most < limitBound) :
    limit? (Nat.toDigits 10 most) = some most := by
  have digits := isDigit_toDigits most
  have value := numeral_toDigits most
  cases written : Nat.toDigits 10 most with
  | nil => exact absurd written Nat.toDigits_ne_nil
  | cons digit rest =>
      rw [written] at digits value
      have unsigned : digit ≠ '+' := by
        rintro rfl
        exact absurd (digits '+' List.mem_cons_self) (by decide)
      have all : (digit :: rest).all Char.isDigit = true := List.all_eq_true.mpr digits
      simp [limit?, unsigned, all, value, below]

theorem ofChars_tidy {chars : List Char} {pattern : KeyPattern}
    (back : ∀ char, chars.getLast? = some char → isBlank char = false)
    (read : ofChars chars = .ok pattern) : pattern.Tidy := by
  unfold ofChars at read
  split at read
  · cases read
  · cases read
    trivial
  · cases read
  · rename_i name nonempty
    cases read
    intro char last
    rw [String.toList_ofList] at last
    apply back
    rw [List.getLast?_cons, List.getLast?_cons, last]
    rfl
  · split at read
    · cases read
    · cases read
    · rename_i most _ limit
      cases read
      exact limit?_lt limit
  · split at read
    · cases read
      trivial
    · cases read
  · split at read
    · cases read
      trivial
    · cases read

theorem parse_tidy {text : String} {pattern : KeyPattern} (read : parse text = .ok pattern) :
    pattern.Tidy :=
  ofChars_tidy (fun _ => not_blank_of_getLast?) read

theorem ofChars_key {char : Char} (runKey : isRunKey char = true) :
    ofChars [char] = .ok (.key char) := by
  have plain : char ≠ '#' ∧ char ≠ '.' := by
    constructor <;> rintro rfl <;> exact absurd runKey (by decide)
  simp [ofChars, runKey, plain.1, plain.2]

theorem ofChars_several {first second : Char} {others : List Char} (plain : first ≠ '.') :
    ofChars (first :: second :: others) =
      if (first :: second :: others).getLast? = some terminator ∧
          (first :: second :: others).dropLast.all isRunKey then
        .ok (.sequence (String.ofList (first :: second :: others).dropLast))
      else .error .notASequence := by
  unfold ofChars
  split <;> simp_all

theorem ofChars_sequence {keys : List Char} (nonempty : keys ≠ [])
    (runKeys : ∀ char ∈ keys, isRunKey char = true) :
    ofChars (keys ++ [terminator]) = .ok (.sequence (String.ofList keys)) := by
  have accepted : (keys ++ [terminator]).getLast? = some terminator ∧
      (keys ++ [terminator]).dropLast.all isRunKey = true := by
    rw [List.getLast?_concat, List.dropLast_concat]
    exact ⟨rfl, List.all_eq_true.mpr runKeys⟩
  have body : (keys ++ [terminator]).dropLast = keys := List.dropLast_concat
  match keys, nonempty with
  | first :: rest, _ =>
      have plain : first ≠ '.' := by
        rintro rfl
        exact absurd (runKeys '.' List.mem_cons_self) (by decide)
      obtain ⟨second, others, split⟩ : ∃ second others, rest ++ [terminator] = second :: others :=
        List.exists_cons_of_ne_nil (by simp)
      rw [List.cons_append, split] at accepted body ⊢
      rw [ofChars_several plain, if_pos accepted, body]

theorem ofChars_fixed {digit : Char} {rest : List Char} {most : Nat} (colonless : digit ≠ ':')
    (limit : limit? (digit :: rest) = some most) (positive : most ≠ 0) :
    ofChars ('.' :: digit :: rest) = .ok (.wildcard (.fixed most)) := by
  simp [ofChars, limit, colonless]

theorem ofChars_callback {name : List Char} (nonempty : name ≠ []) :
    ofChars ('.' :: ':' :: name) = .ok (.wildcard (.callback (String.ofList name))) := by
  cases name with
  | nil => exact absurd rfl nonempty
  | cons => rfl

theorem ofChars_text {pattern : KeyPattern} (wellFormed : pattern.WellFormed)
    (tidy : pattern.Tidy) : ofChars pattern.text.toList = .ok pattern := by
  cases pattern with
  | key char =>
      have runKey : isRunKey char = true := wellFormed
      simpa [text] using ofChars_key runKey
  | sequence keys =>
      obtain ⟨nonempty, runKeys⟩ := wellFormed
      simpa [text] using ofChars_sequence nonempty runKeys
  | collector => rfl
  | wildcard limit =>
      cases limit with
      | fixed most =>
          have limit := limit?_toDigits tidy
          have digits := isDigit_toDigits most
          obtain ⟨digit, rest, written⟩ := List.exists_cons_of_ne_nil
            (Nat.toDigits_ne_nil : Nat.toDigits 10 most ≠ [])
          rw [written] at limit digits
          have colonless : digit ≠ ':' := by
            rintro rfl
            exact absurd (digits ':' List.mem_cons_self) (by decide)
          have read := ofChars_fixed colonless limit (Nat.pos_iff_ne_zero.mp wellFormed)
          rw [← written] at read
          simpa [text] using read
      | callback name =>
          have nonempty : name.toList ≠ [] := wellFormed
          simpa [text] using ofChars_callback nonempty

theorem text_front {pattern : KeyPattern} (wellFormed : pattern.WellFormed) {char : Char}
    (first : pattern.text.toList.head? = some char) : isBlank char = false := by
  cases pattern with
  | key key =>
      cases (show some key = some char by simpa [text] using first)
      exact not_blank_of_isRunKey wellFormed
  | sequence keys =>
      obtain ⟨nonempty, runKeys⟩ := wellFormed
      rw [text, String.toList_append, List.head?_append, List.head?_eq_some_head nonempty,
        Option.some_or] at first
      cases first
      exact not_blank_of_isRunKey (runKeys _ (List.head_mem nonempty))
  | collector =>
      cases (show some terminator = some char by simpa [text] using first)
      rfl
  | wildcard limit =>
      cases (show some '.' = some char by cases limit <;> simpa [text] using first)
      rfl

theorem text_back {pattern : KeyPattern} (wellFormed : pattern.WellFormed)
    (tidy : pattern.Tidy) {char : Char} (last : pattern.text.toList.getLast? = some char) :
    isBlank char = false := by
  cases pattern with
  | key key =>
      cases (show some key = some char by simpa [text] using last)
      exact not_blank_of_isRunKey wellFormed
  | sequence keys =>
      cases (show some terminator = some char by simpa [text] using last)
      rfl
  | collector =>
      cases (show some terminator = some char by simpa [text] using last)
      rfl
  | wildcard limit =>
      cases limit with
      | fixed most =>
          have nonempty : (toString most).toList ≠ [] := by simp
          rw [text, String.toList_append, List.getLast?_append_of_ne_nil _ nonempty] at last
          have member := List.mem_of_getLast? last
          rw [Nat.toString_eq_repr, Nat.toList_repr] at member
          exact not_blank_of_isDigit (isDigit_toDigits most char member)
      | callback name =>
          rw [text, String.toList_append, List.getLast?_append_of_ne_nil _ wellFormed] at last
          exact tidy char last

/-- Reading undoes writing on every pattern that can be read at all. -/
theorem parse_text {pattern : KeyPattern} (wellFormed : pattern.WellFormed)
    (tidy : pattern.Tidy) : parse pattern.text = .ok pattern := by
  rw [parse, trimChars_of_ends (fun _ => text_front wellFormed) fun _ => text_back wellFormed tidy]
  exact ofChars_text wellFormed tidy

theorem parse_text_of_parse {text : String} {pattern : KeyPattern}
    (read : parse text = .ok pattern) : parse pattern.text = .ok pattern :=
  parse_text (parse_wellFormed read) (parse_tidy read)

/-- A pattern has many spellings. Its own text is one of them. -/
example : (parse " .+05 ").map text = .ok ".5" := rfl

end KeyPattern

end VoiceMenu
