/-!
# Blank characters

Input typed by people and read from files may carry white space around it.
This module fixes which characters count as blank and removes them from both
ends of a text. Blanks inside a text are never touched.
-/

set_option autoImplicit false

namespace VoiceMenu.Text

/-- The characters with the Unicode property White_Space: the ASCII controls
from tab to carriage return, the space, and the non-ASCII spaces and line
separators. -/
def isBlank (char : Char) : Bool :=
  let code := char.toNat
  (0x09 ≤ code && code ≤ 0x0D) || code == 0x20 || code == 0x85 || code == 0xA0 ||
  code == 0x1680 || (0x2000 ≤ code && code ≤ 0x200A) || code == 0x2028 ||
  code == 0x2029 || code == 0x202F || code == 0x205F || code == 0x3000

def trimStart (chars : List Char) : List Char :=
  chars.dropWhile isBlank

def trimChars (chars : List Char) : List Char :=
  (trimStart (trimStart chars).reverse).reverse

def trim (text : String) : String :=
  String.ofList (trimChars text.toList)

@[simp] theorem toList_trim (text : String) : (trim text).toList = trimChars text.toList := by
  simp [trim]

theorem trimStart_append (chars : List Char) :
    ∃ blanks, blanks ++ trimStart chars = chars ∧ ∀ char ∈ blanks, isBlank char := by
  refine ⟨chars.takeWhile isBlank, List.takeWhile_append_dropWhile, ?_⟩
  intro char member
  exact List.all_eq_true.mp List.all_takeWhile char member

/-- Only blanks are dropped, from the two ends. -/
theorem trimChars_append (chars : List Char) :
    ∃ before after, before ++ trimChars chars ++ after = chars ∧
      ∀ char ∈ before ++ after, isBlank char := by
  obtain ⟨before, split, blankBefore⟩ := trimStart_append chars
  obtain ⟨after, splitRest, blankAfter⟩ := trimStart_append (trimStart chars).reverse
  refine ⟨before, after.reverse, ?_, ?_⟩
  · have rest : trimChars chars ++ after.reverse = trimStart chars := by
      rw [trimChars, ← List.reverse_append, splitRest, List.reverse_reverse]
    rw [List.append_assoc, rest, split]
  · intro char member
    rcases List.mem_append.mp member with first | last
    · exact blankBefore char first
    · exact blankAfter char (List.mem_reverse.mp last)

end VoiceMenu.Text
