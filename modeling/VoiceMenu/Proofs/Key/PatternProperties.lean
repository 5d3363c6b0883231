import VoiceMenu.Key.Pattern

/-! Every pattern that can be read is well formed: its keys are telephone keys,
sequences and callback names are not empty, and fixed limits admit a digit. -/

set_option autoImplicit false

namespace VoiceMenu.KeyPattern

def WellFormed : KeyPattern → Prop
  | .key char => isRunKey char
  | .sequence keys => keys.toList ≠ [] ∧ ∀ char ∈ keys.toList, isRunKey char
  | .collector => True
  | .wildcard (.fixed most) => 0 < most
  | .wildcard (.callback name) => name.toList ≠ []

theorem terminator_not_runKey : isRunKey terminator = false := by decide

private theorem sequence_of_chars {first second : Char} {rest : List Char} {pattern : KeyPattern}
    (read : (if (first :: second :: rest).getLast? = some terminator ∧
        (first :: second :: rest).dropLast.all isRunKey then
        Except.ok (.sequence (String.ofList (first :: second :: rest).dropLast))
      else .error PatternError.notASequence) = .ok pattern) : pattern.WellFormed := by
  split at read
  · rename_i accepted
    cases read
    refine ⟨by simp, ?_⟩
    intro char member
    rw [String.toList_ofList] at member
    exact List.all_eq_true.mp accepted.2 char member
  · cases read

theorem ofChars_wellFormed {chars : List Char} {pattern : KeyPattern}
    (read : ofChars chars = .ok pattern) : pattern.WellFormed := by
  unfold ofChars at read
  split at read
  · cases read
  · cases read; trivial
  · cases read
  · rename_i name nonempty
    cases read
    change (String.ofList name).toList ≠ []
    rw [String.toList_ofList]
    exact fun empty => nonempty empty
  · split at read
    · cases read
    · cases read
    · rename_i most positive _
      cases read
      exact Nat.pos_of_ne_zero fun zero => positive zero
  · split at read
    · rename_i accepted
      cases read
      exact accepted
    · cases read
  · rename_i several
    match chars, several with
    | [], _ => simp at read
    | [_], several => exact absurd rfl (several _)
    | _ :: _ :: _, _ => exact sequence_of_chars read

theorem parse_wellFormed {text : String} {pattern : KeyPattern}
    (read : parse text = .ok pattern) : pattern.WellFormed :=
  ofChars_wellFormed read

end VoiceMenu.KeyPattern
