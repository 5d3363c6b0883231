import VoiceMenu.Interpreter.Basic

/-!
# Key look-up

Which binding of a state responds to the input: the exact patterns first, then
collectors and wildcards in order of registration. The limit of a wildcard is asked
for only when its turn comes.
-/

set_option autoImplicit false

namespace VoiceMenu.Interpreter

variable {δ : Type}

def exactBinding? (keys : List KeyBinding) (digits : Digits) : Option KeyBinding :=
  keys.find? (·.pattern.acceptsExactly digits)

def runBinding? (interpreter : Interpreter δ) (domain : δ) (digits : Digits) :
    List KeyBinding → Query (Option KeyBinding)
  | [] => pure none
  | binding :: rest =>
      match binding.pattern with
      | .key _ | .sequence _ => runBinding? interpreter domain digits rest
      | .collector =>
          if KeyPattern.collects digits then pure (some binding)
          else runBinding? interpreter domain digits rest
      | .wildcard limit => do
          let most ← interpreter.digitLimit domain limit
          if KeyPattern.fits most digits then pure (some binding)
          else runBinding? interpreter domain digits rest

/-- The binding of the state that responds to the input. Nothing responds to empty
input. -/
def resolveKey (interpreter : Interpreter δ) (state : State) (digits : Digits) (domain : δ) :
    Query (Option KeyBinding) :=
  if digits.isEmpty then pure none
  else
    match exactBinding? state.keys digits with
    | some binding => pure (some binding)
    | none => interpreter.runBinding? domain digits state.keys

end VoiceMenu.Interpreter
