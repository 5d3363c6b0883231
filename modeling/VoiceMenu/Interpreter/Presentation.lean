import VoiceMenu.Interpreter.Basic

/-!
# What a caller gets to hear and may press

The prompts of the current state, the keys it accepts, and how the telephony side
should gather input for it. None of these changes the session.
-/

set_option autoImplicit false

namespace VoiceMenu

structure Gather where
  /-- The most digits to collect, where no key ends the input. -/
  numDigits : Option Nat
  /-- The key that ends the input. -/
  finishOnKey : Option Char
  deriving DecidableEq, Repr

namespace Interpreter

variable {δ : Type}

/-- The lines of one fragment. Only literal texts are translated. -/
def fragmentLines (interpreter : Interpreter δ) (domain : δ) : Fragment → Query (List String)
  | .text words => pure [interpreter.flow.translate words]
  | .call name => do
      let reply ← interpreter.askText name domain
      match reply.lines with
      | .ok lines => pure lines
      | .error leaf => .fail (.callback (.unexpectedReply name leaf .text))

def linesOf (interpreter : Interpreter δ) (domain : δ) : List Fragment → Query (List String)
  | [] => pure []
  | fragment :: rest => do
      let first ← interpreter.fragmentLines domain fragment
      let others ← interpreter.linesOf domain rest
      pure (first ++ others)

def prompts (interpreter : Interpreter δ) (session : Session δ) : Query (List String) := do
  let state ← .ofExcept (interpreter.stateNamed session.state)
  interpreter.linesOf session.domain state.prompts

/-- The texts of the keys that the session's state accepts. A key is marked true if it
always moves the call, and false if a decision says so. -/
def acceptedKeys (interpreter : Interpreter δ) (session : Session δ) :
    Except CycleError (Table Bool) := do
  let state ← interpreter.stateNamed session.state
  pure (.ofList (state.keys.map fun binding => (binding.pattern.text, binding.transition.isEvent)))

/-- The most digits that any key or wildcard of the bindings accepts. Collecting
patterns do not count. -/
def mostDigits (interpreter : Interpreter δ) (domain : δ) : List KeyBinding → Query Nat
  | [] => pure 0
  | binding :: rest => do
      let most ← match binding.pattern with
        | .key _ => pure 1
        | .wildcard limit => interpreter.digitLimit domain limit
        | .sequence _ | .collector => pure 0
      let others ← interpreter.mostDigits domain rest
      pure (max most others)

/-- How to gather input for the session's state. The terminator ends the input if any
pattern collects; otherwise the longest input that is accepted limits it. -/
def gather (interpreter : Interpreter δ) (session : Session δ) : Query Gather := do
  let state ← .ofExcept (interpreter.stateNamed session.state)
  let most ← interpreter.mostDigits session.domain state.keys
  if state.keys.any (·.pattern.isCollecting) then pure ⟨none, some terminator⟩
  else pure ⟨if 0 < most then some most else none, none⟩

end Interpreter

end VoiceMenu
