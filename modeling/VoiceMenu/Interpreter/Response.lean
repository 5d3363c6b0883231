import VoiceMenu.Interpreter.KeyLookup

/-!
# Responses

A response looks up the key, follows its transition, and lets decisions follow:
when the call stays in its state, or enters a silent one, the state's own decisions
are taken in order until one of them moves the call. A silent state entered that way
decides in turn. The step limit bounds the decisions of one such cascade.
-/

set_option autoImplicit false

namespace VoiceMenu.Interpreter

variable {δ : Type}

/-- The side effect of an event: its own action, or else the action registered under
its name. -/
def effectOf? (interpreter : Interpreter δ) (event : Event) : Option String :=
  match event.action with
  | some action => some action
  | none => if interpreter.resolver.hasAction event.name then some event.name else none

/-- Runs the side effect of an event, whatever it replies, and moves the call. -/
def fire (interpreter : Interpreter δ) (event : Event) (digits : String) : Cycle δ Unit := do
  match interpreter.effectOf? event with
  | some action => let _ ← interpreter.call action (some digits)
  | none => pure ()
  Cycle.moveTo event.target

/-- The reply that answers a decision: that of its action, unless there is none or it
leaves the decision to the decider. -/
def replyTo (interpreter : Interpreter δ) (decision : Decision) (digits : Option String) :
    Cycle δ Json := do
  let reply ← match decision.action with
    | some action => interpreter.call action digits
    | none => pure .null
  if reply.isUnset then interpreter.call decision.decider digits else pure reply

/-- Takes a decision. Gives the new state if the call changed its state. -/
def evaluate (interpreter : Interpreter δ) (decision : Decision) (digits : Option String) :
    Cycle δ (Option String) := do
  let before ← Cycle.session
  Cycle.note (.evaluated before.state decision digits)
  let reply ← interpreter.replyTo decision digits
  match reply.outcome? with
  | none => Cycle.fail (.undecided decision.decider before.state reply)
  | some outcome =>
      match decision.target? outcome with
      | none => pure none
      | some target => do
          Cycle.moveTo target
          pure (if target = before.state then none else some target)

/-- Takes the given decisions of the current state, then those of silent states, with
the given number of evaluations left. Gives the state that the call ends up in. -/
def cascade (interpreter : Interpreter δ) : (steps : Nat) → List Decision → Cycle δ String
  | _, [] => Cycle.stateName
  | 0, _ :: _ => Cycle.fail (.stepLimit interpreter.stepLimit)
  | steps + 1, decision :: rest => do
      match ← interpreter.evaluate decision none with
      | none => interpreter.cascade steps rest
      | some _ =>
          let entered ← interpreter.current
          if entered.isSilent then interpreter.cascade steps entered.decisions
          else Cycle.stateName

/-- Takes the decisions of the current state, and of the silent states they lead to.
Gives the state that the call ends up in. -/
def decide (interpreter : Interpreter δ) : Cycle δ String := do
  let state ← interpreter.current
  interpreter.cascade interpreter.stepLimit state.decisions

def follow (interpreter : Interpreter δ) (transition : Transition) (digits : String) :
    Cycle δ Unit :=
  match transition with
  | .event fired => interpreter.fire fired digits
  | .decision asked => do
      let _ ← interpreter.evaluate asked (some digits)

/-- Responds to the input with the state that the call ends up in, or fails. After a
failure the session may have moved already, and changes of the domain stay. -/
def tryRespond (interpreter : Interpreter δ) (digits : Digits) : Cycle δ String := do
  let state ← interpreter.current
  if state.keys.isEmpty then Cycle.fail (.noKeyBindings state.name)
  else
    match ← Cycle.query fun session => interpreter.resolveKey state digits session.domain with
    | none => Cycle.stateName
    | some binding => do
        interpreter.follow binding.transition digits.text
        let entered ← interpreter.current
        if entered.name = state.name || entered.isSilent then interpreter.decide
        else Cycle.stateName

/-- Responds to the input with the state that the call ends up in. Where that fails, the
session goes back to the state it was in; changes of the domain stay. -/
def respond (interpreter : Interpreter δ) (digits : Digits) : Cycle δ String := fun session =>
  match interpreter.tryRespond digits session with
  | ⟨.ok state, changed, log⟩ => ⟨.ok state, changed, log⟩
  | ⟨.error _, changed, log⟩ =>
      ⟨.ok session.state, { changed with state := session.state }, log⟩

end VoiceMenu.Interpreter
