import VoiceMenu.Session.Basic

/-!
# Interpreters

An interpreter drives sessions through one flow with one resolver. It holds nothing
that a call can change, so one interpreter serves any number of sessions.
-/

set_option autoImplicit false

namespace VoiceMenu

theorem defaultStepLimit_pos : 0 < 1024 := by decide

structure Interpreter (δ : Type) where
  flow : Flow
  resolver : Resolver δ
  /-- How many decisions one cascade may evaluate, at least one. -/
  stepLimit : Nat := 1024
  stepLimit_pos : 0 < stepLimit := by exact defaultStepLimit_pos

namespace Interpreter

variable {δ : Type}

/-- The interpreter with another step limit; zero counts as one. -/
def withStepLimit (interpreter : Interpreter δ) (limit : Nat) : Interpreter δ :=
  { interpreter with
    stepLimit := max limit 1
    stepLimit_pos := by omega }

/-- A new session in the initial state. Its decisions are not taken yet. -/
def start (interpreter : Interpreter δ) (callId : String) (domain : δ) : Session δ :=
  ⟨callId, interpreter.flow.initial.name, domain⟩

/-- The state of the given name, which has to be part of the flow. -/
def stateNamed (interpreter : Interpreter δ) (name : String) : Except CycleError State :=
  match interpreter.flow.state? name with
  | some state => .ok state
  | none => .error (.unknownState name interpreter.flow.name)

/-- A session that was stored, in a state of the flow. -/
def resume (interpreter : Interpreter δ) (callId state : String) (domain : δ) :
    Except CycleError (Session δ) := do
  let _ ← interpreter.stateNamed state
  pure ⟨callId, state, domain⟩

def current (interpreter : Interpreter δ) : Cycle δ State :=
  Cycle.query fun session => .ofExcept (interpreter.stateNamed session.state)

def askText (interpreter : Interpreter δ) (name : String) (domain : δ) : Query Json :=
  ⟨(interpreter.resolver.text name domain).mapError .callback, [.asked name]⟩

/-- Calls a decider or side effect, which may change the domain. -/
def call (interpreter : Interpreter δ) (name : String) (digits : Option String) :
    Cycle δ Json := fun session =>
  let (domain, result) := interpreter.resolver.call name digits session.domain
  ⟨result.mapError .callback, { session with domain := domain }, [.called name digits]⟩

def digitLimit (interpreter : Interpreter δ) (domain : δ) : DigitLimit → Query Nat
  | .fixed most => pure most
  | .callback name => do
      let reply ← interpreter.askText name domain
      match reply.digitLimit? with
      | some most => pure most
      | none => .fail (.callback (.unexpectedReply name reply .digitCount))

end Interpreter

end VoiceMenu
