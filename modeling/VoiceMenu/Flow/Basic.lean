import VoiceMenu.Key.Pattern
import VoiceMenu.Table

/-!
# Call flows

A flow is a list of states. Each state has prompts that are spoken on entry, key
bindings, and decisions that it takes on its own. A binding fires an event, which
always moves the call, or a decision, whose outcome says where to go.
-/

set_option autoImplicit false

namespace VoiceMenu

inductive Fragment where
  /-- Spoken as written, or translated. -/
  | text (words : String)
  | call (name : String)
  deriving DecidableEq, Repr

inductive Outcome where
  | yes
  | no
  | indeterminate
  deriving DecidableEq, Repr

def Outcome.text : Outcome → String
  | .yes => "yes"
  | .no => "no"
  | .indeterminate => "indeterminate"

structure Event where
  name : String
  target : String
  /-- The side effect; without one, an action registered under the event's own
  name is used. -/
  action : Option String
  deriving DecidableEq, Repr

/-- `name to target`. -/
def Event.describe (event : Event) : String :=
  s!"{event.name} to {event.target}"

structure Decision where
  decider : String
  /-- Asked before the decider; a reply other than null and false is the answer. -/
  action : Option String
  onYes : Option String
  onNo : Option String
  deriving DecidableEq, Repr

namespace Decision

/-- The decider with its targets; a missing target is left blank. -/
def describe (decision : Decision) : String :=
  decision.decider ++ " yes: " ++ decision.onYes.getD "" ++ " no: " ++ decision.onNo.getD ""

def pathName (decision : Decision) (outcome : Outcome) : String :=
  decision.decider ++ "_" ++ outcome.text

/-- Where an outcome leads. Without a target the call stays where it is. -/
def target? (decision : Decision) : Outcome → Option String
  | .yes => decision.onYes
  | .no => decision.onNo
  | .indeterminate => none

/-- The named targets of the decision, yes before no. -/
def targets (decision : Decision) : List (String × String) :=
  [Outcome.yes, Outcome.no].filterMap fun outcome =>
    (decision.target? outcome).map fun target => (decision.pathName outcome, target)

end Decision

inductive Transition where
  | event (fired : Event)
  | decision (asked : Decision)
  deriving DecidableEq, Repr

namespace Transition

def describe : Transition → String
  | .event fired => fired.describe
  | .decision asked => asked.describe

/-- Does the transition always move the call? -/
def isEvent : Transition → Bool
  | .event _ => true
  | .decision _ => false

def targets : Transition → List (String × String)
  | .event fired => [(fired.name, fired.target)]
  | .decision asked => asked.targets

end Transition

structure KeyBinding where
  pattern : KeyPattern
  transition : Transition
  deriving DecidableEq, Repr

structure State where
  name : String
  prompts : List Fragment
  /-- In order of registration, which is the order wildcards are tried in. -/
  keys : List KeyBinding
  /-- Taken in this order when the state decides on its own. -/
  decisions : List Decision
  deriving DecidableEq, Repr

namespace State

def binding? (state : State) (pattern : KeyPattern) : Option KeyBinding :=
  state.keys.find? (·.pattern = pattern)

/-- A state without prompts only decides and passes the call on. -/
def isSilent (state : State) : Bool := state.prompts.isEmpty

/-- Every named target, keys before decisions. -/
def targets (state : State) : List (String × String) :=
  state.keys.flatMap (·.transition.targets) ++ state.decisions.flatMap (·.targets)

end State

/-- A call flow. Every new call starts in the initial state. -/
structure Flow where
  name : String
  initial : State
  others : List State
  translations : Table String
  deriving DecidableEq

namespace Flow

/-- All states in declaration order. -/
def states (flow : Flow) : List State := flow.initial :: flow.others

def state? (flow : Flow) (name : String) : Option State :=
  flow.states.find? (·.name = name)

def declares (flow : Flow) (name : String) : Bool := (flow.state? name).isSome

/-- Only texts that begin with this can be translated. -/
def translationMark : String := "ivr."

def translate (flow : Flow) (text : String) : String :=
  if translationMark.toList.isPrefixOf text.toList then (flow.translations.get? text).getD text
  else text

end Flow

end VoiceMenu
