import VoiceMenu.Flow.Basic

/-!
# Drafts of flows

A draft lists declarations: states, and within each state what it says, what its
keys do and what it decides. `FlowDraft.build` turns a draft into a flow or
reports the first problem: problems of single declarations come first, in
declaration order, then the lack of states, then targets that no state declares.
-/

set_option autoImplicit false

namespace VoiceMenu

/-- The arguments of a key binding or decision. With `yes` or `no` it is a decision,
even when `go` is given as well. -/
structure Binding where
  go : Option String := none
  yes : Option String := none
  no : Option String := none
  action : Option String := none
  /-- Ties a decision to a key. -/
  press : Option String := none
  deriving DecidableEq, Repr

def Binding.isDecision (binding : Binding) : Bool :=
  binding.yes.isSome || binding.no.isSome

inductive Declaration where
  /-- Sets what the state says, replacing everything said before. -/
  | say (fragments : List Fragment)
  | prompt (key : String) (text : Fragment) (name : String) (binding : Binding)
  /-- Binds a key to the event, or with `yes` or `no` the decider, of that name. -/
  | press (key : String) (name : String) (binding : Binding)
  /-- A decision; without a key it is taken on entry. -/
  | decide (decider : String) (binding : Binding)
  deriving DecidableEq, Repr

abbrev Declaration.bind (key name : String) (binding : Binding) : Declaration :=
  .press key name binding

inductive DefinitionError where
  | emptyFlow (flow : String)
  | duplicateState (state : String)
  | duplicateKey (state : String) (key : KeyPattern)
  | invalidKeyPattern (state : String) (pattern : String) (reason : PatternError)
  | missingOutcome (state : String) (decider : String)
  | missingTarget (state : String) (event : String)
  | unknownTarget (state : String) (name : String) (target : String)
  deriving DecidableEq, Repr

def DefinitionError.message : DefinitionError → String
  | .emptyFlow flow => s!"flow '{flow}' declares no states"
  | .duplicateState state => s!"state '{state}' is declared more than once"
  | .duplicateKey state key => s!"state '{state}' binds key '{key.text}' more than once"
  | .invalidKeyPattern state pattern reason =>
      s!"state '{state}': invalid key pattern '{pattern}': {reason.message}"
  | .missingOutcome state decider =>
      s!"state '{state}': decision '{decider}' needs at least one yes/no transition"
  | .missingTarget state event => s!"state '{state}': event '{event}' has no target state"
  | .unknownTarget state name target =>
      s!"state '{state}': '{name}' references unknown state '{target}'"

/-- A state as far as it is declared, with the problems so far. -/
structure PartialState where
  state : State
  problems : List DefinitionError
  deriving DecidableEq, Repr

namespace PartialState

def ofName (name : String) : PartialState := ⟨⟨name, [], [], []⟩, []⟩

def reject (draft : PartialState) (problem : DefinitionError) : PartialState :=
  { draft with problems := draft.problems ++ [problem] }

/-- Binds a key text, unless it is no pattern or its pattern is bound already. -/
def addKey (draft : PartialState) (key : String) (transition : Transition) : PartialState :=
  match KeyPattern.parse key with
  | .error reason => draft.reject (.invalidKeyPattern draft.state.name key reason)
  | .ok pattern =>
      if (draft.state.binding? pattern).isSome then
        draft.reject (.duplicateKey draft.state.name pattern)
      else
        { draft with
          state := { draft.state with keys := draft.state.keys ++ [⟨pattern, transition⟩] } }

def addDecision (draft : PartialState) (decider : String) (binding : Binding) : PartialState :=
  if binding.isDecision then
    let decision : Decision := ⟨decider, binding.action, binding.yes, binding.no⟩
    match binding.press with
    | some key => draft.addKey key (.decision decision)
    | none =>
        { draft with
          state := { draft.state with decisions := draft.state.decisions ++ [decision] } }
  else draft.reject (.missingOutcome draft.state.name decider)

def addPress (draft : PartialState) (key name : String) (binding : Binding) : PartialState :=
  if binding.isDecision then draft.addDecision name { binding with press := some key }
  else
    match binding.go with
    | none => draft.reject (.missingTarget draft.state.name name)
    | some target => draft.addKey key (.event ⟨name, target, binding.action⟩)

def setPrompts (draft : PartialState) (prompts : List Fragment) : PartialState :=
  { draft with state := { draft.state with prompts := prompts } }

/-- Adds one declaration. A prompt is spoken even when its key is rejected. -/
def declare (draft : PartialState) : Declaration → PartialState
  | .say fragments => draft.setPrompts fragments
  | .prompt key text name binding =>
      (draft.setPrompts (draft.state.prompts ++ [text])).addPress key name binding
  | .press key name binding => draft.addPress key name binding
  | .decide decider binding => draft.addDecision decider binding

end PartialState

structure StateDraft where
  name : String
  declarations : List Declaration
  deriving DecidableEq, Repr

def StateDraft.declared (draft : StateDraft) : PartialState :=
  draft.declarations.foldl PartialState.declare (.ofName draft.name)

structure FlowDraft where
  name : String
  /-- Texts for literal prompts; the last entry for a prompt counts. -/
  translations : List (String × String) := []
  states : List StateDraft
  deriving DecidableEq, Repr

namespace FlowDraft

/-- The problems of single declarations, in order. A name declared before is
reported ahead of the problems inside the second state. -/
def problemsAfter (declared : List String) : List StateDraft → List DefinitionError
  | [] => []
  | state :: states =>
      (if state.name ∈ declared then [.duplicateState state.name] else []) ++
        state.declared.problems ++ problemsAfter (state.name :: declared) states

/-- The targets of a state that are not among the given names. -/
def unknownTargets (names : List String) (state : State) : List DefinitionError :=
  (state.targets.filter fun (_, target) => target ∉ names).map fun (name, target) =>
    .unknownTarget state.name name target

/-- The flow that the draft declares, or its first problem. -/
def build (draft : FlowDraft) : Except DefinitionError Flow :=
  match problemsAfter [] draft.states with
  | problem :: _ => .error problem
  | [] =>
      match draft.states.map (·.declared.state) with
      | [] => .error (.emptyFlow draft.name)
      | initial :: others =>
          let names := (initial :: others).map (·.name)
          match (initial :: others).flatMap (unknownTargets names) with
          | problem :: _ => .error problem
          | [] => .ok ⟨draft.name, initial, others, Table.ofList draft.translations⟩

end FlowDraft

end VoiceMenu
