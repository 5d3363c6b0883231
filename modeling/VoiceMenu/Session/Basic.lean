import VoiceMenu.Callback.Resolver

/-!
# Sessions and cycles

A session is the part of a call that changes: the state it is in and its domain
value. A cycle works on a session until it ends or fails. Its report holds the
session afterwards, also when the cycle failed, and the log of everything that was
done on the way. A query only asks texts of the callbacks and has no session to
change.
-/

set_option autoImplicit false

namespace VoiceMenu

structure Session (δ : Type) where
  callId : String
  state : String
  domain : δ
  deriving DecidableEq, Repr

inductive CycleError where
  | noKeyBindings (state : String)
  | unknownState (state : String) (flow : String)
  | undecided (decider : String) (state : String) (reply : Json)
  | callback (error : CallbackError)
  | stepLimit (limit : Nat)
  deriving Repr

def CycleError.message : CycleError → String
  | .noKeyBindings state => s!"no key bindings for state '{state}'"
  | .unknownState state flow => s!"state '{state}' is not part of flow '{flow}'"
  | .undecided decider state reply =>
      s!"can't decide '{decider}' in state '{state}': unrecognized outcome {reply.compact}"
  | .callback error => error.message
  | .stepLimit limit => s!"decision cascade exceeded step limit of {limit}"

inductive Activity where
  /-- A decider or side effect was called with these digits. -/
  | called (name : String) (digits : Option String)
  | asked (name : String)
  /-- A decision was evaluated in this state; automatic ones have no digits. -/
  | evaluated (state : String) (decision : Decision) (digits : Option String)
  deriving DecidableEq, Repr

/-- What was done, first things first. -/
abbrev Log := List Activity

/-- The result of a query, with what was done to get it. -/
structure Query (α : Type) where
  result : Except CycleError α
  log : Log

namespace Query

variable {α β : Type}

protected def pure (value : α) : Query α := ⟨.ok value, []⟩

protected def bind (first : Query α) (next : α → Query β) : Query β :=
  match first.result with
  | .error error => ⟨.error error, first.log⟩
  | .ok value =>
      let second := next value
      ⟨second.result, first.log ++ second.log⟩

instance : Monad Query where
  pure := Query.pure
  bind := Query.bind

def fail (error : CycleError) : Query α := ⟨.error error, []⟩

def ofExcept (result : Except CycleError α) : Query α := ⟨result, []⟩

end Query

/-- The result of a cycle, with the session afterwards and what was done. -/
structure Report (δ α : Type) where
  result : Except CycleError α
  session : Session δ
  log : Log

def Cycle (δ α : Type) := Session δ → Report δ α

namespace Cycle

variable {δ α β : Type}

protected def pure (value : α) : Cycle δ α := fun session => ⟨.ok value, session, []⟩

/-- Runs the second cycle where the first one ended, unless that failed. -/
protected def bind (first : Cycle δ α) (next : α → Cycle δ β) : Cycle δ β := fun session =>
  match first session with
  | ⟨.error error, changed, log⟩ => ⟨.error error, changed, log⟩
  | ⟨.ok value, changed, log⟩ =>
      let report := next value changed
      ⟨report.result, report.session, log ++ report.log⟩

instance : Monad (Cycle δ) where
  pure := Cycle.pure
  bind := Cycle.bind

def fail (error : CycleError) : Cycle δ α := fun session => ⟨.error error, session, []⟩

/-- Runs the first cycle; where it fails, goes on with the second one from the session
that the failure left behind. -/
def orElse (first : Cycle δ α) (next : CycleError → Cycle δ α) : Cycle δ α := fun session =>
  match first session with
  | ⟨.ok value, changed, log⟩ => ⟨.ok value, changed, log⟩
  | ⟨.error error, changed, log⟩ =>
      let report := next error changed
      ⟨report.result, report.session, log ++ report.log⟩

def session : Cycle δ (Session δ) := fun session => ⟨.ok session, session, []⟩

def stateName : Cycle δ String := fun session => ⟨.ok session.state, session, []⟩

def query (ask : Session δ → Query α) : Cycle δ α := fun session =>
  let answer := ask session
  ⟨answer.result, session, answer.log⟩

def moveTo (state : String) : Cycle δ Unit := fun session =>
  ⟨.ok (), { session with state := state }, []⟩

def note (activity : Activity) : Cycle δ Unit := fun session =>
  ⟨.ok (), session, [activity]⟩

end Cycle

end VoiceMenu
