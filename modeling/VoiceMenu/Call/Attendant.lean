import VoiceMenu.Call.Store
import VoiceMenu.Interpreter.Presentation
import VoiceMenu.Interpreter.Response

/-!
# Attendants

An attendant answers one turn of a call after the other. A turn finds the call's
record, or starts the call; lets the interpreter respond; renders the state that the
call ended up in; and saves the record. A turn that fails is rendered from the
fallback state instead, if there is one, and otherwise leaves the store as it was.
-/

set_option autoImplicit false

namespace VoiceMenu

/-- How domain values are kept in records. A domain value need not have a written form,
and data need not be a domain value. -/
structure DomainCodec (δ : Type) where
  fresh : δ
  encode : δ → Option Json
  decode : Json → Option δ

namespace DomainCodec

/-- Any JSON value is a domain value. New calls have null. -/
def json : DomainCodec Json := ⟨.null, some, some⟩

/-- Domain values are JSON objects. New calls have an empty one. -/
def object : DomainCodec (Table Json) := ⟨.empty, some ∘ Json.ofTable, Json.table?⟩

end DomainCodec

structure Turn where
  callId : String
  state : String
  prompts : List String
  acceptedKeys : Table Bool
  gather : Gather
  deriving DecidableEq

/-- Without keys the call is over after its prompts. -/
def Turn.isFinal (turn : Turn) : Bool := turn.acceptedKeys.isEmpty

inductive TurnError where
  /-- The store is out of order. -/
  | store (reason : String)
  /-- The stored data is no domain value. -/
  | data
  /-- The domain value has no written form. -/
  | domain
  | cycle (error : CycleError)
  deriving Repr

/-- The wording of a turn error. What is wrong with data is not told. -/
def TurnError.message : TurnError → String
  | .store reason => reason
  | .data => "invalid call data"
  | .domain => "call data cannot be written"
  | .cycle error => error.message

structure Handled (α : Type) where
  result : Except TurnError α
  store : CallStore
  log : Log

structure Attendant (δ : Type) where
  interpreter : Interpreter δ
  codec : DomainCodec δ
  /-- Where a call goes when its turn fails. -/
  fallback : Option String := none
  fallback_declared : ∀ state, fallback = some state → interpreter.flow.declares state := by
    intro _ given; cases given

namespace Attendant

variable {δ : Type}

/-- The attendant with a fallback state, which has to be part of the flow. -/
def withFallback (attendant : Attendant δ) (state : String) : Except CycleError (Attendant δ) :=
  if declared : attendant.interpreter.flow.declares state then
    .ok
      { attendant with
        fallback := some state
        fallback_declared := fun _ same => Option.some.inj same ▸ declared }
  else .error (.unknownState state attendant.interpreter.flow.name)

def render (attendant : Attendant δ) : Cycle δ Turn := do
  let session ← Cycle.session
  let prompts ← Cycle.query attendant.interpreter.prompts
  let acceptedKeys ← Cycle.query fun session =>
    .ofExcept (attendant.interpreter.acceptedKeys session)
  let gather ← Cycle.query attendant.interpreter.gather
  pure { callId := session.callId, state := session.state, prompts, acceptedKeys, gather }

/-- The turn of a call. A new call takes the decisions of its initial state whatever
was pressed; a known one responds to digits, if there are any. -/
def advance (attendant : Attendant δ) (isNew : Bool) (digits : Option String) : Cycle δ Turn := do
  if isNew then
    let _ ← attendant.interpreter.decide
  else
    match digits with
    | some pressed => let _ ← attendant.interpreter.respond (.ofText pressed)
    | none => pure ()
  attendant.render

/-- Moves the session to the fallback state and renders that. No decision is taken
there. -/
def recover (attendant : Attendant δ) (error : CycleError) : Cycle δ Turn :=
  match attendant.fallback with
  | none => Cycle.fail error
  | some state => do
      let _ ← Cycle.query fun _ => .ofExcept (attendant.interpreter.stateNamed state)
      Cycle.moveTo state
      attendant.render

def play (attendant : Attendant δ) (isNew : Bool) (digits : Option String) : Cycle δ Turn :=
  (attendant.advance isNew digits).orElse attendant.recover

def sessionOf (attendant : Attendant δ) (callId : String) :
    Option CallRecord → Except TurnError (Session δ)
  | none => .ok (attendant.interpreter.start callId attendant.codec.fresh)
  | some record =>
      match attendant.codec.decode record.data with
      | none => .error .data
      | some domain => (attendant.interpreter.resume callId record.state domain).mapError .cycle

def recordOf (callId : String) (existing : Option CallRecord) (session : Session δ) (data : Json)
    (now : Instant) : CallRecord :=
  match existing with
  | some record => record.update session.state data now
  | none => .new callId session.state data now

def handle (attendant : Attendant δ) (now : Instant) (callId : String) (digits : Option String)
    (store : CallStore) : Handled Turn :=
  match store.load callId with
  | .error reason => ⟨.error (.store reason), store, []⟩
  | .ok existing =>
      match attendant.sessionOf callId existing with
      | .error error => ⟨.error error, store, []⟩
      | .ok session =>
          match attendant.play existing.isNone digits session with
          | ⟨.error error, _, log⟩ => ⟨.error (.cycle error), store, log⟩
          | ⟨.ok turn, played, log⟩ =>
              match attendant.codec.encode played.domain with
              | none => ⟨.error .domain, store, log⟩
              | some data =>
                  match store.save (recordOf callId existing played data now) with
                  | .error reason => ⟨.error (.store reason), store, log⟩
                  | .ok saved => ⟨.ok turn, saved, log⟩

def hangup (callId : String) (store : CallStore) : Handled Unit :=
  match store.remove callId with
  | .error reason => ⟨.error (.store reason), store, []⟩
  | .ok removed => ⟨.ok (), removed, []⟩

end Attendant

end VoiceMenu
