import VoiceMenu.Callback.Reply

/-!
# Resolvers

A flow refers to behaviour by name only: deciders, side effects, dynamic prompt
texts and digit limits. A resolver maps the names to behaviour on a domain value,
the data that belongs to one call.
-/

set_option autoImplicit false

namespace VoiceMenu

/-- The behaviour behind the callback names, for domain values in `δ`. -/
structure Resolver (δ : Type) where
  /-- Asks a decider or runs a side effect with the digits that led to it. The
  domain may change even when the call fails. -/
  call : (name : String) → (digits : Option String) → δ → δ × Except CallbackError Json
  text : (name : String) → δ → Except CallbackError Json
  hasAction : (name : String) → Bool

namespace Resolver

variable {δ : Type}

/-- Constant replies, the same for calls and texts. The domain plays no part. -/
def constant (replies : Table Json) : Resolver δ :=
  let reply (name : String) : Except CallbackError Json :=
    match replies.get? name with
    | some value => .ok value
    | none => .error (.unknown name)
  { call := fun name _ domain => (domain, reply name)
    text := fun name _ => reply name
    hasAction := replies.contains }

/-- Functions registered by name, actions and texts apart. A function that fails
gives the reason. -/
def registry
    (actions : Table (Option String → δ → δ × Except String Json))
    (texts : Table (δ → Except String Json)) : Resolver δ where
  call name digits domain :=
    match actions.get? name with
    | none => (domain, .error (.unknown name))
    | some action =>
        match action digits domain with
        | (changed, .ok reply) => (changed, .ok reply)
        | (changed, .error reason) => (changed, .error (.failed name reason))
  text name domain :=
    match texts.get? name with
    | none => .error (.unknown name)
    | some ask =>
        match ask domain with
        | .ok reply => .ok reply
        | .error reason => .error (.failed name reason)
  hasAction := actions.contains

end Resolver

end VoiceMenu
