import VoiceMenu.Flow.Basic
import VoiceMenu.Json.Printer

/-!
# Replies of callbacks

Callbacks reply with loosely typed JSON values. This module says what a reply
means where an outcome, prompt text or a digit limit is asked for.
-/

set_option autoImplicit false

namespace VoiceMenu

inductive ReplyKind where
  | text
  | digitCount
  deriving DecidableEq, Repr

def ReplyKind.description : ReplyKind → String
  | .text => "text"
  | .digitCount => "a digit count"

inductive CallbackError where
  | unknown (name : String)
  | failed (name : String) (reason : String)
  | unexpectedReply (name : String) (reply : Json) (expected : ReplyKind)
  deriving Repr

def CallbackError.message : CallbackError → String
  | .unknown name => s!"callback '{name}' is not registered"
  | .failed name reason => s!"callback '{name}' failed: {reason}"
  | .unexpectedReply name reply expected =>
      s!"callback '{name}' returned {reply.compact}, expected {expected.description}"

namespace Json

/-- The outcome that a reply stands for; `none` for any other reply. -/
def outcome? : Json → Option Outcome
  | .bool true => some .yes
  | .bool false => some .no
  | .string text =>
      if text = "yes" then some .yes else if text = "no" then some .no else none
  | .null => some .indeterminate
  | _ => none

/-- Null and false leave the decision to the decider. -/
def isUnset : Json → Bool
  | .null | .bool false => true
  | _ => false

/-- The digit limit that a reply stands for: a whole number that is not negative. -/
def digitLimit? : Json → Option Nat
  | .number (.integer value) => value.toNat?
  | _ => none

mutual

/-- The prompt lines of a reply: its texts and numbers from left to right, at any
depth of arrays. The error is the first leaf that is neither and is not null. -/
def lines : Json → Except Json (List String)
  | .null => .ok []
  | .string text => .ok [text]
  | .number value => .ok [value.text]
  | .array items => linesOfItems items
  | other => .error other

def linesOfItems : List Json → Except Json (List String)
  | [] => .ok []
  | item :: items => do
      let first ← lines item
      let rest ← linesOfItems items
      pure (first ++ rest)

end

end Json

end VoiceMenu
