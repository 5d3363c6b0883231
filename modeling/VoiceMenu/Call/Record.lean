import VoiceMenu.Document
import VoiceMenu.Instant.Rfc3339

/-!
# Call records

Between two turns a call is kept as a record: the state it is in, its domain value as
JSON data, and when it was created and last updated.
-/

set_option autoImplicit false

namespace VoiceMenu

structure CallRecord where
  callId : String
  state : String
  data : Json
  createdAt : Instant
  updatedAt : Instant
  deriving Repr

namespace CallRecord

def new (callId state : String) (data : Json) (now : Instant) : CallRecord :=
  ⟨callId, state, data, now, now⟩

def update (record : CallRecord) (state : String) (data : Json) (now : Instant) : CallRecord :=
  { record with state := state, data := data, updatedAt := now }

def toJson (record : CallRecord) : Json :=
  .object
    [("call_guid", .string record.callId), ("created_at", .string record.createdAt.text),
      ("data", record.data), ("state", .string record.state),
      ("updated_at", .string record.updatedAt.text)]

open Document

def instant? {τ : Type} [Document τ] (node : τ) : Option Instant :=
  (text? node).bind Instant.parse?

/-- Reads a record; every member has to be there. -/
def ofDocument? {τ : Type} [Document τ] (node : τ) : Option CallRecord := do
  let members ← members? 5 node
  let callId ← members.required "call_guid" 0 text?
  let state ← members.required "state" 1 text?
  let data ← members.required "data" 2 (some <| Document.toJson ·)
  let createdAt ← members.required "created_at" 3 instant?
  let updatedAt ← members.required "updated_at" 4 instant?
  pure { callId, state, data, createdAt, updatedAt }

end CallRecord

end VoiceMenu
