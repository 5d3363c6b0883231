import VoiceMenu.Call.Record

/-!
# Call stores

A store keeps the records of calls in memory, filed under their call ids. Each of its
operations can be out of order; it then fails with a reason and changes nothing.
-/

set_option autoImplicit false

namespace VoiceMenu

/-- The operations that are out of order, each with the reason. -/
structure Outages where
  load : Option String := none
  save : Option String := none
  remove : Option String := none
  deriving DecidableEq, Repr

structure CallStore where
  records : Table CallRecord
  outages : Outages := {}

namespace CallStore

def empty : CallStore := ⟨.empty, {}⟩

instance : Inhabited CallStore := ⟨empty⟩

/-- Files a record under its own call id. -/
def file (store : CallStore) (record : CallRecord) : CallStore :=
  { store with records := store.records.insert record.callId record }

def load (store : CallStore) (callId : String) : Except String (Option CallRecord) :=
  match store.outages.load with
  | some reason => .error reason
  | none => .ok (store.records.get? callId)

def save (store : CallStore) (record : CallRecord) : Except String CallStore :=
  match store.outages.save with
  | some reason => .error reason
  | none => .ok (store.file record)

def remove (store : CallStore) (callId : String) : Except String CallStore :=
  match store.outages.remove with
  | some reason => .error reason
  | none => .ok { store with records := store.records.erase callId }

end CallStore

end VoiceMenu
