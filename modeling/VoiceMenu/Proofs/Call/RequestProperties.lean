import VoiceMenu.Call.Attendant
import VoiceMenu.Proofs.Interpreter.ResponseProperties

/-! What one request does to the store. Each way in which a request can end has a case
of its own; only an answered turn and a completed hangup change the store. -/

set_option autoImplicit false

namespace VoiceMenu

/-! ## Stores -/

namespace CallStore

/-- The stores that come about by saving and removing, with any operations out of order
at any time. -/
inductive Produced : CallStore → Prop where
  | empty {outages : Outages} : Produced ⟨.empty, outages⟩
  | saved {store later : CallStore} {record : CallRecord} :
      Produced store → store.save record = .ok later → Produced later
  | removed {store later : CallStore} {callId : String} :
      Produced store → store.remove callId = .ok later → Produced later
  | outage {store : CallStore} {outages : Outages} :
      Produced store → Produced { store with outages }

/-- Every record is filed under its own call id. -/
def Filed (store : CallStore) : Prop :=
  ∀ {callId record}, store.records.get? callId = some record → record.callId = callId

theorem load_of_ok {store : CallStore} {callId : String} {existing : Option CallRecord}
    (loaded : store.load callId = .ok existing) : store.records.get? callId = existing := by
  unfold load at loaded
  split at loaded
  · cases loaded
  · cases loaded; rfl

theorem save_of_ok {store saved : CallStore} {record : CallRecord}
    (saves : store.save record = .ok saved) : saved = store.file record := by
  unfold save at saves
  split at saves
  · cases saves
  · cases saves; rfl

theorem remove_of_ok {store removed : CallStore} {callId : String}
    (removes : store.remove callId = .ok removed) :
    removed = { store with records := store.records.erase callId } := by
  unfold remove at removes
  split at removes
  · cases removes
  · cases removes; rfl

theorem get?_file (store : CallStore) (record : CallRecord) (callId : String) :
    (store.file record).records.get? callId =
      if record.callId = callId then some record else store.records.get? callId :=
  Table.get?_insert store.records record.callId callId record

theorem Filed.file {store : CallStore} (filed : store.Filed) (record : CallRecord) :
    (store.file record).Filed := by
  intro callId found present
  rw [get?_file] at present
  split at present
  · rename_i same
    cases present
    exact same
  · exact filed present

theorem Filed.erase {store : CallStore} (filed : store.Filed) (callId : String) :
    CallStore.Filed { store with records := store.records.erase callId } := by
  intro other found present
  rw [Table.get?_erase] at present
  split at present
  · cases present
  · exact filed present

theorem Produced.filed {store : CallStore} (produced : store.Produced) : store.Filed := by
  induction produced with
  | empty => intro callId record present; cases present
  | saved _ saves ih => exact save_of_ok saves ▸ ih.file _
  | removed _ removes ih => exact remove_of_ok removes ▸ ih.erase _
  | outage _ ih => exact ih

end CallStore

/-! ## Requests -/

namespace Attendant

variable {δ : Type}

/-- How a turn ends. -/
inductive Handles (attendant : Attendant δ) (now : Instant) (callId : String)
    (digits : Option String) (store : CallStore) : Handled Turn → Prop where
  | loadFailure {reason : String} :
      store.load callId = .error reason →
      Handles attendant now callId digits store ⟨.error (.store reason), store, []⟩
  | noSession {existing : Option CallRecord} {error : TurnError} :
      store.load callId = .ok existing → attendant.sessionOf callId existing = .error error →
      Handles attendant now callId digits store ⟨.error error, store, []⟩
  | turnFailure {existing : Option CallRecord} {session played : Session δ} {error : CycleError}
      {log : Log} :
      store.load callId = .ok existing → attendant.sessionOf callId existing = .ok session →
      attendant.play existing.isNone digits session = ⟨.error error, played, log⟩ →
      Handles attendant now callId digits store ⟨.error (.cycle error), store, log⟩
  | unwritable {existing : Option CallRecord} {session played : Session δ} {turn : Turn}
      {log : Log} :
      store.load callId = .ok existing → attendant.sessionOf callId existing = .ok session →
      attendant.play existing.isNone digits session = ⟨.ok turn, played, log⟩ →
      attendant.codec.encode played.domain = none →
      Handles attendant now callId digits store ⟨.error .domain, store, log⟩
  | saveFailure {existing : Option CallRecord} {session played : Session δ} {turn : Turn}
      {log : Log} {data : Json} {reason : String} :
      store.load callId = .ok existing → attendant.sessionOf callId existing = .ok session →
      attendant.play existing.isNone digits session = ⟨.ok turn, played, log⟩ →
      attendant.codec.encode played.domain = some data →
      store.save (recordOf callId existing played data now) = .error reason →
      Handles attendant now callId digits store ⟨.error (.store reason), store, log⟩
  | answered {existing : Option CallRecord} {session played : Session δ} {turn : Turn}
      {log : Log} {data : Json} {saved : CallStore} :
      store.load callId = .ok existing → attendant.sessionOf callId existing = .ok session →
      attendant.play existing.isNone digits session = ⟨.ok turn, played, log⟩ →
      attendant.codec.encode played.domain = some data →
      store.save (recordOf callId existing played data now) = .ok saved →
      Handles attendant now callId digits store ⟨.ok turn, saved, log⟩

theorem handles_handle (attendant : Attendant δ) (now : Instant) (callId : String)
    (digits : Option String) (store : CallStore) :
    Handles attendant now callId digits store (attendant.handle now callId digits store) := by
  unfold handle
  split
  · rename_i failed
    exact .loadFailure failed
  · rename_i existing loaded
    split
    · rename_i failed
      exact .noSession loaded failed
    · rename_i session opened
      split
      · rename_i failed
        exact .turnFailure loaded opened failed
      · rename_i turn played log plays
        split
        · rename_i unwritten
          exact .unwritable loaded opened plays unwritten
        · rename_i data written
          split
          · rename_i failed
            exact .saveFailure loaded opened plays written failed
          · rename_i saved saves
            exact .answered loaded opened plays written saves

theorem recordOf_callId {callId : String} {existing : Option CallRecord}
    (own : ∀ record, existing = some record → record.callId = callId) (session : Session δ)
    (data : Json) (now : Instant) :
    (recordOf callId existing session data now).callId = callId := by
  cases existing with
  | none => rfl
  | some record => exact own record rfl

theorem Handles.store_of_error {attendant : Attendant δ} {now : Instant} {callId : String}
    {digits : Option String} {store : CallStore} {handled : Handled Turn} {error : TurnError}
    (handles : Handles attendant now callId digits store handled)
    (failed : handled.result = .error error) : handled.store = store := by
  cases handles with
  | loadFailure => rfl
  | noSession => rfl
  | turnFailure => rfl
  | unwritable => rfl
  | saveFailure => rfl
  | answered => cases failed

theorem Handles.get?_of_ne {attendant : Attendant δ} {now : Instant} {callId : String}
    {digits : Option String} {store : CallStore} {handled : Handled Turn} (filed : store.Filed)
    (handles : Handles attendant now callId digits store handled) {other : String}
    (different : other ≠ callId) :
    handled.store.records.get? other = store.records.get? other := by
  cases handles with
  | loadFailure => rfl
  | noSession => rfl
  | turnFailure => rfl
  | unwritable => rfl
  | saveFailure => rfl
  | answered loaded _ _ _ saves =>
      have found := CallStore.load_of_ok loaded
      rw [CallStore.save_of_ok saves, CallStore.get?_file,
        recordOf_callId fun record same => filed (found.trans same), if_neg different.symm]

theorem hangup_store_of_error {callId : String} {store : CallStore} {error : TurnError}
    (failed : (hangup callId store).result = .error error) :
    (hangup callId store).store = store := by
  unfold hangup at failed ⊢
  split
  · rfl
  · rename_i removes
    rw [removes] at failed
    cases failed

theorem hangup_get?_of_ne (store : CallStore) {callId other : String}
    (different : other ≠ callId) :
    (hangup callId store).store.records.get? other = store.records.get? other := by
  unfold hangup
  split
  · rfl
  · rename_i removes
    rw [CallStore.remove_of_ok removes, Table.get?_erase, if_neg different.symm]

/-- A request that fails, wherever it fails, leaves the store as it was, and one that
succeeds touches the record of its own call only. -/
theorem requests_change_own_record_only (attendant : Attendant δ) {store : CallStore}
    (produced : store.Produced) (now : Instant) (callId : String) (digits : Option String) :
    (∀ error, (attendant.handle now callId digits store).result = .error error →
      (attendant.handle now callId digits store).store = store) ∧
    (∀ error, (hangup callId store).result = .error error →
      (hangup callId store).store = store) ∧
    ∀ other, other ≠ callId →
      (attendant.handle now callId digits store).store.records.get? other =
          store.records.get? other ∧
        (hangup callId store).store.records.get? other = store.records.get? other := by
  have handles := attendant.handles_handle now callId digits store
  refine ⟨fun error failed => handles.store_of_error failed,
    fun error failed => hangup_store_of_error failed, ?_⟩
  intro other different
  exact ⟨handles.get?_of_ne produced.filed different, hangup_get?_of_ne store different⟩

end Attendant

/-! ## An attendant for examples -/

def countCodec : DomainCodec Nat where
  fresh := 0
  encode count := some (.integer count)
  decode := Json.digitLimit?

def ratingAttendant : Attendant Nat where
  interpreter := ratingInterpreter
  codec := countCodec
  fallback := some "thanks"
  fallback_declared := by
    intro state same
    cases same
    rfl

def checkRecord : CallRecord := .new "call-2" "check" .null ⟨0, 0⟩

/-- A store with the record of another call, which can no longer be saved to. -/
def crowdedStore : CallStore :=
  { CallStore.empty.file checkRecord with outages := { save := some "disk full" } }

theorem crowdedStore_produced : crowdedStore.Produced := by
  have saves : CallStore.empty.save checkRecord = .ok (CallStore.empty.file checkRecord) := rfl
  exact .outage (.saved .empty saves)

theorem ratingAttendant_full_disk_keeps_records :
    crowdedStore.Produced ∧
      (ratingAttendant.handle ⟨1, 0⟩ "call-1" none crowdedStore).result =
        .error (.store "disk full") ∧
      (ratingAttendant.handle ⟨1, 0⟩ "call-1" none crowdedStore).store = crowdedStore :=
  ⟨crowdedStore_produced, rfl,
    (ratingAttendant.requests_change_own_record_only crowdedStore_produced ⟨1, 0⟩ "call-1"
      none).1 _ rfl⟩

end VoiceMenu
