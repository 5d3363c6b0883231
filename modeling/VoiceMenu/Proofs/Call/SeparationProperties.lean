import VoiceMenu.Proofs.Call.ContinuityProperties

/-! Calls do not influence each other, and a hangup forgets everything. However the requests of
other calls lie between them, the requests of a call since its last hangup are answered as if
there were no others. -/

set_option autoImplicit false

namespace VoiceMenu

/-! ## Requests of many calls -/

inductive CallRequest where
  | handle (callId : String) (request : Request)
  | hangup (callId : String)

namespace CallRequest

def ends (callId : String) : CallRequest → Bool
  | .handle _ _ => false
  | .hangup other => other = callId

/-- What the call is to handle, if the request is one of that call. -/
def ofCall? (callId : String) : CallRequest → Option Request
  | .handle other request => if other = callId then some request else none
  | .hangup _ => none

theorem ofCall?_eq_some_iff {callId : String} {request : CallRequest} {wanted : Request} :
    request.ofCall? callId = some wanted ↔ request = .handle callId wanted := by
  cases request with
  | hangup => simp [ofCall?]
  | handle other given => simp [ofCall?]

end CallRequest

/-- A request with its answer and what was done. A hangup has no turn. -/
structure Exchange where
  request : CallRequest
  answer : Except TurnError (Option Turn)
  log : Log

def Exchange.response (exchange : Exchange) : Except TurnError (Option Turn) × Log :=
  (exchange.answer, exchange.log)

/-- What comes after the last item with a mark, which is everything if none has one. -/
def afterLast {α : Type} (marks : α → Bool) : List α → List α
  | [] => []
  | item :: rest => if (item :: rest).any marks then afterLast marks rest else item :: rest

def requestsOf (callId : String) (requests : List CallRequest) : List Request :=
  requests.filterMap (·.ofCall? callId)

def responsesTo (callId : String) (exchanges : List Exchange) :
    List (Except TurnError (Option Turn) × Log) :=
  exchanges.filterMap fun exchange =>
    (exchange.request.ofCall? callId).map fun _ => exchange.response

def Handled.map {α β : Type} (change : α → β) (handled : Handled α) : Handled β :=
  ⟨handled.result.map change, handled.store, handled.log⟩

namespace Attendant

variable {δ : Type}

def serve (attendant : Attendant δ) (store : CallStore) : CallRequest → Handled (Option Turn)
  | .handle callId request =>
      (attendant.handle request.now callId request.digits store).map some
  | .hangup callId => (hangup callId store).map fun _ => none

def exchanges (attendant : Attendant δ) : List CallRequest → CallStore → List Exchange
  | [], _ => []
  | request :: rest, store =>
      let served := attendant.serve store request
      ⟨request, served.result, served.log⟩ :: attendant.exchanges rest served.store

def serveAll (attendant : Attendant δ) (requests : List CallRequest) (store : CallStore) :
    CallStore :=
  requests.foldl (fun store request => (attendant.serve store request).store) store

end Attendant

/-- The record without its timestamps. -/
def CallRecord.content (record : CallRecord) : String × String × Json :=
  (record.callId, record.state, record.data)

def CallStore.content? (store : CallStore) (callId : String) : Option (String × String × Json) :=
  (store.records.get? callId).map CallRecord.content

section AfterLast

variable {α : Type} {marks : α → Bool} {items : List α}

theorem afterLast_of_none (unmarked : ∀ item ∈ items, marks item = false) :
    afterLast marks items = items := by
  cases items with
  | nil => rfl
  | cons item rest =>
      rw [afterLast, if_neg]
      simpa using unmarked

theorem afterLast_cons_of_later {item : α} (marked : ∃ item ∈ items, marks item = true) :
    afterLast marks (item :: items) = afterLast marks items := by
  rw [afterLast, if_pos]
  obtain ⟨last, member, isMarked⟩ := marked
  exact List.any_eq_true.mpr ⟨last, List.mem_cons_of_mem _ member, isMarked⟩

theorem afterLast_cons_of_last {item : α} (marked : marks item = true)
    (unmarked : ∀ item ∈ items, marks item = false) :
    afterLast marks (item :: items) = items := by
  rw [afterLast, if_pos (by simp [marked]), afterLast_of_none unmarked]

end AfterLast

/-! ## One request -/

/-- The store is in order, and every record is where it belongs. -/
structure CallStore.Reliable (store : CallStore) : Prop where
  filed : store.Filed
  inOrder : store.outages = {}

theorem CallStore.empty_reliable : CallStore.empty.Reliable := by
  refine ⟨?_, rfl⟩
  intro callId record present
  cases present

/-- Both stores are reliable, and hold the same of the call up to timestamps. -/
structure CallStore.Agrees (callId : String) (store other : CallStore) : Prop where
  left : store.Reliable
  right : other.Reliable
  content : store.content? callId = other.content? callId

namespace Attendant

variable {δ : Type} {attendant : Attendant δ} {store other : CallStore} {callId : String}

/-- The turn of a call with the given record, up to its being saved. -/
def unsaved (attendant : Attendant δ) (callId : String) (existing : Option CallRecord)
    (digits : Option String) : Except TurnError (Turn × Session δ × Json) × Log :=
  match attendant.sessionOf callId existing with
  | .error error => (.error error, [])
  | .ok session =>
      match attendant.play existing.isNone digits session with
      | ⟨.error error, _, log⟩ => (.error (.cycle error), log)
      | ⟨.ok turn, played, log⟩ =>
          match attendant.codec.encode played.domain with
          | none => (.error .domain, log)
          | some data => (.ok (turn, played, data), log)

/-- A store that is in order matters only for the record of the call. -/
theorem handle_eq_unsaved (inOrder : store.outages = {}) (now : Instant)
    (digits : Option String) :
    attendant.handle now callId digits store =
      match attendant.unsaved callId (store.records.get? callId) digits with
      | (.error error, log) => ⟨.error error, store, log⟩
      | (.ok (turn, played, data), log) =>
          ⟨.ok turn,
            store.file (recordOf callId (store.records.get? callId) played data now), log⟩ := by
  simp only [handle, unsaved, CallStore.load, CallStore.save, inOrder]
  cases attendant.sessionOf callId (store.records.get? callId) with
  | error error => rfl
  | ok session =>
      dsimp only
      cases attendant.play (store.records.get? callId).isNone digits session with
      | mk result played log =>
          cases result with
          | error error => rfl
          | ok turn =>
              dsimp only
              cases attendant.codec.encode played.domain <;> rfl

theorem unsaved_congr {existing known : Option CallRecord}
    (same : existing.map CallRecord.content = known.map CallRecord.content)
    (digits : Option String) :
    attendant.unsaved callId existing digits = attendant.unsaved callId known digits := by
  cases existing with
  | none =>
      cases known with
      | none => rfl
      | some record => cases same
  | some record =>
      cases known with
      | none => cases same
      | some recordKnown =>
          obtain ⟨-, sameState, sameData⟩ :
              record.callId = recordKnown.callId ∧ record.state = recordKnown.state ∧
                record.data = recordKnown.data := by
            simpa [CallRecord.content] using same
          simp only [unsaved, sessionOf, sameState, sameData, Option.isNone_some]

theorem recordOf_content {existing : Option CallRecord}
    (own : ∀ record, existing = some record → record.callId = callId) (session : Session δ)
    (data : Json) (now : Instant) :
    (recordOf callId existing session data now).content = (callId, session.state, data) := by
  cases existing with
  | none => rfl
  | some record => rw [← own record rfl]; rfl

theorem content?_file_recordOf (filed : store.Filed) (played : Session δ) (data : Json)
    (now : Instant) :
    (store.file (recordOf callId (store.records.get? callId) played data now)).content? callId =
      some (callId, played.state, data) := by
  have own : ∀ record, store.records.get? callId = some record → record.callId = callId :=
    fun record present => filed present
  rw [CallStore.content?, CallStore.get?_file, if_pos (recordOf_callId own played data now),
    Option.map_some, recordOf_content own]

theorem serve_reliable (attendant : Attendant δ) (reliable : store.Reliable)
    (request : CallRequest) : (attendant.serve store request).store.Reliable := by
  obtain ⟨filed, inOrder⟩ := reliable
  cases request with
  | handle callId request =>
      rw [serve, handle_eq_unsaved inOrder]
      rcases attendant.unsaved callId (store.records.get? callId) request.digits with
        ⟨error | ⟨turn, played, data⟩, log⟩
      · exact ⟨filed, inOrder⟩
      · exact ⟨filed.file _, inOrder⟩
  | hangup callId =>
      simp only [serve, hangup, CallStore.remove, inOrder]
      exact ⟨filed.erase callId, rfl⟩

theorem serve_get?_of_other (attendant : Attendant δ) (filed : store.Filed)
    {request : CallRequest} (foreign : request.ofCall? callId = none)
    (stays : request.ends callId = false) :
    (attendant.serve store request).store.records.get? callId = store.records.get? callId := by
  cases request with
  | handle other request =>
      have different : callId ≠ other := by
        rintro rfl
        simp [CallRequest.ofCall?] at foreign
      exact (attendant.handles_handle request.now other request.digits store).get?_of_ne filed
        different
  | hangup other =>
      have different : callId ≠ other := by
        rintro rfl
        simp [CallRequest.ends] at stays
      exact hangup_get?_of_ne store different

theorem serve_get?_of_ends (attendant : Attendant δ) (inOrder : store.outages = {})
    {request : CallRequest} (ends : request.ends callId = true) :
    (attendant.serve store request).store.records.get? callId = none := by
  cases request with
  | handle => cases ends
  | hangup other =>
      have same : other = callId := by simpa [CallRequest.ends] using ends
      rw [same]
      simp only [serve, hangup, CallStore.remove, inOrder, Handled.map, Table.get?_erase]
      rfl

theorem serve_agrees_of_other (attendant : Attendant δ)
    (agrees : CallStore.Agrees callId store other) {request : CallRequest}
    (foreign : request.ofCall? callId = none) (stays : request.ends callId = false) :
    CallStore.Agrees callId (attendant.serve store request).store other := by
  refine ⟨attendant.serve_reliable agrees.left request, agrees.right, ?_⟩
  have kept := attendant.serve_get?_of_other agrees.left.filed foreign stays
  exact (congrArg (Option.map CallRecord.content) kept).trans agrees.content

/-- A call of which two stores hold the same gets the same answer from both, at any times. -/
theorem serve_agrees (attendant : Attendant δ) (agrees : CallStore.Agrees callId store other)
    {request again : Request} (sameDigits : request.digits = again.digits) :
    let one := attendant.serve store (.handle callId request)
    let two := attendant.serve other (.handle callId again)
    one.result = two.result ∧ one.log = two.log ∧
      CallStore.Agrees callId one.store two.store := by
  intro one two
  have reliable : one.store.Reliable := attendant.serve_reliable agrees.left _
  have reliableToo : two.store.Reliable := attendant.serve_reliable agrees.right _
  suffices same : one.result = two.result ∧ one.log = two.log ∧
      one.store.content? callId = two.store.content? callId from
    ⟨same.1, same.2.1, reliable, reliableToo, same.2.2⟩
  have first : one = Handled.map some _ :=
    congrArg (Handled.map some) (handle_eq_unsaved agrees.left.inOrder request.now request.digits)
  have second : two = Handled.map some _ :=
    congrArg (Handled.map some) (handle_eq_unsaved agrees.right.inOrder again.now again.digits)
  rw [first, second, unsaved_congr agrees.content, sameDigits]
  rcases attendant.unsaved callId (other.records.get? callId) again.digits with
    ⟨error | ⟨turn, played, data⟩, log⟩
  · exact ⟨rfl, rfl, agrees.content⟩
  · refine ⟨rfl, rfl, ?_⟩
    exact (content?_file_recordOf agrees.left.filed played data request.now).trans
      (content?_file_recordOf agrees.right.filed played data again.now).symm

/-! ## All requests -/

theorem exchanges_requests (attendant : Attendant δ) (requests : List CallRequest)
    (store : CallStore) : (attendant.exchanges requests store).map (·.request) = requests := by
  induction requests generalizing store with
  | nil => rfl
  | cons request rest ih => exact congrArg (request :: ·) (ih _)

theorem exchanges_stay (attendant : Attendant δ) {requests : List CallRequest}
    (stays : ∀ request ∈ requests, request.ends callId = false) (store : CallStore) :
    ∀ exchange ∈ attendant.exchanges requests store, exchange.request.ends callId = false := by
  intro exchange member
  refine stays exchange.request ?_
  rw [← attendant.exchanges_requests requests store]
  exact List.mem_map_of_mem member

/-- Without a hangup of the call, its requests are answered as by a store of the same content
that gets no others. -/
theorem exchanges_agree {requests : List CallRequest} {alone : List Request}
    (agrees : CallStore.Agrees callId store other)
    (stays : ∀ request ∈ requests, request.ends callId = false)
    (own : alone.map (·.digits) = (requestsOf callId requests).map (·.digits)) :
    responsesTo callId (attendant.exchanges requests store) =
        (attendant.exchanges (alone.map (.handle callId)) other).map (·.response) ∧
      (attendant.serveAll requests store).content? callId =
        (attendant.serveAll (alone.map (.handle callId)) other).content? callId := by
  induction requests generalizing store other alone with
  | nil =>
      have none : alone = [] := by simpa [requestsOf] using own
      rw [none]
      exact ⟨rfl, agrees.content⟩
  | cons request rest ih =>
      have staysHere := stays request List.mem_cons_self
      have staysLater := fun later member => stays later (List.mem_cons_of_mem _ member)
      rw [requestsOf, List.filterMap_cons] at own
      cases asked : request.ofCall? callId with
      | none =>
          rw [asked] at own
          have later := ih (attendant.serve_agrees_of_other agrees asked staysHere) staysLater own
          simpa [exchanges, responsesTo, asked, serveAll] using later
      | some wanted =>
          rw [asked] at own
          obtain ⟨first, others, rfl, sameDigits, ownLater⟩ := List.map_eq_cons_iff.mp own
          cases CallRequest.ofCall?_eq_some_iff.mp asked
          obtain ⟨sameAnswer, sameLog, agreesAfter⟩ :=
            attendant.serve_agrees agrees sameDigits.symm
          obtain ⟨responses, content⟩ := ih agreesAfter staysLater ownLater
          refine ⟨?_, content⟩
          simp only [exchanges, responsesTo, List.filterMap_cons, asked, Option.map_some,
            List.map_cons, Exchange.response, sameAnswer, sameLog]
          exact congrArg (_ :: ·) responses

/-- After the last hangup of a call, nothing is left of it. -/
theorem exchanges_afterLast {requests : List CallRequest} {alone : List Request}
    (reliable : store.Reliable) (hangsUp : ∃ request ∈ requests, request.ends callId = true)
    (own : alone.map (·.digits) =
      (requestsOf callId (afterLast (·.ends callId) requests)).map (·.digits)) :
    responsesTo callId (afterLast (·.request.ends callId) (attendant.exchanges requests store)) =
        (attendant.exchanges (alone.map (.handle callId)) .empty).map (·.response) ∧
      (attendant.serveAll requests store).content? callId =
        (attendant.serveAll (alone.map (.handle callId)) .empty).content? callId := by
  induction requests generalizing store with
  | nil => simp at hangsUp
  | cons request rest ih =>
      have reliableAfter := attendant.serve_reliable reliable request
      by_cases later : ∃ request ∈ rest, request.ends callId = true
      · have laterToo : ∃ exchange ∈
            attendant.exchanges rest (attendant.serve store request).store,
            exchange.request.ends callId = true := by
          obtain ⟨last, member, ends⟩ := later
          rw [← attendant.exchanges_requests rest (attendant.serve store request).store] at member
          obtain ⟨exchange, inRest, rfl⟩ := List.mem_map.mp member
          exact ⟨exchange, inRest, ends⟩
        rw [afterLast_cons_of_later later] at own
        rw [exchanges, afterLast_cons_of_later laterToo]
        exact ih reliableAfter later own
      · have stays : ∀ request ∈ rest, request.ends callId = false := by simpa using later
        have ends : request.ends callId = true := by
          obtain ⟨last, member, ends⟩ := hangsUp
          rcases List.mem_cons.mp member with rfl | inRest
          · exact ends
          · exact absurd ⟨last, inRest, ends⟩ later
        rw [afterLast_cons_of_last ends stays] at own
        have answeredLast : afterLast (·.request.ends callId)
            (attendant.exchanges (request :: rest) store) =
              attendant.exchanges rest (attendant.serve store request).store :=
          afterLast_cons_of_last ends (attendant.exchanges_stay stays _)
        rw [answeredLast]
        have forgotten := attendant.serve_get?_of_ends reliable.inOrder ends
        exact exchanges_agree
          ⟨reliableAfter, CallStore.empty_reliable, congrArg (Option.map _) forgotten⟩ stays own

/-- Calls do not influence each other. Among the requests of any calls, those of one call since
its last hangup get the answers that they get alone on an empty store, after the same calls of
the resolver. What is stored of the call in the end is the same as well, up to its timestamps. -/
theorem calls_are_separate (attendant : Attendant δ) (requests : List CallRequest)
    (callId : String) (alone : List Request)
    (own : alone.map (·.digits) =
      (requestsOf callId (afterLast (·.ends callId) requests)).map (·.digits)) :
    responsesTo callId (afterLast (·.request.ends callId) (attendant.exchanges requests .empty)) =
        (attendant.exchanges (alone.map (.handle callId)) .empty).map (·.response) ∧
      (attendant.serveAll requests .empty).content? callId =
        (attendant.serveAll (alone.map (.handle callId)) .empty).content? callId := by
  by_cases hangsUp : ∃ request ∈ requests, request.ends callId = true
  · exact exchanges_afterLast CallStore.empty_reliable hangsUp own
  · have stays : ∀ request ∈ requests, request.ends callId = false := by simpa using hangsUp
    rw [afterLast_of_none stays] at own
    rw [afterLast_of_none (attendant.exchanges_stay stays _)]
    exact exchanges_agree ⟨CallStore.empty_reliable, CallStore.empty_reliable, rfl⟩ stays own

end Attendant

/-- Two calls at once. The first hangs up in between and calls again. -/
def busyHour : List CallRequest :=
  [.handle "call-1" ⟨⟨1, 0⟩, none⟩, .handle "call-2" ⟨⟨2, 0⟩, none⟩,
    .handle "call-1" ⟨⟨3, 0⟩, some "42#"⟩, .hangup "call-1", .handle "call-2" ⟨⟨4, 0⟩, some "7#"⟩,
    .handle "call-1" ⟨⟨5, 0⟩, none⟩, .hangup "call-2", .handle "call-1" ⟨⟨6, 0⟩, some "1"⟩]

theorem ratingAttendant_second_call_is_as_a_first :
    (requestsOf "call-1" (afterLast (·.ends "call-1") busyHour)).map (·.digits) =
        [none, some "1"] ∧
      responsesTo "call-1" (afterLast (·.request.ends "call-1")
          (ratingAttendant.exchanges busyHour .empty)) =
        (ratingAttendant.exchanges [.handle "call-1" ⟨⟨0, 0⟩, none⟩,
          .handle "call-1" ⟨⟨0, 0⟩, some "1"⟩] .empty).map (·.response) ∧
      (ratingAttendant.serveAll busyHour .empty).content? "call-1" =
        some ("call-1", "thanks", .integer 0) := by
  have separate := ratingAttendant.calls_are_separate busyHour "call-1"
    [⟨⟨0, 0⟩, none⟩, ⟨⟨0, 0⟩, some "1"⟩] rfl
  exact ⟨rfl, separate.1, separate.2.trans rfl⟩

end VoiceMenu
