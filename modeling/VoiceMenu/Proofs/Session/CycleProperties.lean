import VoiceMenu.Session.Basic

/-! What queries and cycles give when they are run: their primitive parts, and the
sequence of two, which puts the log of the second part behind that of the first. -/

set_option autoImplicit false

namespace VoiceMenu

/-- The query with `log` in front of what it did. -/
def Query.behind {α : Type} (log : Log) (query : Query α) : Query α :=
  ⟨query.result, log ++ query.log⟩

def Report.behind {δ α : Type} (log : Log) (report : Report δ α) : Report δ α :=
  ⟨report.result, report.session, log ++ report.log⟩

namespace Query

variable {α β : Type}

theorem bind_of_ok {first : Query α} {next : α → Query β} {value : α}
    (answered : first.result = .ok value) :
    (first >>= next) = (next value).behind first.log := by
  rcases first with ⟨result, log⟩
  cases answered
  rfl

theorem bind_of_error {first : Query α} {next : α → Query β} {error : CycleError}
    (failed : first.result = .error error) : (first >>= next) = ⟨.error error, first.log⟩ := by
  rcases first with ⟨result, log⟩
  cases failed
  rfl

theorem of_bind_ok {first : Query α} {next : α → Query β} {value : β}
    (answered : (first >>= next).result = .ok value) :
    ∃ between, first.result = .ok between ∧ (next between).result = .ok value := by
  cases ran : first.result with
  | error error =>
      rw [bind_of_error ran] at answered
      cases answered
  | ok between =>
      rw [bind_of_ok ran] at answered
      exact ⟨between, rfl, answered⟩

@[simp] theorem pure_eq (value : α) : (pure value : Query α) = ⟨.ok value, []⟩ := rfl

@[simp] theorem behind_nil (query : Query α) : query.behind [] = query := rfl

end Query

namespace Report

variable {δ α : Type}

@[simp] theorem behind_nil (report : Report δ α) : report.behind [] = report := rfl

@[simp] theorem behind_mk (log later : Log) (result : Except CycleError α)
    (session : Session δ) :
    Report.behind log ⟨result, session, later⟩ = ⟨result, session, log ++ later⟩ := rfl

end Report

namespace Cycle

variable {δ α β : Type}

theorem bind_of_ok {first : Cycle δ α} {next : α → Cycle δ β} {session changed : Session δ}
    {value : α} {log : Log} (ran : first session = ⟨.ok value, changed, log⟩) :
    (first >>= next) session = (next value changed).behind log := by
  change Cycle.bind first next session = _
  simp only [Cycle.bind, ran]
  rfl

theorem bind_of_error {first : Cycle δ α} {next : α → Cycle δ β} {session changed : Session δ}
    {error : CycleError} {log : Log} (ran : first session = ⟨.error error, changed, log⟩) :
    (first >>= next) session = ⟨.error error, changed, log⟩ := by
  change Cycle.bind first next session = _
  simp only [Cycle.bind, ran]

/-- The second cycles need to agree only on what the first one can lead to. -/
theorem bind_congr {first other : Cycle δ α} {next later : α → Cycle δ β} {session : Session δ}
    (sameFirst : other session = first session)
    (sameNext : ∀ value changed log, first session = ⟨.ok value, changed, log⟩ →
      later value changed = next value changed) :
    (other >>= later) session = (first >>= next) session := by
  rcases ran : first session with ⟨error | value, changed, log⟩
  · rw [bind_of_error ran, bind_of_error (sameFirst.trans ran)]
  · rw [bind_of_ok ran, bind_of_ok (sameFirst.trans ran), sameNext value changed log ran]

@[simp] theorem pure_run (value : α) (session : Session δ) :
    (pure value : Cycle δ α) session = ⟨.ok value, session, []⟩ := rfl

@[simp] theorem fail_run (error : CycleError) (session : Session δ) :
    (fail error : Cycle δ α) session = ⟨.error error, session, []⟩ := rfl

@[simp] theorem stateName_run (session : Session δ) :
    stateName session = ⟨.ok session.state, session, []⟩ := rfl

@[simp] theorem query_run (ask : Session δ → Query α) (session : Session δ) :
    query ask session = ⟨(ask session).result, session, (ask session).log⟩ := rfl

/-- A query that goes on in a cycle which only queries is one query. -/
theorem query_bind_run {ask : Session δ → Query α} {next : α → Cycle δ β} {later : α → Query β}
    {session : Session δ}
    (asks : ∀ value, next value session = ⟨(later value).result, session, (later value).log⟩) :
    (query ask >>= next) session =
      ⟨(ask session >>= later).result, session, (ask session >>= later).log⟩ := by
  cases asked : (ask session).result with
  | error error => rw [bind_of_error (by rw [query_run, asked]), Query.bind_of_error asked]
  | ok value =>
      rw [bind_of_ok (by rw [query_run, asked]), Query.bind_of_ok asked, asks]
      rfl

@[simp] theorem session_bind_run (next : Session δ → Cycle δ β) (session : Session δ) :
    (Cycle.session >>= next) session = next session session := rfl

@[simp] theorem moveTo_bind_run (state : String) (next : Unit → Cycle δ β)
    (session : Session δ) :
    (moveTo state >>= next) session = next () { session with state := state } := rfl

@[simp] theorem note_bind_run (activity : Activity) (next : Unit → Cycle δ β)
    (session : Session δ) :
    (note activity >>= next) session = (next () session).behind [activity] := rfl

end Cycle

end VoiceMenu
