import Mathlib.Data.List.Forall2
import VoiceMenu.Proofs.Interpreter.RunProperties

/-! What a caller hears. A state says its fragments in turn, and a reply says its leaves
in turn, in both cases up to the first that cannot be said. -/

set_option autoImplicit false

namespace VoiceMenu

/-! ## In turn -/

/-- The items are taken in turn. What they give is put together in order, unless one of
them stops it all; the items after that one are not taken. -/
inductive InTurn {α β ε : Type} (Gives : α → List β → Prop) (Stops : α → ε → Prop)
    (items : List α) : List α → Except ε (List β) → Prop where
  | all {parts : List (List β)} :
      List.Forall₂ Gives items parts → InTurn Gives Stops items items (.ok parts.flatten)
  | stopped {before after : List α} {item : α} {error : ε} :
      items = before ++ item :: after → (∀ earlier ∈ before, ∃ part, Gives earlier part) →
      Stops item error → InTurn Gives Stops items (before ++ [item]) (.error error)

namespace InTurn

variable {α β ε : Type} {Gives : α → List β → Prop} {Stops : α → ε → Prop}
variable {first rest takenFirst takenRest : List α} {item : α}

theorem nil : InTurn Gives Stops [] [] (.ok []) := .all .nil

theorem one {part : List β} (gives : Gives item part) :
    InTurn Gives Stops [item] [item] (.ok part) := by
  have alone : InTurn Gives Stops [item] [item] (.ok [part].flatten) := .all (.cons gives .nil)
  rw [List.flatten_singleton] at alone
  exact alone

theorem stoppedAtOnce {error : ε} (stops : Stops item error) :
    InTurn Gives Stops [item] [item] (.error error) := by
  have split : [item] = [] ++ item :: [] := rfl
  exact .stopped split (by simp) stops

theorem gives_of_mem {items : List α} {parts : List (List β)}
    (given : List.Forall₂ Gives items parts) : ∀ item ∈ items, ∃ part, Gives item part := by
  induction given with
  | nil => simp
  | cons gives _ ih =>
      intro item member
      cases member with
      | head => exact ⟨_, gives⟩
      | tail _ member => exact ih item member

/-- A list is split in one place only at an item that is not in the front of the other split. -/
theorem first_unique {before after before' after' : List α} {item item' : α}
    (fresh : item' ∉ before) (fresh' : item ∉ before')
    (same : before ++ item :: after = before' ++ item' :: after') :
    before = before' ∧ item = item' := by
  cases List.append_eq_append_iff.mp same with
  | inl longer =>
      obtain ⟨between, rfl, tail⟩ := longer
      cases between with
      | nil => exact ⟨by simp, (List.cons.inj tail).1⟩
      | cons next between => exact absurd (by simp [(List.cons.inj tail).1]) fresh'
  | inr longer =>
      obtain ⟨between, rfl, tail⟩ := longer
      cases between with
      | nil => exact ⟨by simp, (List.cons.inj tail).1.symm⟩
      | cons next between => exact absurd (by simp [(List.cons.inj tail).1]) fresh

theorem append_ok {lines others : List β}
    (ahead : InTurn Gives Stops first takenFirst (.ok lines))
    (behind : InTurn Gives Stops rest takenRest (.ok others)) :
    InTurn Gives Stops (first ++ rest) (takenFirst ++ takenRest) (.ok (lines ++ others)) := by
  cases ahead with
  | all given =>
      cases behind with
      | all givenBehind =>
          rw [← List.flatten_append]
          exact .all (List.rel_append given givenBehind)

theorem append_error {lines : List β} {error : ε}
    (ahead : InTurn Gives Stops first takenFirst (.ok lines))
    (behind : InTurn Gives Stops rest takenRest (.error error)) :
    InTurn Gives Stops (first ++ rest) (takenFirst ++ takenRest) (.error error) := by
  cases ahead with
  | all given =>
      cases behind with
      | @stopped before after item _ split gave stops =>
          rw [← List.append_assoc]
          refine .stopped (by rw [split, List.append_assoc]) ?_ stops
          intro earlier member
          cases List.mem_append.mp member with
          | inl member => exact gives_of_mem given earlier member
          | inr member => exact gave earlier member

theorem error_append {error : ε} (ahead : InTurn Gives Stops first takenFirst (.error error))
    (rest : List α) : InTurn Gives Stops (first ++ rest) takenFirst (.error error) := by
  cases ahead with
  | stopped split gave stops =>
      exact .stopped (by rw [split, List.append_assoc, List.cons_append]) gave stops

variable {items taken others : List α} {result other : Except ε (List β)}

theorem result_ok_iff (inTurn : InTurn Gives Stops items taken result)
    (apart : ∀ {item part error}, Gives item part → ¬ Stops item error) :
    (∃ lines, result = .ok lines) ↔ ∀ item ∈ items, ∃ part, Gives item part := by
  cases inTurn with
  | all given => exact ⟨fun _ => gives_of_mem given, fun _ => ⟨_, rfl⟩⟩
  | @stopped before after item error split gave stops =>
      refine ⟨fun ⟨_, fine⟩ => (by cases fine), fun all => ?_⟩
      obtain ⟨part, gives⟩ := all item (by simp [split])
      exact absurd stops (apart gives)

theorem unique (one : InTurn Gives Stops items taken result)
    (two : InTurn Gives Stops items others other)
    (gives_unique : Relator.RightUnique Gives) (stops_unique : Relator.RightUnique Stops)
    (apart : ∀ {item part error}, Gives item part → ¬ Stops item error) :
    taken = others ∧ result = other := by
  cases one with
  | all given =>
      cases two with
      | all also =>
          rw [gives_unique.forall₂ given also]
          exact ⟨rfl, rfl⟩
      | @stopped before after item error split _ stops =>
          obtain ⟨part, gives⟩ := gives_of_mem given item (by simp [split])
          exact absurd stops (apart gives)
  | @stopped before after item error split gave stops =>
      cases two with
      | all given =>
          obtain ⟨part, gives⟩ := gives_of_mem given item (by simp [split])
          exact absurd stops (apart gives)
      | @stopped before' after' item' error' split' gave' stops' =>
          -- What stops is none of the items that gave something, so both are the first.
          have fresh : item' ∉ before := fun member =>
            have ⟨_, gives⟩ := gave item' member
            apart gives stops'
          have fresh' : item ∉ before' := fun member =>
            have ⟨_, gives⟩ := gave' item member
            apart gives stops
          obtain ⟨rfl, rfl⟩ := first_unique fresh fresh' (split.symm.trans split')
          rw [stops_unique stops stops']
          exact ⟨rfl, rfl⟩

end InTurn

/-! ## Replies -/

namespace Json

/-- The value itself, or a value inside it at any depth of arrays. Nothing inside an
object counts. -/
inductive Within (value : Json) : Json → Prop where
  | self : Within value value
  | item {item : Json} {items : List Json} :
      item ∈ items → Within value item → Within value (.array items)

/-- Everything but the arrays, from left to right. -/
def leaves : Json → List Json
  | .array items => items.flatMap leaves
  | leaf => [leaf]

inductive Unspeakable : Json → Prop where
  | bool {value : Bool} : Unspeakable (.bool value)
  | object {fields : List (String × Json)} : Unspeakable (.object fields)

inductive Speaks : Json → List String → Prop where
  | null : Speaks .null []
  | string {text : String} : Speaks (.string text) [text]
  | number {value : Number} : Speaks (.number value) [value.text]

/-- What cannot be said is blamed itself. -/
def Offends (leaf blamed : Json) : Prop := leaf.Unspeakable ∧ blamed = leaf

theorem leaves_of_noArray {leaf : Json} (noArray : ∀ items, leaf ≠ .array items) :
    leaf.leaves = [leaf] :=
  leaves.eq_2 leaf noArray

theorem mem_leaves_iff {leaf reply : Json} :
    leaf ∈ reply.leaves ↔ Within leaf reply ∧ ∀ items, leaf ≠ .array items := by
  constructor
  · intro member
    induction reply using leaves.induct with
    | case1 items ih =>
        rw [leaves] at member
        obtain ⟨item, inItems, inLeaves⟩ := List.mem_flatMap.mp member
        obtain ⟨within, noArray⟩ := ih item inItems inLeaves
        exact ⟨.item inItems within, noArray⟩
    | case2 reply noArray =>
        rw [leaves_of_noArray noArray] at member
        cases List.mem_singleton.mp member
        exact ⟨.self, noArray⟩
  · rintro ⟨within, noArray⟩
    induction within with
    | self => rw [leaves_of_noArray noArray]; exact List.mem_singleton_self leaf
    | item inItems _ ih =>
        rw [leaves]
        exact List.mem_flatMap.mpr ⟨_, inItems, ih⟩

theorem speaks_unique : Relator.RightUnique Speaks := by
  intro leaf lines others speaks also
  cases speaks with
  | null => cases also; rfl
  | string => cases also; rfl
  | number => cases also; rfl

theorem offends_unique : Relator.RightUnique Offends :=
  fun _ _ _ offends also => offends.2.trans also.2.symm

theorem not_offends_of_speaks {leaf blamed : Json} {lines : List String}
    (speaks : leaf.Speaks lines) : ¬ leaf.Offends blamed := by
  intro offends
  cases speaks with
  | null => cases offends.1
  | string => cases offends.1
  | number => cases offends.1

theorem speaks_iff_not_unspeakable {leaf : Json} (noArray : ∀ items, leaf ≠ .array items) :
    (∃ lines, leaf.Speaks lines) ↔ ¬ leaf.Unspeakable := by
  cases leaf with
  | null => exact ⟨fun _ bad => (by cases bad), fun _ => ⟨_, .null⟩⟩
  | bool value => exact ⟨fun ⟨_, speaks⟩ => (by cases speaks), fun fine => absurd .bool fine⟩
  | number value => exact ⟨fun _ bad => (by cases bad), fun _ => ⟨_, .number⟩⟩
  | string text => exact ⟨fun _ bad => (by cases bad), fun _ => ⟨_, .string⟩⟩
  | array items => exact absurd rfl (noArray items)
  | object fields => exact ⟨fun ⟨_, speaks⟩ => (by cases speaks), fun fine => absurd .object fine⟩

theorem linesOfItems_inTurn {items : List Json}
    (each : ∀ item ∈ items, ∃ taken, InTurn Speaks Offends item.leaves taken item.lines) :
    ∃ taken, InTurn Speaks Offends (items.flatMap leaves) taken (linesOfItems items) := by
  induction items with
  | nil => exact ⟨[], .nil⟩
  | cons item rest ih =>
      obtain ⟨taken, inTurn⟩ := each item (by simp)
      obtain ⟨takenRest, inTurnRest⟩ := ih fun item member => each item (by simp [member])
      rw [List.flatMap_cons, linesOfItems]
      cases result : item.lines with
      | error leaf =>
          rw [result] at inTurn
          exact ⟨taken, inTurn.error_append _⟩
      | ok lines =>
          rw [result] at inTurn
          cases results : linesOfItems rest with
          | error leaf =>
              rw [results] at inTurnRest
              exact ⟨taken ++ takenRest, inTurn.append_error inTurnRest⟩
          | ok others =>
              rw [results] at inTurnRest
              exact ⟨taken ++ takenRest, inTurn.append_ok inTurnRest⟩

/-- The lines of a reply are what its leaves say in turn. -/
theorem lines_inTurn (reply : Json) :
    ∃ taken, InTurn Speaks Offends reply.leaves taken reply.lines := by
  induction reply using leaves.induct with
  | case1 items ih =>
      rw [leaves, lines]
      exact linesOfItems_inTurn ih
  | case2 leaf noArray =>
      rw [leaves_of_noArray noArray]
      cases leaf with
      | null => exact ⟨_, .one .null⟩
      | bool value => exact ⟨_, .stoppedAtOnce ⟨.bool, rfl⟩⟩
      | number value => exact ⟨_, .one .number⟩
      | string text => exact ⟨_, .one .string⟩
      | array items => exact absurd rfl (noArray items)
      | object fields => exact ⟨_, .stoppedAtOnce ⟨.object, rfl⟩⟩

theorem inTurn_unique {reply : Json} {taken others : List Json}
    {result other : Except Json (List String)}
    (one : InTurn Speaks Offends reply.leaves taken result)
    (two : InTurn Speaks Offends reply.leaves others other) : taken = others ∧ result = other :=
  one.unique two speaks_unique offends_unique not_offends_of_speaks

theorem lines_ok_iff {reply : Json} :
    (∃ lines, reply.lines = .ok lines) ↔ ∀ value, Within value reply → ¬ value.Unspeakable := by
  obtain ⟨taken, inTurn⟩ := reply.lines_inTurn
  rw [inTurn.result_ok_iff not_offends_of_speaks]
  constructor
  · intro all value within bad
    have noArray : ∀ items, value ≠ .array items := by cases bad <;> simp
    obtain ⟨lines, speaks⟩ := all value (mem_leaves_iff.mpr ⟨within, noArray⟩)
    exact not_offends_of_speaks speaks ⟨bad, rfl⟩
  · intro fine leaf member
    obtain ⟨within, noArray⟩ := mem_leaves_iff.mp member
    exact (speaks_iff_not_unspeakable noArray).mpr (fine leaf within)

end Json

/-! ## Prompts -/

/-- The text callback that a fragment needs. -/
def Fragment.asked? : Fragment → Option Activity
  | .text _ => none
  | .call name => some (.asked name)

theorem CallbackError.message_of_no_text (name : String) (leaf : Json) :
    (CallbackError.unexpectedReply name leaf .text).message =
      s!"callback '{name}' returned {leaf.compact}, expected text" := by
  have joined (text : String) :
      text ++ toString ", expected " ++ toString "text" = text ++ toString ", expected text" := by
    rw [String.append_assoc]
    rfl
  exact joined _

namespace Interpreter

variable {δ : Type} {interpreter : Interpreter δ} {domain : δ} {session : Session δ}

/-- What a fragment says. Only what is written in the flow is translated; a reply says
what its leaves say. -/
inductive Speaks (interpreter : Interpreter δ) (domain : δ) : Fragment → List String → Prop where
  | translated {words translation : String} :
      "ivr.".toList <+: words.toList →
      interpreter.flow.translations.get? words = some translation →
      Speaks interpreter domain (.text words) [translation]
  | verbatim {words : String} :
      ("ivr.".toList <+: words.toList → interpreter.flow.translations.get? words = none) →
      Speaks interpreter domain (.text words) [words]
  | reply {name : String} {reply : Json} {taken : List Json} {lines : List String} :
      interpreter.resolver.text name domain = .ok reply →
      InTurn Json.Speaks Json.Offends reply.leaves taken (.ok lines) →
      Speaks interpreter domain (.call name) lines

/-- How a fragment fails: its callback does, or the reply has an offending leaf, and then
the first one is quoted. -/
inductive Fails (interpreter : Interpreter δ) (domain : δ) :
    Fragment → CallbackError → Prop where
  | callback {name : String} {error : CallbackError} :
      interpreter.resolver.text name domain = .error error →
      Fails interpreter domain (.call name) error
  | reply {name : String} {reply leaf : Json} {taken : List Json} :
      interpreter.resolver.text name domain = .ok reply →
      InTurn Json.Speaks Json.Offends reply.leaves taken (.error leaf) →
      Fails interpreter domain (.call name) (.unexpectedReply name leaf .text)

theorem speaks_translate (words : String) :
    interpreter.Speaks domain (.text words) [interpreter.flow.translate words] := by
  rw [Flow.translate]
  split
  · rename_i marked
    have mark : "ivr.".toList <+: words.toList := List.isPrefixOf_iff_prefix.mp marked
    cases found : interpreter.flow.translations.get? words with
    | none => exact .verbatim fun _ => found
    | some translation => exact .translated mark found
  · rename_i unmarked
    exact .verbatim fun mark => absurd (List.isPrefixOf_iff_prefix.mpr mark) unmarked

theorem speaks_unique : Relator.RightUnique (interpreter.Speaks domain) := by
  intro fragment lines others speaks also
  cases speaks with
  | translated mark found =>
      cases also with
      | translated _ also => rw [Option.some.inj (found.symm.trans also)]
      | verbatim missing => cases found.symm.trans (missing mark)
  | verbatim missing =>
      cases also with
      | translated mark found => cases found.symm.trans (missing mark)
      | verbatim _ => rfl
  | reply replied inTurn =>
      cases also with
      | reply also inTurnAlso =>
          cases replied.symm.trans also
          cases (Json.inTurn_unique inTurn inTurnAlso).2
          rfl

theorem fails_unique : Relator.RightUnique (interpreter.Fails domain) := by
  intro fragment error other fails also
  cases fails with
  | callback failed =>
      cases also with
      | callback also => exact Except.error.inj (failed.symm.trans also)
      | reply replied => cases failed.symm.trans replied
  | reply replied inTurn =>
      cases also with
      | callback failed => cases failed.symm.trans replied
      | reply also inTurnAlso =>
          cases replied.symm.trans also
          cases (Json.inTurn_unique inTurn inTurnAlso).2
          rfl

theorem not_fails_of_speaks {fragment : Fragment} {lines : List String} {error : CallbackError}
    (speaks : interpreter.Speaks domain fragment lines) :
    ¬ interpreter.Fails domain fragment error := by
  intro fails
  cases speaks with
  | translated => cases fails
  | verbatim => cases fails
  | reply replied inTurn =>
      cases fails with
      | callback failed => cases failed.symm.trans replied
      | reply also inTurnAlso =>
          cases replied.symm.trans also
          cases (Json.inTurn_unique inTurn inTurnAlso).2

theorem speaks_call_iff {name : String} :
    (∃ lines, interpreter.Speaks domain (.call name) lines) ↔
      ∃ reply, interpreter.resolver.text name domain = .ok reply ∧
        ∀ value, Json.Within value reply → ¬ value.Unspeakable := by
  constructor
  · intro ⟨lines, speaks⟩
    cases speaks with
    | @reply _ reply taken _ replied inTurn =>
        obtain ⟨others, inTurnAlso⟩ := reply.lines_inTurn
        refine ⟨reply, replied, Json.lines_ok_iff.mp ⟨lines, ?_⟩⟩
        exact (Json.inTurn_unique inTurnAlso inTurn).2
  · intro ⟨reply, replied, fine⟩
    obtain ⟨lines, result⟩ := Json.lines_ok_iff.mpr fine
    obtain ⟨taken, inTurn⟩ := reply.lines_inTurn
    rw [result] at inTurn
    exact ⟨lines, .reply replied inTurn⟩

theorem fragmentLines_inTurn (interpreter : Interpreter δ) (domain : δ) (fragment : Fragment) :
    ∃ result, InTurn (interpreter.Speaks domain) (interpreter.Fails domain) [fragment] [fragment]
        result ∧
      interpreter.fragmentLines domain fragment =
        ⟨result.mapError .callback, [fragment].filterMap Fragment.asked?⟩ := by
  cases fragment with
  | text words => exact ⟨.ok _, .one (speaks_translate words), rfl⟩
  | call name =>
      cases replied : interpreter.resolver.text name domain with
      | error error =>
          refine ⟨.error error, .stoppedAtOnce (.callback replied), ?_⟩
          rw [fragmentLines, askText_of_error _ replied, Query.bind_of_error rfl]
          rfl
      | ok reply =>
          rw [fragmentLines, askText_of_ok _ replied, Query.bind_of_ok rfl]
          obtain ⟨taken, inTurn⟩ := reply.lines_inTurn
          cases result : reply.lines with
          | error leaf =>
              rw [result] at inTurn
              exact ⟨.error _, .stoppedAtOnce (.reply replied inTurn), rfl⟩
          | ok lines =>
              rw [result] at inTurn
              exact ⟨.ok lines, .one (.reply replied inTurn), rfl⟩

theorem linesOf_inTurn (interpreter : Interpreter δ) (domain : δ) (fragments : List Fragment) :
    ∃ taken result, InTurn (interpreter.Speaks domain) (interpreter.Fails domain) fragments taken
        result ∧
      interpreter.linesOf domain fragments =
        ⟨result.mapError .callback, taken.filterMap Fragment.asked?⟩ := by
  induction fragments with
  | nil => exact ⟨[], .ok [], .nil, rfl⟩
  | cons fragment rest ih =>
      obtain ⟨result, inTurn, answer⟩ := interpreter.fragmentLines_inTurn domain fragment
      obtain ⟨taken, results, inTurnRest, answers⟩ := ih
      rw [linesOf, answer]
      cases result with
      | error error =>
          rw [Query.bind_of_error rfl]
          exact ⟨[fragment], .error error, inTurn.error_append rest, rfl⟩
      | ok lines =>
          rw [Query.bind_of_ok rfl, answers]
          refine ⟨[fragment] ++ taken, ?_⟩
          rw [List.filterMap_append]
          cases results with
          | error error =>
              rw [Query.bind_of_error rfl]
              exact ⟨.error error, inTurn.append_error inTurnRest, rfl⟩
          | ok others =>
              rw [Query.bind_of_ok rfl]
              refine ⟨.ok (lines ++ others), inTurn.append_ok inTurnRest, ?_⟩
              change (⟨_, _ ++ (_ ++ [])⟩ : Query (List String)) = _
              rw [List.append_nil]
              rfl

theorem prompts_eq {state : State} (found : interpreter.flow.state? session.state = some state) :
    interpreter.prompts session = interpreter.linesOf session.domain state.prompts := by
  rw [prompts, stateNamed, found]
  rfl

/-- The prompts of a state are what its fragments say in turn. They fail just if some text
callback does, or if a truth value or an object is somewhere in its reply. The error is
that of the first failing fragment, and no callback behind it is asked. -/
theorem prompts_are_said_in_turn (interpreter : Interpreter δ) (session : Session δ)
    {state : State} (found : interpreter.flow.state? session.state = some state) :
    ((∃ lines, (interpreter.prompts session).result = .ok lines) ↔
      ∀ name, .call name ∈ state.prompts →
        ∃ reply, interpreter.resolver.text name session.domain = .ok reply ∧
          ∀ value, Json.Within value reply → ¬ value.Unspeakable) ∧
    (∀ answer, interpreter.prompts session = answer ↔
      ∃ taken result,
        InTurn (interpreter.Speaks session.domain) (interpreter.Fails session.domain)
          state.prompts taken result ∧
        answer = ⟨result.mapError .callback, taken.filterMap Fragment.asked?⟩) ∧
    ∀ (name : String) (leaf : Json),
      (CycleError.callback (.unexpectedReply name leaf .text)).message =
        s!"callback '{name}' returned {leaf.compact}, expected text" := by
  obtain ⟨taken, result, inTurn, answered⟩ :=
    interpreter.linesOf_inTurn session.domain state.prompts
  rw [← prompts_eq found] at answered
  refine ⟨?_, fun answer => ⟨?_, ?_⟩, fun name leaf => ?_⟩
  · have fine : (∃ lines, (interpreter.prompts session).result = .ok lines) ↔
        ∃ lines, result = .ok lines := by
      rw [answered]
      cases result <;> simp [Except.mapError]
    rw [fine, inTurn.result_ok_iff not_fails_of_speaks]
    constructor
    · exact fun all name member => speaks_call_iff.mp (all _ member)
    · intro all fragment member
      cases fragment with
      | text words => exact ⟨_, speaks_translate words⟩
      | call name => exact speaks_call_iff.mpr (all name member)
  · intro same
    exact ⟨taken, result, inTurn, same.symm.trans answered⟩
  · intro ⟨others, other, inTurnAlso, same⟩
    obtain ⟨rfl, rfl⟩ :=
      inTurn.unique inTurnAlso speaks_unique fails_unique not_fails_of_speaks
    exact answered.trans same.symm
  · exact CallbackError.message_of_no_text name leaf

end Interpreter

/-! ## A line that reads out the news -/

def newsReplies : Table Json :=
  .ofList [("headlines", .array [.string "ivr.flood", .array [.null, .integer 2]]),
    ("weather", .array [.string "rain", .array [.object [], .bool true]])]

/-- The weather is no text, so the second headlines are never asked for. -/
def newsInterpreter : Interpreter Nat where
  flow :=
    { name := "news"
      initial := ⟨"hello",
        [.text "ivr.hello", .call "headlines", .call "weather", .call "headlines"], [], []⟩
      others := [⟨"bye", [.text "ivr.hello", .text "ivr.bye", .call "headlines"], [], []⟩]
      translations := .ofList [("ivr.hello", "This is the news")] }
  resolver := .constant newsReplies

theorem newsInterpreter_reads_headlines :
    ∃ lines, newsInterpreter.Speaks 0 (.call "headlines") lines := by
  refine Interpreter.speaks_call_iff.mpr ⟨_, rfl, Json.lines_ok_iff.mp ?_⟩
  exact ⟨["ivr.flood", "2"], rfl⟩

theorem newsInterpreter_has_no_weather :
    newsInterpreter.Fails 0 (.call "weather")
      (.unexpectedReply "weather" (.object []) .text) := by
  have leaves : (Json.array [.string "rain", .array [.object [], .bool true]]).leaves =
      [.string "rain"] ++ .object [] :: [.bool true] := by simp [Json.leaves]
  refine .reply rfl (.stopped leaves ?_ ⟨.object, rfl⟩)
  intro earlier member
  cases List.mem_singleton.mp member
  exact ⟨_, .string⟩

theorem newsInterpreter_stops_at_weather :
    newsInterpreter.flow.state? "hello" = some newsInterpreter.flow.initial ∧
      newsInterpreter.prompts ⟨"call-1", "hello", 0⟩ =
        ⟨.error (.callback (.unexpectedReply "weather" (.object []) .text)),
          [.asked "headlines", .asked "weather"]⟩ := by
  have split : newsInterpreter.flow.initial.prompts =
      [.text "ivr.hello", .call "headlines"] ++ .call "weather" :: [.call "headlines"] := rfl
  have inTurn := newsInterpreter.prompts_are_said_in_turn ⟨"call-1", "hello", 0⟩ rfl
  refine ⟨rfl, (inTurn.2.1 _).mpr
    ⟨_, _, .stopped split ?_ newsInterpreter_has_no_weather, rfl⟩⟩
  intro earlier member
  cases member with
  | head => exact ⟨_, Interpreter.speaks_translate _⟩
  | tail _ member =>
      cases List.mem_singleton.mp member
      exact newsInterpreter_reads_headlines

end VoiceMenu
