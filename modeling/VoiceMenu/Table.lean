/-!
# Tables

A table maps texts to values. Its entries are kept in strictly ascending order
of their keys, by code point, so a key occurs at most once and two tables with
the same entries are equal. Records, translations and registered replies are
tables, and listing one always gives the same order.
-/

set_option autoImplicit false

namespace VoiceMenu

/-- A finite map from texts, listed by ascending key. -/
structure Table (α : Type) where
  entries : List (String × α)
  /-- Keys ascend strictly, hence none occurs twice. -/
  ordered : entries.Pairwise (fun left right => left.1 < right.1)

namespace Table

variable {α : Type}

/-- The value filed under `key` in a list of entries. -/
def lookup (key : String) : List (String × α) → Option α
  | [] => none
  | entry :: rest => if entry.1 = key then some entry.2 else lookup key rest

/-- Files `value` under `key` at its place in an ascending list, replacing what
was filed there before. -/
def insertEntry (key : String) (value : α) : List (String × α) → List (String × α)
  | [] => [(key, value)]
  | entry :: rest =>
      if key < entry.1 then (key, value) :: entry :: rest
      else if key = entry.1 then (key, value) :: rest
      else entry :: insertEntry key value rest

theorem mem_insertEntry {key : String} {value : α} {entries : List (String × α)}
    {found : String × α} (member : found ∈ insertEntry key value entries) :
    found = (key, value) ∨ found ∈ entries := by
  induction entries with
  | nil => simpa [insertEntry] using member
  | cons entry rest ih =>
      simp only [insertEntry] at member
      split at member
      · simpa using member
      · split at member
        · rcases List.mem_cons.mp member with same | inside
          · exact .inl same
          · exact .inr (List.mem_cons_of_mem _ inside)
        · rcases List.mem_cons.mp member with same | inside
          · exact .inr (same ▸ List.mem_cons_self)
          · exact (ih inside).imp id (List.mem_cons_of_mem _)

theorem insertEntry_ordered {key : String} {value : α} {entries : List (String × α)}
    (ordered : entries.Pairwise (fun left right => left.1 < right.1)) :
    (insertEntry key value entries).Pairwise (fun left right => left.1 < right.1) := by
  induction entries with
  | nil => simp [insertEntry]
  | cons entry rest ih =>
      obtain ⟨above, restOrdered⟩ := List.pairwise_cons.mp ordered
      simp only [insertEntry]
      split
      · rename_i smaller
        refine List.pairwise_cons.mpr ⟨?_, ordered⟩
        intro other member
        rcases List.mem_cons.mp member with same | inside
        · exact same ▸ smaller
        · exact String.lt_trans smaller (above other inside)
      · split
        · rename_i same
          exact List.pairwise_cons.mpr ⟨fun other member => same ▸ above other member, restOrdered⟩
        · rename_i notSmaller different
          refine List.pairwise_cons.mpr ⟨?_, ih restOrdered⟩
          intro other member
          rcases mem_insertEntry member with same | inside
          · subst same
            rcases Std.lt_trichotomy key entry.1 with smaller | same | larger
            · exact absurd smaller notSmaller
            · exact absurd same different
            · exact larger
          · exact above other inside

def empty : Table α := ⟨[], .nil⟩

instance : EmptyCollection (Table α) := ⟨empty⟩

instance : Inhabited (Table α) := ⟨empty⟩

def get? (table : Table α) (key : String) : Option α :=
  lookup key table.entries

def contains (table : Table α) (key : String) : Bool :=
  (table.get? key).isSome

/-- The table with `value` under `key`, replacing what was there. -/
def insert (table : Table α) (key : String) (value : α) : Table α :=
  ⟨insertEntry key value table.entries, insertEntry_ordered table.ordered⟩

def erase (table : Table α) (key : String) : Table α :=
  ⟨table.entries.filter (fun entry => entry.1 ≠ key), table.ordered.filter _⟩

/-- The table of a list of entries; the last of several entries for one key
counts. -/
def ofList (entries : List (String × α)) : Table α :=
  entries.foldl (fun table entry => table.insert entry.1 entry.2) empty

def size (table : Table α) : Nat :=
  table.entries.length

def keys (table : Table α) : List String :=
  table.entries.map (·.1)

def isEmpty (table : Table α) : Bool :=
  table.entries.isEmpty

theorem ext {left right : Table α} (same : left.entries = right.entries) : left = right := by
  cases left
  cases right
  cases same
  rfl

instance [DecidableEq α] : DecidableEq (Table α) := fun left right =>
  if same : left.entries = right.entries then .isTrue (ext same)
  else .isFalse (fun equal => same (congrArg entries equal))

/-! ### What each operation does to a look-up -/

theorem lookup_insertEntry (key asked : String) (value : α) (entries : List (String × α)) :
    lookup asked (insertEntry key value entries) =
      if key = asked then some value else lookup asked entries := by
  induction entries with
  | nil => simp [insertEntry, lookup]
  | cons entry rest ih =>
      simp only [insertEntry]
      split
      · simp [lookup]
      · split
        · rename_i same
          subst same
          by_cases hit : entry.1 = asked <;> simp [lookup, hit]
        · rename_i different
          by_cases hit : entry.1 = asked
          · have other : key ≠ asked := fun same => different (same.trans hit.symm)
            simp [lookup, hit, other]
          · simp [lookup, hit, ih]

theorem lookup_filter_ne (key asked : String) (entries : List (String × α)) :
    lookup asked (entries.filter (fun entry => entry.1 ≠ key)) =
      if key = asked then none else lookup asked entries := by
  induction entries with
  | nil => simp [lookup]
  | cons entry rest ih =>
      by_cases dropped : entry.1 = key
      · by_cases hit : key = asked
        · simpa [List.filter_cons, dropped, hit] using ih.trans (if_pos hit)
        · have other : entry.1 ≠ asked := fun same => hit (dropped.symm.trans same)
          simpa [List.filter_cons, dropped, hit, lookup, other] using ih
      · by_cases hit : entry.1 = asked
        · have other : key ≠ asked := fun same => dropped (hit.trans same.symm)
          have kept : asked ≠ key := fun same => other same.symm
          simp [hit, lookup, other, kept]
        · simpa [List.filter_cons, dropped, hit, lookup] using ih

@[simp] theorem get?_empty (asked : String) : (empty : Table α).get? asked = none := rfl

theorem get?_insert (table : Table α) (key asked : String) (value : α) :
    (table.insert key value).get? asked =
      if key = asked then some value else table.get? asked :=
  lookup_insertEntry key asked value table.entries

theorem get?_erase (table : Table α) (key asked : String) :
    (table.erase key).get? asked = if key = asked then none else table.get? asked :=
  lookup_filter_ne key asked table.entries

theorem get?_foldl_insert_iff {entries : List (String × α)}
    (distinct : (entries.map Prod.fst).Nodup) (table : Table α) {key : String} {value : α} :
    (entries.foldl (fun table entry => table.insert entry.1 entry.2) table).get? key = some value ↔
      (key, value) ∈ entries ∨ key ∉ entries.map Prod.fst ∧ table.get? key = some value := by
  induction entries generalizing table with
  | nil => simp
  | cons entry rest ih =>
      obtain ⟨name, filed⟩ := entry
      obtain ⟨fresh, restDistinct⟩ := List.nodup_cons.mp distinct
      rw [List.foldl_cons, ih restDistinct, get?_insert]
      by_cases hit : name = key
      · subst hit
        have absent : (name, value) ∉ rest := fun member =>
          fresh (List.mem_map.mpr ⟨(name, value), member, rfl⟩)
        simp only [↓reduceIte, Option.some.injEq, List.mem_cons, Prod.mk.injEq, absent]
        simpa [eq_comm] using fun _ => fresh
      · simp [hit, Ne.symm hit]

/-- With distinct keys the table of a list holds exactly its entries. -/
theorem get?_ofList_iff {entries : List (String × α)} (distinct : (entries.map Prod.fst).Nodup)
    {key : String} {value : α} :
    (ofList entries).get? key = some value ↔ (key, value) ∈ entries := by
  rw [ofList, get?_foldl_insert_iff distinct]
  simp

theorem insertEntry_above {key : String} {entries : List (String × α)} (value : α)
    (above : ∀ entry ∈ entries, entry.1 < key) :
    insertEntry key value entries = entries ++ [(key, value)] := by
  induction entries with
  | nil => rfl
  | cons entry rest ih =>
      obtain ⟨here, later⟩ := List.forall_mem_cons.mp above
      have notBelow : ¬ key < entry.1 := String.lt_asymm here
      have different : key ≠ entry.1 := fun same => String.lt_irrefl key (same ▸ here)
      rw [insertEntry, if_neg notBelow, if_neg different, ih later, List.cons_append]

theorem entries_foldl_insert {table : Table α} {rest : List (String × α)}
    (ordered : (table.entries ++ rest).Pairwise fun left right => left.1 < right.1) :
    (rest.foldl (fun table entry => table.insert entry.1 entry.2) table).entries =
      table.entries ++ rest := by
  induction rest generalizing table with
  | nil => simp
  | cons entry rest ih =>
      have above : ∀ other ∈ table.entries, other.1 < entry.1 := fun other member =>
        (List.pairwise_append.mp ordered).2.2 other member entry List.mem_cons_self
      have entries : (table.insert entry.1 entry.2).entries = table.entries ++ [entry] :=
        insertEntry_above entry.2 above
      rw [List.foldl_cons, ih (by rw [entries]; simpa using ordered), entries]
      simp

/-- A table is the table of its own entries. -/
theorem ofList_entries (table : Table α) : ofList table.entries = table :=
  ext (entries_foldl_insert table.ordered)

theorem insertEntry_perm {key : String} {entries : List (String × α)} (value : α)
    (fresh : key ∉ entries.map Prod.fst) :
    (insertEntry key value entries).Perm ((key, value) :: entries) := by
  induction entries with
  | nil => exact .refl _
  | cons entry rest ih =>
      simp only [List.map_cons, List.mem_cons, not_or] at fresh
      obtain ⟨different, absent⟩ := fresh
      rw [insertEntry, if_neg different]
      split
      · exact .refl _
      · exact ((ih absent).cons entry).trans (.swap (key, value) entry rest)

theorem entries_foldl_insert_perm {table : Table α} {rest : List (String × α)}
    (distinct : ((table.entries ++ rest).map Prod.fst).Nodup) :
    (rest.foldl (fun table entry => table.insert entry.1 entry.2) table).entries.Perm
      (table.entries ++ rest) := by
  induction rest generalizing table with
  | nil => simp
  | cons entry rest ih =>
      have moved : (table.entries ++ entry :: rest).Perm (entry :: (table.entries ++ rest)) :=
        List.perm_middle
      have distinctMoved := (moved.map Prod.fst).nodup distinct
      obtain ⟨fresh, -⟩ := List.nodup_cons.mp distinctMoved
      have freshHere : entry.1 ∉ table.entries.map Prod.fst := by
        rw [List.map_append] at fresh
        exact fun member => fresh (List.mem_append_left _ member)
      have inserted : ((table.insert entry.1 entry.2).entries ++ rest).Perm
          (entry :: (table.entries ++ rest)) :=
        (insertEntry_perm entry.2 freshHere).append_right rest
      have distinctInserted := (inserted.symm.map Prod.fst).nodup distinctMoved
      exact ((ih distinctInserted).trans inserted).trans moved.symm

/-- With distinct keys a table has the entries of its list, each once. -/
theorem entries_ofList_perm {entries : List (String × α)}
    (distinct : (entries.map Prod.fst).Nodup) : (ofList entries).entries.Perm entries :=
  entries_foldl_insert_perm distinct

end Table

end VoiceMenu
