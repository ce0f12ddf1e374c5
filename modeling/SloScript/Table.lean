/-!
# Tables

A table maps texts to values. Its entries are kept in increasing order of their keys, so that a
table is determined by what it maps and listing it needs no sorting: two tables that agree on every
key are equal.
-/

namespace SloScript

namespace Entries

variable {α : Type}

/-- Keys strictly increasing. -/
def Sorted (entries : List (String × α)) : Prop :=
  entries.Pairwise fun a b => a.1 < b.1

/-- The value of a key among entries. -/
def get? (key : String) : List (String × α) → Option α
  | [] => none
  | (k, v) :: rest => if k = key then some v else get? key rest

/-- Entries with one value replaced, or added at its place in the order. -/
def insert (key : String) (value : α) : List (String × α) → List (String × α)
  | [] => [(key, value)]
  | (k, v) :: rest =>
    if key < k then (key, value) :: (k, v) :: rest
    else if k = key then (key, value) :: rest
    else (k, v) :: insert key value rest

theorem eq_or_mem_of_mem_insert {key : String} {value : α} {entries : List (String × α)}
    {entry : String × α} (member : entry ∈ insert key value entries) :
    entry.1 = key ∨ entry ∈ entries := by
  induction entries with
  | nil => simp_all [insert]
  | cons head rest ih =>
    simp only [insert] at member
    split at member
    · simp only [List.mem_cons] at member ⊢
      rcases member with rfl | rfl | inRest <;> simp_all
    · split at member
      · simp only [List.mem_cons] at member ⊢
        rcases member with rfl | inRest <;> simp_all
      · simp only [List.mem_cons] at member ⊢
        rcases member with rfl | inRest
        · simp
        · rcases ih inRest with same | old <;> simp_all

theorem Sorted.insert {entries : List (String × α)} (sorted : Sorted entries) (key : String)
    (value : α) : Sorted (Entries.insert key value entries) := by
  induction entries with
  | nil => simp [Entries.insert, Sorted]
  | cons head rest ih =>
    obtain ⟨headLess, restSorted⟩ := List.pairwise_cons.1 sorted
    simp only [Entries.insert]
    split
    · rename_i less
      refine List.pairwise_cons.2 ⟨fun entry member => ?_, sorted⟩
      rcases List.mem_cons.1 member with rfl | inRest
      · exact less
      · exact String.lt_trans less (headLess entry inRest)
    · split
      · rename_i same
        exact List.pairwise_cons.2 ⟨fun entry member => same ▸ headLess entry member, restSorted⟩
      · rename_i notLess different
        refine List.pairwise_cons.2 ⟨fun entry member => ?_, ih restSorted⟩
        rcases eq_or_mem_of_mem_insert member with same | inRest
        · have ordered : head.1 ≤ key := String.not_lt.1 notLess
          rw [same]
          refine Decidable.byContradiction fun notSmaller => different ?_
          exact String.le_antisymm ordered (String.not_lt.1 notSmaller)
        · exact headLess entry inRest

theorem get?_insert (key other : String) (value : α) (entries : List (String × α)) :
    get? other (insert key value entries) =
      if other = key then some value else get? other entries := by
  induction entries with
  | nil => simp [insert, get?, eq_comm]
  | cons head rest ih =>
    simp only [insert]
    split
    · by_cases same : key = other <;> simp [get?, same, eq_comm]
    · split
      · rename_i equal
        by_cases same : key = other
        · simp [get?, same]
        · simp [get?, same, equal, eq_comm]
      · rename_i different
        by_cases same : key = other
        · subst same
          simp [get?, different, ih]
        · by_cases atHead : head.1 = other
          · simp [get?, atHead, eq_comm, same]
          · simp [get?, atHead, ih]

theorem mem_keys_iff {key : String} {entries : List (String × α)} :
    key ∈ entries.map Prod.fst ↔ (get? key entries).isSome = true := by
  induction entries with
  | nil => simp [get?]
  | cons entry rest ih =>
    rw [List.map_cons, List.mem_cons, get?]
    split
    · next same => simp [same]
    · next different => simp [ih, Ne.symm different]

/-- A key below the first one is not mapped. -/
theorem get?_eq_none_of_lt {key : String} {head : String × α} {rest : List (String × α)}
    (sorted : Sorted (head :: rest)) (less : key < head.1) : get? key (head :: rest) = none := by
  rw [← Option.not_isSome_iff_eq_none, ← mem_keys_iff, List.mem_map]
  rintro ⟨entry, member, rfl⟩
  rcases List.mem_cons.1 member with rfl | inRest
  · exact String.lt_irrefl _ less
  · exact String.lt_asymm less ((List.pairwise_cons.1 sorted).1 entry inRest)

/-- What is mapped behind the first entry: all but its key. -/
theorem get?_tail {head : String × α} {rest : List (String × α)} (sorted : Sorted (head :: rest))
    (key : String) : get? key rest = if head.1 = key then none else get? key (head :: rest) := by
  split
  · next same =>
    subst same
    rw [← Option.not_isSome_iff_eq_none, ← mem_keys_iff, List.mem_map]
    rintro ⟨entry, member, same⟩
    exact String.lt_irrefl _ (same ▸ (List.pairwise_cons.1 sorted).1 entry member)
  · next different => rw [get?, if_neg different]

end Entries

/-- A map from texts to values whose entries stand in increasing order of their keys. -/
structure Table (α : Type) where
  entries : List (String × α)
  sorted : Entries.Sorted entries

namespace Table

variable {α : Type}

/-- The table that maps nothing. -/
def empty : Table α := ⟨[], List.Pairwise.nil⟩

instance : Inhabited (Table α) := ⟨empty⟩

/-- The value that a table maps a key to. -/
def get? (t : Table α) (key : String) : Option α := Entries.get? key t.entries

/-- Whether a table maps a key. -/
def contains (t : Table α) (key : String) : Bool := (t.get? key).isSome

/-- The table with one key mapped anew. -/
def insert (t : Table α) (key : String) (value : α) : Table α :=
  ⟨Entries.insert key value t.entries, t.sorted.insert key value⟩

/-- The table of a list of entries, in which the last entry of a key counts. -/
def ofList (entries : List (String × α)) : Table α :=
  entries.foldl (fun t (key, value) => t.insert key value) empty

/-- The mapped keys in increasing order. -/
def keys (t : Table α) : List String := t.entries.map Prod.fst

/-- The values in the order of their keys. -/
def values (t : Table α) : List α := t.entries.map Prod.snd

/-- The number of mapped keys. -/
def size (t : Table α) : Nat := t.entries.length

/-- Whether a table maps nothing. -/
def isEmpty (t : Table α) : Bool := t.entries.isEmpty

@[simp]
theorem get?_empty (key : String) : (empty : Table α).get? key = none := rfl

theorem get?_insert (t : Table α) (key other : String) (value : α) :
    (t.insert key value).get? other = if other = key then some value else t.get? other :=
  Entries.get?_insert key other value t.entries

end Table

end SloScript
