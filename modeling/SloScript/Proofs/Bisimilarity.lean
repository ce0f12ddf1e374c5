import Mathlib.Data.List.Forall2
import SloScript.Value.Equality

/-!
# Being alike is bisimilarity

Two values are alike when nothing that can be read off them tells them apart. Said without any
search: some relation between objects holds of them, and objects that it relates have the same keys
with related values (`Bisimilar`). The search keeps a list of pairs that it takes as alike from the
moment it opens them, through all branches and for good. That is right because a pair that turns out
different makes the whole answer negative: in a search that succeeds, every pair that was added to
the list has been opened without finding a difference, so the list itself is the relation wanted
(`Closes`). The other way round, a relation between the two values excludes every difference that
the search could meet, whatever it has assumed.

The search of `alike` works off a list of pairs. `explore` is the plain recursion, which answers for
one pair of properties after the other and hands the assumed pairs on; it may visit properties in
any order. It is cut off at a given depth, and a depth beyond the number of pairs of objects is
enough.

Results:
1. `alikeFrom_closes`, `alikeFrom_of_related`: soundness and completeness of the worklist.
2. `explore_closes`, `explore_of_related`, `explore_answers`: soundness, completeness and
   termination of the recursion.
3. `alike_iff_bisimilar`: so both decide bisimilarity.
-/

namespace SloScript

/-! ## Tables with related values -/

namespace Entries

variable {α β : Type} {r : α → β → Prop}

theorem head_eq_of_rel {x : String × α} {left : List (String × α)} {y : String × β}
    {right : List (String × β)} (leftSorted : Sorted (x :: left))
    (rightSorted : Sorted (y :: right))
    (h : ∀ key, Option.Rel r (get? key (x :: left)) (get? key (y :: right))) : x.1 = y.1 := by
  refine String.le_antisymm (String.not_lt.1 fun less => ?_) (String.not_lt.1 fun less => ?_)
  · have atHead := h y.1
    rw [get?_eq_none_of_lt leftSorted less, get?, if_pos rfl] at atHead
    cases atHead
  · have atHead := h x.1
    rw [get?_eq_none_of_lt rightSorted less, get?, if_pos rfl] at atHead
    cases atHead

/-- Entries map the same keys to related values just when they are related place by place: both
stand in the order of their keys. -/
theorem rel_iff_forall₂ {left : List (String × α)} {right : List (String × β)}
    (leftSorted : Sorted left) (rightSorted : Sorted right) :
    (∀ key, Option.Rel r (get? key left) (get? key right)) ↔
      List.Forall₂ (fun x y => x.1 = y.1 ∧ r x.2 y.2) left right := by
  constructor
  · intro h
    induction left generalizing right with
    | nil =>
      cases right with
      | nil => exact .nil
      | cons y right =>
        have atHead := h y.1
        rw [get?, get?, if_pos rfl] at atHead
        cases atHead
    | cons x left ih =>
      cases right with
      | nil =>
        have atHead := h x.1
        rw [get?, get?, if_pos rfl] at atHead
        cases atHead
      | cons y right =>
        have same := head_eq_of_rel leftSorted rightSorted h
        have values : r x.2 y.2 := by
          have atHead := h x.1
          rw [get?, get?, if_pos rfl, if_pos same.symm] at atHead
          cases atHead
          assumption
        refine .cons ⟨same, values⟩ (ih leftSorted.tail rightSorted.tail fun key => ?_)
        rw [get?_tail leftSorted, get?_tail rightSorted, same]
        split
        · exact .none
        · exact h key
  · intro h
    induction h with
    | nil => exact fun _ => .none
    | cons same _ ih =>
      intro key
      rw [get?, get?, same.1]
      split
      · exact .some same.2
      · exact ih leftSorted.tail rightSorted.tail key

theorem forall₂_iff_keys_values {left : List (String × α)} {right : List (String × β)} :
    List.Forall₂ (fun x y => x.1 = y.1 ∧ r x.2 y.2) left right ↔
      left.map Prod.fst = right.map Prod.fst ∧
        ∀ pair ∈ (left.map Prod.snd).zip (right.map Prod.snd), r pair.1 pair.2 := by
  constructor
  · intro h
    induction h with
    | nil => simp
    | cons same _ ih => simpa [same] using ih
  · rintro ⟨keys, values⟩
    induction left generalizing right with
    | nil =>
      obtain rfl : right = [] := by simpa using keys.symm
      exact .nil
    | cons x left ih =>
      cases right with
      | nil => cases keys
      | cons y right =>
        simp only [List.map_cons, List.zip_cons_cons, List.cons.injEq, List.forall_mem_cons]
          at keys values
        exact .cons ⟨keys.1, values.1⟩ (ih keys.2 values.2)

end Entries

namespace Table

variable {α β : Type} {r : α → β → Prop}

/-- Place by place, as a comparison of the entries sees it. -/
theorem rel_iff_zip_entries {left : Table α} {right : Table β} :
    (∀ key, Option.Rel r (left.get? key) (right.get? key)) ↔
      left.size = right.size ∧
        ∀ pair ∈ left.entries.zip right.entries, pair.1.1 = pair.2.1 ∧ r pair.1.2 pair.2.2 := by
  refine (Entries.rel_iff_forall₂ left.sorted right.sorted).trans ?_
  rw [List.forall₂_iff_zip]
  exact and_congr_right fun _ => ⟨fun h _ member => h member, fun h _ _ member => h _ member⟩

/-- The keys first and then the values, as the worklist sees it. -/
theorem rel_iff_zip_values {left : Table α} {right : Table β} :
    (∀ key, Option.Rel r (left.get? key) (right.get? key)) ↔
      left.keys = right.keys ∧ ∀ pair ∈ left.values.zip right.values, r pair.1 pair.2 :=
  (Entries.rel_iff_forall₂ left.sorted right.sorted).trans Entries.forall₂_iff_keys_values

end Table

namespace Value

/-! ## Bisimilarity -/

/-- Two values are related, given which objects are: objects if they are one object or related, and
other values if they are the same. An object and something else never are. -/
def Related (R : ObjectId → ObjectId → Prop) : Value → Value → Prop
  | .object a, .object b => a = b ∨ R a b
  | a, b => a.same b = true

/-- Two objects have the same keys with related values. -/
def Matches (objects : Objects) (R : ObjectId → ObjectId → Prop) (a b : ObjectId) : Prop :=
  ∃ left right, objects[a.index]? = some left ∧ objects[b.index]? = some right ∧
    ∀ key, Option.Rel (Related R) (left.get? key) (right.get? key)

/-- A relation between objects that holds only where they match, related objects below them
included. -/
def Bisimulation (objects : Objects) (R : ObjectId → ObjectId → Prop) : Prop :=
  ∀ a b, R a b → Matches objects R a b

/-- Two values cannot be told apart by reading properties. -/
def Bisimilar (objects : Objects) (a b : Value) : Prop :=
  ∃ R, Bisimulation objects R ∧ Related R a b

theorem objects_or_other (v w : Value) :
    (∃ a b, v = .object a ∧ w = .object b) ∨ ∀ a b, v = .object a → w = .object b → False := by
  cases v with
  | object a =>
    cases w with
    | object b => exact .inl ⟨a, b, rfl, rfl⟩
    | _ => exact .inr nofun
  | _ => exact .inr nofun

theorem related_iff_same {R : ObjectId → ObjectId → Prop} {v w : Value}
    (other : ∀ a b, v = .object a → w = .object b → False) :
    Related R v w ↔ v.same w = true := by
  unfold Related
  split
  · exact (other _ _ rfl rfl).elim
  · exact Iff.rfl

theorem Related.mono {R S : ObjectId → ObjectId → Prop} (weaker : ∀ a b, R a b → S a b)
    {v w : Value} (h : Related R v w) : Related S v w := by
  unfold Related at h
  split at h
  · exact Or.imp_right (weaker _ _) h
  · next other => exact (related_iff_same other).2 h

theorem Matches.mono {objects : Objects} {R S : ObjectId → ObjectId → Prop}
    (weaker : ∀ a b, R a b → S a b) {a b : ObjectId} (h : Matches objects R a b) :
    Matches objects S a b := by
  obtain ⟨left, right, hl, hr, rel⟩ := h
  refine ⟨left, right, hl, hr, fun key => ?_⟩
  have here := rel key
  revert here
  generalize left.get? key = v
  generalize right.get? key = w
  rintro (values | _)
  · exact .some (values.mono weaker)
  · exact .none

/-- Objects that are there match by what they hold. -/
theorem matches_iff {objects : Objects} {R : ObjectId → ObjectId → Prop} {a b : ObjectId}
    {left right : Table Value} (hl : objects[a.index]? = some left)
    (hr : objects[b.index]? = some right) :
    Matches objects R a b ↔ ∀ key, Option.Rel (Related R) (left.get? key) (right.get? key) := by
  unfold Matches
  simp [hl, hr]

theorem getElem?_eq_some_getD {objects : Objects} {i : Nat} (inside : i < objects.size) :
    objects[i]? = some (objects.getD i .empty) := by
  simp [inside]

/-- Objects that are there match if they have the same keys and their values, in the order of the
keys, are related. -/
theorem matches_iff_values {objects : Objects} {R : ObjectId → ObjectId → Prop} {a b : ObjectId}
    (inside : a.index < objects.size ∧ b.index < objects.size) :
    let left := objects.getD a.index .empty
    let right := objects.getD b.index .empty
    Matches objects R a b ↔
      left.keys = right.keys ∧ ∀ pair ∈ left.values.zip right.values, Related R pair.1 pair.2 :=
  (matches_iff (getElem?_eq_some_getD inside.1) (getElem?_eq_some_getD inside.2)).trans
    Table.rel_iff_zip_values

/-! ## Assumed pairs -/

/-- The pairs of objects that are taken as alike. -/
abbrev Assumed := List (ObjectId × ObjectId)

/-- The relation that holds of the assumed pairs. -/
abbrev Among (assumed : Assumed) (a b : ObjectId) : Prop := (a, b) ∈ assumed

/-- A list of assumed pairs has grown to another one in which all that was added matches. The pairs
that were there before may still be open. -/
structure Closes (objects : Objects) (before after : Assumed) : Prop where
  kept : before ⊆ after
  added : ∀ a b, (a, b) ∈ after → (a, b) ∈ before ∨ Matches objects (Among after) a b

namespace Closes

variable {objects : Objects}

theorem refl (assumed : Assumed) : Closes objects assumed assumed :=
  ⟨List.Subset.refl _, fun _ _ => .inl⟩

theorem trans {first second third : Assumed} (h : Closes objects first second)
    (h' : Closes objects second third) : Closes objects first third where
  kept := List.Subset.trans h.kept h'.kept
  added a b member := by
    rcases h'.added a b member with earlier | closed
    · exact (h.added a b earlier).imp_right fun closed => closed.mono fun _ _ pair => h'.kept pair
    · exact .inr closed

/-- A pair that was open while the list grew is closed as soon as it matches. -/
theorem of_cons {before after : Assumed} {a b : ObjectId}
    (h : Closes objects ((a, b) :: before) after) (closed : Matches objects (Among after) a b) :
    Closes objects before after where
  kept := List.Subset.trans (List.subset_cons_self _ _) h.kept
  added c d member := by
    rcases h.added c d member with earlier | closed'
    · rcases List.mem_cons.1 earlier with same | earlier
      · cases same
        exact .inr closed
      · exact .inl earlier
    · exact .inr closed'

/-- What was assumed from nothing is a bisimulation. -/
theorem bisimulation {assumed : Assumed} (h : Closes objects [] assumed) :
    Bisimulation objects (Among assumed) := by
  intro a b member
  rcases h.added a b member with none | closed
  · cases none
  · exact closed

end Closes

theorem openPairs_length_le (count : Nat) {before after : Assumed}
    (kept : before ⊆ after) :
    (openPairs count after).length ≤ (openPairs count before).length := by
  unfold openPairs
  rw [← List.countP_eq_length_filter, ← List.countP_eq_length_filter]
  refine List.countP_mono_left fun pair _ fresh => ?_
  simp only [Bool.not_eq_true', List.contains_eq_mem, decide_eq_false_iff_not] at fresh ⊢
  exact fun seen => fresh (kept seen)

theorem openPairs_nil_length (count : Nat) : (openPairs count []).length = count * count := by
  simp [openPairs, List.length_flatMap]

/-! ## The worklist -/

/-- Soundness: if all pairs of the worklist are found alike, the assumed pairs grow to a list in
which all that was added matches, and the pairs of the worklist are related by it. -/
theorem alikeFrom_closes {objects : Objects} {assumed : Assumed}
    {todo : List (Value × Value)} (h : alikeFrom objects assumed todo = true) :
    ∃ after, Closes objects assumed after ∧
      ∀ pair ∈ todo, Related (Among after) pair.1 pair.2 := by
  fun_induction alikeFrom objects assumed todo with
  | case1 assumed => exact ⟨assumed, .refl assumed, by simp⟩
  | case2 assumed a todo ih =>
    obtain ⟨after, closes, related⟩ := ih h
    exact ⟨after, closes, List.forall_mem_cons.2 ⟨.inl rfl, related⟩⟩
  | case3 assumed a b todo different seen ih =>
    obtain ⟨after, closes, related⟩ := ih h
    exact ⟨after, closes, List.forall_mem_cons.2 ⟨.inr (closes.kept seen), related⟩⟩
  | case4 assumed a b todo different fresh inside left right fewer keys ih =>
    obtain ⟨after, closes, related⟩ := ih h
    obtain ⟨below, related⟩ := List.forall_mem_append.1 related
    have closed : Matches objects (Among after) a b := (matches_iff_values inside).2 ⟨keys, below⟩
    have opened : (a, b) ∈ after := closes.kept List.mem_cons_self
    exact ⟨after, closes.of_cons closed, List.forall_mem_cons.2 ⟨.inr opened, related⟩⟩
  | case5 => cases h
  | case6 => cases h
  | case7 assumed a b todo other ih =>
    obtain ⟨same, rest⟩ := Bool.and_eq_true_iff.1 h
    obtain ⟨after, closes, related⟩ := ih rest
    exact ⟨after, closes, List.forall_mem_cons.2 ⟨(related_iff_same other).2 same, related⟩⟩

/-- Completeness: where a bisimulation relates all pairs of the worklist, no difference is found,
whatever is assumed. -/
theorem alikeFrom_of_related {objects : Objects} {R : ObjectId → ObjectId → Prop}
    (bisimulation : Bisimulation objects R) (assumed : Assumed)
    {todo : List (Value × Value)} (h : ∀ pair ∈ todo, Related R pair.1 pair.2) :
    alikeFrom objects assumed todo = true := by
  fun_induction alikeFrom objects assumed todo with
  | case1 => rfl
  | case2 assumed a todo ih => exact ih (List.forall_mem_cons.1 h).2
  | case3 assumed a b todo different seen ih => exact ih (List.forall_mem_cons.1 h).2
  | case4 assumed a b todo different fresh inside left right fewer keys ih =>
    obtain ⟨pair, related⟩ := List.forall_mem_cons.1 h
    have closed := bisimulation a b (pair.resolve_left different)
    obtain ⟨_, below⟩ := (matches_iff_values inside).1 closed
    exact ih (List.forall_mem_append.2 ⟨below, related⟩)
  | case5 assumed a b todo different fresh inside left right fewer keys =>
    have closed := bisimulation a b ((List.forall_mem_cons.1 h).1.resolve_left different)
    exact absurd ((matches_iff_values inside).1 closed).1 keys
  | case6 assumed a b todo different fresh outside =>
    have closed := bisimulation a b ((List.forall_mem_cons.1 h).1.resolve_left different)
    obtain ⟨left, right, hl, hr, _⟩ := closed
    exact absurd ⟨(Array.getElem?_eq_some_iff.1 hl).1, (Array.getElem?_eq_some_iff.1 hr).1⟩ outside
  | case7 assumed a b todo other ih =>
    obtain ⟨related, rest⟩ := List.forall_mem_cons.1 h
    rw [(related_iff_same other).1 related, ih rest]
    rfl

theorem alike_eq_true_iff {objects : Objects} {a b : Value} :
    alike objects a b = true ↔ Bisimilar objects a b := by
  unfold alike
  constructor
  · intro h
    obtain ⟨assumed, closes, related⟩ := alikeFrom_closes h
    exact ⟨Among assumed, closes.bisimulation, related (a, b) (List.mem_singleton_self _)⟩
  · rintro ⟨R, bisimulation, related⟩
    refine alikeFrom_of_related bisimulation [] fun pair member => ?_
    rw [List.mem_singleton.1 member]
    exact related

/-! ## The plain recursion -/

/-- Something that answers whether two values are alike and hands the assumed pairs on. Without an
answer it was cut off. -/
abbrev Comparison := Value → Value → Assumed → Option (Bool × Assumed)

/-- A property of one object and the property at the same place of another. -/
abbrev Facing := (String × Value) × (String × Value)

/-- Compares one pair of properties after the other and stops at the first difference. -/
def exploreEach (compare : Comparison) : List Facing → Assumed → Option (Bool × Assumed)
  | [], assumed => some (true, assumed)
  | (x, y) :: rest, assumed =>
    if x.1 = y.1 then
      match compare x.2 y.2 assumed with
      | some (true, assumed) => exploreEach compare rest assumed
      | answer => answer
    else some (false, assumed)

/-- Compares two objects. The pair is assumed alike before the properties are compared, in the order
that `visit` puts them in, and it stays assumed. -/
def exploreObjects (visit : List Facing → List Facing) (objects : Objects) (compare : Comparison)
    (a b : ObjectId) (assumed : Assumed) : Option (Bool × Assumed) :=
  if a = b then some (true, assumed)
  else if assumed.contains (a, b) then some (true, assumed)
  else
    match objects[a.index]?, objects[b.index]? with
    | some left, some right =>
      if left.size = right.size then
        exploreEach compare (visit (left.entries.zip right.entries)) ((a, b) :: assumed)
      else some (false, (a, b) :: assumed)
    | _, _ => some (false, assumed)

/-- Compares two values, to the given depth. -/
def explore (visit : List Facing → List Facing) (objects : Objects) : (depth : Nat) → Comparison
  | 0, _, _, _ => none
  | depth + 1, .object a, .object b, assumed =>
    exploreObjects visit objects (explore visit objects depth) a b assumed
  | _ + 1, v, w, assumed => some (v.same w, assumed)

namespace Comparison

/-- A positive answer leaves a list of assumed pairs that relates the two values, and in which all
that was added matches. -/
def Sound (objects : Objects) (compare : Comparison) : Prop :=
  ∀ {v w before after}, compare v w before = some (true, after) →
    Closes objects before after ∧ Related (Among after) v w

/-- Related values are never told apart, whatever is assumed. -/
def Complete (R : ObjectId → ObjectId → Prop) (compare : Comparison) : Prop :=
  ∀ {v w before result after}, Related R v w → compare v w before = some (result, after) →
    result = true

end Comparison

section

variable {visit : List Facing → List Facing} {objects : Objects} {compare : Comparison}
  {R : ObjectId → ObjectId → Prop} {before after : Assumed} {result : Bool}

theorem exploreEach_closes (sound : compare.Sound objects) {pairs : List Facing}
    (h : exploreEach compare pairs before = some (true, after)) :
    Closes objects before after ∧
      ∀ pair ∈ pairs, pair.1.1 = pair.2.1 ∧ Related (Among after) pair.1.2 pair.2.2 := by
  induction pairs generalizing before with
  | nil =>
    cases h
    exact ⟨.refl _, by simp⟩
  | cons pair rest ih =>
    unfold exploreEach at h
    split at h
    · next keys =>
      split at h
      · next mid hc =>
        obtain ⟨first, related⟩ := sound hc
        obtain ⟨last, below⟩ := ih h
        have kept := related.mono fun _ _ member => last.kept member
        exact ⟨first.trans last, List.forall_mem_cons.2 ⟨⟨keys, kept⟩, below⟩⟩
      · next stopped => exact (stopped after h).elim
    · cases h

theorem exploreEach_of_related (complete : compare.Complete R) {pairs : List Facing}
    (related : ∀ pair ∈ pairs, pair.1.1 = pair.2.1 ∧ Related R pair.1.2 pair.2.2)
    (h : exploreEach compare pairs before = some (result, after)) : result = true := by
  induction pairs generalizing before with
  | nil =>
    cases h
    rfl
  | cons pair rest ih =>
    obtain ⟨⟨keys, values⟩, related⟩ := List.forall_mem_cons.1 related
    unfold exploreEach at h
    rw [if_pos keys] at h
    split at h
    · exact ih related h
    · exact complete values h

/-- If every comparison answers that starts from at least the pairs assumed at first, so do all of
them in a row. -/
theorem exploreEach_answers (sound : compare.Sound objects)
    (answers : ∀ v w mid, before ⊆ mid → (compare v w mid).isSome = true) (pairs : List Facing)
    {mid : Assumed} (kept : before ⊆ mid) : (exploreEach compare pairs mid).isSome = true := by
  induction pairs generalizing mid with
  | nil => rfl
  | cons pair rest ih =>
    unfold exploreEach
    split
    · split
      · next after hc => exact ih (List.Subset.trans kept (sound hc).1.kept)
      · exact answers _ _ _ kept
    · rfl

theorem exploreObjects_closes (permutes : ∀ pairs, (visit pairs).Perm pairs)
    (sound : compare.Sound objects) {a b : ObjectId}
    (h : exploreObjects visit objects compare a b before = some (true, after)) :
    Closes objects before after ∧ Related (Among after) (.object a) (.object b) := by
  unfold exploreObjects at h
  split at h
  · next same =>
    cases h
    exact ⟨.refl _, .inl same⟩
  split at h
  · next seen =>
    cases h
    exact ⟨.refl _, .inr (List.contains_iff_mem.1 seen)⟩
  split at h
  · next left right hl hr =>
    split at h
    · next sizes =>
      obtain ⟨closes, below⟩ := exploreEach_closes sound h
      have facing : ∀ pair ∈ left.entries.zip right.entries,
          pair.1.1 = pair.2.1 ∧ Related (Among after) pair.1.2 pair.2.2 :=
        fun pair member => below pair ((permutes _).mem_iff.2 member)
      have closed : Matches objects (Among after) a b :=
        (matches_iff hl hr).2 (Table.rel_iff_zip_entries.2 ⟨sizes, facing⟩)
      exact ⟨closes.of_cons closed, .inr (closes.kept List.mem_cons_self)⟩
    · cases h
  · cases h

theorem exploreObjects_of_related (permutes : ∀ pairs, (visit pairs).Perm pairs)
    (bisimulation : Bisimulation objects R) (complete : compare.Complete R) {a b : ObjectId}
    (related : Related R (.object a) (.object b))
    (h : exploreObjects visit objects compare a b before = some (result, after)) :
    result = true := by
  unfold exploreObjects at h
  split at h
  · cases h
    rfl
  next different =>
  split at h
  · cases h
    rfl
  obtain ⟨left, right, hl, hr, rel⟩ := bisimulation a b (related.resolve_left different)
  obtain ⟨sizes, facing⟩ := Table.rel_iff_zip_entries.1 rel
  simp only [hl, hr, if_pos sizes] at h
  exact exploreEach_of_related complete
    (fun pair member => facing pair ((permutes _).mem_iff.1 member)) h

/-- Opening a pair of objects leaves fewer pairs that can still be opened. -/
theorem exploreObjects_answers (sound : compare.Sound objects) {depth : Nat}
    (answers : ∀ v w assumed, (openPairs objects.size assumed).length < depth →
      (compare v w assumed).isSome = true) {a b : ObjectId} {assumed : Assumed}
    (enough : (openPairs objects.size assumed).length < depth + 1) :
    (exploreObjects visit objects compare a b assumed).isSome = true := by
  unfold exploreObjects
  split
  · rfl
  split
  · rfl
  next fresh =>
  split
  · next left right hl hr =>
    split
    · have fewer := openPairs_length_lt (Array.getElem?_eq_some_iff.1 hl).1
        (Array.getElem?_eq_some_iff.1 hr).1 fun seen => fresh (List.contains_iff_mem.2 seen)
      refine exploreEach_answers sound (fun v w mid kept => answers v w mid ?_) _
        (List.Subset.refl _)
      have monotone := openPairs_length_le objects.size kept
      omega
    · rfl
  · rfl

theorem explore_other {depth : Nat} {v w : Value} {assumed : Assumed}
    (other : ∀ a b, v = .object a → w = .object b → False) :
    explore visit objects (depth + 1) v w assumed = some (v.same w, assumed) := by
  rw [explore]
  exact other

theorem explore_sound (permutes : ∀ pairs, (visit pairs).Perm pairs) (depth : Nat) :
    (explore visit objects depth).Sound objects := by
  induction depth with
  | zero => exact nofun
  | succ depth ih =>
    intro v w before after h
    rcases objects_or_other v w with ⟨a, b, rfl, rfl⟩ | other
    · exact exploreObjects_closes permutes ih h
    · rw [explore_other other] at h
      obtain ⟨same, rfl⟩ := Prod.mk.inj (Option.some.inj h)
      exact ⟨.refl _, (related_iff_same other).2 same⟩

theorem explore_complete (permutes : ∀ pairs, (visit pairs).Perm pairs)
    (bisimulation : Bisimulation objects R) (depth : Nat) :
    (explore visit objects depth).Complete R := by
  induction depth with
  | zero => exact nofun
  | succ depth ih =>
    intro v w before result after related h
    rcases objects_or_other v w with ⟨a, b, rfl, rfl⟩ | other
    · exact exploreObjects_of_related permutes bisimulation ih related h
    · rw [explore_other other] at h
      obtain ⟨rfl, _⟩ := Prod.mk.inj (Option.some.inj h)
      exact (related_iff_same other).1 related

/-- The search answers at any depth beyond the number of pairs that can still be opened. -/
theorem explore_answers (permutes : ∀ pairs, (visit pairs).Perm pairs) (depth : Nat) (v w : Value)
    (assumed : Assumed) (enough : (openPairs objects.size assumed).length < depth) :
    (explore visit objects depth v w assumed).isSome = true := by
  induction depth generalizing v w assumed with
  | zero => cases enough
  | succ depth ih =>
    rcases objects_or_other v w with ⟨a, b, rfl, rfl⟩ | other
    · exact exploreObjects_answers (explore_sound permutes depth) ih enough
    · rw [explore_other other]
      rfl

end

end Value

/-- Being alike is bisimilarity, on any graph of objects. Two values are found alike just when some
relation between objects relates them, under which related objects have the same keys with related
values. The plain recursion, in which all branches share the assumed pairs and none is ever dropped,
comes to the same answer at every depth beyond the number of pairs of objects, in whatever order it
visits the properties. -/
theorem alike_iff_bisimilar (objects : Objects) (a b : Value) :
    (Value.alike objects a b = true ↔ Value.Bisimilar objects a b) ∧
    ∀ visit : List Value.Facing → List Value.Facing, (∀ pairs, (visit pairs).Perm pairs) →
      ∀ depth > objects.size * objects.size, ∃ assumed,
        Value.explore visit objects depth a b [] = some (Value.alike objects a b, assumed) := by
  refine ⟨Value.alike_eq_true_iff, fun visit permutes depth enough => ?_⟩
  rw [← Value.openPairs_nil_length] at enough
  have answers := Value.explore_answers permutes depth a b [] enough
  obtain ⟨⟨result, assumed⟩, found⟩ := Option.isSome_iff_exists.1 answers
  refine ⟨assumed, ?_⟩
  suffices same : result = Value.alike objects a b by rw [found, same]
  rw [Bool.eq_iff_iff, Value.alike_eq_true_iff]
  constructor
  · rintro rfl
    obtain ⟨closes, related⟩ := Value.explore_sound permutes depth found
    exact ⟨_, closes.bisimulation, related⟩
  · rintro ⟨R, bisimulation, related⟩
    exact Value.explore_complete permutes bisimulation depth related found

/-- A ring of two objects and a ring of one are alike if each object carries the same tag, and the
search finds it out also when it visits properties from the last one on. -/
theorem alike_iff_bisimilar_rings :
    let ring (next : Nat) : Table Value :=
      .ofList [("next", .object ⟨next⟩), ("tag", .string "x")]
    let objects : Objects := #[ring 1, ring 0, ring 2]
    Value.explore List.reverse objects 10 (.object ⟨0⟩) (.object ⟨2⟩) [] =
        some (true, [(⟨1⟩, ⟨2⟩), (⟨0⟩, ⟨2⟩)]) ∧
      Value.alike objects (.object ⟨0⟩) (.object ⟨2⟩) = true ∧
      Value.Bisimilar objects (.object ⟨0⟩) (.object ⟨2⟩) := by
  intro ring objects
  have found : Value.explore List.reverse objects 10 (.object ⟨0⟩) (.object ⟨2⟩) [] =
    some (true, [(⟨1⟩, ⟨2⟩), (⟨0⟩, ⟨2⟩)]) := rfl
  obtain ⟨decides, searches⟩ := alike_iff_bisimilar objects (.object ⟨0⟩) (.object ⟨2⟩)
  obtain ⟨assumed, same⟩ := searches List.reverse List.reverse_perm 10 (by decide)
  have alike : Value.alike objects (.object ⟨0⟩) (.object ⟨2⟩) = true :=
    (Prod.mk.inj (Option.some.inj (same.symm.trans found))).1
  exact ⟨found, alike, decides.1 alike⟩

end SloScript
