import Mathlib.Logic.Relation
import SloScript.Proofs.BinaryForm
import SloScript.Proofs.Sites

/-!
# Alike values have the same text

Being alike takes no notice of which object is which: an object that is held at several places is
alike to separate copies of it. The text of an object does take notice, since it only hints at an
object inside itself. On a graph without cycles that never happens, so nothing of the sharing shows.

A comparison and a printout walk the same graphs, but not in step. The comparison opens each pair of
objects once and takes it as alike wherever it meets it again; the printout opens an object at every
place. What brings them together is the relation that a successful comparison leaves behind, which
holds of the objects at every pair of places reached along the same keys, and that no object
encloses itself. How deep a place is does not matter: the cut comes at the same depth on both sides.

Two things are told apart by their texts alone. The two zeros are equal and have different texts, so
no positive zero may be compared with a negative one. And functions are compared by their
identities, but shown by their names; an identity is given to one function only.

Results:
1. `correspondence_of_related`: what a bisimulation relates corresponds as sites.
2. `display_eq_of_alike`: so alike values have the same text.
-/

namespace SloScript

namespace Value

open Relation (ReflTransGen TransGen)

variable {objects : Objects} {a b : Value}

/-- From an object to what it holds. -/
inductive Holds (objects : Objects) : Value → Value → Prop
  | property {id : ObjectId} {key : String} {v : Value} :
      (propertiesOf objects id).get? key = some v → Holds objects (.object id) v

/-- Nothing that can be reached from a value by reading properties can be reached from itself. -/
def Acyclic (objects : Objects) (v : Value) : Prop :=
  ∀ w, ReflTransGen (Holds objects) v w → ¬TransGen (Holds objects) w w

/-- The pairs of values that a comparison of `a` and `b` comes to: along the same keys, as long as
it has not come to one object on both sides. -/
inductive Compared (objects : Objects) (a b : Value) : Value → Value → Prop
  | whole : Compared objects a b a b
  | property {x y : ObjectId} {key : String} {v w : Value} :
      Compared objects a b (.object x) (.object y) → x ≠ y →
      (propertiesOf objects x).get? key = some v → (propertiesOf objects y).get? key = some w →
      Compared objects a b v w

/-- An identity belongs to one function, and to one native: those that are compared are the same if
they carry the same identity. -/
structure Identified (objects : Objects) (a b : Value) : Prop where
  function : ∀ c c', Compared objects a b (.function c) (.function c') → c.id = c'.id → c = c'
  native : ∀ n n', Compared objects a b (.native n) (.native n') → n.id = n'.id → n = n'

/-- No positive zero is compared with a negative one. -/
def ZerosApart (objects : Objects) (a b : Value) : Prop :=
  ∀ x y, Compared objects a b (.number x) (.number y) → ¬Binary.OppositeZeros x y

/-! ## Graphs without cycles -/

theorem Holds.mem_values {id : ObjectId} {v : Value} (h : Holds objects (.object id) v) :
    v ∈ (propertiesOf objects id).values := by
  obtain ⟨found⟩ := h
  revert found
  show Entries.get? _ (propertiesOf objects id).entries = some v → _
  generalize h : (propertiesOf objects id).entries = entries
  rw [Table.values, h]
  clear h
  intro found
  induction entries with
  | nil => cases found
  | cons entry rest ih =>
    unfold Entries.get? at found
    split at found
    · exact Option.some.inj found ▸ List.mem_cons_self
    · exact List.mem_cons_of_mem _ (ih found)

/-- How many objects were made up to an object. -/
def rank : Value → Nat
  | .object id => id.index + 1
  | _ => 0

/-- Where objects hold only objects that were made before them, none encloses itself. -/
theorem acyclic_of_older
    (older : ∀ id id', Holds objects (.object id) (.object id') → id'.index < id.index) :
    Acyclic objects a := by
  have lower : ∀ v w, Holds objects v w → rank v > rank w := by
    rintro _ w ⟨found⟩
    cases w with
    | object id' => exact Nat.succ_lt_succ (older _ _ (.property found))
    | _ => exact Nat.succ_pos _
  intro v _ cycle
  have descent : TransGen (· > ·) (rank v) (rank v) := cycle.lift rank lower
  rw [Relation.transGen_eq_self] at descent
  exact Nat.lt_irrefl _ descent

/-- What is compared is one of the two values, or held by an object. -/
theorem Compared.left_cases {v w : Value} (h : Compared objects a b v w) :
    v = a ∨ ∃ id, Holds objects (.object id) v := by
  cases h with
  | whole => exact .inl rfl
  | property _ _ found _ => exact .inr ⟨_, .property found⟩

/-! ## Values that look the same -/

theorem LooksLike.refl {R : ObjectId → ObjectId → Prop} {v : Value}
    (object : ∀ id, v = .object id → R id id) : LooksLike R v v := by
  cases v with
  | null => exact .null
  | bool b => exact .bool b
  | number x => exact .number x
  | string s => exact .string s
  | object id => exact .object (object id rfl)
  | function c => exact .function rfl
  | native n => exact .native rfl

/-- Related values look the same when they are compared. -/
theorem Related.looksLike {R S : ObjectId → ObjectId → Prop} (zeros : ZerosApart objects a b)
    (identified : Identified objects a b) {v w : Value} (compared : Compared objects a b v w)
    (object : ∀ x y, v = .object x → w = .object y → x = y ∨ S x y → R x y)
    (h : Related S v w) : LooksLike R v w := by
  unfold Related at h
  split at h
  · exact .object (object _ _ rfl rfl h)
  unfold same at h
  split at h
  · exact .null
  · rw [eq_of_beq h]
    exact .bool _
  · rw [(Binary.eq_or_oppositeZeros_of_beq h).resolve_right (zeros _ _ compared)]
    exact .number _
  · rw [eq_of_beq h]
    exact .string _
  · exact .object (object _ _ rfl rfl (.inl (eq_of_beq h)))
  · rw [identified.function _ _ compared (eq_of_beq h)]
    exact .function rfl
  · rw [identified.native _ _ compared (eq_of_beq h)]
    exact .native rfl
  · cases h

/-! ## Related sites -/

/-- A place in the graph below a value: an object that can be reached from it, inside of objects
from which it can be reached itself. -/
structure Place (objects : Objects) (v : Value) (path : List ObjectId) (id : ObjectId) : Prop where
  reached : ReflTransGen (Holds objects) v (.object id)
  enclosing : ∀ outer ∈ path, TransGen (Holds objects) (.object outer) (.object id)

namespace Place

variable {path : List ObjectId} {id : ObjectId}

theorem not_mem (h : Place objects a path id) (acyclic : Acyclic objects a) : id ∉ path :=
  fun member => acyclic _ h.reached (h.enclosing id member)

theorem root (is : a = .object id) : Place objects a [] id := ⟨is ▸ .refl, nofun⟩

/-- One place deeper, along a key. -/
theorem inner (h : Place objects a path id) {key : String} {below : ObjectId}
    (found : (propertiesOf objects id).get? key = some (.object below)) :
    Place objects a (id :: path) below := by
  have step : Holds objects (.object id) (.object below) := .property found
  refine ⟨h.reached.tail step, fun outer member => ?_⟩
  rcases List.mem_cons.1 member with rfl | further
  · exact .single step
  · exact (h.enclosing outer further).tail step

end Place

/-- Sites below `a` and below `b` that a comparison of the two has found alike. -/
structure AlikeSites (objects : Objects) (a b : Value) (S : ObjectId → ObjectId → Prop)
    (path path' : List ObjectId) (x y : ObjectId) : Prop where
  left : Place objects a path x
  right : Place objects b path' y
  related : x = y ∨ S x y
  compared : x ≠ y → Compared objects a b (.object x) (.object y)

/-- Sites that a comparison has found alike correspond to each other: their objects do not enclose
themselves, and what they hold is alike again. -/
theorem correspondence_of_related {S : ObjectId → ObjectId → Prop}
    (bisimulation : Bisimulation objects S) (acyclic : Acyclic objects a)
    (acyclic' : Acyclic objects b) (zeros : ZerosApart objects a b)
    (identified : Identified objects a b) :
    Correspondence objects objects (AlikeSites objects a b S) where
  enclosed sites := iff_of_false (sites.left.not_mem acyclic) (sites.right.not_mem acyclic')
  opened {path path' x y} sites key := by
    by_cases same : x = y
    · -- One object on both sides: the comparison has not gone any further.
      subst same
      cases found : (propertiesOf objects x).get? key with
      | none => exact .none
      | some v =>
        refine .some (.refl fun below is => ?_)
        subst is
        exact ⟨sites.left.inner found, sites.right.inner found, .inl rfl, (absurd rfl ·)⟩
    · obtain ⟨left, right, hl, hr, rel⟩ := bisimulation x y (sites.related.resolve_left same)
      have properties : propertiesOf objects x = left ∧ propertiesOf objects y = right := by
        simp [propertiesOf, hl, hr]
      obtain ⟨rfl, rfl⟩ := properties
      have here := rel key
      cases found : (propertiesOf objects x).get? key with
      | none =>
        rw [found] at here
        cases found' : (propertiesOf objects y).get? key with
        | none => exact .none
        | some w =>
          rw [found'] at here
          cases here
      | some v =>
        cases found' : (propertiesOf objects y).get? key with
        | none =>
          rw [found, found'] at here
          cases here
        | some w =>
          rw [found, found'] at here
          obtain ⟨values⟩ := here
          have compared := (sites.compared same).property same found found'
          refine .some (values.looksLike zeros identified compared ?_)
          rintro below below' rfl rfl related
          exact ⟨sites.left.inner found, sites.right.inner found', related, fun _ => compared⟩

/-- Alike values have the same text unless an object encloses itself, whatever is shared on either
side and however deep the objects lie. Of the numbers that the comparison meets none may be a zero
that faces the zero of the other sign, and an identity stands for one function. -/
theorem display_eq_of_alike (objects : Objects) (a b : Value) (left : Acyclic objects a)
    (right : Acyclic objects b) (alike : alike objects a b = true)
    (zeros : ZerosApart objects a b) (identified : Identified objects a b) :
    a.display objects = b.display objects := by
  obtain ⟨S, bisimulation, related⟩ := alike_eq_true_iff.1 alike
  have sites := correspondence_of_related bisimulation left right zeros identified
  refine (sites.displayAt_eq displayDepth rfl ?_).symm
  refine related.looksLike zeros identified .whole fun x y hx hy same => ?_
  exact ⟨.root hx, .root hy, same, fun _ => hx ▸ hy ▸ .whole⟩

/-- A child that is shared by two keys is shown at both of them, and so are two copies of it. -/
theorem display_eq_of_alike_shared :
    let leaf : Table Value := .ofList [("n", .number 1), ("s", .string "x")]
    let both (left right : Nat) : Table Value :=
      .ofList [("left", .object ⟨left⟩), ("right", .object ⟨right⟩)]
    let objects : Objects := #[leaf, leaf, both 0 0, both 0 1]
    let shared : Value := .object ⟨2⟩
    let copied : Value := .object ⟨3⟩
    Acyclic objects shared ∧ Acyclic objects copied ∧ alike objects shared copied = true ∧
      ZerosApart objects shared copied ∧ Identified objects shared copied ∧
      shared.display objects = copied.display objects ∧
      copied.display objects =
        "\x7b left: \x7b n: 1, s: \"x\" \x7d, right: \x7b n: 1, s: \"x\" \x7d \x7d" := by
  intro leaf both objects shared copied
  have held : ∀ id v, Holds objects (.object id) v →
      v = .number 1 ∨ v = .string "x" ∨ ∃ id', v = .object id' ∧ id'.index < id.index := by
    intro id v holds
    have member := holds.mem_values
    rcases id with ⟨_ | _ | _ | _ | index⟩
    · change v ∈ [.number 1, .string "x"] at member
      simp only [List.mem_cons, List.not_mem_nil, or_false] at member
      exact or_assoc.1 (.inl member)
    · change v ∈ [.number 1, .string "x"] at member
      simp only [List.mem_cons, List.not_mem_nil, or_false] at member
      exact or_assoc.1 (.inl member)
    · change v ∈ [.object ⟨0⟩, .object ⟨0⟩] at member
      simp only [List.mem_cons, List.not_mem_nil, or_false, or_self] at member
      exact .inr (.inr ⟨_, member, by decide⟩)
    · change v ∈ [.object ⟨0⟩, .object ⟨1⟩] at member
      simp only [List.mem_cons, List.not_mem_nil, or_false] at member
      rcases member with rfl | rfl
      · exact .inr (.inr ⟨_, rfl, by decide⟩)
      · exact .inr (.inr ⟨_, rfl, by decide⟩)
    · cases member
  have older : ∀ id id', Holds objects (.object id) (.object id') → id'.index < id.index := by
    intro id id' holds
    rcases held id _ holds with is | is | ⟨_, is, less⟩
    · cases is
    · cases is
    · cases is
      exact less
  have compared : ∀ v w, Compared objects shared copied v w →
      v = .number 1 ∨ v = .string "x" ∨ ∃ id, v = .object id := by
    intro v w met
    rcases met.left_cases with rfl | ⟨id, holds⟩
    · exact .inr (.inr ⟨_, rfl⟩)
    · rcases held id v holds with one | text | ⟨id', is, _⟩
      · exact .inl one
      · exact .inr (.inl text)
      · exact .inr (.inr ⟨id', is⟩)
  have zeros : ZerosApart objects shared copied := by
    intro x y met
    obtain is | is | ⟨_, is⟩ := compared _ _ met
    · cases is
      rintro (⟨zero, _⟩ | ⟨zero, _⟩)
      · exact absurd zero (by decide)
      · exact absurd zero (by decide)
    · cases is
    · cases is
  have identified : Identified objects shared copied := by
    constructor
    · intro c c' met
      obtain is | is | ⟨_, is⟩ := compared _ _ met <;> cases is
    · intro n n' met
      obtain is | is | ⟨_, is⟩ := compared _ _ met <;> cases is
  have alike : alike objects shared copied = true := by
    have found : explore id objects 17 shared copied [] =
      some (true, [(⟨0⟩, ⟨1⟩), (⟨2⟩, ⟨3⟩)]) := rfl
    obtain ⟨closes, related⟩ := explore_sound (fun _ => .refl _) 17 found
    exact alike_eq_true_iff.2 ⟨_, closes.bisimulation, related⟩
  have left : Acyclic objects shared := acyclic_of_older older
  have right : Acyclic objects copied := acyclic_of_older older
  exact ⟨left, right, alike, zeros, identified,
    display_eq_of_alike objects shared copied left right alike zeros identified, by decide +kernel⟩

end Value

end SloScript
