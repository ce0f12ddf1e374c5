import SloScript.Proofs.Bisimilarity
import SloScript.Value.Display

/-!
# Objects and what encloses them

What is printed of an object depends on where it stands. A *site* is an object together with the
objects that enclose it, innermost first: it is only hinted at if it is one of those, or if they are
too many. Nothing else is known of the place, neither what has been printed beside it nor how the
objects are stored.

So two texts are compared site by site. A relation between sites is a *correspondence* if related
sites agree on whether their object is one of those around it, and if their objects have the same
keys with values that look the same one level deeper. Then the texts are the same to any depth. It
is left open which sites are related: the same objects in two stores, objects that are alike, or
objects that have only been given other names.

Results:
1. `displayAt_eq`: corresponding sites have the same text.
-/

namespace SloScript

theorem isEmpty_eq_of_forall₂ {α β : Type} {R : α → β → Prop} {xs : List α} {ys : List β}
    (h : List.Forall₂ R xs ys) : ys.isEmpty = xs.isEmpty := by
  cases h <;> rfl

theorem map_eq_of_forall₂ {α β γ : Type} {R : α → β → Prop} {f : α → γ} {g : β → γ} {xs : List α}
    {ys : List β} (h : List.Forall₂ R xs ys) (same : ∀ x y, R x y → g y = f x) :
    ys.map g = xs.map f := by
  induction h with
  | nil => rfl
  | cons head _ ih => rw [List.map_cons, List.map_cons, same _ _ head, ih]

theorem rel_mono {α β : Type} {R S : α → β → Prop} (weaker : ∀ x y, R x y → S x y) {x : Option α}
    {y : Option β} (h : Option.Rel R x y) : Option.Rel S x y := by
  cases h with
  | none => exact .none
  | some related => exact .some (weaker _ _ related)

namespace Value

/-- Values that look the same, given which objects do. -/
inductive LooksLike (R : ObjectId → ObjectId → Prop) : Value → Value → Prop
  | null : LooksLike R .null .null
  | bool (b : Bool) : LooksLike R (.bool b) (.bool b)
  | number (x : Float) : LooksLike R (.number x) (.number x)
  | string (s : String) : LooksLike R (.string s) (.string s)
  | object {a b : ObjectId} : R a b → LooksLike R (.object a) (.object b)
  | function {c c' : Closure} : c'.name = c.name → LooksLike R (.function c) (.function c')
  | native {n n' : Native} : n'.name = n.name → LooksLike R (.native n) (.native n')

theorem LooksLike.mono {R S : ObjectId → ObjectId → Prop} (weaker : ∀ a b, R a b → S a b)
    {v w : Value} (h : LooksLike R v w) : LooksLike S v w := by
  cases h with
  | null => exact .null
  | bool b => exact .bool b
  | number x => exact .number x
  | string s => exact .string s
  | object related => exact .object (weaker _ _ related)
  | function name => exact .function name
  | native name => exact .native name

/-- The properties of an object. -/
abbrev propertiesOf (objects : Objects) (id : ObjectId) : Table Value :=
  objects.getD id.index .empty

/-- A relation between sites under which everything that can be printed is related. -/
structure Correspondence (objects objects' : Objects)
    (R : (path path' : List ObjectId) → ObjectId → ObjectId → Prop) : Prop where
  enclosed : ∀ {path path' a b}, R path path' a b → (a ∈ path ↔ b ∈ path')
  opened : ∀ {path path' a b}, R path path' a b → ∀ key,
    Option.Rel (LooksLike (R (a :: path) (b :: path')))
      ((propertiesOf objects a).get? key) ((propertiesOf objects' b).get? key)

/-- The text of an object at a site, given what is written of its values one level deeper. -/
theorem displayAt_object (objects : Objects) (budget : Nat) (path : List ObjectId)
    (id : ObjectId) :
    displayAt objects budget path (.object id) =
      if (propertiesOf objects id).entries.isEmpty then "\x7b\x7d"
      else if id ∈ path then elided
      else match budget with
        | 0 => elided
        | budget + 1 =>
          braced ((propertiesOf objects id).entries.map fun entry =>
            entry.1 ++ ": " ++ displayAt objects budget (id :: path) entry.2) := by
  cases budget with
  | zero => simp only [displayAt, List.contains_iff_mem, propertiesOf]
  | succ budget => simp only [displayAt, List.contains_iff_mem, propertiesOf]

namespace Correspondence

variable {objects objects' : Objects}
  {R : (path path' : List ObjectId) → ObjectId → ObjectId → Prop}

/-- The entries of corresponding objects, place by place. -/
theorem entries (h : Correspondence objects objects' R) {path path' : List ObjectId}
    {a b : ObjectId} (related : R path path' a b) :
    List.Forall₂ (fun x y => x.1 = y.1 ∧ LooksLike (R (a :: path) (b :: path')) x.2 y.2)
      (propertiesOf objects a).entries (propertiesOf objects' b).entries :=
  (Entries.rel_iff_forall₂ (Table.sorted _) (Table.sorted _)).1 (h.opened related)

/-- Corresponding sites have the same text, however many objects may be opened there. -/
theorem displayAt_eq (h : Correspondence objects objects' R) (budget : Nat)
    {path path' : List ObjectId} (depth : path'.isEmpty = path.isEmpty) {v w : Value}
    (looks : LooksLike (R path path') v w) :
    w.displayAt objects' budget path' = v.displayAt objects budget path := by
  cases looks with
  | @object a b related =>
    have entries := h.entries related
    simp only [displayAt_object, isEmpty_eq_of_forall₂ entries, h.enclosed related]
    cases budget with
    | zero => rfl
    | succ budget =>
      have texts : ∀ x y : String × Value,
          x.1 = y.1 ∧ LooksLike (R (a :: path) (b :: path')) x.2 y.2 →
          y.1 ++ ": " ++ y.2.displayAt objects' budget (b :: path') =
            x.1 ++ ": " ++ x.2.displayAt objects budget (a :: path) := by
        intro x y same
        have depth : (b :: path').isEmpty = (a :: path).isEmpty := rfl
        rw [same.1, h.displayAt_eq budget depth same.2]
      dsimp only
      rw [map_eq_of_forall₂ entries texts]
  | string s => cases budget <;> simp only [displayAt, depth]
  | function name => cases budget <;> simp only [displayAt, name]
  | native name => cases budget <;> simp only [displayAt, name]
  | _ => cases budget <;> simp only [displayAt]

end Correspondence

end Value

end SloScript
