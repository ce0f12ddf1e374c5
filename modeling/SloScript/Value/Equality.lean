import SloScript.Value

/-!
# Equality of object graphs

Two values are *alike* when they cannot be told apart by reading properties: plain values and
functions when they are the same, objects when they have the same keys with alike values. The test
works off a list of pairs. A pair of objects that has been opened once is taken as alike from then
on: if it is not, the difference is found elsewhere in the list and the whole test fails. Since
there are finitely many pairs, the test ends on cyclic graphs too.
-/

namespace SloScript

namespace Value

/-- The pairs of objects of a store that are not among the assumed ones. -/
def openPairs (count : Nat) (assumed : List (ObjectId × ObjectId)) : List (Nat × Nat) :=
  ((List.range count).flatMap fun a => (List.range count).map fun b => (a, b)).filter fun pair =>
    !assumed.contains (⟨pair.1⟩, ⟨pair.2⟩)

/-- Assuming one more pair leaves fewer open ones. -/
theorem openPairs_length_lt {count : Nat} {assumed : List (ObjectId × ObjectId)} {a b : ObjectId}
    (aLess : a.index < count) (bLess : b.index < count) (fresh : (a, b) ∉ assumed) :
    (openPairs count ((a, b) :: assumed)).length < (openPairs count assumed).length := by
  unfold openPairs
  generalize pairsEq :
    ((List.range count).flatMap fun a => (List.range count).map fun b => (a, b)) = pairs
  have member : (a.index, b.index) ∈ pairs := by
    subst pairsEq
    simp [aLess, bLess]
  clear pairsEq
  have weaker : ∀ pair : Nat × Nat,
      (!((a, b) :: assumed).contains (⟨pair.1⟩, ⟨pair.2⟩)) = true →
        (!assumed.contains ((⟨pair.1⟩ : ObjectId), (⟨pair.2⟩ : ObjectId))) = true := by
    intro pair
    simp
  induction pairs with
  | nil => simp at member
  | cons head rest ih =>
    have monotone : (rest.filter fun pair =>
          !((a, b) :: assumed).contains (⟨pair.1⟩, ⟨pair.2⟩)).length ≤
        (rest.filter fun pair => !assumed.contains (⟨pair.1⟩, ⟨pair.2⟩)).length := by
      clear ih member
      induction rest with
      | nil => simp
      | cons next rest ih =>
        have step := weaker next
        simp only [List.filter_cons]
        split
        · rename_i kept
          rw [if_pos (step kept)]
          simpa using ih
        · split
          · simp only [List.length_cons]
            omega
          · exact ih
    rcases List.mem_cons.1 member with here | later
    · have dropped : (!((a, b) :: assumed).contains
          ((⟨head.1⟩ : ObjectId), (⟨head.2⟩ : ObjectId))) = false := by
        simp [← here]
      have kept : (!assumed.contains ((⟨head.1⟩ : ObjectId), (⟨head.2⟩ : ObjectId))) = true := by
        simpa [← here] using fresh
      simp only [List.filter_cons, dropped, kept]
      simp only [Bool.false_eq_true, if_false, if_true, List.length_cons]
      omega
    · have inRest := ih later
      have step := weaker head
      simp only [List.filter_cons]
      split
      · rename_i kept
        rw [if_pos (step kept)]
        simpa using inRest
      · split
        · simp only [List.length_cons]
          omega
        · exact inRest

/-- Whether all pairs still to be compared are alike, given the pairs of objects assumed so. -/
def alikeFrom (objects : Objects) (assumed : List (ObjectId × ObjectId)) :
    List (Value × Value) → Bool
  | [] => true
  | (.object a, .object b) :: todo =>
    if a = b then alikeFrom objects assumed todo
    else if seen : (a, b) ∈ assumed then alikeFrom objects assumed todo
    else if inside : a.index < objects.size ∧ b.index < objects.size then
      let left := objects.getD a.index .empty
      let right := objects.getD b.index .empty
      have := openPairs_length_lt inside.1 inside.2 seen
      if left.keys = right.keys then
        alikeFrom objects ((a, b) :: assumed) (left.values.zip right.values ++ todo)
      else false
    else false
  | (a, b) :: todo => a.same b && alikeFrom objects assumed todo
termination_by todo => ((openPairs objects.size assumed).length, todo.length)
decreasing_by
  · exact Prod.Lex.right _ (by simp)
  · exact Prod.Lex.right _ (by simp)
  · exact Prod.Lex.left _ _ this
  · exact Prod.Lex.right _ (by simp)

/-- Whether two values are alike, objects being compared by what they hold. -/
def alike (objects : Objects) (a b : Value) : Bool :=
  alikeFrom objects [] [(a, b)]

end Value

end SloScript
