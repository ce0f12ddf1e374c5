import SloScript.Text.Cluster

/-!
# Erasure

A line that was typed may hold backspaces. Each of them takes back what was typed last and is not
taken back yet, a whole cluster at a time; with nothing left to take back it does nothing.
-/

namespace SloScript.Text

/-- The character that takes back the cluster before it. -/
def backspace : Char := Char.ofNat 8

/-- The number of bytes that characters take up. -/
def byteCount : List Char → Nat
  | [] => 0
  | c :: cs => c.utf8Size + byteCount cs

/-- Sizes of clusters are counted modulo this number, so that each fits into one byte. -/
def sizeModulus : Nat := 256

/-- A line while it is typed. -/
structure Typing where
  /-- The characters that stand, the last one first. -/
  written : List Char
  /-- The sizes of the clusters that can be taken back, the last one first. -/
  sizes : List Nat

namespace Typing

/-- Nothing typed yet. -/
def empty : Typing := ⟨[], []⟩

/-- Characters without the first `count` bytes; a character goes as a whole. -/
def dropBytes (count : Nat) : List Char → List Char
  | [] => []
  | c :: cs => if count = 0 then c :: cs else dropBytes (count - c.utf8Size) cs

/-- Types one more cluster. -/
def enter (t : Typing) (cluster : List Char) : Typing :=
  if cluster = [backspace] then
    match t.sizes with
    | [] => t
    | size :: sizes => ⟨dropBytes size t.written, sizes⟩
  else ⟨cluster.reverse ++ t.written, byteCount cluster % sizeModulus :: t.sizes⟩

/-- Clusters that are no backspaces are written one after the other. -/
theorem written_foldl_enter (t : Typing) (typed : List (List Char))
    (noBackspace : [backspace] ∉ typed) :
    (typed.foldl enter t).written = typed.flatten.reverse ++ t.written := by
  induction typed generalizing t with
  | nil => simp
  | cons cluster rest ih =>
    obtain ⟨here, later⟩ := not_or.1 (fun h => noBackspace (List.mem_cons.2 h))
    have kept : (t.enter cluster).written = cluster.reverse ++ t.written := by
      simp [enter, Ne.symm here]
    simp [ih (t.enter cluster) later, kept]

end Typing

/-- The characters that are left when every backspace has done its work. -/
def erasedChars (cs : List Char) : List Char :=
  ((clusters cs).foldl Typing.enter .empty).written.reverse

/-- Without a backspace a line stays as it is. -/
theorem erasedChars_of_not_mem {cs : List Char} (absent : backspace ∉ cs) :
    erasedChars cs = cs := by
  have noBackspace : [backspace] ∉ clusters cs := by
    intro present
    apply absent
    rw [← flatten_clusters cs]
    exact List.mem_flatten.2 ⟨[backspace], present, List.mem_singleton_self _⟩
  simp [erasedChars, Typing.written_foldl_enter _ _ noBackspace, Typing.empty, flatten_clusters]

/-- The line that is left when every backspace has done its work. -/
def erased (line : String) : String :=
  if line.contains backspace then String.ofList (erasedChars line.toList) else line

end SloScript.Text
