import SloScript.Proofs.Sites

/-!
# Printing on one page

The text of a value is written piece by piece on a page, behind all that stands there already. While
an object is being written it is on the path of the page, and it leaves the path when its closing
brace is due. All objects share this one path: nothing but the order of entering and leaving says
which object is inside which. Nothing gets smaller in the recursion either, as objects may hold
themselves. So the recursion is cut off at a given depth, and a printout that goes deeper is given
up with no answer (`none`).

What keeps a printout finite is the path. An object is opened only if it is not on the path and the
path is not full, so the path is shorter than its limit at each opening, and has no object twice.
What keeps the places apart is that each value leaves the path as it has found it. Then what is
written of a value is its text at that place: it depends on the path, and not on what has been
written before.

Results:
1. `printValue_eq`: printing a value ends, adds its text at that place and restores the path.
2. `openings_proper`: objects are opened at most sixteen deep and none inside itself.
3. `Renaming.display_eq`: a text does not show which object is which.
4. `print_finite_nameless`: all of this together.
-/

namespace SloScript

open Value (LooksLike Correspondence propertiesOf displayAt displayAt_object displayDepth elided)

/-! ## The page -/

/-- What values are printed on. -/
structure Page where
  /-- What has been written. -/
  text : String
  /-- The objects that are being written, the outermost first. -/
  path : Array ObjectId
  /-- The path after each opening of an object, in the order of the openings. -/
  opened : List (Array ObjectId)

namespace Page

/-- The page before anything is written. -/
def blank : Page := ⟨"", #[], []⟩

/-- Writes a text behind the others. -/
def write (s : String) (page : Page) : Page := { page with text := page.text ++ s }

/-- Goes into an object. -/
def enter (id : ObjectId) (page : Page) : Page :=
  { page with path := page.path.push id, opened := page.opened ++ [page.path.push id] }

/-- Comes out of the innermost object. -/
def leave (page : Page) : Page := { page with path := page.path.pop }

/-- Starts an entry with its key, behind a comma unless it is the first one. -/
def startEntry (i : Nat) (key : String) (page : Page) : Page :=
  if i > 0 then ((page.write ", ").write key).write ": " else (page.write key).write ": "

end Page

/-- A way of printing values. It turns a page into the next one, or is given up. -/
abbrev Printer := Value → Page → Option Page

/-- Prints the entries of an object from the `i`-th one on. -/
def printEntries (value : Printer) (i : Nat) : List (String × Value) → Page → Option Page
  | [], page => some page
  | entry :: rest, page => do
    let page ← value entry.2 (page.startEntry i entry.1)
    printEntries value (i + 1) rest page

/-- Prints an object, or a hint at it if it is on the path already or the path is full. -/
def printObject (objects : Objects) (value : Printer) (id : ObjectId) (page : Page) :
    Option Page :=
  let entries := (propertiesOf objects id).entries
  if entries.isEmpty then some (page.write "\x7b\x7d")
  else if page.path.size ≥ displayDepth || page.path.contains id then some (page.write elided)
  else do
    let page ← printEntries value 0 entries ((page.enter id).write "\x7b ")
    return page.leave.write " \x7d"

/-- Prints a value, in a recursion to the given depth. A text stands for itself unless it is inside
of an object. -/
def printValue (objects : Objects) : (depth : Nat) → Printer
  | 0, _, _ => none
  | _ + 1, .null, page => some (page.write "null")
  | _ + 1, .bool b, page => some (page.write (if b then "true" else "false"))
  | _ + 1, .number x, page => some (page.write (Value.numberLayout.write x))
  | _ + 1, .string s, page => some (page.write (if page.path.isEmpty then s else Text.quoted s))
  | _ + 1, .function c, page => some (page.write ("<funkcija " ++ c.name ++ ">"))
  | _ + 1, .native n, page => some (page.write ("<native funkcija " ++ n.name ++ ">"))
  | depth + 1, .object id, page => printObject objects (printValue objects depth) id page

/-- Prints a value on a blank page. -/
def print (objects : Objects) (depth : Nat) (v : Value) : Option String :=
  (printValue objects depth v .blank).map Page.text

/-! ## One value after the other -/

/-- The objects around a place, the innermost first. -/
def around (path : Array ObjectId) : List ObjectId := path.toList.reverse

@[simp]
theorem around_push (path : Array ObjectId) (id : ObjectId) :
    around (path.push id) = id :: around path := by
  simp [around]

@[simp]
theorem mem_around {path : Array ObjectId} {id : ObjectId} : id ∈ around path ↔ id ∈ path := by
  simp [around]

/-- The paths at which a value opens objects, at a place where `budget` more may be opened. -/
def openings (objects : Objects) : (budget : Nat) → (path : Array ObjectId) → Value →
    List (Array ObjectId)
  | budget + 1, path, .object id =>
    let entries := (propertiesOf objects id).entries
    if entries.isEmpty || path.contains id then []
    else path.push id :: entries.flatMap fun entry =>
      openings objects budget (path.push id) entry.2
  | _, _, _ => []

namespace Page

/-- The page with a value printed on it, at a place where `budget` more objects may be opened. -/
def after (objects : Objects) (budget : Nat) (v : Value) (page : Page) : Page where
  text := page.text ++ displayAt objects budget (around page.path) v
  path := page.path
  opened := page.opened ++ openings objects budget page.path v

end Page

/-- Texts with commas between them, and one in front of them unless they come first. -/
def listed (i : Nat) (texts : List String) : String :=
  if i > 0 then String.join (texts.map (", " ++ ·)) else String.intercalate ", " texts

theorem listed_nil (i : Nat) : listed i [] = "" := by
  unfold listed
  split <;> rfl

theorem listed_cons (i : Nat) (text : String) (texts : List String) :
    listed i (text :: texts) = (if i > 0 then ", " else "") ++ text ++ listed (i + 1) texts := by
  unfold listed
  rw [if_pos (Nat.succ_pos i)]
  split
  · rw [List.map_cons, String.join_cons]
  · rw [Text.intercalate_cons, String.empty_append]

namespace Page

variable {objects : Objects}

theorem startEntry_eq (i : Nat) (key : String) (page : Page) :
    page.startEntry i key = page.write ((if i > 0 then ", " else "") ++ (key ++ ": ")) := by
  unfold startEntry
  split <;> simp [write, String.append_assoc]

end Page

section

variable {objects : Objects} {budget : Nat}

/-- If each value is printed as it should be where an object is open, so are the entries. -/
theorem printEntries_eq {value : Printer} {path : Array ObjectId}
    (values : ∀ v page, page.path = path → value v page = some (page.after objects budget v))
    (entries : List (String × Value)) (i : Nat) (page : Page) (inside : page.path = path) :
    printEntries value i entries page = some
      { text := page.text ++ listed i (entries.map fun entry =>
          entry.1 ++ ": " ++ displayAt objects budget (around path) entry.2)
        path := path
        opened := page.opened ++ entries.flatMap fun entry =>
          openings objects budget path entry.2 } := by
  induction entries generalizing i page with
  | nil =>
    subst inside
    simp [printEntries, listed_nil]
  | cons entry rest ih =>
    subst inside
    have first := values entry.2 (page.startEntry i entry.1) (Page.startEntry_eq .. ▸ rfl)
    rw [printEntries, first, Page.startEntry_eq]
    refine (ih (i + 1) (.after objects budget entry.2 (page.write _)) rfl).trans ?_
    simp only [Page.after, Page.write, List.map_cons, listed_cons, List.flatMap_cons,
      String.append_assoc, List.append_assoc]

theorem object_or_plain (v : Value) : (∃ id, v = .object id) ∨ ∀ id, v ≠ .object id := by
  cases v with
  | object id => exact .inl ⟨id, rfl⟩
  | _ => exact .inr fun _ => nofun

/-- What does not refer to an object is written as it is. -/
theorem printValue_plain {v : Value} (plain : ∀ id, v ≠ .object id) (depth : Nat) (page : Page) :
    printValue objects (depth + 1) v page = some (page.after objects budget v) := by
  have quotes : (around page.path).isEmpty = page.path.isEmpty := by simp [around]
  cases v with
  | object id => exact absurd rfl (plain id)
  | _ => simp [printValue, Page.after, Page.write, displayAt, openings, quotes]

/-- An object is not opened if it has no properties or encloses itself. -/
theorem openings_eq_nil {id : ObjectId} {path : Array ObjectId}
    (closed : (propertiesOf objects id).entries.isEmpty = true ∨ id ∈ path) :
    openings objects budget path (.object id) = [] := by
  cases budget with
  | zero => rfl
  | succ budget =>
    rw [openings]
    refine if_pos ?_
    rwa [Bool.or_eq_true, Array.contains_iff_mem]

/-- Where an object is opened, its entries are written inside of it, between braces. -/
theorem printObject_eq {value : Printer} (id : ObjectId) (page : Page)
    (room : displayDepth - page.path.size = budget)
    (inner : ∀ below, budget = below + 1 → ∀ v inside, inside.path = page.path.push id →
      value v inside = some (inside.after objects below v)) :
    printObject objects value id page = some (page.after objects budget (.object id)) := by
  rw [printObject, Page.after, displayAt_object]
  simp only [mem_around]
  by_cases empty : (propertiesOf objects id).entries.isEmpty = true
  · rw [if_pos empty, if_pos empty, openings_eq_nil (.inl empty), List.append_nil, Page.write]
  rw [if_neg empty, if_neg empty]
  by_cases onPath : id ∈ page.path
  · simp [onPath, openings_eq_nil (.inr onPath), Page.write]
  cases budget with
  | zero =>
    have full : page.path.size ≥ displayDepth := Nat.le_of_sub_eq_zero room
    simp [onPath, full, openings, Page.write]
  | succ budget =>
    have opens : ¬((propertiesOf objects id).entries.isEmpty || page.path.contains id) = true := by
      rw [Bool.or_eq_true, Array.contains_iff_mem]
      exact not_or.2 ⟨empty, onPath⟩
    have fits : ¬(decide (page.path.size ≥ displayDepth) || page.path.contains id) = true := by
      rw [Bool.or_eq_true, decide_eq_true_iff, Array.contains_iff_mem]
      exact not_or.2 ⟨by omega, onPath⟩
    rw [if_neg fits, printEntries_eq (inner budget rfl) _ 0 _ rfl, if_neg onPath, openings,
      if_neg opens]
    simp [Page.write, Page.enter, Page.leave, listed, Value.braced, String.append_assoc]

/-- Printing a value ends. What it adds is the text of the value at the place where the page is,
whatever has been written before, and the path is then as it was. -/
theorem printValue_eq (v : Value) (page : Page) (room : displayDepth - page.path.size = budget)
    {depth : Nat} (enough : budget < depth) :
    printValue objects depth v page = some (page.after objects budget v) := by
  induction depth generalizing budget v page with
  | zero => cases enough
  | succ depth ih =>
    rcases object_or_plain v with ⟨id, rfl⟩ | plain
    · refine printObject_eq id page room fun below is v inside path => ih v inside ?_ (by omega)
      rw [path, Array.size_push]
      omega
    · exact printValue_plain plain depth page

/-! ## How deep objects are opened -/

/-- A path with no object on it twice, and none without properties. -/
structure ProperPath (objects : Objects) (path : Array ObjectId) : Prop where
  nodup : path.toList.Nodup
  nonempty : ∀ id ∈ path, (propertiesOf objects id).entries ≠ []

theorem ProperPath.push {path : Array ObjectId} (h : ProperPath objects path) {id : ObjectId}
    (fresh : id ∉ path) (nonempty : (propertiesOf objects id).entries ≠ []) :
    ProperPath objects (path.push id) where
  nodup := by
    rw [Array.toList_push, List.perm_append_comm.nodup_iff]
    exact List.nodup_cons.2 ⟨mt Array.mem_toList_iff.1 fresh, h.nodup⟩
  nonempty other member := by
    rcases Array.mem_push.1 member with old | rfl
    · exact h.nonempty other old
    · exact nonempty

/-- Opening objects keeps the path proper, and makes it longer by no more than there is room for. -/
theorem openings_proper {path opened : Array ObjectId} {v : Value}
    (proper : ProperPath objects path) (member : opened ∈ openings objects budget path v) :
    ProperPath objects opened ∧ opened.size ≤ path.size + budget := by
  induction budget generalizing path v with
  | zero => cases member
  | succ budget ih =>
    rcases object_or_plain v with ⟨id, rfl⟩ | plain
    · rw [openings] at member
      split at member
      · cases member
      next opens =>
      rw [Bool.or_eq_true, not_or, List.isEmpty_iff, Array.contains_iff_mem] at opens
      have deeper := proper.push opens.2 opens.1
      rcases List.mem_cons.1 member with rfl | inside
      · exact ⟨deeper, by rw [Array.size_push]; omega⟩
      · obtain ⟨entry, _, below⟩ := List.mem_flatMap.1 inside
        obtain ⟨still, bound⟩ := ih deeper below
        exact ⟨still, by rw [Array.size_push] at bound; omega⟩
    · cases v with
      | object id => exact absurd rfl (plain id)
      | _ => cases member

end

/-! ## Other names for the objects -/

/-- Other names for some objects, no two of which come to have the same one, and a store where what
they hold is found under the new names. -/
structure Renaming (objects objects' : Objects) where
  renamed : ObjectId → Prop
  name : ObjectId → ObjectId
  injective : ∀ {a b}, renamed a → renamed b → name a = name b → a = b
  carries : ∀ {id}, renamed id → ∀ key,
    Option.Rel (LooksLike fun a b => renamed a ∧ b = name a)
      ((propertiesOf objects id).get? key) ((propertiesOf objects' (name id)).get? key)

namespace Renaming

variable {objects objects' : Objects} (ρ : Renaming objects objects')

/-- A value and what it is under the new names. -/
abbrev Renames : Value → Value → Prop := LooksLike fun a b => ρ.renamed a ∧ b = ρ.name a

/-- Objects correspond to themselves under new names inside of others under theirs. -/
theorem correspondence :
    Correspondence objects objects' fun path path' a b =>
      (∀ id ∈ path, ρ.renamed id) ∧ path' = path.map ρ.name ∧ ρ.renamed a ∧ b = ρ.name a where
  enclosed {path _ a _} := by
    rintro ⟨path, rfl, inside, rfl⟩
    refine ⟨List.mem_map_of_mem, fun member => ?_⟩
    obtain ⟨id, onPath, same⟩ := List.mem_map.1 member
    exact ρ.injective (path id onPath) inside same ▸ onPath
  opened {path _ a _} := by
    rintro ⟨path, rfl, inside, rfl⟩ key
    refine rel_mono (fun v w renames => ?_) (ρ.carries inside key)
    refine renames.mono fun id id' same => ?_
    exact ⟨List.forall_mem_cons.2 ⟨inside, path⟩, rfl, same⟩

/-- A text does not show the names under which objects are stored. -/
theorem display_eq {v w : Value} (renames : ρ.Renames v w) :
    w.display objects' = v.display objects :=
  ρ.correspondence.displayAt_eq displayDepth rfl (renames.mono fun _ _ same => ⟨nofun, rfl, same⟩)

end Renaming

/-- Every value is printed on every page in finitely many steps, on any graph of objects, in a
recursion that is not deeper than the number of objects that may still be opened.

What is added is the text of the value at the place where the page is. It depends on the objects
that are being written there and on nothing that has been written before, and they are the same
afterwards. Objects are opened at most sixteen deep, only if they have properties, and none inside
itself. And if the objects of one store are found in another one under other names, all different,
then the same is printed of them. -/
theorem print_finite_nameless (objects : Objects) (v : Value) :
    (∀ depth > displayDepth, print objects depth v = some (v.display objects)) ∧
    (∀ page : Page, ∃ opened : List (Array ObjectId),
      (∀ depth > displayDepth - page.path.size, printValue objects depth v page = some
        { text := page.text ++
            displayAt objects (displayDepth - page.path.size) (around page.path) v
          path := page.path
          opened := page.opened ++ opened }) ∧
      (ProperPath objects page.path → page.path.size ≤ displayDepth →
        ∀ path ∈ opened, ProperPath objects path ∧ path.size ≤ displayDepth)) ∧
    ∀ (objects' : Objects) (ρ : Renaming objects objects') (w : Value), ρ.Renames v w →
      ∀ depth > displayDepth, print objects' depth w = print objects depth v := by
  have text (objects : Objects) (v : Value) (depth : Nat) (enough : depth > displayDepth) :
      print objects depth v = some (v.display objects) := by
    rw [print, printValue_eq v .blank rfl enough]
    exact congrArg some String.empty_append
  refine ⟨text objects v, fun page => ⟨_, fun _ => printValue_eq v page rfl, ?_⟩, ?_⟩
  · intro proper room path member
    obtain ⟨still, bound⟩ := openings_proper proper member
    exact ⟨still, by omega⟩
  · intro objects' ρ w renames depth enough
    rw [text _ _ _ enough, text _ _ _ enough, ρ.display_eq renames]

/-- Two objects that hold each other, stored the other way round. -/
theorem print_finite_nameless_swapped :
    let first (next : Nat) : Table Value :=
      .ofList [("name", .string "first"), ("next", .object ⟨next⟩)]
    let second (next : Nat) : Table Value := .ofList [("next", .object ⟨next⟩)]
    let objects : Objects := #[first 1, second 0]
    let objects' : Objects := #[second 1, first 0]
    print objects 17 (.object ⟨0⟩) =
        some "\x7b name: \"first\", next: \x7b next: \x7b ... \x7d \x7d \x7d" ∧
      print objects' 17 (.object ⟨1⟩) = print objects 17 (.object ⟨0⟩) := by
  intro first second objects objects'
  obtain ⟨text, -, nameless⟩ := print_finite_nameless objects (.object ⟨0⟩)
  have carries : ∀ {id : ObjectId}, id.index < 2 → ∀ key,
      Option.Rel (LooksLike fun a b => a.index < 2 ∧ b = ⟨1 - a.index⟩)
        ((propertiesOf objects id).get? key) ((propertiesOf objects' ⟨1 - id.index⟩).get? key) := by
    intro id inside
    refine (Entries.rel_iff_forall₂ (Table.sorted _) (Table.sorted _)).2 ?_
    rcases id with ⟨_ | _ | index⟩
    · exact .cons ⟨rfl, .string "first"⟩ (.cons ⟨rfl, .object ⟨by decide, rfl⟩⟩ .nil)
    · exact .cons ⟨rfl, .object ⟨by decide, rfl⟩⟩ .nil
    · exact absurd inside (by simp)
  have injective : ∀ {a b : ObjectId}, a.index < 2 → b.index < 2 →
      (⟨1 - a.index⟩ : ObjectId) = ⟨1 - b.index⟩ → a = b := by
    rintro ⟨a⟩ ⟨b⟩ left right same
    simp only [ObjectId.mk.injEq] at left right same ⊢
    omega
  let swap : Renaming objects objects' :=
    ⟨fun id => id.index < 2, fun id => ⟨1 - id.index⟩, injective, carries⟩
  refine ⟨(text 17 (by decide)).trans ?_, ?_⟩
  · decide +kernel
  · exact nameless objects' swap _ (.object ⟨Nat.two_pos, rfl⟩) 17 (by decide)

end SloScript
