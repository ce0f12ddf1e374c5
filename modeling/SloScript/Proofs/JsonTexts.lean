import SloScript.Json
import SloScript.Proofs.NumberTexts

/-!
# A document is determined by its text

Documents can be told apart by their texts, whatever their strings contain. A text says where it
ends: literals and brackets are written in one way, a string ends with the first quote that is not
escaped, and a number ends where a character comes that no number has. Inside brackets an item is
followed by a comma or by a line feed, so there is one way to read on. Only the depth of the lines
has to be known, which is the same for all that stands in one place.

Documents with numbers that are infinite or undefined are left out, because those are written like
the absence of a value.

Results:
1. `string_cancel`: strings are told by their quoted texts.
2. `numeral_cancel`: so are whole numbers and finite floating-point ones.
3. `eq_of_pretty`: documents with the same text are the same.
-/

namespace SloScript

namespace Json

/-! ## Strings -/

/-- The value of a digit in base sixteen. -/
def hexValue (c : Char) : Nat := if c.isDigit then c.toNat - '0'.toNat else c.toNat - 'a'.toNat + 10

/-- The character that a string continues with, and what follows. There is none before the closing
quote. -/
def nextChar? : List Char → Option (Char × List Char)
  | [] | '"' :: _ => none
  | '\\' :: 'n' :: rest => some ('\n', rest)
  | '\\' :: 'r' :: rest => some ('\r', rest)
  | '\\' :: 't' :: rest => some ('\t', rest)
  | '\\' :: 'b' :: rest => some (Char.ofNat 8, rest)
  | '\\' :: 'f' :: rest => some (Char.ofNat 12, rest)
  | '\\' :: 'u' :: '0' :: '0' :: high :: low :: rest =>
    some (Char.ofNat (16 * hexValue high + hexValue low), rest)
  | '\\' :: c :: rest => some (c, rest)
  | c :: rest => some (c, rest)

/-- The two digits of a control character in base sixteen. -/
theorem toList_control : ∀ n < 32,
    ("\\u00" ++ (if n < 16 then "0" else "") ++ Text.hex n).toList =
      ['\\', 'u', '0', '0', (n / 16).digitChar, (n % 16).digitChar] := by
  decide +kernel

theorem hexValue_digitChar : ∀ n < 16, hexValue n.digitChar = n := by
  decide

/-- Escaping a character loses nothing. -/
theorem nextChar?_escapedChar (c : Char) (rest : List Char) :
    nextChar? ((escapedChar c).toList ++ rest) = some (c, rest) := by
  unfold escapedChar
  split
  · next is => exact is ▸ rfl
  split
  · next is => exact is ▸ rfl
  split
  · next is => exact is ▸ rfl
  split
  · next is => exact is ▸ rfl
  split
  · next is => exact is ▸ rfl
  split
  · next is => rw [← Char.ofNat_toNat c, is]; rfl
  split
  · next is => rw [← Char.ofNat_toNat c, is]; rfl
  split
  · next control =>
    rw [toList_control _ control]
    show some (Char.ofNat (16 * hexValue _ + hexValue _), rest) = _
    rw [hexValue_digitChar _ (by omega), hexValue_digitChar _ (by omega), Nat.div_add_mod,
      Char.ofNat_toNat]
  · next quote escape _ _ _ _ _ _ =>
    have itself : c.toString.toList = [c] := String.toList_singleton c
    rw [itself, List.singleton_append, nextChar?]
    all_goals intros; contradiction

/-- The characters between the quotes of a string. -/
def escaped (cs : List Char) : List Char := cs.flatMap fun c => (escapedChar c).toList

theorem toList_quoted (s : String) : (quoted s).toList = '"' :: (escaped s.toList ++ ['"']) := by
  simp [quoted, escaped, List.flatMap_def, Function.comp_def]

/-- A string ends with the first quote that is not escaped. -/
theorem escaped_cancel {cs cs' rest rest' : List Char}
    (same : escaped cs ++ '"' :: rest = escaped cs' ++ '"' :: rest') : cs = cs' ∧ rest = rest' := by
  have next (c : Char) (cs rest : List Char) :
      nextChar? (escaped (c :: cs) ++ '"' :: rest) = some (c, escaped cs ++ '"' :: rest) := by
    rw [escaped, List.flatMap_cons, List.append_assoc]
    exact nextChar?_escapedChar c _
  induction cs generalizing cs' with
  | nil =>
    cases cs' with
    | nil => exact ⟨rfl, (List.cons.inj same).2⟩
    | cons c' cs' =>
      have read := congrArg nextChar? same
      rw [next] at read
      cases read
  | cons c cs ih =>
    cases cs' with
    | nil =>
      have read := congrArg nextChar? same
      rw [next] at read
      cases read
    | cons c' cs' =>
      have read := congrArg nextChar? same
      rw [next, next] at read
      obtain ⟨rfl, tails⟩ := Prod.mk.inj (Option.some.inj read)
      obtain ⟨rfl, rests⟩ := ih tails
      exact ⟨rfl, rests⟩

/-- Strings can be told by their quoted texts, whatever follows. -/
theorem string_cancel {s s' : String} {rest rest' : List Char}
    (same : (quoted s).toList ++ rest = (quoted s').toList ++ rest') : s = s' ∧ rest = rest' := by
  rw [toList_quoted, toList_quoted] at same
  simp only [List.cons_append, List.append_assoc, List.nil_append] at same
  obtain ⟨chars, rests⟩ := escaped_cancel (List.cons.inj same).2
  exact ⟨String.toList_inj.1 chars, rests⟩

/-! ## Numbers -/

/-- The characters that numbers are written with. -/
def isNumeralChar (c : Char) : Bool := c.isDigit || c == '.' || c == 'e' || c == '+' || c == '-'

/-- What follows a value goes on with no character of a number. -/
def Ends (rest : List Char) : Prop := ∀ c ∈ rest.head?, isNumeralChar c = false

theorem ends_nil : Ends [] := nofun

theorem isNumeralChar_of_isDigit {c : Char} (digit : c.isDigit = true) :
    isNumeralChar c = true := by
  simp [isNumeralChar, digit]

theorem isNumeralChar_of_mem_chars {n : Numeral} (proper : n.Proper) {c : Char}
    (member : c ∈ n.chars) : isNumeralChar c = true := by
  rcases List.mem_append.1 member with whole | rest
  · exact isNumeralChar_of_isDigit (proper.whole c whole)
  rcases List.mem_append.1 rest with fraction | power
  · cases is : n.fraction with
    | none =>
      rw [is] at fraction
      cases fraction
    | some digits =>
      rw [is] at fraction
      rcases List.mem_cons.1 fraction with rfl | digit
      · rfl
      · exact isNumeralChar_of_isDigit (proper.fraction digits is c digit)
  · cases is : n.power with
    | none =>
      rw [is] at power
      cases power
    | some k =>
      rw [is] at power
      rcases List.mem_cons.1 power with rfl | power
      · rfl
      rcases List.mem_cons.1 power with rfl | digit
      · split <;> rfl
      · exact isNumeralChar_of_isDigit (Layout.isDigit_of_mem_digits digit)

theorem toList_toString (n : Nat) : (toString n).toList = Nat.toDigits 10 n := Nat.toList_repr

theorem isNumeralChar_of_mem_toString {n : Nat} {c : Char} (member : c ∈ (toString n).toList) :
    isNumeralChar c = true :=
  isNumeralChar_of_isDigit (Layout.isDigit_of_mem_digits (toList_toString n ▸ member))

/-- A number shows in its text that it is not a whole one. -/
theorem numeral_not_whole (d : Decimal) :
    ∃ c ∈ (numberLayout.numeral d).chars, c.isDigit = false := by
  have point {whole digits : List Char} {power : Option Int} :
      ∃ c ∈ (Numeral.mk whole (some digits) power).chars, c.isDigit = false :=
    ⟨'.', by simp [Numeral.chars, Numeral.fractionChars], rfl⟩
  unfold Layout.numeral
  dsimp only
  split
  · unfold Layout.positionalNumeral
    dsimp only
    split
    · exact point
    split
    · exact point
    · exact point
  · exact ⟨'e', by simp [Layout.scientificNumeral, Numeral.chars, Numeral.powerChars], rfl⟩

section

variable {x y : Float} {n n' : Nat} {rest rest' : List Char}

theorem write_shape (finite : Binary.isFinite x = true) :
    (∃ c cs, (numberLayout.write x).toList = c :: cs ∧ (c.isDigit = true ∨ c = '-')) ∧
      (∀ c ∈ (numberLayout.write x).toList, isNumeralChar c = true) ∧
      ∃ c ∈ (numberLayout.write x).toList, c.isDigit = false := by
  obtain ⟨negative, m, e, parts⟩ := Layout.exists_of_isFinite finite
  have proper := numberLayout.proper_numeral (numberLayout.digits m e)
  obtain ⟨c, cs, starts, digit⟩ := proper.starts
  obtain ⟨d, member, other⟩ := numeral_not_whole (numberLayout.digits m e)
  rw [Layout.toList_write _ parts]
  refine ⟨?_, fun c member => ?_, d, List.mem_append_right _ member, other⟩
  · cases negative with
    | false => exact ⟨c, cs, starts, .inl digit⟩
    | true => exact ⟨'-', _, rfl, .inr rfl⟩
  · rcases List.mem_append.1 member with sign | inNumeral
    · cases negative with
      | false => cases sign
      | true =>
        rw [List.mem_singleton.1 sign]
        rfl
    · exact isNumeralChar_of_mem_chars proper inNumeral

theorem nat_cancel (ends : Ends rest) (ends' : Ends rest')
    (same : (toString n).toList ++ rest = (toString n').toList ++ rest') :
    n = n' ∧ rest = rest' := by
  obtain ⟨texts, rests⟩ := run_cancel (fun _ => isNumeralChar_of_mem_toString)
    (fun _ => isNumeralChar_of_mem_toString) ends ends' same
  rw [toList_toString, toList_toString] at texts
  refine ⟨?_, rests⟩
  rw [← @Nat.ofDigitChars_ten_toDigits n, texts, Nat.ofDigitChars_ten_toDigits]

theorem number_cancel (finite : Binary.isFinite x = true) (finite' : Binary.isFinite y = true)
    (ends : Ends rest) (ends' : Ends rest')
    (same : (numberLayout.write x).toList ++ rest = (numberLayout.write y).toList ++ rest') :
    x = y ∧ rest = rest' := by
  obtain ⟨texts, rests⟩ := run_cancel (write_shape finite).2.1 (write_shape finite').2.1 ends ends'
    same
  exact ⟨numberLayout.eq_of_write finite finite' (String.toList_inj.1 texts), rests⟩

/-- A whole number is never written like a floating-point number. -/
theorem nat_ne_number (finite : Binary.isFinite x = true) (ends : Ends rest) (ends' : Ends rest') :
    (toString n).toList ++ rest ≠ (numberLayout.write x).toList ++ rest' := by
  intro same
  obtain ⟨-, all, c, member, other⟩ := write_shape finite
  obtain ⟨texts, -⟩ := run_cancel (fun _ => isNumeralChar_of_mem_toString) all ends ends' same
  rw [← texts, toList_toString] at member
  rw [Layout.isDigit_of_mem_digits member] at other
  cases other

end

/-! ## Members between brackets -/

/-- The start of a line with what is in front of it. -/
def indentChars (depth : Nat) : List Char := '\n' :: List.replicate (2 * depth) ' '

theorem toList_indent (depth : Nat) : (indent depth).toList = indentChars depth := by
  simp [indent, Text.copies, indentChars]

/-- Members behind others, each behind a comma and on a line of its own. -/
def moreMembers (depth : Nat) (members : List (List Char)) : List Char :=
  members.flatMap fun member => ',' :: (indentChars depth ++ member)

theorem toList_enclosed_nil (depth : Nat) (opening closing : String) :
    (enclosed depth opening closing []).toList = opening.toList ++ closing.toList := by
  simp [enclosed]

theorem toList_enclosed_cons (depth : Nat) (opening closing member : String)
    (members : List String) :
    (enclosed depth opening closing (member :: members)).toList =
      opening.toList ++ (indentChars (depth + 1) ++ (member.toList ++
        (moreMembers (depth + 1) (members.map String.toList) ++
          (indentChars depth ++ closing.toList)))) := by
  simp [enclosed, Text.intercalate_cons, moreMembers, toList_indent, List.flatMap_map,
    List.append_assoc]

section

variable {α : Type} {text : α → List Char} {xs xs' : List α} {rest rest' : List Char}

/-- The text of each of some things tells it from the others, whatever follows. -/
def Cancels (text : α → List Char) (xs xs' : List α) : Prop :=
  ∀ x ∈ xs, ∀ x' ∈ xs', ∀ rest rest', Ends rest → Ends rest' →
    text x ++ rest = text x' ++ rest' → x = x' ∧ rest = rest'

theorem Cancels.tail {x x' : α} (h : Cancels text (x :: xs) (x' :: xs')) : Cancels text xs xs' :=
  fun y member y' member' =>
    h y (List.mem_cons_of_mem _ member) y' (List.mem_cons_of_mem _ member')

theorem moreMembers_cons (depth : Nat) (member : List Char) (members : List (List Char)) :
    moreMembers depth (member :: members) =
      ',' :: (indentChars depth ++ (member ++ moreMembers depth members)) := by
  simp [moreMembers]

/-- Behind a member comes a comma or a line feed. -/
theorem ends_moreMembers (depth depth' : Nat) (members : List (List Char)) (rest : List Char) :
    Ends (moreMembers depth members ++ (indentChars depth' ++ rest)) := by
  intro c first
  cases members with
  | nil =>
    obtain rfl := Option.some.inj first
    rfl
  | cons member members =>
    obtain rfl := Option.some.inj first
    rfl

theorem moreMembers_cancel (cancels : Cancels text xs xs') {depth depth' : Nat}
    (same : moreMembers depth (xs.map text) ++ (indentChars depth' ++ rest) =
      moreMembers depth (xs'.map text) ++ (indentChars depth' ++ rest')) :
    xs = xs' ∧ rest = rest' := by
  induction xs generalizing xs' with
  | nil =>
    cases xs' with
    | nil => exact ⟨rfl, List.append_cancel_left same⟩
    | cons x' xs' => cases (List.cons.inj same).1
  | cons x xs ih =>
    cases xs' with
    | nil => cases (List.cons.inj same).1
    | cons x' xs' =>
      simp only [List.map_cons, moreMembers_cons, List.cons_append, List.append_assoc] at same
      have tails := List.append_cancel_left (List.cons.inj same).2
      obtain ⟨rfl, later⟩ := cancels x List.mem_cons_self x' List.mem_cons_self _ _
        (ends_moreMembers _ _ _ _) (ends_moreMembers _ _ _ _) tails
      obtain ⟨rfl, rests⟩ := ih cancels.tail later
      exact ⟨rfl, rests⟩

/-- Members between brackets can be told by their text if each of them can. -/
theorem enclosed_cancel {member : α → String}
    (cancels : Cancels (fun x => (member x).toList) xs xs') {depth : Nat} {opening closing : String}
    {first last : Char} (opens : opening.toList = [first]) (closes : closing.toList = [last])
    (other : last ≠ '\n')
    (same : (enclosed depth opening closing (xs.map member)).toList ++ rest =
      (enclosed depth opening closing (xs'.map member)).toList ++ rest') :
    xs = xs' ∧ rest = rest' := by
  cases xs with
  | nil =>
    rw [List.map_nil, toList_enclosed_nil, opens, closes] at same
    cases xs' with
    | nil =>
      rw [List.map_nil, toList_enclosed_nil, opens, closes] at same
      exact ⟨rfl, List.append_cancel_left same⟩
    | cons x' xs' =>
      rw [List.map_cons, toList_enclosed_cons, opens, closes] at same
      exact absurd (List.cons.inj (List.cons.inj same).2).1 other
  | cons x xs =>
    rw [List.map_cons, toList_enclosed_cons, opens, closes] at same
    cases xs' with
    | nil =>
      rw [List.map_nil, toList_enclosed_nil, opens, closes] at same
      exact absurd (List.cons.inj (List.cons.inj same).2).1.symm other
    | cons x' xs' =>
      rw [List.map_cons, toList_enclosed_cons, opens, closes] at same
      simp only [List.cons_append, List.append_assoc, List.nil_append] at same
      have tails := List.append_cancel_left (List.cons.inj same).2
      rw [List.map_map, List.map_map] at tails
      obtain ⟨rfl, later⟩ := cancels x List.mem_cons_self x' List.mem_cons_self _ _
        (ends_moreMembers _ _ _ _) (ends_moreMembers _ _ _ _) tails
      obtain ⟨rfl, rests⟩ := moreMembers_cancel cancels.tail later
      exact ⟨rfl, (List.cons.inj rests).2⟩

end

/-! ## Documents -/

theorem prettyItems_eq (depth : Nat) (items : List Json) :
    prettyItems depth items = items.map (prettyAt depth) := by
  induction items with
  | nil => rfl
  | cons item items ih => rw [prettyItems, ih, List.map_cons]

/-- A field on its line. -/
def fieldText (depth : Nat) (field : String × Json) : String :=
  quoted field.1 ++ ": " ++ prettyAt depth field.2

theorem prettyFields_eq (depth : Nat) (fields : List (String × Json)) :
    prettyFields depth fields = fields.map (fieldText depth) := by
  induction fields with
  | nil => rfl
  | cons field fields ih => rw [prettyFields, ih, List.map_cons, fieldText]

mutual

/-- The floating-point numbers in a document. -/
def numbers : Json → List Float
  | .null | .bool _ | .nat _ | .string _ => []
  | .number x => [x]
  | .array items => itemsNumbers items
  | .object fields => fieldsNumbers fields

/-- The floating-point numbers in items. -/
def itemsNumbers : List Json → List Float
  | [] => []
  | item :: items => item.numbers ++ itemsNumbers items

/-- The floating-point numbers in fields. -/
def fieldsNumbers : List (String × Json) → List Float
  | [] => []
  | (_, value) :: fields => value.numbers ++ fieldsNumbers fields

end

/-- A document without infinite or undefined numbers. -/
def AllFinite (j : Json) : Prop := ∀ x ∈ j.numbers, Binary.isFinite x = true

/-- The documents right below a document. -/
def children : Json → List Json
  | .null | .bool _ | .nat _ | .number _ | .string _ => []
  | .array items => items
  | .object fields => fields.map Prod.snd

theorem sizeOf_child {j child : Json} (member : child ∈ j.children) : sizeOf child < sizeOf j := by
  cases j with
  | array items =>
    have smaller : sizeOf child < sizeOf items := List.sizeOf_lt_of_mem member
    simp only [array.sizeOf_spec]
    omega
  | object fields =>
    obtain ⟨⟨key, value⟩, inFields, rfl⟩ := List.mem_map.1 member
    have smaller := List.sizeOf_lt_of_mem inFields
    simp only [object.sizeOf_spec, Prod.mk.sizeOf_spec] at smaller ⊢
    omega
  | _ => cases member

/-- What holds of a document as soon as it holds of all documents right below holds of all. -/
@[elab_as_elim]
theorem children_induction {motive : Json → Prop}
    (step : ∀ j, (∀ child ∈ j.children, motive child) → motive j) (j : Json) : motive j :=
  step j fun child _ => children_induction step child
termination_by sizeOf j
decreasing_by exact sizeOf_child ‹_›

theorem AllFinite.child {j child : Json} (h : AllFinite j) (member : child ∈ j.children) :
    AllFinite child := by
  intro x inside
  refine h x ?_
  clear h
  cases j with
  | array items =>
    change child ∈ items at member
    rw [numbers]
    induction items with
    | nil => cases member
    | cons item items ih =>
      rw [itemsNumbers, List.mem_append]
      rcases List.mem_cons.1 member with rfl | later
      · exact .inl inside
      · exact .inr (ih later)
  | object fields =>
    change child ∈ fields.map Prod.snd at member
    rw [numbers]
    induction fields with
    | nil => cases member
    | cons field fields ih =>
      rw [fieldsNumbers, List.mem_append]
      rcases List.mem_cons.1 member with rfl | later
      · exact .inl inside
      · exact .inr (ih later)
  | _ => cases member

/-- What the text of a document starts like. -/
inductive Lead where
  | null
  | no
  | yes
  | numeral
  | quote
  | bracket
  | brace

/-- What a text starts like whose first character is given. -/
def Lead.ofChar (c : Char) : Lead :=
  if c = 'n' then .null
  else if c = 'f' then .no
  else if c = 't' then .yes
  else if c = '"' then .quote
  else if c = '[' then .bracket
  else if c = '\x7b' then .brace
  else .numeral

theorem Lead.ofChar_numeral {c : Char} (h : c.isDigit = true ∨ c = '-') : ofChar c = .numeral := by
  have other (d : Char) (letter : d.isDigit = false) (sign : d ≠ '-') : c ≠ d := by
    rintro rfl
    rcases h with digit | rfl
    · rw [letter] at digit
      cases digit
    · exact sign rfl
  unfold ofChar
  rw [if_neg (other 'n' rfl (by decide)), if_neg (other 'f' rfl (by decide)),
    if_neg (other 't' rfl (by decide)), if_neg (other '"' rfl (by decide)),
    if_neg (other '[' rfl (by decide)), if_neg (other '\x7b' rfl (by decide))]

/-- What the text of this document starts like. -/
def lead : Json → Lead
  | .null => .null
  | .bool false => .no
  | .bool true => .yes
  | .nat _ | .number _ => .numeral
  | .string _ => .quote
  | .array _ => .bracket
  | .object _ => .brace

theorem exists_starts {j : Json} (finite : j.AllFinite) (depth : Nat) :
    ∃ c cs, (prettyAt depth j).toList = c :: cs ∧ Lead.ofChar c = j.lead := by
  have bracket {opening closing : String} {c : Char} (opens : opening.toList = [c])
      (members : List String) :
      ∃ cs, (enclosed depth opening closing members).toList = c :: cs := by
    cases members with
    | nil => exact ⟨_, by rw [toList_enclosed_nil, opens]; rfl⟩
    | cons => exact ⟨_, by rw [toList_enclosed_cons, opens]; rfl⟩
  cases j with
  | null => exact ⟨'n', ['u', 'l', 'l'], by rw [prettyAt]; rfl, rfl⟩
  | bool b =>
    cases b with
    | false => exact ⟨'f', ['a', 'l', 's', 'e'], by rw [prettyAt]; rfl, rfl⟩
    | true => exact ⟨'t', ['r', 'u', 'e'], by rw [prettyAt]; rfl, rfl⟩
  | nat n =>
    obtain ⟨c, cs, starts⟩ := List.exists_cons_of_ne_nil (@Nat.toDigits_ne_nil n 10)
    refine ⟨c, cs, (toList_toString n).trans starts, Lead.ofChar_numeral (.inl ?_)⟩
    exact Layout.isDigit_of_mem_digits (starts ▸ List.mem_cons_self)
  | number x =>
    obtain ⟨c, cs, starts, numeral⟩ := (write_shape (finite x (List.mem_singleton_self x))).1
    exact ⟨c, cs, starts, Lead.ofChar_numeral numeral⟩
  | string s => exact ⟨'"', _, toList_quoted s, rfl⟩
  | array items =>
    have opens : "[".toList = ['['] := rfl
    obtain ⟨cs, starts⟩ := bracket opens (prettyItems (depth + 1) items)
    exact ⟨'[', cs, starts, rfl⟩
  | object fields =>
    have opens : "\x7b".toList = ['\x7b'] := rfl
    obtain ⟨cs, starts⟩ := bracket opens (prettyFields (depth + 1) fields)
    exact ⟨'\x7b', cs, starts, rfl⟩

/-- Documents that start alike. -/
inductive SameSort : Json → Json → Prop
  | null : SameSort .null .null
  | bool (b : Bool) : SameSort (.bool b) (.bool b)
  | nats (n n' : Nat) : SameSort (.nat n) (.nat n')
  | natNumber (n : Nat) (x : Float) : SameSort (.nat n) (.number x)
  | numberNat (x : Float) (n : Nat) : SameSort (.number x) (.nat n)
  | numbers (x y : Float) : SameSort (.number x) (.number y)
  | strings (s s' : String) : SameSort (.string s) (.string s')
  | arrays (items items' : List Json) : SameSort (.array items) (.array items')
  | objects (fields fields' : List (String × Json)) : SameSort (.object fields) (.object fields')

theorem sameSort_of_lead {j j' : Json} (same : j.lead = j'.lead) : SameSort j j' := by
  cases j with
  | null =>
    cases j' with
    | null => exact .null
    | bool b => cases b <;> cases same
    | _ => cases same
  | bool b =>
    cases j' with
    | bool b' =>
      cases b <;> cases b'
      · exact .bool false
      · cases same
      · cases same
      · exact .bool true
    | _ => cases b <;> cases same
  | nat n =>
    cases j' with
    | nat n' => exact .nats n n'
    | number x => exact .natNumber n x
    | bool b => cases b <;> cases same
    | _ => cases same
  | number x =>
    cases j' with
    | nat n => exact .numberNat x n
    | number y => exact .numbers x y
    | bool b => cases b <;> cases same
    | _ => cases same
  | string s =>
    cases j' with
    | string s' => exact .strings s s'
    | bool b => cases b <;> cases same
    | _ => cases same
  | array items =>
    cases j' with
    | array items' => exact .arrays items items'
    | bool b => cases b <;> cases same
    | _ => cases same
  | object fields =>
    cases j' with
    | object fields' => exact .objects fields fields'
    | bool b => cases b <;> cases same
    | _ => cases same

/-- The text of a document, at the depth where it stands, tells it from all others, whatever
follows. -/
theorem prettyAt_cancel {j : Json} (finite : j.AllFinite) {j' : Json} (finite' : j'.AllFinite)
    {depth : Nat} {rest rest' : List Char} (ends : Ends rest) (ends' : Ends rest')
    (same : (prettyAt depth j).toList ++ rest = (prettyAt depth j').toList ++ rest') :
    j = j' ∧ rest = rest' := by
  induction j using children_induction generalizing j' depth rest rest' with
  | step j below =>
    obtain ⟨c, cs, starts, lead⟩ := exists_starts finite depth
    obtain ⟨c', cs', starts', lead'⟩ := exists_starts finite' depth
    have first : c = c' := by
      rw [starts, starts'] at same
      exact (List.cons.inj same).1
    cases sameSort_of_lead (lead.symm.trans (first ▸ lead')) with
    | null => exact ⟨rfl, List.append_cancel_left same⟩
    | bool b => exact ⟨rfl, List.append_cancel_left same⟩
    | nats n n' =>
      obtain ⟨rfl, rests⟩ := nat_cancel ends ends' same
      exact ⟨rfl, rests⟩
    | natNumber n x => exact absurd same (nat_ne_number (finite' x List.mem_cons_self) ends ends')
    | numberNat x n =>
      exact absurd same.symm (nat_ne_number (finite x List.mem_cons_self) ends' ends)
    | numbers x y =>
      obtain ⟨rfl, rests⟩ := number_cancel (finite x List.mem_cons_self)
        (finite' y List.mem_cons_self) ends ends' same
      exact ⟨rfl, rests⟩
    | strings s s' =>
      obtain ⟨rfl, rests⟩ := string_cancel same
      exact ⟨rfl, rests⟩
    | arrays items items' =>
      rw [prettyAt, prettyAt, prettyItems_eq, prettyItems_eq] at same
      have cancels : Cancels (fun item => (prettyAt (depth + 1) item).toList) items items' :=
        fun item member item' member' rest rest' ends ends' =>
          below item member (finite.child member) (finite'.child member') ends ends'
      obtain ⟨rfl, rests⟩ := enclosed_cancel cancels rfl rfl (by decide) same
      exact ⟨rfl, rests⟩
    | objects fields fields' =>
      rw [prettyAt, prettyAt, prettyFields_eq, prettyFields_eq] at same
      have cancels :
          Cancels (fun field => (fieldText (depth + 1) field).toList) fields fields' := by
        rintro ⟨key, value⟩ member ⟨key', value'⟩ member' rest rest' ends ends' same
        have member := List.mem_map_of_mem (f := Prod.snd) member
        have member' := List.mem_map_of_mem (f := Prod.snd) member'
        simp only [fieldText, String.toList_append, List.append_assoc] at same
        obtain ⟨rfl, values⟩ := string_cancel same
        obtain ⟨rfl, rests⟩ := below value member (finite.child member) (finite'.child member') ends
          ends' (List.append_cancel_left values)
        exact ⟨rfl, rests⟩
      obtain ⟨rfl, rests⟩ := enclosed_cancel cancels rfl rfl (by decide) same
      exact ⟨rfl, rests⟩

/-- Documents with the same text are the same. -/
theorem eq_of_pretty {j j' : Json} (finite : j.AllFinite) (finite' : j'.AllFinite)
    (same : j.pretty = j'.pretty) : j = j' := by
  have texts : (prettyAt 0 j).toList ++ [] = (prettyAt 0 j').toList ++ [] := by
    rw [← pretty, ← pretty, same]
  exact (prettyAt_cancel finite finite' ends_nil ends_nil texts).1

end Json

end SloScript
