import SloScript.Text.Conjunct
import SloScript.Text.Mark
import SloScript.Text.Pictograph

/-!
# Clusters

What a reader takes for one character is often written with several: a letter with its accents, a
syllable with its parts, a flag with its two letters. Such a stretch is a *cluster*. Whether two
neighbouring characters belong to one cluster depends on their classes and on little of what stands
before them, which is kept in a *context*. A control character is always a cluster of its own,
except that a carriage return takes the line feed after it along.
-/

namespace SloScript.Text

/-- What a character is in the making of clusters. -/
inductive ClusterClass where
  | plain
  | carriageReturn
  | lineFeed
  | control
  /-- Attaches to the character before it and takes up no place of its own. -/
  | mark
  /-- Attaches like a mark, and keeps a consonant from being linked. -/
  | nonJoiner
  /-- Attaches like a mark, and links two consonants. -/
  | linker
  /-- Attaches like a mark, and joins two pictographs. -/
  | joiner
  | spacingMark
  /-- Belongs to the character after it. -/
  | leadingSign
  /-- The first part of a syllable. -/
  | initialPart
  /-- The middle part of a syllable. -/
  | middlePart
  /-- The last part of a syllable. -/
  | finalPart
  /-- A syllable that still lacks its last part. -/
  | openSyllable
  /-- A syllable with all its parts. -/
  | closedSyllable
  | consonant
  | pictograph
  /-- One of two letters that make a flag. -/
  | flagLetter
  deriving DecidableEq, Repr

namespace ClusterClass

/-- The control characters other than the two that end a line: they have no visible form, or
separate lines or paragraphs. -/
def controlRanges : Array (Nat × Nat) := #[
  (0x0, 0x9), (0xb, 0xc), (0xe, 0x1f), (0x7f, 0x9f), (0xad, 0xad), (0x61c, 0x61c), (0x180e, 0x180e),
  (0x200b, 0x200b), (0x200e, 0x200f), (0x2028, 0x202e), (0x2060, 0x206f), (0xfeff, 0xfeff),
  (0xfff0, 0xfffb), (0x13430, 0x1343f), (0x1bca0, 0x1bca3), (0x1d173, 0x1d17a), (0xe0000, 0xe001f),
  (0xe0080, 0xe00ff), (0xe01f0, 0xe0fff)]

/-- The signs that belong to the character after them. -/
def leadingSignRanges : Array (Nat × Nat) := #[
  (0x600, 0x605), (0x6dd, 0x6dd), (0x70f, 0x70f), (0x890, 0x891), (0x8e2, 0x8e2), (0xd4e, 0xd4e),
  (0x110bd, 0x110bd), (0x110cd, 0x110cd), (0x111c2, 0x111c3), (0x113d1, 0x113d1),
  (0x1193f, 0x1193f), (0x11941, 0x11941), (0x11a84, 0x11a89), (0x11d46, 0x11d46),
  (0x11f02, 0x11f02)]

/-- The first parts of syllables. -/
def initialPartRanges : Array (Nat × Nat) := #[(0x1100, 0x115f), (0xa960, 0xa97c)]

/-- The middle parts of syllables. -/
def middlePartRanges : Array (Nat × Nat) := #[
  (0x1160, 0x11a7), (0xd7b0, 0xd7c6), (0x16d63, 0x16d63), (0x16d67, 0x16d6a)]

/-- The last parts of syllables. -/
def finalPartRanges : Array (Nat × Nat) := #[(0x11a8, 0x11ff), (0xd7cb, 0xd7fb)]

/-- The code point of the first syllable. -/
def firstSyllable : Nat := 0xac00

/-- The code point of the last syllable. -/
def lastSyllable : Nat := 0xd7a3

/-- How many syllables share their first and middle part; the first of them has no last part. -/
def finalCount : Nat := 28

/-- The class of a character. -/
def ofChar (c : Char) : ClusterClass :=
  let n := c.toNat
  if n = 0x0d then carriageReturn
  else if n = 0x0a then lineFeed
  else if 0x20 ≤ n && n < 0x7f then plain
  else if inRanges controlRanges c then control
  else if n = 0x200c then nonJoiner
  else if n = 0x200d then joiner
  else if isLinker c then linker
  else if isMark c then mark
  else if isSpacingMark c then spacingMark
  else if inRanges leadingSignRanges c then leadingSign
  else if firstSyllable ≤ n && n ≤ lastSyllable then
    if (n - firstSyllable) % finalCount = 0 then openSyllable else closedSyllable
  else if inRanges initialPartRanges c then initialPart
  else if inRanges middlePartRanges c then middlePart
  else if inRanges finalPartRanges c then finalPart
  else if isConsonant c then consonant
  else if isPictograph c then pictograph
  else if 0x1f1e6 ≤ n && n ≤ 0x1f1ff then flagLetter
  else plain

/-- Whether a class separates clusters on both sides. -/
def separates : ClusterClass → Bool
  | control | carriageReturn | lineFeed => true
  | _ => false

/-- Whether a class attaches to whatever stands before it. -/
def attaches : ClusterClass → Bool
  | mark | nonJoiner | linker | joiner | spacingMark => true
  | _ => false

/-- Whether a part of a syllable continues the one before it. -/
def continuesSyllable : ClusterClass → ClusterClass → Bool
  | initialPart, initialPart | initialPart, middlePart | initialPart, openSyllable
  | initialPart, closedSyllable => true
  | openSyllable, middlePart | openSyllable, finalPart => true
  | middlePart, middlePart | middlePart, finalPart => true
  | closedSyllable, finalPart | finalPart, finalPart => true
  | _, _ => false

end ClusterClass

/-- What is known of the characters before a place. -/
structure ClusterContext where
  /-- The class of the last character. -/
  last : ClusterClass
  /-- Whether the last characters are a pictograph, marks, and perhaps a joiner. -/
  pictograph : Bool
  /-- Whether the number of flag letters up to here is odd. -/
  oddFlag : Bool
  /-- Whether the last characters are a consonant and signs that attach to it. -/
  consonant : Bool
  /-- Whether one of those signs is a linker. -/
  linked : Bool
  deriving DecidableEq, Repr

namespace ClusterContext

/-- The context at the start of a text, where nothing can be continued. -/
def initial : ClusterContext := ⟨.control, false, false, false, false⟩

/-- The context after one more character. -/
def push (x : ClusterContext) (k : ClusterClass) : ClusterContext where
  last := k
  pictograph :=
    match k with
    | .pictograph => true
    | .mark | .nonJoiner | .linker | .joiner => x.pictograph && x.last != .joiner
    | _ => false
  oddFlag := k == .flagLetter && !x.oddFlag
  consonant :=
    match k with
    | .consonant => true
    | .mark | .linker | .joiner => x.consonant
    | _ => false
  linked :=
    match k with
    | .linker => x.consonant
    | .mark | .joiner => x.linked
    | _ => false

/-- Whether a character continues the cluster of the one before it. -/
def joins (x : ClusterContext) (k : ClusterClass) : Bool :=
  if x.last.separates || k.separates then x.last == .carriageReturn && k == .lineFeed
  else
    k.attaches || x.last == .leadingSign || x.last.continuesSyllable k ||
      match k with
      | .consonant => x.linked
      | .pictograph => x.last == .joiner && x.pictograph
      | .flagLetter => x.oddFlag
      | _ => false

end ClusterContext

/-- The clusters of characters in a context. The first item is what continues the cluster before
them. -/
def clustersAfter (x : ClusterContext) : List Char → List Char × List (List Char)
  | [] => ([], [])
  | c :: cs =>
    let k := ClusterClass.ofChar c
    let (rest, later) := clustersAfter (x.push k) cs
    if x.joins k then (c :: rest, later) else ([], (c :: rest) :: later)

/-- The clusters of a text. -/
def clusters (cs : List Char) : List (List Char) := (clustersAfter .initial cs).2

theorem joins_initial (k : ClusterClass) : ClusterContext.initial.joins k = false := rfl

/-- What continues the cluster before, and the clusters after it, make up the characters. -/
theorem flatten_clustersAfter (x : ClusterContext) (cs : List Char) :
    (clustersAfter x cs).1 ++ (clustersAfter x cs).2.flatten = cs := by
  induction cs generalizing x with
  | nil => rfl
  | cons c cs ih =>
    have rest := ih (x.push (ClusterClass.ofChar c))
    simp only [clustersAfter]
    split <;> simp [rest]

/-- The clusters of a text make up the text. -/
theorem flatten_clusters (cs : List Char) : (clusters cs).flatten = cs := by
  have whole := flatten_clustersAfter .initial cs
  cases cs with
  | nil => rfl
  | cons c cs => simpa [clusters, clustersAfter, joins_initial] using whole

end SloScript.Text
