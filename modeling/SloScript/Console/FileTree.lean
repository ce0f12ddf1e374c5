/-!
# File trees

Files and folders below one root, kept in memory. A path is followed name by name, and every name
but the last has to be that of a folder. The tree answers what reading a file yields and whether a
file could be saved, with the wording of the system; so a whole run of the command line is a
function of its surroundings.
-/

namespace SloScript

/-- Why a file cannot be read or saved. -/
inductive FileFault where
  | absent
  | directory
  /-- A name on the way is that of a file. -/
  | throughFile
  | nameTooLong
  | invalidName
  | notText
  /-- Any other answer of the system. -/
  | refused (reason : String)
  deriving DecidableEq, Repr

namespace FileFault

/-- The wording of a fault. -/
def message : FileFault → String
  | absent => "No such file or directory (os error 2)"
  | directory => "Is a directory (os error 21)"
  | throughFile => "Not a directory (os error 20)"
  | nameTooLong => "File name too long (os error 36)"
  | invalidName => "file name contained an unexpected NUL byte"
  | notText => "stream did not contain valid UTF-8"
  | refused reason => reason

end FileFault

/-- The text that bytes stand for. -/
def decodeText (bytes : ByteArray) : Except FileFault String :=
  match String.fromUTF8? bytes with
  | some text => .ok text
  | none => .error .notText

/-- Names from the root to a file or folder; without any, the root itself. -/
abbrev Place := List String

/-- What stands at a place. -/
inductive Entry where
  | file (bytes : ByteArray)
  | folder

/-- Files and folders by their places, and the folder that a path starts from unless it begins with
a slash. A folder is there as soon as something is in it. -/
structure FileTree where
  entries : List (Place × Entry)
  working : Place

namespace FileTree

/-- The longest name in bytes. -/
def maxName : Nat := 255

/-- A path has to be shorter than this, in bytes. -/
def pathLimit : Nat := 4096

/-- The tree of an empty folder to work in. -/
def ofWorking (working : Place) : FileTree := ⟨[(working, .folder)], working⟩

/-- The tree in which an entry stands at a place, in front of what stood there. -/
def add (t : FileTree) (place : Place) (e : Entry) : FileTree :=
  { t with entries := (place, e) :: t.entries }

/-- What stands at a place. -/
def entry? (t : FileTree) (place : Place) : Option Entry :=
  match t.entries.find? fun e => e.1 = place with
  | some (_, e) => some e
  | none =>
    if place.isEmpty || t.entries.any fun e => place.isPrefixOf e.1 then some .folder else none

/-! ## Following paths -/

/-- The parts of a path between its slashes. A part may be empty. -/
def parts (path : String) : List String := path.splitOn "/"

/-- The place that a path starts from. -/
def origin (t : FileTree) (path : String) : Place := if path.startsWith "/" then [] else t.working

/-- The place that the parts of a path lead to. An empty part or a dot stays where it is, two dots
lead to the folder around, but only a folder can be gone on from. -/
def follow (t : FileTree) (place : Place) : List String → Except FileFault Place
  | [] => .ok place
  | part :: rest =>
    match t.entry? place with
    | none => .error .absent
    | some (.file _) => .error .throughFile
    | some .folder =>
      if part = "" || part = "." then t.follow place rest
      else if part = ".." then t.follow place.dropLast rest
      else if maxName < part.utf8ByteSize then .error .nameTooLong
      else t.follow (place ++ [part]) rest

/-- Why a path cannot even be followed, if so. -/
def refusal? (path : String) : Option FileFault :=
  if path.contains (Char.ofNat 0) then some .invalidName
  else if path.isEmpty then some .absent
  else if pathLimit ≤ path.utf8ByteSize then some .nameTooLong
  else none

/-! ## Reading -/

/-- The text of the file that a path leads to. -/
def read (t : FileTree) (path : String) : Except FileFault String :=
  match refusal? path with
  | some fault => .error fault
  | none =>
    match t.follow (t.origin path) (parts path) with
    | .error fault => .error fault
    | .ok place =>
      match t.entry? place with
      | none => .error .absent
      | some .folder => .error .directory
      | some (.file bytes) => decodeText bytes

/-! ## Saving -/

/-- The parts that lead to the folder which a path names a file in: those that name something, all
but the last. -/
def parentParts (path : String) : List String :=
  ((parts path).filter fun part => part != "" && part != ".").dropLast

/-- Makes the folders that parts of a path lead through, as far as that is possible. -/
def makeFolders (t : FileTree) (place : Place) : List String → FileTree
  | [] => t
  | part :: rest =>
    match t.follow place [part] with
    | .error _ => t
    | .ok next =>
      match t.entry? next with
      | none => (t.add next .folder).makeFolders next rest
      | some _ => t.makeFolders next rest

/-- The tree in which the folder is there that a path names a file in. -/
def makeParent (t : FileTree) (path : String) : FileTree :=
  t.makeFolders (t.origin path) (parentParts path)

/-- The parts that have to be followed to save a file. A path that ends in a slash names a folder,
whether there is one or not, so its last name is not looked at. -/
def savingParts (path : String) : List String :=
  match (parts path).reverse with
  | "" :: rest => "" :: (rest.dropWhile (· == "")).drop 1 |>.reverse
  | reversed => reversed.reverse

/-- The place that a file with the given path would be saved at. -/
def savingPlace (t : FileTree) (path : String) : Except FileFault Place :=
  match refusal? path with
  | some fault => .error fault
  | none =>
    match t.follow (t.origin path) (savingParts path) with
    | .error fault => .error fault
    | .ok place =>
      match t.entry? place with
      | some .folder => .error .directory
      | _ => .ok place

/-- Saves a file under a path. Folders that are missing on the way are made first, and stay even if
the file cannot be saved. -/
def save (t : FileTree) (path : String) (bytes : ByteArray) : Option FileFault × FileTree :=
  let t := t.makeParent path
  match t.savingPlace path with
  | .error fault => (some fault, t)
  | .ok place => (none, t.add place (.file bytes))

end FileTree

end SloScript
