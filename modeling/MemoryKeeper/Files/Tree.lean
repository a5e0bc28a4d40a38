import MemoryKeeper.Files.Failure
import MemoryKeeper.Files.Path
import MemoryKeeper.Text.Utf8

/-!
# File trees

A file tree is a file with its bytes or a directory of named trees. A file may
be held by one holder at a time; who holds it belongs to the file itself, so it
outlives a change of the file's content and ends with the file.

All changes go through `alter`, which replaces what stands at one place and
leaves every other place alone. Each operation refuses what the operating system
refuses, for the same cause.
-/

namespace MemoryKeeper

open MemoryKeeper.Path (Location)

/-- Who may hold a file: one number for each holder. -/
abbrev Holder := Nat

/-- A file or a directory. -/
inductive FileTree where
  | file (content : ByteArray) (holder : Option Holder)
  | directory (entries : List (String × FileTree))

namespace FileTree

instance : Inhabited FileTree where
  default := .directory []

/-- The most bytes that a name may have. -/
def longestName : Nat := 255

/-- The most bytes that a path may have. -/
def longestPath : Nat := 4095

/-- The entries with one name bound anew, or unbound. -/
def rebind (name : String) (child : Option FileTree) (entries : List (String × FileTree)) :
    List (String × FileTree) :=
  let others := entries.filter fun entry => entry.1 ≠ name
  match child with
  | some tree => (name, tree) :: others
  | none => others

/-- What stands at a place. -/
def find : FileTree → Location → Except OsError FileTree
  | tree, [] => .ok tree
  | .file .., _ :: _ => .error .notADirectory
  | .directory entries, name :: rest =>
    match entries.lookup name with
    | some child => child.find rest
    | none => .error (if longestName < name.utf8ByteSize then .nameTooLong else .noEntry)

/-- Whether a file stands at a place. -/
def isFile (tree : FileTree) (place : Location) : Bool :=
  match tree.find place with
  | .ok (.file ..) => true
  | _ => false

/-- Whether a directory stands at a place. -/
def isDirectory (tree : FileTree) (place : Location) : Bool :=
  match tree.find place with
  | .ok (.directory _) => true
  | _ => false

def contains (tree : FileTree) (place : Location) : Bool :=
  match tree.find place with
  | .ok _ => true
  | .error _ => false

def bytes : FileTree → Except OsError ByteArray
  | .file content _ => .ok content
  | .directory _ => .error .isADirectory

def text (tree : FileTree) : Except IoFailure String :=
  match tree.bytes with
  | .error error => .error (.os error)
  | .ok content =>
    match Text.decode? content with
    | some text => .ok text
    | none => .error .invalidText

/-- The text of the file at a place. -/
def readText (tree : FileTree) (place : Location) : Except IoFailure String :=
  match tree.find place with
  | .error error => .error (.os error)
  | .ok node => node.text

/-- The names in a directory, each once. -/
def names : FileTree → List String
  | .file .. => []
  | .directory entries => (entries.map Prod.fst).eraseDups

/-- Replaces what stands at a place below a directory; the edit is told what stands there. -/
def alter (edit : Option FileTree → Except OsError (Option FileTree)) :
    Location → FileTree → Except OsError FileTree
  | [], _ => .error .isADirectory
  | _ :: _, .file .. => .error .notADirectory
  | [name], .directory entries =>
    (edit (entries.lookup name)).map fun child => .directory (rebind name child entries)
  | name :: rest, .directory entries =>
    match entries.lookup name with
    | none => .error .noEntry
    | some child =>
      (alter edit rest child).map fun child => .directory (rebind name (some child) entries)

/-- Whether the last name of a place is short enough for a new entry. -/
def fits (place : Location) : Bool :=
  place.getLast?.all (·.utf8ByteSize ≤ longestName)

/-- An edit of the file at a place, which is made first if nothing stands there. -/
def alterFile (edit : ByteArray → Option Holder → FileTree) (place : Location)
    (tree : FileTree) : Except OsError FileTree :=
  alter
    (fun
      | none => if fits place then .ok (some (edit .empty none)) else .error .nameTooLong
      | some (.file content holder) => .ok (some (edit content holder))
      | some (.directory _) => .error .isADirectory)
    place tree

/-- Makes an empty file, or empties the one that stands at a place. -/
def createFile (place : Location) (tree : FileTree) : Except OsError FileTree :=
  alterFile (fun _ holder => .file .empty holder) place tree

/-- Makes an empty file unless one stands at a place. -/
def openFile (place : Location) (tree : FileTree) : Except OsError FileTree :=
  alterFile .file place tree

/-- Adds bytes to the end of the file at a place. -/
def append (added : ByteArray) (place : Location) (tree : FileTree) : Except OsError FileTree :=
  alter
    (fun
      | none => .error .noEntry
      | some (.file content holder) => .ok (some (.file (content ++ added) holder))
      | some (.directory _) => .error .isADirectory)
    place tree

def removeFile (place : Location) (tree : FileTree) : Except OsError FileTree :=
  alter
    (fun
      | none => .error .noEntry
      | some (.file ..) => .ok none
      | some (.directory _) => .error .isADirectory)
    place tree

/-- Moves the file at one place to another, where it takes the place of a file. -/
def rename (source target : Location) (tree : FileTree) : Except OsError FileTree := do
  let moved ← tree.find source
  let without ← tree.removeFile source
  alter
    (fun
      | none => if fits target then .ok (some moved) else .error .nameTooLong
      | some (.file ..) => .ok (some moved)
      | some (.directory _) => .error .isADirectory)
    target without

/-- The directories along a chain of names, one in the other. -/
def chain : Location → FileTree
  | [] => .directory []
  | name :: rest => .directory [(name, chain rest)]

/-- Makes the directory at a place with all directories above it, as far as they are missing. -/
def createDirectories : Location → FileTree → Except OsError FileTree
  | [], .directory entries => .ok (.directory entries)
  | [], .file .. => .error .alreadyExists
  | _ :: _, .file .. => .error .notADirectory
  | name :: rest, .directory entries =>
    match entries.lookup name with
    | none =>
      if (name :: rest).all (·.utf8ByteSize ≤ longestName) then
        .ok (.directory (rebind name (some (chain rest)) entries))
      else .error .nameTooLong
    | some child =>
      (createDirectories rest child).map fun child =>
        .directory (rebind name (some child) entries)

/-- Removes whatever stands at a place; nothing need stand there. -/
def removeTree (place : Location) (tree : FileTree) : FileTree :=
  match alter (fun _ => .ok none) place tree with
  | .ok changed => changed
  | .error _ => tree

/-- Writes a file with the given bytes, and the directories that it stands in. -/
def put (place : Location) (content : ByteArray) (tree : FileTree) : Except OsError FileTree := do
  let prepared ← tree.createDirectories place.dropLast
  let emptied ← prepared.createFile place
  emptied.append content place

/-- Lets a holder take the file at a place; none if another one holds it. -/
def hold? (holder : Holder) (place : Location) (tree : FileTree) : Option FileTree :=
  match tree.find place with
  | .ok (.file _ none) =>
    (alterFile (fun content _ => .file content (some holder)) place tree).toOption
  | _ => none

/-- Lets a holder go of the file at a place, if it is the one that holds it. -/
def release (holder : Holder) (place : Location) (tree : FileTree) : FileTree :=
  match tree.find place with
  | .ok (.file _ (some present)) =>
    if present = holder then
      (alterFile (fun content _ => .file content none) place tree).toOption.getD tree
    else tree
  | _ => tree

/-- The place that components lead to from a place given backwards. Every place on the way must be
a directory; the last one need not exist. -/
def follow (tree : FileTree) : Location → List Path.Component → Except OsError Location
  | upwards, [] => .ok upwards.reverse
  | upwards, component :: rest =>
    match tree.find upwards.reverse with
    | .error error => .error error
    | .ok (.file ..) => .error .notADirectory
    | .ok (.directory _) =>
      match component with
      | .root => tree.follow [] rest
      | .here => tree.follow upwards rest
      | .above => tree.follow (upwards.drop 1) rest
      | .name name => tree.follow (name :: upwards) rest

/-- The place of what stands at a path, seen from a directory. -/
def locate (tree : FileTree) (directory path : String) : Except OsError Location := do
  let whole := Path.join directory path
  let place ← tree.follow [] (Path.components whole)
  let node ← tree.find place
  match node with
  | .file .. =>
    if path.isEmpty then .error .noEntry
    else if Path.mustBeDirectory whole then .error .notADirectory
    else .ok place
  | .directory _ => if path.isEmpty then .error .noEntry else .ok place

mutual

/-- The files of a tree with their places and bytes, from a place given backwards. -/
def filesFrom (upwards : Location) : FileTree → List (Location × ByteArray)
  | .file content _ => [(upwards.reverse, content)]
  | .directory entries => filesOfEntries upwards [] entries

/-- The files of a directory's entries; of several entries with one name the first counts. -/
def filesOfEntries (upwards : Location) (seen : List String) :
    List (String × FileTree) → List (Location × ByteArray)
  | [] => []
  | (name, child) :: rest =>
    if seen.contains name then filesOfEntries upwards seen rest
    else child.filesFrom (name :: upwards) ++ filesOfEntries upwards (name :: seen) rest

end

/-- The files of a tree with their places and bytes. -/
def files (tree : FileTree) : List (Location × ByteArray) :=
  tree.filesFrom []

end FileTree

end MemoryKeeper
