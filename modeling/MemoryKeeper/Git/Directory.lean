import MemoryKeeper.Files.Tree

/-!
# Git directories

A git directory has a file `HEAD`. The objects and references lie in its common
directory, which is the directory itself unless a file `commondir` names another
one. A path in such a file ends before the spaces at the end of the file, and a
relative one is seen from the git directory.
-/

namespace MemoryKeeper.Git

open MemoryKeeper.Path (Location)

def isSpace (character : Char) : Bool :=
  character = ' ' || character = '\t' || character = '\n' || character = '\x0b' ||
    character = '\x0c' || character = '\r'

/-- A text without the spaces at its end. -/
def trimSpaces (text : List Char) : List Char :=
  (text.reverse.dropWhile isSpace).reverse

/-- What stands in a text before the first null character. -/
def untilNull (text : List Char) : List Char :=
  text.takeWhile (· ≠ '\x00')

/-- The content of the file at a place; octets that are no text are marked. -/
def content? (tree : FileTree) (place : Location) : Option (List Char) :=
  match tree.find place with
  | .ok (.file bytes _) => some (Text.decodeLenient bytes).toList
  | _ => none

/-- The path that the file at a place holds. -/
def linkText? (tree : FileTree) (place : Location) : Option String :=
  (content? tree place).map fun content => String.ofList (untilNull (trimSpaces content))

/-- The text of a directory's place with a slash at the end. -/
def directoryText (place : Location) : String :=
  Path.join (Path.ofLocation place) ""

/-- The place of what stands at a path, seen from a directory; an empty path leads to the directory
itself. -/
def target? (tree : FileTree) (directory : Location) (path : String) : Option Location :=
  (tree.locate "/" (Path.join (directoryText directory) path)).toOption

/-- The common directory of a git directory; none if the directory names one that is not there. -/
def common? (tree : FileTree) (directory : Location) : Option Location :=
  match linkText? tree (directory ++ ["commondir"]) with
  | some path => target? tree directory path
  | none => some directory

/-- Whether a directory with a given common directory is a git directory. -/
def isGitDirectory (tree : FileTree) (directory common : Location) : Bool :=
  tree.isFile (directory ++ ["HEAD"]) && tree.isDirectory (common ++ ["objects"]) &&
    tree.isDirectory (common ++ ["refs"])

end MemoryKeeper.Git
