import MemoryKeeper.Git.Directory
import MemoryKeeper.Memory.ObjectId
import MemoryKeeper.Text.Lines

/-!
# References

A reference is a name for a commit or for another reference. What it names stands
in a file of its own, or in a list of references.
-/

namespace MemoryKeeper.Git

/-- What a branch points at. -/
inductive Head where
  /-- There is no commit yet. -/
  | unborn
  | commit (identifier : ObjectId)
  /-- The branch cannot be read, for the reason given. -/
  | unreadable (complaint : String)
  deriving DecidableEq, Repr

/-- What a reference names. -/
inductive Reference where
  | object (identifier : ObjectId)
  | reference (name : String)
  deriving DecidableEq, Repr

/-- Why a reference cannot be read. -/
inductive ReferenceProblem where
  | corruptFile
  | corruptList
  | invalidName
  | tooDeep
  | missingObject
  deriving DecidableEq, Repr

def ReferenceProblem.message : ReferenceProblem → String
  | .corruptFile => "the reference is corrupt"
  | .corruptList => "the list of packed references is corrupt"
  | .invalidName => "the name of the reference is not valid"
  | .tooDeep => "references follow one another too deep"
  | .missingObject => "the object of the reference is missing"

/-- The number of digits of an object's identifier. -/
def identifierLength : Nat := 40

/-- The identifier that a text begins with. -/
def leadingIdentifier? (text : List Char) : Option ObjectId :=
  if text.length < identifierLength then none
  else (ObjectId.ofString (String.ofList (text.take identifierLength))).toOption

namespace Reference

/-- What stands before the name of another reference. -/
def mark : List Char := "ref: ".toList

def ofContent (content : List Char) : Except ReferenceProblem Reference :=
  match Text.after? mark content with
  | some _ =>
    match Text.after? mark (trimSpaces content) with
    | some (first :: name) => .ok (.reference (String.ofList (untilNull (first :: name))))
    | _ => .error .corruptFile
  | none =>
    match leadingIdentifier? content with
    | some identifier =>
      if (content.drop identifierLength).head?.all fun c => isSpace c || c = '\x00' then
        .ok (.object identifier)
      else .error .corruptFile
    | none => .error .corruptFile

/-- The characters that no name may hold. -/
def isForbidden (character : Char) : Bool :=
  character.toNat < 0x20 || [' ', '~', '^', ':', '?', '*', '[', '\\', '\x7f'].contains character

/-- Whether a part of a name between slashes is valid. -/
def isValidPart (part : List Char) : Bool :=
  part.head?.any (· ≠ '.') && !part.any isForbidden && !Text.holds ['.', '.'] part &&
    !Text.holds ['@', '\x7b'] part && Text.withoutEnding ".lock".toList part = part

/-- Whether a part of a name is in capitals, as names without a slash must be and the first parts
of others must not. -/
def isCapital (part : List Char) : Bool :=
  !part.isEmpty && part.all (fun c => c.isUpper || c = '_') && part.head? ≠ some '_' &&
    part.getLast? ≠ some '_'

/-- The name that a text spells, if it is valid; slashes may be repeated. -/
def validName? (text : String) : Option String :=
  let parts := (Path.pieces text).filter (!·.isEmpty)
  let isLong := 1 < parts.length
  let endsBadly := text.toList.getLast?.all fun last => last = '/' || last = '.'
  if Path.isAbsolute text || endsBadly || !parts.all isValidPart then none
  else if parts.head?.all fun first => isCapital first = isLong then none
  else some ("/".intercalate (parts.map String.ofList))

end Reference

end MemoryKeeper.Git
