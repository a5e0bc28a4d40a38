/-!
# Object identifiers

A commit is named by 40 or 64 hexadecimal digits. Upper-case ASCII letters are
written in lower case first, and the length, counted in bytes, is looked at
before the digits.
-/

namespace MemoryKeeper

def isLowerHexDigit (character : Char) : Bool :=
  character.isDigit || ('a' ≤ character && character ≤ 'f')

/-- Why a text is no object identifier. -/
inductive ObjectIdProblem where
  | length (bytes : Nat)
  | digits
  deriving DecidableEq, Repr

def ObjectIdProblem.message : ObjectIdProblem → String
  | .length bytes => s!"expected 40 or 64 hex characters, got {bytes}"
  | .digits => "object id must be hexadecimal"

/-- Whether a text in lower case is an object identifier. -/
def isObjectId (text : String) : Bool :=
  (text.utf8ByteSize = 40 || text.utf8ByteSize = 64) && text.toList.all isLowerHexDigit

/-- The name of a commit. -/
structure ObjectId where
  text : String
  wellFormed : isObjectId text
  deriving DecidableEq

namespace ObjectId

instance : Repr ObjectId where
  reprPrec identifier precedence := reprPrec identifier.text precedence

/-- The identifier that a text is, or what is wrong with it. -/
def ofString (text : String) : Except ObjectIdProblem ObjectId :=
  let lower := String.ofList (text.toList.map Char.toLower)
  if wellFormed : isObjectId lower then .ok ⟨lower, wellFormed⟩
  else if lower.utf8ByteSize ≠ 40 ∧ lower.utf8ByteSize ≠ 64 then
    .error (.length lower.utf8ByteSize)
  else .error .digits

end ObjectId

end MemoryKeeper
