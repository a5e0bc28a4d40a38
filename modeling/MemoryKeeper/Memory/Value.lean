import MemoryKeeper.Memory.Symbol
import MemoryKeeper.Memory.Slug
import MemoryKeeper.Memory.Depth
import MemoryKeeper.Memory.ObjectId

/-!
# Values from outside

Symbols, slugs, depths and object identifiers are made from texts and numbers
that come from outside. This module names what can be wrong with them and words
it.
-/

namespace MemoryKeeper

/-- Why a text or number is no value of a memory's types. -/
inductive ValueError where
  | symbol (text : String)
  | slug (text : String)
  | depth (value : Nat)
  | objectId (problem : ObjectIdProblem)
  deriving DecidableEq, Repr

def ValueError.message : ValueError → String
  | .symbol text => "invalid symbol: " ++ text
  | .slug text => "invalid slug: " ++ text
  | .depth value => s!"invalid depth: {value} is not one of [" ++ Depth.legalList ++ "]"
  | .objectId problem => "invalid object id: " ++ problem.message

def Symbol.ofGlyph (text : String) : Except ValueError Symbol :=
  match Symbol.ofGlyph? text with
  | some symbol => .ok symbol
  | none => .error (.symbol text)

def Slug.ofString (text : String) : Except ValueError Slug :=
  match Slug.ofString? text with
  | some slug => .ok slug
  | none => .error (.slug text)

def Depth.ofNat (value : Nat) : Except ValueError Depth :=
  match Depth.ofNat? value with
  | some depth => .ok depth
  | none => .error (.depth value)

/-- The object identifier that a text is. -/
def ObjectId.read (text : String) : Except ValueError ObjectId :=
  match ObjectId.ofString text with
  | .ok identifier => .ok identifier
  | .error problem => .error (.objectId problem)

end MemoryKeeper
