import MemoryKeeper.Number.Double

/-!
# Structured data

A value is a null, a truth value, an integer, a double, a string, an array or an
object. An object keeps its members in the order in which they were given.
-/

namespace MemoryKeeper

/-- A structured value. -/
inductive Json where
  | null
  | boolean (value : Bool)
  | integer (value : Int)
  | double (value : Double)
  | string (text : String)
  | array (items : List Json)
  | object (members : List (String × Json))
  deriving Repr, Inhabited

namespace Json

/-- The member of a given name, the first if there are several. -/
def member? (name : String) : Json → Option Json
  | .object members => members.lookup name
  | _ => none

/-- A member that is written only when it has a value. -/
def optionalMember (name : String) (value : Option Json) : List (String × Json) :=
  match value with
  | some present => [(name, present)]
  | none => []

end Json

end MemoryKeeper
