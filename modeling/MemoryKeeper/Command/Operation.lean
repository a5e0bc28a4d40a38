/-!
# Operations

The closed set of operations in the order of their names, each with an example
of its use. Three of them change the repository.
-/

namespace MemoryKeeper

/-- An operation. -/
inductive Operation where
  | create
  | delete
  | diff
  | history
  | list
  | search
  | update
  | view
  deriving DecidableEq, Repr

namespace Operation

/-- Every operation in the order of the names. -/
def all : List Operation :=
  [.create, .delete, .diff, .history, .list, .search, .update, .view]

/-- The name of an operation in commands. -/
def name : Operation → String
  | .create => "create"
  | .delete => "delete"
  | .diff => "diff"
  | .history => "history"
  | .list => "list"
  | .search => "search"
  | .update => "update"
  | .view => "view"

/-- The operation of a name; case matters. -/
def ofName? (name : String) : Option Operation :=
  all.find? (·.name = name)

def names : List String :=
  all.map name

@[simp]
theorem ofName?_name (operation : Operation) : ofName? operation.name = some operation := by
  cases operation <;> decide

theorem name_of_ofName? {text : String} {operation : Operation}
    (found : ofName? text = some operation) : operation.name = text := by
  simpa using List.find?_some found

/-- An example of an operation's use. -/
def sample : Operation → String
  | .search => "(search \"authentication\" 3)"
  | .create => "(create 💡 \"my-insight\" \"What I learned today\")"
  | .view => "(view \"my-insight\")"
  | .update => "(update \"my-insight\" \"Revised understanding\")"
  | .delete => "(delete \"my-insight\")"
  | .history => "(history \"memories/\" 5)"
  | .diff => "(diff \"HEAD~1\" \"HEAD\")"
  | .list => "(list 💡)"

/-- Whether an operation changes the repository. -/
def isMutating : Operation → Bool
  | .create | .update | .delete => true
  | _ => false

end Operation

end MemoryKeeper
