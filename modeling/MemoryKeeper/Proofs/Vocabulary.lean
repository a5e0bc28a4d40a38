import MemoryKeeper.Command.Literal
import MemoryKeeper.Command.Operation
import MemoryKeeper.Proofs.Places

/-!
# Words that callers see

The names, glyphs and examples of the language stand here as its description lists
them, and so do the data that a literal is reported as. Results about what is
written to a file, asked of git or printed are stated in these words. They owe
nothing to the functions that write them; that both agree is what the lemmas say.
-/

namespace MemoryKeeper.Vocabulary

def name : Operation → String
  | .create => "create"
  | .delete => "delete"
  | .diff => "diff"
  | .history => "history"
  | .list => "list"
  | .search => "search"
  | .update => "update"
  | .view => "view"

def names : List String :=
  ["create", "delete", "diff", "history", "list", "search", "update", "view"]

/-- The example that an error about an operation's arguments suggests. -/
def suggestion : Operation → String
  | .create => "(create 💡 \"my-insight\" \"What I learned today\")"
  | .delete => "(delete \"my-insight\")"
  | .diff => "(diff \"HEAD~1\" \"HEAD\")"
  | .history => "(history \"memories/\" 5)"
  | .list => "(list 💡)"
  | .search => "(search \"authentication\" 3)"
  | .update => "(update \"my-insight\" \"Revised understanding\")"
  | .view => "(view \"my-insight\")"

def glyph : Symbol → String
  | .insight => "💡"
  | .pattern => "🔄"
  | .goal => "🎯"
  | .exploration => "🌀"

/-- The path of a memory's file below the work tree. -/
def path : MemoryEntry → String
  | ⟨.insight, slug⟩ => "memories/insight/" ++ slug.text ++ ".md"
  | ⟨.pattern, slug⟩ => "memories/pattern/" ++ slug.text ++ ".md"
  | ⟨.goal, slug⟩ => "memories/goal/" ++ slug.text ++ ".md"
  | ⟨.exploration, slug⟩ => "memories/exploration/" ++ slug.text ++ ".md"

/-- The data that a literal is reported as. -/
def value : Literal → Json
  | .string text => .string text
  | .glyph text => .string text
  | .word text => .string text
  | .number (.integer value) => .integer value
  | .number (.double value) => .double value

theorem name_eq (operation : Operation) : operation.name = name operation := by
  cases operation <;> rfl

theorem names_eq : Operation.names = names :=
  rfl

theorem mem_names_iff {text : String} :
    text ∈ names ↔ ∃ operation : Operation, text = operation.name := by
  rw [← names_eq, Operation.names, List.mem_map]
  constructor
  · rintro ⟨operation, -, rfl⟩
    exact ⟨operation, rfl⟩
  · rintro ⟨operation, rfl⟩
    exact ⟨operation, by cases operation <;> decide, rfl⟩

theorem sample_eq_suggestion (operation : Operation) : operation.sample = suggestion operation := by
  cases operation <;> rfl

theorem glyph_eq (symbol : Symbol) : symbol.glyph = glyph symbol := by
  cases symbol <;> decide

theorem relativePath_eq_path (entry : MemoryEntry) : entry.relativePath = path entry := by
  rw [MemoryEntry.relativePath_eq]
  rcases entry with ⟨symbol, slug⟩
  cases symbol <;> rfl

theorem toJson_eq_value (argument : Literal) : argument.toJson = value argument := by
  rcases argument with text | (value | value) | text | text <;> rfl

end MemoryKeeper.Vocabulary
