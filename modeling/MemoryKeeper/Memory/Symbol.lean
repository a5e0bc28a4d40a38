/-!
# Memory symbols

Every memory belongs to one of four categories. A category is written as a
glyph in commands and document headers, and as an ASCII word in directory
names. The order of the categories is the order in which directories are
searched and listed.
-/

namespace MemoryKeeper

/-- A category of memories. -/
inductive Symbol where
  | insight
  | pattern
  | goal
  | exploration
  deriving DecidableEq, Repr

namespace Symbol

/-- Every category, in search order. -/
def all : List Symbol :=
  [.insight, .pattern, .goal, .exploration]

theorem mem_all (symbol : Symbol) : symbol ∈ all := by
  cases symbol <;> simp [all]

/-- The glyph of a category as a character. -/
def glyphChar : Symbol → Char
  | .insight => '💡'
  | .pattern => '🔄'
  | .goal => '🎯'
  | .exploration => '🌀'

def glyph (symbol : Symbol) : String :=
  String.singleton symbol.glyphChar

/-- The name of the directory that holds a category. -/
def kind : Symbol → String
  | .insight => "insight"
  | .pattern => "pattern"
  | .goal => "goal"
  | .exploration => "exploration"

def ofGlyph? (text : String) : Option Symbol :=
  all.find? (·.glyph = text)

def ofKind? (text : String) : Option Symbol :=
  all.find? (·.kind = text)

/-- Whether a character is one of the glyphs. -/
def isGlyph (character : Char) : Bool :=
  all.any (·.glyphChar = character)

@[simp]
theorem ofGlyph?_glyph (symbol : Symbol) : ofGlyph? symbol.glyph = some symbol := by
  cases symbol <;> decide

@[simp]
theorem ofKind?_kind (symbol : Symbol) : ofKind? symbol.kind = some symbol := by
  cases symbol <;> decide

theorem glyph_of_ofGlyph? {text : String} {symbol : Symbol} (found : ofGlyph? text = some symbol) :
    symbol.glyph = text := by
  simpa using List.find?_some found

theorem kind_of_ofKind? {text : String} {symbol : Symbol} (found : ofKind? text = some symbol) :
    symbol.kind = text := by
  simpa using List.find?_some found

/-- The glyphs in order with blanks between them, as error texts show them. -/
def glyphList : String :=
  " ".intercalate (all.map glyph)

end Symbol

end MemoryKeeper
