import MemoryKeeper.Yaml.Cursor

/-!
# Block scalars

A block scalar is a bar or an angle bracket at the end of a line and the indented
lines behind it. A bar keeps its line breaks; an angle bracket folds those between
lines that begin with no blank. What is kept of the line breaks at the end depends
on the mark of chomping.

A line belongs to a block if it is indented as deep as the block, which is deeper
than the mapping that the block stands in. Empty lines belong to it in any case.
-/

namespace MemoryKeeper.Yaml

/-- A line and the break that ends it. -/
abbrev Line := List Char × List Char

/-- The lines of a text, given what was read of the first one. -/
def splitLines (read : List Char) : List Char → List Line
  | [] => if read.isEmpty then [] else [(read, [])]
  | character :: rest =>
    if isBreak character then
      if character = '\r' ∧ rest.head? = some '\n' then splitLines read rest
      else (read, [normalizeBreak character]) :: splitLines [] rest
    else splitLines (read ++ [character]) rest

/-- The number of spaces at the start of a line. -/
def leadingSpaces (line : List Char) : Nat :=
  (line.takeWhile (· = ' ')).length

/-- The indentation of a block that announces none: that of the first line that holds more than
spaces, or of a longer line of spaces before it. A tab may not stand in its place. -/
def detectIndent? (least deepest : Nat) : List Line → Option Nat
  | [] => some (max least deepest)
  | (line, ending) :: rest =>
    let spaces := leadingSpaces line
    let deepest := max deepest spaces
    match line.drop spaces with
    | [] => if ending.isEmpty then some (max least deepest) else detectIndent? least deepest rest
    | '\t' :: _ => none
    | _ => some (max least deepest)

/-- What a block keeps of the line breaks at its end. -/
inductive Chomping where
  | strip
  | clip
  | keep

/-- A block that is being read: its text, the break behind its last line, and the empty lines
behind that. -/
structure Block where
  text : List Char
  lastBreak : List Char
  emptyLines : List Char
  /-- Whether the last line began with a blank, which no fold touches. -/
  indentedMore : Bool

def Block.finish (chomping : Chomping) (block : Block) : List Char :=
  match chomping with
  | .strip => block.text
  | .clip => block.text ++ block.lastBreak
  | .keep => block.text ++ block.lastBreak ++ block.emptyLines

def Block.addLine (folded : Bool) (body ending : List Char) (block : Block) : Block :=
  let beginsBlank := body.head?.any isGap
  let joint :=
    if folded && block.lastBreak = ['\n'] && !block.indentedMore && !beginsBlank then
      if block.emptyLines.isEmpty then [' '] else []
    else block.lastBreak
  ⟨block.text ++ joint ++ block.emptyLines ++ body, ending, [], beginsBlank⟩

/-- The lines of a block, and the lines that follow it. -/
def readBlockLines? (folded : Bool) (indent : Nat) (block : Block) :
    List Line → Option (Block × List Line)
  | [] => some (block, [])
  | (line, ending) :: rest =>
    let spaces := min indent (leadingSpaces line)
    match line.drop spaces with
    | [] =>
      readBlockLines? folded indent { block with emptyLines := block.emptyLines ++ ending } rest
    | first :: body =>
      if spaces < indent then
        if first = '\t' then none else some (block, (line, ending) :: rest)
      else readBlockLines? folded indent (block.addLine folded (first :: body) ending) rest

/-- The indentation and the chomping that the head of a block announces, and what follows. -/
def readBlockHead? : List Char → Option (Option Nat × Chomping × List Char)
  | '+' :: rest => readWidth .keep rest
  | '-' :: rest => readWidth .strip rest
  | digit :: rest =>
    if '1' ≤ digit ∧ digit ≤ '9' then
      let width := some (digit.toNat - '0'.toNat)
      match rest with
      | '+' :: rest => some (width, .keep, rest)
      | '-' :: rest => some (width, .strip, rest)
      | rest => some (width, .clip, rest)
    else if digit = '0' then none
    else some (none, .clip, digit :: rest)
  | [] => some (none, .clip, [])
where
  /-- An indentation behind a chomping mark. -/
  readWidth (chomping : Chomping) : List Char → Option (Option Nat × Chomping × List Char)
    | digit :: rest =>
      if '1' ≤ digit ∧ digit ≤ '9' then some (some (digit.toNat - '0'.toNat), chomping, rest)
      else if digit = '0' then none
      else some (none, chomping, digit :: rest)
    | [] => some (none, chomping, [])

/-- Reads a block whose mark was read, inside a mapping of a given indentation if there is one. -/
def readBlock? (folded : Bool) (outer : Option Nat) (text : List Char) :
    Option (List Char × Cursor) := do
  let (width, chomping, rest) ← readBlockHead? text
  let head ← Cursor.endOfLine? ⟨rest, 0⟩
  let lines := (splitLines [] head.rest).drop 1
  let indent ←
    match width with
    | some more => some (outer.getD 0 + more)
    | none => detectIndent? ((outer.map (· + 1)).getD 1) 0 lines
  let (block, after) ← readBlockLines? folded indent ⟨[], [], [], false⟩ lines
  return (block.finish chomping, ⟨after.flatMap fun (line, ending) => line ++ ending, 0⟩)

end MemoryKeeper.Yaml
