import MemoryKeeper.Yaml.Block
import MemoryKeeper.Yaml.Property
import MemoryKeeper.Yaml.Scalar

/-!
# Tokens of a header

A header is cut into tokens without regard to what they mean together. A key
needs no mark of its own: a token at which a key may begin is remembered, and if
a colon follows on the same line and not too far off, the mark of a key is put
before it. A token at the column of a block mapping must turn out to be a key.

A block mapping begins with its first key and ends where something stands left of
it. There is at most one mapping, so brackets of sequences, entries of block
sequences, and a mapping inside another one are refused at once.
-/

namespace MemoryKeeper.Yaml

/-- What a header is made of. -/
inductive Token where
  | directive (directive : Directive)
  | documentStart
  | documentEnd
  | blockStart
  | blockEnd
  | flowStart
  | flowEnd
  | comma
  | key
  | value
  | anchor (name : String)
  | alias (name : String)
  | tag (handle : String)
  | scalar (text : String)
  deriving DecidableEq, Repr

/-- A token that may begin a key. -/
structure Candidate where
  start : Cursor
  /-- Whether nothing but a key can stand here. -/
  required : Bool

/-- How far a header was cut into tokens. -/
structure Scan where
  cursor : Cursor
  inFlow : Bool
  /-- The column of the block mapping that is open. -/
  indent : Option Nat
  /-- Whether a key may begin at the next token. -/
  keyAllowed : Bool
  candidate : Option Candidate
  /-- The tokens before the last one that might have begun a key, the last one first. -/
  settled : List Token
  /-- The tokens from there on, the last one first. -/
  recent : List Token

/-- The most characters between the start of a key and its colon. -/
def longestKey : Nat := 1024

/-- Whether a candidate is still a key if a colon stands at a position. -/
def Candidate.reaches (candidate : Candidate) (colon : Cursor) : Bool :=
  let passed := candidate.start.passedTo colon
  passed.length ≤ longestKey && !passed.any isBreak

/-- The characters that start something other than a plain scalar. -/
def indicators : List Char :=
  [',', '[', ']', '\x7b', '\x7d', '#', '&', '*', '!', '|', '>', '\'', '"', '%', '@', '\x60']

/-- Whether a plain scalar can start with the given characters. -/
def startsPlain (inFlow : Bool) : List Char → Bool
  | [] => false
  | '-' :: rest => !atBlank rest
  | '?' :: rest => !inFlow && !atBlank rest
  | ':' :: rest => !inFlow && !atBlank rest
  | character :: _ =>
    !isGap character && !isBreak character && !indicators.contains character

namespace Scan

def start (text : List Char) : Scan :=
  ⟨⟨text, 0⟩, false, none, true, none, [], []⟩

def tokens (scan : Scan) : List Token :=
  (scan.recent ++ scan.settled).reverse

/-- One more token, and the position behind it. -/
def push (token : Token) (after : Cursor) (keyAllowed : Bool) (scan : Scan) : Scan :=
  { scan with cursor := after, keyAllowed := keyAllowed, recent := token :: scan.recent }

/-- Gives up the candidate, unless it had to be a key. -/
def dropCandidate? (scan : Scan) : Option Scan :=
  if scan.candidate.any (·.required) then none else some { scan with candidate := none }

/-- Gives up a candidate that a colon at the present position would come too late for. -/
def dropStale? (scan : Scan) : Option Scan :=
  if scan.candidate.any (!·.reaches scan.cursor) then scan.dropCandidate? else some scan

/-- Makes the next token the candidate if a key may begin there. -/
def saveCandidate? (scan : Scan) : Option Scan :=
  if scan.keyAllowed then do
    let scan ← scan.dropCandidate?
    let required := !scan.inFlow && scan.indent = some scan.cursor.column
    return { scan with
      candidate := some ⟨scan.cursor, required⟩
      settled := scan.recent ++ scan.settled
      recent := [] }
  else some scan

/-- Ends the block mapping if the next token stands left of it. -/
def closeBefore (column : Nat) (scan : Scan) : Scan :=
  if !scan.inFlow && scan.indent.any (column < ·) then
    { scan with indent := none, recent := .blockEnd :: scan.recent }
  else scan

/-- Ends the block mapping if one is open. -/
def close (scan : Scan) : Scan :=
  if !scan.inFlow && scan.indent.isSome then
    { scan with indent := none, recent := .blockEnd :: scan.recent }
  else scan

/-- Opens a block mapping for a key at a column unless one is open there; gives the tokens that
are due for it, and refuses a mapping inside another one. -/
def openAt? (column : Nat) (scan : Scan) : Option (List Token × Scan) :=
  if scan.inFlow then some ([], scan)
  else
    match scan.indent with
    | none => some ([.blockStart], { scan with indent := some column })
    | some outer => if outer < column then none else some ([], scan)

/-- Passes what stands before the next token. -/
def approach? (scan : Scan) : Option Scan := do
  let gap := skipGap scan.inFlow false scan.keyAllowed scan.cursor.column scan.cursor.rest
  let scan ← dropStale? { scan with cursor := gap.next, keyAllowed := gap.keyAllowed }
  return scan.closeBefore scan.cursor.column

def finish? (scan : Scan) : Option Scan :=
  scan.close.dropCandidate?

/-- A token that stands on a line of its own and ends the block mapping. -/
def pushLine? (token : Token) (after : Cursor) (scan : Scan) : Option Scan := do
  let scan ← scan.close.dropCandidate?
  return scan.push token after false

/-- A mark of a key in full. -/
def pushKeyMark? (scan : Scan) : Option Scan := do
  if !scan.inFlow && !scan.keyAllowed then none
  else
    let (opening, scan) ← scan.openAt? scan.cursor.column
    let scan ← dropCandidate? { scan with recent := opening ++ scan.recent }
    return scan.push .key (scan.cursor.advance 1) (!scan.inFlow)

/-- A colon: the candidate is a key, or a key in full ends here. -/
def pushValueMark? (scan : Scan) : Option Scan :=
  match scan.candidate with
  | some candidate => do
    let (opening, scan) ← scan.openAt? candidate.start.column
    return push .value (scan.cursor.advance 1) false
      { scan with candidate := none, recent := scan.recent ++ .key :: opening }
  | none => do
    if !scan.inFlow && !scan.keyAllowed then none
    else
      let (opening, scan) ← scan.openAt? scan.cursor.column
      return push .value (scan.cursor.advance 1) (!scan.inFlow)
        { scan with recent := opening ++ scan.recent }

/-- A token that may begin a key, and the position behind it. -/
def pushStart? (token : Token) (after : Cursor) (keyAllowed : Bool) (scan : Scan) :
    Option Scan := do
  let scan ← scan.saveCandidate?
  return scan.push token after keyAllowed

/-- A block scalar, behind which a line begins. -/
def pushBlock? (folded : Bool) (text : List Char) (scan : Scan) : Option Scan := do
  let scan ← scan.dropCandidate?
  let (read, after) ← readBlock? folded scan.indent text
  return scan.push (.scalar (String.ofList read)) after true

def pushPlain? (scan : Scan) : Option Scan := do
  let indent := (scan.indent.map (· + 1)).getD 0
  let scalar ← readPlain? scan.inFlow indent [] .none scan.cursor.column scan.cursor.rest
  scan.pushStart? (.scalar (String.ofList scalar.text)) scalar.after scalar.passedBreak

/-- The scan behind the next token, which begins at the present position. -/
def pushNext? (scan : Scan) : Option Scan :=
  let cursor := scan.cursor
  let inFlow := scan.inFlow
  if cursor.column = 0 && cursor.rest.head? = some '%' then do
    let (directive, after) ← readDirective? cursor
    scan.pushLine? (.directive directive) after
  else if cursor.column = 0 && isStartMarker cursor.rest then
    scan.pushLine? .documentStart (cursor.advance 3)
  else if cursor.column = 0 && isEndMarker cursor.rest then
    scan.pushLine? .documentEnd (cursor.advance 3)
  else
    match cursor.rest with
    | '\x7b' :: _ =>
      if inFlow then none
      else
        some (push .flowStart (cursor.advance 1) true
          { scan with inFlow := true, candidate := none })
    | '\x7d' :: _ => do
      let scan ← scan.dropCandidate?
      if inFlow then
        return push .flowEnd (cursor.advance 1) false { scan with inFlow := false }
      else none
    | ',' :: _ => do
      let scan ← scan.dropCandidate?
      if inFlow then return scan.push .comma (cursor.advance 1) true else none
    | '*' :: _ => do
      let (name, after) ← readAnchor? cursor
      scan.pushStart? (.alias name) after false
    | '&' :: _ => do
      let (name, after) ← readAnchor? cursor
      scan.pushStart? (.anchor name) after false
    | '!' :: _ => do
      let (handle, after) ← readTag? inFlow cursor
      scan.pushStart? (.tag handle) after false
    | '\'' :: rest => do
      let (text, after) ← readSingle? [] .none (cursor.column + 1) rest
      scan.pushStart? (.scalar (String.ofList text)) after false
    | '"' :: rest => do
      let (text, after) ← readDouble? [] .none 0 [] (cursor.column + 1) rest
      scan.pushStart? (.scalar (String.ofList text)) after false
    | '|' :: rest => if inFlow then none else scan.pushBlock? false rest
    | '>' :: rest => if inFlow then none else scan.pushBlock? true rest
    | text =>
      let next := text.head?
      let isMark := inFlow || atBlank (text.drop 1)
      if next = some '?' && isMark then scan.pushKeyMark?
      else if next = some ':' && isMark then scan.pushValueMark?
      else if startsPlain inFlow text then scan.pushPlain?
      else none

/-- The tokens of what is left. Each step passes at least one character. -/
def run? (scan : Scan) : Option (List Token) :=
  match scan.approach? with
  | none => none
  | some before =>
    if before.cursor.rest.isEmpty then before.finish?.map tokens
    else
      match before.pushNext? with
      | none => none
      | some after =>
        if after.cursor.rest.length < scan.cursor.rest.length then after.run? else none
termination_by scan.cursor.rest.length

end Scan

/-- The tokens of a text that holds no characters but those allowed. -/
def tokens? (text : List Char) : Option (List Token) :=
  if text.all isAllowed then (Scan.start text).run? else none

end MemoryKeeper.Yaml
