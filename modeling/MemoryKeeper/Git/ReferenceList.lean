import MemoryKeeper.Git.Reference

/-!
# Lists of references

A list has one line for each reference, with the identifier of a commit and the name
behind it. A line behind it that begins with a caret gives the commit of a tag. Lines
at the beginning that begin with a hash are headings. In a list whose heading says
that it is sorted a reference is looked for by halving, and no other line needs to be
understood.
-/

namespace MemoryKeeper.Git.ReferenceList

/-- The identifier that counts for a reference to a tag: that of the tag's commit, unless it
consists of zeros. -/
def peel (tag commit : ObjectId) : ObjectId :=
  if commit.text.toList.all (· = '0') then tag else commit

/-- A line of text, and whether a line feed ends it. -/
structure Line where
  text : List Char
  ended : Bool

def Line.size (line : Line) : Nat :=
  if line.ended then line.text.length + 1 else line.text.length

/-- The lines of a text, given what was read of the first one. -/
def lines (read : List Char) : List Char → List Line
  | [] => if read.isEmpty then [] else [⟨read, false⟩]
  | character :: rest =>
    if character = '\n' then ⟨read, true⟩ :: lines [] rest
    else lines (read ++ [character]) rest

/-- An item of a list. -/
structure Item where
  name : List Char
  identifier : ObjectId
  deriving DecidableEq, Repr

def Item.ofLine? (line : Line) : Option Item := do
  let identifier ← leadingIdentifier? line.text
  match line.text.drop identifierLength with
  | ' ' :: name => if line.ended then return ⟨name, identifier⟩ else none
  | _ => none

/-- The commit of a tag, in the text behind the caret of a line. -/
def commit? (text : List Char) (ended : Bool) : Option ObjectId :=
  if !ended && identifierLength < text.length then none else leadingIdentifier? text

def items? : List Line → Option (List Item)
  | [] => some []
  | line :: ⟨'^' :: text, ended⟩ :: rest => do
    let tag ← Item.ofLine? line
    let commit ← commit? text ended
    return ⟨tag.name, peel tag.identifier commit⟩ :: (← items? rest)
  | line :: rest => return (← Item.ofLine? line) :: (← items? rest)

/-- The identifier that a name has in lines, one carriage return at their ends left out. Of several
the last one counts. -/
def findInAll (name : List Char) (lines : List Line) :
    Except ReferenceProblem (Option ObjectId) :=
  match items? lines with
  | some items =>
    .ok ((items.reverse.find? fun item => Text.dropCarriageReturn item.name = name).map
      Item.identifier)
  | none => .error .corruptList

/-- A line with those behind it that begin with a caret. -/
structure Entry where
  line : Line
  others : List Line

namespace Entry

def ofLines : List Line → List Entry
  | [] => []
  | line :: rest =>
    match ofLines rest with
    | [] => [⟨line, []⟩]
    | entry :: entries =>
      if entry.line.text.head? = some '^' then ⟨line, entry.line :: entry.others⟩ :: entries
      else ⟨line, []⟩ :: entry :: entries

def size (entry : Entry) : Nat :=
  (entry.line :: entry.others).foldl (fun size line => size + line.size) 0

def totalSize (entries : List Entry) : Nat :=
  entries.foldl (fun total entry => total + entry.size) 0

def name (entry : Entry) : List Char :=
  entry.line.text.drop (identifierLength + 1)

/-- Whether an entry stands before a name in the order of the list; one that is too short does. -/
def isBefore (name : List Char) (entry : Entry) : Bool :=
  entry.size < identifierLength + 3 || entry.name < name

def identifier? (entry : Entry) : Option ObjectId := do
  let identifier ← leadingIdentifier? entry.line.text
  match entry.others with
  | [] => if entry.line.ended then return identifier else none
  | other :: _ => return peel identifier (← leadingIdentifier? (other.text.drop 1))

/-- The entry at a distance from the beginning, with those before it and those behind it. -/
def split? (distance : Nat) : List Entry → Option (List Entry × Entry × List Entry)
  | [] => none
  | entry :: rest =>
    if distance < entry.size then some ([], entry, rest)
    else
      (split? (distance - entry.size) rest).map fun (before, found, behind) =>
        (entry :: before, found, behind)

/-- The entry of a name, found by halving a list a number of times at most. -/
def search? (name : List Char) : Nat → List Entry → Option Entry
  | 0, _ => none
  | limit + 1, entries =>
    match split? (totalSize entries / 2) entries with
    | none => none
    | some (before, entry, behind) =>
      if entry.isBefore name then search? name limit behind
      else if entry.name = name then some entry
      else search? name limit before

end Entry

/-- The identifier that a name has in lines that are sorted. -/
def findByHalving (name : List Char) (lines : List Line) :
    Except ReferenceProblem (Option ObjectId) :=
  let entries := Entry.ofLines lines
  match Entry.search? name entries.length entries with
  | none => .ok none
  | some entry =>
    match entry.identifier? with
    | some identifier => .ok (some identifier)
    | none => .error .corruptList

/-- Whether the heading of a list says that it is sorted. -/
def isSorted (lines : List Line) : Bool :=
  lines.head?.any fun line =>
    (Text.after? "# pack-refs with: ".toList line.text).any (Text.holds " sorted ".toList)

/-- The identifier that a name has in a list. -/
def find (name : List Char) (content : List Char) :
    Except ReferenceProblem (Option ObjectId) :=
  let all := lines [] content
  let isHeading (line : Line) : Bool := line.text.head? = some '#'
  let rest := all.dropWhile isHeading
  if (all.takeWhile isHeading).any (!·.ended) then .error .corruptList
  else if isSorted all then findByHalving name rest
  else findInAll name rest

end MemoryKeeper.Git.ReferenceList
