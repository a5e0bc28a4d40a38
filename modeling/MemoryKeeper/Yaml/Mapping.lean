import MemoryKeeper.Yaml.Token

/-!
# Flat mappings

A header is one YAML document whose root is a mapping of scalars, in block style
with one key to a line or in flow style between braces. Directives stand before a
document start, and document ends behind the mapping; there is no second
document. A node that is left out, or of which there are only properties, is an
empty scalar. A tag changes nothing, but its handle must be declared.

An alias stands for a node with an anchor. Anchors are numbered: a new one gets
the number of names in use, whether its own name is among them or not, and an
alias gets the number that its name has where the alias stands. In the end it
stands for the last node with that number. So a name that is used twice gives the
later use the next new name's number, and an alias may stand for a later node.
-/

namespace MemoryKeeper.Yaml

/-- A key or a value. -/
inductive Node where
  | scalar (anchor : Option String) (text : String)
  | alias (name : String)
  deriving DecidableEq, Repr

def Node.empty : Node :=
  .scalar none ""

abbrev Entry := Node × Node

/-- A document whose root is a mapping. -/
structure Document where
  /-- The anchor of the mapping itself. -/
  anchor : Option String
  entries : List Entry
  deriving DecidableEq, Repr

/-- The properties of a node. -/
structure Properties where
  anchor : Option String
  handle : Option String
  deriving DecidableEq, Repr

/-- The properties that tokens begin with, in either order, and the tokens behind them. -/
def splitProperties : List Token → Properties × List Token
  | .anchor name :: .tag handle :: rest => (⟨some name, some handle⟩, rest)
  | .tag handle :: .anchor name :: rest => (⟨some name, some handle⟩, rest)
  | .anchor name :: rest => (⟨some name, none⟩, rest)
  | .tag handle :: rest => (⟨none, some handle⟩, rest)
  | tokens => (⟨none, none⟩, tokens)

/-- The handles that need no declaration. -/
def knownHandles : List String :=
  [plainHandle, "!!"]

namespace Properties

def arePresent (properties : Properties) : Bool :=
  properties.anchor.isSome || properties.handle.isSome

/-- Whether the tag has a handle that may be used. -/
def isDeclared (handles : List String) (properties : Properties) : Bool :=
  properties.handle.all fun handle => (handles ++ knownHandles).contains handle

end Properties

/-- The node that tokens begin with, and the tokens behind it; no node is a collection. -/
def readNode? (handles : List String) (tokens : List Token) : Option (Node × List Token) :=
  match tokens with
  | .alias name :: rest => some (.alias name, rest)
  | tokens =>
    let (properties, rest) := splitProperties tokens
    if !properties.isDeclared handles then none
    else
      match rest with
      | .scalar text :: rest => some (.scalar properties.anchor text, rest)
      | .flowStart :: _ | .blockStart :: _ => none
      | rest =>
        if properties.arePresent then some (.scalar properties.anchor "", rest) else none

/-- The node that tokens begin with; an empty one if a token follows that ends it. -/
def readOptional? (handles : List String) (ends : Token → Bool) (tokens : List Token) :
    Option (Node × List Token) :=
  if tokens.head?.any ends then some (.empty, tokens) else readNode? handles tokens

/-- The value that tokens begin with; an empty one if there is no mark of a value. -/
def readValue? (handles : List String) (ends : Token → Bool) :
    List Token → Option (Node × List Token)
  | .value :: rest => readOptional? handles ends rest
  | tokens => some (.empty, tokens)

/-- The tokens that end a node of a block mapping. -/
def endsBlockNode (token : Token) : Bool :=
  token = .key || token = .value || token = .blockEnd

/-- The tokens that end a key of a flow mapping. -/
def endsFlowKey (token : Token) : Bool :=
  token = .value || token = .comma || token = .flowEnd

/-- The tokens that end a value of a flow mapping. -/
def endsFlowValue (token : Token) : Bool :=
  token = .comma || token = .flowEnd

/-- The entry of a block mapping behind the mark of its key. -/
def readBlockEntry? (handles : List String) (tokens : List Token) :
    Option (Entry × List Token) := do
  let (key, afterKey) ← readOptional? handles endsBlockNode tokens
  let (value, rest) ← readValue? handles endsBlockNode afterKey
  return ((key, value), rest)

/-- The entry of a flow mapping; without a mark of its key it is a key alone. -/
def readFlowEntry? (handles : List String) : List Token → Option (Entry × List Token)
  | .key :: tokens => do
    let (key, afterKey) ← readOptional? handles endsFlowKey tokens
    let (value, rest) ← readValue? handles endsFlowValue afterKey
    return ((key, value), rest)
  | tokens => do
    let (key, rest) ← readNode? handles tokens
    return ((key, .empty), rest)

/-- The entries of a block mapping up to its end, and the tokens behind it. -/
def readBlockEntries? (handles : List String) :
    List Token → Option (List Entry × List Token)
  | .blockEnd :: rest => some ([], rest)
  | .key :: tokens =>
    match readBlockEntry? handles tokens with
    | none => none
    | some (entry, rest) =>
      if rest.length ≤ tokens.length then
        (readBlockEntries? handles rest).map fun (entries, rest) => (entry :: entries, rest)
      else none
  | _ => none
termination_by tokens => tokens.length
decreasing_by
  simp only [List.length_cons]
  omega

/-- The entries of a flow mapping up to its end, and the tokens behind it. A comma may stand
behind the last entry. -/
def readFlowEntries? (handles : List String) (tokens : List Token) :
    Option (List Entry × List Token) :=
  match tokens with
  | .flowEnd :: rest => some ([], rest)
  | tokens =>
    match readFlowEntry? handles tokens with
    | none => none
    | some (entry, .flowEnd :: rest) => some ([entry], rest)
    | some (entry, .comma :: after) =>
      if after.length < tokens.length then
        (readFlowEntries? handles after).map fun (entries, rest) => (entry :: entries, rest)
      else none
    | some _ => none
termination_by tokens.length

/-- The mapping that tokens begin with, and the tokens behind it. -/
def readRoot? (handles : List String) (tokens : List Token) :
    Option (Document × List Token) := do
  let (properties, rest) := splitProperties tokens
  if !properties.isDeclared handles then none
  else
    let (entries, after) ←
      match rest with
      | .blockStart :: rest => readBlockEntries? handles rest
      | .flowStart :: rest => readFlowEntries? handles rest
      | _ => none
    return (⟨properties.anchor, entries⟩, after)

/-- The versions that a directive may name. -/
def isKnownVersion (major minor : Nat) : Bool :=
  major = 1 && (minor = 1 || minor = 2)

/-- The handles that directives declare, once each, and the tokens behind the directives, given
whether a version was named and which handles were declared. -/
def readDirectives? (versioned : Bool) (handles : List String) :
    List Token → Option (List String × List Token)
  | .directive (.version major minor) :: rest =>
    if versioned || !isKnownVersion major minor then none
    else readDirectives? true handles rest
  | .directive (.handle name) :: rest =>
    if handles.contains name then none else readDirectives? versioned (name :: handles) rest
  | tokens => some (handles, tokens)

def readDocument? (tokens : List Token) : Option Document := do
  let (handles, rest) ← readDirectives? false [] tokens
  let (document, after) ←
    match rest with
    | .documentStart :: rest => readRoot? handles rest
    | rest => if rest.length < tokens.length then none else readRoot? handles rest
  if after.all (· = .documentEnd) then return document else none

/-- The numbers of anchors, and what they stand for. -/
structure Anchors where
  numbers : List (String × Nat)
  /-- The texts of the nodes that have a number, the last one first; a mapping has none. -/
  nodes : List (Nat × Option String)

namespace Anchors

/-- One more node, if it has an anchor. -/
def add (anchor : Option String) (text : Option String) (anchors : Anchors) : Anchors :=
  match anchor with
  | none => anchors
  | some name =>
    let number := anchors.numbers.length
    ⟨(name, number) :: anchors.numbers.filter (·.1 ≠ name), (number, text) :: anchors.nodes⟩

end Anchors

/-- A node whose alias was replaced by its number. -/
abbrev Numbered := String ⊕ Nat

/-- A node with its alias replaced by the number that its name has. -/
def Node.number? (node : Node) (anchors : Anchors) : Option (Numbered × Anchors) :=
  match node with
  | .scalar anchor text => some (.inl text, anchors.add anchor (some text))
  | .alias name => (anchors.numbers.lookup name).map fun number => (.inr number, anchors)

/-- Entries with all aliases replaced by numbers. -/
def numberEntries? (anchors : Anchors) :
    List Entry → Option (List (Numbered × Numbered) × Anchors)
  | [] => some ([], anchors)
  | (key, value) :: rest => do
    let (key, anchors) ← key.number? anchors
    let (value, anchors) ← value.number? anchors
    let (rest, anchors) ← numberEntries? anchors rest
    return ((key, value) :: rest, anchors)

/-- The text that a node or a number stands for. -/
def Anchors.text? (anchors : Anchors) : Numbered → Option String
  | .inl text => some text
  | .inr number => (anchors.nodes.lookup number).join

/-- The texts of a document's entries, in order. -/
def Document.texts? (document : Document) : Option (List (String × String)) := do
  let root := Anchors.add document.anchor none ⟨[], []⟩
  let (entries, anchors) ← numberEntries? root document.entries
  entries.mapM fun (key, value) => do
    return (← anchors.text? key, ← anchors.text? value)

/-- The entries of a header, in order, if it is a flat mapping. -/
def readMapping? (header : List Char) : Option (List (String × String)) := do
  (← readDocument? (← tokens? header)).texts?

end MemoryKeeper.Yaml
