import MemoryKeeper.Document.Header
import MemoryKeeper.Text.Lines

/-!
# Memory documents

A memory is kept as a document: a fence, the header, a fence, an empty line, the
content, and a line feed. The content may be any text, fences included.

Reading first writes every carriage return with its line feed as a line feed
alone. The first later line that is exactly the fence closes the header; of what
follows it, one line feed at the start and one at the end do not belong to the
content. So content survives unless it holds such a pair or ends in a carriage
return.
-/

namespace MemoryKeeper

/-- A memory with its content. -/
structure Document where
  symbol : Symbol
  slug : Slug
  created : Timestamp
  updated : Timestamp
  content : String
  deriving DecidableEq, Repr

/-- Why a text is no document. -/
inductive DocumentError where
  | missingHeader
  | unclosedHeader
  | invalidHeader
  deriving DecidableEq, Repr

/-- What is said of a header that is not a mapping of the four fields. -/
def DocumentError.headerComplaint : String :=
  "YAML mapping not accepted"

def DocumentError.message : DocumentError → String
  | .missingHeader => "document has no front matter"
  | .unclosedHeader => "front matter is not closed"
  | .invalidHeader => "invalid front matter: " ++ headerComplaint

namespace Document

/-- The line before and after a header. -/
def fence : List Char := ['-', '-', '-']

/-- A new document, made at a point in time. -/
def new (symbol : Symbol) (slug : Slug) (content : String) (now : Timestamp) : Document :=
  ⟨symbol, slug, now, now, content⟩

/-- A document with other content, revised at a point in time. -/
def revise (document : Document) (content : String) (now : Timestamp) : Document :=
  { document with content := content, updated := now }

def header (document : Document) : Header :=
  ⟨document.symbol, document.slug, document.created, document.updated⟩

/-- The characters of a document's written form. -/
def renderChars (document : Document) : List Char :=
  fence ++ '\n' :: document.header.render ++ fence ++ '\n' :: '\n' :: document.content.toList ++
    ['\n']

def render (document : Document) : String :=
  String.ofList document.renderChars

/-- Splits a text at its first line that is the fence, into what stands before the line and what
stands behind its line feed; the argument is what was read of the line so far. -/
def splitAtFence? (line : List Char) : List Char → Option (List Char × List Char)
  | [] => if line = fence then some ([], []) else none
  | character :: rest =>
    if character = '\n' then
      if line = fence then some ([], rest)
      else (splitAtFence? [] rest).map fun (before, after) => (line ++ '\n' :: before, after)
    else splitAtFence? (line ++ [character]) rest

/-- The content behind a closing fence. -/
def contentOf (body : List Char) : List Char :=
  Text.withoutEnding ['\n'] (if body.head? = some '\n' then body.drop 1 else body)

/-- The header and the body that a text has, carriage returns before line feeds removed. -/
def split (text : List Char) : Except DocumentError (List Char × List Char) :=
  match Text.after? (fence ++ ['\n']) (Text.normalizeNewlines text) with
  | none => .error .missingHeader
  | some rest =>
    match splitAtFence? [] rest with
    | none => .error .unclosedHeader
    | some parts => .ok parts

/-- The document with a given header and body. -/
def ofParts (parts : List Char × List Char) : Except DocumentError Document :=
  match Header.read? parts.1 with
  | none => .error .invalidHeader
  | some header =>
    .ok ⟨header.symbol, header.slug, header.created, header.updated,
      String.ofList (contentOf parts.2)⟩

def read (text : String) : Except DocumentError Document :=
  (split text.toList).bind ofParts

end Document

end MemoryKeeper
