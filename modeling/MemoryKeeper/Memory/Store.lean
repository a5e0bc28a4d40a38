import MemoryKeeper.Document.Basic
import MemoryKeeper.Memory.Storage
import MemoryKeeper.World.Program

/-!
# The store of memories

Memories are looked up, listed, read and written as files. A slug is looked for
in the categories' order, and no two memories are created with one slug, so a
bare slug is enough to name a memory.

A memory's file is written at a draft's path first and then moved to its own, so
that it holds its old content or its new content at every moment.

Looking up and listing are functions of the file tree; everything else is a task.
-/

namespace MemoryKeeper

open MemoryKeeper.Path (Location)

/-- Why the store refused an operation. -/
inductive StoreError where
  /-- A memory with this slug exists already, in some category. -/
  | alreadyExists (slug path : String)
  | io (path : String) (failure : IoFailure)
  /-- The file of a memory is no document. -/
  | malformed (path : String) (source : DocumentError)
  deriving DecidableEq, Repr

def StoreError.message : StoreError → String
  | .alreadyExists slug path => "memory '" ++ slug ++ "' already exists at " ++ path
  | .io path failure => "failed to access '" ++ path ++ "': " ++ failure.message
  | .malformed path source => "malformed memory '" ++ path ++ "': " ++ source.message

namespace Storage

/-- Whether a memory's file exists. -/
def holds (storage : Storage) (tree : FileTree) (entry : MemoryEntry) : Bool :=
  tree.isFile (storage.place entry)

/-- The memory with a slug, in the first category that has it. -/
def find? (storage : Storage) (tree : FileTree) (slug : Slug) : Option MemoryEntry :=
  (Symbol.all.map fun symbol => ⟨symbol, slug⟩).find? (storage.holds tree)

/-- The slug of a file name that ends as those of memories do. -/
def slugOfFileName? (name : String) : Option Slug :=
  match Text.after? memoryEnding.toList.reverse name.toList.reverse with
  | some stem => Slug.ofString? (String.ofList stem.reverse)
  | none => none

/-- The memory that the components below the directory of memories name. -/
def entryOfComponents? : List Path.Component → Option MemoryEntry
  | [.name kind, .name file] => do
    let symbol ← Symbol.ofKind? kind
    let slug ← slugOfFileName? file
    return ⟨symbol, slug⟩
  | _ => none

/-- The memory whose file a path given from outside names, if that file exists. -/
def entryAtPath? (storage : Storage) (tree : FileTree) (path : String) :
    Option MemoryEntry := do
  let whole ← storage.memoryFile? path
  let components ← Path.componentsBelow? storage.memoriesDirectory whole
  let entry ← entryOfComponents? components
  if storage.holds tree entry then some entry else none

/-- The memory that a reference names: by the path of its file, or by its slug with or without the
ending of file names. -/
def resolve? (storage : Storage) (tree : FileTree) (reference : String) : Option MemoryEntry :=
  let reference := Text.trimmed reference
  match storage.entryAtPath? tree reference with
  | some entry => some entry
  | none =>
    let stem := Text.withoutEnding memoryEnding.toList reference.toList
    (Slug.ofString? (String.ofList stem)).bind (storage.find? tree)

/-- The names in a category's directory. -/
def namesOf (storage : Storage) (tree : FileTree) (symbol : Symbol) : List String :=
  match tree.find (Path.location (storage.symbolDirectory symbol)) with
  | .ok directory => directory.names
  | .error _ => []

/-- The memories of a category in the order of their slugs. -/
def listOf (storage : Storage) (tree : FileTree) (symbol : Symbol) : List MemoryEntry :=
  let entries := (storage.namesOf tree symbol).filterMap fun name =>
    (slugOfFileName? name).map fun slug => (⟨symbol, slug⟩ : MemoryEntry)
  (entries.filter (storage.holds tree)).mergeSort fun left right =>
    left.slug.text ≤ right.slug.text

/-- The memories of one category, or of all categories in their order. -/
def list (storage : Storage) (tree : FileTree) (symbol : Option Symbol) : List MemoryEntry :=
  match symbol with
  | some symbol => storage.listOf tree symbol
  | none => Symbol.all.flatMap (storage.listOf tree)

def textOf (storage : Storage) (tree : FileTree) (entry : MemoryEntry) :
    Except StoreError String :=
  (tree.readText (storage.place entry)).mapError (.io (storage.memoryPath entry))

/-- The document that a memory's text is; a text without a header is the content of a memory that
was made at the moment it is read. -/
def documentOf (entry : MemoryEntry) (now : Timestamp) (text : String) :
    Except StoreError Document :=
  match Document.read text with
  | .ok document => .ok document
  | .error .missingHeader => .ok (.new entry.symbol entry.slug text now)
  | .error source => .error (.malformed entry.relativePath source)

def read (storage : Storage) (entry : MemoryEntry) : Task StoreError String :=
  .inspect fun view => storage.textOf view.files entry

def load (storage : Storage) (entry : MemoryEntry) : Task StoreError Document :=
  .inspect fun view => (storage.textOf view.files entry).bind (documentOf entry view.now)

def change (storage : Storage) (entry : MemoryEntry) (edit : Edit) : Task StoreError Unit :=
  (Task.change edit).mapFailure fun error => .io (storage.memoryPath entry) (.os error)

/-- Writes a memory's file by way of its draft. -/
def write (storage : Storage) (entry : MemoryEntry) (text : String) : Task StoreError Unit := do
  storage.change entry (.createDirectories (storage.place entry).dropLast)
  storage.change entry (.createFile (storage.draftPlace entry))
  storage.change entry (.append (storage.draftPlace entry) (Text.encode text))
  storage.change entry (.synchronize (storage.draftPlace entry))
  storage.change entry (.rename (storage.draftPlace entry) (storage.place entry))

/-- Creates a memory with the given content; its slug must be free in every category. -/
def create (storage : Storage) (entry : MemoryEntry) (content : String) :
    Task StoreError MemoryEntry := do
  let document ← Task.inspect fun view =>
    match storage.find? view.files entry.slug with
    | some existing => .error (.alreadyExists entry.slug.text existing.relativePath)
    | none => .ok (Document.new entry.symbol entry.slug content view.now)
  storage.write entry document.render
  return entry

def update (storage : Storage) (entry : MemoryEntry) (content : String) :
    Task StoreError Document := do
  let revised ← Task.inspect fun view =>
    ((storage.textOf view.files entry).bind (documentOf entry view.now)).map
      fun document => document.revise content view.now
  storage.write entry revised.render
  return revised

def restore (storage : Storage) (entry : MemoryEntry) (text : String) : Task StoreError Unit :=
  storage.write entry text

def discard (storage : Storage) (entry : MemoryEntry) : Task StoreError Unit :=
  storage.change entry (.removeFile (storage.place entry))

end Storage

end MemoryKeeper
