import MemoryKeeper.Git.ReferenceList

/-!
# Where references are kept

A reference is a file of its own below a git directory, or else an item of the list
`packed-refs`. References whose names do not begin with `refs/`, such as `HEAD`, and
those of a bisection belong to one work tree; all others are shared and lie in the
common directory.

A reference that is not there is no error: the branch that it stands for has no
commit yet. A reference that cannot be understood is an error, and so is one that
names a commit which is not among the stored objects. An object is a file of its
own or lies in a pack; packs are not opened, so where one is, any object may be.
-/

namespace MemoryKeeper.Git

open MemoryKeeper.Path (Location)

/-- The directories that references are looked for in. -/
structure ReferenceStore where
  /-- The git directory of a work tree. -/
  own : Location
  /-- The directory that all work trees share. -/
  common : Location
  deriving DecidableEq, Repr

namespace ReferenceStore

/-- Whether a reference belongs to one work tree. -/
def isOwn (name : String) : Bool :=
  let text := name.toList
  (Text.after? "refs/".toList text).isNone || (Text.after? "refs/bisect/".toList text).isSome

/-- The reference of a name, if there is one. -/
def find (store : ReferenceStore) (tree : FileTree) (name : String) :
    Except ReferenceProblem (Option Reference) :=
  let directory := if isOwn name then store.own else store.common
  let path := String.ofList (name.toList.dropWhile (· = '/'))
  match (target? tree directory path).bind (content? tree) with
  | some content => (Reference.ofContent content).map some
  | none =>
    match content? tree (store.common ++ ["packed-refs"]) with
    | some content =>
      (ReferenceList.find name.toList content).map fun found =>
        found.map Reference.object
    | none => .ok none

/-- Whether there are packs of objects. -/
def hasPacks (store : ReferenceStore) (tree : FileTree) : Bool :=
  match tree.find (store.common ++ ["objects", "pack"]) with
  | .ok directory => directory.names.any (·.endsWith ".idx")
  | .error _ => false

/-- Whether an object may be stored. Packs are not opened: beside the index of any pack every object
counts as stored, so the heads that can be read there are more than git's own. -/
def holds (store : ReferenceStore) (tree : FileTree) (identifier : ObjectId) : Bool :=
  let digits := identifier.text.toList
  let place := [String.ofList (digits.take 2), String.ofList (digits.drop 2)]
  tree.isFile (store.common ++ "objects" :: place) || store.hasPacks tree

/-- The commit of an identifier that a reference names. -/
def commit (store : ReferenceStore) (tree : FileTree) (identifier : ObjectId) : Head :=
  if store.holds tree identifier then .commit identifier
  else .unreadable ReferenceProblem.missingObject.message

/-- What a reference comes to when it may lead to a number of others one after the other. -/
def resolve (store : ReferenceStore) (tree : FileTree) : Nat → String → Head
  | depth, name =>
    match store.find tree name with
    | .error problem => .unreadable problem.message
    | .ok none => .unborn
    | .ok (some (.object identifier)) => store.commit tree identifier
    | .ok (some (.reference next)) =>
      match depth with
      | 0 => .unreadable ReferenceProblem.tooDeep.message
      | depth + 1 => store.resolve tree depth next

/-- How many references may lead to one another. -/
def deepest : Nat := 5

/-- What `HEAD` of a work tree comes to. -/
def head (store : ReferenceStore) (tree : FileTree) : Head :=
  match store.find tree "HEAD" with
  | .error problem => .unreadable problem.message
  | .ok none => .unborn
  | .ok (some (.object identifier)) => store.commit tree identifier
  | .ok (some (.reference target)) =>
    match Reference.validName? target with
    | some name => store.resolve tree deepest name
    | none => .unreadable ReferenceProblem.invalidName.message

end ReferenceStore

end MemoryKeeper.Git
