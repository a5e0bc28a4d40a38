/-!
# Slugs

A slug names a memory. It is one or more lower-case ASCII letters, digits and
hyphens, so it can stand as a file name and as a bare word of a header.
-/

namespace MemoryKeeper

def isSlugChar (character : Char) : Bool :=
  ('a' ≤ character && character ≤ 'z') || character.isDigit || character = '-'

def isSlug (text : String) : Bool :=
  !text.toList.isEmpty && text.toList.all isSlugChar

/-- A name of a memory. -/
structure Slug where
  text : String
  wellFormed : isSlug text
  deriving DecidableEq

namespace Slug

instance : Repr Slug where
  reprPrec slug precedence := reprPrec slug.text precedence

@[ext]
theorem ext {left right : Slug} (same : left.text = right.text) : left = right := by
  cases left
  cases right
  simpa using same

/-- The slug that a text is, if it is one. -/
def ofString? (text : String) : Option Slug :=
  if wellFormed : isSlug text then some ⟨text, wellFormed⟩ else none

@[simp]
theorem ofString?_text (slug : Slug) : ofString? slug.text = some slug := by
  simp [ofString?, slug.wellFormed]

theorem text_of_ofString? {text : String} {slug : Slug} (found : ofString? text = some slug) :
    slug.text = text := by
  unfold ofString? at found
  split at found
  · injection found with equal
    subst equal
    rfl
  · contradiction

/-- The shape of a slug as a pattern, as error texts show it. -/
def shape : String := "^[a-z0-9-]+$"

end Slug

end MemoryKeeper
