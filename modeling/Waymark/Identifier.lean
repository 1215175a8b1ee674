import Waymark.Text.Blank

/-!
# Identifiers

An identifier is a list of tags written with a separator between them. Reading skips
the empty segments that stray separators leave, so several spellings may stand for the
same tags; `canonical` is the one without empty segments.
-/

namespace Waymark

def tagSeparator : Char := '_'

/-- Whether a tag can be registered: an identifier must be able to spell it. -/
def isValidTag (tag : String) : Bool :=
  !Text.isBlank tag && !tag.toList.contains tagSeparator

namespace Identifier

/-- The runs of characters between separators, empty ones included. -/
def runs : List Char → List (List Char)
  | [] => [[]]
  | c :: rest =>
    if c = tagSeparator then
      [] :: runs rest
    else
      match runs rest with
      | [] => [[c]]
      | first :: others => (c :: first) :: others

def segments (identifier : String) : List String :=
  (runs identifier.toList).map String.ofList

/-- The tags of an identifier: its segments that are not empty. -/
def tags (identifier : String) : List String :=
  (segments identifier).filter fun segment => !segment.isEmpty

def extend (identifier tag : String) : String :=
  if identifier.isEmpty then tag else identifier ++ String.singleton tagSeparator ++ tag

def ofTags (tags : List String) : String := tags.foldl extend ""

def canonical (identifier : String) : String :=
  if (segments identifier).any String.isEmpty then
    String.intercalate (String.singleton tagSeparator) (tags identifier)
  else
    identifier

end Identifier

end Waymark
