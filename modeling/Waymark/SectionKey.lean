import Waymark.Text.Inspect
import Waymark.Text.Quoted

/-!
# Sections and members

A section is told apart by a number; its full name is what messages show, and its short
name is what follows the last double colon. A member is a name on a section.
-/

namespace Waymark

structure SectionKey where
  id : Nat
  name : String
  deriving DecidableEq, Repr, Inhabited

structure Member where
  owner : SectionKey
  name : String
  deriving DecidableEq, Repr

def afterLastColons? : List Char → Option (List Char)
  | ':' :: ':' :: rest => some ((afterLastColons? (':' :: rest)).getD rest)
  | _ :: rest => afterLastColons? rest
  | [] => none

namespace SectionKey

def shortName (key : SectionKey) : String :=
  match afterLastColons? key.name.toList with
  | some rest => String.ofList rest
  | none => key.name

def inspect (key : SectionKey) : String :=
  Inspect.constructor "SectionKey" [key.shortName]

end SectionKey

namespace Member

def display (member : Member) : String := member.owner.shortName ++ "::" ++ member.name

def inspect (member : Member) : String :=
  Inspect.record "MemberRef"
    [("owner", member.owner.inspect), ("name", Text.quoted member.name)]

end Member

end Waymark
