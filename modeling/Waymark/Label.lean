import Waymark.Dict
import Waymark.Identifier
import Waymark.Value

/-!
# Labels

A label is an identifier and the values of call parameters by their tags. It is plain
data: it can be stored, sent and compared, and a registry turns it back into text.
-/

namespace Waymark

/-- Values by parameter tag, in the order in which the tags came. -/
abbrev Arguments := Dict String Value

structure Label where
  identifier : String
  parameters : Arguments := .empty

namespace Label

def ofTags (tags : List String) : Label := { identifier := Identifier.ofTags tags }

/-- The label with one parameter set; a tag that is present keeps its place. -/
def withParameter (label : Label) (tag : String) (value : Value) : Label :=
  { label with parameters := label.parameters.insert tag value }

def withParameters (label : Label) (parameters : List (String × Value)) : Label :=
  parameters.foldl (fun label (tag, value) => label.withParameter tag value) label

def parameter? (label : Label) (tag : String) : Option Value := label.parameters.get? tag

def tags (label : Label) : List String := Identifier.tags label.identifier

def display (label : Label) : String :=
  let parameters := label.parameters.entries.map fun (tag, value) => tag ++ ": " ++ value.display
  "Identifier: " ++ label.identifier ++ "\nParameters: \x7b " ++
    Inspect.commaSeparated parameters ++ " \x7d"

/-- Whether two parameter maps hold equal values under the same tags, in any order. -/
def sameParameters (left right : Arguments) : Bool :=
  left.size = right.size &&
    left.entries.all fun (tag, value) =>
      match right.get? tag with
      | some other => value.same other
      | none => false

/-- Equality of labels, numeric for floating-point parameters. -/
def same (left right : Label) : Bool :=
  left.identifier = right.identifier && sameParameters left.parameters right.parameters

def inspectParameters (parameters : Arguments) : String :=
  Inspect.map (parameters.entries.map fun (tag, value) => (Text.quoted tag, value.inspect))

def inspect (label : Label) : String :=
  Inspect.record "Label"
    [("identifier", Text.quoted label.identifier),
      ("parameters", inspectParameters label.parameters)]

end Label

end Waymark
