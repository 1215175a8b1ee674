import Waymark.Label
import Waymark.Registry

/-!
# Encoding paths

A registry gives a path its label. A path that names members without a tag simply has
none; a path that names tagged members in a way that no identifier could be read back
is refused. The checks come in a fixed order: root, members, tags from the leaf to the
root, sections from the root to the leaf, the leaf's kind, and the arguments in order.
-/

namespace Waymark

inductive Unlabelled where
  | foreignRoot
  | noMember
  /-- This member of it, the one nearest to the leaf, has no tag. -/
  | untagged (member : Member)
  deriving DecidableEq, Repr

inductive Encoding where
  | label (label : Label)
  | unlabelled (reason : Unlabelled)
  | refused (error : LabelError)

/-- What an unlabelled path reports. A path without members passes in silence. -/
def Unlabelled.notices (reason : Unlabelled) (path : Path) : List Notice :=
  match reason with
  | .foreignRoot => [.foreignRoot path]
  | .noMember => []
  | .untagged member => [.untagged member path]

namespace Argument

/-- The value of an argument, or why it has none before the path is followed. -/
def value? : Argument → Except String Value
  | .literal value | .captured _ value | .constant _ value => .ok value
  | .provider path => .error s!"'{path.display}' reads the provider"
  | .computed description => .error s!"'{description}' is computed at runtime"

/-- The value of an argument that stands at a position of a call, if it fits the
parameter there. The null value fits every parameter. -/
def bind (member : Member) (position : Nat) (argument : Argument) (parameter : Parameter) :
    Except LabelError Value :=
  match argument.value? with
  | .error reason => .error (.unsupportedArgument position reason)
  | .ok value =>
    match value.kind? with
    | none => .ok value
    | some found =>
      if found = parameter.kind then
        .ok value
      else
        .error (.argumentKindMismatch member.display position parameter.kind found)

/-- Parameters with the values of arguments added, position by position. A tag that two
parameters share keeps the later value. -/
def bindAll (member : Member) :
    Nat → List Argument → List Parameter → Arguments → Except LabelError Arguments
  | position, argument :: arguments, parameter :: parameters, bound =>
    match argument.bind member position parameter with
    | .error error => .error error
    | .ok value =>
      bindAll member (position + 1) arguments parameters (bound.insert parameter.tag value)
  | _, _, _, bound => .ok bound

end Argument

namespace Tables

variable {ι : Type}

/-- The accessors of members, or the member nearest to the leaf that has none. -/
def accessors? (tables : Tables ι) : List Member → Except Member (List (Accessor ι))
  | [] => .ok []
  | member :: rest =>
    match tables.accessors? rest with
    | .error untagged => .error untagged
    | .ok accessors =>
      match tables.accessor? member with
      | none => .error member
      | some accessor => .ok (accessor :: accessors)

end Tables

namespace Encoding

variable {ι : Type}

/-- The leaf of a chain of accessors, each declared by the section that the ones before
it lead to. The identifier is for messages. -/
def leaf? (identifier : String) (reached : SectionKey) (accessor : Accessor ι) :
    List (Accessor ι) → Except LabelError (Accessor ι)
  | [] =>
    if accessor.owner = reached then
      .ok accessor
    else
      .error (.unknownSegment identifier accessor.tag reached.name)
  | next :: rest =>
    if accessor.owner = reached then
      match accessor.kind with
      | .nested target _ => leaf? identifier target next rest
      | .text _ => .error (.wrongAccessorKind identifier accessor.tag "a section")
      | .call _ _ => .error (.wrongAccessorKind identifier accessor.tag "a value accessor")
    else
      .error (.unknownSegment identifier accessor.tag reached.name)

/-- The parameters of a path that ends at a leaf: a read must end at a text and has
none, a call must end at a call and give it as many arguments as it declares. -/
def parameters? (identifier : String) (path : Path) (leaf : Accessor ι) :
    Except LabelError Arguments :=
  match path, leaf.kind with
  | .read _, .text _ => .ok .empty
  | .call _ member arguments, .call parameters _ =>
    if parameters.length = arguments.length then
      Argument.bindAll member 0 arguments parameters .empty
    else
      .error (.arityMismatch member.display parameters.length arguments.length)
  | .read _, _ => .error (.wrongAccessorKind identifier leaf.tag "a text value")
  | .call _ _ _, _ => .error (.wrongAccessorKind identifier leaf.tag "a call")

def label? (root : SectionKey) (path : Path) (first : Accessor ι) (rest : List (Accessor ι)) :
    Except LabelError Label :=
  let identifier := Identifier.ofTags ((first :: rest).map Accessor.tag)
  match leaf? identifier root first rest with
  | .error error => .error error
  | .ok leaf =>
    match parameters? identifier path leaf with
    | .error error => .error error
    | .ok parameters => .ok ⟨identifier, parameters⟩

end Encoding

namespace Tables

variable {ι : Type}

def encode (tables : Tables ι) (path : Path) : Encoding :=
  if tables.root = path.root then
    match tables.accessors? path.members with
    | .error member => .unlabelled (.untagged member)
    | .ok [] => .unlabelled .noMember
    | .ok (first :: rest) =>
      match Encoding.label? tables.root path first rest with
      | .error error => .refused error
      | .ok label => .label label
  else
    .unlabelled .foreignRoot

end Tables

namespace Registry

variable {ι : Type}

def encode (registry : Registry ι) (path : Path) : Encoding :=
  match registry.tables with
  | .error error => .refused error
  | .ok tables => tables.encode path

end Registry

def Encoding.notices (encoding : Encoding) (path : Path) : List Notice :=
  match encoding with
  | .unlabelled reason => reason.notices path
  | .label _ | .refused _ => []

end Waymark
