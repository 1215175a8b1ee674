import Waymark.Label
import Waymark.Registry

/-!
# Shapes

A shape is what an identifier compiles to: the nested sections to step into and the
leaf to read or call, with the parameters that the call pulls out of a label. It holds
no values. Running a shape on an instance of its root gives the label's text.
-/

namespace Waymark

structure Step (ι : Type) where
  member : Member
  target : SectionKey
  navigate : ι → ι

/-- A parameter that is pulled out of a label: its tag and kind. -/
structure Extract where
  tag : String
  kind : Kind
  deriving DecidableEq, Repr

inductive Leaf (ι : Type) where
  | read (member : Member) (read : ι → String)
  | invoke (member : Member) (extracts : List Extract) (invoke : ι → List Value → String)

structure Shape (ι : Type) where
  identifier : String
  root : SectionKey
  steps : List (Step ι)
  leaf : Leaf ι

namespace Extract

/-- The value of the parameter in a label: the zero of its kind if it is missing or of
another kind. -/
def value (extract : Extract) (parameters : Arguments) : Value :=
  Value.coerce (parameters.get? extract.tag) extract.kind

def notices (extract : Extract) (parameters : Arguments) : List Notice :=
  if (parameters.get? extract.tag).bind Value.kind? = some extract.kind then []
  else [.defaulted extract.tag extract.kind]

def inspect (extract : Extract) : String :=
  Inspect.record "Extract"
    [("tag", Text.quoted extract.tag), ("kind", extract.kind.inspect)]

end Extract

namespace Leaf

variable {ι : Type}

def member : Leaf ι → Member
  | .read member _ => member
  | .invoke member _ _ => member

def extracts : Leaf ι → List Extract
  | .read _ _ => []
  | .invoke _ extracts _ => extracts

def text (leaf : Leaf ι) (content : ι) (parameters : Arguments) : String :=
  match leaf with
  | .read _ reader => reader content
  | .invoke _ extracts caller =>
    caller content (extracts.map fun extract => extract.value parameters)

def inspect : Leaf ι → String
  | .read member _ => Inspect.constructor "Read" [member.display]
  | .invoke member extracts _ =>
    Inspect.constructor "Invoke"
      [member.display, Inspect.list (extracts.map Extract.inspect)]

end Leaf

namespace Shape

variable {ι : Type}

def depth (shape : Shape ι) : Nat := shape.steps.length

def parameterTags (shape : Shape ι) : List String := shape.leaf.extracts.map Extract.tag

/-- The members that a shape goes through, the leaf last. -/
def members (shape : Shape ι) : List Member :=
  shape.steps.map Step.member ++ [shape.leaf.member]

/-- The instance that steps lead to. A step is taken only from an instance of the
section that declares it. -/
def reach : Instance ι → List (Step ι) → Except LabelError (Instance ι)
  | reached, [] => .ok reached
  | reached, step :: rest =>
    if reached.key = step.member.owner then
      reach ⟨step.target, step.navigate reached.content⟩ rest
    else
      .error (.providerMismatch step.member.owner.name)

def run (shape : Shape ι) (provider : Instance ι) (parameters : Arguments) :
    Except LabelError String :=
  match reach provider shape.steps with
  | .error error => .error error
  | .ok reached =>
    if reached.key = shape.leaf.member.owner then
      .ok (shape.leaf.text reached.content parameters)
    else
      .error (.providerMismatch shape.leaf.member.owner.name)

def runNotices (shape : Shape ι) (provider : Instance ι) (parameters : Arguments) :
    List Notice :=
  match reach provider shape.steps with
  | .error _ => []
  | .ok _ => shape.leaf.extracts.flatMap fun extract => extract.notices parameters

/-- A shape in inspection text. The members and the leaf are shown as quoted texts. -/
def inspect (shape : Shape ι) : String :=
  Inspect.record "CompiledShape"
    [("identifier", Text.quoted shape.identifier),
      ("steps", Inspect.list (shape.steps.map fun step => Text.quoted step.member.display)),
      ("leaf", Text.quoted shape.leaf.inspect)]

end Shape

/-! ## Compiling -/

namespace Accessor

variable {ι : Type}

def leaf? (accessor : Accessor ι) : Option (Leaf ι) :=
  match accessor.kind with
  | .nested _ _ => none
  | .text read => some (.read accessor.member read)
  | .call parameters invoke =>
    some (.invoke accessor.member
      (parameters.map fun parameter => ⟨parameter.tag, parameter.kind⟩) invoke)

end Accessor

namespace Tables

variable {ι : Type}

def segment? (tables : Tables ι) (identifier : String) (reached : SectionKey) (tag : String) :
    Except LabelError (Accessor ι) :=
  match tables.resolve? reached tag with
  | some accessor => .ok accessor
  | none => .error (.unknownSegment identifier tag reached.name)

/-- The steps and the leaf that tags lead to from a section: all but the last name
nested sections, and the last names a text or a call. -/
def descend (tables : Tables ι) (identifier : String) (reached : SectionKey) (tag : String) :
    List String → Except LabelError (List (Step ι) × Leaf ι)
  | [] =>
    match tables.segment? identifier reached tag with
    | .error error => .error error
    | .ok accessor =>
      match accessor.leaf? with
      | some leaf => .ok ([], leaf)
      | none => .error (.wrongAccessorKind identifier tag "a text value or call")
  | next :: rest =>
    match tables.segment? identifier reached tag with
    | .error error => .error error
    | .ok accessor =>
      match accessor.kind with
      | .nested target navigate =>
        match tables.descend identifier target next rest with
        | .error error => .error error
        | .ok (steps, leaf) => .ok (⟨accessor.member, target, navigate⟩ :: steps, leaf)
      | .text _ => .error (.wrongAccessorKind identifier tag "a section")
      | .call _ _ => .error (.wrongAccessorKind identifier tag "a value accessor")

def compile (tables : Tables ι) (identifier : String) : Except LabelError (Shape ι) :=
  match Identifier.tags identifier with
  | [] => .error (.invalidIdentifier identifier)
  | first :: rest =>
    match tables.descend identifier tables.root first rest with
    | .error error => .error error
    | .ok (steps, leaf) => .ok ⟨identifier, tables.root, steps, leaf⟩

end Tables

namespace Registry

variable {ι : Type}

def compile (registry : Registry ι) (root : SectionKey) (identifier : String) :
    Except LabelError (Shape ι) :=
  match registry.tables with
  | .error error => .error error
  | .ok tables =>
    if tables.root = root then
      tables.compile identifier
    else
      .error (.rootMismatch root.name tables.root.name)

end Registry

end Waymark
