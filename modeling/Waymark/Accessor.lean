import Waymark.Identifier
import Waymark.SectionKey
import Waymark.Value.Scalar

/-!
# Accessors

A section declares members: nested sections, texts, and calls with parameters. A
declaration on its section is an accessor, which can be applied to instances. The
content type `ι` is what instances hold; an instance knows which section it belongs
to, and an accessor gives nothing for instances of other sections.
-/

namespace Waymark

structure ParameterDeclaration where
  name : String
  tag : Option String
  kind : Kind
  deriving DecidableEq, Repr

/-- A parameter with the tag that labels use for it. -/
structure Parameter where
  name : String
  tag : String
  kind : Kind
  deriving DecidableEq, Repr

namespace ParameterDeclaration

def ofType (type : ScalarType) (name : String) : ParameterDeclaration := ⟨name, none, type.kind⟩

def tagged (declaration : ParameterDeclaration) (tag : String) : ParameterDeclaration :=
  { declaration with tag := some tag }

/-- The parameter with its tag settled: its own unless that is absent or blank, else
its name. -/
def settle (declaration : ParameterDeclaration) : Parameter :=
  let tag :=
    match declaration.tag with
    | some tag => if Text.isBlank tag then declaration.name else tag
    | none => declaration.name
  ⟨declaration.name, tag, declaration.kind⟩

end ParameterDeclaration

def Parameter.inspect (parameter : Parameter) : String :=
  Inspect.record "ParameterDescriptor"
    [("name", Text.quoted parameter.name), ("tag", Text.quoted parameter.tag),
      ("kind", parameter.kind.inspect)]

/-- What a member gives: a nested section, a text, or a text for arguments. -/
inductive AccessorKind (π ι : Type) where
  | nested (target : SectionKey) (navigate : ι → ι)
  | text (read : ι → String)
  | call (parameters : List π) (invoke : ι → List Value → String)

namespace AccessorKind

/-- The parameters of a call; other members have none. -/
def parameters {π ι : Type} : AccessorKind π ι → List π
  | .call parameters _ => parameters
  | .nested _ _ | .text _ => []

def target? {π ι : Type} : AccessorKind π ι → Option SectionKey
  | .nested target _ => some target
  | .text _ | .call _ _ => none

def isCall {π ι : Type} : AccessorKind π ι → Bool
  | .call _ _ => true
  | .nested _ _ | .text _ => false

def settle {ι : Type} : AccessorKind ParameterDeclaration ι → AccessorKind Parameter ι
  | .nested target navigate => .nested target navigate
  | .text read => .text read
  | .call parameters invoke => .call (parameters.map ParameterDeclaration.settle) invoke

end AccessorKind

structure Declaration (ι : Type) where
  name : String
  tag : String
  kind : AccessorKind ParameterDeclaration ι

structure Accessor (ι : Type) where
  member : Member
  tag : String
  kind : AccessorKind Parameter ι

def Declaration.accessor {ι : Type} (declaration : Declaration ι) (owner : SectionKey) :
    Accessor ι :=
  ⟨⟨owner, declaration.name⟩, declaration.tag, declaration.kind.settle⟩

structure Instance (ι : Type) where
  key : SectionKey
  content : ι

/-- Applies a function to the content of an instance of the wanted section. -/
def Instance.ofSection? {ι α : Type} (subject : Instance ι) (owner : SectionKey)
    (f : ι → α) : Option α :=
  if subject.key = owner then some (f subject.content) else none

namespace Accessor

variable {ι : Type}

def owner (accessor : Accessor ι) : SectionKey := accessor.member.owner

def parameters (accessor : Accessor ι) : List Parameter := accessor.kind.parameters

/-- An accessor in inspection text. The kind is itself shown as a quoted text. -/
def inspect (accessor : Accessor ι) : String :=
  let kind :=
    match accessor.kind with
    | .nested target _ => Inspect.constructor "Section" [target.shortName]
    | .text _ => "Value"
    | .call parameters _ =>
      Inspect.constructor "Call" [Inspect.list (parameters.map Parameter.inspect)]
  Inspect.record "AccessorDescriptor"
    [("member", accessor.member.inspect), ("tag", Text.quoted accessor.tag),
      ("kind", Text.quoted kind)]

/-- What applying an accessor gives: an instance of the nested section, or a text. -/
inductive Outcome (ι : Type) where
  | nested (reached : Instance ι)
  | text (text : String)

def on? (accessor : Accessor ι) (subject : Instance ι) (arguments : List Value) :
    Option (Outcome ι) :=
  match accessor.kind with
  | .nested target navigate =>
    subject.ofSection? accessor.owner fun content => .nested ⟨target, navigate content⟩
  | .text read => subject.ofSection? accessor.owner fun content => .text (read content)
  | .call _ invoke =>
    subject.ofSection? accessor.owner fun content => .text (invoke content arguments)

end Accessor

end Waymark
