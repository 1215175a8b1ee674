import Waymark.Expansion.Error
import Waymark.Identifier
import Waymark.Source.ImplBlock

/-!
# Tagged members

Labels are taken off the methods of an impl block, and a method with a label becomes a
member: a nested section, a text or a call. What reads a method also gives the method
that is left. Reading stops at the first error; what was not reached keeps its labels.
-/

namespace Waymark

open Source

structure TaggedParameter where
  binding : String
  type : TypeExpr
  tag : Option String

/-- What a tagged method gives: a nested section, a text, or a text for arguments. -/
inductive TaggedForm where
  | nested (target : TypeExpr)
  | text
  | call (parameters : List TaggedParameter)

structure TaggedMember where
  method : String
  tag : String
  form : TaggedForm

namespace Source

/-! ## Labels -/

def AttributeArguments.tag : AttributeArguments → Except ExpansionError String
  | .absent => .error .labelWithoutTag
  | .assigned _ => .error .labelAssigned
  | .grouped _ [] => .error .labelEmpty
  | .grouped _ [.text tag] => .ok tag
  | .grouped _ (.text _ :: _ :: _) => .error .labelTrailing
  | .grouped _ (_ :: _) => .error .labelNotText

/-- Takes the first label off attributes and reads its tag. A second label is an error. -/
def takeLabel : List Attribute → List Attribute × Except ExpansionError (Option String)
  | [] => ([], .ok none)
  | attr :: rest =>
    if attr.isLabel then
      (rest, do
        let tag ← attr.arguments.tag
        if rest.any Attribute.isLabel then .error .labelRepeated else .ok (some tag))
    else
      let (left, label) := takeLabel rest
      (attr :: left, label)

def withoutLabels (attributes : List Attribute) : List Attribute :=
  attributes.filter fun attr => !attr.isLabel

def checkTag (tag : String) : Except ExpansionError Unit :=
  if Text.isBlank tag then .error .blankTag
  else if tag.toList.contains tagSeparator then .error .tagWithSeparator
  else .ok ()

/-! ## Parameters -/

def Pattern.binding? : Pattern → Option String
  | .binding _ _ name _ => some name
  | .other _ => none

def TypeExpr.checkOwned : TypeExpr → Except ExpansionError Unit
  | .reference _ _ target => .error (.parameterReference (target.endsIn "str"))
  | _ => .ok ()

namespace MethodParameter

def withoutLabels (parameter : MethodParameter) : MethodParameter :=
  { parameter with attributes := Source.withoutLabels parameter.attributes }

def takeTagged (parameter : MethodParameter) :
    MethodParameter × Except ExpansionError TaggedParameter :=
  let (attributes, label) := takeLabel parameter.attributes
  ({ parameter with attributes }, do
    let tag ← label
    if let some tag := tag then checkTag tag
    match parameter.pattern.binding? with
    | none => .error .parameterNotNamed
    | some binding => do
      parameter.type.checkOwned
      .ok ⟨binding, parameter.type, tag⟩)

end MethodParameter

/-- Reads items in turn up to the first error. Gives what is left of the items, those
behind an error unchanged, and the results. -/
def takeEach {α β : Type} (take : α → α × Except ExpansionError β) :
    List α → List α × Except ExpansionError (List β)
  | [] => ([], .ok [])
  | item :: rest =>
    match take item with
    | (left, .error error) => (left :: rest, .error error)
    | (left, .ok result) =>
      let (others, results) := takeEach take rest
      (left :: others, results.map (result :: ·))

/-! ## Methods -/

/-- The names of types that references show as text. -/
def textTypes : List String := ["str", "String", "Cow"]

/-- Whether references to a type are text or sequences rather than nested sections. -/
def TypeExpr.isPlainContent : TypeExpr → Bool
  | .slice _ | .array _ => true
  | type => textTypes.any type.endsIn

def TypeExpr.section? : TypeExpr → Option TypeExpr
  | .reference _ _ target => if target.isPlainContent then none else some target
  | _ => none

def TypeExpr.taggedForm (output : TypeExpr) : List TaggedParameter → TaggedForm
  | [] =>
    match output.section? with
    | some target => .nested target
    | none => .text
  | parameters => .call parameters

namespace Method

def checkedOutput (method : Method) : Except ExpansionError TypeExpr :=
  if !method.generics.isEmpty then .error .genericMember
  else if !method.receiver.any fun receiver => receiver.form.isShared then .error .receiverNotShared
  else
    match method.output with
    | none => .error .outputMissing
    | some output => .ok output

def withoutLabels (method : Method) : Method :=
  { method with
    attributes := Source.withoutLabels method.attributes
    parameters := method.parameters.map MethodParameter.withoutLabels }

/-- Takes the labels off a method and reads the method as a member if it has one of its
own. -/
def takeTagged (method : Method) : Method × Except ExpansionError (Option TaggedMember) :=
  let (attributes, label) := takeLabel method.attributes
  let unlabelled := { method with attributes }
  match label with
  | .error error => (unlabelled, .error error)
  | .ok none => (method.withoutLabels, .ok none)
  | .ok (some tag) =>
    match (do checkTag tag; method.checkedOutput) with
    | .error error => (unlabelled, .error error)
    | .ok output =>
      let (parameters, results) := takeEach MethodParameter.takeTagged method.parameters
      ({ unlabelled with parameters },
        results.map fun parameters => some ⟨method.name, tag, output.taggedForm parameters⟩)

end Method

def Item.takeTagged : Item → Item × Except ExpansionError (Option TaggedMember)
  | .method declared =>
    let (left, result) := declared.takeTagged
    (.method left, result)
  | .other attributes tokens => (.other attributes tokens, .ok none)

end Source

end Waymark
