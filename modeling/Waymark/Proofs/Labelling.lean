import Mathlib.Data.List.Forall2
import Waymark.Expansion

/-!
# What labels are read as

A label is read where it is the only one and holds nothing but its tag, and reading takes it
off. A method with a label is read as a member, its parameters as those of the member. All
of them are read, in order, or reading fails.
-/

namespace Waymark.Source

/-! ## Computations that may fail -/

section

variable {ε α β : Type} {first : Except ε α} {result : β}

theorem except_bind_eq_ok_iff {next : α → Except ε β} :
    (do let value ← first; next value) = .ok result ↔
      ∃ value, first = .ok value ∧ next value = .ok result := by
  cases first <;> simp [bind, Except.bind]

theorem except_map_eq_ok_iff {f : α → β} :
    first.map f = .ok result ↔ ∃ value, first = .ok value ∧ f value = result := by
  cases first <;> simp [Except.map]

end

/-! ## Labels among attributes -/

/-- Whether a label is the one that attributes have: the only one, with nothing but its tag
in brackets, or none at all. -/
def HasLabel (attributes : List Attribute) : Option String → Prop
  | none => attributes.filter Attribute.isLabel = []
  | some tag => ∃ attr bracket, attributes.filter Attribute.isLabel = [attr] ∧
      attr.arguments = .grouped bracket [.text tag]

variable {attr : Attribute} {attributes left rest : List Attribute} {label : Option String}

theorem AttributeArguments.tag_eq_ok_iff {arguments : AttributeArguments} {tag : String} :
    arguments.tag = .ok tag ↔ ∃ bracket, arguments = .grouped bracket [.text tag] := by
  constructor
  · intro read
    unfold AttributeArguments.tag at read
    split at read <;> cases read
    exact ⟨_, rfl⟩
  · rintro ⟨bracket, rfl⟩
    rfl

theorem any_isLabel_eq_false_iff :
    attributes.any Attribute.isLabel = false ↔ attributes.filter Attribute.isLabel = [] := by
  rw [List.any_eq_false, List.filter_eq_nil_iff]

theorem withoutLabels_eq_self (unlabelled : attributes.filter Attribute.isLabel = []) :
    withoutLabels attributes = attributes := by
  rw [List.filter_eq_nil_iff] at unlabelled
  rw [withoutLabels, List.filter_eq_self]
  intro attr listed
  simp [unlabelled attr listed]

theorem hasLabel_cons_of_isLabel (isLabel : attr.isLabel = true) :
    HasLabel (attr :: rest) label ↔
      ∃ tag, attr.arguments.tag = .ok tag ∧ rest.filter Attribute.isLabel = [] ∧
        label = some tag := by
  have listed := List.filter_cons_of_pos (l := rest) isLabel
  cases label with
  | none => simp [HasLabel, listed]
  | some tag =>
    rw [HasLabel, listed]
    constructor
    · rintro ⟨only, bracket, single, grouped⟩
      obtain ⟨rfl, others⟩ := List.cons.inj single
      exact ⟨tag, AttributeArguments.tag_eq_ok_iff.2 ⟨bracket, grouped⟩, others, rfl⟩
    · rintro ⟨other, read, others, same⟩
      cases same
      obtain ⟨bracket, grouped⟩ := AttributeArguments.tag_eq_ok_iff.1 read
      exact ⟨attr, bracket, by rw [others], grouped⟩

theorem hasLabel_cons_of_not (other : ¬ attr.isLabel = true) :
    HasLabel (attr :: rest) label ↔ HasLabel rest label := by
  have skipped := List.filter_cons_of_neg (l := rest) other
  cases label <;> rw [HasLabel, HasLabel, skipped]

theorem withoutLabels_cons_of_isLabel (isLabel : attr.isLabel = true) :
    withoutLabels (attr :: rest) = withoutLabels rest :=
  List.filter_cons_of_neg (by simp [isLabel])

theorem withoutLabels_cons_of_not (other : ¬ attr.isLabel = true) :
    withoutLabels (attr :: rest) = attr :: withoutLabels rest :=
  List.filter_cons_of_pos (by simp [other])

/-- A label is taken just where attributes have it, and the other attributes are left. -/
theorem takeLabel_eq_ok_iff :
    takeLabel attributes = (left, .ok label) ↔
      left = withoutLabels attributes ∧ HasLabel attributes label := by
  induction attributes generalizing left with
  | nil => cases label <;> simp [takeLabel, withoutLabels, HasLabel, eq_comm]
  | cons attr rest inductionHypothesis =>
    by_cases isLabel : attr.isLabel = true
    -- Reading ends at the first label; what is behind it stays, so it may not hold another.
    · rw [takeLabel, if_pos isLabel, hasLabel_cons_of_isLabel isLabel,
        withoutLabels_cons_of_isLabel isLabel, Prod.mk.injEq, except_bind_eq_ok_iff]
      constructor
      · rintro ⟨rfl, tag, read, single⟩
        split at single
        · cases single
        · next unrepeated =>
          cases single
          have others := any_isLabel_eq_false_iff.1 (Bool.eq_false_iff.2 unrepeated)
          exact ⟨(withoutLabels_eq_self others).symm, tag, read, others, rfl⟩
      · rintro ⟨rfl, tag, read, others, rfl⟩
        refine ⟨(withoutLabels_eq_self others).symm, tag, read, ?_⟩
        rw [if_neg (Bool.eq_false_iff.1 (any_isLabel_eq_false_iff.2 others))]
    · rw [takeLabel, if_neg isLabel, hasLabel_cons_of_not isLabel,
        withoutLabels_cons_of_not isLabel, Prod.mk.injEq]
      constructor
      · rintro ⟨rfl, taken⟩
        obtain ⟨left, has⟩ := inductionHypothesis.1 (Prod.ext rfl taken)
        exact ⟨by rw [← left], has⟩
      · rintro ⟨rfl, has⟩
        rw [inductionHypothesis.2 ⟨rfl, has⟩]
        exact ⟨rfl, rfl⟩

theorem checkTag_eq_ok_iff {tag : String} :
    checkTag tag = .ok () ↔ isValidTag tag = true := by
  rw [checkTag, isValidTag]
  cases Text.isBlank tag <;> cases tag.toList.contains tagSeparator <;> simp

/-! ## Parameters of tagged methods -/

/-- Whether a parameter of a method is read as one of a member: it binds a name and is no
reference, and its label, if it has one, holds a tag that can be registered. -/
structure MethodParameter.ReadsAs (parameter : MethodParameter) (tagged : TaggedParameter) :
    Prop where
  labelled : HasLabel parameter.attributes tagged.tag
  valid : ∀ tag, tagged.tag = some tag → isValidTag tag = true
  bound : parameter.pattern.binding? = some tagged.binding
  typed : parameter.type = tagged.type
  owned : ∀ lifetime isMutable target, parameter.type ≠ .reference lifetime isMutable target

theorem TypeExpr.checkOwned_eq_ok_iff {type : TypeExpr} :
    type.checkOwned = .ok () ↔
      ∀ lifetime isMutable target, type ≠ .reference lifetime isMutable target := by
  cases type <;> simp [checkOwned]

namespace MethodParameter

variable {parameter left : MethodParameter} {tagged : TaggedParameter}

/-- What is read behind the label of a parameter and its check, whichever label there was. -/
theorem named_eq_ok_iff {tag : Option String} :
    (match parameter.pattern.binding? with
      | none => .error .parameterNotNamed
      | some binding => do
        parameter.type.checkOwned
        .ok ⟨binding, parameter.type, tag⟩) = Except.ok tagged ↔
      ∃ binding, parameter.pattern.binding? = some binding ∧
        parameter.type.checkOwned = .ok () ∧ ⟨binding, parameter.type, tag⟩ = tagged := by
  cases parameter.pattern.binding? with
  | none => simp
  | some binding =>
    constructor
    · intro read
      obtain ⟨_, owned, same⟩ := except_bind_eq_ok_iff.1 read
      cases same
      exact ⟨binding, rfl, owned, rfl⟩
    · rintro ⟨_, same, owned, rfl⟩
      cases same
      exact except_bind_eq_ok_iff.2 ⟨(), owned, rfl⟩

theorem takeTagged_of_readsAs (reads : parameter.ReadsAs tagged) :
    parameter.takeTagged = (parameter.withoutLabels, .ok tagged) := by
  obtain ⟨labelled, valid, bound, typed, owned⟩ := reads
  have whole : ⟨tagged.binding, parameter.type, tagged.tag⟩ = tagged := by rw [typed]
  have read := named_eq_ok_iff.2 ⟨_, bound, TypeExpr.checkOwned_eq_ok_iff.2 owned, whole⟩
  rw [takeTagged, takeLabel_eq_ok_iff.2 ⟨rfl, labelled⟩, Prod.mk.injEq, except_bind_eq_ok_iff]
  refine ⟨rfl, tagged.tag, rfl, ?_⟩
  cases tag : tagged.tag with
  | none =>
    rw [tag] at read
    exact read
  | some own =>
    rw [tag] at read
    exact except_bind_eq_ok_iff.2 ⟨(), checkTag_eq_ok_iff.2 (valid own tag), read⟩

theorem readsAs_of_takeTagged (taken : parameter.takeTagged = (left, .ok tagged)) :
    left = parameter.withoutLabels ∧ parameter.ReadsAs tagged := by
  cases label : takeLabel parameter.attributes with
  | mk attributes label? =>
  rw [takeTagged, label, Prod.mk.injEq, except_bind_eq_ok_iff] at taken
  obtain ⟨rfl, tag, rfl, read⟩ := taken
  obtain ⟨rfl, labelled⟩ := takeLabel_eq_ok_iff.1 label
  refine ⟨rfl, ?_⟩
  cases tag with
  | none =>
    obtain ⟨binding, bound, owned, rfl⟩ := named_eq_ok_iff.1 read
    exact ⟨labelled, by simp, bound, rfl, TypeExpr.checkOwned_eq_ok_iff.1 owned⟩
  | some tag =>
    obtain ⟨_, checked, read⟩ := except_bind_eq_ok_iff.1 read
    obtain ⟨binding, bound, owned, rfl⟩ := named_eq_ok_iff.1 read
    refine ⟨labelled, ?_, bound, rfl, TypeExpr.checkOwned_eq_ok_iff.1 owned⟩
    intro other same
    cases same
    exact checkTag_eq_ok_iff.1 checked

theorem takeTagged_eq_ok_iff :
    parameter.takeTagged = (left, .ok tagged) ↔
      left = parameter.withoutLabels ∧ parameter.ReadsAs tagged := by
  constructor
  · exact readsAs_of_takeTagged
  · rintro ⟨rfl, reads⟩
    exact takeTagged_of_readsAs reads

end MethodParameter

/-! ## Reading in turn -/

section

variable {α β : Type} {take : α → α × Except ExpansionError β} {strip : α → α}
  {Reads : α → β → Prop}

/-- If reading an item strips it, so does reading some items, and it succeeds just when each
of them can be read. -/
theorem takeEach_eq_ok_iff
    (step : ∀ item left result, take item = (left, .ok result) ↔
      left = strip item ∧ Reads item result)
    {items left : List α} {results : List β} :
    takeEach take items = (left, .ok results) ↔
      left = items.map strip ∧ List.Forall₂ Reads items results := by
  induction items generalizing left results with
  | nil => simp [takeEach, eq_comm]
  | cons item rest inductionHypothesis =>
    rw [takeEach, List.map_cons]
    cases taken : take item with
    | mk own outcome =>
    cases outcome with
    | error error =>
      constructor
      · intro failed
        cases failed
      · rintro ⟨-, read⟩
        cases read with
        | cons first later =>
          rw [(step _ _ _).2 ⟨rfl, first⟩] at taken
          cases taken
    | ok result =>
      obtain ⟨rfl, own⟩ := (step _ _ _).1 taken
      cases behind : takeEach take rest with
      | mk others outcome =>
      rw [Prod.mk.injEq, except_map_eq_ok_iff]
      constructor
      · rintro ⟨rfl, results, rfl, rfl⟩
        obtain ⟨rfl, later⟩ := inductionHypothesis.1 behind
        exact ⟨rfl, .cons own later⟩
      · rintro ⟨rfl, read⟩
        cases read with
        | cons first later =>
          rw [inductionHypothesis.2 ⟨rfl, later⟩] at behind
          cases behind
          rw [(step _ _ _).2 ⟨rfl, first⟩] at taken
          cases taken
          exact ⟨rfl, _, rfl, rfl⟩

end

/-! ## Methods -/

namespace Method

/-- Whether a method is read as a member: its label holds a tag that can be registered, its
form is one that members can have, and its parameters are read as those of the member. -/
structure ReadsAs (method : Method) (member : TaggedMember) : Prop where
  labelled : HasLabel method.attributes (some member.tag)
  valid : isValidTag member.tag = true
  named : member.method = method.name
  formed : ∃ output parameters, method.checkedOutput = .ok output ∧
    List.Forall₂ MethodParameter.ReadsAs method.parameters parameters ∧
    member.form = output.taggedForm parameters

/-- What a method is read as: a member if it has a label, nothing if it has none. -/
def Yields (method : Method) : Option TaggedMember → Prop
  | none => HasLabel method.attributes none
  | some member => method.ReadsAs member

variable {method left : Method} {member? : Option TaggedMember}

theorem takeParameters_eq_ok_iff {parameters others : List MethodParameter}
    {results : List TaggedParameter} :
    takeEach MethodParameter.takeTagged parameters = (others, .ok results) ↔
      others = parameters.map MethodParameter.withoutLabels ∧
        List.Forall₂ MethodParameter.ReadsAs parameters results :=
  takeEach_eq_ok_iff fun _ _ _ => MethodParameter.takeTagged_eq_ok_iff

theorem takeTagged_of_yields (yields : method.Yields member?) :
    method.takeTagged = (method.withoutLabels, .ok member?) := by
  cases member? with
  | none =>
    have unlabelled : HasLabel method.attributes none := yields
    rw [takeTagged, takeLabel_eq_ok_iff.2 ⟨rfl, unlabelled⟩]
  | some member =>
    obtain ⟨labelled, valid, named, output, parameters, checked, read, form⟩ := yields
    have passed : (do checkTag member.tag; method.checkedOutput) = .ok output :=
      except_bind_eq_ok_iff.2 ⟨(), checkTag_eq_ok_iff.2 valid, checked⟩
    have whole : ⟨method.name, member.tag, output.taggedForm parameters⟩ = member := by
      rw [← named, ← form]
    rw [takeTagged, takeLabel_eq_ok_iff.2 ⟨rfl, labelled⟩]
    simp only [passed, takeParameters_eq_ok_iff.2 ⟨rfl, read⟩, Except.map, whole]
    rfl

theorem yields_of_takeTagged (taken : method.takeTagged = (left, .ok member?)) :
    left = method.withoutLabels ∧ method.Yields member? := by
  cases label : takeLabel method.attributes with
  | mk attributes label? =>
  rw [takeTagged, label] at taken
  dsimp only at taken
  split at taken
  · cases taken
  · cases taken
    exact ⟨rfl, (takeLabel_eq_ok_iff.1 label).2⟩
  · next tag =>
    obtain ⟨rfl, labelled⟩ := takeLabel_eq_ok_iff.1 label
    split at taken
    · cases taken
    · next output passed =>
      obtain ⟨_, valid, checked⟩ := except_bind_eq_ok_iff.1 passed
      cases behind : takeEach MethodParameter.takeTagged method.parameters with
      | mk others results =>
      rw [behind, Prod.mk.injEq, except_map_eq_ok_iff] at taken
      obtain ⟨rfl, parameters, rfl, rfl⟩ := taken
      obtain ⟨rfl, read⟩ := takeParameters_eq_ok_iff.1 behind
      exact ⟨rfl, labelled, checkTag_eq_ok_iff.1 valid, rfl, output, parameters, checked, read,
        rfl⟩

/-- A method is read, without its labels, just when it has none or can be a member. -/
theorem takeTagged_eq_ok_iff :
    method.takeTagged = (left, .ok member?) ↔
      left = method.withoutLabels ∧ method.Yields member? := by
  constructor
  · exact yields_of_takeTagged
  · rintro ⟨rfl, yields⟩
    exact takeTagged_of_yields yields

end Method

/-! ## Items and blocks -/

namespace Item

def withoutLabels : Item → Item
  | .method declared => .method declared.withoutLabels
  | .other attributes tokens => .other attributes tokens

/-- What an item is read as; items other than methods are no members. -/
def Yields : Item → Option TaggedMember → Prop
  | .method declared, member? => declared.Yields member?
  | .other _ _, member? => member? = none

theorem takeTagged_eq_ok_iff (item left : Item) (member? : Option TaggedMember) :
    item.takeTagged = (left, .ok member?) ↔
      left = item.withoutLabels ∧ item.Yields member? := by
  cases item with
  | other attributes tokens => simp [takeTagged, withoutLabels, Yields, eq_comm]
  | method declared =>
    cases taken : declared.takeTagged with
    | mk own result =>
    rw [takeTagged, taken, Prod.mk.injEq]
    constructor
    · rintro ⟨rfl, rfl⟩
      obtain ⟨rfl, yields⟩ := Method.takeTagged_eq_ok_iff.1 taken
      exact ⟨rfl, yields⟩
    · rintro ⟨rfl, yields⟩
      rw [Method.takeTagged_of_yields yields] at taken
      cases taken
      exact ⟨rfl, rfl⟩

end Item

namespace ImplBlock

def withoutLabels (block : ImplBlock) : ImplBlock :=
  { block with items := block.items.map Item.withoutLabels }

variable {block left : ImplBlock} {expansion : Expansion}

/-- A block is expanded, and left without labels, just when it can describe a section and
all of its items can be read. What is generated is that of the members read, in order. -/
theorem expand_eq_ok_iff :
    block.expand = (left, .ok expansion) ↔
      left = block.withoutLabels ∧
        ∃ typeName read, block.checkedTypeName = .ok typeName ∧
          List.Forall₂ Item.Yields block.items read ∧
          expansion = .ofMembers block.selfType typeName (read.filterMap id) := by
  rw [expand]
  cases block.checkedTypeName with
  | error error => simp
  | ok typeName =>
    cases taken : takeEach Item.takeTagged block.items with
    | mk items results =>
    rw [Prod.mk.injEq, except_map_eq_ok_iff]
    constructor
    · rintro ⟨rfl, read, rfl, rfl⟩
      obtain ⟨rfl, yields⟩ := (takeEach_eq_ok_iff Item.takeTagged_eq_ok_iff).1 taken
      exact ⟨rfl, typeName, read, rfl, yields, rfl⟩
    · rintro ⟨rfl, _, read, same, yields, rfl⟩
      cases same
      rw [(takeEach_eq_ok_iff Item.takeTagged_eq_ok_iff).2 ⟨rfl, yields⟩] at taken
      cases taken
      exact ⟨rfl, read, rfl, rfl⟩

end ImplBlock

end Waymark.Source
