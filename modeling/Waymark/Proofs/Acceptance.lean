import Waymark.Proofs.DepthFirst
import Waymark.Proofs.GeneratedSides
import Waymark.Proofs.Registration

/-!
# Blocks that describe sections

A block is expanded just when it, its methods with labels and their parameters have the forms
that a section is described in. The tags of what is generated are tags that a registry takes,
so it leaves none of the members out, and no parameter loses a tag of its own.
-/

namespace Waymark

theorem isValidTag_eq_true_iff {tag : String} :
    isValidTag tag = true ↔ Text.isBlank tag = false ∧ '_' ∉ tag.toList := by
  simp [isValidTag, tagSeparator]

namespace Source

/-! ## Forms that are accepted -/

/-- Whether attributes have a single label, this holds nothing but a string literal in
brackets, and the tag in it is neither blank nor contains a separator. -/
def TaggedBy (attributes : List Attribute) (tag : String) : Prop :=
  (∃ attr bracket, attributes.filter Attribute.isLabel = [attr] ∧
    attr.arguments = .grouped bracket [.text tag]) ∧
    Text.isBlank tag = false ∧ '_' ∉ tag.toList

/-- The form of parameters of members: no label or a single one, a name for a pattern, perhaps
with a pattern behind it, and a type that is not written as a reference. -/
structure MethodParameter.Accepted (parameter : MethodParameter) : Prop where
  labelled : (∀ attr ∈ parameter.attributes, attr.isLabel = false) ∨
    ∃ tag, TaggedBy parameter.attributes tag
  named : ∃ byReference isMutable name inner,
    parameter.pattern = .binding byReference isMutable name inner
  owned : ∀ lifetime isMutable target, parameter.type ≠ .reference lifetime isMutable target

/-- The form of methods that are members: a single label, no generic parameters, a receiver
that is a shared reference, a return type, and parameters of the form of theirs. -/
structure Method.Accepted (method : Method) : Prop where
  labelled : ∃ tag, TaggedBy method.attributes tag
  plain : method.generics = []
  shared : ∃ attributes lifetime, method.receiver = some ⟨attributes, .reference lifetime false⟩
  returns : ∃ output, method.output = some output
  parameters : ∀ parameter ∈ method.parameters, parameter.Accepted

/-- The form of blocks that describe sections. Methods without labels have any form. -/
structure ImplBlock.Accepted (block : ImplBlock) : Prop where
  inherent : block.implemented = none
  plain : block.generics = []
  named : ∃ path, block.selfType = .named path ∧ path.segments ≠ []
  methods : ∀ method ∈ block.methods,
    (∃ attr ∈ method.attributes, attr.isLabel = true) → method.Accepted

/-! ## What is read is what is accepted -/

theorem hasLabel_none_iff {attributes : List Attribute} :
    HasLabel attributes none ↔ ∀ attr ∈ attributes, attr.isLabel = false := by
  simp [HasLabel, List.filter_eq_nil_iff]

theorem taggedBy_iff {attributes : List Attribute} {tag : String} :
    TaggedBy attributes tag ↔ HasLabel attributes (some tag) ∧ isValidTag tag = true := by
  rw [TaggedBy, isValidTag_eq_true_iff, HasLabel]

namespace MethodParameter

variable {parameter : MethodParameter}

theorem ReadsAs.accepted {tagged : TaggedParameter} (reads : parameter.ReadsAs tagged) :
    parameter.Accepted := by
  refine ⟨?labelled, ?named, reads.owned⟩
  case labelled =>
    have labelled := reads.labelled
    cases tag : tagged.tag with
    | none =>
      rw [tag] at labelled
      exact .inl (hasLabel_none_iff.1 labelled)
    | some own =>
      rw [tag] at labelled
      exact .inr ⟨own, taggedBy_iff.2 ⟨labelled, reads.valid own tag⟩⟩
  case named =>
    have bound := reads.bound
    cases pattern : parameter.pattern with
    | binding byReference isMutable name inner =>
      exact ⟨byReference, isMutable, name, inner, rfl⟩
    | other tokens =>
      rw [pattern] at bound
      cases bound

theorem Accepted.exists_readsAs (accepted : parameter.Accepted) :
    ∃ tagged, parameter.ReadsAs tagged := by
  obtain ⟨labelled, ⟨byReference, isMutable, name, inner, pattern⟩, owned⟩ := accepted
  have bound : parameter.pattern.binding? = some name := by rw [pattern, Pattern.binding?]
  rcases labelled with unlabelled | ⟨tag, tagged⟩
  · exact ⟨⟨name, parameter.type, none⟩, hasLabel_none_iff.2 unlabelled, by simp, bound, rfl,
      owned⟩
  · obtain ⟨labelled, valid⟩ := taggedBy_iff.1 tagged
    refine ⟨⟨name, parameter.type, some tag⟩, labelled, ?_, bound, rfl, owned⟩
    rintro other same
    cases same
    exact valid

end MethodParameter

namespace Method

variable {method : Method}

theorem checkedOutput_eq_ok_iff {output : TypeExpr} :
    method.checkedOutput = .ok output ↔
      method.generics = [] ∧
        (∃ attributes lifetime,
          method.receiver = some ⟨attributes, .reference lifetime false⟩) ∧
        method.output = some output := by
  have shared : (method.receiver.any fun receiver => receiver.form.isShared) = true ↔
      ∃ attributes lifetime,
        method.receiver = some ⟨attributes, .reference lifetime false⟩ := by
    rw [Option.any_eq_true]
    constructor
    · rintro ⟨⟨attributes, form⟩, found, isShared⟩
      cases form with
      | reference lifetime isMutable =>
        cases isMutable with
        | false => exact ⟨attributes, lifetime, found⟩
        | true => cases isShared
      | value isMutable => cases isShared
      | typed isMutable type => cases isShared
    · rintro ⟨attributes, lifetime, found⟩
      exact ⟨_, found, rfl⟩
  rw [checkedOutput, ← shared]
  cases generics : method.generics with
  | cons first others => simp
  | nil =>
    cases (method.receiver.any fun receiver => receiver.form.isShared) with
    | false => simp
    | true => cases method.output <;> simp

theorem ReadsAs.accepted {member : TaggedMember} (reads : method.ReadsAs member) :
    method.Accepted := by
  obtain ⟨labelled, valid, -, output, parameters, checked, read, -⟩ := reads
  obtain ⟨plain, shared, returns⟩ := checkedOutput_eq_ok_iff.1 checked
  refine ⟨⟨member.tag, taggedBy_iff.2 ⟨labelled, valid⟩⟩, plain, shared, ⟨output, returns⟩, ?_⟩
  intro parameter listed
  obtain ⟨tagged, -, own⟩ := exists_of_forall₂ read listed
  exact own.accepted

theorem Accepted.exists_readsAs (accepted : method.Accepted) :
    ∃ member, method.ReadsAs member := by
  obtain ⟨⟨tag, tagged⟩, plain, shared, ⟨output, returns⟩, each⟩ := accepted
  obtain ⟨labelled, valid⟩ := taggedBy_iff.1 tagged
  obtain ⟨parameters, read⟩ := exists_forall₂ fun parameter listed =>
    (each parameter listed).exists_readsAs
  exact ⟨⟨method.name, tag, output.taggedForm parameters⟩, labelled, valid, rfl, output,
    parameters, checkedOutput_eq_ok_iff.2 ⟨plain, shared, returns⟩, read, rfl⟩

/-- A method can be read just when it is accepted or has no label. -/
theorem exists_yields_iff :
    (∃ member?, method.Yields member?) ↔
      ((∃ attr ∈ method.attributes, attr.isLabel = true) → method.Accepted) := by
  constructor
  · rintro ⟨member?, yields⟩ ⟨attr, listed, isLabel⟩
    cases member? with
    | none =>
      have unlabelled := hasLabel_none_iff.1 yields attr listed
      rw [isLabel] at unlabelled
      cases unlabelled
    | some member => exact ReadsAs.accepted yields
  · intro acceptedIfLabelled
    by_cases labelled : ∃ attr ∈ method.attributes, attr.isLabel = true
    · obtain ⟨member, reads⟩ := (acceptedIfLabelled labelled).exists_readsAs
      exact ⟨some member, reads⟩
    · refine ⟨none, hasLabel_none_iff.2 fun attr listed => ?_⟩
      rw [← Bool.not_eq_true]
      exact fun isLabel => labelled ⟨attr, listed, isLabel⟩

end Method

namespace ImplBlock

variable {block : ImplBlock}

theorem exists_checkedTypeName_iff :
    (∃ typeName, block.checkedTypeName = .ok typeName) ↔
      block.implemented = none ∧ block.generics = [] ∧
        ∃ path, block.selfType = .named path ∧ path.segments ≠ [] := by
  have named : (∃ typeName, block.selfType.lastSegment? = some typeName) ↔
      ∃ path, block.selfType = .named path ∧ path.segments ≠ [] := by
    cases block.selfType with
    | named path =>
      simp [TypeExpr.lastSegment?, TypePath.last?, ← Option.isSome_iff_exists]
    | reference lifetime isMutable target => simp [TypeExpr.lastSegment?]
    | slice item => simp [TypeExpr.lastSegment?]
    | array inner => simp [TypeExpr.lastSegment?]
    | other tokens => simp [TypeExpr.lastSegment?]
  rw [← named, checkedTypeName]
  cases block.implemented with
  | some trait => simp
  | none =>
    cases block.generics with
    | cons first others => simp
    | nil => cases block.selfType.lastSegment? <;> simp

theorem method_mem_items {method : Method} :
    method ∈ block.methods ↔ .method method ∈ block.items := by
  rw [methods, List.mem_filterMap]
  constructor
  · rintro ⟨item, listed, same⟩
    cases item with
    | method own =>
      cases same
      exact listed
    | other attributes tokens => cases same
  · exact fun listed => ⟨_, listed, rfl⟩

theorem exists_expand_iff :
    (∃ left expansion, block.expand = (left, .ok expansion)) ↔ block.Accepted := by
  constructor
  · rintro ⟨left, expansion, expanded⟩
    obtain ⟨-, typeName, read, checked, yields, -⟩ := expand_eq_ok_iff.1 expanded
    obtain ⟨inherent, plain, named⟩ := exists_checkedTypeName_iff.1 ⟨typeName, checked⟩
    refine ⟨inherent, plain, named, fun method listed => ?_⟩
    obtain ⟨member?, -, own⟩ := exists_of_forall₂ yields (method_mem_items.1 listed)
    exact Method.exists_yields_iff.1 ⟨member?, own⟩
  · rintro ⟨inherent, plain, named, acceptedIfLabelled⟩
    obtain ⟨typeName, checked⟩ := exists_checkedTypeName_iff.2 ⟨inherent, plain, named⟩
    have each : ∀ item ∈ block.items, ∃ member?, item.Yields member? := by
      intro item listed
      cases item with
      | method method =>
        exact Method.exists_yields_iff.2 (acceptedIfLabelled method (method_mem_items.2 listed))
      | other attributes tokens => exact ⟨none, rfl⟩
    obtain ⟨read, yields⟩ := exists_forall₂ each
    exact ⟨_, _, expand_eq_ok_iff.2 ⟨rfl, typeName, read, checked, yields, rfl⟩⟩

end ImplBlock

/-! ## Names that are read -/

theorem TypePath.segments_ne_nil_of_ofTrees? {trees : List Tree} {path : TypePath}
    (read : TypePath.ofTrees? trees = some path) : path.segments ≠ [] := by
  unfold TypePath.ofTrees? at read
  dsimp only at read
  split at read
  · cases read
  · next nonempty =>
    have full : (TypePath.takeSegments trees).2.1 ≠ [] := by simpa using nonempty
    split at read
    · cases read
      exact full
    · split at read <;> cases read
      exact full

theorem TypeExpr.segments_ne_nil_of_ofTrees {trees : List Tree} {path : TypePath}
    (read : TypeExpr.ofTrees trees = .named path) : path.segments ≠ [] := by
  unfold TypeExpr.ofTrees at read
  split at read <;> try cases read
  unfold TypeExpr.ofUnsigned at read
  split at read
  · dsimp only at read
    split at read <;> cases read
  · split at read <;> cases read
    next found => exact TypePath.segments_ne_nil_of_ofTrees? found

theorem ImplBlock.segments_ne_nil_of_behindWord? {trees : List Tree} {block : ImplBlock}
    {path : TypePath} (read : ImplBlock.behindWord? trees = some block)
    (named : block.selfType = .named path) : path.segments ≠ [] := by
  unfold ImplBlock.behindWord? at read
  dsimp only at read
  obtain ⟨content, -, rfl⟩ := Option.map_eq_some_iff.1 read
  dsimp only at named
  unfold ImplBlock.heading at named
  split at named <;> exact TypeExpr.segments_ne_nil_of_ofTrees named

/-- The name of a type that is read has a segment. -/
theorem ImplBlock.segments_ne_nil_of_ofText? {text : String} {block : ImplBlock}
    {path : TypePath} (read : ImplBlock.ofText? text = some block)
    (named : block.selfType = .named path) : path.segments ≠ [] := by
  unfold ImplBlock.ofText? at read
  split at read
  · unfold ImplBlock.ofTrees? at read
    split at read
    · dsimp only at read
      split at read
      · obtain ⟨behind, found, rfl⟩ := Option.map_eq_some_iff.1 read
        exact ImplBlock.segments_ne_nil_of_behindWord? found named
      · cases read
    · cases read
  · cases read

end Source

open Source

/-! ## Tags of registrations -/

namespace Registration

def tag : Registration → String
  | .nested _ _ tag _ => tag
  | .text _ tag _ => tag
  | .call _ tag _ _ _ => tag

/-- The parameters of a registered call; other members have none. -/
def parameters : Registration → List RegisteredParameter
  | .nested _ _ _ _ | .text _ _ _ => []
  | .call _ _ parameters _ _ => parameters

/-- Whether a registry can take all tags of a registration: the member's own and those that
its parameters have by labels. -/
structure ValidTags (registration : Registration) : Prop where
  tag : isValidTag registration.tag = true
  parameters : ∀ parameter ∈ registration.parameters, ∀ tag,
    parameter.tag = some tag → isValidTag tag = true

variable {ι : Type}

/-- Whether a declaration is one that a registration makes: it has the registration's name and
tag, and for a call the names and tags of the parameters. Kinds and contents depend on the
types, which are not known here. -/
inductive Declares : Registration → Declaration ι → Prop
  | nested {target : TypeExpr} {name tag method : String} (key : SectionKey)
      (navigate : ι → ι) :
      Declares (.nested target name tag method) ⟨name, tag, .nested key navigate⟩
  | text {name tag method : String} (read : ι → String) :
      Declares (.text name tag method) ⟨name, tag, .text read⟩
  | call {name tag method : String} {parameters : List RegisteredParameter}
      {declared : List ParameterDeclaration} {extractions : List (TypeExpr × Nat)}
      (invoke : ι → List Value → String) :
      List.Forall₂
        (fun parameter declaration =>
          declaration.name = parameter.name ∧ declaration.tag = parameter.tag)
        parameters declared →
      Declares (.call name tag parameters method extractions)
        ⟨name, tag, .call declared invoke⟩

variable {registration : Registration} {declaration : Declaration ι}

theorem Declares.isValidTag (declares : registration.Declares declaration)
    (valid : registration.ValidTags) : isValidTag declaration.tag = true := by
  cases declares <;> exact valid.tag

theorem Declares.isValidTag_of_parameter (declares : registration.Declares declaration)
    (valid : registration.ValidTags) {parameter : ParameterDeclaration}
    (listed : parameter ∈ declaration.kind.parameters) {tag : String}
    (own : parameter.tag = some tag) : Waymark.isValidTag tag = true := by
  cases declares with
  | nested key navigate => cases listed
  | text read => cases listed
  | call invoke sides =>
    obtain ⟨registered, found, -, same⟩ := exists_of_forall₂ sides.flip listed
    exact valid.parameters registered found tag (same ▸ own)

end Registration

theorem Source.Method.ReadsAs.validTags {method : Method} {member : TaggedMember}
    (reads : method.ReadsAs member) : (Registration.ofMember member).ValidTags := by
  obtain ⟨name, tag, form⟩ := member
  obtain ⟨-, valid, -, output, parameters, -, read, formed⟩ := reads
  dsimp only at valid formed
  -- Only calls have parameters, and theirs are those that were read.
  cases form with
  | nested target => exact ⟨valid, by simp [Registration.ofMember, Registration.parameters]⟩
  | text => exact ⟨valid, by simp [Registration.ofMember, Registration.parameters]⟩
  | call tagged =>
    refine ⟨valid, ?_⟩
    intro parameter listed own same
    obtain ⟨source, found, rfl⟩ := List.mem_map.1 listed
    have sameParameters : parameters = tagged := by
      cases parameters with
      | nil =>
        rw [TypeExpr.taggedForm] at formed
        split at formed <;> cases formed
      | cons first others =>
        cases formed
        rfl
    subst sameParameters
    obtain ⟨parameter, -, reads⟩ := exists_of_forall₂ read.flip found
    exact reads.valid own same

theorem Source.ImplBlock.validTags_of_expand {block left : ImplBlock} {expansion : Expansion}
    (expanded : block.expand = (left, .ok expansion)) :
    ∀ registration ∈ expansion.registrations, registration.ValidTags := by
  obtain ⟨-, typeName, read, -, yields, rfl⟩ := ImplBlock.expand_eq_ok_iff.1 expanded
  intro registration listed
  obtain ⟨member, found, rfl⟩ := List.mem_map.1 listed
  obtain ⟨method, -, reads⟩ := exists_of_forall₂ (forall₂_readsAs_labelled yields).flip found
  exact reads.validTags

/-! ## Valid tags in a registry -/

/-- A parameter keeps a tag of its own that can be registered. -/
theorem ParameterDeclaration.tag_settle {parameter : ParameterDeclaration} {tag : String}
    (own : parameter.tag = some tag) (valid : isValidTag tag = true) :
    parameter.settle.tag = tag := by
  have visible := (isValidTag_eq_true_iff.1 valid).1
  simp [ParameterDeclaration.settle, own, visible]

namespace Tables

variable {ι : Type} {tables : Tables ι} {policy : CollisionPolicy} {atlas : Atlas ι}
  {root : SectionKey} {member : Member} {tag : String}

/-- An accessor with a valid tag is found under it, unless the policy refuses the tag because
another member has it. -/
theorem register_of_isValidTag {accessor : Accessor ι} (valid : isValidTag accessor.tag = true)
    (policy : CollisionPolicy) (tables : Tables ι) :
    (∃ next, tables.register policy accessor = .ok next ∧
      next.resolve? accessor.owner accessor.tag = some accessor) ∨
      policy = .reject ∧ (∃ rival, tables.rival? accessor = some rival) ∧
        tables.register policy accessor =
          .error (.duplicateTag accessor.owner.name accessor.tag) := by
  cases registered : tables.register policy accessor with
  | ok next =>
    refine .inl ⟨next, rfl, ?_⟩
    rw [resolve?_register registered, if_pos ⟨rfl, rfl, valid⟩]
  | error error =>
    unfold register at registered
    rw [if_pos valid] at registered
    split at registered
    · cases registered
    · cases registered
    · next rival contested =>
      cases registered
      exact .inr ⟨rfl, ⟨rival, contested⟩, rfl⟩

/-- Registering skips a member only for an invalid tag. -/
theorem skipped_register {accessor : Accessor ι}
    (skipped : .skipped member tag ∈ tables.registerNotices policy accessor) :
    member = accessor.member ∧ isValidTag accessor.tag = false := by
  unfold registerNotices at skipped
  split at skipped
  · split at skipped <;> simp at skipped
  · next invalid =>
    cases List.mem_singleton.1 skipped
    exact ⟨rfl, by simpa using invalid⟩

theorem exists_declare_of_skipped_take {event : Event ι}
    (skipped : .skipped member tag ∈ tables.takeNotices policy event) :
    ∃ declaration, event = .declare member.owner declaration ∧
      isValidTag declaration.tag = false := by
  cases event with
  | enter key => simp [takeNotices] at skipped
  | declare owner declaration =>
    obtain ⟨rfl, invalid⟩ := skipped_register skipped
    exact ⟨declaration, rfl, invalid⟩

theorem exists_declare_of_skipped_takeAll {events : List (Event ι)}
    (skipped : .skipped member tag ∈ takeAllNotices policy tables events) :
    ∃ declaration, .declare member.owner declaration ∈ events ∧
      isValidTag declaration.tag = false := by
  induction events generalizing tables with
  | nil => cases skipped
  | cons event rest inductionHypothesis =>
    rw [takeAllNotices, List.mem_append] at skipped
    rcases skipped with now | later
    · obtain ⟨declaration, rfl, invalid⟩ := exists_declare_of_skipped_take now
      exact ⟨declaration, List.mem_cons_self, invalid⟩
    · cases taken : tables.take policy event with
      | error error =>
        rw [taken] at later
        cases later
      | ok next =>
        rw [taken] at later
        obtain ⟨declaration, listed, invalid⟩ := inductionHypothesis later
        exact ⟨declaration, List.mem_cons_of_mem event listed, invalid⟩

/-- While tables are filled, only members with invalid tags are skipped. -/
theorem exists_declaration_of_skipped
    (skipped : .skipped member tag ∈ ofAtlasNotices policy atlas root) :
    ∃ declaration ∈ atlas.declarations member.owner, isValidTag declaration.tag = false := by
  rw [ofAtlasNotices, List.mem_append] at skipped
  rcases skipped with filling | filled
  · obtain ⟨declaration, passed, invalid⟩ := exists_declare_of_skipped_takeAll filling
    obtain ⟨-, listed⟩ := Atlas.grounded_of_mem_itinerary passed
    exact ⟨declaration, listed, invalid⟩
  · split at filled <;> simp at filled

end Tables

/-- Whether registries take all that a section declares: filling one skips none of the
section's members, each member that is registered is found under its tag, unless the policy
refuses a tag that another member has, and the parameters have the tags that they are given. -/
structure Atlas.TakesAll {ι : Type} (atlas : Atlas ι) (owner : SectionKey) : Prop where
  unskipped {policy : CollisionPolicy} {root : SectionKey} {member : Member} {tag : String} :
    .skipped member tag ∈ Tables.ofAtlasNotices policy atlas root → member.owner ≠ owner
  registered {declaration : Declaration ι} (policy : CollisionPolicy) (tables : Tables ι) :
    declaration ∈ atlas.declarations owner →
    (∃ next, tables.register policy (declaration.accessor owner) = .ok next ∧
      next.resolve? owner declaration.tag = some (declaration.accessor owner)) ∨
      policy = .reject ∧ (∃ rival, tables.rival? (declaration.accessor owner) = some rival) ∧
        tables.register policy (declaration.accessor owner) =
          .error (.duplicateTag owner.name declaration.tag)
  settled {declaration : Declaration ι} {parameter : ParameterDeclaration} {tag : String} :
    declaration ∈ atlas.declarations owner →
    parameter ∈ declaration.kind.parameters →
    parameter.tag = some tag →
    parameter.settle.tag = tag

theorem Atlas.takesAll_of_declares {ι : Type} {atlas : Atlas ι} {owner : SectionKey}
    {registrations : List Registration}
    (valid : ∀ registration ∈ registrations, registration.ValidTags)
    (declares : List.Forall₂ Registration.Declares registrations (atlas.declarations owner)) :
    atlas.TakesAll owner := by
  have made (declaration : Declaration ι) (listed : declaration ∈ atlas.declarations owner) :
      ∃ registration : Registration,
        registration.ValidTags ∧ registration.Declares declaration := by
    obtain ⟨registration, found, made⟩ := exists_of_forall₂ declares.flip listed
    exact ⟨registration, valid registration found, made⟩
  refine ⟨?unskipped, ?registered, ?settled⟩
  case unskipped =>
    rintro policy root member tag skipped rfl
    obtain ⟨declaration, listed, invalid⟩ := Tables.exists_declaration_of_skipped skipped
    obtain ⟨registration, validTags, made⟩ := made declaration listed
    rw [made.isValidTag validTags] at invalid
    cases invalid
  case registered =>
    intro declaration policy tables listed
    obtain ⟨registration, validTags, made⟩ := made declaration listed
    have valid : isValidTag (declaration.accessor owner).tag = true :=
      made.isValidTag validTags
    exact Tables.register_of_isValidTag valid policy tables
  case settled =>
    intro declaration parameter tag listed declared own
    obtain ⟨registration, validTags, made⟩ := made declaration listed
    exact ParameterDeclaration.tag_settle own
      (made.isValidTag_of_parameter validTags declared own)

/-- A block is expanded just when it is accepted; that the name of its type has a segment is
so for every block that is read. The tags of everything it is expanded to can be registered,
so a section that declares this is taken as a whole. -/
theorem accepted_block_is_taken_as_a_whole (ι : Type) (block : ImplBlock) :
    ((∃ left expansion, block.expand = (left, .ok expansion)) ↔ block.Accepted) ∧
      (∀ text path, ImplBlock.ofText? text = some block → block.selfType = .named path →
        path.segments ≠ []) ∧
      ∀ left expansion, block.expand = (left, .ok expansion) →
        (∀ registration ∈ expansion.registrations, registration.ValidTags) ∧
        ∀ (atlas : Atlas ι) (owner : SectionKey),
          List.Forall₂ Registration.Declares expansion.registrations
            (atlas.declarations owner) →
          atlas.TakesAll owner := by
  refine ⟨ImplBlock.exists_expand_iff, fun _ _ => ImplBlock.segments_ne_nil_of_ofText?, ?_⟩
  intro left expansion expanded
  have valid := ImplBlock.validTags_of_expand expanded
  exact ⟨valid, fun atlas owner declares => Atlas.takesAll_of_declares valid declares⟩

open Sample.Bureau

namespace Sample.Bureau

def bureauKey : SectionKey := ⟨0, "town::Bureau"⟩

/-- What the bureau's registrations declare, all of it on numbers. -/
def bureauDeclarations : List (Declaration Nat) :=
  [⟨"jobs", "j", .nested ⟨1, "town::Jobs"⟩ (· + 1)⟩, ⟨"type", "t", .text fun _ => "bureau"⟩,
    ⟨"hire", "h",
      .call [(ParameterDeclaration.ofType .text "experience").tagged "xp",
        .ofType (.int .i32) "years"] fun _ _ => "hired"⟩]

def town : Atlas Nat where
  pages := .ofList [(bureauKey, bureauDeclarations)]

theorem declares_bureau :
    List.Forall₂ Registration.Declares bureauExpansion.registrations
      (town.declarations bureauKey) := by
  refine .cons (.nested _ _) (.cons (.text _) (.cons (.call _ ?_) .nil))
  exact .cons ⟨rfl, rfl⟩ (.cons ⟨rfl, rfl⟩ .nil)

end Sample.Bureau

theorem bureau_is_taken_as_a_whole :
    bureau.Accepted ∧ bureau.expand = (bureau.withoutLabels, .ok bureauExpansion) ∧
      List.Forall₂ Registration.Declares bureauExpansion.registrations
        (town.declarations bureauKey) ∧
      town.TakesAll bureauKey := by
  obtain ⟨expands, -, taken⟩ := accepted_block_is_taken_as_a_whole Nat bureau
  exact ⟨expands.1 ⟨_, _, expand_bureau⟩, expand_bureau, declares_bureau,
    (taken _ _ expand_bureau).2 town bureauKey declares_bureau⟩

end Waymark
