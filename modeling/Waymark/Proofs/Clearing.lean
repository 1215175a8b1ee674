import Waymark.Proofs.GeneratedSides

/-!
# What expansion leaves of a block

Expansion takes the labels off the methods of a block and off their parameters, those of
methods without a label included, and leaves everything else as it is written.
-/

namespace Waymark.Source

/-! ## Clearing -/

/-- Whether attributes are cleared to others: labels are dropped, and what is no label stays,
in its order. -/
inductive Cleared : List Attribute → List Attribute → Prop
  | nil : Cleared [] []
  | label {attr : Attribute} {before after : List Attribute} :
      attr.isLabel = true → Cleared before after → Cleared (attr :: before) after
  | other {attr : Attribute} {before after : List Attribute} :
      attr.isLabel = false → Cleared before after → Cleared (attr :: before) (attr :: after)

/-- Whether a parameter is another one but for labels. -/
structure MethodParameter.ClearedTo (before after : MethodParameter) : Prop where
  attributes : Cleared before.attributes after.attributes
  pattern : after.pattern = before.pattern
  type : after.type = before.type

/-- Whether a method is another one but for its labels and those of its parameters. Attributes
of the receiver stay. -/
structure Method.ClearedTo (before after : Method) : Prop where
  attributes : Cleared before.attributes after.attributes
  parameters : List.Forall₂ MethodParameter.ClearedTo before.parameters after.parameters
  qualifiers : after.qualifiers = before.qualifiers
  name : after.name = before.name
  generics : after.generics = before.generics
  receiver : after.receiver = before.receiver
  output : after.output = before.output
  bounds : after.bounds = before.bounds
  body : after.body = before.body

/-- Whether an item is another one but for labels; only methods lose any. -/
inductive Item.ClearedTo : Item → Item → Prop
  | method {before after : Method} :
      before.ClearedTo after → ClearedTo (.method before) (.method after)
  | other (attributes : List Attribute) (tokens : List Token) :
      ClearedTo (.other attributes tokens) (.other attributes tokens)

/-- Whether a block is another one but for the labels in its items. -/
structure ImplBlock.ClearedTo (before after : ImplBlock) : Prop where
  items : List.Forall₂ Item.ClearedTo before.items after.items
  attributes : after.attributes = before.attributes
  isDefault : after.isDefault = before.isDefault
  isUnsafe : after.isUnsafe = before.isUnsafe
  implemented : after.implemented = before.implemented
  generics : after.generics = before.generics
  selfType : after.selfType = before.selfType
  bounds : after.bounds = before.bounds

/-! ## Clearing has one result -/

theorem cleared_iff {before after : List Attribute} :
    Cleared before after ↔ after = withoutLabels before := by
  constructor
  · intro cleared
    induction cleared with
    | nil => rfl
    | label isLabel _ inductionHypothesis =>
      rw [withoutLabels_cons_of_isLabel isLabel, inductionHypothesis]
    | other unlabelled _ inductionHypothesis =>
      rw [withoutLabels_cons_of_not (by simp [unlabelled]), inductionHypothesis]
  · rintro rfl
    induction before with
    | nil => exact .nil
    | cons attr rest inductionHypothesis =>
      cases isLabel : attr.isLabel with
      | true =>
        rw [withoutLabels_cons_of_isLabel isLabel]
        exact .label isLabel inductionHypothesis
      | false =>
        rw [withoutLabels_cons_of_not (by simp [isLabel])]
        exact .other isLabel inductionHypothesis

theorem Cleared.isLabel_eq_false {before after : List Attribute} (cleared : Cleared before after) :
    ∀ attr ∈ after, attr.isLabel = false := by
  induction cleared with
  | nil => simp
  | label _ _ inductionHypothesis => exact inductionHypothesis
  | other unlabelled _ inductionHypothesis =>
    exact List.forall_mem_cons.2 ⟨unlabelled, inductionHypothesis⟩

/-- If each item of a list is related to one result only, so is the list. -/
theorem forall₂_iff_eq_map {α β : Type} {R : α → β → Prop} {f : α → β}
    (single : ∀ item result, R item result ↔ result = f item) {items : List α}
    {results : List β} : List.Forall₂ R items results ↔ results = items.map f := by
  induction items generalizing results with
  | nil => exact List.forall₂_nil_left_iff
  | cons item rest inductionHypothesis =>
    simp [List.forall₂_cons_left_iff, single, inductionHypothesis]

theorem MethodParameter.clearedTo_iff (before after : MethodParameter) :
    before.ClearedTo after ↔ after = before.withoutLabels := by
  constructor
  · rintro ⟨attributes, pattern, type⟩
    rw [cleared_iff] at attributes
    cases after
    simp_all [withoutLabels]
  · rintro rfl
    exact ⟨cleared_iff.2 rfl, rfl, rfl⟩

theorem Method.clearedTo_iff {before after : Method} :
    before.ClearedTo after ↔ after = before.withoutLabels := by
  constructor
  · rintro ⟨attributes, parameters, qualifiers, name, generics, receiver, output, bounds, body⟩
    rw [cleared_iff] at attributes
    rw [forall₂_iff_eq_map MethodParameter.clearedTo_iff] at parameters
    cases after
    simp_all [withoutLabels]
  · rintro rfl
    exact ⟨cleared_iff.2 rfl, (forall₂_iff_eq_map MethodParameter.clearedTo_iff).2 rfl, rfl, rfl,
      rfl, rfl, rfl, rfl, rfl⟩

theorem Item.clearedTo_iff (before after : Item) :
    before.ClearedTo after ↔ after = before.withoutLabels := by
  constructor
  · intro cleared
    cases cleared with
    | method cleared => rw [Method.clearedTo_iff.1 cleared, withoutLabels]
    | other attributes tokens => rfl
  · rintro rfl
    cases before with
    | method method => exact .method (Method.clearedTo_iff.2 rfl)
    | other attributes tokens => exact .other attributes tokens

theorem ImplBlock.clearedTo_iff {before after : ImplBlock} :
    before.ClearedTo after ↔ after = before.withoutLabels := by
  constructor
  · rintro ⟨items, attributes, isDefault, isUnsafe, implemented, generics, selfType, bounds⟩
    rw [forall₂_iff_eq_map Item.clearedTo_iff] at items
    cases after
    simp_all [withoutLabels]
  · rintro rfl
    exact ⟨(forall₂_iff_eq_map Item.clearedTo_iff).2 rfl, rfl, rfl, rfl, rfl, rfl, rfl, rfl⟩

/-! ## No labels are left -/

/-- Whether a method has no label, and none of its parameters has one. -/
structure Method.Unlabelled (method : Method) : Prop where
  attributes : ∀ attr ∈ method.attributes, attr.isLabel = false
  parameters : ∀ parameter ∈ method.parameters, ∀ attr ∈ parameter.attributes,
    attr.isLabel = false

theorem Method.ClearedTo.unlabelled {before after : Method} (cleared : before.ClearedTo after) :
    after.Unlabelled where
  attributes := cleared.attributes.isLabel_eq_false
  parameters parameter listed := by
    obtain ⟨source, -, clearedParameter⟩ := exists_of_forall₂ cleared.parameters.flip listed
    exact clearedParameter.attributes.isLabel_eq_false

theorem ImplBlock.ClearedTo.unlabelled {before after : ImplBlock}
    (cleared : before.ClearedTo after) : ∀ method ∈ after.methods, method.Unlabelled := by
  intro method listed
  obtain ⟨item, found, same⟩ := List.mem_filterMap.1 listed
  obtain ⟨source, -, clearedItem⟩ := exists_of_forall₂ cleared.items.flip found
  cases clearedItem with
  | method clearedMethod =>
    cases same
    exact clearedMethod.unlabelled
  | other attributes tokens => cases same

/-- A block that is expanded is left as it is, but for the labels of its methods and of their
parameters. All of these are gone, and nothing else could be left. -/
theorem expand_leaves_all_but_labels {block left : ImplBlock} {expansion : Expansion}
    (expanded : block.expand = (left, .ok expansion)) :
    block.ClearedTo left ∧ (∀ other, block.ClearedTo other → other = left) ∧
      ∀ method ∈ left.methods, method.Unlabelled := by
  obtain ⟨rfl, -⟩ := ImplBlock.expand_eq_ok_iff.1 expanded
  have cleared : block.ClearedTo block.withoutLabels := ImplBlock.clearedTo_iff.2 rfl
  exact ⟨cleared, fun other => ImplBlock.clearedTo_iff.1, cleared.unlabelled⟩

open Sample.Bureau

theorem bureau_loses_labels_only :
    bureau.expand = (bureau.withoutLabels, .ok bureauExpansion) ∧
      bureau.ClearedTo bureau.withoutLabels ∧
      ∀ method ∈ bureau.withoutLabels.methods, method.Unlabelled := by
  obtain ⟨cleared, -, unlabelled⟩ := expand_leaves_all_but_labels expand_bureau
  exact ⟨expand_bureau, cleared, unlabelled⟩

/-- The helper has no label of its own, and its first parameter loses the one that it has. -/
example :
    helper.parameters.map MethodParameter.attributes = [[label "xp"], []] ∧
      helper.withoutLabels.parameters.map MethodParameter.attributes = [[], []] := ⟨rfl, rfl⟩

end Waymark.Source
