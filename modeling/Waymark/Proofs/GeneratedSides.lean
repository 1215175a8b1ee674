import Waymark.Proofs.GeneratedCode
import Waymark.Proofs.Labelling

/-!
# The two sides of a section

For every method with a label a registration and a path method are generated, both in the
order of the methods. They have one name and one kind, and a call takes its arguments by
the types of the method's parameters on either side, so what a path goes through is what
the section declares.
-/

namespace Waymark

namespace Source

/-! ## What methods give -/

/-- Whether references to a type show text or a sequence and no nested section. -/
inductive TypeExpr.IsContent : TypeExpr → Prop
  | slice (item : List Token) : IsContent (.slice item)
  | array (inner : List Token) : IsContent (.array inner)
  | text {path : TypePath} {last : PathSegment} :
      (∀ qualifier, path.start ≠ .inside qualifier) →
      path.segments.getLast? = some last →
      last.name = "str" ∨ last.name = "String" ∨ last.name = "Cow" →
      IsContent (.named path)

namespace TypeExpr

end TypeExpr

namespace Method

/-- Whether a method has a label of its own. -/
def isLabelled (method : Method) : Bool := method.attributes.any Attribute.isLabel

/-- Whether a method opens a nested section of a type: it has no parameters and returns a
reference, shared or mutable, to what is no mere content. -/
def Opens (method : Method) (target : TypeExpr) : Prop :=
  method.parameters = [] ∧ ∃ lifetime isMutable,
    method.output = some (.reference lifetime isMutable target) ∧ ¬ target.IsContent

end Method

/-- The methods of a block that have labels, in their order. -/
def ImplBlock.labelled (block : ImplBlock) : List Method :=
  block.methods.filter Method.isLabelled

end Source

open Source

/-! ## Two sides of a method -/

/-- Whether a name is another one without the mark of a raw name. -/
inductive PlainName : String → String → Prop
  | raw (plain : String) : PlainName ("r#" ++ plain) plain
  | plain {name : String} : (∀ rest, name ≠ "r#" ++ rest) → PlainName name name

/-- Whether a parameter of a generated call stands for one of a method: it is bound to what
that binds, and has its plain name, its type and the tag of its label, if it has one. -/
structure CallParameter.StandsFor (generated : CallParameter) (parameter : MethodParameter) :
    Prop where
  bound : parameter.pattern.binding? = some generated.binding
  named : PlainName generated.binding generated.name
  typed : generated.type = parameter.type
  tagged : HasLabel parameter.attributes generated.tag

/-- Whether code is what a method with a label gives in a block of a type. Its registration
and its path method are of one kind, and the method decides which: the conditions of the three
exclude one another. -/
inductive Generates (selfType : TypeExpr) (method : Method) : MemberCode → Prop
  | nested {name tag : String} {target : TypeExpr} :
      PlainName method.name name →
      HasLabel method.attributes (some tag) →
      method.Opens target →
      Generates selfType method (.nested selfType method.name name tag target)
  | text {name tag : String} :
      PlainName method.name name →
      HasLabel method.attributes (some tag) →
      method.parameters = [] →
      (∀ target, ¬ method.Opens target) →
      Generates selfType method (.text selfType method.name name tag)
  | call {name tag : String} {parameters : List CallParameter} :
      PlainName method.name name →
      HasLabel method.attributes (some tag) →
      method.parameters ≠ [] →
      List.Forall₂ CallParameter.StandsFor parameters method.parameters →
      Generates selfType method (.call selfType method.name name tag parameters)

section

variable {method : Method}

theorem toList_raw (plain : String) : ("r#" ++ plain).toList = 'r' :: '#' :: plain.toList := by
  rw [String.toList_append]
  rfl

theorem eq_raw_of_toList {name : String} {rest : List Char}
    (raw : name.toList = 'r' :: '#' :: rest) : name = "r#" ++ String.ofList rest := by
  rw [← String.toList_inj, raw, toList_raw, String.toList_ofList]

theorem plainName_iff {name plain : String} : PlainName name plain ↔ plain = unraw name := by
  unfold unraw
  constructor
  · rintro (_ | unmarked)
    · rw [toList_raw]
      exact String.ofList_toList.symm
    · split
      · next rest raw => exact absurd (eq_raw_of_toList raw) (unmarked _)
      · rfl
  · rintro rfl
    split
    · next rest raw =>
      rw [eq_raw_of_toList raw]
      exact .raw _
    · next unmarked =>
      apply PlainName.plain
      rintro rest rfl
      exact unmarked rest.toList (toList_raw rest)

end

/-! ## A method gives one code -/

theorem Source.HasLabel.unique {attributes : List Attribute} {one other : Option String}
    (first : HasLabel attributes one) (second : HasLabel attributes other) : one = other := by
  cases one with
  | none =>
    cases other with
    | none => rfl
    | some tag =>
      obtain ⟨attr, bracket, only, -⟩ := second
      rw [HasLabel, only] at first
      cases first
  | some tag =>
    obtain ⟨attr, bracket, only, grouped⟩ := first
    cases other with
    | none =>
      rw [HasLabel, only] at second
      cases second
    | some otherTag =>
      obtain ⟨otherAttr, otherBracket, otherOnly, otherGrouped⟩ := second
      rw [only] at otherOnly
      cases otherOnly
      rw [grouped] at otherGrouped
      cases otherGrouped
      rfl

theorem PlainName.unique {name one other : String} (first : PlainName name one)
    (second : PlainName name other) : one = other :=
  (plainName_iff.1 first).trans (plainName_iff.1 second).symm

theorem CallParameter.StandsFor.unique {parameter : MethodParameter} {one other : CallParameter}
    (first : one.StandsFor parameter) (second : other.StandsFor parameter) : one = other := by
  obtain ⟨binding, name, type, tag⟩ := one
  obtain ⟨otherBinding, otherName, otherType, otherTag⟩ := other
  have bound : some binding = some otherBinding := first.bound.symm.trans second.bound
  cases bound
  have named : name = otherName := first.named.unique second.named
  have typed : type = otherType := first.typed.trans second.typed.symm
  have tagged : tag = otherTag := first.tagged.unique second.tagged
  rw [named, typed, tagged]

theorem Source.Method.Opens.unique {method : Method} {one other : TypeExpr}
    (first : method.Opens one) (second : method.Opens other) : one = other := by
  obtain ⟨-, lifetime, isMutable, output, -⟩ := first
  obtain ⟨-, otherLifetime, otherIsMutable, otherOutput, -⟩ := second
  rw [output] at otherOutput
  cases otherOutput
  rfl

/-- The conditions on a method leave no choice of what is generated for it. -/
theorem Generates.unique {selfType : TypeExpr} {method : Method} {one other : MemberCode}
    (first : Generates selfType method one) (second : Generates selfType method other) :
    one = other := by
  cases first with
  | nested plain labelled opens =>
    cases second with
    | nested otherPlain otherLabelled otherOpens =>
      cases labelled.unique otherLabelled
      rw [plain.unique otherPlain, opens.unique otherOpens]
    | text _ _ _ shut => exact absurd opens (shut _)
    | call _ _ nonempty => exact absurd opens.1 nonempty
  | text plain labelled noParameters shut =>
    cases second with
    | nested _ _ opens => exact absurd opens (shut _)
    | text otherPlain otherLabelled =>
      cases labelled.unique otherLabelled
      rw [plain.unique otherPlain]
    | call _ _ nonempty => exact absurd noParameters nonempty
  | call plain labelled nonempty stand =>
    cases second with
    | nested _ _ opens => exact absurd opens.1 nonempty
    | text _ _ noParameters => exact absurd noParameters nonempty
    | call otherPlain otherLabelled _ otherStand =>
      cases labelled.unique otherLabelled
      have single : Relator.LeftUnique CallParameter.StandsFor :=
        fun _ _ _ => CallParameter.StandsFor.unique
      rw [plain.unique otherPlain, List.left_unique_forall₂' single stand otherStand]

/-! ## The members of a block -/

/-- The method that an item is, if it has a label. -/
def Source.Item.labelled? : Item → Option Method
  | .method declared => if declared.isLabelled then some declared else none
  | .other _ _ => none

theorem Source.ImplBlock.labelled_eq_filterMap (block : ImplBlock) :
    block.labelled = block.items.filterMap Item.labelled? := by
  rw [labelled, methods, List.filter_filterMap]
  apply List.filterMap_congr
  intro item _
  cases item with
  | method declared => by_cases own : declared.isLabelled <;> simp [Item.labelled?, own]
  | other attributes tokens => rfl

/-- An item is read as a member just when it is a method with a label. -/
theorem rel_labelled? {item : Item} {member? : Option TaggedMember}
    (yields : item.Yields member?) : Option.Rel Method.ReadsAs item.labelled? member? := by
  cases item with
  | other attributes tokens =>
    cases yields
    exact .none
  | method declared =>
    rw [Item.labelled?, Method.isLabelled]
    cases member? with
    | none =>
      rw [any_isLabel_eq_false_iff.2 yields]
      exact .none
    | some member =>
      have reads : declared.ReadsAs member := yields
      obtain ⟨attr, bracket, only, -⟩ := reads.labelled
      have own : declared.attributes.any Attribute.isLabel ≠ false := by
        rw [ne_eq, any_isLabel_eq_false_iff, only]
        exact List.cons_ne_nil _ _
      rw [Bool.ne_false_iff.1 own]
      exact .some reads

theorem forall₂_readsAs_labelled {block : ImplBlock} {read : List (Option TaggedMember)}
    (yields : List.Forall₂ Item.Yields block.items read) :
    List.Forall₂ Method.ReadsAs block.labelled (read.filterMap id) := by
  rw [block.labelled_eq_filterMap]
  have one : Relator.LiftFun Item.Yields (Option.Rel Method.ReadsAs) Item.labelled? id :=
    fun _ _ => rel_labelled?
  exact List.rel_filterMap one yields

theorem exists_of_forall₂ {α β : Type} {R : α → β → Prop} {lefts : List α} {rights : List β}
    (related : List.Forall₂ R lefts rights) {left : α} (listed : left ∈ lefts) :
    ∃ right ∈ rights, R left right := by
  induction related with
  | nil => cases listed
  | @cons first other _ others own _ inductionHypothesis =>
    rcases List.mem_cons.1 listed with rfl | later
    · exact ⟨other, List.mem_cons_self, own⟩
    · obtain ⟨right, found, related⟩ := inductionHypothesis later
      exact ⟨right, List.mem_cons_of_mem other found, related⟩

theorem exists_forall₂ {α β : Type} {R : α → β → Prop} {lefts : List α}
    (related : ∀ left ∈ lefts, ∃ right, R left right) :
    ∃ rights, List.Forall₂ R lefts rights := by
  induction lefts with
  | nil => exact ⟨[], .nil⟩
  | cons left rest inductionHypothesis =>
    obtain ⟨⟨right, own⟩, others⟩ := List.forall_mem_cons.1 related
    obtain ⟨rights, later⟩ := inductionHypothesis others
    exact ⟨right :: rights, .cons own later⟩

namespace Sample.Bureau

def typeNamed (name : String) : TypeExpr := .named ⟨.relative, [⟨name, []⟩], []⟩

def label (tag : String) : Attribute where
  name := Attribute.labelName
  arguments := .grouped .round [.text tag]

/-- The method that opens the bureau's jobs. -/
def jobs : Method where
  attributes := [label "j"]
  name := "jobs"
  receiver := some { form := .reference none false }
  parameters := []
  output := some (.reference none false (typeNamed "Jobs"))

/-- A text with a raw name. -/
def kind : Method where
  attributes := [label "t"]
  name := "r#type"
  receiver := some { form := .reference none false }
  parameters := []
  output := some (.reference none false (typeNamed "str"))

/-- A call; the tag of its second parameter is left out. -/
def hire : Method where
  attributes := [label "h"]
  name := "hire"
  receiver := some { form := .reference none false }
  parameters :=
    [⟨[label "xp"], .binding false false "experience" none, typeNamed "String"⟩,
      ⟨[], .binding false true "years" none, typeNamed "i32"⟩]
  output := some (typeNamed "String")

/-- A method without a label of its own. -/
def helper : Method := { hire with attributes := [], name := "helper" }

def bureau : ImplBlock where
  selfType := typeNamed "Bureau"
  items :=
    [.method jobs, .method helper, .method kind, .other [] [.name "const"], .method hire]

def bureauExpansion : Expansion :=
  .ofMembers (typeNamed "Bureau") "Bureau"
    [⟨"jobs", "j", .nested (typeNamed "Jobs")⟩, ⟨"r#type", "t", .text⟩,
      ⟨"hire", "h",
        .call [⟨"experience", typeNamed "String", some "xp"⟩, ⟨"years", typeNamed "i32", none⟩]⟩]

theorem expand_bureau : bureau.expand = (bureau.withoutLabels, .ok bureauExpansion) := by
  rfl

end Sample.Bureau

open Sample.Bureau

example :
    some (MemberCode.nested (typeNamed "Bureau") "jobs" "jobs" "j" (typeNamed "Jobs")).statement =
      (lexemes? "members.section::<Jobs>(\"jobs\", \"j\", Self::jobs);").map Lexeme.tokens := by
  decide +kernel

end Waymark
