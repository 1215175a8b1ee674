import Waymark.Proofs.Binding
import Waymark.Proofs.Chain
import Waymark.Proofs.History

/-!
# Following paths

A path can be followed directly, without a label: from the provider through the accessor
of each inner member to the leaf, which is read, or called with one value per declared
parameter. Along a chain of accessors this arrives where the steps of a shape arrive.
-/

namespace Waymark

/-! ## Following without a label -/

/-- The arguments that a path ends in. -/
def Path.arguments : Path → List Argument
  | .read _ => []
  | .call _ _ arguments => arguments

/-- The values that parameters take: for each the value of the last argument under its
tag, or the zero of its kind where that is missing or of another kind. -/
def suppliedValues (arguments : List Argument) (parameters : List Parameter) : List Value :=
  parameters.map fun parameter =>
    Value.coerce ((lastArgument? parameter.tag arguments parameters).bind Argument.known?)
      parameter.kind

variable {ι : Type}

namespace Registry

/-- The accessor that the tag of a member names. -/
def holder? (registry : Registry ι) (member : Member) : Option (Accessor ι) :=
  (registry.tag? member).bind fun tag => registry.resolve? member.owner tag

/-- The instance that members lead to, one after the other. -/
def walk? (registry : Registry ι) : Instance ι → List Member → Option (Instance ι)
  | reached, [] => some reached
  | reached, member :: rest =>
    match (registry.holder? member).bind fun accessor => accessor.on? reached [] with
    | some (.nested next) => registry.walk? next rest
    | _ => none

/-- The text that a path leads to from a provider of its root. -/
def follow? (registry : Registry ι) (path : Path) (provider : ι) : Option String := do
  let reached ← registry.walk? ⟨path.root, provider⟩ path.members.dropLast
  let leaf ← path.members.getLast?.bind registry.holder?
  match leaf.on? reached (suppliedValues path.arguments leaf.parameters) with
  | some (.text text) => some text
  | _ => none

end Registry

/-! ## Content along a chain -/

/-- The content that nested accessors lead to from some content. -/
def contentAlong : ι → List (Accessor ι) → ι
  | content, [] => content
  | content, accessor :: rest =>
    match accessor.kind with
    | .nested _ navigate => contentAlong (navigate content) rest
    | .text _ | .call _ _ => contentAlong content rest

theorem contentAlong_cons_of_nested {accessor : Accessor ι} {target : SectionKey}
    {navigate : ι → ι} (nested : accessor.kind = .nested target navigate) (content : ι)
    (rest : List (Accessor ι)) :
    contentAlong content (accessor :: rest) = contentAlong (navigate content) rest := by
  rw [contentAlong, nested]

/-- The steps of a chain are taken from the section where it starts to the one where it
ends. -/
theorem Leads.reach {key reached : SectionKey} {inner : List (Accessor ι)}
    (leads : Leads key inner reached) (content : ι) :
    Shape.reach ⟨key, content⟩ (inner.filterMap Accessor.step?) =
      .ok ⟨reached, contentAlong content inner⟩ := by
  induction leads generalizing content with
  | here key => rfl
  | @through key target reached accessor navigate rest owned nested _ inductionHypothesis =>
    have here : key = accessor.member.owner := owned.symm
    rw [List.filterMap_cons_some (Accessor.step?_of_nested nested),
      contentAlong_cons_of_nested nested, Shape.reach]
    dsimp only
    rw [if_pos here, inductionHypothesis]

namespace Registry

variable {registry : Registry ι} {tables : Tables ι}

theorem tables?_of_tables (found : registry.tables = .ok tables) :
    registry.tables? = some tables := by
  rw [Registry.tables?, found]
  rfl

theorem holder?_of_holds (found : registry.tables = .ok tables) {accessor : Accessor ι}
    (held : Tables.Holds tables accessor) :
    registry.holder? accessor.member = some accessor := by
  obtain ⟨tag, tagged, resolved, -⟩ := Tables.accessor?_eq_some_iff.1 held
  simp [holder?, Registry.tag?, Registry.resolve?, tables?_of_tables found, tagged, resolved]

/-- The members of a chain are walked with the same content as its steps. -/
theorem walk?_of_leads (found : registry.tables = .ok tables) {key reached : SectionKey}
    {inner : List (Accessor ι)} (leads : Leads key inner reached)
    (held : ∀ accessor ∈ inner, Tables.Holds tables accessor) (content : ι) :
    registry.walk? ⟨key, content⟩ (inner.map Accessor.member) =
      some ⟨reached, contentAlong content inner⟩ := by
  induction leads generalizing content with
  | here key => rfl
  | @through key target reached accessor navigate rest owned nested _ inductionHypothesis =>
    obtain ⟨heldFirst, heldRest⟩ := List.forall_mem_cons.1 held
    have applied : accessor.on? ⟨key, content⟩ [] =
        some (.nested ⟨target, navigate content⟩) := by
      simp [Accessor.on?, nested, Instance.ofSection?, owned]
    rw [List.map_cons, walk?, holder?_of_holds found heldFirst, Option.bind_some, applied,
      contentAlong_cons_of_nested nested]
    exact inductionHypothesis heldRest (navigate content)

end Registry

/-! ## Leaves -/

/-- A leaf that a path binds arguments for gives, on content and the bound arguments, the
text of its accessor on the values that the path supplies. -/
theorem Encoding.exists_leaf_of_parameters? {identifier : String} {path : Path}
    {last : Accessor ι} {parameters : Arguments}
    (bound : Encoding.parameters? identifier path last = .ok parameters) :
    ∃ leaf, last.leaf? = some leaf ∧ ∀ content : ι,
      last.on? ⟨last.owner, content⟩ (suppliedValues path.arguments last.parameters) =
        some (.text (leaf.text content parameters)) := by
  rcases Encoding.parameters?_eq_ok_iff.1 bound with
    ⟨trail, read, rfl, isText, rfl⟩ |
    ⟨target, member, arguments, declared, invoke, rfl, isCall, sameLength, succeeded⟩
  · refine ⟨.read last.member read, by rw [Accessor.leaf?, isText], fun content => ?_⟩
    simp [Accessor.on?, isText, Instance.ofSection?, Leaf.text]
  · refine ⟨.invoke last.member (declared.map fun parameter => ⟨parameter.tag, parameter.kind⟩)
      invoke, by rw [Accessor.leaf?, isCall], fun content => ?_⟩
    have extracted : (declared.map fun parameter => Extract.value
          ⟨parameter.tag, parameter.kind⟩ parameters) = suppliedValues arguments declared := by
      apply List.map_congr_left
      intro parameter _
      rw [Extract.value, Argument.get?_bindAll succeeded, Dict.get?_empty, Option.or_none]
    have sameParameters : last.parameters = declared := by
      rw [Accessor.parameters, isCall, AccessorKind.parameters]
    rw [sameParameters, Path.arguments, ← extracted]
    simp [Accessor.on?, isCall, Instance.ofSection?, Leaf.text, Function.comp_def]

end Waymark
