import Mathlib.Data.List.Nodup
import Waymark.Path.Typed
import Waymark.Proofs.RoundTrip

/-!
# Typed paths

A typed path goes from a root through declared nested sections and ends at a declared
text, or at a declared call with one typed argument per parameter. A registry finds no
fault with its structure: such a path is left without a label only for its root or for a
tag that a member on it has lost, and refused only for an argument whose value is not
there before the path is followed.
-/

namespace Waymark

variable {ι : Type}

/-! ## Typed arguments -/

/-- Whether an argument has its value only once the path is followed. -/
def Argument.isDeferred : Argument → Bool
  | .provider _ | .computed _ => true
  | .literal _ | .captured _ _ | .constant _ _ => false

theorem Argument.isDeferred_iff {argument : Argument} :
    argument.isDeferred = true ↔ ∃ reason, argument.value? = .error reason := by
  cases argument <;> simp [isDeferred, value?]

theorem ScalarType.kind?_toValue (type : ScalarType) (argument : type.Carrier) :
    (type.toValue argument).kind? = some type.kind := by
  cases type <;> rfl

/-- A typed argument with a value fits the kind of its type. -/
theorem TypedArgument.fits_erase {type : ScalarType} (argument : TypedArgument type)
    (known : argument.erase.isDeferred = false) : argument.erase.Fits type.kind := by
  cases argument with
  | literal value => exact ⟨_, rfl, .inr (type.kind?_toValue value)⟩
  | captured name value => exact ⟨_, rfl, .inr (type.kind?_toValue value)⟩
  | constant name value => exact ⟨_, rfl, .inr (type.kind?_toValue value)⟩
  | provider path => cases known
  | computed description => cases known

namespace ParameterDeclaration

/-- Whether an argument is a typed one, of the type that a parameter is declared with. -/
inductive Takes : ParameterDeclaration → Argument → Prop
  | plain (type : ScalarType) (name : String) (argument : TypedArgument type) :
      Takes (.ofType type name) argument.erase
  | tagged (type : ScalarType) (name tag : String) (argument : TypedArgument type) :
      Takes ((ofType type name).tagged tag) argument.erase

theorem Takes.fits {declared : ParameterDeclaration} {argument : Argument}
    (takes : declared.Takes argument) (known : argument.isDeferred = false) :
    argument.Fits declared.settle.kind := by
  cases takes with
  | plain type name typed => exact typed.fits_erase known
  | tagged type name tag typed => exact typed.fits_erase known

end ParameterDeclaration

namespace Argument

variable {arguments : List Argument} {declared : List ParameterDeclaration}

theorem fits_of_mem_zip (typed : List.Forall₂ ParameterDeclaration.Takes declared arguments)
    {argument : Argument} {parameter : Parameter}
    (paired : (argument, parameter) ∈ arguments.zip (declared.map ParameterDeclaration.settle))
    (known : argument.isDeferred = false) : argument.Fits parameter.kind := by
  rw [List.zip_map_right, List.mem_map] at paired
  obtain ⟨⟨other, declaration⟩, listed, same⟩ := paired
  cases same
  have takes := (List.forall₂_iff_zip.1 typed.flip).2 listed
  exact takes.fits known

/-- Typed arguments are bound unless one of them is deferred. -/
theorem exists_bindAll_of_typed
    (typed : List.Forall₂ ParameterDeclaration.Takes declared arguments)
    (known : arguments.findIdx? isDeferred = none) (member : Member) (bound : Arguments) :
    ∃ result, bindAll member 0 arguments (declared.map ParameterDeclaration.settle) bound =
      .ok result := by
  rw [List.findIdx?_eq_none_iff] at known
  apply exists_bindAll_eq_ok_iff.2
  intro pair paired
  exact fits_of_mem_zip typed paired (known pair.1 (List.of_mem_zip paired).1)

/-- The first deferred one of typed arguments is what binding them is refused for. -/
theorem bindAll_of_typed_of_deferred
    (typed : List.Forall₂ ParameterDeclaration.Takes declared arguments) {position : Nat}
    (first : arguments.findIdx? isDeferred = some position) (member : Member)
    (bound : Arguments) :
    ∃ argument reason, arguments[position]? = some argument ∧ argument.value? = .error reason ∧
      bindAll member 0 arguments (declared.map ParameterDeclaration.settle) bound =
        .error (.unsupportedArgument position reason) := by
  obtain ⟨inside, deferred, earlier⟩ := List.findIdx?_eq_some_iff_getElem.1 first
  obtain ⟨reason, missing⟩ := isDeferred_iff.1 deferred
  have sameLength : declared.length = arguments.length := typed.length_eq
  have declaredInside : position < declared.length := by omega
  refine ⟨arguments[position], reason, List.getElem?_eq_getElem inside, missing, ?_⟩
  apply bindAll_eq_error_iff.2
  refine ⟨position, arguments[position], declared[position].settle, ?_, ?_, ?_⟩
  · rw [List.getElem?_zip_eq_some]
    exact ⟨List.getElem?_eq_getElem inside, by simp [declaredInside]⟩
  · rw [bind, missing, Nat.zero_add]
  · intro pair listed
    have paired := List.mem_of_mem_take listed
    rw [List.zip, List.take_zipWith] at listed
    obtain ⟨index, before, same⟩ := List.mem_take_iff_getElem.1 (List.of_mem_zip listed).1
    have notDeferred : pair.1.isDeferred = false := by
      rw [← same]
      simpa using earlier index (by omega)
    exact fits_of_mem_zip typed paired notDeferred

end Argument

/-! ## Waypoints -/

/-- A declaration and the section that lists it, as a path passes them. -/
structure Waypoint (ι : Type) where
  owner : SectionKey
  declaration : Declaration ι

namespace Waypoint

/-- The member that is declared. -/
def member (waypoint : Waypoint ι) : Member := ⟨waypoint.owner, waypoint.declaration.name⟩

/-- The accessor that is declared. -/
def accessor (waypoint : Waypoint ι) : Accessor ι :=
  waypoint.declaration.accessor waypoint.owner

@[simp] theorem member_accessor (waypoint : Waypoint ι) :
    waypoint.accessor.member = waypoint.member := rfl

end Waypoint

/-- Whether a cursor has come through waypoints, each a nested section that the section
reached before it declares. -/
inductive Cursor.Passes (atlas : Atlas ι) : Cursor → List (Waypoint ι) → Prop
  | start (root : SectionKey) : Passes atlas (.start root) []
  | enter {cursor : Cursor} {waypoints : List (Waypoint ι)} {declaration : Declaration ι}
      {target : SectionKey} {navigate : ι → ι} :
      Passes atlas cursor waypoints →
      declaration ∈ atlas.declarations cursor.reached →
      declaration.kind = .nested target navigate →
      Passes atlas (cursor.enter declaration.name target)
        (waypoints ++ [⟨cursor.reached, declaration⟩])

/-- Whether a path is a typed one through waypoints: it ends at a declared text, or at a
declared call with a typed argument for each parameter. -/
inductive Path.Passes (atlas : Atlas ι) : Path → List (Waypoint ι) → Prop
  | value {cursor : Cursor} {waypoints : List (Waypoint ι)} {declaration : Declaration ι}
      {read : ι → String} :
      cursor.Passes atlas waypoints →
      declaration ∈ atlas.declarations cursor.reached →
      declaration.kind = .text read →
      Passes atlas (cursor.value declaration.name) (waypoints ++ [⟨cursor.reached, declaration⟩])
  | call {cursor : Cursor} {waypoints : List (Waypoint ι)} {declaration : Declaration ι}
      {declared : List ParameterDeclaration} {invoke : ι → List Value → String}
      {arguments : List Argument} :
      cursor.Passes atlas waypoints →
      declaration ∈ atlas.declarations cursor.reached →
      declaration.kind = .call declared invoke →
      List.Forall₂ ParameterDeclaration.Takes declared arguments →
      Passes atlas (cursor.call declaration.name arguments)
        (waypoints ++ [⟨cursor.reached, declaration⟩])

namespace Cursor.Passes

variable {atlas : Atlas ι} {cursor : Cursor} {waypoints : List (Waypoint ι)}

theorem steps_eq (passes : cursor.Passes atlas waypoints) :
    cursor.trail.steps = waypoints.map Waypoint.member := by
  induction passes with
  | start root => rfl
  | enter _ _ _ inductionHypothesis =>
    rw [List.map_append, ← inductionHypothesis]
    rfl

theorem leads (passes : cursor.Passes atlas waypoints) :
    Leads cursor.trail.root (waypoints.map Waypoint.accessor) cursor.reached := by
  induction passes with
  | start root => exact .here root
  | @enter cursor waypoints declaration target navigate _ _ nested inductionHypothesis =>
    have kind : (declaration.accessor cursor.reached).kind = .nested target navigate := by
      rw [Declaration.accessor, nested, AccessorKind.settle]
    rw [List.map_append]
    exact inductionHypothesis.append (.through rfl kind (.here target))

theorem listed (passes : cursor.Passes atlas waypoints) :
    ∀ waypoint ∈ waypoints, waypoint.declaration ∈ atlas.declarations waypoint.owner := by
  induction passes with
  | start root => simp
  | enter _ listed _ inductionHypothesis =>
    intro waypoint member
    rcases List.mem_append.1 member with member | member
    · exact inductionHypothesis waypoint member
    · rw [List.mem_singleton.1 member]
      exact listed

end Cursor.Passes

namespace Path.Passes

variable {atlas : Atlas ι} {path : Path} {waypoints : List (Waypoint ι)}

theorem members_eq (passes : path.Passes atlas waypoints) :
    path.members = waypoints.map Waypoint.member := by
  cases passes with
  | value along _ _ =>
    rw [List.map_append, ← along.steps_eq]
    rfl
  | call along _ _ _ =>
    rw [List.map_append, ← along.steps_eq]
    rfl

/-- A typed path has come to the section of its last waypoint through the others. -/
theorem exists_last (passes : path.Passes atlas waypoints) :
    ∃ (cursor : Cursor) (inner : List (Waypoint ι)) (last : Waypoint ι),
      waypoints = inner ++ [last] ∧ cursor.Passes atlas inner ∧
      cursor.trail.root = path.root ∧ cursor.reached = last.owner ∧
      last.declaration ∈ atlas.declarations last.owner := by
  cases passes with
  | value along listed _ => exact ⟨_, _, _, rfl, along, rfl, rfl, listed⟩
  | call along listed _ _ => exact ⟨_, _, _, rfl, along, rfl, rfl, listed⟩

theorem listed (passes : path.Passes atlas waypoints) :
    ∀ waypoint ∈ waypoints, waypoint.declaration ∈ atlas.declarations waypoint.owner := by
  obtain ⟨cursor, inner, last, rfl, along, -, -, listedLast⟩ := passes.exists_last
  intro waypoint member
  rcases List.mem_append.1 member with member | member
  · exact along.listed waypoint member
  · rw [List.mem_singleton.1 member]
    exact listedLast

theorem leads (passes : path.Passes atlas waypoints) {inner : List (Waypoint ι)}
    {last : Waypoint ι} (shape : waypoints = inner ++ [last]) :
    Leads path.root (inner.map Waypoint.accessor) last.owner := by
  obtain ⟨cursor, others, final, rfl, along, rooted, reached, -⟩ := passes.exists_last
  obtain ⟨rfl, same⟩ := List.append_inj' shape rfl
  cases same
  rw [← rooted, ← reached]
  exact along.leads

/-- Without a deferred argument the last waypoint takes the end of the path. -/
theorem exists_parameters? (passes : path.Passes atlas waypoints) {last : Waypoint ι}
    (ends : waypoints.getLast? = some last)
    (known : path.arguments.findIdx? Argument.isDeferred = none) (identifier : String) :
    ∃ parameters, Encoding.parameters? identifier path last.accessor = .ok parameters := by
  cases passes with
  | value _ _ isText =>
    rw [List.getLast?_concat, Option.some.injEq] at ends
    subst ends
    refine ⟨.empty, ?_⟩
    simp [Encoding.parameters?, Cursor.value, Waypoint.accessor, Declaration.accessor, isText,
      AccessorKind.settle]
  | @call cursor _ declaration _ _ _ _ _ isCall typed =>
    rw [List.getLast?_concat, Option.some.injEq] at ends
    subst ends
    obtain ⟨parameters, bound⟩ :=
      Argument.exists_bindAll_of_typed typed known ⟨cursor.reached, declaration.name⟩ .empty
    refine ⟨parameters, ?_⟩
    simp [Encoding.parameters?, Cursor.call, Waypoint.accessor, Declaration.accessor, isCall,
      AccessorKind.settle, typed.length_eq, bound]

/-- Otherwise the first deferred argument is what the end is refused for. -/
theorem parameters?_of_deferred (passes : path.Passes atlas waypoints) {last : Waypoint ι}
    (ends : waypoints.getLast? = some last) {position : Nat}
    (first : path.arguments.findIdx? Argument.isDeferred = some position) (identifier : String) :
    ∃ argument reason, path.arguments[position]? = some argument ∧
      argument.value? = .error reason ∧
      Encoding.parameters? identifier path last.accessor =
        .error (.unsupportedArgument position reason) := by
  cases passes with
  | value _ _ isText =>
    rw [Cursor.value, Path.arguments] at first
    cases first
  | @call cursor _ declaration _ _ arguments _ _ isCall typed =>
    rw [List.getLast?_concat, Option.some.injEq] at ends
    subst ends
    obtain ⟨argument, reason, found, missing, refused⟩ :=
      Argument.bindAll_of_typed_of_deferred typed first ⟨cursor.reached, declaration.name⟩ .empty
    refine ⟨argument, reason, found, missing, ?_⟩
    simp [Encoding.parameters?, Cursor.call, Waypoint.accessor, Declaration.accessor, isCall,
      AccessorKind.settle, typed.length_eq, refused]

end Path.Passes

/-! ## Lost tags -/

namespace Atlas

/-- Whether a waypoint does not keep its tag: the tag is blank, or it has a separator in
it, or a later declaration of the section takes it. -/
def LosesTag (atlas : Atlas ι) (waypoint : Waypoint ι) : Prop :=
  Text.isBlank waypoint.declaration.tag = true ∨
    tagSeparator ∈ waypoint.declaration.tag.toList ∨
    ∃ before after later,
      atlas.declarations waypoint.owner = before ++ waypoint.declaration :: after ∧
        later ∈ after ∧ later.tag = waypoint.declaration.tag

variable {atlas : Atlas ι} {root : SectionKey} {waypoint : Waypoint ι}

/-- A waypoint that keeps its tag is the last of its section to have it. -/
theorem lastTagged?_of_not_losesTag
    (listed : waypoint.declaration ∈ atlas.declarations waypoint.owner)
    (kept : ¬ atlas.LosesTag waypoint) :
    isValidTag waypoint.declaration.tag = true ∧
      lastTagged? waypoint.declaration.tag (atlas.declarations waypoint.owner) =
        some waypoint.declaration := by
  rw [LosesTag, not_or, not_or] at kept
  obtain ⟨visible, whole, alone⟩ := kept
  constructor
  · simp [isValidTag, visible, whole]
  · obtain ⟨before, after, shape⟩ := List.append_of_mem listed
    apply lastTagged?_eq_some_iff.2
    refine ⟨rfl, before, after, shape, ?_⟩
    intro later member same
    exact alone ⟨before, after, later, shape, member, same⟩

/-- If names are unique, the last declaration of a valid tag keeps it. -/
theorem not_losesTag_of_lastTagged? (uniqueNames : atlas.UniqueNames)
    (valid : isValidTag waypoint.declaration.tag = true)
    (last : lastTagged? waypoint.declaration.tag (atlas.declarations waypoint.owner) =
      some waypoint.declaration) : ¬ atlas.LosesTag waypoint := by
  obtain ⟨-, before, after, shape, none⟩ := lastTagged?_eq_some_iff.1 last
  have apart : (before ++ waypoint.declaration :: after).Nodup := by
    rw [← shape]
    exact (uniqueNames waypoint.owner).of_map
  rw [List.nodup_middle, List.nodup_cons, List.mem_append, not_or] at apart
  obtain ⟨⟨notBefore, notAfter⟩, -⟩ := apart
  rw [isValidTag, Bool.and_eq_true, Bool.not_eq_true', Bool.not_eq_true'] at valid
  intro lost
  rcases lost with blank | split | ⟨front, back, later, otherShape, member, same⟩
  · rw [valid.1] at blank
    cases blank
  · have whole := valid.2
    simp [split] at whole
  · rw [shape] at otherShape
    obtain ⟨-, -, sameAfter⟩ := (List.append_cons_inj_of_notMem notBefore notAfter).1 otherShape
    rw [← sameAfter] at member
    exact none later member same

/-- The section that a kept nested section leads to is described. -/
theorem Describes.of_not_losesTag (described : atlas.Describes root waypoint.owner)
    (listed : waypoint.declaration ∈ atlas.declarations waypoint.owner)
    (kept : ¬ atlas.LosesTag waypoint) {target : SectionKey} {navigate : ι → ι}
    (nested : waypoint.declaration.kind = .nested target navigate) :
    atlas.Describes root target := by
  apply described.of_leadsTo? listed
  rw [Declaration.leadsTo?, if_pos (lastTagged?_of_not_losesTag listed kept).1, nested,
    AccessorKind.target?]

end Atlas

/-- As long as tags are kept, a typed path stays in described sections. -/
theorem Cursor.Passes.describes {atlas : Atlas ι} {cursor : Cursor}
    {waypoints : List (Waypoint ι)} (passes : cursor.Passes atlas waypoints)
    (kept : ∀ waypoint ∈ waypoints, ¬ atlas.LosesTag waypoint) :
    atlas.Describes cursor.trail.root cursor.reached ∧
      ∀ waypoint ∈ waypoints, atlas.Describes cursor.trail.root waypoint.owner := by
  induction passes with
  | start root => exact ⟨atlas.describes_root root, by simp⟩
  | @enter cursor waypoints declaration target navigate _ listed nested inductionHypothesis =>
    rw [List.forall_mem_append] at kept
    obtain ⟨keptBefore, keptHere⟩ := kept
    obtain ⟨described, describedBefore⟩ := inductionHypothesis keptBefore
    have here := keptHere ⟨cursor.reached, declaration⟩ List.mem_cons_self
    constructor
    · exact described.of_not_losesTag listed here nested
    · rw [List.forall_mem_append]
      refine ⟨describedBefore, ?_⟩
      intro waypoint member
      rw [List.mem_singleton.1 member]
      exact described

theorem Path.Passes.describes {atlas : Atlas ι} {path : Path} {waypoints : List (Waypoint ι)}
    (passes : path.Passes atlas waypoints)
    (kept : ∀ waypoint ∈ waypoints, ¬ atlas.LosesTag waypoint) :
    ∀ waypoint ∈ waypoints, atlas.Describes path.root waypoint.owner := by
  obtain ⟨cursor, inner, last, rfl, along, rooted, reached, -⟩ := passes.exists_last
  rw [List.forall_mem_append] at kept ⊢
  obtain ⟨described, describedInner⟩ := along.describes kept.1
  rw [rooted] at described describedInner
  refine ⟨describedInner, ?_⟩
  intro waypoint member
  rw [List.mem_singleton.1 member, ← reached]
  exact described

/-! ## Tables and waypoints -/

namespace Tables

variable {policy : CollisionPolicy} {atlas : Atlas ι} {root : SectionKey} {tables : Tables ι}
  {waypoint : Waypoint ι}

theorem holds_of_not_losesTag (filled : ofAtlas policy atlas root = .ok tables)
    (uniqueNames : atlas.UniqueNames) (described : atlas.Describes root waypoint.owner)
    (listed : waypoint.declaration ∈ atlas.declarations waypoint.owner)
    (kept : ¬ atlas.LosesTag waypoint) : Holds tables waypoint.accessor := by
  obtain ⟨valid, last⟩ := Atlas.lastTagged?_of_not_losesTag listed kept
  have named : Names tables waypoint.accessor :=
    (resolve?_ofAtlas_eq_some_iff filled).2 ⟨described, valid, waypoint.declaration, last, rfl⟩
  exact (writable_ofAtlas uniqueNames filled).holds_of_names named

/-- A member that has any tag has the declared one, and its declaration has kept it. -/
theorem not_losesTag_of_tag? (filled : ofAtlas policy atlas root = .ok tables)
    (uniqueNames : atlas.UniqueNames)
    (listed : waypoint.declaration ∈ atlas.declarations waypoint.owner) {tag : String}
    (tagged : tables.tag? waypoint.member = some tag) :
    tag = waypoint.declaration.tag ∧ ¬ atlas.LosesTag waypoint := by
  obtain ⟨accessor, resolved, sameMember, -⟩ := (coherent_ofAtlas filled).resolves tagged
  obtain ⟨-, valid, declaration, last, rfl⟩ := (resolve?_ofAtlas_eq_some_iff filled).1 resolved
  obtain ⟨rfl, before, after, shape, -⟩ := lastTagged?_eq_some_iff.1 last
  have listedToo : declaration ∈ atlas.declarations waypoint.owner := by
    change declaration ∈ atlas.declarations waypoint.member.owner
    rw [shape]
    exact List.mem_append_right before List.mem_cons_self
  have sameName : declaration.name = waypoint.declaration.name := congrArg Member.name sameMember
  have same : declaration = waypoint.declaration :=
    List.inj_on_of_nodup_map (uniqueNames waypoint.owner) listedToo listed sameName
  rw [same] at last valid ⊢
  exact ⟨rfl, Atlas.not_losesTag_of_lastTagged? uniqueNames valid last⟩

theorem encode_of_foreign_root (filled : ofAtlas policy atlas root = .ok tables) {path : Path}
    (otherRoot : path.root ≠ root) : tables.encode path = .unlabelled .foreignRoot := by
  rw [← root_ofAtlas filled] at otherRoot
  rw [encode, if_neg (Ne.symm otherRoot)]

section

variable {path : Path} {waypoints : List (Waypoint ι)}
  (filled : ofAtlas policy atlas root = .ok tables) (uniqueNames : atlas.UniqueNames)
  (passes : path.Passes atlas waypoints)

include filled uniqueNames passes

theorem holds_of_kept (sameRoot : path.root = root)
    (kept : ∀ waypoint ∈ waypoints, ¬ atlas.LosesTag waypoint) :
    ∀ waypoint ∈ waypoints, Holds tables waypoint.accessor := by
  intro waypoint passed
  have described := passes.describes kept waypoint passed
  rw [sameRoot] at described
  exact holds_of_not_losesTag filled uniqueNames described (passes.listed waypoint passed)
    (kept waypoint passed)

/-- A typed path from the root whose waypoints keep their tags is decided at its end. -/
theorem encode_of_kept (sameRoot : path.root = root)
    (kept : ∀ waypoint ∈ waypoints, ¬ atlas.LosesTag waypoint) :
    ∃ last identifier, waypoints.getLast? = some last ∧
      tables.encode path =
        match Encoding.parameters? identifier path last.accessor with
        | .error error => .refused error
        | .ok parameters => .label ⟨identifier, parameters⟩ := by
  have rootOfTables : tables.root = path.root := by rw [root_ofAtlas filled, sameRoot]
  have held := holds_of_kept filled uniqueNames passes sameRoot kept
  have members := passes.members_eq
  obtain ⟨cursor, inner, last, shape, -⟩ := passes.exists_last
  have leads := passes.leads shape
  subst shape
  rw [← rootOfTables] at leads
  refine ⟨last, _, List.getLast?_concat, encode_of_leads rootOfTables ?_ ?_ leads⟩
  · rw [members]
    simp
  · rw [List.forall_mem_append] at held ⊢
    exact ⟨List.forall_mem_map.2 held.1, by simpa using held.2⟩

/-- The first deferred argument is what such a path is refused for. -/
theorem answer_of_kept (sameRoot : path.root = root)
    (kept : ∀ waypoint ∈ waypoints, ¬ atlas.LosesTag waypoint) :
    match path.arguments.findIdx? Argument.isDeferred with
    | some position =>
      ∃ argument reason,
        path.arguments[position]? = some argument ∧ argument.value? = .error reason ∧
          tables.encode path = .refused (.unsupportedArgument position reason)
    | none => ∃ label, tables.encode path = .label label := by
  obtain ⟨last, identifier, ends, encoded⟩ :=
    encode_of_kept filled uniqueNames passes sameRoot kept
  cases first : path.arguments.findIdx? Argument.isDeferred with
  | some position =>
    obtain ⟨argument, reason, stands, missing, refused⟩ :=
      passes.parameters?_of_deferred ends first identifier
    rw [refused] at encoded
    exact ⟨argument, reason, stands, missing, encoded⟩
  | none =>
    obtain ⟨parameters, bound⟩ := passes.exists_parameters? ends first identifier
    rw [bound] at encoded
    exact ⟨_, encoded⟩

/-- A typed path through a waypoint that has lost its tag has no label. -/
theorem encode_of_lost (sameRoot : path.root = root) (passed : waypoint ∈ waypoints)
    (lost : atlas.LosesTag waypoint) : ∃ reason, tables.encode path = .unlabelled reason := by
  have rootOfTables : tables.root = path.root := by rw [root_ofAtlas filled, sameRoot]
  rw [encode, if_pos rootOfTables]
  cases found : tables.accessors? path.members with
  | error member => exact ⟨_, rfl⟩
  | ok accessors =>
    -- Were all members found, so would be the lost one, under the tag that it has not kept.
    obtain ⟨members, held⟩ := accessors?_eq_ok_iff.1 found
    have named : waypoint.member ∈ accessors.map Accessor.member := by
      rw [← members, passes.members_eq]
      exact List.mem_map.2 ⟨waypoint, passed, rfl⟩
    obtain ⟨accessor, listed, sameMember⟩ := List.mem_map.1 named
    obtain ⟨tag, tagged, -⟩ := accessor?_eq_some_iff.1 (held accessor listed)
    rw [sameMember] at tagged
    have kept := (not_losesTag_of_tag? filled uniqueNames (passes.listed waypoint passed) tagged).2
    exact absurd lost kept

/-- A typed path has no label just for its root or for a lost tag. -/
theorem exists_unlabelled_iff :
    (∃ reason, tables.encode path = .unlabelled reason) ↔
      path.root ≠ root ∨ ∃ waypoint ∈ waypoints, atlas.LosesTag waypoint := by
  by_cases sameRoot : path.root = root
  · constructor
    · intro answered
      obtain ⟨reason, unlabelled⟩ := answered
      by_contra neither
      rw [not_or, not_exists] at neither
      have kept : ∀ waypoint ∈ waypoints, ¬ atlas.LosesTag waypoint :=
        fun waypoint passed lost => neither.2 waypoint ⟨passed, lost⟩
      have answer := answer_of_kept filled uniqueNames passes sameRoot kept
      rw [unlabelled] at answer
      split at answer <;> simp at answer
    · intro either
      obtain ⟨waypoint, passed, lost⟩ := either.resolve_left (fun other => other sameRoot)
      exact encode_of_lost filled uniqueNames passes sameRoot passed lost
  · constructor
    · exact fun _ => .inl sameRoot
    · exact fun _ => ⟨.foreignRoot, encode_of_foreign_root filled sameRoot⟩

/-- A typed path is refused for arguments only. -/
theorem eq_unsupportedArgument_of_refused {error : LabelError}
    (refused : tables.encode path = .refused error) :
    ∃ position reason, error = .unsupportedArgument position reason := by
  have labelled : ¬ ∃ reason, tables.encode path = .unlabelled reason := by simp [refused]
  rw [exists_unlabelled_iff filled uniqueNames passes, not_or, not_not, not_exists] at labelled
  obtain ⟨sameRoot, none⟩ := labelled
  have answer := answer_of_kept filled uniqueNames passes sameRoot
    fun waypoint passed lost => none waypoint ⟨passed, lost⟩
  rw [refused] at answer
  split at answer
  · obtain ⟨argument, reason, -, -, same⟩ := answer
    cases same
    exact ⟨_, reason, rfl⟩
  · obtain ⟨label, impossible⟩ := answer
    cases impossible

/-- From the root some member of a typed path has lost its tag just when some member of it
does not have its tag on the writing side. -/
theorem exists_losesTag_iff (sameRoot : path.root = root) :
    (∃ waypoint ∈ waypoints, atlas.LosesTag waypoint) ↔
      ∃ waypoint ∈ waypoints, tables.tag? waypoint.member ≠ some waypoint.declaration.tag := by
  rw [← not_iff_not]
  simp only [not_exists, not_and, not_not]
  constructor
  · intro kept waypoint passed
    have held := holds_of_kept filled uniqueNames passes sameRoot kept waypoint passed
    obtain ⟨tag, tagged, -⟩ := accessor?_eq_some_iff.1 held
    rw [Waypoint.member_accessor] at tagged
    have listed := passes.listed waypoint passed
    rw [tagged, (not_losesTag_of_tag? filled uniqueNames listed tagged).1]
  · intro tagged waypoint passed
    have listed := passes.listed waypoint passed
    exact (not_losesTag_of_tag? filled uniqueNames listed (tagged waypoint passed)).2

end

end Tables

/-- A typed path never fails for its structure. It has no label just when it starts at
another root or passes a member that has not kept its tag. Otherwise it is refused for its
first deferred argument, if it has one, and has a label if it has none. -/
theorem encode_of_passes
    (atlas : Atlas ι) (operations : List Operation) {registry : Registry ι}
    {root : SectionKey} {path : Path} {waypoints : List (Waypoint ι)}
    (uniqueNames : atlas.UniqueNames)
    (made : registry ∈ (Workspace.after atlas operations).registries)
    (rooted : registry.root? = some root)
    (passes : path.Passes atlas waypoints) :
    (∀ error, registry.encode path = .refused error →
      ∃ position reason, error = .unsupportedArgument position reason) ∧
    ((∃ reason, registry.encode path = .unlabelled reason) ↔
      path.root ≠ root ∨ ∃ waypoint ∈ waypoints, atlas.LosesTag waypoint) ∧
    (path.root = root →
      ((∃ waypoint ∈ waypoints, atlas.LosesTag waypoint) ↔
        ∃ waypoint ∈ waypoints,
          registry.tag? waypoint.member ≠ some waypoint.declaration.tag)) ∧
    (path.root = root → (∀ waypoint ∈ waypoints, ¬ atlas.LosesTag waypoint) →
      match path.arguments.findIdx? Argument.isDeferred with
      | some position =>
        ∃ argument reason,
          path.arguments[position]? = some argument ∧ argument.value? = .error reason ∧
            registry.encode path = .refused (.unsupportedArgument position reason)
      | none => ∃ label, registry.encode path = .label label) := by
  have filledBy := (Workspace.sound_after atlas operations).registries registry made
  obtain ⟨tables, found, filled⟩ := filledBy.exists_tables rooted
  have sameTag (member : Member) : registry.tag? member = tables.tag? member := by
    rw [Registry.tag?, Registry.tables?_of_tables found, Option.bind_some]
  simp only [Registry.encode_of_tables found, sameTag]
  refine ⟨?_, ?_, ?_, ?_⟩
  · intro error refused
    exact Tables.eq_unsupportedArgument_of_refused filled uniqueNames passes refused
  · exact Tables.exists_unlabelled_iff filled uniqueNames passes
  · exact Tables.exists_losesTag_iff filled uniqueNames passes
  · exact Tables.answer_of_kept filled uniqueNames passes

namespace Sample.Gallery

/-- The way from the ring through the ring to its greeting. -/
def greetingWaypoints : List (Waypoint String) :=
  [⟨ringHall, ⟨"inner", "r", .nested ringHall id⟩⟩, ⟨ringHall, greet⟩]

/-- A greeting from within the ring whose count is computed. -/
def greetOften : Path :=
  ((Cursor.start ringHall).enter "inner" ringHall).call "greet"
    [(.literal "Hi" : TypedArgument .text).erase,
      (.computed "count" : TypedArgument (.int .u8)).erase]

theorem passes_greetOften : greetOften.Passes halls greetingWaypoints := by
  have listedInner : ⟨"inner", "r", .nested ringHall id⟩ ∈ halls.declarations ringHall := by
    simp [declarations_ringHall]
  have inner : Cursor.Passes halls ((Cursor.start ringHall).enter "inner" ringHall)
      [⟨ringHall, ⟨"inner", "r", .nested ringHall id⟩⟩] :=
    .enter (.start ringHall) listedInner rfl
  have listedGreet : greet ∈ halls.declarations ringHall := by
    simp [declarations_ringHall]
  exact .call inner listedGreet rfl
    (.cons (.tagged .text _ _ _) (.cons (.plain (.int .u8) _ _) .nil))

end Sample.Gallery

open Sample.Gallery

theorem encode_of_passes_greetOften :
    halls.UniqueNames ∧ ringRegistry ∈ (Workspace.after halls ringHistory).registries ∧
      ringRegistry.root? = some ringHall ∧ greetOften.Passes halls greetingWaypoints ∧
      (∀ error, ringRegistry.encode greetOften = .refused error →
        ∃ position reason, error = .unsupportedArgument position reason) ∧
      ((∃ reason, ringRegistry.encode greetOften = .unlabelled reason) ↔
        greetOften.root ≠ ringHall ∨
          ∃ waypoint ∈ greetingWaypoints, halls.LosesTag waypoint) ∧
      (greetOften.root = ringHall →
        ((∃ waypoint ∈ greetingWaypoints, halls.LosesTag waypoint) ↔
          ∃ waypoint ∈ greetingWaypoints,
            ringRegistry.tag? waypoint.member ≠ some waypoint.declaration.tag)) ∧
      (greetOften.root = ringHall →
        (∀ waypoint ∈ greetingWaypoints, ¬ halls.LosesTag waypoint) →
        match greetOften.arguments.findIdx? Argument.isDeferred with
        | some position =>
          ∃ argument reason,
            greetOften.arguments[position]? = some argument ∧ argument.value? = .error reason ∧
              ringRegistry.encode greetOften = .refused (.unsupportedArgument position reason)
        | none => ∃ label, ringRegistry.encode greetOften = .label label) :=
  ⟨uniqueNames_halls, ringRegistry_mem, root?_ringRegistry, passes_greetOften,
    encode_of_passes halls ringHistory uniqueNames_halls ringRegistry_mem root?_ringRegistry
      passes_greetOften⟩

end Waymark
