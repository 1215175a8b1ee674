import Waymark.Proofs.Delivery
import Waymark.Proofs.Segments
import Waymark.Proofs.SharedTags
import Waymark.Proofs.Transparency

/-!
# Running consumers

A consumer that was built runs on every provider, with whatever parameters it is bound to.
Its steps stay on the sections of their members, and a call at its end gets one value of the
right kind for each declared parameter. Only those values show in the text.
-/

namespace Waymark

variable {ι : Type}

/-! ## Values for parameters -/

namespace Parameter

variable {parameter : Parameter} {arguments : Arguments} {value : Value}

/-- Whether the tag of a parameter has no value of its kind: none at all, the null value, or
one of another kind. -/
def Missing (parameter : Parameter) (arguments : Arguments) : Prop :=
  ∀ value, arguments.get? parameter.tag = some value → value.kind? ≠ some parameter.kind

theorem missing_iff :
    parameter.Missing arguments ↔
      ¬ (arguments.get? parameter.tag).bind Value.kind? = some parameter.kind := by
  rw [Missing]
  cases arguments.get? parameter.tag <;> simp

instance : Decidable (parameter.Missing arguments) := decidable_of_iff _ missing_iff.symm

/-- What a call receives for a parameter: the value under its tag if that is of its kind, the
zero of the kind if there is no such value. -/
inductive Receives (parameter : Parameter) (arguments : Arguments) : Value → Prop where
  | given {value : Value} :
      arguments.get? parameter.tag = some value →
      value.kind? = some parameter.kind →
      Receives parameter arguments value
  | zero : parameter.Missing arguments → Receives parameter arguments parameter.kind.zero

theorem Receives.kind?_eq (received : parameter.Receives arguments value) :
    value.kind? = some parameter.kind := by
  cases received with
  | given found kind => exact kind
  | zero missing => exact Value.kind?_zero parameter.kind

theorem receives_coerce (parameter : Parameter) (arguments : Arguments) :
    parameter.Receives arguments
      (Value.coerce (arguments.get? parameter.tag) parameter.kind) := by
  by_cases missing : parameter.Missing arguments
  · have zero : Value.coerce (arguments.get? parameter.tag) parameter.kind =
        parameter.kind.zero := by
      cases found : arguments.get? parameter.tag with
      | none => rfl
      | some value => rw [Value.coerce, if_neg (missing value found)]
    rw [zero]
    exact .zero missing
  · rw [missing_iff, Decidable.not_not, Option.bind_eq_some_iff] at missing
    obtain ⟨value, found, kind⟩ := missing
    rw [found, Value.coerce, if_pos kind]
    exact .given found kind

/-- What the zero of a parameter is reported with. -/
def defaulted (parameter : Parameter) : Notice := .defaulted parameter.tag parameter.kind

theorem notices_extract (parameter : Parameter) (arguments : Arguments) :
    Extract.notices ⟨parameter.tag, parameter.kind⟩ arguments =
      if parameter.Missing arguments then [parameter.defaulted] else [] := by
  by_cases missing : parameter.Missing arguments
  · rw [if_pos missing, Extract.notices, if_neg (missing_iff.1 missing)]
    rfl
  · rw [if_neg missing, Extract.notices, if_pos (Decidable.not_not.1 (mt missing_iff.2 missing))]

end Parameter

/-! ## Leaves -/

/-- What a member gives on content with some arguments, and what it reports. A text is read.
A call gets a value for each of its parameters, in their order, and every parameter that
misses one is reported. -/
inductive AccessorKind.Gives (content : ι) (arguments : Arguments) :
    AccessorKind Parameter ι → String → List Notice → Prop where
  | text (read : ι → String) : Gives content arguments (.text read) (read content) []
  | call {parameters : List Parameter} {values : List Value}
      (invoke : ι → List Value → String) :
      List.Forall₂
        (fun parameter value =>
          parameter.Receives arguments value ∧ value.kind? = some parameter.kind)
        parameters values →
      Gives content arguments (.call parameters invoke) (invoke content values)
        ((parameters.filter fun parameter => parameter.Missing arguments).map
          Parameter.defaulted)

theorem AccessorKind.Gives.level_eq_trace {content : ι} {arguments : Arguments}
    {kind : AccessorKind Parameter ι} {text : String} {notices : List Notice}
    (gives : kind.Gives content arguments text notices) :
    ∀ notice ∈ notices, notice.level = .trace := by
  intro notice reported
  cases gives with
  | text read => cases reported
  | call invoke received =>
    obtain ⟨parameter, -, rfl⟩ := List.mem_map.1 reported
    rfl

theorem flatMap_notices_extract (parameters : List Parameter) (arguments : Arguments) :
    (parameters.map fun parameter => Extract.mk parameter.tag parameter.kind).flatMap
        (fun extract => extract.notices arguments) =
      (parameters.filter fun parameter => parameter.Missing arguments).map
        Parameter.defaulted := by
  induction parameters with
  | nil => rfl
  | cons parameter rest inductionHypothesis =>
    rw [List.map_cons, List.flatMap_cons, inductionHypothesis, Parameter.notices_extract,
      List.filter_cons]
    by_cases missing : parameter.Missing arguments <;> simp [missing]

theorem Accessor.gives_of_leaf? {accessor : Accessor ι} {leaf : Leaf ι}
    (isLeaf : accessor.leaf? = some leaf) (content : ι) (arguments : Arguments) :
    accessor.kind.Gives content arguments (leaf.text content arguments)
      (leaf.extracts.flatMap fun extract => extract.notices arguments) := by
  unfold Accessor.leaf? at isLeaf
  split at isLeaf
  · cases isLeaf
  · next read kind =>
    cases isLeaf
    rw [kind]
    exact .text read
  · next parameters invoke kind =>
    cases isLeaf
    rw [kind, Leaf.text, Leaf.extracts, flatMap_notices_extract, List.map_map]
    refine .call invoke ?_
    rw [List.forall₂_map_right_iff, List.forall₂_same]
    intro parameter _
    have received := parameter.receives_coerce arguments
    exact ⟨received, received.kind?_eq⟩

/-! ## Steps -/

/-- The steps of a chain are taken on the sections of their members, and the last of them
leads to the section of the member behind the chain. -/
theorem Leads.exists_reach_take {key reached : SectionKey} {inner : List (Accessor ι)}
    (leads : Leads key inner reached) {last : Member} (owned : last.owner = reached)
    {taken : Nat} (within : taken ≤ (inner.filterMap Accessor.step?).length) (content : ι) :
    ∃ next member,
      Shape.reach ⟨key, content⟩ ((inner.filterMap Accessor.step?).take taken) = .ok next ∧
        ((inner.filterMap Accessor.step?).map Step.member ++ [last])[taken]? = some member ∧
        next.key = member.owner := by
  induction leads generalizing taken content with
  | here key =>
    have none : taken = 0 := Nat.le_zero.1 within
    subst none
    exact ⟨_, last, rfl, rfl, owned.symm⟩
  | @through key target reached accessor navigate rest ownedHere nested _ inductionHypothesis =>
    rw [List.filterMap_cons_some (Accessor.step?_of_nested nested)] at within ⊢
    -- Before the first step the provider is where the chain starts, behind it the rest of the
    -- chain starts at the target.
    cases taken with
    | zero => exact ⟨_, accessor.member, rfl, rfl, ownedHere.symm⟩
    | succ taken =>
      have onward : (⟨key, content⟩ : Instance ι).key = accessor.member.owner := ownedHere.symm
      rw [List.take_succ_cons, Shape.reach, if_pos onward]
      exact inductionHypothesis owned (Nat.le_of_succ_le_succ within) (navigate content)

/-! ## Runs -/

/-- How a consumer runs on providers, with whatever parameters it is bound to, if an accessor
is its end. -/
structure Consumer.RunsTo (consumer : Consumer ι) (leaf : Accessor ι) : Prop where
  ends : consumer.shape.leaf.member = leaf.member
  /-- Every step leads to an instance of the section that declares the member after it. -/
  stays (provider : ι) {taken : Nat} :
    taken ≤ consumer.shape.depth →
    ∃ reached member,
      Shape.reach ⟨consumer.shape.root, provider⟩ (consumer.shape.steps.take taken) =
        .ok reached ∧
      consumer.shape.members[taken]? = some member ∧ reached.key = member.owner
  /-- The end gives the text, and its reports are all there are. -/
  gives (provider : ι) (arguments : Arguments) :
    ∃ content text,
      Shape.reach ⟨consumer.shape.root, provider⟩ consumer.shape.steps =
        .ok ⟨leaf.owner, content⟩ ∧
      (consumer.rebind arguments).text provider = .ok text ∧
      leaf.kind.Gives content arguments text ((consumer.rebind arguments).notices provider) ∧
      ∀ notice ∈ (consumer.rebind arguments).notices provider, notice.level = .trace
  /-- Nothing but the values for the declared parameters shows in the text. -/
  sameText (provider : ι) {left right : Arguments} :
    (∀ parameter ∈ leaf.parameters,
      Value.coerce (left.get? parameter.tag) parameter.kind =
        Value.coerce (right.get? parameter.tag) parameter.kind) →
    (consumer.rebind left).text provider = (consumer.rebind right).text provider

theorem Leads.runsTo {consumer : Consumer ι} {identifier : String} {root : SectionKey}
    {inner : List (Accessor ι)} {last : Accessor ι} {leaf : Leaf ι}
    (leads : Leads root inner last.owner) (isLeaf : last.leaf? = some leaf)
    (shape : consumer.shape = ⟨identifier, root, inner.filterMap Accessor.step?, leaf⟩) :
    consumer.RunsTo last := by
  have sameMember := Accessor.member_of_leaf? isLeaf
  have owned : leaf.member.owner = last.owner := congrArg Member.owner sameMember
  have leafOf : consumer.shape.leaf = leaf := by rw [shape]
  refine ⟨leafOf ▸ sameMember, ?stays, ?gives, ?sameText⟩
  case stays =>
    intro provider taken within
    rw [shape] at within ⊢
    exact leads.exists_reach_take owned within provider
  case gives =>
    intro provider arguments
    have arrived : Shape.reach ⟨consumer.shape.root, provider⟩ consumer.shape.steps =
        .ok ⟨last.owner, contentAlong provider inner⟩ := by
      rw [shape]
      exact leads.reach provider
    have gives := Accessor.gives_of_leaf? isLeaf (contentAlong provider inner) arguments
    have reported : (consumer.rebind arguments).notices provider =
        leaf.extracts.flatMap fun extract => extract.notices arguments := by
      simp only [Consumer.notices, Consumer.rebind, Shape.runNotices, arrived, leafOf]
    rw [reported]
    refine ⟨contentAlong provider inner, leaf.text (contentAlong provider inner) arguments,
      arrived, ?_, gives, gives.level_eq_trace⟩
    simp only [Consumer.text, Consumer.rebind, Shape.run, arrived, leafOf, owned, if_true]
  case sameText =>
    intro provider left right sameValues
    apply Shape.run_congr
    intro extract used
    rw [Consumer.rebind, leafOf, Accessor.extracts_of_leaf? isLeaf] at used
    obtain ⟨parameter, declared, rfl⟩ := List.mem_map.1 used
    exact sameValues parameter declared

/-! ## Compilers later on -/

namespace Compiler

variable {compiler later : Compiler ι} {registry laterRegistry : Registry ι} {label : Label}

theorem root_build (compiler : Compiler ι) (registry : Registry ι) (label : Label) :
    (compiler.build registry label).compiler.root = compiler.root := by
  rcases compiler.build_compiler registry label with same | same
  · rw [same]
  · rw [same, root_shape]

/-- What is built is the shape of the identifier, bound to the parameters of the label. -/
theorem Sound.build_eq_ok_some_iff (sound : compiler.Sound registry) {consumer : Consumer ι} :
    (compiler.build registry label).result = .ok (some consumer) ↔
      Text.isBlank label.identifier = false ∧ consumer.parameters = label.parameters ∧
        Identifier.canonical label.identifier ≠ "" ∧
        registry.compile compiler.root (Identifier.canonical label.identifier) =
          .ok consumer.shape := by
  obtain ⟨shape, parameters⟩ := consumer
  cases visible : Text.isBlank label.identifier with
  | true => simp [build_of_isBlank visible]
  | false =>
    rw [result_build_of_not_isBlank visible]
    by_cases empty : Identifier.canonical label.identifier = ""
    · simp [result_shape_of_canonical_eq_empty empty, empty, Except.map]
    · rw [sound.shape_result empty]
      cases registry.compile compiler.root (Identifier.canonical label.identifier) with
      | error error => simp [Except.map]
      | ok made => simp [Except.map, empty, and_comm, eq_comm]

/-- A label with the same identifier builds to the same shape, with the compiler and its
registry as they are later on. -/
theorem Sound.result_build_rebind (sound : compiler.Sound registry)
    (laterSound : later.Sound laterRegistry) (sameRoot : later.root = compiler.root)
    (keeps : registry.Keeps laterRegistry) {consumer : Consumer ι}
    (built : (compiler.build registry label).result = .ok (some consumer))
    (arguments : Arguments) :
    (later.build laterRegistry ⟨label.identifier, arguments⟩).result =
      .ok (some (consumer.rebind arguments)) := by
  obtain ⟨visible, -, nonempty, compiled⟩ := sound.build_eq_ok_some_iff.1 built
  refine laterSound.build_eq_ok_some_iff.2 ⟨visible, rfl, nonempty, ?_⟩
  rw [sameRoot]
  exact keeps.compile compiled

end Compiler

namespace Workspace

variable {atlas : Atlas ι} {workspace : Workspace ι} {number registryNumber : Nat}
  {compiler : Compiler ι} {registry : Registry ι}

theorem keeps_registry_perform (workspace : Workspace ι) (atlas : Atlas ι)
    (operation : Operation) (number : Nat) :
    (workspace.registry number).Keeps ((workspace.perform atlas operation).registry number) := by
  cases operation with
  | addRegistry policy => exact workspace.keeps_registry_addRegistry policy number
  | fill filled root => exact workspace.keeps_registry_fill atlas filled root number
  | shape other identifier | build other label =>
    have same : (workspace.registry number).Keeps (workspace.registry number) :=
      fun outcome found => found
    rw [Workspace.registry] at same ⊢
    simpa [perform, Workspace.shape, Workspace.build, Workspace.registry] using same
  | addCompiler _ _ | encode _ _ | isCached _ _ => exact fun outcome found => found

theorem exists_compilers_perform
    (stored : workspace.compilers[number]? = some (registryNumber, compiler))
    (atlas : Atlas ι) (operation : Operation) :
    ∃ later, (workspace.perform atlas operation).compilers[number]? =
      some (registryNumber, later) ∧ later.root = compiler.root := by
  cases operation with
  | addRegistry _ | fill _ _ | encode _ _ | isCached _ _ => exact ⟨compiler, stored, rfl⟩
  | addCompiler _ _ =>
    have bound := (List.getElem?_eq_some_iff.1 stored).1
    exact ⟨compiler, (List.getElem?_append_left bound).trans stored, rfl⟩
  | shape other identifier =>
    by_cases same : other = number
    · subst same
      exact ⟨_, compilers_withCompiler _ stored, compiler.root_shape _ identifier⟩
    · exact ⟨compiler, (compilers_withCompiler_of_ne _ same).trans stored, rfl⟩
  | build other label =>
    by_cases same : other = number
    · subst same
      exact ⟨_, compilers_withCompiler _ stored, compiler.root_build _ label⟩
    · exact ⟨compiler, (compilers_withCompiler_of_ne _ same).trans stored, rfl⟩

/-- A compiler keeps its number and its root, and its registry keeps its outcome. -/
theorem exists_compiler?_foldl_perform
    (made : workspace.compiler? number = some (compiler, registry)) (atlas : Atlas ι)
    (operations : List Operation) :
    ∃ later laterRegistry,
      (operations.foldl (perform atlas) workspace).compiler? number =
        some (later, laterRegistry) ∧
      later.root = compiler.root ∧ registry.Keeps laterRegistry := by
  induction operations generalizing workspace compiler registry with
  | nil => exact ⟨compiler, registry, made, rfl, fun outcome found => found⟩
  | cons operation rest inductionHypothesis =>
    obtain ⟨⟨registryNumber, kept⟩, stored, same⟩ := Option.map_eq_some_iff.1 made
    cases same
    obtain ⟨next, storedNext, sameRoot⟩ := exists_compilers_perform stored atlas operation
    have madeNext : (workspace.perform atlas operation).compiler? number =
        some (next, (workspace.perform atlas operation).registry registryNumber) := by
      rw [Workspace.compiler?, storedNext]
      rfl
    obtain ⟨later, laterRegistry, madeLater, sameRootLater, keepsLater⟩ :=
      inductionHypothesis madeNext
    have keeps := workspace.keeps_registry_perform atlas operation registryNumber
    exact ⟨later, laterRegistry, madeLater, sameRootLater.trans sameRoot,
      fun outcome found => keepsLater outcome (keeps outcome found)⟩

end Workspace

/-- A consumer that was built runs on every provider, with whatever parameters it is bound
to, and ends at a declared member that the registry finds. Binding it to other parameters is
building the label that has them, then and at any later time. -/
theorem consumer_runs_to_declared_member
    (atlas : Atlas ι) (operations : List Operation) {number : Nat}
    {compiler : Compiler ι} {registry : Registry ι} {label : Label} {consumer : Consumer ι}
    (made : (Workspace.after atlas operations).compiler? number = some (compiler, registry))
    (built : (compiler.build registry label).result = .ok (some consumer)) :
    consumer.parameters = label.parameters ∧ consumer.shape.root = compiler.root ∧
      (∃ owner, ∃ declaration ∈ atlas.declarations owner,
        registry.resolve? owner declaration.tag = some (declaration.accessor owner) ∧
        consumer.RunsTo (declaration.accessor owner)) ∧
      ∀ more, ∃ later laterRegistry,
        (Workspace.after atlas (operations ++ more)).compiler? number =
          some (later, laterRegistry) ∧
        ∀ arguments, (later.build laterRegistry ⟨label.identifier, arguments⟩).result =
          .ok (some (consumer.rebind arguments)) := by
  obtain ⟨sound, filledBy⟩ := (Workspace.sound_after atlas operations).compiler? made
  obtain ⟨-, sameParameters, -, compiled⟩ := sound.build_eq_ok_some_iff.1 built
  obtain ⟨tables, found, sameRoot, shaped⟩ := Registry.exists_tables_of_compile compiled
  obtain ⟨inner, last, leaf, leads, -, named, isLeaf, shape⟩ :=
    (Tables.compile_eq_ok_iff (filledBy.coherent found)).1 shaped
  obtain ⟨root, filled⟩ := filledBy _ (Registry.tables_eq_ok_iff.1 found)
  have resolved : tables.resolve? last.owner last.tag = some last := named last (by simp)
  refine ⟨sameParameters, by rw [shape, sameRoot], ?_, ?_⟩
  · obtain ⟨declaration, listed, same⟩ :=
      Tables.exists_declaration_of_resolve? filled.symm resolved
    have sameTag : declaration.tag = last.tag := congrArg Accessor.tag same
    rw [← Registry.resolve?_of_tables found, ← sameTag] at resolved
    exact ⟨last.owner, declaration, listed, same ▸ resolved, same.symm ▸ leads.runsTo isLeaf shape⟩
  · intro more
    obtain ⟨later, laterRegistry, madeLater, sameRootLater, keeps⟩ :=
      Workspace.exists_compiler?_foldl_perform made atlas more
    rw [← Workspace.after_append] at madeLater
    have laterSound := ((Workspace.sound_after atlas _).compiler? madeLater).1
    exact ⟨later, laterRegistry, madeLater,
      sound.result_build_rebind laterSound sameRootLater keeps built⟩

open Sample.Gallery

namespace Sample.Gallery

/-- A label for a greeting that does not say how often. -/
def greetLabel : Label := ⟨"r_g", .ofList [("hi", .text "Hi"), ("often", .int 3)]⟩

/-- The greeting from within the ring. -/
def greetShape : Shape String :=
  ⟨"r_g", ringHall, [⟨⟨ringHall, "inner"⟩, ringHall, id⟩],
    (greet.accessor ringHall).leaf?.get rfl⟩

def greetConsumer : Consumer String := ⟨greetShape, greetLabel.parameters⟩

theorem compile_greetShape : ringRegistry.compile ringHall "r_g" = .ok greetShape := by
  rw [Registry.compile, Registry.tables, outcome_ringRegistry]
  rfl

theorem build_greetLabel :
    (ringCompiler.build ringRegistry greetLabel).result = .ok (some greetConsumer) := by
  have sound := (Workspace.sound_after halls ringHistory).compiler? compiler?_ringHistory
  have sameRoot : ringCompiler.root = ringHall := Compiler.root_shape _ _ _
  refine sound.1.build_eq_ok_some_iff.2 ⟨by decide, rfl, by decide, ?_⟩
  rw [sameRoot]
  exact compile_greetShape

end Sample.Gallery

theorem greetConsumer_runs :
    (Workspace.after halls ringHistory).compiler? 0 = some (ringCompiler, ringRegistry) ∧
      (ringCompiler.build ringRegistry greetLabel).result = .ok (some greetConsumer) ∧
      ∃ owner, ∃ declaration ∈ halls.declarations owner,
        ringRegistry.resolve? owner declaration.tag = some (declaration.accessor owner) ∧
        greetConsumer.RunsTo (declaration.accessor owner) :=
  ⟨compiler?_ringHistory, build_greetLabel,
    (consumer_runs_to_declared_member halls ringHistory compiler?_ringHistory
      build_greetLabel).2.2.1⟩

example : greetConsumer.notices "Ann" = [.defaulted "times" .int] := rfl

end Waymark
