import Waymark.Proofs.Identifier
import Waymark.Proofs.Lookup
import Waymark.Workspace

/-!
# Histories of a workspace

A history is any sequence of operations on a workspace that was empty at first. After
every history each registry that was filled has the outcome of its first filling, and
each compiler keeps only shapes that compiling gives. So a compiler answers as if it
kept nothing.
-/

namespace Waymark

variable {ι : Type}

/-- What can be done in a workspace; registries and compilers are given by number. -/
inductive Operation where
  | addRegistry (policy : CollisionPolicy)
  | addCompiler (registry : Nat) (root : SectionKey)
  | fill (registry : Nat) (root : SectionKey)
  | encode (registry : Nat) (path : Path)
  | shape (compiler : Nat) (identifier : String)
  | build (compiler : Nat) (label : Label)
  | isCached (compiler : Nat) (identifier : String)

namespace Workspace

/-- The workspace after one operation. -/
def perform (atlas : Atlas ι) (workspace : Workspace ι) : Operation → Workspace ι
  | .addRegistry policy => (workspace.addRegistry policy).workspace
  | .addCompiler registry root => (workspace.addCompiler registry root).workspace
  | .fill registry root => (workspace.fill atlas registry root).workspace
  | .encode registry path => (workspace.encode registry path).workspace
  | .shape compiler identifier => (workspace.shape compiler identifier).workspace
  | .build compiler label => (workspace.build compiler label).workspace
  | .isCached _ _ => workspace

/-- The workspace after operations, one after the other, from an empty one. -/
def after (atlas : Atlas ι) (operations : List Operation) : Workspace ι :=
  operations.foldl (perform atlas) {}

end Workspace

/-! ## Registries -/

namespace Registry

variable {registry later : Registry ι} {atlas : Atlas ι} {root : SectionKey}

/-- Whether the outcome of a registry, if it has one, is that of filling it from some
root. -/
def FilledBy (registry : Registry ι) (atlas : Atlas ι) : Prop :=
  ∀ outcome, registry.outcome = some outcome →
    ∃ root, outcome = Tables.ofAtlas registry.policy atlas root

/-- Whether a later state of a registry keeps the outcome that an earlier one has. -/
def Keeps (registry later : Registry ι) : Prop :=
  ∀ outcome, registry.outcome = some outcome → later.outcome = some outcome

theorem FilledBy.filled (filledBy : registry.FilledBy atlas) (root : SectionKey) :
    (registry.filled atlas root).FilledBy atlas := by
  rw [Registry.filled]
  split
  · exact filledBy
  · intro outcome found
    cases found
    exact ⟨root, rfl⟩

theorem keeps_filled (registry : Registry ι) (atlas : Atlas ι) (root : SectionKey) :
    registry.Keeps (registry.filled atlas root) := by
  intro outcome found
  simp [Registry.filled, found]

theorem tables_eq_ok_iff {tables : Tables ι} :
    registry.tables = .ok tables ↔ registry.outcome = some (.ok tables) := by
  rw [Registry.tables]
  cases registry.outcome <;> simp

theorem Keeps.tables_eq_ok (keeps : registry.Keeps later) {tables : Tables ι}
    (found : registry.tables = .ok tables) : later.tables = .ok tables :=
  tables_eq_ok_iff.2 (keeps _ (tables_eq_ok_iff.1 found))

theorem exists_tables_of_compile {identifier : String} {shape : Shape ι}
    (compiled : registry.compile root identifier = .ok shape) :
    ∃ tables, registry.tables = .ok tables ∧ tables.root = root ∧
      tables.compile identifier = .ok shape := by
  unfold compile at compiled
  split at compiled
  · cases compiled
  · next tables found =>
    split at compiled
    · next rooted => exact ⟨tables, found, rooted, compiled⟩
    · cases compiled

theorem compile_of_tables {tables : Tables ι} (found : registry.tables = .ok tables)
    (identifier : String) :
    registry.compile tables.root identifier = tables.compile identifier := by
  rw [compile, found]
  simp

theorem encode_of_tables {tables : Tables ι} (found : registry.tables = .ok tables) (path : Path) :
    registry.encode path = tables.encode path := by
  rw [Registry.encode, found]

theorem Keeps.compile (keeps : registry.Keeps later) {identifier : String} {shape : Shape ι}
    (compiled : registry.compile root identifier = .ok shape) :
    later.compile root identifier = .ok shape := by
  obtain ⟨tables, found, rfl, shaped⟩ := exists_tables_of_compile compiled
  rw [compile_of_tables (keeps.tables_eq_ok found), shaped]

/-- A registry with a root has the tables of filling it from there. -/
theorem FilledBy.exists_tables (filledBy : registry.FilledBy atlas)
    (rooted : registry.root? = some root) :
    ∃ tables, registry.tables = .ok tables ∧
      Tables.ofAtlas registry.policy atlas root = .ok tables := by
  rw [root?, tables?] at rooted
  cases found : registry.tables with
  | error error =>
    rw [found] at rooted
    cases rooted
  | ok tables =>
    rw [found] at rooted
    obtain ⟨start, same⟩ := filledBy _ (tables_eq_ok_iff.1 found)
    have startIsRoot : start = root := by
      rw [← Tables.root_ofAtlas same.symm]
      simpa [Except.toOption] using rooted
    exact ⟨tables, rfl, startIsRoot ▸ same.symm⟩

theorem exists_tables_of_encode {path : Path} {label : Label}
    (encoded : registry.encode path = .label label) : ∃ tables, registry.tables = .ok tables := by
  rw [Registry.encode] at encoded
  cases found : registry.tables with
  | error error =>
    rw [found] at encoded
    cases encoded
  | ok tables => exact ⟨tables, rfl⟩

theorem FilledBy.coherent (filledBy : registry.FilledBy atlas) {tables : Tables ι}
    (found : registry.tables = .ok tables) : Tables.Coherent tables := by
  obtain ⟨root, same⟩ := filledBy _ (tables_eq_ok_iff.1 found)
  exact Tables.coherent_ofAtlas same.symm

theorem FilledBy.writable (filledBy : registry.FilledBy atlas) (uniqueNames : atlas.UniqueNames)
    {tables : Tables ι} (found : registry.tables = .ok tables) : Tables.Writable tables := by
  obtain ⟨root, same⟩ := filledBy _ (tables_eq_ok_iff.1 found)
  exact Tables.writable_ofAtlas uniqueNames same.symm

end Registry

/-! ## Compilers -/

namespace Compiler

variable {compiler : Compiler ι} {registry later : Registry ι}

/-- Whether a compiler keeps only what compiling gives. -/
def Sound (compiler : Compiler ι) (registry : Registry ι) : Prop :=
  ∀ spelling shape, compiler.shapes.get? spelling = some shape →
    registry.compile compiler.root spelling = .ok shape

theorem sound_empty (root : SectionKey) (registry : Registry ι) :
    ({ root } : Compiler ι).Sound registry := by
  intro spelling shape found
  cases found

theorem Sound.keeps (sound : compiler.Sound registry) (keeps : registry.Keeps later) :
    compiler.Sound later :=
  fun spelling shape found => keeps.compile (sound spelling shape found)

theorem Sound.shape (sound : compiler.Sound registry) (identifier : String) :
    (compiler.shape registry identifier).compiler.Sound registry := by
  rw [Compiler.shape]
  split
  · exact sound
  · split
    · exact sound
    · split
      · exact sound
      · next shape compiled =>
        -- The new shape is kept under its own spelling, the others stay where they were.
        intro spelling found
        rw [Dict.get?_insert]
        split
        · next same =>
          intro same
          cases same
          rw [← same, compiled]
        · exact sound spelling found

theorem root_shape (compiler : Compiler ι) (registry : Registry ι) (identifier : String) :
    (compiler.shape registry identifier).compiler.root = compiler.root := by
  rw [Compiler.shape]
  split
  · rfl
  · split
    · rfl
    · split <;> rfl

theorem build_compiler (compiler : Compiler ι) (registry : Registry ι) (label : Label) :
    (compiler.build registry label).compiler = compiler ∨
      (compiler.build registry label).compiler =
        (compiler.shape registry label.identifier).compiler := by
  rw [build]
  split
  · exact .inl rfl
  · exact .inr rfl

theorem Sound.build (sound : compiler.Sound registry) (label : Label) :
    (compiler.build registry label).compiler.Sound registry := by
  rcases compiler.build_compiler registry label with same | same
  · rw [same]
    exact sound
  · rw [same]
    exact sound.shape label.identifier

/-- What is kept does not show in the answer. -/
theorem Sound.shape_result (sound : compiler.Sound registry) {identifier : String}
    (nonempty : Identifier.canonical identifier ≠ "") :
    (compiler.shape registry identifier).result =
      registry.compile compiler.root (Identifier.canonical identifier) := by
  have full : (Identifier.canonical identifier).isEmpty = false := by simpa using nonempty
  simp only [Compiler.shape, full, Bool.false_eq_true, if_false]
  split
  · next shape found => rw [sound _ shape found]
  · split <;> simp_all

/-- On a registry of its own root a compiler gives a shape just when the tables do. -/
theorem Sound.shape_eq_ok_iff (sound : compiler.Sound registry) {tables : Tables ι}
    (found : registry.tables = .ok tables) (sameRoot : tables.root = compiler.root)
    {identifier : String} {shape : Shape ι} :
    (compiler.shape registry identifier).result = .ok shape ↔
      tables.compile (Identifier.canonical identifier) = .ok shape := by
  by_cases empty : Identifier.canonical identifier = ""
  · rw [empty, Tables.compile, Identifier.tags_empty]
    simp [Compiler.shape, empty]
  · rw [sound.shape_result empty, ← sameRoot, Registry.compile_of_tables found]

end Compiler

/-! ## Workspaces -/

namespace Workspace

variable {atlas : Atlas ι} {workspace : Workspace ι}

/-- Whether every registry has an outcome of the atlas, and every compiler keeps only
what compiling with its registry gives. -/
structure Sound (atlas : Atlas ι) (workspace : Workspace ι) : Prop where
  registries : ∀ registry ∈ workspace.registries, registry.FilledBy atlas
  compilers : ∀ number compiler, (number, compiler) ∈ workspace.compilers →
    compiler.Sound (workspace.registry number)

theorem sound_empty (atlas : Atlas ι) : Sound atlas {} where
  registries registry member := by cases member
  compilers number compiler member := by cases member

theorem Sound.registry (sound : Sound atlas workspace) (number : Nat) :
    (workspace.registry number).FilledBy atlas := by
  rw [Workspace.registry]
  cases found : workspace.registries[number]? with
  | none =>
    intro outcome impossible
    cases impossible
  | some registry => exact sound.registries registry (List.mem_of_getElem? found)

theorem keeps_registry_addRegistry (workspace : Workspace ι) (policy : CollisionPolicy)
    (number : Nat) :
    (workspace.registry number).Keeps
      ((workspace.addRegistry policy).workspace.registry number) := by
  intro outcome found
  rw [Workspace.registry] at found
  cases stored : workspace.registries[number]? with
  | none =>
    rw [stored] at found
    cases found
  | some registry =>
    rw [stored] at found
    have bound := (List.getElem?_eq_some_iff.1 stored).1
    simpa [Workspace.registry, addRegistry, List.getElem?_append_left bound, stored] using found

theorem keeps_registry_fill (workspace : Workspace ι) (atlas : Atlas ι) (filled : Nat)
    (root : SectionKey) (number : Nat) :
    (workspace.registry number).Keeps
      ((workspace.fill atlas filled root).workspace.registry number) := by
  -- Filling an unknown number writes nothing, since there is no place for it.
  intro outcome found
  rw [Workspace.registry, fill, List.getElem?_set]
  split
  · next same =>
    subst same
    split
    · exact Registry.keeps_filled _ atlas root outcome found
    · next outside =>
      rw [Workspace.registry, List.getElem?_eq_none (Nat.le_of_not_lt outside)] at found
      cases found
  · exact found

theorem Sound.withCompiler {α : Type} (sound : Sound atlas workspace) (number : Nat)
    {operation : Compiler ι → Registry ι → Compiled ι α}
    (keeps : ∀ compiler registry, compiler.Sound registry →
      (operation compiler registry).compiler.Sound registry) :
    Sound atlas (workspace.withCompiler number operation).workspace := by
  rw [Workspace.withCompiler]
  cases found : workspace.compilers[number]? with
  | none => exact sound
  | some entry =>
    obtain ⟨registry, compiler⟩ := entry
    refine ⟨sound.registries, ?_⟩
    intro other changed member
    rcases List.mem_or_eq_of_mem_set member with member | same
    · exact sound.compilers other changed member
    · cases same
      exact keeps compiler _ (sound.compilers registry compiler (List.mem_of_getElem? found))

theorem Sound.perform (sound : Sound atlas workspace) (operation : Operation) :
    Sound atlas (workspace.perform atlas operation) := by
  cases operation with
  | addRegistry policy =>
    constructor
    · intro registry member
      rcases List.mem_append.1 member with member | member
      · exact sound.registries registry member
      · rw [List.mem_singleton.1 member]
        intro outcome impossible
        cases impossible
    · intro number compiler member
      exact (sound.compilers number compiler member).keeps
        (workspace.keeps_registry_addRegistry policy number)
  | addCompiler registry root =>
    refine ⟨sound.registries, ?_⟩
    intro number compiler member
    rcases List.mem_append.1 member with member | member
    · exact sound.compilers number compiler member
    · cases List.mem_singleton.1 member
      exact Compiler.sound_empty root _
  | fill number root =>
    constructor
    · intro registry member
      rcases List.mem_or_eq_of_mem_set member with member | same
      · exact sound.registries registry member
      · rw [same]
        exact (sound.registry number).filled root
    · intro other compiler member
      exact (sound.compilers other compiler member).keeps
        (workspace.keeps_registry_fill atlas number root other)
  | encode number path => exact sound
  | shape number identifier =>
    exact sound.withCompiler number fun _ _ kept => kept.shape identifier
  | build number label => exact sound.withCompiler number fun _ _ kept => kept.build label
  | isCached number identifier => exact sound

theorem Sound.foldl_perform (sound : Sound atlas workspace) (operations : List Operation) :
    Sound atlas (operations.foldl (Workspace.perform atlas) workspace) := by
  induction operations generalizing workspace with
  | nil => exact sound
  | cons operation rest inductionHypothesis =>
    exact inductionHypothesis (sound.perform operation)

theorem sound_after (atlas : Atlas ι) (operations : List Operation) :
    Sound atlas (after atlas operations) :=
  (sound_empty atlas).foldl_perform operations

/-- A compiler and its registry, as any history leaves them. -/
theorem Sound.compiler? (sound : Sound atlas workspace) {number : Nat} {compiler : Compiler ι}
    {registry : Registry ι} (found : workspace.compiler? number = some (compiler, registry)) :
    compiler.Sound registry ∧ registry.FilledBy atlas := by
  obtain ⟨⟨registryNumber, kept⟩, stored, same⟩ := Option.map_eq_some_iff.1 found
  cases same
  exact ⟨sound.compilers registryNumber compiler (List.mem_of_getElem? stored),
    sound.registry registryNumber⟩

end Workspace

end Waymark
