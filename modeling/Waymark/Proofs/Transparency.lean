import Mathlib.Data.Finset.Card
import Waymark.Proofs.History
import Waymark.Proofs.RoundTrip

/-!
# What a history shows

A registry answers for good as its first filling came out. A compiler answers as a new one
would, so nothing shows of what it has kept but its count, which is the number of spellings
that it has given shapes for.
-/

namespace Waymark

variable {ι : Type}

/-! ## Outcomes of registries -/

namespace Tables

variable {policy : CollisionPolicy} {tables : Tables ι}

/-- Only a tag that is declared twice can be refused. -/
theorem eq_duplicateTag_of_register {accessor : Accessor ι} {error : LabelError}
    (refused : tables.register policy accessor = .error error) :
    error = .duplicateTag accessor.owner.name accessor.tag := by
  unfold register at refused
  split at refused
  · split at refused
    · cases refused
    · cases refused
    · cases refused
      rfl
  · cases refused

theorem exists_duplicateTag_of_takeAll {events : List (Event ι)} {error : LabelError}
    (refused : takeAll policy tables events = .error error) :
    ∃ owner tag, error = .duplicateTag owner tag := by
  induction events generalizing tables with
  | nil => cases refused
  | cons event rest inductionHypothesis =>
    rw [takeAll] at refused
    cases taken : tables.take policy event with
    | ok next =>
      rw [taken] at refused
      exact inductionHypothesis refused
    | error other =>
      rw [taken] at refused
      cases refused
      cases event with
      | enter key => cases taken
      | declare owner declaration => exact ⟨_, _, eq_duplicateTag_of_register taken⟩

end Tables

namespace Registry

variable {registry : Registry ι} {atlas : Atlas ι} {outcome : Except LabelError (Tables ι)}

theorem filled_of_outcome (settled : registry.outcome = some outcome) (root : SectionKey) :
    registry.filled atlas root = registry := by
  unfold filled
  rw [settled]

theorem exists_outcome_filled (registry : Registry ι) (atlas : Atlas ι) (root : SectionKey) :
    ∃ outcome, (registry.filled atlas root).outcome = some outcome := by
  cases settled : registry.outcome with
  | none => exact ⟨Tables.ofAtlas registry.policy atlas root, by simp [filled, settled]⟩
  | some outcome => exact ⟨outcome, by rw [filled_of_outcome settled, settled]⟩

theorem tables_of_outcome (settled : registry.outcome = some outcome) :
    registry.tables = outcome := by
  rw [tables, settled]

theorem fillResult_of_outcome (settled : registry.outcome = some outcome) (root : SectionKey) :
    registry.fillResult atlas root = registry.serves root := by
  rw [fillResult, filled_of_outcome settled]

theorem FilledBy.exists_duplicateTag (filledBy : registry.FilledBy atlas) {error : LabelError}
    (failed : registry.outcome = some (.error error)) :
    ∃ owner tag, error = .duplicateTag owner tag := by
  obtain ⟨root, same⟩ := filledBy _ failed
  exact Tables.exists_duplicateTag_of_takeAll same.symm

end Registry

namespace Workspace

variable {atlas : Atlas ι} {workspace : Workspace ι} {number : Nat} {registry : Registry ι}
  {outcome : Except LabelError (Tables ι)}

theorem after_append (operations later : List Operation) :
    after atlas (operations ++ later) = later.foldl (perform atlas) (after atlas operations) := by
  rw [after, List.foldl_append, ← after]

theorem registry_of_stored (stored : workspace.registries[number]? = some registry) :
    workspace.registry number = registry := by
  rw [Workspace.registry, stored, Option.getD_some]

@[simp] theorem registries_withCompiler {α : Type} (workspace : Workspace ι) (number : Nat)
    (operation : Compiler ι → Registry ι → Compiled ι α) :
    (workspace.withCompiler number operation).workspace.registries = workspace.registries := by
  rw [withCompiler]
  split <;> rfl

/-- No operation touches a registry that has an outcome. -/
theorem registries_perform_of_outcome (stored : workspace.registries[number]? = some registry)
    (settled : registry.outcome = some outcome) (operation : Operation) :
    (workspace.perform atlas operation).registries[number]? = some registry := by
  cases operation with
  | addRegistry policy =>
    have bound := (List.getElem?_eq_some_iff.1 stored).1
    exact (List.getElem?_append_left bound).trans stored
  | fill other root =>
    have bound := (List.getElem?_eq_some_iff.1 stored).1
    rw [perform, fill, List.getElem?_set]
    split
    · next same =>
      subst same
      rw [if_pos bound, registry_of_stored stored, Registry.filled_of_outcome settled]
    · exact stored
  | shape compiler identifier => rwa [perform, shape, registries_withCompiler]
  | build compiler label => rwa [perform, build, registries_withCompiler]
  | addCompiler _ _ => exact stored
  | encode _ _ => exact stored
  | isCached _ _ => exact stored

theorem registries_foldl_perform_of_outcome
    (stored : workspace.registries[number]? = some registry)
    (settled : registry.outcome = some outcome) (operations : List Operation) :
    (operations.foldl (perform atlas) workspace).registries[number]? = some registry := by
  induction operations generalizing workspace with
  | nil => exact stored
  | cons operation rest inductionHypothesis =>
    exact inductionHypothesis (registries_perform_of_outcome stored settled operation)

/-- A registry stays what the attempt to fill it has made of it. -/
theorem registries_after_fill {operations : List Operation}
    (stored : (after atlas operations).registries[number]? = some registry) (root : SectionKey)
    (later : List Operation) :
    (after atlas (operations ++ .fill number root :: later)).registries[number]? =
      some (registry.filled atlas root) := by
  obtain ⟨outcome, settled⟩ := registry.exists_outcome_filled atlas root
  have bound := (List.getElem?_eq_some_iff.1 stored).1
  rw [after_append, List.foldl_cons]
  apply registries_foldl_perform_of_outcome _ settled
  rw [perform, fill, List.getElem?_set_self bound, registry_of_stored stored]

/-- How a registry answers once it has an outcome. With tables it goes on to serve their
root and refuses every other one. Without, it gives its error whatever root is asked for,
and the error is a tag that was declared twice. -/
structure Decided (atlas : Atlas ι) (workspace : Workspace ι) (number : Nat)
    (outcome : Except LabelError (Tables ι)) : Prop where
  outcome_eq : (workspace.registry number).outcome = some outcome
  served {tables : Tables ι} : outcome = .ok tables →
    (workspace.fill atlas number tables.root).result = .ok ()
  mismatched {tables : Tables ι} {root : SectionKey} : outcome = .ok tables →
    tables.root ≠ root →
      (workspace.fill atlas number root).result =
        .error (.rootMismatch root.name tables.root.name)
  failed {error : LabelError} (root : SectionKey) : outcome = .error error →
    (workspace.fill atlas number root).result = .error error
  duplicate {error : LabelError} : outcome = .error error →
    ∃ owner tag, error = .duplicateTag owner tag

theorem Sound.decided (sound : Sound atlas workspace)
    (settled : (workspace.registry number).outcome = some outcome) :
    Decided atlas workspace number outcome where
  outcome_eq := settled
  served {tables} success := by
    rw [fill, Registry.fillResult_of_outcome settled, Registry.serves,
      Registry.tables_of_outcome settled, success]
    simp
  mismatched {tables root} success different := by
    rw [fill, Registry.fillResult_of_outcome settled, Registry.serves,
      Registry.tables_of_outcome settled, success]
    simp [different]
  failed {error} root failure := by
    rw [fill, Registry.fillResult_of_outcome settled, Registry.serves,
      Registry.tables_of_outcome settled, failure]
  duplicate {error} failure := by
    rw [failure] at settled
    exact (sound.registry number).exists_duplicateTag settled

end Workspace

/-! ## Answers of compilers -/

namespace Compiler

variable {compiler other : Compiler ι} {registry : Registry ι} {label : Label}

theorem build_of_isBlank (blank : Text.isBlank label.identifier = true) :
    compiler.build registry label = ⟨.ok none, compiler, []⟩ := by
  simp [build, blank]

theorem result_build_of_not_isBlank (visible : Text.isBlank label.identifier = false) :
    (compiler.build registry label).result =
      (compiler.shape registry label.identifier).result.map
        fun shape => some ⟨shape, label.parameters⟩ := by
  simp [build, visible]

theorem compiler_build_of_not_isBlank (visible : Text.isBlank label.identifier = false) :
    (compiler.build registry label).compiler =
      (compiler.shape registry label.identifier).compiler := by
  simp [build, visible]

theorem result_shape_of_canonical_eq_empty {identifier : String}
    (empty : Identifier.canonical identifier = "") :
    (compiler.shape registry identifier).result = .error (.invalidIdentifier identifier) := by
  simp [Compiler.shape, empty]

/-- Compilers of one root that keep only what compiling gives answer alike. -/
theorem Sound.result_shape_eq (sound : compiler.Sound registry) (otherSound : other.Sound registry)
    (sameRoot : compiler.root = other.root) (identifier : String) :
    (compiler.shape registry identifier).result = (other.shape registry identifier).result := by
  by_cases empty : Identifier.canonical identifier = ""
  · rw [result_shape_of_canonical_eq_empty empty, result_shape_of_canonical_eq_empty empty]
  · rw [sound.shape_result empty, otherSound.shape_result empty, sameRoot]

theorem Sound.result_build_eq (sound : compiler.Sound registry) (otherSound : other.Sound registry)
    (sameRoot : compiler.root = other.root) (label : Label) :
    (compiler.build registry label).result = (other.build registry label).result := by
  cases visible : Text.isBlank label.identifier with
  | true => rw [build_of_isBlank visible, build_of_isBlank visible]
  | false =>
    rw [result_build_of_not_isBlank visible, result_build_of_not_isBlank visible,
      sound.result_shape_eq otherSound sameRoot]

/-! ## Counts of compilers -/

/-- Whether the count of a compiler is right, and it keeps just the shapes of some
spellings. -/
structure Tallies (compiler : Compiler ι) (spellings : List String) : Prop where
  count : compiler.compilations = compiler.shapes.size
  mem_keys_iff (spelling : String) : spelling ∈ compiler.shapes.keys ↔ spelling ∈ spellings

theorem tallies_empty (root : SectionKey) : ({ root } : Compiler ι).Tallies [] :=
  ⟨rfl, fun _ => Iff.rfl⟩

/-- What asking for a shape comes to: there are no tags, or the shape is kept already, or
compiling fails, or a new shape is kept and counted. -/
theorem shape_cases (compiler : Compiler ι) (registry : Registry ι) (identifier : String) :
    (Identifier.canonical identifier = "" ∧ compiler.shape registry identifier =
      ⟨.error (.invalidIdentifier identifier), compiler, []⟩) ∨
    (∃ shape, compiler.shapes.get? (Identifier.canonical identifier) = some shape ∧
      compiler.shape registry identifier = ⟨.ok shape, compiler, []⟩) ∨
    (∃ error, compiler.shapes.get? (Identifier.canonical identifier) = none ∧
      compiler.shape registry identifier = ⟨.error error, compiler, []⟩) ∨
    ∃ shape, compiler.shapes.get? (Identifier.canonical identifier) = none ∧
      (compiler.shape registry identifier).result = .ok shape ∧
      (compiler.shape registry identifier).compiler =
        { compiler with
          shapes := compiler.shapes.insert (Identifier.canonical identifier) shape
          compilations := compiler.compilations + 1 } := by
  by_cases empty : Identifier.canonical identifier = ""
  · exact .inl ⟨empty, by simp [Compiler.shape, empty]⟩
  · refine .inr ?_
    cases kept : compiler.shapes.get? (Identifier.canonical identifier) with
    | some shape => exact .inl ⟨shape, rfl, by simp [Compiler.shape, empty, kept]⟩
    | none =>
      refine .inr ?_
      cases compiled : registry.compile compiler.root (Identifier.canonical identifier) with
      | error error => exact .inl ⟨error, rfl, by simp [Compiler.shape, empty, kept, compiled]⟩
      | ok shape =>
        exact .inr ⟨shape, rfl, by simp [Compiler.shape, empty, kept, compiled],
          by simp [Compiler.shape, empty, kept, compiled]⟩

theorem compiler_shape_of_error {identifier : String} {error : LabelError}
    (failed : (compiler.shape registry identifier).result = .error error) :
    (compiler.shape registry identifier).compiler = compiler := by
  rcases compiler.shape_cases registry identifier with
    ⟨-, done⟩ | ⟨shape, -, done⟩ | ⟨other, -, done⟩ | ⟨shape, -, shaped, -⟩
  · rw [done]
  · rw [done]
  · rw [done]
  · rw [shaped] at failed
    cases failed

theorem compiler_build_of_error {error : LabelError}
    (failed : (compiler.build registry label).result = .error error) :
    (compiler.build registry label).compiler = compiler := by
  cases visible : Text.isBlank label.identifier with
  | true => rw [build_of_isBlank visible]
  | false =>
    rw [result_build_of_not_isBlank visible] at failed
    cases shaped : (compiler.shape registry label.identifier).result with
    | ok shape =>
      rw [shaped] at failed
      cases failed
    | error other => rw [compiler_build_of_not_isBlank visible, compiler_shape_of_error shaped]

/-- After giving a shape, a compiler keeps it under its spelling, and has counted it if it
was not kept before. -/
theorem Tallies.shape {spellings : List String} (tallies : compiler.Tallies spellings)
    {identifier : String} {shape : Shape ι}
    (shaped : (compiler.shape registry identifier).result = .ok shape) :
    (compiler.shape registry identifier).compiler.Tallies
      (spellings ++ [Identifier.canonical identifier]) := by
  rcases compiler.shape_cases registry identifier with
    ⟨-, done⟩ | ⟨kept, found, done⟩ | ⟨error, -, done⟩ | ⟨made, unknown, -, done⟩
  · rw [done] at shaped
    cases shaped
  · have known : Identifier.canonical identifier ∈ compiler.shapes.keys :=
      (compiler.shapes.contains_iff _).1 (by rw [Dict.contains, found]; rfl)
    have listed := (tallies.mem_keys_iff _).1 known
    rw [done]
    refine ⟨tallies.count, ?_⟩
    intro spelling
    rw [tallies.mem_keys_iff, List.mem_append, List.mem_singleton]
    constructor
    · exact Or.inl
    · rintro (member | rfl)
      · exact member
      · exact listed
  · rw [done] at shaped
    cases shaped
  · have fresh := (compiler.shapes.get?_eq_none_iff _).1 unknown
    rw [done]
    constructor
    · dsimp only
      rw [Dict.size_insert_of_not_mem fresh, tallies.count]
    · intro spelling
      dsimp only
      rw [Dict.keys_insert, if_neg fresh, List.mem_append, List.mem_append,
        tallies.mem_keys_iff]

theorem Tallies.size_eq {spellings : List String} (tallies : compiler.Tallies spellings) :
    compiler.shapes.size = spellings.toFinset.card := by
  have sameKeys : compiler.shapes.keys.toFinset = spellings.toFinset := by
    ext spelling
    simpa using tallies.mem_keys_iff spelling
  have nodup : compiler.shapes.keys.Nodup := compiler.shapes.nodupKeys
  rw [← sameKeys, List.toFinset_card_of_nodup nodup, Dict.keys, List.length_map, Dict.size]

theorem Tallies.isCached_iff {spellings : List String} (tallies : compiler.Tallies spellings)
    (identifier : String) :
    compiler.isCached identifier = true ↔ Identifier.canonical identifier ∈ spellings := by
  rw [← tallies.mem_keys_iff, isCached, Dict.contains_iff]

end Compiler

namespace Workspace

variable {atlas : Atlas ι} {workspace : Workspace ι} {number registryNumber : Nat}
  {compiler : Compiler ι}

section

variable {α : Type} (operation : Compiler ι → Registry ι → Compiled ι α)

theorem result_withCompiler
    (stored : workspace.compilers[number]? = some (registryNumber, compiler)) :
    (workspace.withCompiler number operation).result =
      (operation compiler (workspace.registry registryNumber)).result := by
  rw [withCompiler, stored]

theorem workspace_withCompiler_of_unknown (unknown : workspace.compilers[number]? = none) :
    (workspace.withCompiler number operation).workspace = workspace := by
  rw [withCompiler, unknown]

theorem compilers_withCompiler
    (stored : workspace.compilers[number]? = some (registryNumber, compiler)) :
    (workspace.withCompiler number operation).workspace.compilers[number]? =
      some (registryNumber, (operation compiler (workspace.registry registryNumber)).compiler) := by
  have bound := (List.getElem?_eq_some_iff.1 stored).1
  rw [withCompiler, stored]
  exact List.getElem?_set_self bound

theorem compilers_withCompiler_of_ne {other : Nat} (different : other ≠ number) :
    (workspace.withCompiler other operation).workspace.compilers[number]? =
      workspace.compilers[number]? := by
  rw [withCompiler]
  split
  · rfl
  · exact List.getElem?_set_ne different

/-- An operation that leaves its compiler as it was leaves everything as it was. -/
theorem workspace_withCompiler_eq
    (same : ∀ registryNumber compiler,
      workspace.compilers[number]? = some (registryNumber, compiler) →
        (operation compiler (workspace.registry registryNumber)).compiler = compiler) :
    (workspace.withCompiler number operation).workspace = workspace := by
  cases stored : workspace.compilers[number]? with
  | none => exact workspace_withCompiler_of_unknown operation stored
  | some entry =>
    obtain ⟨registryNumber, compiler⟩ := entry
    obtain ⟨bound, placed⟩ := List.getElem?_eq_some_iff.1 stored
    rw [withCompiler, stored]
    dsimp only
    rw [same registryNumber compiler stored, ← placed, List.set_getElem_self]

end

theorem workspace_shape_of_error {identifier : String} {error : LabelError}
    (failed : (workspace.shape number identifier).result = .error error) :
    (workspace.shape number identifier).workspace = workspace := by
  apply workspace_withCompiler_eq
  intro registryNumber compiler stored
  rw [shape, result_withCompiler _ stored] at failed
  exact Compiler.compiler_shape_of_error failed

theorem workspace_build_of_error {label : Label} {error : LabelError}
    (failed : (workspace.build number label).result = .error error) :
    (workspace.build number label).workspace = workspace := by
  apply workspace_withCompiler_eq
  intro registryNumber compiler stored
  rw [build, result_withCompiler _ stored] at failed
  exact Compiler.compiler_build_of_error failed

/-- The canonical spelling of the identifier for which an operation gets a shape from a
compiler, alone or in a consumer. -/
def compiled? (workspace : Workspace ι) (number : Nat) : Operation → Option String
  | .shape compiler identifier =>
    if compiler = number then
      match (workspace.shape number identifier).result with
      | .ok _ => some (Identifier.canonical identifier)
      | .error _ => none
    else
      none
  | .build compiler label =>
    if compiler = number then
      match (workspace.build number label).result with
      | .ok (some _) => some (Identifier.canonical label.identifier)
      | .ok none | .error _ => none
    else
      none
  | .addRegistry _ | .addCompiler _ _ | .fill _ _ | .encode _ _ | .isCached _ _ => none

/-- The spellings for which operations get shapes from a compiler, one after the other. A
spelling that is asked for again is listed again. -/
def compiledDuring (atlas : Atlas ι) (number : Nat) :
    Workspace ι → List Operation → List String
  | _, [] => []
  | workspace, operation :: rest =>
    (workspace.compiled? number operation).toList ++
      compiledDuring atlas number (workspace.perform atlas operation) rest

/-- Whether a compiler, if there is one of the number, keeps just the shapes of some
spellings and has counted them. -/
def Tallies (workspace : Workspace ι) (number : Nat) (spellings : List String) : Prop :=
  match workspace.compilers[number]? with
  | none => spellings = []
  | some (_, compiler) => compiler.Tallies spellings

theorem tallies_of_compilers_eq {other : Workspace ι} {spellings : List String}
    (same : other.compilers[number]? = workspace.compilers[number]?)
    (tallies : Tallies workspace number spellings) : Tallies other number spellings := by
  rw [Tallies, same]
  exact tallies

theorem Tallies.addCompiler {spellings : List String} (tallies : Tallies workspace number spellings)
    (registryNumber : Nat) (root : SectionKey) :
    Tallies (workspace.addCompiler registryNumber root).workspace number spellings := by
  -- Only at the end of the list does the new compiler come to have the number.
  rcases Nat.lt_trichotomy number workspace.compilers.length with before | here | behind
  · exact tallies_of_compilers_eq (List.getElem?_append_left before) tallies
  · have absent : workspace.compilers[number]? = none :=
      List.getElem?_eq_none (Nat.le_of_eq here.symm)
    have new : (workspace.addCompiler registryNumber root).workspace.compilers[number]? =
        some (registryNumber, { root }) := by
      subst here
      exact List.getElem?_concat_length
    rw [Tallies, absent] at tallies
    rw [Tallies, new, tallies]
    exact Compiler.tallies_empty root
  · have absent : workspace.compilers[number]? = none :=
      List.getElem?_eq_none (Nat.le_of_lt behind)
    apply tallies_of_compilers_eq _ tallies
    rw [absent]
    apply List.getElem?_eq_none
    rw [Workspace.addCompiler, List.length_append, List.length_singleton]
    omega

theorem Tallies.shape {spellings : List String} (tallies : Tallies workspace number spellings)
    (identifier : String) :
    Tallies (workspace.shape number identifier).workspace number
      (spellings ++ (workspace.compiled? number (.shape number identifier)).toList) := by
  rw [compiled?, if_pos rfl]
  cases shaped : (workspace.shape number identifier).result with
  | error error =>
    rw [workspace_shape_of_error shaped]
    simpa using tallies
  | ok shape =>
    cases stored : workspace.compilers[number]? with
    | none => simp [Workspace.shape, withCompiler, stored] at shaped
    | some entry =>
      obtain ⟨registryNumber, compiler⟩ := entry
      rw [Tallies, stored] at tallies
      rw [Workspace.shape, result_withCompiler _ stored] at shaped
      rw [Workspace.shape, Tallies, compilers_withCompiler _ stored]
      exact Compiler.Tallies.shape tallies shaped

theorem Tallies.build {spellings : List String} (tallies : Tallies workspace number spellings)
    (label : Label) :
    Tallies (workspace.build number label).workspace number
      (spellings ++ (workspace.compiled? number (.build number label)).toList) := by
  rw [compiled?, if_pos rfl]
  cases built : (workspace.build number label).result with
  | error error =>
    rw [workspace_build_of_error built]
    simpa using tallies
  | ok consumer? =>
    cases stored : workspace.compilers[number]? with
    | none => simp [Workspace.build, withCompiler, stored] at built
    | some entry =>
      obtain ⟨registryNumber, compiler⟩ := entry
      rw [Tallies, stored] at tallies
      rw [Workspace.build, result_withCompiler _ stored] at built
      rw [Workspace.build, Tallies, compilers_withCompiler _ stored]
      cases visible : Text.isBlank label.identifier with
      | true =>
        rw [Compiler.build_of_isBlank visible] at built
        cases built
        simpa [Compiler.build_of_isBlank visible] using tallies
      | false =>
        rw [Compiler.result_build_of_not_isBlank visible] at built
        rw [Compiler.compiler_build_of_not_isBlank visible]
        cases shaped : (compiler.shape (workspace.registry registryNumber)
            label.identifier).result with
        | error error =>
          rw [shaped] at built
          cases built
        | ok shape =>
          rw [shaped] at built
          cases built
          exact Compiler.Tallies.shape tallies shaped

theorem Tallies.perform {spellings : List String} (tallies : Tallies workspace number spellings)
    (operation : Operation) :
    Tallies (workspace.perform atlas operation) number
      (spellings ++ (workspace.compiled? number operation).toList) := by
  cases operation with
  | shape other identifier =>
    by_cases same : other = number
    · subst same
      exact tallies.shape identifier
    · rw [compiled?, if_neg same, Option.toList_none, List.append_nil]
      exact tallies_of_compilers_eq (compilers_withCompiler_of_ne _ same) tallies
  | build other label =>
    by_cases same : other = number
    · subst same
      exact tallies.build label
    · rw [compiled?, if_neg same, Option.toList_none, List.append_nil]
      exact tallies_of_compilers_eq (compilers_withCompiler_of_ne _ same) tallies
  | addCompiler registryNumber root =>
    rw [compiled?, Option.toList_none, List.append_nil]
    exact tallies.addCompiler registryNumber root
  | addRegistry _ | fill _ _ | encode _ _ | isCached _ _ =>
    rw [compiled?, Option.toList_none, List.append_nil]
    exact tallies

theorem Tallies.foldl_perform {spellings : List String} (operations : List Operation)
    (tallies : Tallies workspace number spellings) :
    Tallies (operations.foldl (Workspace.perform atlas) workspace) number
      (spellings ++ compiledDuring atlas number workspace operations) := by
  induction operations generalizing workspace spellings with
  | nil => simpa [compiledDuring] using tallies
  | cons operation rest inductionHypothesis =>
    rw [compiledDuring, ← List.append_assoc]
    exact inductionHypothesis (tallies.perform operation)

theorem tallies_after (atlas : Atlas ι) (operations : List Operation)
    (stored : (after atlas operations).compilers[number]? = some (registryNumber, compiler)) :
    compiler.Tallies (compiledDuring atlas number {} operations) := by
  have start : Tallies ({} : Workspace ι) number [] := rfl
  have tallied : Tallies (after atlas operations) number
      ([] ++ compiledDuring atlas number {} operations) := start.foldl_perform operations
  rw [Tallies, stored] at tallied
  exact tallied

/-- A new compiler of the same root, on the same registry, answers the same. -/
theorem Sound.result_eq_of_fresh (sound : Sound atlas workspace)
    (stored : workspace.compilers[number]? = some (registryNumber, compiler))
    {fresh : Done ι Nat} (made : workspace.addCompiler registryNumber compiler.root = fresh) :
    (∀ identifier, (workspace.shape number identifier).result =
      (fresh.workspace.shape fresh.result identifier).result) ∧
      ∀ label, (workspace.build number label).result =
        (fresh.workspace.build fresh.result label).result := by
  subst made
  have new : (workspace.addCompiler registryNumber compiler.root).workspace.compilers[
      (workspace.addCompiler registryNumber compiler.root).result]? =
        some (registryNumber, { root := compiler.root }) :=
    List.getElem?_concat_length
  have kept := sound.compilers registryNumber compiler (List.mem_of_getElem? stored)
  have empty := Compiler.sound_empty compiler.root (workspace.registry registryNumber)
  constructor
  · intro identifier
    rw [shape, shape, result_withCompiler _ stored, result_withCompiler _ new]
    exact kept.result_shape_eq empty rfl identifier
  · intro label
    rw [build, build, result_withCompiler _ stored, result_withCompiler _ new]
    exact kept.result_build_eq empty rfl label

end Workspace

open Workspace

/-- What shows of a history. Once an attempt was made to fill a registry, the registry stays
as it is, whatever is done later, and answers as its outcome says. A compiler gives the same
shapes, consumers and errors as one that is made now. Its count is the number of shapes
that it keeps, which is the number of spellings it has given shapes for; those are the
spellings that it calls cached. What it refuses leaves everything as it was. -/
theorem history_shows_outcomes_and_counts (atlas : Atlas ι) (operations : List Operation) :
    (∀ number registry root, (after atlas operations).registries[number]? = some registry →
      ∃ outcome,
        (registry.outcome = none → outcome = Tables.ofAtlas registry.policy atlas root) ∧
        ∀ later workspace, after atlas (operations ++ .fill number root :: later) = workspace →
          workspace.registry number = registry.filled atlas root ∧
            Decided atlas workspace number outcome) ∧
      (∀ number registryNumber compiler workspace,
        after atlas operations = workspace →
        workspace.compilers[number]? = some (registryNumber, compiler) →
          (∀ fresh, workspace.addCompiler registryNumber compiler.root = fresh →
            (∀ identifier, (workspace.shape number identifier).result =
              (fresh.workspace.shape fresh.result identifier).result) ∧
              ∀ label, (workspace.build number label).result =
                (fresh.workspace.build fresh.result label).result) ∧
          compiler.compilations = compiler.shapes.size ∧
          compiler.shapes.size = (compiledDuring atlas number {} operations).toFinset.card ∧
          (∀ identifier, compiler.isCached identifier = true ↔
            Identifier.canonical identifier ∈ compiledDuring atlas number {} operations) ∧
          (∀ identifier error, (workspace.shape number identifier).result = .error error →
            (workspace.shape number identifier).workspace = workspace) ∧
          ∀ label error, (workspace.build number label).result = .error error →
            (workspace.build number label).workspace = workspace) := by
  constructor
  · intro number registry root stored
    obtain ⟨outcome, settled⟩ := registry.exists_outcome_filled atlas root
    refine ⟨outcome, ?_, ?_⟩
    · intro unfilled
      simpa [Registry.filled, unfilled, eq_comm] using settled
    rintro later workspace rfl
    have same := registry_of_stored (registries_after_fill stored root later)
    refine ⟨same, (sound_after atlas _).decided ?_⟩
    rw [same, settled]
  · rintro number registryNumber compiler workspace rfl stored
    have tallies := tallies_after atlas operations stored
    have sound := sound_after atlas operations
    exact ⟨fun _ made => sound.result_eq_of_fresh stored made, tallies.count,
      tallies.size_eq, tallies.isCached_iff, fun _ _ => workspace_shape_of_error,
      fun _ _ => workspace_build_of_error⟩

open Sample.Gallery

theorem ring_history_shows_outcome_and_count :
    (after halls ringHistory).registries[0]? = some ringRegistry ∧
      (∀ later, ((after halls (ringHistory ++ .fill 0 ringHall :: later)).fill halls 0
        (Room.key 0 "gallery" .otherRoot)).result =
          .error (.rootMismatch "gallery::OtherRoot" "gallery::Ring")) ∧
      (after halls ringHistory).compilers[0]? = some (0, ringCompiler) ∧
      ringCompiler.compilations = ringCompiler.shapes.size := by
  have storedRegistry : (after halls ringHistory).registries[0]? = some ringRegistry := rfl
  have storedCompiler : (after halls ringHistory).compilers[0]? = some (0, ringCompiler) := rfl
  obtain ⟨registries, compilers⟩ := history_shows_outcomes_and_counts halls ringHistory
  refine ⟨storedRegistry, ?_, storedCompiler, ?_⟩
  · intro later
    obtain ⟨outcome, -, decided⟩ := registries 0 ringRegistry ringHall storedRegistry
    obtain ⟨same, decided⟩ := decided later _ rfl
    have settled := decided.outcome_eq
    rw [same, Registry.filled_of_outcome outcome_ringRegistry, outcome_ringRegistry] at settled
    cases settled
    exact decided.mismatched rfl (by decide)
  · exact (compilers 0 0 ringCompiler _ rfl storedCompiler).2.1

end Waymark
