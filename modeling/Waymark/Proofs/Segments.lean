import Waymark.Proofs.RoundTrip
import Waymark.Proofs.Transparency

/-!
# Where the segments of an identifier lead

An identifier compiles just when its tags spell a text or a call: each tag but the last
names a nested section on the section reached before, and the last one names the text or
the call. Otherwise the error is about the first tag that does not do so.
-/

namespace Waymark

variable {ι : Type}

/-! ## Spelled accessors and broken spellings -/

namespace Tables

/-- Tags that lead from a section to another: each names, on the section reached so far, a
nested section to go on from. -/
inductive Routes (tables : Tables ι) : SectionKey → List String → SectionKey → Prop
  | here (key : SectionKey) : Routes tables key [] key
  | onward {key target reached : SectionKey} {tag : String} {tags : List String}
      {accessor : Accessor ι} {navigate : ι → ι} :
      tables.resolve? key tag = some accessor →
      accessor.kind = .nested target navigate →
      Routes tables target tags reached →
      Routes tables key (tag :: tags) reached

/-- Whether tags spell an accessor from a section: all but the last lead on through nested
sections, and the last names the accessor, which is a text or a call. -/
def Spells (tables : Tables ι) (start : SectionKey) (tags : List String)
    (accessor : Accessor ι) : Prop :=
  ∃ before last reached, tags = before ++ [last] ∧ tables.Routes start before reached ∧
    tables.resolve? reached last = some accessor ∧ accessor.kind.target? = none

/-- Why a tag cannot stand where it does on the section reached, with `after` the tags
behind it: it names nothing there, or something of which only the end of an identifier can
be made, or something of which its end cannot. -/
inductive Misplaces (tables : Tables ι) (identifier : String) (reached : SectionKey)
    (tag : String) : (after : List String) → LabelError → Prop
  | unknown (after : List String) :
      tables.resolve? reached tag = none →
      Misplaces tables identifier reached tag after
        (.unknownSegment identifier tag reached.name)
  | text {accessor : Accessor ι} {read : ι → String} (next : String) (after : List String) :
      tables.resolve? reached tag = some accessor →
      accessor.kind = .text read →
      Misplaces tables identifier reached tag (next :: after)
        (.wrongAccessorKind identifier tag "a section")
  | call {accessor : Accessor ι} {parameters : List Parameter}
      {invoke : ι → List Value → String} (next : String) (after : List String) :
      tables.resolve? reached tag = some accessor →
      accessor.kind = .call parameters invoke →
      Misplaces tables identifier reached tag (next :: after)
        (.wrongAccessorKind identifier tag "a value accessor")
  | nested {accessor : Accessor ι} {target : SectionKey} {navigate : ι → ι} :
      tables.resolve? reached tag = some accessor →
      accessor.kind = .nested target navigate →
      Misplaces tables identifier reached tag []
        (.wrongAccessorKind identifier tag "a text value or call")

/-- Whether an error is about the first tag that cannot stand where it does: those before
it lead to the section on which it fails. -/
def Breaks (tables : Tables ι) (identifier : String) (start : SectionKey) (tags : List String)
    (error : LabelError) : Prop :=
  ∃ before tag after reached, tags = before ++ tag :: after ∧
    tables.Routes start before reached ∧ tables.Misplaces identifier reached tag after error

variable {tables : Tables ι} {identifier : String} {start reached : SectionKey} {tag : String}
  {before after : List String} {error : LabelError}

/-! ## Errors of compiling -/

theorem segment?_eq_error (unresolved : tables.resolve? reached tag = none) :
    tables.segment? identifier reached tag =
      .error (.unknownSegment identifier tag reached.name) := by
  rw [segment?, unresolved]

theorem descend_nil_eq_error_iff :
    tables.descend identifier reached tag [] = .error error ↔
      tables.Misplaces identifier reached tag [] error := by
  rw [descend]
  constructor
  · intro failed
    cases resolved : tables.resolve? reached tag with
    | none =>
      rw [segment?_eq_error resolved] at failed
      cases failed
      exact .unknown [] resolved
    | some accessor =>
      rw [segment?_eq_ok_iff.2 resolved] at failed
      cases kind : accessor.kind with
      | nested target navigate =>
        simp only [Accessor.leaf?, kind] at failed
        cases failed
        exact .nested resolved kind
      | text read => simp [Accessor.leaf?, kind] at failed
      | call parameters invoke => simp [Accessor.leaf?, kind] at failed
  · intro misplaces
    cases misplaces with
    | unknown _ unresolved => rw [segment?_eq_error unresolved]
    | nested resolved kind =>
      rw [segment?_eq_ok_iff.2 resolved]
      simp only [Accessor.leaf?, kind]

/-- With tags behind it descending fails at a tag, or that leads on and it fails behind. -/
theorem descend_cons_eq_error_iff {next : String} {rest : List String} :
    tables.descend identifier reached tag (next :: rest) = .error error ↔
      tables.Misplaces identifier reached tag (next :: rest) error ∨
        ∃ accessor target navigate, tables.resolve? reached tag = some accessor ∧
          accessor.kind = .nested target navigate ∧
          tables.descend identifier target next rest = .error error := by
  rw [descend]
  constructor
  · intro failed
    cases resolved : tables.resolve? reached tag with
    | none =>
      rw [segment?_eq_error resolved] at failed
      cases failed
      exact .inl (.unknown _ resolved)
    | some accessor =>
      rw [segment?_eq_ok_iff.2 resolved] at failed
      cases kind : accessor.kind with
      | nested target navigate =>
        refine .inr ⟨accessor, target, navigate, rfl, kind, ?_⟩
        cases later : tables.descend identifier target next rest with
        | error other => simpa only [kind, later] using failed
        | ok found => simp [kind, later] at failed
      | text read =>
        simp only [kind] at failed
        cases failed
        exact .inl (.text next rest resolved kind)
      | call parameters invoke =>
        simp only [kind] at failed
        cases failed
        exact .inl (.call next rest resolved kind)
  · rintro (misplaces | ⟨accessor, target, navigate, resolved, kind, failed⟩)
    · cases misplaces with
      | unknown _ unresolved => rw [segment?_eq_error unresolved]
      | text next rest resolved kind | call next rest resolved kind =>
        rw [segment?_eq_ok_iff.2 resolved]
        simp only [kind]
    · rw [segment?_eq_ok_iff.2 resolved]
      simp only [kind, failed]

theorem descend_of_misplaces (misplaces : tables.Misplaces identifier reached tag after error) :
    tables.descend identifier reached tag after = .error error := by
  cases after with
  | nil => exact descend_nil_eq_error_iff.2 misplaces
  | cons next rest => exact descend_cons_eq_error_iff.2 (.inl misplaces)

/-- An error on the section that tags lead to is the error of the whole. -/
theorem descend_of_routes (route : tables.Routes start before reached)
    (failed : tables.descend identifier reached tag after = .error error) :
    ∃ first rest, before ++ tag :: after = first :: rest ∧
      tables.descend identifier start first rest = .error error := by
  induction route with
  | here key => exact ⟨tag, after, rfl, failed⟩
  | @onward key _ _ step tags _ _ resolved nested _ inductionHypothesis =>
    obtain ⟨first, rest, shape, failedLater⟩ := inductionHypothesis failed
    refine ⟨step, tags ++ tag :: after, rfl, ?_⟩
    rw [shape]
    exact descend_cons_eq_error_iff.2 (.inr ⟨_, _, _, resolved, nested, failedLater⟩)

theorem breaks_of_descend (failed : tables.descend identifier start tag after = .error error) :
    tables.Breaks identifier start (tag :: after) error := by
  induction after generalizing start tag with
  | nil => exact ⟨[], tag, [], start, rfl, .here start, descend_nil_eq_error_iff.1 failed⟩
  | cons next rest inductionHypothesis =>
    rcases descend_cons_eq_error_iff.1 failed with
      misplaces | ⟨accessor, target, navigate, resolved, nested, failedLater⟩
    · exact ⟨[], tag, next :: rest, start, rfl, .here start, misplaces⟩
    · -- The tag leads on, so what breaks is behind it.
      obtain ⟨before, broken, after, reached, shape, route, misplaces⟩ :=
        inductionHypothesis failedLater
      exact ⟨tag :: before, broken, after, reached, by rw [shape, List.cons_append],
        .onward resolved nested route, misplaces⟩

/-- Compiling tags fails with the error of the first tag that cannot stand where it does. -/
theorem compile_eq_error_iff (spelled : Identifier.tags identifier ≠ []) :
    tables.compile identifier = .error error ↔
      tables.Breaks identifier tables.root (Identifier.tags identifier) error := by
  rw [compile]
  obtain ⟨first, rest, tags⟩ := List.exists_cons_of_ne_nil spelled
  rw [tags]
  dsimp only
  constructor
  · intro failed
    cases descended : tables.descend identifier tables.root first rest with
    | error other =>
      rw [descended] at failed
      cases failed
      exact breaks_of_descend descended
    | ok found =>
      rw [descended] at failed
      cases failed
  · rintro ⟨before, tag, after, reached, shape, route, misplaces⟩
    obtain ⟨head, tail, split, failed⟩ := descend_of_routes route (descend_of_misplaces misplaces)
    rw [← shape, List.cons.injEq] at split
    obtain ⟨rfl, rfl⟩ := split
    rw [failed]

/-! ## Shapes of spelled accessors -/

theorem Coherent.exists_leads_of_routes (coherent : Coherent tables)
    (route : tables.Routes start before reached) :
    ∃ inner, Leads start inner reached ∧ before = inner.map Accessor.tag ∧
      ∀ accessor ∈ inner, Names tables accessor := by
  induction route with
  | here key => exact ⟨[], .here key, rfl, by simp⟩
  | @onward _ _ _ _ _ accessor _ resolved nested _ inductionHypothesis =>
    obtain ⟨inner, leads, rfl, named⟩ := inductionHypothesis
    refine ⟨accessor :: inner, .through (coherent.owner_eq resolved) nested leads, ?_,
      List.forall_mem_cons.2 ⟨coherent.names_of_resolve? resolved, named⟩⟩
    rw [List.map_cons, coherent.tag_eq resolved]

theorem routes_of_leads {inner : List (Accessor ι)} (leads : Leads start inner reached)
    (named : ∀ accessor ∈ inner, Names tables accessor) :
    tables.Routes start (inner.map Accessor.tag) reached := by
  induction leads with
  | here key => exact .here key
  | through owned nested _ inductionHypothesis =>
    obtain ⟨namedFirst, namedRest⟩ := List.forall_mem_cons.1 named
    rw [Names, owned] at namedFirst
    exact .onward namedFirst nested (inductionHypothesis namedRest)

end Tables

theorem Accessor.exists_leaf?_iff {accessor : Accessor ι} :
    (∃ leaf, accessor.leaf? = some leaf) ↔ accessor.kind.target? = none := by
  rw [Accessor.leaf?]
  cases accessor.kind <;> simp [AccessorKind.target?]

theorem Accessor.extracts_of_leaf? {accessor : Accessor ι} {leaf : Leaf ι}
    (isLeaf : accessor.leaf? = some leaf) :
    leaf.extracts = accessor.parameters.map fun parameter => ⟨parameter.tag, parameter.kind⟩ := by
  unfold Accessor.leaf? at isLeaf
  rw [Accessor.parameters]
  split at isLeaf
  · cases isLeaf
  · next read kind =>
    cases isLeaf
    rw [kind]
    rfl
  · next parameters invoke kind =>
    cases isLeaf
    rw [kind]
    rfl

theorem Accessor.map_tag_extracts {accessor : Accessor ι} {leaf : Leaf ι}
    (isLeaf : accessor.leaf? = some leaf) :
    leaf.extracts.map Extract.tag = accessor.parameters.map Parameter.tag := by
  rw [Accessor.extracts_of_leaf? isLeaf, List.map_map]
  rfl

/-- Whether a shape is that of an identifier which spells an accessor: it has the canonical
spelling, one step for every tag but the last, and the parameters of the accessor. -/
structure Shape.SpelledFor (shape : Shape ι) (identifier : String) (accessor : Accessor ι) :
    Prop where
  identifier_eq : shape.identifier = Identifier.canonical identifier
  depth_eq : shape.depth + 1 = (Identifier.tags identifier).length
  parameterTags_eq : shape.parameterTags = accessor.parameters.map Parameter.tag

namespace Tables

variable {tables : Tables ι} {identifier : String}

/-- What an identifier spells has a shape. -/
theorem Coherent.exists_shape_of_spells (coherent : Coherent tables) {accessor : Accessor ι}
    (spells : tables.Spells tables.root (Identifier.tags identifier) accessor) :
    ∃ shape, tables.compile (Identifier.canonical identifier) = .ok shape ∧
      shape.SpelledFor identifier accessor := by
  obtain ⟨before, last, reached, tags, route, resolved, ends⟩ := spells
  obtain ⟨inner, leads, rfl, named⟩ := coherent.exists_leads_of_routes route
  obtain ⟨leaf, isLeaf⟩ := Accessor.exists_leaf?_iff.2 ends
  have spelled : Identifier.tags (Identifier.canonical identifier) =
      (inner ++ [accessor]).map Accessor.tag := by
    rw [Identifier.tags_canonical, tags, ← coherent.tag_eq resolved]
    simp
  have namedAll : ∀ other ∈ inner ++ [accessor], Names tables other := by
    intro other member
    rcases List.mem_append.1 member with member | member
    · exact named other member
    · rw [List.mem_singleton.1 member]
      exact coherent.names_of_resolve? resolved
  rw [← coherent.owner_eq resolved] at leads
  refine ⟨_, (compile_eq_ok_iff coherent).2
    ⟨inner, accessor, leaf, leads, spelled, namedAll, isLeaf, rfl⟩, rfl, ?_, ?_⟩
  · have steps := congrArg List.length leads.map_member_steps
    rw [List.length_map, List.length_map] at steps
    rw [Shape.depth, steps, tags, List.length_append, List.length_map, List.length_singleton]
  · exact Accessor.map_tag_extracts isLeaf

/-- An identifier that has a shape spells an accessor, and the shape is that of it. -/
theorem Coherent.exists_spells_of_shape (coherent : Coherent tables) {shape : Shape ι}
    (compiled : tables.compile (Identifier.canonical identifier) = .ok shape) :
    ∃ accessor, tables.Spells tables.root (Identifier.tags identifier) accessor ∧
      shape.SpelledFor identifier accessor := by
  obtain ⟨inner, last, leaf, leads, spelled, named, isLeaf, -⟩ :=
    (compile_eq_ok_iff coherent).1 compiled
  rw [Identifier.tags_canonical, List.map_append, List.map_singleton] at spelled
  have namedInner : ∀ accessor ∈ inner, Names tables accessor :=
    fun accessor member => named accessor (List.mem_append_left [last] member)
  have namedLast : Names tables last := named last (by simp)
  have spells : tables.Spells tables.root (Identifier.tags identifier) last :=
    ⟨inner.map Accessor.tag, last.tag, last.owner, spelled, routes_of_leads leads namedInner,
      namedLast, Accessor.exists_leaf?_iff.1 ⟨leaf, isLeaf⟩⟩
  obtain ⟨same, recompiled, spelledFor⟩ := coherent.exists_shape_of_spells spells
  rw [compiled, Except.ok.injEq] at recompiled
  subst recompiled
  exact ⟨last, spells, spelledFor⟩

theorem compile_canonical_eq_error_iff {error : LabelError}
    (spelled : Identifier.tags identifier ≠ []) :
    tables.compile (Identifier.canonical identifier) = .error error ↔
      tables.Breaks (Identifier.canonical identifier) tables.root (Identifier.tags identifier)
        error := by
  rw [← Identifier.tags_canonical identifier] at spelled ⊢
  rw [compile_eq_error_iff spelled, Identifier.tags_canonical]

end Tables

/-! ## What a compiler answers to an identifier -/

theorem Identifier.canonical_eq_empty_iff {identifier : String} :
    canonical identifier = "" ↔ tags identifier = [] := by
  constructor
  · intro empty
    rw [← tags_canonical, empty, tags_empty]
  · intro untagged
    rw [canonical_eq_ofTags, untagged, ofTags, List.foldl_nil]

namespace Registry

variable {registry : Registry ι} {atlas : Atlas ι} {root : SectionKey} {identifier : String}

theorem compile_of_unfilled (unfilled : registry.outcome = none) :
    registry.compile root identifier = .error .notInitialized := by
  rw [compile, tables, unfilled]

theorem compile_of_failed {error : LabelError} (failed : registry.outcome = some (.error error)) :
    registry.compile root identifier = .error error := by
  rw [compile, tables_of_outcome failed]

theorem compile_of_other_root {tables : Tables ι} (filled : registry.outcome = some (.ok tables))
    (different : tables.root ≠ root) :
    registry.compile root identifier = .error (.rootMismatch root.name tables.root.name) := by
  rw [compile, tables_of_outcome filled]
  exact if_neg different

/-- Only an identifier without tags is called invalid. -/
theorem FilledBy.compile_ne_invalidIdentifier (filledBy : registry.FilledBy atlas)
    (spelled : Identifier.tags identifier ≠ []) (named : String) :
    registry.compile root identifier ≠ .error (.invalidIdentifier named) := by
  intro refused
  cases outcome : registry.outcome with
  | none =>
    rw [compile_of_unfilled outcome] at refused
    cases refused
  | some result =>
    cases result with
    | error error =>
      obtain ⟨owner, tag, rfl⟩ := filledBy.exists_duplicateTag outcome
      rw [compile_of_failed outcome] at refused
      cases refused
    | ok tables =>
      by_cases sameRoot : tables.root = root
      · subst sameRoot
        rw [compile_of_tables (tables_of_outcome outcome)] at refused
        obtain ⟨_, _, _, _, _, _, misplaces⟩ := (Tables.compile_eq_error_iff spelled).1 refused
        cases misplaces
      · rw [compile_of_other_root outcome sameRoot] at refused
        cases refused

end Registry

namespace Compiler

variable {compiler : Compiler ι} {registry : Registry ι} {atlas : Atlas ι} {identifier : String}

theorem result_build_eq_ok_none_iff {label : Label} :
    (compiler.build registry label).result = .ok none ↔
      Text.isBlank label.identifier = true := by
  cases visible : Text.isBlank label.identifier with
  | true => simp [build_of_isBlank visible]
  | false =>
    rw [result_build_of_not_isBlank visible]
    cases (compiler.shape registry label.identifier).result <;> simp [Except.map]

/-- An identifier with tags gets what compiling it gives. -/
theorem Sound.result_shape_of_tags (sound : compiler.Sound registry)
    (spelled : Identifier.tags identifier ≠ []) :
    (compiler.shape registry identifier).result =
      registry.compile compiler.root (Identifier.canonical identifier) :=
  sound.shape_result fun empty => spelled (Identifier.canonical_eq_empty_iff.1 empty)

theorem Sound.result_shape_eq_invalidIdentifier_iff (sound : compiler.Sound registry)
    (filledBy : registry.FilledBy atlas) :
    (compiler.shape registry identifier).result = .error (.invalidIdentifier identifier) ↔
      Identifier.tags identifier = [] := by
  constructor
  · intro refused
    by_contra spelled
    rw [sound.result_shape_of_tags spelled] at refused
    rw [← Identifier.tags_canonical] at spelled
    exact filledBy.compile_ne_invalidIdentifier spelled identifier refused
  · intro untagged
    exact result_shape_of_canonical_eq_empty (Identifier.canonical_eq_empty_iff.2 untagged)

end Compiler

/-- How a compiler answers to an identifier, in any state that a history leaves it in. A
label has no consumer if its identifier is blank, and else what the shape of its identifier
gives. An identifier is invalid just when it has no tags. One with tags has the error of the
registry, if that has no tables or those of another root. Otherwise it has a shape just when
it spells a text or a call, and else the error of the first tag that breaks it. -/
theorem shapes_are_spelled_accessors
    (atlas : Atlas ι) (operations : List Operation) {number : Nat}
    {compiler : Compiler ι} {registry : Registry ι}
    (made : (Workspace.after atlas operations).compiler? number = some (compiler, registry)) :
    (∀ label, (compiler.build registry label).result = .ok none ↔
      Text.isBlank label.identifier = true) ∧
    (∀ label, Text.isBlank label.identifier = false →
      (compiler.build registry label).result =
        (compiler.shape registry label.identifier).result.map
          fun shape => some ⟨shape, label.parameters⟩) ∧
    (∀ identifier, (compiler.shape registry identifier).result =
        .error (.invalidIdentifier identifier) ↔ Identifier.tags identifier = []) ∧
    ∀ identifier result, Identifier.tags identifier ≠ [] →
      (compiler.shape registry identifier).result = result →
        (registry.outcome = none → result = .error .notInitialized) ∧
        (∀ error, registry.outcome = some (.error error) → result = .error error) ∧
        ∀ tables, registry.outcome = some (.ok tables) →
          (tables.root ≠ compiler.root →
            result = .error (.rootMismatch compiler.root.name tables.root.name)) ∧
          (tables.root = compiler.root →
            (∀ shape, result = .ok shape →
              ∃ accessor, tables.Spells tables.root (Identifier.tags identifier) accessor ∧
                shape.SpelledFor identifier accessor) ∧
            (∀ accessor, tables.Spells tables.root (Identifier.tags identifier) accessor →
              ∃ shape, result = .ok shape ∧ shape.SpelledFor identifier accessor) ∧
            ∀ error, result = .error error ↔
              tables.Breaks (Identifier.canonical identifier) tables.root
                (Identifier.tags identifier) error) := by
  obtain ⟨sound, filledBy⟩ := (Workspace.sound_after atlas operations).compiler? made
  refine ⟨fun _ => Compiler.result_build_eq_ok_none_iff,
    fun _ visible => Compiler.result_build_of_not_isBlank visible,
    fun _ => sound.result_shape_eq_invalidIdentifier_iff filledBy, ?_⟩
  rintro identifier result spelled rfl
  rw [sound.result_shape_of_tags spelled]
  refine ⟨Registry.compile_of_unfilled, fun _ => Registry.compile_of_failed, ?_⟩
  intro tables filled
  refine ⟨Registry.compile_of_other_root filled, ?_⟩
  intro sameRoot
  have found := Registry.tables_of_outcome filled
  have coherent := filledBy.coherent found
  rw [← sameRoot, Registry.compile_of_tables found]
  exact ⟨fun _ => coherent.exists_spells_of_shape, fun _ => coherent.exists_shape_of_spells,
    fun _ => Tables.compile_canonical_eq_error_iff spelled⟩

namespace Sample.Gallery

/-- In the tables of the ring the tag of its inner section leads back to the ring, and the
tag that the colliding room uses names nothing. -/
theorem exists_tables_ringRegistry :
    ∃ tables, ringRegistry.outcome = some (.ok tables) ∧ tables.root = ringHall ∧
      tables.resolve? ringHall "r" = some ⟨⟨ringHall, "inner"⟩, "r", .nested ringHall id⟩ ∧
      tables.resolve? ringHall "x" = none :=
  ⟨_, outcome_ringRegistry, rfl, rfl, rfl⟩

end Sample.Gallery

open Sample.Gallery

theorem shape_unknown_in_ring :
    (Workspace.after halls ringHistory).compiler? 0 = some (ringCompiler, ringRegistry) ∧
      (ringCompiler.shape ringRegistry "_r__x").result =
        .error (.unknownSegment "r_x" "x" "gallery::Ring") := by
  refine ⟨compiler?_ringHistory, ?_⟩
  obtain ⟨-, -, -, tagged⟩ :=
    shapes_are_spelled_accessors halls ringHistory compiler?_ringHistory
  obtain ⟨tables, filled, root, inner, unknown⟩ := exists_tables_ringRegistry
  have tags : Identifier.tags "_r__x" = ["r", "x"] := by decide
  have canonical : Identifier.canonical "_r__x" = "r_x" := by decide
  have sameRoot : tables.root = ringCompiler.root := by rw [root, ringCompiler, Compiler.root_shape]
  have spelled : Identifier.tags "_r__x" ≠ [] := by rw [tags]; simp
  obtain ⟨-, -, settled⟩ := tagged "_r__x" _ spelled rfl
  obtain ⟨-, -, broken⟩ := (settled tables filled).2 sameRoot
  rw [broken, canonical, tags, root]
  exact ⟨["r"], "x", [], ringHall, rfl, .onward inner rfl (.here ringHall), .unknown [] unknown⟩

end Waymark
