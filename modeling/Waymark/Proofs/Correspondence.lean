import Mathlib.Data.Set.Function
import Waymark.Proofs.RoundTrip

/-!
# Identifiers and chains of members

Paths with labels have one identifier just when they go through the same members. If no
section declares a name twice, whatever an identifier compiles to is a path with that
identifier, so that identifiers in canonical spelling and chains of members correspond.
-/

namespace Waymark

variable {ι : Type}

/-! ## One identifier, one chain of members -/

namespace Tables

variable {tables : Tables ι}

/-- Members tell held accessors apart. -/
theorem eq_of_map_member_eq {left right : List (Accessor ι)}
    (heldLeft : ∀ accessor ∈ left, Holds tables accessor)
    (heldRight : ∀ accessor ∈ right, Holds tables accessor)
    (same : left.map Accessor.member = right.map Accessor.member) : left = right := by
  have foundLeft : tables.accessors? (left.map Accessor.member) = .ok left :=
    accessors?_eq_ok_iff.2 ⟨rfl, heldLeft⟩
  have foundRight : tables.accessors? (left.map Accessor.member) = .ok right :=
    accessors?_eq_ok_iff.2 ⟨same, heldRight⟩
  rw [foundLeft, Except.ok.injEq] at foundRight
  exact foundRight

/-- Paths of one identifier are admitted by one shape. -/
theorem Coherent.exists_common_shape (coherent : Coherent tables) {left right : Path}
    {leftLabel rightLabel : Label} (encodedLeft : tables.encode left = .label leftLabel)
    (encodedRight : tables.encode right = .label rightLabel)
    (same : leftLabel.identifier = rightLabel.identifier) :
    ∃ shape : Shape ι, shape.Admits left ∧ shape.Admits right := by
  obtain ⟨shape, compiled, admits⟩ := coherent.exists_shape_of_encode encodedLeft
  obtain ⟨other, otherCompiled, otherAdmits⟩ := coherent.exists_shape_of_encode encodedRight
  rw [← same, compiled, Except.ok.injEq] at otherCompiled
  rw [← otherCompiled] at otherAdmits
  exact ⟨shape, admits, otherAdmits⟩

/-- Both ways the identifier and the members of a labelled path determine each other, the
first through compiling the identifier, the second through the tags of the members. -/
theorem Coherent.identifier_eq_iff (coherent : Coherent tables) {left right : Path}
    {leftLabel rightLabel : Label} (encodedLeft : tables.encode left = .label leftLabel)
    (encodedRight : tables.encode right = .label rightLabel) :
    leftLabel.identifier = rightLabel.identifier ↔ left.members = right.members := by
  constructor
  · intro same
    obtain ⟨shape, admitsLeft, admitsRight⟩ :=
      coherent.exists_common_shape encodedLeft encodedRight same
    rw [admitsLeft.members, admitsRight.members]
  · intro same
    obtain ⟨-, inner, last, _, members, held, -, -, rfl⟩ := encode_eq_label_iff.1 encodedLeft
    obtain ⟨-, otherInner, otherLast, _, otherMembers, otherHeld, -, -, rfl⟩ :=
      encode_eq_label_iff.1 encodedRight
    have sameChain : inner ++ [last] = otherInner ++ [otherLast] := by
      apply eq_of_map_member_eq held otherHeld
      rw [← members, ← otherMembers, same]
    dsimp only
    rw [sameChain]

end Tables

/-- An identifier is a stable key. Whatever the atlas and the policy, two paths that a
registry gives labels have one identifier just when they go through the same members, and
then both are reads or both are calls. -/
theorem identifier_eq_iff_members_eq
    (atlas : Atlas ι) (operations : List Operation) {registry : Registry ι}
    {left right : Path} {leftLabel rightLabel : Label}
    (made : registry ∈ (Workspace.after atlas operations).registries)
    (encodedLeft : registry.encode left = .label leftLabel)
    (encodedRight : registry.encode right = .label rightLabel) :
    (leftLabel.identifier = rightLabel.identifier ↔ left.members = right.members) ∧
      (left.members = right.members → left.isCall = right.isCall) := by
  have filledBy := (Workspace.sound_after atlas operations).registries registry made
  obtain ⟨tables, found⟩ := Registry.exists_tables_of_encode encodedLeft
  have coherent := filledBy.coherent found
  rw [Registry.encode_of_tables found] at encodedLeft encodedRight
  have sameKey := coherent.identifier_eq_iff encodedLeft encodedRight
  refine ⟨sameKey, ?_⟩
  intro sameMembers
  obtain ⟨shape, admitsLeft, admitsRight⟩ :=
    coherent.exists_common_shape encodedLeft encodedRight (sameKey.2 sameMembers)
  exact admitsLeft.takes.isCall_eq admitsRight.takes

namespace Sample.Gallery

/-- The greeting from within the ring that leaves a value out. -/
def greetAnyone : Path :=
  ((Cursor.start ringHall).enter "inner" ringHall).call "greet"
    [.captured "greeting" (.text "Hello"), .literal .null]

theorem encode_greetAnyone :
    ringRegistry.encode greetAnyone =
      .label ⟨"r_g", .ofList [("hi", .text "Hello"), ("times", .null)]⟩ := by
  rw [Registry.encode, Registry.tables, outcome_ringRegistry]
  rfl

end Sample.Gallery

open Sample.Gallery

theorem identifier_eq_iff_members_eq_greetings :
    ringRegistry ∈ (Workspace.after halls ringHistory).registries ∧
      ∃ leftLabel rightLabel,
        ringRegistry.encode greetTwice = .label leftLabel ∧
        ringRegistry.encode greetAnyone = .label rightLabel ∧
        (leftLabel.identifier = rightLabel.identifier ↔
          greetTwice.members = greetAnyone.members) ∧
        (greetTwice.members = greetAnyone.members →
          greetTwice.isCall = greetAnyone.isCall) :=
  ⟨ringRegistry_mem, _, _, encode_greetTwice, encode_greetAnyone,
    identifier_eq_iff_members_eq halls ringHistory ringRegistry_mem encode_greetTwice
      encode_greetAnyone⟩

/-! ## Paths of shapes -/

/-- Every shape admits a path: absent values fit all parameters. -/
theorem Shape.exists_admits (shape : Shape ι) : ∃ path, shape.Admits path := by
  obtain ⟨identifier, root, steps, leaf⟩ := shape
  cases leaf with
  | read member read =>
    exact ⟨.read ⟨root, steps.map Step.member ++ [member]⟩, rfl, rfl, rfl⟩
  | invoke member extracts invoke =>
    refine ⟨.call ⟨root, steps.map Step.member⟩ member
      (extracts.map fun _ => .literal .null), rfl, rfl, rfl, ?_⟩
    rw [Path.arguments, List.forall₂_map_left_iff, List.forall₂_same]
    intro extract _
    exact ⟨.null, rfl, .inl rfl⟩

namespace Tables

variable {tables : Tables ι}

/-- A path that the shape of an identifier admits has a label, and its identifier is the
canonical spelling. -/
theorem Writable.exists_label_of_admits (writable : Writable tables)
    (coherent : Coherent tables) {identifier : String} {shape : Shape ι} {path : Path}
    (compiled : tables.compile (Identifier.canonical identifier) = .ok shape)
    (admits : shape.Admits path) :
    ∃ label, tables.encode path = .label label ∧
      label.identifier = Identifier.canonical identifier := by
  obtain ⟨inner, last, leaf, leads, spelled, named, isLeaf, rfl⟩ :=
    (compile_eq_ok_iff coherent).1 compiled
  have held : ∀ accessor ∈ inner ++ [last], Holds tables accessor :=
    fun accessor listed => writable.holds_of_names (named accessor listed)
  have members : path.members = (inner ++ [last]).map Accessor.member :=
    admits.members.trans (leads.members_shape isLeaf _)
  obtain ⟨parameters, bound⟩ := (Encoding.exists_parameters?_iff isLeaf).2 admits.takes
  refine ⟨⟨_, parameters⟩, encode_eq_label_iff.2
    ⟨admits.root.symm, inner, last, parameters, members, held, leads, bound, rfl⟩, ?_⟩
  dsimp only
  rw [← spelled, Identifier.tags_canonical, Identifier.canonical_eq_ofTags]

/-- The paths that the shape of an identifier admits are the paths with that identifier. -/
theorem Writable.admits_iff (writable : Writable tables) (coherent : Coherent tables)
    {identifier : String} {shape : Shape ι}
    (compiled : tables.compile (Identifier.canonical identifier) = .ok shape) (path : Path) :
    shape.Admits path ↔
      ∃ label, tables.encode path = .label label ∧
        label.identifier = Identifier.canonical identifier := by
  constructor
  · exact writable.exists_label_of_admits coherent compiled
  · intro labelled
    obtain ⟨label, encoded, spelled⟩ := labelled
    obtain ⟨other, otherCompiled, admits⟩ := coherent.exists_shape_of_encode encoded
    rw [spelled, compiled, Except.ok.injEq] at otherCompiled
    rw [otherCompiled]
    exact admits

end Tables

/-! ## Identifiers and chains correspond -/

/-- The chains of members that paths with labels go through. -/
def Registry.chains (registry : Registry ι) : Set (List Member) :=
  {members | ∃ path label, registry.encode path = .label label ∧ path.members = members}

namespace Compiler

/-- The identifiers in canonical spelling that have a shape. -/
def spellings (compiler : Compiler ι) (registry : Registry ι) : Set String :=
  {identifier | Identifier.canonical identifier = identifier ∧
    ∃ shape, (compiler.shape registry identifier).result = .ok shape}

/-- The members that the shape of an identifier goes through. -/
def chain (compiler : Compiler ι) (registry : Registry ι) (identifier : String) : List Member :=
  match (compiler.shape registry identifier).result with
  | .ok shape => shape.members
  | .error _ => []

variable {compiler : Compiler ι} {registry : Registry ι} {tables : Tables ι}

theorem chain_eq_of_shape {identifier : String} {shape : Shape ι}
    (shaped : (compiler.shape registry identifier).result = .ok shape) :
    compiler.chain registry identifier = shape.members := by
  rw [chain, shaped]

section

variable (sound : compiler.Sound registry) (found : registry.tables = .ok tables)
  (sameRoot : tables.root = compiler.root) (coherent : tables.Coherent)
  (writable : tables.Writable)

include sound found sameRoot coherent writable

theorem admits_iff {identifier : String} {shape : Shape ι}
    (shaped : (compiler.shape registry identifier).result = .ok shape) (path : Path) :
    shape.Admits path ↔
      ∃ label, registry.encode path = .label label ∧
        label.identifier = Identifier.canonical identifier := by
  have compiled := (sound.shape_eq_ok_iff found sameRoot).1 shaped
  rw [Registry.encode_of_tables found]
  exact writable.admits_iff coherent compiled path

theorem mapsTo_chain :
    Set.MapsTo (compiler.chain registry) (compiler.spellings registry) registry.chains := by
  intro identifier spelled
  obtain ⟨-, shape, shaped⟩ := spelled
  obtain ⟨path, admits⟩ := shape.exists_admits
  obtain ⟨label, encoded, -⟩ :=
    (admits_iff sound found sameRoot coherent writable shaped path).1 admits
  rw [chain_eq_of_shape shaped]
  exact ⟨path, label, encoded, admits.members⟩

/-- Two identifiers of one chain are the identifiers of two paths along it. -/
theorem injOn_chain : Set.InjOn (compiler.chain registry) (compiler.spellings registry) := by
  intro left leftSpelling right rightSpelling same
  obtain ⟨spelledLeft, leftShape, shapedLeft⟩ := leftSpelling
  obtain ⟨spelledRight, rightShape, shapedRight⟩ := rightSpelling
  rw [chain_eq_of_shape shapedLeft, chain_eq_of_shape shapedRight] at same
  obtain ⟨leftPath, admitsLeft⟩ := leftShape.exists_admits
  obtain ⟨rightPath, admitsRight⟩ := rightShape.exists_admits
  obtain ⟨leftLabel, encodedLeft, identifierLeft⟩ :=
    (admits_iff sound found sameRoot coherent writable shapedLeft leftPath).1 admitsLeft
  obtain ⟨rightLabel, encodedRight, identifierRight⟩ :=
    (admits_iff sound found sameRoot coherent writable shapedRight rightPath).1 admitsRight
  rw [Registry.encode_of_tables found] at encodedLeft encodedRight
  have sameMembers : leftPath.members = rightPath.members := by
    rw [admitsLeft.members, admitsRight.members, same]
  have sameIdentifier := (coherent.identifier_eq_iff encodedLeft encodedRight).2 sameMembers
  rw [← spelledLeft, ← spelledRight, ← identifierLeft, ← identifierRight, sameIdentifier]

omit writable in
theorem surjOn_chain :
    Set.SurjOn (compiler.chain registry) (compiler.spellings registry) registry.chains := by
  intro members labelled
  obtain ⟨path, label, encoded, rfl⟩ := labelled
  rw [Registry.encode_of_tables found] at encoded
  have spelled := (coherent.canonical_identifier encoded).1
  obtain ⟨shape, -, shaped, admits⟩ :=
    sound.exists_shape_of_encode found sameRoot coherent encoded
  refine ⟨label.identifier, ⟨spelled, shape, shaped⟩, ?_⟩
  rw [chain_eq_of_shape shaped, admits.members]

end

end Compiler

/-- What an identifier compiles to is a path with that identifier. If no section
declares a name twice, the shape of an identifier, however it is spelled and whatever the
compiler has kept, admits just the paths whose label has the canonical spelling. So the
identifiers in canonical spelling and the chains of members of labelled paths correspond
one to one. -/
theorem shape_admits_iff_encodes
    (atlas : Atlas ι) (operations : List Operation) {number : Nat}
    {compiler : Compiler ι} {registry : Registry ι}
    (uniqueNames : atlas.UniqueNames)
    (made : (Workspace.after atlas operations).compiler? number = some (compiler, registry))
    (rooted : registry.root? = some compiler.root) :
    (∀ identifier shape, (compiler.shape registry identifier).result = .ok shape →
      shape.identifier = Identifier.canonical identifier ∧ shape.root = compiler.root ∧
        ∀ path, shape.Admits path ↔
          ∃ label, registry.encode path = .label label ∧
            label.identifier = Identifier.canonical identifier) ∧
      Set.BijOn (compiler.chain registry) (compiler.spellings registry) registry.chains := by
  obtain ⟨sound, filledBy⟩ := (Workspace.sound_after atlas operations).compiler? made
  obtain ⟨tables, found, filled⟩ := filledBy.exists_tables rooted
  have sameRoot : tables.root = compiler.root := Tables.root_ofAtlas filled
  have coherent := filledBy.coherent found
  have writable := filledBy.writable uniqueNames found
  constructor
  · intro identifier shape shaped
    have compiled := (sound.shape_eq_ok_iff found sameRoot).1 shaped
    obtain ⟨inner, last, leaf, -, -, -, -, written⟩ :=
      (Tables.compile_eq_ok_iff coherent).1 compiled
    refine ⟨by rw [written], by rw [written, sameRoot], ?_⟩
    exact Compiler.admits_iff sound found sameRoot coherent writable shaped
  · exact ⟨Compiler.mapsTo_chain sound found sameRoot coherent writable,
      Compiler.injOn_chain sound found sameRoot coherent writable,
      Compiler.surjOn_chain sound found sameRoot coherent⟩

theorem shape_admits_iff_encodes_in_ring :
    halls.UniqueNames ∧
      (Workspace.after halls ringHistory).compiler? 0 = some (ringCompiler, ringRegistry) ∧
      ringRegistry.root? = some ringCompiler.root ∧
      (∀ identifier shape, (ringCompiler.shape ringRegistry identifier).result = .ok shape →
        shape.identifier = Identifier.canonical identifier ∧ shape.root = ringCompiler.root ∧
          ∀ path, shape.Admits path ↔
            ∃ label, ringRegistry.encode path = .label label ∧
              label.identifier = Identifier.canonical identifier) ∧
      Set.BijOn (ringCompiler.chain ringRegistry) (ringCompiler.spellings ringRegistry)
        ringRegistry.chains :=
  ⟨uniqueNames_halls, compiler?_ringHistory, rooted_ringCompiler,
    shape_admits_iff_encodes halls ringHistory uniqueNames_halls compiler?_ringHistory
      rooted_ringCompiler⟩

end Waymark
