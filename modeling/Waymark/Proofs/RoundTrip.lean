import Mathlib.Data.List.Forall2
import Waymark.Proofs.Following
import Waymark.Sample.Gallery

/-!
# From a path through its label to its text

A label that a path has builds to a consumer that goes along the members of the path and
gives the text that following the path gives.
-/

namespace Waymark

variable {ι : Type}

/-! ## Paths that a shape admits -/

/-- Whether a path ends in a call. -/
def Path.isCall : Path → Bool
  | .read _ => false
  | .call _ _ _ => true

/-- Whether a path ends as a leaf wants it: a text is read, a call is given one argument
per parameter, and each of them fits. -/
def Leaf.Takes (leaf : Leaf ι) (path : Path) : Prop :=
  match leaf with
  | .read _ _ => path.isCall = false
  | .invoke _ extracts _ =>
    path.isCall = true ∧
      List.Forall₂ (fun argument extract => argument.Fits extract.kind) path.arguments extracts

/-- Whether a path goes from the root of a shape through its members and ends as its leaf
wants it. -/
structure Shape.Admits (shape : Shape ι) (path : Path) : Prop where
  root : path.root = shape.root
  members : path.members = shape.members
  takes : shape.leaf.Takes path

theorem Leaf.Takes.isCall_eq {leaf : Leaf ι} {left right : Path}
    (takesLeft : leaf.Takes left) (takesRight : leaf.Takes right) :
    left.isCall = right.isCall := by
  cases leaf with
  | read member read => exact takesLeft.trans takesRight.symm
  | invoke member extracts invoke => exact takesLeft.1.trans takesRight.1.symm

/-- A leaf takes just the paths that have parameters at its accessor. -/
theorem Encoding.exists_parameters?_iff {identifier : String} {path : Path}
    {last : Accessor ι} {leaf : Leaf ι} (isLeaf : last.leaf? = some leaf) :
    (∃ parameters, Encoding.parameters? identifier path last = .ok parameters) ↔
      leaf.Takes path := by
  rw [Accessor.leaf?] at isLeaf
  cases kind : last.kind with
  | nested target navigate =>
    rw [kind] at isLeaf
    cases isLeaf
  | text read =>
    rw [kind] at isLeaf
    cases isLeaf
    cases path <;> simp [parameters?, kind, Leaf.Takes, Path.isCall]
  | call declared invoke =>
    rw [kind] at isLeaf
    cases isLeaf
    cases path with
    | read trail => simp [parameters?, kind, Leaf.Takes, Path.isCall]
    | call target member arguments =>
      simp only [parameters?, kind, Leaf.Takes, Path.isCall, Path.arguments, true_and]
      rw [List.forall₂_map_right_iff, List.forall₂_iff_zip]
      by_cases sameLength : declared.length = arguments.length
      · simp [sameLength, Argument.exists_bindAll_eq_ok_iff]
      · simp [sameLength, Ne.symm sameLength]

/-! ## Shapes of chains -/

theorem Leads.members_shape {root : SectionKey} {inner : List (Accessor ι)} {last : Accessor ι}
    {leaf : Leaf ι} (leads : Leads root inner last.owner) (isLeaf : last.leaf? = some leaf)
    (identifier : String) :
    (⟨identifier, root, inner.filterMap Accessor.step?, leaf⟩ : Shape ι).members =
      (inner ++ [last]).map Accessor.member := by
  rw [Shape.members, leads.map_member_steps, Accessor.member_of_leaf? isLeaf, List.map_append]
  rfl

namespace Tables

variable {tables : Tables ι} {path : Path} {label : Label}

theorem Coherent.forall_isValidTag (coherent : Coherent tables) {chain : List (Accessor ι)}
    (named : ∀ accessor ∈ chain, Names tables accessor) :
    ∀ tag ∈ chain.map Accessor.tag, isValidTag tag = true := by
  intro tag member
  obtain ⟨accessor, listed, same⟩ := List.mem_map.1 member
  rw [← same]
  exact coherent.isValidTag_of_names (named accessor listed)

/-- The identifier of a label is written in the canonical way and is not blank. -/
theorem Coherent.canonical_identifier (coherent : Coherent tables)
    (encoded : tables.encode path = .label label) :
    Identifier.canonical label.identifier = label.identifier ∧
      Text.isBlank label.identifier = false := by
  obtain ⟨-, inner, last, parameters, -, held, -, -, labelled⟩ := encode_eq_label_iff.1 encoded
  have valid := coherent.forall_isValidTag fun accessor listed =>
    coherent.names_of_holds (held accessor listed)
  obtain ⟨first, rest, shape⟩ :=
    List.exists_cons_of_ne_nil (l := (inner ++ [last]).map Accessor.tag) (by simp)
  rw [labelled]
  dsimp only
  rw [shape] at valid ⊢
  exact ⟨Identifier.canonical_ofTags valid,
    Identifier.isBlank_ofTags (valid first List.mem_cons_self)⟩

/-- The identifier of a label compiles to the shape of the chain that encoding went along. -/
theorem Coherent.compile_ofTags (coherent : Coherent tables) {inner : List (Accessor ι)}
    {last : Accessor ι} {leaf : Leaf ι}
    (held : ∀ accessor ∈ inner ++ [last], Holds tables accessor)
    (leads : Leads tables.root inner last.owner) (isLeaf : last.leaf? = some leaf) :
    tables.compile (Identifier.ofTags ((inner ++ [last]).map Accessor.tag)) =
      .ok ⟨Identifier.ofTags ((inner ++ [last]).map Accessor.tag), tables.root,
        inner.filterMap Accessor.step?, leaf⟩ := by
  have named : ∀ accessor ∈ inner ++ [last], Names tables accessor :=
    fun accessor listed => coherent.names_of_holds (held accessor listed)
  have spelled := Identifier.tags_ofTags_of_isValidTag (coherent.forall_isValidTag named)
  exact (compile_eq_ok_iff coherent).2 ⟨inner, last, leaf, leads, spelled, named, isLeaf, rfl⟩

/-- The identifier of a label compiles to a shape that admits the path. -/
theorem Coherent.exists_shape_of_encode (coherent : Coherent tables)
    (encoded : tables.encode path = .label label) :
    ∃ shape, tables.compile label.identifier = .ok shape ∧ shape.Admits path := by
  obtain ⟨rooted, inner, last, parameters, members, held, leads, bound, labelled⟩ :=
    encode_eq_label_iff.1 encoded
  obtain ⟨leaf, isLeaf, -⟩ := Encoding.exists_leaf_of_parameters? bound
  have takes : leaf.Takes path := (Encoding.exists_parameters?_iff isLeaf).1 ⟨parameters, bound⟩
  rw [labelled]
  refine ⟨_, coherent.compile_ofTags held leads isLeaf, rooted.symm, ?_, takes⟩
  rw [leads.members_shape isLeaf, members]

end Tables

/-! ## Building labels -/

/-- A shape of a label's identifier, run on the label's parameters, gives the text that
following the path gives. -/
theorem Registry.run_eq_follow? {registry : Registry ι} {tables : Tables ι} {path : Path}
    {label : Label} {shape : Shape ι} (found : registry.tables = .ok tables)
    (coherent : Tables.Coherent tables) (encoded : tables.encode path = .label label)
    (compiled : tables.compile label.identifier = .ok shape) (provider : ι) :
    ∃ text, shape.run ⟨shape.root, provider⟩ label.parameters = .ok text ∧
      registry.follow? path provider = some text := by
  obtain ⟨sameRoot, inner, last, parameters, members, held, leads, bound, labelled⟩ :=
    Tables.encode_eq_label_iff.1 encoded
  obtain ⟨leaf, isLeaf, applied⟩ := Encoding.exists_leaf_of_parameters? bound
  subst labelled
  rw [coherent.compile_ofTags held leads isLeaf, Except.ok.injEq] at compiled
  subst compiled
  have heldInner : ∀ accessor ∈ inner, Tables.Holds tables accessor :=
    fun accessor listed => held accessor (List.mem_append_left [last] listed)
  have heldLast : Tables.Holds tables last := held last (by simp)
  -- Steps and members lead to the same content, and the leaf takes there what was bound.
  refine ⟨leaf.text (contentAlong provider inner) parameters, ?_, ?_⟩
  · have arrives : last.owner = leaf.member.owner := by
      rw [Accessor.member_of_leaf? isLeaf, Accessor.owner]
    rw [Shape.run]
    dsimp only
    rw [leads.reach provider]
    dsimp only
    rw [if_pos arrives]
  · have walked := registry.walk?_of_leads found leads heldInner provider
    rw [Registry.follow?, members, ← sameRoot]
    simp [walked, registry.holder?_of_holds found heldLast, applied]

/-- The identifier of a labelled path has a shape that admits the path, whatever the
compiler has kept. -/
theorem Compiler.Sound.exists_shape_of_encode {compiler : Compiler ι} {registry : Registry ι}
    {tables : Tables ι} {path : Path} {label : Label} (sound : compiler.Sound registry)
    (found : registry.tables = .ok tables) (sameRoot : tables.root = compiler.root)
    (coherent : tables.Coherent) (encoded : tables.encode path = .label label) :
    ∃ shape, tables.compile label.identifier = .ok shape ∧
      (compiler.shape registry label.identifier).result = .ok shape ∧ shape.Admits path := by
  obtain ⟨shape, compiled, admits⟩ := coherent.exists_shape_of_encode encoded
  have spelled := (coherent.canonical_identifier encoded).1
  refine ⟨shape, compiled, ?_, admits⟩
  rw [sound.shape_eq_ok_iff found sameRoot, spelled, compiled]

/-- Encoding, compiling and running give the text of the path. Whatever a compiler has
kept in its history, the label of a path builds to a consumer that goes through the
members of the path and gives every provider the text of following the path directly. -/
theorem build_label_follows_path
    (atlas : Atlas ι) (operations : List Operation) {number : Nat}
    {compiler : Compiler ι} {registry : Registry ι} {path : Path} {label : Label}
    (made : (Workspace.after atlas operations).compiler? number = some (compiler, registry))
    (rooted : registry.root? = some compiler.root)
    (encoded : registry.encode path = .label label) :
    ∃ consumer,
      (compiler.build registry label).result = .ok (some consumer) ∧
      consumer.shape.members = path.members ∧
      ∀ provider, ∃ text,
        consumer.text provider = .ok text ∧ registry.follow? path provider = some text := by
  obtain ⟨sound, filledBy⟩ := (Workspace.sound_after atlas operations).compiler? made
  obtain ⟨tables, found, filled⟩ := filledBy.exists_tables rooted
  have coherent := filledBy.coherent found
  rw [Registry.encode_of_tables found] at encoded
  have visible := (coherent.canonical_identifier encoded).2
  obtain ⟨shape, compiled, shaped, admits⟩ :=
    sound.exists_shape_of_encode found (Tables.root_ofAtlas filled) coherent encoded
  refine ⟨⟨shape, label.parameters⟩, ?_, admits.members.symm, ?_⟩
  · simp only [Compiler.build, visible, Bool.false_eq_true, if_false, shaped]
    rfl
  · exact Registry.run_eq_follow? found coherent encoded compiled

namespace Sample.Gallery

/-- The atlas of the gallery, its sections numbered from zero. -/
def halls : Atlas String := atlas (Room.key 0 "gallery")

/-- The ring of the gallery, the section that contains itself. -/
def ringHall : SectionKey := Room.key 0 "gallery" .ring

theorem uniqueNames_halls : halls.UniqueNames := by decide

/-- A history in which a compiler keeps the shape of one identifier of the ring. -/
def ringHistory : List Operation :=
  [.addRegistry .lastWins, .addCompiler 0 ringHall, .fill 0 ringHall, .shape 0 "r_n"]

/-- The registry that the history leaves. -/
def ringRegistry : Registry String := ({} : Registry String).filled halls ringHall

/-- The compiler that the history leaves. -/
def ringCompiler : Compiler String :=
  (({ root := ringHall } : Compiler String).shape ringRegistry "r_n").compiler

theorem compiler?_ringHistory :
    (Workspace.after halls ringHistory).compiler? 0 = some (ringCompiler, ringRegistry) := rfl

theorem ringRegistry_mem : ringRegistry ∈ (Workspace.after halls ringHistory).registries :=
  List.mem_cons_self

/-- The ring declares itself, its name and a greeting. -/
theorem declarations_ringHall :
    halls.declarations ringHall =
      [⟨"inner", "r", .nested ringHall id⟩, ⟨"name", "n", .text id⟩, greet] := rfl

/-- The ring leads nowhere but to itself. -/
theorem itinerary_ringHall :
    halls.itinerary ringHall =
      .enter ringHall :: (halls.declarations ringHall).map (.declare ringHall) := by
  have inward : (⟨"inner", "r", .nested ringHall id⟩ : Declaration String).leadsTo? =
      some ringHall := by rfl
  have ended : (⟨"name", "n", .text id⟩ : Declaration String).leadsTo? = none := by rfl
  have spoken : greet.leadsTo? = none := by rfl
  simp [Atlas.itinerary, Atlas.eventsFrom, declarations_ringHall, inward, ended, spoken]

theorem outcome_ringRegistry :
    ringRegistry.outcome =
      some (Tables.takeAll .lastWins { root := ringHall }
        (.enter ringHall :: (halls.declarations ringHall).map (.declare ringHall))) := by
  rw [← itinerary_ringHall]
  rfl

theorem root?_ringRegistry : ringRegistry.root? = some ringHall := by
  rw [Registry.root?, Registry.tables?, Registry.tables, outcome_ringRegistry]
  rfl

theorem rooted_ringCompiler : ringRegistry.root? = some ringCompiler.root := by
  rw [root?_ringRegistry, ringCompiler, Compiler.root_shape]

/-- A greeting from within the ring, one argument written out and one a constant. -/
def greetTwice : Path :=
  ((Cursor.start ringHall).enter "inner" ringHall).call "greet"
    [.literal (.text "Hi"), .constant "TWICE" (.int 2)]

theorem encode_greetTwice :
    ringRegistry.encode greetTwice =
      .label ⟨"r_g", .ofList [("hi", .text "Hi"), ("times", .int 2)]⟩ := by
  rw [Registry.encode, Registry.tables, outcome_ringRegistry]
  rfl

end Sample.Gallery

open Sample.Gallery

theorem build_greetTwice_follows_path :
    (Workspace.after halls ringHistory).compiler? 0 = some (ringCompiler, ringRegistry) ∧
      ringRegistry.root? = some ringCompiler.root ∧
      ∃ label, ringRegistry.encode greetTwice = .label label ∧
        ∃ consumer,
          (ringCompiler.build ringRegistry label).result = .ok (some consumer) ∧
          consumer.shape.members = greetTwice.members ∧
          ∀ provider, ∃ text,
            consumer.text provider = .ok text ∧
              ringRegistry.follow? greetTwice provider = some text :=
  ⟨compiler?_ringHistory, rooted_ringCompiler, _, encode_greetTwice,
    build_label_follows_path halls ringHistory compiler?_ringHistory rooted_ringCompiler
      encode_greetTwice⟩

end Waymark
