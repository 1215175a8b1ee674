import Waymark.Proofs.Segments
import Waymark.Proofs.Traversal

/-!
# What a refused path says of its identifier

A path whose members have tags may still be refused because a member does not stand on the
section that the ones before it lead to, or because nothing can be read behind it. If
compiling goes the same way it fails there too, with the same error. It does not if the
section reached gives the tag of the stray member to a member of its own.
-/

namespace Waymark

variable {ι : Type}

/-! ## Where a chain breaks off -/

namespace Encoding

/-- Why a chain breaks off at an accessor, with `after` the accessors behind it: another
section than the one reached declares it, or nothing can be read behind it. -/
inductive BreaksOff (identifier : String) (reached : SectionKey) (accessor : Accessor ι) :
    (after : List (Accessor ι)) → LabelError → Prop
  | foreign (after : List (Accessor ι)) :
      accessor.owner ≠ reached →
      BreaksOff identifier reached accessor after
        (.unknownSegment identifier accessor.tag reached.name)
  | text {read : ι → String} (next : Accessor ι) (after : List (Accessor ι)) :
      accessor.owner = reached →
      accessor.kind = .text read →
      BreaksOff identifier reached accessor (next :: after)
        (.wrongAccessorKind identifier accessor.tag "a section")
  | call {parameters : List Parameter} {invoke : ι → List Value → String}
      (next : Accessor ι) (after : List (Accessor ι)) :
      accessor.owner = reached →
      accessor.kind = .call parameters invoke →
      BreaksOff identifier reached accessor (next :: after)
        (.wrongAccessorKind identifier accessor.tag "a value accessor")

/-- A chain without a leaf leads to the accessor at which it breaks off. -/
theorem exists_breaksOff_of_leaf? {identifier : String} {start : SectionKey}
    {first : Accessor ι} {rest : List (Accessor ι)} {error : LabelError}
    (failed : leaf? identifier start first rest = .error error) :
    ∃ before accessor after reached, first :: rest = before ++ accessor :: after ∧
      Leads start before reached ∧ BreaksOff identifier reached accessor after error := by
  induction rest generalizing start first with
  | nil =>
    rw [leaf?] at failed
    split at failed
    · cases failed
    · next foreign =>
      cases failed
      exact ⟨[], first, [], start, rfl, .here start, .foreign [] foreign⟩
  | cons next rest inductionHypothesis =>
    rw [leaf?] at failed
    split at failed
    · next owned =>
      split at failed
      · next target navigate nested =>
        obtain ⟨before, accessor, after, reached, shape, leads, breaksOff⟩ :=
          inductionHypothesis failed
        exact ⟨first :: before, accessor, after, reached, by rw [shape, List.cons_append],
          .through owned nested leads, breaksOff⟩
      · next read text =>
        cases failed
        exact ⟨[], first, next :: rest, start, rfl, .here start, .text next rest owned text⟩
      · next parameters invoke call =>
        cases failed
        exact ⟨[], first, next :: rest, start, rfl, .here start, .call next rest owned call⟩
    · next foreign =>
      cases failed
      exact ⟨[], first, next :: rest, start, rfl, .here start, .foreign (next :: rest) foreign⟩

end Encoding

/-- Whether an error is about the way that members go, not about how their path ends. -/
def LabelError.IsOnTheWay : LabelError → Prop
  | .unknownSegment _ _ _ => True
  | .wrongAccessorKind _ _ expected => expected = "a section" ∨ expected = "a value accessor"
  | _ => False

theorem Argument.not_isOnTheWay_of_bind {argument : Argument} {member : Member}
    {position : Nat} {parameter : Parameter} {error : LabelError}
    (failed : argument.bind member position parameter = .error error) : ¬ error.IsOnTheWay := by
  rw [bind] at failed
  split at failed
  · cases failed
    exact not_false
  · split at failed
    · cases failed
    · split at failed
      · cases failed
      · cases failed
        exact not_false

/-- What is wrong with the end of a path is another error than what is wrong on the way. -/
theorem Encoding.not_isOnTheWay_of_parameters? {identifier : String} {path : Path}
    {leaf : Accessor ι} {error : LabelError}
    (failed : parameters? identifier path leaf = .error error) : ¬ error.IsOnTheWay := by
  unfold parameters? at failed
  split at failed
  · cases failed
  · split at failed
    · obtain ⟨_, _, _, _, refused, -⟩ := Argument.bindAll_eq_error_iff.1 failed
      exact Argument.not_isOnTheWay_of_bind refused
    · cases failed
      exact not_false
  · cases failed
    simp [LabelError.IsOnTheWay]
  · cases failed
    simp [LabelError.IsOnTheWay]

namespace Tables

variable {tables : Tables ι} {path : Path} {error : LabelError}

/-- A path that is refused on its way has tagged members, along which its chain breaks off. -/
theorem exists_breaksOff_of_encode (refused : tables.encode path = .refused error)
    (onTheWay : error.IsOnTheWay) :
    ∃ before accessor after reached,
      path.members = (before ++ accessor :: after).map Accessor.member ∧
      (∀ other ∈ before ++ accessor :: after, Holds tables other) ∧
      Leads tables.root before reached ∧
      Encoding.BreaksOff
        (Identifier.ofTags ((before ++ accessor :: after).map Accessor.tag)) reached accessor
        after error := by
  rw [encode] at refused
  split at refused
  · split at refused
    · cases refused
    · cases refused
    · next first rest found =>
      obtain ⟨members, held⟩ := accessors?_eq_ok_iff.1 found
      rw [Encoding.label?] at refused
      split at refused
      · next other labelled =>
        cases refused
        split at labelled
        · next failed =>
          cases labelled
          obtain ⟨before, accessor, after, reached, shape, leads, breaksOff⟩ :=
            Encoding.exists_breaksOff_of_leaf? failed
          rw [shape] at members held breaksOff
          exact ⟨before, accessor, after, reached, members, held, leads, breaksOff⟩
        · split at labelled
          · next failed =>
            cases labelled
            exact absurd onTheWay (Encoding.not_isOnTheWay_of_parameters? failed)
          · cases labelled
      · cases refused
  · cases refused

/-! ## Compiling what was refused -/

variable {before after : List (Accessor ι)} {accessor own : Accessor ι}
  {start reached : SectionKey}

/-- The tags of a chain lead compiling to where the chain leads, and it fails there if the
next tag cannot stand there. -/
theorem Coherent.compile_of_misplaces (coherent : Coherent tables)
    (held : ∀ other ∈ before ++ accessor :: after, Holds tables other)
    (leads : Leads tables.root before reached)
    (misplaces : tables.Misplaces
      (Identifier.ofTags ((before ++ accessor :: after).map Accessor.tag)) reached accessor.tag
      (after.map Accessor.tag) error) :
    tables.compile (Identifier.ofTags ((before ++ accessor :: after).map Accessor.tag)) =
      .error error := by
  have named : ∀ other ∈ before ++ accessor :: after, Names tables other :=
    fun other listed => coherent.names_of_holds (held other listed)
  have tags := Identifier.tags_ofTags_of_isValidTag (coherent.forall_isValidTag named)
  have route := routes_of_leads leads fun other listed =>
    named other (List.mem_append_left (accessor :: after) listed)
  apply (compile_eq_error_iff (by rw [tags]; simp)).2
  exact ⟨before.map Accessor.tag, accessor.tag, after.map Accessor.tag, reached,
    by rw [tags, List.map_append, List.map_cons], route, misplaces⟩

/-- Chains of one start whose tags agree are the same chain as far as the tags agree, so the
longer one goes on with what the next tag names. -/
theorem mem_of_leads_of_resolve? {inner : List (Accessor ι)} {last : Accessor ι}
    {tag : String} {others : List String} (leads : Leads start before reached)
    (named : ∀ other ∈ before, Names tables other)
    (resolved : tables.resolve? reached tag = some own)
    (leadsOther : Leads start inner last.owner)
    (namedOther : ∀ other ∈ inner ++ [last], Names tables other)
    (spelled : (inner ++ [last]).map Accessor.tag = before.map Accessor.tag ++ tag :: others) :
    own ∈ inner ++ [last] := by
  induction leads generalizing inner with
  | here key =>
    cases leadsOther with
    | here =>
      obtain ⟨rfl, -⟩ := List.cons.inj spelled
      have lastNamed := namedOther last (by simp)
      rw [Names, resolved, Option.some.injEq] at lastNamed
      simp [lastNamed]
    | through owned nested later =>
      obtain ⟨rfl, -⟩ := List.cons.inj spelled
      have firstNamed := namedOther _ List.mem_cons_self
      rw [Names, owned, resolved, Option.some.injEq] at firstNamed
      simp [firstNamed]
  | through owned nested later inductionHypothesis =>
    obtain ⟨namedFirst, namedRest⟩ := List.forall_mem_cons.1 named
    cases leadsOther with
    | here => simp at spelled
    | through ownedOther nestedOther laterOther =>
      obtain ⟨sameTag, spelledRest⟩ := List.cons.inj spelled
      obtain ⟨namedFirstOther, namedRestOther⟩ := List.forall_mem_cons.1 namedOther
      rw [Names, ownedOther, sameTag, ← owned, namedFirst, Option.some.injEq] at namedFirstOther
      subst namedFirstOther
      rw [nested, AccessorKind.nested.injEq] at nestedOther
      obtain ⟨rfl, -⟩ := nestedOther
      exact List.mem_cons_of_mem _
        (inductionHypothesis namedRest resolved laterOther namedRestOther spelledRest)

/-- Where a chain breaks off at a member whose tag the section reached gives to another one,
a shape of the identifier goes through that one. -/
theorem Coherent.member_mem_of_compile (coherent : Coherent tables)
    (held : ∀ other ∈ before ++ accessor :: after, Holds tables other)
    (leads : Leads tables.root before reached)
    (resolved : tables.resolve? reached accessor.tag = some own) {shape : Shape ι}
    (compiled : tables.compile
      (Identifier.ofTags ((before ++ accessor :: after).map Accessor.tag)) = .ok shape) :
    own.member ∈ shape.members := by
  have named : ∀ other ∈ before ++ accessor :: after, Names tables other :=
    fun other listed => coherent.names_of_holds (held other listed)
  obtain ⟨inner, last, leaf, leadsOther, spelled, namedOther, isLeaf, rfl⟩ :=
    (compile_eq_ok_iff coherent).1 compiled
  rw [Identifier.tags_ofTags_of_isValidTag (coherent.forall_isValidTag named), List.map_append,
    List.map_cons] at spelled
  rw [leadsOther.members_shape isLeaf]
  apply List.mem_map_of_mem
  apply mem_of_leads_of_resolve? leads _ resolved leadsOther namedOther spelled.symm
  exact fun other listed => named other (List.mem_append_left (accessor :: after) listed)

end Tables

/-! ## Refusals and what compiling answers -/

namespace Tables

variable {tables : Tables ι} {before after : List (Accessor ι)} {accessor : Accessor ι}
  {reached : SectionKey} {error : LabelError}

theorem Coherent.tag?_of_holds (coherent : Coherent tables) (held : Holds tables accessor) :
    tables.tag? accessor.member = some accessor.tag := by
  obtain ⟨tag, tagged, resolved, -⟩ := accessor?_eq_some_iff.1 held
  rw [tagged, coherent.tag_eq resolved]

/-- A member that is declared where the chain has come to, but leads no further, fails in
compiling for the same reason. -/
theorem Coherent.misplaces_of_breaksOff (coherent : Coherent tables)
    (held : Holds tables accessor) {spelling identifier segment expected : String}
    (breaksOff : Encoding.BreaksOff spelling reached accessor after
      (.wrongAccessorKind identifier segment expected)) :
    spelling = identifier ∧
      tables.Misplaces spelling reached accessor.tag (after.map Accessor.tag)
        (.wrongAccessorKind identifier segment expected) := by
  have named := coherent.names_of_holds held
  cases breaksOff with
  | text next after owned text =>
    rw [Names, owned] at named
    exact ⟨rfl, .text next.tag (after.map Accessor.tag) named text⟩
  | call next after owned call =>
    rw [Names, owned] at named
    exact ⟨rfl, .call next.tag (after.map Accessor.tag) named call⟩

end Tables

namespace Compiler

variable {compiler : Compiler ι} {registry : Registry ι} {tables : Tables ι}

theorem Sound.result_shape_ofTags (sound : compiler.Sound registry)
    (found : registry.tables = .ok tables) (sameRoot : tables.root = compiler.root)
    {tags : List String} (valid : ∀ tag ∈ tags, isValidTag tag = true) (nonempty : tags ≠ []) :
    (compiler.shape registry (Identifier.ofTags tags)).result =
      tables.compile (Identifier.ofTags tags) := by
  have spelled : Identifier.tags (Identifier.ofTags tags) ≠ [] := by
    rwa [Identifier.tags_ofTags_of_isValidTag valid]
  rw [sound.result_shape_of_tags spelled, Identifier.canonical_ofTags valid, ← sameRoot,
    Registry.compile_of_tables found]

end Compiler

namespace Registry

/-- Whether members lead from a root to a section, whatever the provider is. -/
def LeadsTo (registry : Registry ι) (root : SectionKey) (members : List Member)
    (reached : SectionKey) : Prop :=
  ∀ provider, ∃ content, registry.walk? ⟨root, provider⟩ members = some ⟨reached, content⟩

variable {registry : Registry ι} {tables : Tables ι} {compiler : Compiler ι} {path : Path}

section

variable (found : registry.tables = .ok tables) (coherent : tables.Coherent)
  (sound : compiler.Sound registry) (sameRoot : tables.root = compiler.root)

include found coherent sound sameRoot

theorem result_shape_of_holds {chain : List (Accessor ι)}
    (held : ∀ accessor ∈ chain, Tables.Holds tables accessor) (nonempty : chain ≠ []) :
    (compiler.shape registry (Identifier.ofTags (chain.map Accessor.tag))).result =
      tables.compile (Identifier.ofTags (chain.map Accessor.tag)) := by
  apply sound.result_shape_ofTags found sameRoot
  · exact coherent.forall_isValidTag fun accessor listed =>
      coherent.names_of_holds (held accessor listed)
  · simpa using nonempty

/-- A member that another section declares than the one reached. -/
theorem exists_stray_of_encode {identifier segment owner : String}
    (refused : tables.encode path = .refused (.unknownSegment identifier segment owner)) :
    ∃ before member after reached,
      path.members = before ++ member :: after ∧
      registry.LeadsTo compiler.root before reached ∧ reached.name = owner ∧
      registry.tag? member = some segment ∧ member.owner ≠ reached ∧
      (registry.resolve? reached segment = none →
        (compiler.shape registry identifier).result =
          .error (.unknownSegment identifier segment owner)) ∧
      ∀ own, registry.resolve? reached segment = some own →
        own.member ≠ member ∧
          ∀ shape, (compiler.shape registry identifier).result = .ok shape →
            own.member ∈ shape.members := by
  obtain ⟨before, accessor, after, reached, members, held, leads, breaksOff⟩ :=
    Tables.exists_breaksOff_of_encode refused trivial
  cases breaksOff with
  | foreign after foreign =>
    have heldBefore : ∀ other ∈ before, Tables.Holds tables other :=
      fun other listed => held other (List.mem_append_left (accessor :: after) listed)
    have shaped := result_shape_of_holds found coherent sound sameRoot held (by simp)
    refine ⟨before.map Accessor.member, accessor.member, after.map Accessor.member, reached,
      by rw [members, List.map_append, List.map_cons], ?leadsTo, rfl, ?tagged, foreign,
      ?unknown, ?shadowed⟩
    case leadsTo =>
      intro provider
      exact ⟨_, sameRoot ▸ registry.walk?_of_leads found leads heldBefore provider⟩
    case tagged =>
      rw [tag?_of_tables found]
      exact coherent.tag?_of_holds (held accessor (by simp))
    case unknown =>
      intro unresolved
      rw [resolve?_of_tables found] at unresolved
      rw [shaped]
      exact coherent.compile_of_misplaces held leads (.unknown _ unresolved)
    case shadowed =>
      intro own resolved
      rw [resolve?_of_tables found] at resolved
      constructor
      · intro same
        apply foreign
        rw [← coherent.owner_eq resolved, Accessor.owner, Accessor.owner, same]
      · intro shape compiled
        rw [shaped] at compiled
        exact coherent.member_mem_of_compile held leads resolved compiled

/-- A member on the way that leads no further. -/
theorem result_shape_of_wrongAccessorKind {identifier segment expected : String}
    (onTheWay : expected = "a section" ∨ expected = "a value accessor")
    (refused : tables.encode path = .refused (.wrongAccessorKind identifier segment expected)) :
    (compiler.shape registry identifier).result =
      .error (.wrongAccessorKind identifier segment expected) := by
  obtain ⟨before, accessor, after, reached, -, held, leads, breaksOff⟩ :=
    Tables.exists_breaksOff_of_encode refused onTheWay
  obtain ⟨rfl, misplaces⟩ :=
    coherent.misplaces_of_breaksOff (held accessor (by simp)) breaksOff
  rw [result_shape_of_holds found coherent sound sameRoot held (by simp)]
  exact coherent.compile_of_misplaces held leads misplaces

end

end Registry

/-- What the structural refusals of a path say. If a segment is called unknown, its member
belongs to another section than the one reached. Should that one give the segment to no
member, compiling the identifier fails with the same error; should it give it to a member
of its own, what the identifier stands for goes through that member. If a member on the way
is called one of the wrong kind, compiling the identifier fails with the same error. -/
theorem refusals_hold_unless_shadowed
    (atlas : Atlas ι) (operations : List Operation) {number : Nat}
    {compiler : Compiler ι} {registry : Registry ι}
    (made : (Workspace.after atlas operations).compiler? number = some (compiler, registry))
    (rooted : registry.root? = some compiler.root) (path : Path) :
    (∀ identifier segment owner,
      registry.encode path = .refused (.unknownSegment identifier segment owner) →
      ∃ before member after reached,
        path.members = before ++ member :: after ∧
        registry.LeadsTo compiler.root before reached ∧ reached.name = owner ∧
        registry.tag? member = some segment ∧ member.owner ≠ reached ∧
        (registry.resolve? reached segment = none →
          (compiler.shape registry identifier).result =
            .error (.unknownSegment identifier segment owner)) ∧
        ∀ own, registry.resolve? reached segment = some own →
          own.member ≠ member ∧
            ∀ shape, (compiler.shape registry identifier).result = .ok shape →
              own.member ∈ shape.members) ∧
    ∀ identifier segment expected, expected = "a section" ∨ expected = "a value accessor" →
      registry.encode path = .refused (.wrongAccessorKind identifier segment expected) →
      (compiler.shape registry identifier).result =
        .error (.wrongAccessorKind identifier segment expected) := by
  obtain ⟨sound, filledBy⟩ := (Workspace.sound_after atlas operations).compiler? made
  obtain ⟨tables, found, filled⟩ := filledBy.exists_tables rooted
  have sameRoot := Tables.root_ofAtlas filled
  have coherent := filledBy.coherent found
  rw [Registry.encode_of_tables found]
  constructor
  · intro identifier segment owner
    exact Registry.exists_stray_of_encode found coherent sound sameRoot
  · intro identifier segment expected
    exact Registry.result_shape_of_wrongAccessorKind found coherent sound sameRoot

namespace Sample.House

def house : SectionKey := ⟨0, "house::House"⟩

def kitchen : SectionKey := ⟨1, "house::Kitchen"⟩

/-- A house with a kitchen. Both have a text with the tag `n`; only the kitchen has one with
the tag `o`. -/
def plan : Atlas String where
  pages := .ofList
    [(house, [⟨"kitchen", "k", .nested kitchen id⟩, ⟨"name", "n", .text fun _ => "house"⟩]),
      (kitchen, [⟨"title", "n", .text fun _ => "kitchen"⟩, ⟨"oven", "o", .text fun _ => "oven"⟩])]

def houseHistory : List Operation :=
  [.addRegistry .lastWins, .addCompiler 0 house, .fill 0 house]

def houseRegistry : Registry String := Registry.lenient plan house

def houseCompiler : Compiler String := { root := house }

theorem compiler?_houseHistory :
    (Workspace.after plan houseHistory).compiler? 0 = some (houseCompiler, houseRegistry) := rfl

theorem itinerary_house :
    plan.itinerary house =
      [.enter house, .declare house ⟨"kitchen", "k", .nested kitchen id⟩, .enter kitchen,
        .declare kitchen ⟨"title", "n", .text fun _ => "kitchen"⟩,
        .declare kitchen ⟨"oven", "o", .text fun _ => "oven"⟩,
        .declare house ⟨"name", "n", .text fun _ => "house"⟩] := by
  have ofHouse : plan.declarations house =
      [⟨"kitchen", "k", .nested kitchen id⟩, ⟨"name", "n", .text fun _ => "house"⟩] := rfl
  have ofKitchen : plan.declarations kitchen =
      [⟨"title", "n", .text fun _ => "kitchen"⟩, ⟨"oven", "o", .text fun _ => "oven"⟩] := rfl
  have inward : (⟨"kitchen", "k", .nested kitchen id⟩ : Declaration String).leadsTo? =
      some kitchen := by rfl
  have ended (name tag : String) (read : String → String) :
      (⟨name, tag, .text read⟩ : Declaration String).leadsTo? = none := by
    simp [Declaration.leadsTo?, AccessorKind.target?]
  have apart : kitchen ≠ house := by decide
  simp [Atlas.itinerary, Atlas.eventsFrom, ofHouse, ofKitchen, inward, ended, apart]

theorem root?_houseRegistry : houseRegistry.root? = some house :=
  Registry.root?_lenient plan house

/-- The path that reads a text of the kitchen as if the house declared it. -/
def astray (name : String) : Path := .read ⟨house, [⟨kitchen, name⟩]⟩

/-- The path that goes on behind a text of the house. -/
def throughName : Path := .read ⟨house, [⟨house, "name"⟩, ⟨kitchen, "oven"⟩]⟩

theorem encode_astray_oven :
    houseRegistry.encode (astray "oven") =
      .refused (.unknownSegment "o" "o" "house::House") := by
  rw [Registry.encode, houseRegistry, Registry.tables_lenient, itinerary_house]
  rfl

theorem encode_throughName :
    houseRegistry.encode throughName = .refused (.wrongAccessorKind "n_o" "n" "a section") := by
  rw [Registry.encode, houseRegistry, Registry.tables_lenient, itinerary_house]
  rfl

theorem resolve?_oven_on_house : houseRegistry.resolve? house "o" = none := by
  rw [Registry.resolve?, Registry.tables?, houseRegistry, Registry.tables_lenient, itinerary_house]
  rfl

end Sample.House

open Sample.House

theorem refusals_hold_in_house :
    (Workspace.after plan houseHistory).compiler? 0 = some (houseCompiler, houseRegistry) ∧
      houseRegistry.root? = some houseCompiler.root ∧
      houseRegistry.encode (astray "oven") =
        .refused (.unknownSegment "o" "o" "house::House") ∧
      (houseCompiler.shape houseRegistry "o").result =
        .error (.unknownSegment "o" "o" "house::House") ∧
      houseRegistry.encode throughName = .refused (.wrongAccessorKind "n_o" "n" "a section") ∧
      (houseCompiler.shape houseRegistry "n_o").result =
        .error (.wrongAccessorKind "n_o" "n" "a section") := by
  obtain ⟨strays, -⟩ :=
    refusals_hold_unless_shadowed plan houseHistory compiler?_houseHistory
      root?_houseRegistry (astray "oven")
  obtain ⟨-, wrongKinds⟩ :=
    refusals_hold_unless_shadowed plan houseHistory compiler?_houseHistory
      root?_houseRegistry throughName
  refine ⟨compiler?_houseHistory, root?_houseRegistry, encode_astray_oven, ?_,
    encode_throughName, wrongKinds _ _ _ (.inl rfl) encode_throughName⟩
  obtain ⟨before, member, after, reached, members, leadsTo, -, -, -, unknown, -⟩ :=
    strays _ _ _ encode_astray_oven
  -- The stray member is the only one, so the section reached is the house.
  have start : before = [] := by
    cases before with
    | nil => rfl
    | cons first rest => simp [astray, Path.members] at members
  obtain ⟨content, arrived⟩ := leadsTo ""
  rw [start, Registry.walk?, Option.some.injEq, Instance.mk.injEq] at arrived
  apply unknown
  rw [← arrived.1]
  exact resolve?_oven_on_house

/-- The refusal of the kitchen's title says that the house has no member with its tag. It
has one, and the identifier compiles. -/
theorem title_refused_though_house_has_tag :
    (Workspace.after plan houseHistory).compiler? 0 = some (houseCompiler, houseRegistry) ∧
      houseRegistry.root? = some houseCompiler.root ∧
      houseRegistry.encode (astray "title") =
        .refused (.unknownSegment "n" "n" "house::House") ∧
      houseRegistry.resolve? house "n" =
        some ⟨⟨house, "name"⟩, "n", .text fun _ => "house"⟩ ∧
      ∃ shape, (houseCompiler.shape houseRegistry "n").result = .ok shape := by
  refine ⟨compiler?_houseHistory, root?_houseRegistry, ?_, ?_, ?_⟩
  · rw [Registry.encode, houseRegistry, Registry.tables_lenient, itinerary_house]
    rfl
  · rw [Registry.resolve?, Registry.tables?, houseRegistry, Registry.tables_lenient,
      itinerary_house]
    rfl
  · refine ⟨⟨"n", house, [], .read ⟨house, "name"⟩ fun _ => "house"⟩, ?_⟩
    simp only [Compiler.shape, Registry.compile, houseRegistry, Registry.tables_lenient,
      itinerary_house]
    rfl

end Waymark
