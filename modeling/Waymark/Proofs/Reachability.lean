import Waymark.Proofs.Listing
import Waymark.Proofs.Segments
import Waymark.Proofs.Strictness

/-!
# Members that identifiers still lead to

A section is described as soon as a member that leads to it is registered. The tag of that
member may be taken over afterwards. What the section declares then stays in the registry,
but no identifier leads there by that tag any more. Identifiers lead to just those sections
that the root reaches by the tags as the filling leaves them.
-/

namespace Waymark

variable {ι : Type}

/-! ## Sections that stay reachable -/

namespace Atlas

/-- The sections that a root still reaches when the last declaration of each tag holds it: the
root, and the target of every nested section that holds its valid tag on such a section. -/
inductive KeepsReaching (atlas : Atlas ι) (root : SectionKey) : SectionKey → Prop
  | root : KeepsReaching atlas root root
  | onward {owner target : SectionKey} {tag : String} {declaration : Declaration ι}
      {navigate : ι → ι} :
      KeepsReaching atlas root owner →
      isValidTag tag = true →
      lastTagged? tag (atlas.declarations owner) = some declaration →
      declaration.kind = .nested target navigate →
      KeepsReaching atlas root target

/-- Whether no tag on the way from a root is taken over for something else: wherever a nested
section leads, the last declaration of its tag leads too. -/
def KeepsSections (atlas : Atlas ι) (root : SectionKey) : Prop :=
  ∀ owner target declaration, atlas.Reaches root owner →
    declaration ∈ atlas.declarations owner → declaration.leadsTo? = some target →
    ∃ last navigate, lastTagged? declaration.tag (atlas.declarations owner) = some last ∧
      last.kind = .nested target navigate

variable {atlas : Atlas ι} {root key : SectionKey}

theorem mem_of_lastTagged? {tag : String} {declaration : Declaration ι}
    {declarations : List (Declaration ι)}
    (last : lastTagged? tag declarations = some declaration) :
    declaration ∈ declarations ∧ declaration.tag = tag := by
  obtain ⟨tagged, before, after, rfl, -⟩ := lastTagged?_eq_some_iff.1 last
  exact ⟨by simp, tagged⟩

theorem KeepsReaching.reaches (kept : atlas.KeepsReaching root key) :
    atlas.Reaches root key := by
  induction kept with
  | root => exact .root
  | onward _ valid last nested inductionHypothesis =>
    obtain ⟨listed, rfl⟩ := mem_of_lastTagged? last
    exact .onward inductionHypothesis listed valid nested

theorem KeepsSections.keepsReaching (keeps : atlas.KeepsSections root)
    (reached : atlas.Reaches root key) : atlas.KeepsReaching root key := by
  induction reached with
  | root => exact .root
  | @onward owner target declaration navigate reachedOwner listed valid nested
      inductionHypothesis =>
    have leads := Declaration.leadsTo?_eq_some_iff.2 ⟨valid, navigate, nested⟩
    obtain ⟨last, _, holds, onward⟩ := keeps owner target declaration reachedOwner listed leads
    exact .onward inductionHypothesis valid holds onward

/-- Where no valid tag is declared for two names, and no name twice, every declaration of a
valid tag is the last one. -/
theorem lastTagged?_of_not_contested {owner : SectionKey} (uniqueNames : atlas.UniqueNames)
    (uncontested : ¬ atlas.Contested owner) {declaration : Declaration ι}
    (listed : declaration ∈ atlas.declarations owner) (valid : isValidTag declaration.tag = true) :
    lastTagged? declaration.tag (atlas.declarations owner) = some declaration := by
  cases holds : lastTagged? declaration.tag (atlas.declarations owner) with
  | none =>
    rw [lastTagged?, List.findRev?_eq_find?_reverse, List.find?_eq_none] at holds
    exact absurd (decide_eq_true rfl) (holds declaration (List.mem_reverse.2 listed))
  | some last =>
    obtain ⟨lastListed, sameTag⟩ := mem_of_lastTagged? holds
    have sameName : last.name = declaration.name := by
      by_contra different
      exact uncontested ⟨last, lastListed, declaration, listed, sameTag ▸ valid, sameTag, different⟩
    rw [List.inj_on_of_nodup_map (uniqueNames owner) lastListed listed sameName]

theorem keepsSections_of_not_contested (uniqueNames : atlas.UniqueNames)
    (uncontested : ∀ owner, atlas.Reaches root owner → ¬ atlas.Contested owner) :
    atlas.KeepsSections root := by
  intro owner target declaration reached listed leads
  obtain ⟨valid, navigate, nested⟩ := Declaration.leadsTo?_eq_some_iff.1 leads
  exact ⟨declaration, navigate,
    lastTagged?_of_not_contested uniqueNames (uncontested owner reached) listed valid, nested⟩

end Atlas

/-! ## Routes of tags -/

theorem AccessorKind.settle_eq_nested_iff {kind : AccessorKind ParameterDeclaration ι}
    {target : SectionKey} {navigate : ι → ι} :
    kind.settle = .nested target navigate ↔ kind = .nested target navigate := by
  cases kind <;> simp [settle]

namespace Tables

variable {tables : Tables ι} {policy : CollisionPolicy} {atlas : Atlas ι}
  {root start reached target : SectionKey} {tags : List String} {tag : String}
  {accessor : Accessor ι}

theorem Routes.append_singleton {navigate : ι → ι} (route : tables.Routes start tags reached)
    (resolved : tables.resolve? reached tag = some accessor)
    (nested : accessor.kind = .nested target navigate) :
    tables.Routes start (tags ++ [tag]) target := by
  induction route with
  | here key => exact .onward resolved nested (.here target)
  | onward first through _ inductionHypothesis =>
    exact .onward first through (inductionHypothesis resolved)

theorem keepsReaching_of_routes (filled : ofAtlas policy atlas root = .ok tables)
    (kept : atlas.KeepsReaching root start) (route : tables.Routes start tags reached) :
    atlas.KeepsReaching root reached := by
  induction route with
  | here key => exact kept
  | onward resolved nested _ inductionHypothesis =>
    obtain ⟨-, valid, declaration, last, rfl⟩ := (resolve?_ofAtlas_eq_some_iff filled).1 resolved
    exact inductionHypothesis
      (.onward kept valid last (AccessorKind.settle_eq_nested_iff.1 nested))

/-- Tags lead from the root to just the sections that it keeps reaching. -/
theorem exists_routes_iff (filled : ofAtlas policy atlas root = .ok tables) :
    (∃ tags, tables.Routes root tags reached) ↔ atlas.KeepsReaching root reached := by
  constructor
  · rintro ⟨tags, route⟩
    exact keepsReaching_of_routes filled .root route
  · intro kept
    induction kept with
    | root => exact ⟨[], .here root⟩
    | @onward owner target tag declaration navigate keptOwner valid last nested
        inductionHypothesis =>
      obtain ⟨tags, route⟩ := inductionHypothesis
      have described := Atlas.describes_iff_reaches.2 keptOwner.reaches
      have resolved : tables.resolve? owner tag = some (declaration.accessor owner) :=
        (resolve?_ofAtlas_eq_some_iff filled).2 ⟨described, valid, declaration, last, rfl⟩
      exact ⟨tags ++ [tag],
        route.append_singleton resolved (AccessorKind.settle_eq_nested_iff.2 nested)⟩

/-- Where tags lead, each text or call has an identifier. -/
theorem Coherent.exists_compile_of_routes (coherent : Coherent tables)
    (route : tables.Routes tables.root tags reached)
    (resolved : tables.resolve? reached tag = some accessor) {leaf : Leaf ι}
    (isLeaf : accessor.leaf? = some leaf) :
    ∃ identifier shape, tables.compile (Identifier.canonical identifier) = .ok shape ∧
      shape.leaf = leaf := by
  obtain ⟨inner, leads, -, named⟩ := coherent.exists_leads_of_routes route
  rw [← coherent.owner_eq resolved] at leads
  have namedAll : ∀ other ∈ inner ++ [accessor], Names tables other := by
    intro other listed
    rcases List.mem_append.1 listed with inside | last
    · exact named other inside
    · rw [List.mem_singleton.1 last]
      exact coherent.names_of_resolve? resolved
  have valid := coherent.forall_isValidTag namedAll
  have spelled := Identifier.tags_ofTags_of_isValidTag valid
  have compiled := (compile_eq_ok_iff coherent).2
    ⟨inner, accessor, leaf, leads, spelled, namedAll, isLeaf, rfl⟩
  rw [← Identifier.canonical_ofTags valid] at compiled
  exact ⟨_, _, compiled, rfl⟩

/-- The leaf of a shape stands on a section to which tags lead. -/
theorem Coherent.exists_routes_of_compile (coherent : Coherent tables) {identifier : String}
    {shape : Shape ι} (compiled : tables.compile identifier = .ok shape) :
    ∃ tags, tables.Routes tables.root tags shape.leaf.member.owner := by
  obtain ⟨inner, last, leaf, leads, -, named, isLeaf, rfl⟩ :=
    (compile_eq_ok_iff coherent).1 compiled
  dsimp only
  rw [Accessor.member_of_leaf? isLeaf]
  exact ⟨_, routes_of_leads leads fun other listed => named other (by simp [listed])⟩

end Tables

/-! ## Leaves that a registry holds -/

/-- Whether a registry holds a text or a call on a section, where it is listed or can be
resolved. -/
def Registry.HoldsLeaf (registry : Registry ι) (owner : SectionKey) (leaf : Leaf ι) : Prop :=
  ∃ accessor, accessor.leaf? = some leaf ∧
    (accessor ∈ registry.membersOf owner ∨ ∃ tag, registry.resolve? owner tag = some accessor)

theorem Registry.HoldsLeaf.exists_resolve? {registry : Registry ι} {tables : Tables ι}
    {owner : SectionKey} {leaf : Leaf ι} (found : registry.tables = .ok tables)
    (held : registry.HoldsLeaf owner leaf) :
    ∃ accessor tag, accessor.leaf? = some leaf ∧
      tables.resolve? owner tag = some accessor := by
  obtain ⟨accessor, isLeaf, listed | ⟨tag, resolved⟩⟩ := held
  · rw [membersOf_of_tables found, Tables.mem_membersOf_iff_exists] at listed
    obtain ⟨tag, resolved⟩ := listed
    exact ⟨accessor, tag, isLeaf, resolved⟩
  · rw [resolve?_of_tables found] at resolved
    exact ⟨accessor, tag, isLeaf, resolved⟩

namespace Compiler

/-- Whether a compiler gives some identifier a shape that ends at a leaf. -/
def EndsAt (compiler : Compiler ι) (registry : Registry ι) (leaf : Leaf ι) : Prop :=
  ∃ identifier shape, (compiler.shape registry identifier).result = .ok shape ∧
    shape.leaf = leaf

variable {compiler : Compiler ι} {registry : Registry ι} {tables : Tables ι}
  {policy : CollisionPolicy} {atlas : Atlas ι} {owner : SectionKey} {leaf : Leaf ι}

theorem Sound.endsAt_of_keepsReaching (sound : compiler.Sound registry)
    (found : registry.tables = .ok tables)
    (filled : Tables.ofAtlas policy atlas compiler.root = .ok tables)
    (held : registry.HoldsLeaf owner leaf)
    (kept : atlas.KeepsReaching compiler.root owner) : compiler.EndsAt registry leaf := by
  have sameRoot := Tables.root_ofAtlas filled
  obtain ⟨accessor, tag, isLeaf, resolved⟩ := held.exists_resolve? found
  obtain ⟨tags, route⟩ := (Tables.exists_routes_iff filled).2 kept
  rw [← sameRoot] at route
  obtain ⟨identifier, shape, compiled, sameLeaf⟩ :=
    (Tables.coherent_ofAtlas filled).exists_compile_of_routes route resolved isLeaf
  exact ⟨identifier, shape, (sound.shape_eq_ok_iff found sameRoot).2 compiled, sameLeaf⟩

theorem Sound.keepsReaching_of_shape (sound : compiler.Sound registry)
    (found : registry.tables = .ok tables)
    (filled : Tables.ofAtlas policy atlas compiler.root = .ok tables) {identifier : String}
    {shape : Shape ι} (shaped : (compiler.shape registry identifier).result = .ok shape) :
    atlas.KeepsReaching compiler.root shape.leaf.member.owner := by
  have sameRoot := Tables.root_ofAtlas filled
  have compiled := (sound.shape_eq_ok_iff found sameRoot).1 shaped
  obtain ⟨tags, route⟩ := (Tables.coherent_ofAtlas filled).exists_routes_of_compile compiled
  rw [sameRoot] at route
  exact (Tables.exists_routes_iff filled).1 ⟨tags, route⟩

end Compiler

/-- The texts and calls that identifiers lead to. Whatever a compiler has kept, a leaf that
its registry holds has an identifier just when the root keeps reaching the section of the
leaf. So all of them have one as long as no nested section on the way loses its tag to
something else, and this is always so in a strict registry of an atlas that declares no name
twice. -/
theorem leaves_have_identifiers_where_tags_lead
    (atlas : Atlas ι) (operations : List Operation) {number : Nat}
    {compiler : Compiler ι} {registry : Registry ι}
    (made : (Workspace.after atlas operations).compiler? number = some (compiler, registry))
    (rooted : registry.root? = some compiler.root) :
    (∀ owner leaf, registry.HoldsLeaf owner leaf →
      (atlas.KeepsReaching compiler.root owner → compiler.EndsAt registry leaf) ∧
      ∀ identifier shape, (compiler.shape registry identifier).result = .ok shape →
        shape.leaf.member = leaf.member → atlas.KeepsReaching compiler.root owner) ∧
    (atlas.KeepsSections compiler.root →
      ∀ owner leaf, registry.HoldsLeaf owner leaf → compiler.EndsAt registry leaf) ∧
    (registry.policy = .reject → atlas.UniqueNames → atlas.KeepsSections compiler.root) := by
  obtain ⟨sound, filledBy⟩ := (Workspace.sound_after atlas operations).compiler? made
  obtain ⟨tables, found, filled⟩ := filledBy.exists_tables rooted
  refine ⟨?each, ?all, ?strict⟩
  case each =>
    intro owner leaf held
    refine ⟨sound.endsAt_of_keepsReaching found filled held, ?_⟩
    intro identifier shape shaped sameMember
    obtain ⟨accessor, tag, isLeaf, resolved⟩ := held.exists_resolve? found
    have owned : shape.leaf.member.owner = owner := by
      rw [sameMember, Accessor.member_of_leaf? isLeaf]
      exact (Tables.coherent_ofAtlas filled).owner_eq resolved
    exact owned ▸ sound.keepsReaching_of_shape found filled shaped
  case all =>
    intro keeps owner leaf held
    obtain ⟨accessor, tag, -, resolved⟩ := held.exists_resolve? found
    obtain ⟨described, -⟩ := (Tables.resolve?_ofAtlas_eq_some_iff filled).1 resolved
    have kept := keeps.keepsReaching (Atlas.describes_iff_reaches.1 described)
    exact sound.endsAt_of_keepsReaching found filled held kept
  case strict =>
    intro strict uniqueNames
    rw [strict] at filled
    exact Atlas.keepsSections_of_not_contested uniqueNames
      (Tables.exists_ofAtlas_reject_iff.1 ⟨tables, filled⟩)

open Registry

namespace Sample.Estate

def manor : SectionKey := ⟨0, "estate::Manor"⟩

def garden : SectionKey := ⟨1, "estate::Garden"⟩

def gate : Declaration String := ⟨"gate", "g", .nested garden id⟩

def knell (tag : String) : Declaration String := ⟨"knell", tag, .text fun _ => "knell"⟩

def rose : Declaration String := ⟨"rose", "r", .text fun _ => "rose"⟩

/-- A manor with a gate to its garden, where a rose stands, and behind the gate a knell. -/
def estate (knellTag : String) : Atlas String where
  pages := .ofList [(manor, [gate, knell knellTag]), (garden, [rose])]

def estateHistory (policy : CollisionPolicy) : List Operation :=
  [.addRegistry policy, .addCompiler 0 manor, .fill 0 manor]

def steward : Compiler String := { root := manor }

def roseLeaf : Leaf String := .read ⟨garden, "rose"⟩ fun _ => "rose"

theorem compiler?_estateHistory (policy : CollisionPolicy) (knellTag : String) :
    (Workspace.after (estate knellTag) (estateHistory policy)).compiler? 0 =
      some (steward, ({ policy } : Registry String).filled (estate knellTag) manor) := rfl

theorem declarations_manor (knellTag : String) :
    (estate knellTag).declarations manor = [gate, knell knellTag] := rfl

theorem declarations_garden (knellTag : String) :
    (estate knellTag).declarations garden = [rose] := rfl

theorem reaches_garden (knellTag : String) : (estate knellTag).Reaches manor garden := by
  have listed : gate ∈ (estate knellTag).declarations manor := by
    rw [declarations_manor]
    exact List.mem_cons_self
  exact .onward .root listed (by decide) rfl

theorem resolve?_rose (knellTag : String) :
    (lenient (estate knellTag) manor).resolve? garden "r" = some (rose.accessor garden) := by
  rw [resolve?_lenient (reaches_garden knellTag) (by decide), declarations_garden]
  rfl

/-- A knell with the tag of the gate closes the garden. -/
theorem eq_manor_of_keepsReaching {key : SectionKey}
    (kept : (estate "g").KeepsReaching manor key) : key = manor := by
  induction kept with
  | root => rfl
  | @onward owner target tag declaration navigate _ _ last nested inductionHypothesis =>
    rw [inductionHypothesis, declarations_manor, lastTagged?_cons, lastTagged?_cons] at last
    by_cases taken : "g" = tag
    · have isKnell : knell "g" = declaration := by
        simpa [lastTagged?, knell, gate, taken] using last
      rw [← isKnell] at nested
      cases nested
    · simp [lastTagged?, knell, gate, taken] at last

theorem holdsLeaf_rose (knellTag : String) :
    (lenient (estate knellTag) manor).HoldsLeaf garden roseLeaf :=
  ⟨rose.accessor garden, rfl, .inr ⟨"r", resolve?_rose knellTag⟩⟩

theorem uniqueNames_estate : (estate "k").UniqueNames := by decide

/-- With a tag of its own the knell takes nothing from the gate. -/
theorem not_contested_estate {owner : SectionKey}
    (reached : (estate "k").Reaches manor owner) : ¬ (estate "k").Contested owner := by
  have known : owner = manor ∨ owner = garden := by
    induction reached with
    | root => exact .inl rfl
    | @onward owner target declaration navigate _ listed _ nested inductionHypothesis =>
      rcases inductionHypothesis with rfl | rfl
      · rw [declarations_manor, List.mem_cons, List.mem_singleton] at listed
        rcases listed with rfl | rfl
        · cases nested
          exact .inr rfl
        · cases nested
      · rw [declarations_garden, List.mem_singleton] at listed
        subst listed
        cases nested
  rintro ⟨left, leftListed, right, rightListed, -, sameTag, different⟩
  rcases known with rfl | rfl
  · rw [declarations_manor, List.mem_cons, List.mem_singleton] at leftListed rightListed
    rcases leftListed with rfl | rfl <;> rcases rightListed with rfl | rfl
    · exact different rfl
    · exact absurd sameTag (by decide)
    · exact absurd sameTag (by decide)
    · exact different rfl
  · rw [declarations_garden, List.mem_singleton] at leftListed rightListed
    exact different (leftListed ▸ rightListed ▸ rfl)

/-- The strict registry of the manor. -/
def strictEstate : Registry String :=
  ({ policy := .reject } : Registry String).filled (estate "k") manor

theorem alike_strictEstate : strictEstate.Alike (lenient (estate "k") manor) := by
  obtain ⟨tables, filled⟩ :=
    Tables.exists_ofAtlas_reject_iff.2 fun _ reached => not_contested_estate reached
  exact alike_lenient_of_ofAtlas_reject filled

theorem rooted_strictEstate : strictEstate.root? = some steward.root :=
  alike_strictEstate.root.trans (root?_lenient (estate "k") manor)

theorem holdsLeaf_rose_strict : strictEstate.HoldsLeaf garden roseLeaf :=
  ⟨rose.accessor garden, rfl,
    .inr ⟨"r", (alike_strictEstate.resolve garden "r").trans (resolve?_rose "k")⟩⟩

end Sample.Estate

open Sample.Estate

theorem rose_has_identifier_through_gate :
    (Workspace.after (estate "k") (estateHistory .reject)).compiler? 0 =
        some (steward, strictEstate) ∧
      strictEstate.root? = some steward.root ∧ strictEstate.policy = .reject ∧
      (estate "k").UniqueNames ∧ strictEstate.HoldsLeaf garden roseLeaf ∧
      (estate "k").KeepsReaching manor garden ∧ steward.EndsAt strictEstate roseLeaf := by
  have made := compiler?_estateHistory .reject "k"
  obtain ⟨each, all, strict⟩ :=
    leaves_have_identifiers_where_tags_lead (estate "k") (estateHistory .reject) made
      rooted_strictEstate
  have ends := all (strict rfl uniqueNames_estate) garden roseLeaf holdsLeaf_rose_strict
  obtain ⟨identifier, shape, shaped, sameLeaf⟩ := ends
  have kept := (each garden roseLeaf holdsLeaf_rose_strict).2 identifier shape shaped
    (congrArg Leaf.member sameLeaf)
  exact ⟨made, rooted_strictEstate, rfl, uniqueNames_estate, holdsLeaf_rose_strict, kept,
    identifier, shape, shaped, sameLeaf⟩

/-- A knell takes the tag of the gate over. The rose can still be resolved and is listed, and
yet no identifier has a shape that ends at it. -/
theorem rose_is_held_without_identifier :
    (Workspace.after (estate "g") (estateHistory .lastWins)).compiler? 0 =
        some (steward, lenient (estate "g") manor) ∧
      (lenient (estate "g") manor).root? = some steward.root ∧
      (lenient (estate "g") manor).HoldsLeaf garden roseLeaf ∧
      ¬ ∃ identifier shape,
        (steward.shape (lenient (estate "g") manor) identifier).result = .ok shape ∧
          shape.leaf.member = roseLeaf.member := by
  have made := compiler?_estateHistory .lastWins "g"
  obtain ⟨sound, -⟩ := (Workspace.sound_after _ _).compiler? made
  obtain ⟨tables, found, filled⟩ := exists_tables_lenient (estate "g") manor
  refine ⟨made, root?_lenient _ _, holdsLeaf_rose "g", ?_⟩
  rintro ⟨identifier, shape, shaped, sameMember⟩
  have kept := sound.keepsReaching_of_shape found filled shaped
  rw [sameMember] at kept
  have same : garden = manor := eq_manor_of_keepsReaching kept
  cases same

end Waymark
