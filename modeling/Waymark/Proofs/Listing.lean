import Mathlib.Algebra.Order.Ring.Nat
import Mathlib.Data.List.Nodup
import Mathlib.Data.String.Basic
import Mathlib.Tactic.SplitIfs
import Waymark.Proofs.Traversal

/-!
# Listing what a registry holds

A registry lists the accessors of a section in the order of the bytes of their tags. No two
of them have one tag, so there is only one such order, and it does not matter how the tables
enumerate them. If no section declares a name twice, the members of all listings together
are those that can be written, each of them once.
-/

namespace Waymark

variable {ι : Type}

/-! ## The order of bytes -/

namespace Text

/-- The bytes of a text in UTF-8. -/
def bytes (text : String) : List UInt8 := text.toUTF8.data.toList

theorem bytes_eq_flatMap (text : String) :
    bytes text = text.toList.flatMap String.utf8EncodeChar := by
  rw [bytes, String.toUTF8_eq_toByteArray, ← String.utf8Encode_toList, List.utf8Encode,
    List.toList_data_toByteArray]

/-- Of two different characters the lower one has the lower bytes, whatever stands behind. -/
theorem utf8EncodeChar_append_lt {c d : Char} (lower : c < d) (left right : List UInt8) :
    String.utf8EncodeChar c ++ left < String.utf8EncodeChar d ++ right := by
  have below : c.val.toNat < d.val.toNat := by
    rw [Char.lt_def, UInt32.lt_iff_toNat_lt] at lower
    exact lower
  have bound : d.val.toNat < 0x110000 := by
    have valid := d.valid
    unfold UInt32.isValidChar Nat.isValidChar at valid
    omega
  -- Nested divisions by 64 are what the leading digits of both code points are compared by.
  have nested (v : Nat) : v / 4096 = v / 64 / 64 ∧ v / 262144 = v / 64 / 64 / 64 := by omega
  unfold String.utf8EncodeChar
  generalize c.val.toNat = v at *
  generalize d.val.toNat = w at *
  dsimp only
  simp only [nested]
  split_ifs <;>
    simp only [List.cons_append, List.nil_append, List.cons_lt_cons_iff,
      UInt8.lt_iff_toNat_lt, UInt8.toNat_ofNat', ← UInt8.toNat_inj] <;>
    omega

theorem flatMap_utf8EncodeChar_lt {left right : List Char} (lower : left < right) :
    left.flatMap String.utf8EncodeChar < right.flatMap String.utf8EncodeChar := by
  induction left generalizing right with
  | nil =>
    cases right with
    | nil => exact absurd lower (List.lt_irrefl [])
    | cons d right =>
      obtain ⟨first, rest, encoded⟩ :=
        List.exists_cons_of_ne_nil (String.utf8EncodeChar_ne_nil : String.utf8EncodeChar d ≠ [])
      rw [List.flatMap_nil, List.flatMap_cons, encoded, List.cons_append]
      exact List.nil_lt_cons first _
  | cons c left inductionHypothesis =>
    cases right with
    | nil => exact absurd lower (List.not_lt_nil _)
    | cons d right =>
      rw [List.flatMap_cons, List.flatMap_cons]
      rcases List.cons_lt_cons_iff.1 lower with lowerFirst | ⟨rfl, lowerRest⟩
      · exact utf8EncodeChar_append_lt lowerFirst _ _
      · exact List.append_left_lt (inductionHypothesis lowerRest)

theorem bytes_lt_of_lt {left right : String} (lower : left < right) :
    bytes left < bytes right := by
  rw [bytes_eq_flatMap, bytes_eq_flatMap]
  exact flatMap_utf8EncodeChar_lt (String.lt_iff_toList_lt.1 lower)

/-- Texts are ordered by code points as they are by their bytes. -/
theorem bytes_lt_bytes_iff {left right : String} :
    bytes left < bytes right ↔ left < right := by
  refine ⟨?_, bytes_lt_of_lt⟩
  intro lower
  rcases lt_trichotomy left right with lowerText | rfl | higherText
  · exact lowerText
  · exact absurd lower (List.lt_irrefl _)
  · exact absurd lower (List.lt_asymm (bytes_lt_of_lt higherText))

theorem bytes_le_bytes_iff {left right : String} :
    bytes left ≤ bytes right ↔ left ≤ right := by
  rw [← List.not_lt, ← String.not_lt, bytes_lt_bytes_iff]

end Text

namespace Tables

variable {tables : Tables ι} {owner : SectionKey}

/-! ## Sections in order -/

theorem pairwise_mergeSort_tag (accessors : List (Accessor ι)) :
    (accessors.mergeSort fun left right => left.tag ≤ right.tag).Pairwise
      fun left right => left.tag ≤ right.tag := by
  have transitive (left middle right : Accessor ι) (first : decide (left.tag ≤ middle.tag))
      (second : decide (middle.tag ≤ right.tag)) : decide (left.tag ≤ right.tag) :=
    decide_eq_true ((of_decide_eq_true first).trans (of_decide_eq_true second))
  have total (left right : Accessor ι) :
      (decide (left.tag ≤ right.tag) || decide (right.tag ≤ left.tag)) = true := by
    simpa using le_total left.tag right.tag
  simpa only [decide_eq_true_eq] using List.pairwise_mergeSort transitive total accessors

theorem mem_membersOf_iff_exists {accessor : Accessor ι} :
    accessor ∈ tables.membersOf owner ↔ ∃ tag, tables.resolve? owner tag = some accessor := by
  simp only [membersOf, List.mem_mergeSort, List.mem_map, List.mem_filter, decide_eq_true_eq,
    resolve?, Dict.get?_eq_some_iff]
  constructor
  · rintro ⟨⟨⟨_, tag⟩, _⟩, ⟨listed, rfl⟩, rfl⟩
    exact ⟨tag, listed⟩
  · rintro ⟨tag, listed⟩
    exact ⟨((owner, tag), accessor), ⟨listed, rfl⟩, rfl⟩

theorem mem_flatMap_membersOf_iff {sections : List SectionKey} {accessor : Accessor ι} :
    accessor ∈ sections.flatMap tables.membersOf ↔
      ∃ owner ∈ sections, ∃ tag, tables.resolve? owner tag = some accessor := by
  simp only [List.mem_flatMap, mem_membersOf_iff_exists]

theorem mem_keys_tagOf_iff {member : Member} :
    member ∈ tables.tagOf.keys ↔ ∃ tag, tables.tag? member = some tag := by
  rw [← Option.isSome_iff_exists]
  exact (tables.tagOf.contains_iff member).symm

namespace Coherent

variable (coherent : Coherent tables)

include coherent

theorem resolve?_eq_some_of_exists {accessor : Accessor ι}
    (held : ∃ tag, tables.resolve? owner tag = some accessor) :
    tables.resolve? owner accessor.tag = some accessor := by
  obtain ⟨tag, found⟩ := held
  rw [coherent.tag_eq found, found]

theorem mem_membersOf_iff {accessor : Accessor ι} :
    accessor ∈ tables.membersOf owner ↔
      tables.resolve? owner accessor.tag = some accessor := by
  rw [mem_membersOf_iff_exists]
  exact ⟨coherent.resolve?_eq_some_of_exists, fun found => ⟨_, found⟩⟩

/-- Accessors of one section that have one tag are one accessor. -/
theorem eq_of_tag_eq {left right : Accessor ι}
    (leftHeld : ∃ tag, tables.resolve? owner tag = some left)
    (rightHeld : ∃ tag, tables.resolve? owner tag = some right)
    (same : left.tag = right.tag) : left = right := by
  have leftFound := coherent.resolve?_eq_some_of_exists leftHeld
  rw [same, coherent.resolve?_eq_some_of_exists rightHeld] at leftFound
  exact (Option.some.inj leftFound).symm

theorem nodup_tags_membersOf : ((tables.membersOf owner).map Accessor.tag).Nodup := by
  rw [membersOf, ((List.mergeSort_perm _ _).map Accessor.tag).nodup_iff, List.map_map]
  -- The keys of the entries are their tags, each with the section in front.
  apply List.Nodup.of_map (Prod.mk owner)
  rw [List.map_map]
  have keys : (tables.byTag.entries.filter fun entry => entry.1.1 = owner).map
      (Prod.mk owner ∘ Accessor.tag ∘ Prod.snd) =
      (tables.byTag.entries.filter fun entry => entry.1.1 = owner).map Prod.fst := by
    apply List.map_congr_left
    rintro ⟨⟨section', tag⟩, accessor⟩ listed
    rw [List.mem_filter, decide_eq_true_eq] at listed
    obtain ⟨listed, rfl⟩ := listed
    exact congrArg (Prod.mk section') (coherent.tag_eq (tables.byTag.get?_eq_some_iff.2 listed))
  rw [keys]
  exact (List.filter_sublist.map Prod.fst).nodup tables.byTag.nodupKeys

theorem pairwise_membersOf :
    (tables.membersOf owner).Pairwise fun left right => left.tag < right.tag := by
  have sorted : (tables.membersOf owner).Pairwise fun left right => left.tag ≤ right.tag :=
    pairwise_mergeSort_tag _
  have distinct : (tables.membersOf owner).Pairwise fun left right => left.tag ≠ right.tag :=
    List.pairwise_map.1 coherent.nodup_tags_membersOf
  exact sorted.imp₂ (fun _ _ => lt_of_le_of_ne) distinct

/-- However the accessors of a section are enumerated, sorting gives the same list. -/
theorem mergeSort_eq_membersOf {enumerated : List (Accessor ι)} (nodup : enumerated.Nodup)
    (complete : ∀ accessor, accessor ∈ enumerated ↔
      ∃ tag, tables.resolve? owner tag = some accessor) :
    (enumerated.mergeSort fun left right => left.tag ≤ right.tag) = tables.membersOf owner := by
  have ascending : (tables.membersOf owner).Pairwise fun left right => left.tag < right.tag :=
    coherent.pairwise_membersOf
  have nodupListed : (tables.membersOf owner).Nodup := coherent.nodup_tags_membersOf.of_map
  have permuted : enumerated.Perm (tables.membersOf owner) := by
    rw [List.perm_ext_iff_of_nodup nodup nodupListed]
    intro accessor
    rw [complete, mem_membersOf_iff_exists]
  apply List.Perm.eq_of_pairwise _ (pairwise_mergeSort_tag enumerated)
    (ascending.imp fun lower => lower.le) ((List.mergeSort_perm _ _).trans permuted)
  intro left right leftListed rightListed lower higher
  rw [List.mem_mergeSort, complete] at leftListed
  rw [mem_membersOf_iff_exists] at rightListed
  exact coherent.eq_of_tag_eq leftListed rightListed (le_antisymm lower higher)

/-! ## All sections together -/

variable {sections : List SectionKey}

theorem nodup_flatMap_membersOf (nodup : sections.Nodup) :
    (sections.flatMap tables.membersOf).Nodup := by
  rw [List.nodup_flatMap]
  refine ⟨fun owner _ => coherent.nodup_tags_membersOf.of_map, nodup.imp ?_⟩
  intro left right different accessor leftListed rightListed
  rw [mem_membersOf_iff_exists] at leftListed rightListed
  obtain ⟨leftTag, leftFound⟩ := leftListed
  obtain ⟨rightTag, rightFound⟩ := rightListed
  exact different ((coherent.owner_eq leftFound).symm.trans (coherent.owner_eq rightFound))

/-- A member that can be written has one accessor: it stands on one section, and has one tag
on the writing side. -/
theorem eq_of_member_eq (writable : Writable tables) {left right : Accessor ι}
    {leftOwner rightOwner : SectionKey} {leftTag rightTag : String}
    (leftFound : tables.resolve? leftOwner leftTag = some left)
    (rightFound : tables.resolve? rightOwner rightTag = some right)
    (same : left.member = right.member) : left = right := by
  have sameOwner : leftOwner = rightOwner := by
    rw [← coherent.owner_eq leftFound, ← coherent.owner_eq rightFound, Accessor.owner, same,
      Accessor.owner]
  have sameTag : leftTag = rightTag := by
    have tagged := writable _ _ _ leftFound
    rw [same, writable _ _ _ rightFound, Option.some.injEq] at tagged
    exact tagged.symm
  rw [sameOwner, sameTag, rightFound, Option.some.injEq] at leftFound
  exact leftFound.symm

theorem nodup_members (writable : Writable tables) (nodup : sections.Nodup) :
    ((sections.flatMap tables.membersOf).map Accessor.member).Nodup := by
  refine List.Nodup.map_on ?_ (coherent.nodup_flatMap_membersOf nodup)
  intro left leftListed right rightListed same
  obtain ⟨leftOwner, -, leftTag, leftFound⟩ := mem_flatMap_membersOf_iff.1 leftListed
  obtain ⟨rightOwner, -, rightTag, rightFound⟩ := mem_flatMap_membersOf_iff.1 rightListed
  exact coherent.eq_of_member_eq writable leftFound rightFound same

/-- If every accessor can be written, the members of all sections are those with a tag on the
writing side. -/
theorem perm_keys_tagOf (writable : Writable tables) (nodup : sections.Nodup)
    (complete : ∀ owner tag accessor, tables.resolve? owner tag = some accessor →
      owner ∈ sections) :
    ((sections.flatMap tables.membersOf).map Accessor.member).Perm tables.tagOf.keys := by
  refine (List.perm_ext_iff_of_nodup (coherent.nodup_members writable nodup)
    tables.tagOf.nodupKeys).2 ?_
  intro member
  refine Iff.trans ?_ mem_keys_tagOf_iff.symm
  rw [List.mem_map]
  constructor
  · rintro ⟨accessor, listed, rfl⟩
    obtain ⟨owner, -, tag, found⟩ := mem_flatMap_membersOf_iff.1 listed
    exact ⟨tag, writable _ _ _ found⟩
  · rintro ⟨tag, written⟩
    obtain ⟨accessor, found, named, -⟩ := coherent.resolves written
    exact ⟨accessor, mem_flatMap_membersOf_iff.2 ⟨_, complete _ _ _ found, _, found⟩, named⟩

theorem size_eq_sum (writable : Writable tables) (nodup : sections.Nodup)
    (complete : ∀ owner tag accessor, tables.resolve? owner tag = some accessor →
      owner ∈ sections) :
    tables.size = (sections.map fun owner => (tables.membersOf owner).length).sum := by
  have lengths := (coherent.perm_keys_tagOf writable nodup complete).length_eq
  rw [List.length_map, List.length_flatMap, Dict.keys, List.length_map] at lengths
  exact lengths.symm

end Coherent

end Tables

/-! ## Listings of a registry -/

namespace Registry

variable {registry : Registry ι} {tables : Tables ι} {owner : SectionKey}

/-- Whether a list shows what a registry finds on a section. The bytes of the tags ascend
strictly, and whatever is listed is what its own tag finds there, once. In whatever order the
accessors of the section come, sorting them gives the list. -/
structure ListsInOrder (registry : Registry ι) (owner : SectionKey)
    (listed : List (Accessor ι)) : Prop where
  ascending : listed.Pairwise fun left right => Text.bytes left.tag < Text.bytes right.tag
  mem_iff (accessor : Accessor ι) :
    accessor ∈ listed ↔ registry.resolve? owner accessor.tag = some accessor
  nodup : listed.Nodup
  sorted (enumerated : List (Accessor ι)) : enumerated.Nodup →
    (∀ accessor, accessor ∈ enumerated ↔
      ∃ tag, registry.resolve? owner tag = some accessor) →
    (enumerated.mergeSort fun left right => Text.bytes left.tag ≤ Text.bytes right.tag) = listed

theorem membersOf_of_tables (found : registry.tables = .ok tables) (owner : SectionKey) :
    registry.membersOf owner = tables.membersOf owner := by
  rw [membersOf, tables?_of_tables found]

theorem size_of_tables (found : registry.tables = .ok tables) : registry.size = tables.size := by
  rw [size, tables?_of_tables found]

theorem listsInOrder_of_tables (found : registry.tables = .ok tables)
    (coherent : tables.Coherent) (owner : SectionKey) :
    registry.ListsInOrder owner (registry.membersOf owner) := by
  rw [membersOf_of_tables found]
  constructor
  case ascending =>
    exact coherent.pairwise_membersOf.imp fun lower => Text.bytes_lt_bytes_iff.2 lower
  case mem_iff =>
    intro accessor
    rw [coherent.mem_membersOf_iff, resolve?_of_tables found]
  case nodup => exact coherent.nodup_tags_membersOf.of_map
  case sorted =>
    intro enumerated nodup complete
    simp only [resolve?_of_tables found] at complete
    simp only [Text.bytes_le_bytes_iff]
    exact coherent.mergeSort_eq_membersOf nodup complete

end Registry

/-- The listings of a filled registry agree with its lookups and with each other. Every
section is listed in order. If no section declares a name twice, then the size of the
registry is that of the listings of all sections that the itinerary enters, and every member
that is listed is written with the tag it is listed with. -/
theorem listings_agree
    (atlas : Atlas ι) (operations : List Operation) {registry : Registry ι} {root : SectionKey}
    (made : registry ∈ (Workspace.after atlas operations).registries)
    (rooted : registry.root? = some root) :
    (∀ owner, registry.ListsInOrder owner (registry.membersOf owner)) ∧
      (atlas.UniqueNames →
        registry.size =
            ((entered (atlas.itinerary root)).map fun owner =>
              (registry.membersOf owner).length).sum ∧
          ∀ owner, ∀ accessor ∈ registry.membersOf owner,
            registry.tag? accessor.member = some accessor.tag) := by
  have filledBy := (Workspace.sound_after atlas operations).registries registry made
  obtain ⟨tables, found, filled⟩ := filledBy.exists_tables rooted
  have coherent := Tables.coherent_ofAtlas filled
  refine ⟨Registry.listsInOrder_of_tables found coherent, ?_⟩
  intro uniqueNames
  have writable := Tables.writable_ofAtlas uniqueNames filled
  constructor
  · rw [Registry.size_of_tables found]
    simp only [Registry.membersOf_of_tables found]
    apply coherent.size_eq_sum writable (Atlas.nodup_entered_itinerary atlas root)
    intro owner tag accessor resolved
    obtain ⟨described, -⟩ := (Tables.resolve?_ofAtlas_eq_some_iff filled).1 resolved
    exact mem_entered_iff.2 described
  · intro owner accessor listed
    rw [Registry.membersOf_of_tables found, coherent.mem_membersOf_iff] at listed
    rw [Registry.tag?_of_tables found]
    exact writable _ _ _ listed

open Sample.Gallery

theorem ring_listings_agree :
    ringRegistry ∈ (Workspace.after halls ringHistory).registries ∧
      ringRegistry.root? = some ringHall ∧ halls.UniqueNames ∧
      (∀ owner, ringRegistry.ListsInOrder owner (ringRegistry.membersOf owner)) ∧
      (ringRegistry.membersOf ringHall).length = 3 ∧ ringRegistry.size = 3 := by
  obtain ⟨inOrder, sizes⟩ :=
    listings_agree halls ringHistory ringRegistry_mem root?_ringRegistry
  have listed : (ringRegistry.membersOf ringHall).length = 3 := by
    rw [Registry.membersOf, Registry.tables?, Registry.tables, outcome_ringRegistry]
    exact (List.length_mergeSort _).trans rfl
  refine ⟨ringRegistry_mem, root?_ringRegistry, uniqueNames_halls, inOrder, listed, ?_⟩
  rw [(sizes uniqueNames_halls).1, itinerary_ringHall, declarations_ringHall]
  simp [entered, listed]

end Waymark
