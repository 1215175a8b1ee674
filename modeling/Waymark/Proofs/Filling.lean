import Waymark.Compiler
import Waymark.Encoding
import Waymark.Proofs.DepthFirst
import Waymark.Proofs.Lookup
import Waymark.Proofs.RoundTrip

/-!
# Filling a registry

A registry that lets tags be taken over can be filled from every root. It then describes
the sections that the root reaches, and finds on each of them the last declaration of every
valid tag. Which sections were read before or in between does not matter, nor do
declarations whose tag no identifier can spell.
-/

namespace Waymark

variable {ι : Type}

/-! ## Filling without refusals -/

/-- The section whose description a notice reports. -/
def Notice.described? : Notice → Option SectionKey
  | .describing key => some key
  | _ => none

namespace Tables

variable {policy : CollisionPolicy} {tables final : Tables ι} {events : List (Event ι)}

theorem exists_register_lastWins (tables : Tables ι) (accessor : Accessor ι) :
    ∃ next, tables.register .lastWins accessor = .ok next := by
  unfold register
  split
  · cases tables.rival? accessor with
    | none => exact ⟨_, rfl⟩
    | some rival => exact ⟨_, rfl⟩
  · exact ⟨tables, rfl⟩

theorem exists_takeAll_lastWins (tables : Tables ι) (events : List (Event ι)) :
    ∃ final, takeAll .lastWins tables events = .ok final := by
  induction events generalizing tables with
  | nil => exact ⟨tables, rfl⟩
  | cons event rest inductionHypothesis =>
    have step : ∃ next, tables.take .lastWins event = .ok next := by
      cases event with
      | enter key => exact ⟨tables, rfl⟩
      | declare owner declaration => exact tables.exists_register_lastWins _
    obtain ⟨next, first⟩ := step
    obtain ⟨final, later⟩ := inductionHypothesis next
    exact ⟨final, takeAll_cons_eq_ok.2 ⟨next, first, later⟩⟩

theorem filterMap_described_registerNotices (policy : CollisionPolicy) (tables : Tables ι)
    (accessor : Accessor ι) :
    (tables.registerNotices policy accessor).filterMap Notice.described? = [] := by
  unfold registerNotices
  split
  · split <;> rfl
  · rfl

/-- Events that are all taken report the sections they enter, one after the other. -/
theorem filterMap_described_takeAllNotices
    (taken : takeAll policy tables events = .ok final) :
    (takeAllNotices policy tables events).filterMap Notice.described? = entered events := by
  induction events generalizing tables with
  | nil => rfl
  | cons event rest inductionHypothesis =>
    obtain ⟨next, first, later⟩ := takeAll_cons_eq_ok.1 taken
    rw [takeAllNotices, first, List.filterMap_append]
    dsimp only
    rw [inductionHypothesis later]
    cases event with
    | enter key => rfl
    | declare owner declaration =>
      rw [takeNotices, filterMap_described_registerNotices, entered, List.nil_append]

end Tables

/-! ## Declarations that no identifier can spell -/

/-- Whether an identifier can spell what an event declares. -/
def Event.isSpellable : Event ι → Bool
  | .enter _ => true
  | .declare _ declaration => isValidTag declaration.tag

namespace Atlas

variable (atlas : Atlas ι)

/-- The atlas without the declarations whose tag no identifier can spell. -/
def spellable : Atlas ι where
  pages := atlas.pages.mapValues fun page => page.filter fun declaration =>
    isValidTag declaration.tag

theorem declarations_spellable (key : SectionKey) :
    atlas.spellable.declarations key =
      (atlas.declarations key).filter fun declaration => isValidTag declaration.tag := by
  rw [declarations, declarations, spellable, Dict.get?_mapValues]
  cases atlas.pages.get? key <;> rfl

theorem filter_isSpellable_onward {declaration : Declaration ι} (pending : List (Event ι)) :
    (declaration.onward pending).filter Event.isSpellable =
      declaration.onward (pending.filter Event.isSpellable) := by
  unfold Declaration.onward
  cases declaration.leadsTo? <;> rfl

/-- What cannot be spelled leads nowhere, so the reading goes the same way without it. -/
theorem eventsFrom_spellable (visited : List SectionKey) (pending : List (Event ι)) :
    atlas.spellable.eventsFrom visited (pending.filter Event.isSpellable) =
      (atlas.eventsFrom visited pending).filter Event.isSpellable := by
  induction visited, pending using eventsFrom_induction atlas with
  | nil visited => simp [eventsFrom]
  | again visited key pending known inductionHypothesis =>
    rw [atlas.eventsFrom_enter_of_visited known, ← inductionHypothesis]
    exact atlas.spellable.eventsFrom_enter_of_visited known _
  | first visited key pending fresh inductionHypothesis =>
    rw [List.filter_append, List.filter_map] at inductionHypothesis
    have listed : (atlas.declarations key).filter (Event.isSpellable ∘ Event.declare key) =
        atlas.spellable.declarations key := (atlas.declarations_spellable key).symm
    rw [atlas.eventsFrom_enter_of_fresh fresh, List.filter_cons_of_pos rfl,
      List.filter_cons_of_pos rfl, ← inductionHypothesis, listed]
    exact atlas.spellable.eventsFrom_enter_of_fresh fresh _
  | declare visited owner declaration pending inductionHypothesis =>
    rw [eventsFrom_declare]
    by_cases spelled : (Event.declare owner declaration).isSpellable = true
    · rw [List.filter_cons_of_pos spelled, List.filter_cons_of_pos spelled, eventsFrom_declare,
        ← inductionHypothesis, filter_isSpellable_onward]
    · -- What the one reading drops, the other passes without following it.
      have ends : declaration.leadsTo? = none := if_neg spelled
      rw [List.filter_cons_of_neg spelled, List.filter_cons_of_neg spelled,
        ← inductionHypothesis, Declaration.onward, ends]

theorem itinerary_spellable (root : SectionKey) :
    atlas.spellable.itinerary root = (atlas.itinerary root).filter Event.isSpellable :=
  atlas.eventsFrom_spellable [] [.enter root]

end Atlas

namespace Tables

theorem take_of_not_isSpellable (policy : CollisionPolicy) (tables : Tables ι) {event : Event ι}
    (mute : ¬ event.isSpellable = true) : tables.take policy event = .ok tables := by
  cases event with
  | enter key => exact absurd rfl mute
  | declare owner declaration =>
    unfold take register
    exact if_neg mute

theorem takeAll_filter_isSpellable (policy : CollisionPolicy) (tables : Tables ι)
    (events : List (Event ι)) :
    takeAll policy tables (events.filter Event.isSpellable) = takeAll policy tables events := by
  induction events generalizing tables with
  | nil => rfl
  | cons event rest inductionHypothesis =>
    by_cases spelled : event.isSpellable = true
    · rw [List.filter_cons_of_pos spelled, takeAll, takeAll]
      cases tables.take policy event with
      | ok next => exact inductionHypothesis next
      | error error => rfl
    · rw [List.filter_cons_of_neg spelled, inductionHypothesis, takeAll,
        take_of_not_isSpellable policy tables spelled]

theorem ofAtlas_spellable (policy : CollisionPolicy) (atlas : Atlas ι) (root : SectionKey) :
    ofAtlas policy atlas.spellable root = ofAtlas policy atlas root := by
  rw [ofAtlas, ofAtlas, atlas.itinerary_spellable, takeAll_filter_isSpellable]

end Tables

/-! ## Registries that answer alike -/

namespace Registry

/-- Whether two registries give the same answers: to every lookup, to every path, and to
whatever a compiler asks, with all that it has kept. -/
structure Alike (left right : Registry ι) : Prop where
  root : left.root? = right.root?
  resolve (owner : SectionKey) (tag : String) : left.resolve? owner tag = right.resolve? owner tag
  tag (member : Member) : left.tag? member = right.tag? member
  parameterTag (member : Member) (position : Nat) :
    left.parameterTag? member position = right.parameterTag? member position
  membersOf (owner : SectionKey) : left.membersOf owner = right.membersOf owner
  size : left.size = right.size
  encode (path : Path) : left.encode path = right.encode path
  shape (compiler : Compiler ι) (identifier : String) :
    compiler.shape left identifier = compiler.shape right identifier
  build (compiler : Compiler ι) (label : Label) :
    compiler.build left label = compiler.build right label

/-- All answers come from the tables. -/
theorem alike_of_tables_eq {left right : Registry ι} (same : left.tables = right.tables) :
    left.Alike right where
  root := by rw [root?, root?, tables?, tables?, same]
  resolve owner tag := by rw [resolve?, resolve?, tables?, tables?, same]
  tag member := by rw [tag?, tag?, tables?, tables?, same]
  parameterTag member position := by
    rw [parameterTag?, parameterTag?, tables?, tables?, same]
  membersOf owner := by rw [Registry.membersOf, Registry.membersOf, tables?, tables?, same]
  size := by rw [Registry.size, Registry.size, tables?, tables?, same]
  encode path := by rw [Registry.encode, Registry.encode, same]
  shape compiler identifier := by
    simp only [Compiler.shape, Registry.compile, same]
  build compiler label := by
    simp only [Compiler.build, Compiler.shape, Registry.compile, same]

variable {registry : Registry ι} {tables : Tables ι}

theorem tables_filled (policy : CollisionPolicy) (atlas : Atlas ι) (root : SectionKey) :
    (({ policy } : Registry ι).filled atlas root).tables = Tables.ofAtlas policy atlas root := rfl

theorem resolve?_of_tables (found : registry.tables = .ok tables) (owner : SectionKey)
    (tag : String) : registry.resolve? owner tag = tables.resolve? owner tag := by
  rw [resolve?, tables?, found]
  rfl

theorem fillResult_new (policy : CollisionPolicy) (atlas : Atlas ι) (root : SectionKey) :
    ({ policy } : Registry ι).fillResult atlas root =
      (Tables.ofAtlas policy atlas root).map fun _ => () := by
  rw [fillResult, serves, tables_filled]
  cases filled : Tables.ofAtlas policy atlas root with
  | error error => rfl
  | ok tables => exact if_pos (Tables.root_ofAtlas filled)

theorem fillResult_new_eq_ok_iff {policy : CollisionPolicy} {atlas : Atlas ι} {root : SectionKey} :
    ({ policy } : Registry ι).fillResult atlas root = .ok () ↔
      ∃ tables, Tables.ofAtlas policy atlas root = .ok tables := by
  rw [fillResult_new]
  cases Tables.ofAtlas policy atlas root <;> simp [Except.map]

theorem fillResult_new_eq_error_iff {policy : CollisionPolicy} {atlas : Atlas ι}
    {root : SectionKey} {error : LabelError} :
    ({ policy } : Registry ι).fillResult atlas root = .error error ↔
      Tables.ofAtlas policy atlas root = .error error := by
  rw [fillResult_new]
  cases Tables.ofAtlas policy atlas root <;> simp [Except.map]

/-! ## What a lenient registry finds -/

/-- A new registry that lets tags be taken over, filled from a root. -/
def lenient (atlas : Atlas ι) (root : SectionKey) : Registry ι :=
  ({ policy := .lastWins } : Registry ι).filled atlas root

/-- The sections that filling a new lenient registry describes, as it reports them. -/
def describedSections (atlas : Atlas ι) (root : SectionKey) : List SectionKey :=
  (({ policy := .lastWins } : Registry ι).fillNotices atlas root).filterMap Notice.described?

variable {atlas : Atlas ι} {root owner : SectionKey}

theorem exists_tables_lenient (atlas : Atlas ι) (root : SectionKey) :
    ∃ tables, (lenient atlas root).tables = .ok tables ∧
      Tables.ofAtlas .lastWins atlas root = .ok tables := by
  obtain ⟨tables, filled⟩ :=
    Tables.exists_takeAll_lastWins { root } (atlas.itinerary root)
  exact ⟨tables, filled, filled⟩

theorem tables_lenient (atlas : Atlas ι) (root : SectionKey) :
    (lenient atlas root).tables =
      Tables.takeAll .lastWins { root } (atlas.itinerary root) := rfl

theorem root?_lenient (atlas : Atlas ι) (root : SectionKey) :
    (lenient atlas root).root? = some root := by
  obtain ⟨tables, found, filled⟩ := exists_tables_lenient atlas root
  rw [root?, tables?_of_tables found, Option.map_some, Tables.root_ofAtlas filled]

theorem describedSections_eq_entered (atlas : Atlas ι) (root : SectionKey) :
    describedSections atlas root = entered (atlas.itinerary root) := by
  obtain ⟨tables, -, filled⟩ := exists_tables_lenient atlas root
  rw [Tables.ofAtlas] at filled
  have reported := Tables.filterMap_described_takeAllNotices filled
  rw [describedSections, fillNotices]
  simp only [Tables.ofAtlasNotices, filled, List.filterMap_append, reported]
  exact List.append_nil _

theorem resolve?_lenient (reached : atlas.Reaches root owner) {tag : String}
    (valid : isValidTag tag = true) :
    (lenient atlas root).resolve? owner tag =
      (lastTagged? tag (atlas.declarations owner)).map
        fun declaration => declaration.accessor owner := by
  obtain ⟨tables, found, filled⟩ := exists_tables_lenient atlas root
  have described : atlas.Describes root owner := Atlas.describes_iff_reaches.2 reached
  rw [resolve?_of_tables found, Tables.resolve?_takeAll filled owner valid,
    Atlas.declaredOn_itinerary_of_describes described, Tables.resolve?_empty, Option.or_none]

theorem resolve?_lenient_eq_none {tag : String}
    (out : ¬ (atlas.Reaches root owner ∧ isValidTag tag = true)) :
    (lenient atlas root).resolve? owner tag = none := by
  obtain ⟨tables, found, filled⟩ := exists_tables_lenient atlas root
  rw [resolve?_of_tables found, Option.eq_none_iff_forall_ne_some]
  intro accessor resolved
  obtain ⟨described, valid, -⟩ := (Tables.resolve?_ofAtlas_eq_some_iff filled).1 resolved
  exact out ⟨Atlas.describes_iff_reaches.1 described, valid⟩

end Registry

open Registry

/-- What filling computes if tags may be taken over. It always succeeds. The sections it
describes come in depth-first order, each of them once, and are those that the root reaches
by valid tags. On each of them a valid tag names the last declaration that has it, and
nothing is found anywhere else. So registries of different roots agree on the sections that
both reach, and declarations that no identifier can spell could as well be missing. -/
theorem lenient_finds_last_declarations (atlas : Atlas ι) (root : SectionKey) :
    ({ policy := .lastWins } : Registry ι).fillResult atlas root = .ok () ∧
      (∃ events left, atlas.DepthFirst [] [.enter root] events left ∧
        describedSections atlas root = entered events) ∧
      (describedSections atlas root).Nodup ∧
      (∀ key, key ∈ describedSections atlas root ↔ atlas.Reaches root key) ∧
      (∀ owner tag, atlas.Reaches root owner → isValidTag tag = true →
        (lenient atlas root).resolve? owner tag =
          (lastTagged? tag (atlas.declarations owner)).map
            fun declaration => declaration.accessor owner) ∧
      (∀ owner tag, ¬ (atlas.Reaches root owner ∧ isValidTag tag = true) →
        (lenient atlas root).resolve? owner tag = none) ∧
      (∀ other owner tag, atlas.Reaches root owner → atlas.Reaches other owner →
        (lenient atlas root).resolve? owner tag = (lenient atlas other).resolve? owner tag) ∧
      (lenient atlas.spellable root).Alike (lenient atlas root) := by
  have sections := describedSections_eq_entered atlas root
  refine ⟨?succeeds, ?depthFirst, ?once, ?reached, ?found, ?nothing, ?agree, ?spelled⟩
  case succeeds =>
    obtain ⟨tables, -, filled⟩ := exists_tables_lenient atlas root
    exact fillResult_new_eq_ok_iff.2 ⟨tables, filled⟩
  case depthFirst =>
    obtain ⟨left, reading⟩ := Atlas.exists_depthFirst_iff.2 (Eq.refl (atlas.itinerary root))
    exact ⟨atlas.itinerary root, left, reading, sections⟩
  case once =>
    rw [sections]
    exact atlas.nodup_entered_itinerary root
  case reached =>
    intro key
    rw [sections]
    exact Atlas.mem_entered_itinerary_iff
  case found => exact fun owner tag reached valid => resolve?_lenient reached valid
  case nothing => exact fun owner tag out => resolve?_lenient_eq_none out
  case agree =>
    intro other owner tag reached reachedOther
    by_cases valid : isValidTag tag = true
    · rw [resolve?_lenient reached valid, resolve?_lenient reachedOther valid]
    · rw [resolve?_lenient_eq_none fun both => valid both.2,
        resolve?_lenient_eq_none fun both => valid both.2]
  case spelled =>
    apply alike_of_tables_eq
    rw [lenient, lenient, tables_filled, tables_filled, Tables.ofAtlas_spellable]

namespace Sample.Gallery

/-- The section of the gallery that declares one tag for two names. -/
def collidingHall : SectionKey := Room.key 0 "gallery" .colliding

end Sample.Gallery

open Sample.Gallery

theorem lenient_finds_second_in_collidingHall :
    halls.Reaches collidingHall collidingHall ∧ isValidTag "x" = true ∧
      (lenient halls collidingHall).resolve? collidingHall "x" =
        some ⟨⟨collidingHall, "second"⟩, "x", .text fun _ => "second"⟩ := by
  have reached : halls.Reaches collidingHall collidingHall := .root
  have valid : isValidTag "x" = true := by decide
  obtain ⟨-, -, -, -, found, -⟩ := lenient_finds_last_declarations halls collidingHall
  exact ⟨reached, valid, found collidingHall "x" reached valid⟩

end Waymark
