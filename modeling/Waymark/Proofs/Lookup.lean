import Waymark.Proofs.Itinerary
import Waymark.Proofs.Registration

/-!
# What filled tables find

Tables that were filled from an atlas find, on a section that the itinerary enters, the
last declaration of each valid tag, and nothing anywhere else. If no section declares a
name twice, a member has a tag on the writing side just when it is found under that tag.
-/

namespace Waymark

variable {ι : Type}

/-! ## The last declaration of a tag -/

/-- The last of some declarations that has a tag. -/
def lastTagged? (tag : String) (declarations : List (Declaration ι)) : Option (Declaration ι) :=
  declarations.findRev? fun declaration => declaration.tag = tag

theorem lastTagged?_cons (tag : String) (declaration : Declaration ι)
    (rest : List (Declaration ι)) :
    lastTagged? tag (declaration :: rest) =
      (lastTagged? tag rest).or (if declaration.tag = tag then some declaration else none) := by
  by_cases same : declaration.tag = tag <;> simp [lastTagged?, List.find?_append, same]

theorem lastTagged?_eq_some_iff {tag : String} {declaration : Declaration ι}
    {declarations : List (Declaration ι)} :
    lastTagged? tag declarations = some declaration ↔
      declaration.tag = tag ∧ ∃ before after,
        declarations = before ++ declaration :: after ∧ ∀ later ∈ after, later.tag ≠ tag := by
  rw [lastTagged?, List.findRev?_eq_find?_reverse, List.find?_eq_some_iff_append, decide_eq_true_eq]
  constructor
  · intro last
    obtain ⟨tagged, after, before, shape, others⟩ := last
    refine ⟨tagged, before.reverse, after.reverse, ?_, by simpa using others⟩
    rw [← List.reverse_reverse declarations, shape]
    simp
  · intro last
    obtain ⟨tagged, before, after, rfl, others⟩ := last
    exact ⟨tagged, after.reverse, before.reverse, by simp, by simpa using others⟩

namespace Tables

variable {policy : CollisionPolicy} {tables final : Tables ι} {events : List (Event ι)}

/-! ## Runs of events -/

theorem takeAll_cons_eq_ok {event : Event ι} :
    takeAll policy tables (event :: events) = .ok final ↔
      ∃ next, tables.take policy event = .ok next ∧ takeAll policy next events = .ok final := by
  rw [takeAll]
  cases tables.take policy event <;> simp

theorem Coherent.takeAll (coherent : Coherent tables)
    (taken : takeAll policy tables events = .ok final) : Coherent final := by
  induction events generalizing tables with
  | nil =>
    cases taken
    exact coherent
  | cons event rest inductionHypothesis =>
    obtain ⟨next, first, later⟩ := takeAll_cons_eq_ok.1 taken
    cases event with
    | enter key =>
      cases first
      exact inductionHypothesis coherent later
    | declare owner declaration =>
      exact inductionHypothesis (coherent.register first) later

theorem root_takeAll (taken : takeAll policy tables events = .ok final) :
    final.root = tables.root := by
  induction events generalizing tables with
  | nil =>
    cases taken
    rfl
  | cons event rest inductionHypothesis =>
    obtain ⟨next, first, later⟩ := takeAll_cons_eq_ok.1 taken
    cases event with
    | enter key =>
      cases first
      exact inductionHypothesis later
    | declare owner declaration =>
      rw [inductionHypothesis later, root_register first]

/-- Events leave under a valid tag what they declared last with it, whatever they declare
on other sections in between. -/
theorem resolve?_takeAll (taken : takeAll policy tables events = .ok final) (owner : SectionKey)
    {tag : String} (valid : isValidTag tag = true) :
    final.resolve? owner tag =
      ((lastTagged? tag (declaredOn owner events)).map
        fun declaration => declaration.accessor owner).or (tables.resolve? owner tag) := by
  induction events generalizing tables with
  | nil =>
    cases taken
    rfl
  | cons event rest inductionHypothesis =>
    obtain ⟨next, first, later⟩ := takeAll_cons_eq_ok.1 taken
    rw [inductionHypothesis later]
    cases event with
    | enter key =>
      cases first
      rfl
    | declare other declaration =>
      rw [resolve?_register first]
      by_cases same : other = owner
      · subst same
        rw [declaredOn, if_pos rfl, lastTagged?_cons]
        by_cases tagged : declaration.tag = tag
        · cases lastTagged? tag (declaredOn other rest) <;>
            simp [Declaration.accessor, Accessor.owner, tagged, valid]
        · simp [Declaration.accessor, tagged]
      · simp [Declaration.accessor, Accessor.owner, declaredOn, same]

/-- Events that declare no name twice on a section, and none that is known already. -/
theorem Writable.takeAll (writable : Writable tables) (coherent : Coherent tables)
    (uniqueNames : ∀ owner, ((declaredOn owner events).map Declaration.name).Nodup)
    (unknown : ∀ owner, ∀ declaration ∈ declaredOn owner events,
      Fresh tables ⟨owner, declaration.name⟩)
    (taken : takeAll policy tables events = .ok final) : Writable final := by
  induction events generalizing tables with
  | nil =>
    cases taken
    exact writable
  | cons event rest inductionHypothesis =>
    obtain ⟨next, first, later⟩ := takeAll_cons_eq_ok.1 taken
    cases event with
    | enter key =>
      cases first
      exact inductionHypothesis writable coherent uniqueNames unknown later
    | declare owner declaration =>
      -- The later names stay fresh: they differ from this one on its section, and this one
      -- says nothing of other sections.
      have here : declaration ∈ declaredOn owner (.declare owner declaration :: rest) := by
        simp [declaredOn]
      have writableNext := writable.register coherent (unknown owner declaration here) first
      refine inductionHypothesis writableNext (coherent.register first) ?_ ?_ later
      · intro other
        have names := uniqueNames other
        rw [declaredOn] at names
        split at names
        · exact (List.nodup_cons.1 names).2
        · exact names
      · intro other declared member found tag accessor resolved
        have declaredBefore : declared ∈ declaredOn other (.declare owner declaration :: rest) := by
          rw [declaredOn]
          split
          · exact List.mem_cons_of_mem declaration member
          · exact member
        rw [resolve?_register first] at resolved
        split at resolved
        · cases resolved
          intro equality
          obtain ⟨rfl, sameName⟩ := Member.mk.inj equality
          have names := uniqueNames owner
          rw [declaredOn, if_pos rfl, List.map_cons] at names
          exact (List.nodup_cons.1 names).1 (List.mem_map.2 ⟨declared, member, sameName.symm⟩)
        · exact unknown other declared declaredBefore found tag accessor resolved

/-! ## Tables of an atlas -/

variable {atlas : Atlas ι} {root : SectionKey}

theorem root_ofAtlas (filled : ofAtlas policy atlas root = .ok tables) : tables.root = root :=
  root_takeAll filled

theorem coherent_ofAtlas (filled : ofAtlas policy atlas root = .ok tables) : Coherent tables :=
  (coherent_empty root).takeAll filled

/-- A section and a tag name the last declaration of the tag there, if the itinerary
enters the section and an identifier can spell the tag. -/
theorem resolve?_ofAtlas_eq_some_iff (filled : ofAtlas policy atlas root = .ok tables)
    {owner : SectionKey} {tag : String} {accessor : Accessor ι} :
    tables.resolve? owner tag = some accessor ↔
      atlas.Describes root owner ∧ isValidTag tag = true ∧
        ∃ declaration, lastTagged? tag (atlas.declarations owner) = some declaration ∧
          declaration.accessor owner = accessor := by
  by_cases valid : isValidTag tag = true
  · rw [resolve?_takeAll filled owner valid, resolve?_empty, Option.or_none]
    by_cases described : atlas.Describes root owner
    · rw [Atlas.declaredOn_itinerary_of_describes described]
      simp [described, valid]
    · rw [Atlas.declaredOn_itinerary_of_not_describes described]
      simp [described, lastTagged?]
  · constructor
    · intro found
      exact absurd ((coherent_ofAtlas filled).valid found) valid
    · intro found
      exact absurd found.2.1 valid

theorem writable_ofAtlas (uniqueNames : atlas.UniqueNames)
    (filled : ofAtlas policy atlas root = .ok tables) : Writable tables := by
  refine Writable.takeAll ?_ (coherent_empty root) (uniqueNames.declaredOn_itinerary root) ?_ filled
  · intro owner tag accessor found
    cases found
  · intro owner declaration _ other tag accessor found
    cases found

end Tables

end Waymark
