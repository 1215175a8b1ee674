import Waymark.Proofs.Filling

/-!
# Tables along a traversal

A traversal takes the events of an itinerary one by one and keeps the first error, after
which it takes nothing. Whatever it has taken, what a path is written with leads back to
what an identifier is read with: the tag of a member names that member and no other.
-/

namespace Waymark

variable {ι : Type}

/-! ## Traversals -/

/-- Tables that are being filled, and the error that stopped the filling, if any. -/
structure Traversal (ι : Type) where
  tables : Tables ι
  error : Option LabelError := none

namespace Traversal

/-- Takes one event. A refused one changes nothing but is remembered for good. -/
def take (policy : CollisionPolicy) (traversal : Traversal ι) (event : Event ι) :
    Traversal ι :=
  match traversal.error with
  | some _ => traversal
  | none =>
    match traversal.tables.take policy event with
    | .ok next => { tables := next }
    | .error error => { traversal with error := some error }

/-- The traversal from a root after some events. -/
def after (policy : CollisionPolicy) (root : SectionKey) (events : List (Event ι)) :
    Traversal ι :=
  events.foldl (take policy) { tables := { root } }

def outcome (traversal : Traversal ι) : Except LabelError (Tables ι) :=
  match traversal.error with
  | some error => .error error
  | none => .ok traversal.tables

variable {policy : CollisionPolicy} {traversal : Traversal ι}

theorem take_of_error {error : LabelError} (stopped : traversal.error = some error)
    (event : Event ι) : traversal.take policy event = traversal := by
  rw [take, stopped]

theorem foldl_take_of_error {error : LabelError} (stopped : traversal.error = some error)
    (events : List (Event ι)) : events.foldl (take policy) traversal = traversal := by
  induction events with
  | nil => rfl
  | cons event rest inductionHypothesis =>
    rw [List.foldl_cons, take_of_error stopped, inductionHypothesis]

/-- A traversal that goes on to the end gives what filling tables at once gives. -/
theorem outcome_foldl_take (tables : Tables ι) (events : List (Event ι)) :
    (events.foldl (take policy) { tables }).outcome = Tables.takeAll policy tables events := by
  induction events generalizing tables with
  | nil => rfl
  | cons event rest inductionHypothesis =>
    rw [List.foldl_cons, Tables.takeAll]
    cases taken : tables.take policy event with
    | ok next =>
      have goesOn : take policy { tables } event = { tables := next } := by
        simp only [take, taken]
      rw [goesOn, inductionHypothesis]
    | error error =>
      have stops : take policy { tables } event = { tables, error := some error } := by
        simp only [take, taken]
      rw [stops, foldl_take_of_error rfl]
      rfl

theorem outcome_after_itinerary (policy : CollisionPolicy) (atlas : Atlas ι)
    (root : SectionKey) :
    (after policy root (atlas.itinerary root)).outcome = Tables.ofAtlas policy atlas root :=
  outcome_foldl_take { root } (atlas.itinerary root)

end Traversal

/-! ## Every registration keeps the tables coherent -/

namespace Tables

variable {policy : CollisionPolicy} {tables next : Tables ι}

theorem Coherent.take (coherent : Coherent tables) {event : Event ι}
    (taken : tables.take policy event = .ok next) : Coherent next := by
  cases event with
  | enter key =>
    cases taken
    exact coherent
  | declare owner declaration => exact coherent.register taken

end Tables

namespace Traversal

variable {policy : CollisionPolicy} {traversal : Traversal ι}

theorem coherent_take (coherent : traversal.tables.Coherent) (event : Event ι) :
    (traversal.take policy event).tables.Coherent := by
  rw [take]
  split
  · exact coherent
  · split
    · next next taken => exact coherent.take taken
    · exact coherent

theorem coherent_foldl_take (coherent : traversal.tables.Coherent) (events : List (Event ι)) :
    (events.foldl (take policy) traversal).tables.Coherent := by
  induction events generalizing traversal with
  | nil => exact coherent
  | cons event rest inductionHypothesis =>
    exact inductionHypothesis (coherent_take coherent event)

theorem coherent_after (policy : CollisionPolicy) (root : SectionKey)
    (events : List (Event ι)) : (after policy root events).tables.Coherent :=
  coherent_foldl_take (Tables.coherent_empty root) events

end Traversal

/-! ## Lookups that lead back -/

/-- What can be looked up: the accessor of a tag on a section, the tag of a member, and the
tag of the parameter at a position of a member. -/
structure Lookups (ι : Type) where
  resolve? : SectionKey → String → Option (Accessor ι)
  tag? : Member → Option String
  parameterTag? : Member → Nat → Option String

def Tables.lookups (tables : Tables ι) : Lookups ι :=
  ⟨tables.resolve?, tables.tag?, tables.parameterTag?⟩

def Registry.lookups (registry : Registry ι) : Lookups ι :=
  ⟨registry.resolve?, registry.tag?, registry.parameterTag?⟩

/-- Whether what members are written with leads back to what is read: accessors are found
under their own section and tag, which an identifier can spell; the tag of a member finds
the member, whose parameters have their tags; and no two members of a section share one. -/
structure Lookups.LeadBack (lookups : Lookups ι) : Prop where
  filed : ∀ owner tag accessor, lookups.resolve? owner tag = some accessor →
    accessor.owner = owner ∧ accessor.tag = tag ∧ isValidTag tag = true
  found : ∀ member tag, lookups.tag? member = some tag →
    ∃ accessor, lookups.resolve? member.owner tag = some accessor ∧ accessor.member = member ∧
      ∀ position parameter, accessor.parameters[position]? = some parameter →
        lookups.parameterTag? member position = some parameter.tag
  distinct : ∀ left right tag, left.owner = right.owner → lookups.tag? left = some tag →
    lookups.tag? right = some tag → left = right

namespace Tables

variable {tables : Tables ι}

theorem Coherent.eq_of_tag?_eq (coherent : Coherent tables) {left right : Member} {tag : String}
    (sameOwner : left.owner = right.owner) (leftTag : tables.tag? left = some tag)
    (rightTag : tables.tag? right = some tag) : left = right := by
  obtain ⟨accessor, held, named, -⟩ := coherent.resolves leftTag
  rw [sameOwner] at held
  rw [← named, coherent.member_eq_of_tag? rightTag held]

theorem Coherent.leadBack (coherent : Coherent tables) : tables.lookups.LeadBack where
  filed _ _ _ resolved :=
    ⟨coherent.owner_eq resolved, coherent.tag_eq resolved, coherent.valid resolved⟩
  found _ _ tagged := coherent.resolves tagged
  distinct _ _ _ sameOwner leftTag rightTag := coherent.eq_of_tag?_eq sameOwner leftTag rightTag

/-- What the tag of a member finds is never passed over for being another member. -/
theorem Coherent.accessor?_eq_bind (coherent : Coherent tables) (member : Member) :
    tables.accessor? member =
      (tables.tag? member).bind fun tag => tables.resolve? member.owner tag := by
  rw [accessor?]
  cases tagged : tables.tag? member with
  | none => rfl
  | some tag =>
    obtain ⟨accessor, held, named, -⟩ := coherent.resolves tagged
    simp [held, named]

end Tables

namespace Registry

variable {registry : Registry ι} {atlas : Atlas ι} {tables : Tables ι}

theorem tag?_of_tables (found : registry.tables = .ok tables) (member : Member) :
    registry.tag? member = tables.tag? member := by
  rw [tag?, tables?_of_tables found, Option.bind_some]

theorem parameterTag?_of_tables (found : registry.tables = .ok tables) (member : Member)
    (position : Nat) :
    registry.parameterTag? member position = tables.parameterTag? member position := by
  rw [parameterTag?, tables?_of_tables found, Option.bind_some]

theorem lookups_of_tables (found : registry.tables = .ok tables) :
    registry.lookups = tables.lookups := by
  have resolves := funext fun owner => funext fun tag => resolve?_of_tables found owner tag
  have tags := funext fun member => tag?_of_tables found member
  have parameterTags :=
    funext fun member => funext fun position => parameterTag?_of_tables found member position
  rw [lookups, resolves, tags, parameterTags, Tables.lookups]

/-- A registry without tables finds nothing that could lead astray. -/
theorem leadBack_of_error {error : LabelError} (unfilled : registry.tables = .error error) :
    registry.lookups.LeadBack := by
  have noTables : registry.tables? = none := by
    rw [tables?, unfilled]
    rfl
  constructor
  · intro owner tag accessor resolved
    simp [lookups, resolve?, noTables] at resolved
  · intro member tag tagged
    simp [lookups, tag?, noTables] at tagged
  · intro left right tag _ tagged
    simp [lookups, tag?, noTables] at tagged

theorem FilledBy.leadBack (filledBy : registry.FilledBy atlas) : registry.lookups.LeadBack := by
  cases found : registry.tables with
  | error error => exact leadBack_of_error found
  | ok tables =>
    rw [lookups_of_tables found]
    exact (filledBy.coherent found).leadBack

theorem FilledBy.accessor?_eq_holder? (filledBy : registry.FilledBy atlas)
    (found : registry.tables = .ok tables) (member : Member) :
    tables.accessor? member = registry.holder? member := by
  rw [(filledBy.coherent found).accessor?_eq_bind, holder?, tag?_of_tables found]
  simp only [resolve?_of_tables found]

end Registry

/-- What members are written with leads back to what is read after every event of every
traversal, refused ones included, and so in every registry that a history leaves: filling
one is a traversal of the whole itinerary. There encoding finds for a member just what the
tag of the member names. -/
theorem written_tags_lead_back (atlas : Atlas ι) :
    (∀ policy root count,
      (Traversal.after policy root
        ((atlas.itinerary root).take count)).tables.lookups.LeadBack) ∧
    (∀ policy root,
      (Traversal.after policy root (atlas.itinerary root)).outcome =
        Tables.ofAtlas policy atlas root) ∧
    ∀ operations registry, registry ∈ (Workspace.after atlas operations).registries →
      registry.lookups.LeadBack ∧
        ∀ tables, registry.tables = .ok tables →
          ∀ member, tables.accessor? member = registry.holder? member := by
  refine ⟨?traversals, fun policy root => Traversal.outcome_after_itinerary policy atlas root,
    ?registries⟩
  case traversals =>
    intro policy root count
    exact (Traversal.coherent_after policy root _).leadBack
  case registries =>
    intro operations registry made
    have filledBy := (Workspace.sound_after atlas operations).registries registry made
    exact ⟨filledBy.leadBack, fun _ found member => filledBy.accessor?_eq_holder? found member⟩

open Registry Sample.Gallery

theorem colliding_registry_leads_back :
    lenient halls collidingHall ∈
        (Workspace.after halls [.addRegistry .lastWins, .fill 0 collidingHall]).registries ∧
      (lenient halls collidingHall).lookups.LeadBack ∧
      ∃ tables, (lenient halls collidingHall).tables = .ok tables ∧
        ∀ member, tables.accessor? member = (lenient halls collidingHall).holder? member := by
  have made : lenient halls collidingHall ∈
      (Workspace.after halls [.addRegistry .lastWins, .fill 0 collidingHall]).registries :=
    List.mem_cons_self
  obtain ⟨tables, found, -⟩ := exists_tables_lenient halls collidingHall
  obtain ⟨-, -, registries⟩ := written_tags_lead_back halls
  obtain ⟨leadBack, held⟩ := registries _ _ made
  exact ⟨made, leadBack, tables, found, held tables found⟩

end Waymark
