import Waymark.Atlas
import Waymark.LabelError
import Waymark.Notice

/-!
# Tables of a registry

Three tables are kept while the declarations of an itinerary are registered. Reading an
identifier goes from section and tag to the accessor; writing one goes from the member
to its tag and from a parameter's position to its tag. A member that loses its tag to
another is forgotten on the writing side only.
-/

namespace Waymark

structure Tables (ι : Type) where
  root : SectionKey
  byTag : Dict (SectionKey × String) (Accessor ι) := .empty
  tagOf : Dict Member String := .empty
  parameterTags : Dict (Member × Nat) String := .empty

namespace Tables

variable {ι : Type}

/-! ## Lookups -/

def resolve? (tables : Tables ι) (owner : SectionKey) (tag : String) : Option (Accessor ι) :=
  tables.byTag.get? (owner, tag)

def tag? (tables : Tables ι) (member : Member) : Option String := tables.tagOf.get? member

def parameterTag? (tables : Tables ι) (member : Member) (position : Nat) : Option String :=
  tables.parameterTags.get? (member, position)

/-- The accessor that the member's own tag names, if that is the member. -/
def accessor? (tables : Tables ι) (member : Member) : Option (Accessor ι) :=
  match tables.tag? member with
  | none => none
  | some tag => (tables.resolve? member.owner tag).filter fun accessor => accessor.member = member

/-- The accessors of a section in the order of their tags. Tags are compared by code
points, which is also the order of their UTF-8 bytes. -/
def membersOf (tables : Tables ι) (owner : SectionKey) : List (Accessor ι) :=
  let listed := tables.byTag.entries.filter fun entry => entry.1.1 = owner
  (listed.map Prod.snd).mergeSort fun left right => left.tag ≤ right.tag

def size (tables : Tables ι) : Nat := tables.tagOf.size

/-! ## Registration -/

/-- The other member that holds an accessor's tag on its section. -/
def rival? (tables : Tables ι) (accessor : Accessor ι) : Option Member :=
  ((tables.resolve? accessor.owner accessor.tag).map Accessor.member).filter
    fun previous => previous ≠ accessor.member

/-- The tables without the tag of a member and the tags of its parameters. -/
def forget (tables : Tables ι) (member : Member) : Tables ι :=
  { tables with
    tagOf := tables.tagOf.filterKeys fun other => other ≠ member
    parameterTags := tables.parameterTags.filterKeys fun position => position.1 ≠ member }

/-- Parameter tags with those of further parameters, counted from a position. -/
def setParameterTags (member : Member) :
    Nat → List Parameter → Dict (Member × Nat) String → Dict (Member × Nat) String
  | _, [], known => known
  | position, parameter :: rest, known =>
    setParameterTags member (position + 1) rest
      (known.insert (member, position) parameter.tag)

def record (tables : Tables ι) (accessor : Accessor ι) : Tables ι :=
  { tables with
    byTag := tables.byTag.insert (accessor.owner, accessor.tag) accessor
    tagOf := tables.tagOf.insert accessor.member accessor.tag
    parameterTags :=
      setParameterTags accessor.member 0 accessor.parameters tables.parameterTags }

/-- Registers an accessor. An invalid tag changes nothing. A tag that another member
holds is taken over or refused, as the policy says. -/
def register (policy : CollisionPolicy) (tables : Tables ι) (accessor : Accessor ι) :
    Except LabelError (Tables ι) :=
  if isValidTag accessor.tag then
    match tables.rival? accessor, policy with
    | none, _ => .ok (tables.record accessor)
    | some rival, .lastWins => .ok ((tables.forget rival).record accessor)
    | some _, .reject => .error (.duplicateTag accessor.owner.name accessor.tag)
  else
    .ok tables

def registerNotices (policy : CollisionPolicy) (tables : Tables ι) (accessor : Accessor ι) :
    List Notice :=
  if isValidTag accessor.tag then
    match tables.rival? accessor, policy with
    | none, _ => []
    | some rival, .lastWins =>
      [.moved accessor.tag accessor.owner rival.name accessor.member.name]
    | some rival, .reject =>
      [.collided accessor.tag accessor.owner rival.name accessor.member.name]
  else
    [.skipped accessor.member accessor.tag]

/-- Takes one event of an itinerary. Entering a section registers nothing yet. -/
def take (policy : CollisionPolicy) (tables : Tables ι) :
    Event ι → Except LabelError (Tables ι)
  | .enter _ => .ok tables
  | .declare owner declaration => tables.register policy (declaration.accessor owner)

def takeNotices (policy : CollisionPolicy) (tables : Tables ι) : Event ι → List Notice
  | .enter key => [.describing key]
  | .declare owner declaration => tables.registerNotices policy (declaration.accessor owner)

/-- Takes events one after the other, up to the first that is refused. -/
def takeAll (policy : CollisionPolicy) : Tables ι → List (Event ι) → Except LabelError (Tables ι)
  | tables, [] => .ok tables
  | tables, event :: rest =>
    match tables.take policy event with
    | .ok next => takeAll policy next rest
    | .error error => .error error

def takeAllNotices (policy : CollisionPolicy) : Tables ι → List (Event ι) → List Notice
  | _, [] => []
  | tables, event :: rest =>
    tables.takeNotices policy event ++
      match tables.take policy event with
      | .ok next => takeAllNotices policy next rest
      | .error _ => []

def ofAtlas (policy : CollisionPolicy) (atlas : Atlas ι) (root : SectionKey) :
    Except LabelError (Tables ι) :=
  takeAll policy { root } (atlas.itinerary root)

def enteredCount (events : List (Event ι)) : Nat :=
  events.countP fun event =>
    match event with
    | .enter _ => true
    | .declare _ _ => false

/-- What filling the tables of an atlas reports; a count of everything if it succeeds. -/
def ofAtlasNotices (policy : CollisionPolicy) (atlas : Atlas ι) (root : SectionKey) :
    List Notice :=
  let events := atlas.itinerary root
  takeAllNotices policy { root } events ++
    match takeAll policy { root } events with
    | .ok tables =>
      [.filled root (enteredCount events) tables.tagOf.size tables.parameterTags.size]
    | .error _ => []

end Tables

end Waymark
