import Waymark.Proofs.Itinerary

/-!
# Depth-first reading

An itinerary keeps what is still to be read on one list. Reading depth first needs no such
list: the declarations of a section are read to their end, each followed at once by all
that it leads to, before the reading goes on. Both give the same events in the same order.
The sections entered on the way are those that can be reached from the root, each of them
once.
-/

namespace Waymark

variable {ι : Type}

/-- The sections that events enter, in order. -/
def entered : List (Event ι) → List SectionKey
  | [] => []
  | .enter key :: rest => key :: entered rest
  | .declare _ _ :: rest => entered rest

theorem mem_entered_iff {key : SectionKey} {events : List (Event ι)} :
    key ∈ entered events ↔ .enter key ∈ events := by
  induction events with
  | nil => simp [entered]
  | cons event rest inductionHypothesis =>
    cases event with
    | enter other => simp [entered, inductionHypothesis]
    | declare owner declaration => simp [entered, inductionHypothesis]

theorem Declaration.leadsTo?_eq_some_iff {declaration : Declaration ι} {target : SectionKey} :
    declaration.leadsTo? = some target ↔
      isValidTag declaration.tag = true ∧
        ∃ navigate, declaration.kind = .nested target navigate := by
  by_cases valid : isValidTag declaration.tag = true
  · cases kind : declaration.kind <;>
      simp [Declaration.leadsTo?, valid, kind, AccessorKind.target?]
  · simp [Declaration.leadsTo?, valid]

namespace Atlas

/-! ## Reading one thing to its end before the next -/

/-- Reading `tasks` one after the other, with `visited` the sections entered before, gives
`events` and leaves more sections entered. All that a task leads to is read before the next
task is. -/
inductive DepthFirst (atlas : Atlas ι) :
    (visited : List SectionKey) → (tasks events : List (Event ι)) → List SectionKey → Prop
  | done (visited : List SectionKey) : DepthFirst atlas visited [] [] visited
  | again {visited left : List SectionKey} {key : SectionKey} {tasks events : List (Event ι)} :
      key ∈ visited →
      DepthFirst atlas visited tasks events left →
      DepthFirst atlas visited (.enter key :: tasks) events left
  | enter {visited between left : List SectionKey} {key : SectionKey}
      {tasks inner outer : List (Event ι)} :
      key ∉ visited →
      DepthFirst atlas (key :: visited) ((atlas.declarations key).map (.declare key)) inner
        between →
      DepthFirst atlas between tasks outer left →
      DepthFirst atlas visited (.enter key :: tasks) (.enter key :: inner ++ outer) left
  | lead {visited between left : List SectionKey} {owner target : SectionKey}
      {declaration : Declaration ι} {tasks inner outer : List (Event ι)} :
      declaration.leadsTo? = some target →
      DepthFirst atlas visited [.enter target] inner between →
      DepthFirst atlas between tasks outer left →
      DepthFirst atlas visited (.declare owner declaration :: tasks)
        (.declare owner declaration :: inner ++ outer) left
  | stay {visited left : List SectionKey} {owner : SectionKey} {declaration : Declaration ι}
      {tasks events : List (Event ι)} :
      declaration.leadsTo? = none →
      DepthFirst atlas visited tasks events left →
      DepthFirst atlas visited (.declare owner declaration :: tasks)
        (.declare owner declaration :: events) left

variable {atlas : Atlas ι}

namespace DepthFirst

/-- What depth-first reading gives is what pending events bring first. -/
theorem eventsFrom_append {visited left : List SectionKey} {tasks events : List (Event ι)}
    (reading : atlas.DepthFirst visited tasks events left) (pending : List (Event ι)) :
    atlas.eventsFrom visited (tasks ++ pending) = events ++ atlas.eventsFrom left pending := by
  induction reading generalizing pending with
  | done visited => rfl
  | again known _ inductionHypothesis =>
    rw [List.cons_append, atlas.eventsFrom_enter_of_visited known, inductionHypothesis]
  | enter fresh _ _ readInner readOuter =>
    rw [List.cons_append, atlas.eventsFrom_enter_of_fresh fresh, readInner, readOuter]
    simp only [List.cons_append, List.append_assoc]
  | @lead _ _ _ _ target _ tasks _ _ leads _ _ readInner readOuter =>
    rw [List.cons_append, atlas.eventsFrom_declare, Declaration.onward, leads]
    have inward := readInner (tasks ++ pending)
    rw [List.singleton_append] at inward
    dsimp only
    rw [inward, readOuter]
    simp only [List.cons_append, List.append_assoc]
  | stay ends _ inductionHypothesis =>
    rw [List.cons_append, atlas.eventsFrom_declare, Declaration.onward, ends]
    dsimp only
    rw [inductionHypothesis, List.cons_append]

/-- Reading tasks in two parts. -/
theorem of_append {visited left : List SectionKey} {front back events : List (Event ι)}
    (reading : atlas.DepthFirst visited (front ++ back) events left) :
    ∃ between inner outer, atlas.DepthFirst visited front inner between ∧
      atlas.DepthFirst between back outer left ∧ events = inner ++ outer := by
  -- The first task read is one of the front, unless the front is empty.
  generalize whole : front ++ back = tasks at reading
  induction reading generalizing front with
  | done visited =>
    obtain ⟨rfl, rfl⟩ := List.append_eq_nil_iff.1 whole
    exact ⟨visited, [], [], .done visited, .done visited, rfl⟩
  | again known rest inductionHypothesis =>
    rcases List.append_eq_cons_iff.1 whole with ⟨rfl, rfl⟩ | ⟨others, rfl, rfl⟩
    · exact ⟨_, [], _, .done _, .again known rest, rfl⟩
    · obtain ⟨between, inner, outer, first, second, rfl⟩ := inductionHypothesis rfl
      exact ⟨between, inner, outer, .again known first, second, rfl⟩
  | enter fresh within rest _ inductionHypothesis =>
    rcases List.append_eq_cons_iff.1 whole with ⟨rfl, rfl⟩ | ⟨others, rfl, rfl⟩
    · exact ⟨_, [], _, .done _, .enter fresh within rest, rfl⟩
    · obtain ⟨between, inner, outer, first, second, rfl⟩ := inductionHypothesis rfl
      exact ⟨between, _, outer, .enter fresh within first, second, by simp⟩
  | lead leads within rest _ inductionHypothesis =>
    rcases List.append_eq_cons_iff.1 whole with ⟨rfl, rfl⟩ | ⟨others, rfl, rfl⟩
    · exact ⟨_, [], _, .done _, .lead leads within rest, rfl⟩
    · obtain ⟨between, inner, outer, first, second, rfl⟩ := inductionHypothesis rfl
      exact ⟨between, _, outer, .lead leads within first, second, by simp⟩
  | stay ends rest inductionHypothesis =>
    rcases List.append_eq_cons_iff.1 whole with ⟨rfl, rfl⟩ | ⟨others, rfl, rfl⟩
    · exact ⟨_, [], _, .done _, .stay ends rest, rfl⟩
    · obtain ⟨between, inner, outer, first, second, rfl⟩ := inductionHypothesis rfl
      exact ⟨between, _, outer, .stay ends first, second, rfl⟩

end DepthFirst

/-- The events that pending events bring can be read depth first. -/
theorem exists_depthFirst (visited : List SectionKey) (tasks : List (Event ι)) :
    ∃ left, atlas.DepthFirst visited tasks (atlas.eventsFrom visited tasks) left := by
  induction visited, tasks using eventsFrom_induction atlas with
  | nil visited =>
    rw [eventsFrom]
    exact ⟨visited, .done visited⟩
  | again visited key pending known inductionHypothesis =>
    obtain ⟨left, reading⟩ := inductionHypothesis
    rw [atlas.eventsFrom_enter_of_visited known]
    exact ⟨left, .again known reading⟩
  | first visited key pending fresh inductionHypothesis =>
    obtain ⟨left, reading⟩ := inductionHypothesis
    obtain ⟨between, inner, outer, within, rest, same⟩ := reading.of_append
    rw [atlas.eventsFrom_enter_of_fresh fresh, same]
    exact ⟨left, .enter fresh within rest⟩
  | declare visited owner declaration pending inductionHypothesis =>
    obtain ⟨left, reading⟩ := inductionHypothesis
    rw [eventsFrom_declare]
    cases leads : declaration.leadsTo? with
    | none =>
      rw [Declaration.onward, leads] at reading ⊢
      exact ⟨left, .stay leads reading⟩
    | some target =>
      rw [Declaration.onward, leads] at reading ⊢
      dsimp only at reading ⊢
      rw [← List.singleton_append] at reading
      obtain ⟨between, inner, outer, within, rest, same⟩ := reading.of_append
      rw [List.singleton_append] at same
      rw [same]
      exact ⟨left, .lead leads within rest⟩

/-- The itinerary from a root is the one depth-first reading of the atlas from there. -/
theorem exists_depthFirst_iff {root : SectionKey} {events : List (Event ι)} :
    (∃ left, atlas.DepthFirst [] [.enter root] events left) ↔ events = atlas.itinerary root := by
  constructor
  · intro reads
    obtain ⟨left, reading⟩ := reads
    have brought := reading.eventsFrom_append []
    rw [List.append_nil, eventsFrom, List.append_nil] at brought
    exact brought.symm
  · intro same
    rw [same]
    exact exists_depthFirst [] [.enter root]

/-! ## The sections entered -/

/-- The sections that can be reached from a root: the root, and the target of every nested
section with a valid tag that a reached section declares. -/
inductive Reaches (atlas : Atlas ι) (root : SectionKey) : SectionKey → Prop
  | root : Reaches atlas root root
  | onward {owner target : SectionKey} {declaration : Declaration ι} {navigate : ι → ι} :
      Reaches atlas root owner →
      declaration ∈ atlas.declarations owner →
      isValidTag declaration.tag = true →
      declaration.kind = .nested target navigate →
      Reaches atlas root target

/-- A section is entered only if it was not before, so none is entered twice. -/
theorem nodup_entered_eventsFrom (visited : List SectionKey) (pending : List (Event ι)) :
    (entered (atlas.eventsFrom visited pending)).Nodup ∧
      ∀ key ∈ entered (atlas.eventsFrom visited pending), key ∉ visited := by
  induction visited, pending using eventsFrom_induction atlas with
  | nil visited => simp [eventsFrom, entered]
  | again visited key pending known inductionHypothesis =>
    rw [atlas.eventsFrom_enter_of_visited known]
    exact inductionHypothesis
  | first visited key pending fresh inductionHypothesis =>
    obtain ⟨nodup, apart⟩ := inductionHypothesis
    rw [atlas.eventsFrom_enter_of_fresh fresh, entered]
    constructor
    · rw [List.nodup_cons]
      exact ⟨fun repeated => apart key repeated List.mem_cons_self, nodup⟩
    · intro other member
      rcases List.mem_cons.1 member with rfl | later
      · exact fresh
      · have unseen := apart other later
        rw [List.mem_cons, not_or] at unseen
        exact unseen.2
  | declare visited owner declaration pending inductionHypothesis =>
    rw [eventsFrom_declare, entered]
    exact inductionHypothesis

/-- Whether an event stands on sections that a root reaches, and declares what they do. -/
def Grounded (atlas : Atlas ι) (root : SectionKey) : Event ι → Prop
  | .enter key => atlas.Reaches root key
  | .declare owner declaration =>
    atlas.Reaches root owner ∧ declaration ∈ atlas.declarations owner

theorem Grounded.onward {root owner : SectionKey} {declaration : Declaration ι}
    {pending : List (Event ι)} (grounded : atlas.Grounded root (.declare owner declaration))
    (later : ∀ event ∈ pending, atlas.Grounded root event) :
    ∀ event ∈ declaration.onward pending, atlas.Grounded root event := by
  rw [Declaration.onward]
  split
  · next target leads =>
    obtain ⟨valid, navigate, nested⟩ := Declaration.leadsTo?_eq_some_iff.1 leads
    have reached : atlas.Reaches root target := .onward grounded.1 grounded.2 valid nested
    exact List.forall_mem_cons.2 ⟨reached, later⟩
  · exact later

theorem grounded_of_mem_eventsFrom {root : SectionKey} {visited : List SectionKey}
    {pending : List (Event ι)} (grounded : ∀ event ∈ pending, atlas.Grounded root event) :
    ∀ event ∈ atlas.eventsFrom visited pending, atlas.Grounded root event := by
  induction visited, pending using eventsFrom_induction atlas with
  | nil visited => simp [eventsFrom]
  | again visited key pending known inductionHypothesis =>
    rw [atlas.eventsFrom_enter_of_visited known]
    exact inductionHypothesis (List.forall_mem_cons.1 grounded).2
  | first visited key pending fresh inductionHypothesis =>
    obtain ⟨reached, later⟩ := List.forall_mem_cons.1 grounded
    rw [atlas.eventsFrom_enter_of_fresh fresh]
    refine List.forall_mem_cons.2 ⟨reached, inductionHypothesis ?_⟩
    intro event member
    rcases List.mem_append.1 member with member | member
    · obtain ⟨declaration, listed, rfl⟩ := List.mem_map.1 member
      exact ⟨reached, listed⟩
    · exact later event member
  | declare visited owner declaration pending inductionHypothesis =>
    obtain ⟨first, later⟩ := List.forall_mem_cons.1 grounded
    rw [eventsFrom_declare]
    exact List.forall_mem_cons.2 ⟨first, inductionHypothesis (first.onward later)⟩

theorem grounded_of_mem_itinerary {root : SectionKey} {event : Event ι}
    (member : event ∈ atlas.itinerary root) : atlas.Grounded root event := by
  have start : ∀ event ∈ [(.enter root : Event ι)], atlas.Grounded root event := by
    simp [Grounded, Reaches.root]
  exact grounded_of_mem_eventsFrom start event member

/-- The itinerary enters the sections that the root reaches, those included to which a
member leads that loses its tag later on. -/
theorem describes_iff_reaches {root key : SectionKey} :
    atlas.Describes root key ↔ atlas.Reaches root key := by
  constructor
  · exact fun described => grounded_of_mem_itinerary described
  · intro reached
    induction reached with
    | root => exact describes_root atlas root
    | onward _ listed valid nested inductionHypothesis =>
      have leads := Declaration.leadsTo?_eq_some_iff.2 ⟨valid, _, nested⟩
      exact inductionHypothesis.of_leadsTo? listed leads

/-- The sections that the itinerary enters, in order and each of them once. -/
theorem nodup_entered_itinerary (atlas : Atlas ι) (root : SectionKey) :
    (entered (atlas.itinerary root)).Nodup :=
  (nodup_entered_eventsFrom [] [.enter root]).1

theorem mem_entered_itinerary_iff {root key : SectionKey} :
    key ∈ entered (atlas.itinerary root) ↔ atlas.Reaches root key :=
  mem_entered_iff.trans describes_iff_reaches

end Atlas

end Waymark
