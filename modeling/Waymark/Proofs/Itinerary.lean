import Waymark.Atlas

/-!
# What an itinerary passes

An itinerary enters a section at most once, and what it declares on a section is what
the atlas lists there, in order, if the section is entered, and nothing otherwise. It
enters every section that a declaration on it leads to.
-/

namespace Waymark

variable {ι : Type}

/-- What events declare on a section, in order. -/
def declaredOn (owner : SectionKey) : List (Event ι) → List (Declaration ι)
  | [] => []
  | .enter _ :: rest => declaredOn owner rest
  | .declare other declaration :: rest =>
    if other = owner then declaration :: declaredOn owner rest else declaredOn owner rest

theorem mem_declaredOn_iff {owner : SectionKey} {declaration : Declaration ι}
    {events : List (Event ι)} :
    declaration ∈ declaredOn owner events ↔ .declare owner declaration ∈ events := by
  induction events with
  | nil => simp [declaredOn]
  | cons event rest inductionHypothesis =>
    cases event with
    | enter key => simp [declaredOn, inductionHypothesis]
    | declare other declared =>
      by_cases same : other = owner
      · subst same
        simp [declaredOn, inductionHypothesis]
      · simp [declaredOn, same, Ne.symm same, inductionHypothesis]

theorem declaredOn_append (owner : SectionKey) (front back : List (Event ι)) :
    declaredOn owner (front ++ back) = declaredOn owner front ++ declaredOn owner back := by
  induction front with
  | nil => rfl
  | cons event rest inductionHypothesis =>
    cases event with
    | enter key => rw [List.cons_append, declaredOn, declaredOn, inductionHypothesis]
    | declare other declaration =>
      rw [List.cons_append, declaredOn, declaredOn, inductionHypothesis]
      split
      · rw [List.cons_append]
      · rfl

theorem declaredOn_append_self (owner : SectionKey) (declarations : List (Declaration ι))
    (pending : List (Event ι)) :
    declaredOn owner (declarations.map (.declare owner) ++ pending) =
      declarations ++ declaredOn owner pending := by
  induction declarations with
  | nil => rfl
  | cons declaration rest inductionHypothesis =>
    rw [List.map_cons, List.cons_append, declaredOn, if_pos rfl, inductionHypothesis,
      List.cons_append]

theorem declaredOn_append_of_ne {owner other : SectionKey} (different : other ≠ owner)
    (declarations : List (Declaration ι)) (pending : List (Event ι)) :
    declaredOn owner (declarations.map (.declare other) ++ pending) =
      declaredOn owner pending := by
  induction declarations with
  | nil => rfl
  | cons declaration rest inductionHypothesis =>
    rw [List.map_cons, List.cons_append, declaredOn, if_neg different, inductionHypothesis]

/-- What is pending once a declaration has been read: the section that it leads to is
entered first. -/
def Declaration.onward (declaration : Declaration ι) (pending : List (Event ι)) :
    List (Event ι) :=
  match declaration.leadsTo? with
  | some target => .enter target :: pending
  | none => pending

theorem declaredOn_onward (owner : SectionKey) (declaration : Declaration ι)
    (pending : List (Event ι)) :
    declaredOn owner (declaration.onward pending) = declaredOn owner pending := by
  rw [Declaration.onward]
  split
  · rw [declaredOn]
  · rfl

/-- Whether everything that events declare stands on sections entered before. -/
def Settled (visited : List SectionKey) (pending : List (Event ι)) : Prop :=
  ∀ owner declaration, .declare owner declaration ∈ pending → owner ∈ visited

namespace Settled

variable {visited : List SectionKey} {pending : List (Event ι)}

theorem declaredOn_eq_nil (settled : Settled visited pending) {owner : SectionKey}
    (fresh : owner ∉ visited) : declaredOn owner pending = [] := by
  rw [List.eq_nil_iff_forall_not_mem]
  intro declaration member
  exact fresh (settled owner declaration (mem_declaredOn_iff.1 member))

theorem tail {event : Event ι} (settled : Settled visited (event :: pending)) :
    Settled visited pending :=
  fun owner declaration member => settled owner declaration (List.mem_cons_of_mem event member)

theorem enter (settled : Settled visited pending) (key : SectionKey) :
    Settled visited (.enter key :: pending) := by
  intro owner declaration member
  rw [List.mem_cons] at member
  rcases member with impossible | member
  · cases impossible
  · exact settled owner declaration member

theorem onward (settled : Settled visited pending) (declaration : Declaration ι) :
    Settled visited (declaration.onward pending) := by
  rw [Declaration.onward]
  split
  · exact settled.enter _
  · exact settled

/-- The declarations of a section stand in front once it has been entered. -/
theorem declarations (settled : Settled visited pending) (key : SectionKey)
    (declarations : List (Declaration ι)) :
    Settled (key :: visited) (declarations.map (.declare key) ++ pending) := by
  intro owner declaration member
  rw [List.mem_append, List.mem_map] at member
  rcases member with ⟨_, _, equality⟩ | member
  · cases equality
    exact List.mem_cons_self
  · exact List.mem_cons_of_mem key (settled owner declaration member)

end Settled

namespace Atlas

/-- An atlas in which no section declares two members of one name. -/
def UniqueNames (atlas : Atlas ι) : Prop :=
  ∀ owner, ((atlas.declarations owner).map Declaration.name).Nodup

/-- Names need only be compared on the pages of an atlas; other sections declare nothing. -/
theorem uniqueNames_iff (atlas : Atlas ι) :
    atlas.UniqueNames ↔
      ∀ page ∈ atlas.pages.entries, (page.2.map Declaration.name).Nodup := by
  constructor
  · intro uniqueNames page listed
    have declared : atlas.declarations page.1 = page.2 := by
      rw [declarations, atlas.pages.get?_eq_some_iff.2 listed, Option.getD_some]
    rw [← declared]
    exact uniqueNames page.1
  · intro uniqueNames owner
    rw [declarations]
    cases found : atlas.pages.get? owner with
    | none => exact List.nodup_nil
    | some page => exact uniqueNames (owner, page) (atlas.pages.get?_eq_some_iff.1 found)

instance (atlas : Atlas ι) : Decidable atlas.UniqueNames :=
  decidable_of_iff _ (atlas.uniqueNames_iff).symm

/-- Whether the itinerary from a root enters a section. -/
def Describes (atlas : Atlas ι) (root key : SectionKey) : Prop :=
  .enter key ∈ atlas.itinerary root

/-! ## Events from pending events -/

variable (atlas : Atlas ι)

theorem eventsFrom_enter_of_visited {visited : List SectionKey} {key : SectionKey}
    (known : key ∈ visited) (pending : List (Event ι)) :
    atlas.eventsFrom visited (.enter key :: pending) = atlas.eventsFrom visited pending := by
  rw [eventsFrom, if_pos known]

theorem eventsFrom_enter_of_fresh {visited : List SectionKey} {key : SectionKey}
    (fresh : key ∉ visited) (pending : List (Event ι)) :
    atlas.eventsFrom visited (.enter key :: pending) =
      .enter key :: atlas.eventsFrom (key :: visited)
        ((atlas.declarations key).map (.declare key) ++ pending) := by
  rw [eventsFrom, if_neg fresh]

theorem eventsFrom_declare (visited : List SectionKey) (owner : SectionKey)
    (declaration : Declaration ι) (pending : List (Event ι)) :
    atlas.eventsFrom visited (.declare owner declaration :: pending) =
      .declare owner declaration :: atlas.eventsFrom visited (declaration.onward pending) := by
  rw [eventsFrom, Declaration.onward]
  cases declaration.leadsTo? <;> rfl

/-- Induction along an itinerary: a section entered again brings nothing, one entered
first brings its declarations, and a declaration brings the section it leads to. -/
theorem eventsFrom_induction {motive : List SectionKey → List (Event ι) → Prop}
    (nil : ∀ visited, motive visited [])
    (again : ∀ visited key pending, key ∈ visited → motive visited pending →
      motive visited (.enter key :: pending))
    (first : ∀ visited key pending, key ∉ visited →
      motive (key :: visited) ((atlas.declarations key).map (.declare key) ++ pending) →
        motive visited (.enter key :: pending))
    (declare : ∀ visited owner declaration pending,
      motive visited (declaration.onward pending) →
        motive visited (.declare owner declaration :: pending))
    (visited : List SectionKey) (pending : List (Event ι)) : motive visited pending := by
  induction visited, pending using eventsFrom.induct atlas with
  | case1 visited => exact nil visited
  | case2 visited key pending known inductionHypothesis =>
    exact again visited key pending known inductionHypothesis
  | case3 visited key pending fresh inductionHypothesis =>
    exact first visited key pending fresh inductionHypothesis
  | case4 visited owner declaration pending leading still =>
    apply declare
    rw [Declaration.onward]
    split
    · exact leading _
    · exact still

theorem enter_mem_eventsFrom (visited : List SectionKey) (key : SectionKey)
    (pending : List (Event ι)) :
    key ∈ visited ∨ .enter key ∈ atlas.eventsFrom visited (.enter key :: pending) := by
  by_cases known : key ∈ visited
  · exact .inl known
  · right
    rw [atlas.eventsFrom_enter_of_fresh known]
    exact List.mem_cons_self

/-- A section entered before declares only what is pending. -/
theorem declaredOn_eventsFrom_of_visited {owner : SectionKey} {visited : List SectionKey}
    (pending : List (Event ι)) (known : owner ∈ visited) :
    declaredOn owner (atlas.eventsFrom visited pending) = declaredOn owner pending := by
  induction visited, pending using eventsFrom_induction atlas with
  | nil visited => rw [eventsFrom]
  | again visited key pending repeated inductionHypothesis =>
    rw [atlas.eventsFrom_enter_of_visited repeated, inductionHypothesis known, declaredOn]
  | first visited key pending fresh inductionHypothesis =>
    have different : key ≠ owner := fun equality => fresh (equality ▸ known)
    rw [atlas.eventsFrom_enter_of_fresh fresh, declaredOn,
      inductionHypothesis (List.mem_cons_of_mem key known),
      declaredOn_append_of_ne different, declaredOn]
  | declare visited other declaration pending inductionHypothesis =>
    rw [eventsFrom_declare, declaredOn, inductionHypothesis known, declaredOn_onward,
      declaredOn]

/-- A section not entered before declares everything it has, once, or is never entered. -/
theorem declaredOn_eventsFrom_of_fresh {owner : SectionKey} {visited : List SectionKey}
    {pending : List (Event ι)} (settled : Settled visited pending) (fresh : owner ∉ visited) :
    (.enter owner ∈ atlas.eventsFrom visited pending →
        declaredOn owner (atlas.eventsFrom visited pending) = atlas.declarations owner) ∧
      (.enter owner ∉ atlas.eventsFrom visited pending →
        declaredOn owner (atlas.eventsFrom visited pending) = []) := by
  induction visited, pending using eventsFrom_induction atlas with
  | nil visited => simp [eventsFrom, declaredOn]
  | again visited key pending repeated inductionHypothesis =>
    rw [atlas.eventsFrom_enter_of_visited repeated]
    exact inductionHypothesis settled.tail fresh
  | first visited key pending unentered inductionHypothesis =>
    rw [atlas.eventsFrom_enter_of_fresh unentered]
    by_cases same : key = owner
    · subst same
      refine ⟨fun _ => ?_, fun absent => absurd List.mem_cons_self absent⟩
      -- Now the section has been visited, so only what is pending on it is still declared.
      rw [declaredOn, declaredOn_eventsFrom_of_visited atlas _ List.mem_cons_self,
        declaredOn_append_self, settled.tail.declaredOn_eq_nil fresh, List.append_nil]
    · have settledNext := settled.tail.declarations key (atlas.declarations key)
      have freshNext : owner ∉ key :: visited := by simp [Ne.symm same, fresh]
      have entered : (.enter owner : Event ι) ≠ .enter key := by simp [Ne.symm same]
      simpa only [declaredOn, List.mem_cons, entered, false_or] using
        inductionHypothesis settledNext freshNext
  | declare visited other declaration pending inductionHypothesis =>
    have different : other ≠ owner := by
      intro same
      subst same
      exact fresh (settled _ _ List.mem_cons_self)
    have distinct : (.enter owner : Event ι) ≠ .declare other declaration := by simp
    rw [eventsFrom_declare]
    simpa only [declaredOn, if_neg different, List.mem_cons, distinct, false_or] using
      inductionHypothesis (settled.tail.onward declaration) fresh

/-- Wherever a declaration leads has been entered before or is entered. -/
theorem enter_mem_of_leadsTo? {owner target : SectionKey} {declaration : Declaration ι}
    {visited : List SectionKey} {pending : List (Event ι)}
    (declared : .declare owner declaration ∈ atlas.eventsFrom visited pending)
    (leads : declaration.leadsTo? = some target) :
    target ∈ visited ∨ .enter target ∈ atlas.eventsFrom visited pending := by
  induction visited, pending using eventsFrom_induction atlas with
  | nil visited => simp [eventsFrom] at declared
  | again visited key pending repeated inductionHypothesis =>
    rw [atlas.eventsFrom_enter_of_visited repeated] at declared ⊢
    exact inductionHypothesis declared
  | first visited key pending fresh inductionHypothesis =>
    rw [atlas.eventsFrom_enter_of_fresh fresh] at declared ⊢
    rcases List.mem_cons.1 declared with impossible | declared
    · cases impossible
    · rcases inductionHypothesis declared with known | entered
      · rcases List.mem_cons.1 known with rfl | known
        · exact .inr List.mem_cons_self
        · exact .inl known
      · exact .inr (List.mem_cons_of_mem _ entered)
  | declare visited other earlier pending inductionHypothesis =>
    rw [eventsFrom_declare] at declared ⊢
    rcases List.mem_cons.1 declared with equality | declared
    · cases equality
      rw [Declaration.onward, leads]
      rcases atlas.enter_mem_eventsFrom visited target pending with known | entered
      · exact .inl known
      · exact .inr (List.mem_cons_of_mem _ entered)
    · rcases inductionHypothesis declared with known | entered
      · exact .inl known
      · exact .inr (List.mem_cons_of_mem _ entered)

/-! ## The itinerary from a root -/

theorem eventsFrom_map_declare {owner : SectionKey} {declarations : List (Declaration ι)}
    (ended : ∀ declaration ∈ declarations, declaration.leadsTo? = none)
    (visited : List SectionKey) :
    atlas.eventsFrom visited (declarations.map (.declare owner)) =
      declarations.map (.declare owner) := by
  induction declarations with
  | nil => rw [List.map_nil, eventsFrom]
  | cons declaration rest inductionHypothesis =>
    obtain ⟨endedFirst, endedRest⟩ := List.forall_mem_cons.1 ended
    rw [List.map_cons, eventsFrom_declare, Declaration.onward, endedFirst]
    dsimp only
    rw [inductionHypothesis endedRest]

/-- A root whose declarations lead nowhere brings these and nothing else. -/
theorem itinerary_of_leadsTo?_eq_none {root : SectionKey}
    (ended : ∀ declaration ∈ atlas.declarations root, declaration.leadsTo? = none) :
    atlas.itinerary root = .enter root :: (atlas.declarations root).map (.declare root) := by
  rw [itinerary, atlas.eventsFrom_enter_of_fresh List.not_mem_nil, List.append_nil,
    atlas.eventsFrom_map_declare ended]

variable {atlas} {root : SectionKey}

theorem describes_root (atlas : Atlas ι) (root : SectionKey) : atlas.Describes root root := by
  rcases atlas.enter_mem_eventsFrom [] root [] with impossible | entered
  · cases impossible
  · exact entered

theorem settled_start (root : SectionKey) : Settled [] [(.enter root : Event ι)] := by
  intro owner declaration member
  simp at member

theorem declaredOn_itinerary_of_describes {owner : SectionKey}
    (described : atlas.Describes root owner) :
    declaredOn owner (atlas.itinerary root) = atlas.declarations owner :=
  (atlas.declaredOn_eventsFrom_of_fresh (settled_start root) List.not_mem_nil).1 described

theorem declaredOn_itinerary_of_not_describes {owner : SectionKey}
    (undescribed : ¬ atlas.Describes root owner) :
    declaredOn owner (atlas.itinerary root) = [] :=
  (atlas.declaredOn_eventsFrom_of_fresh (settled_start root) List.not_mem_nil).2 undescribed

theorem UniqueNames.declaredOn_itinerary (uniqueNames : atlas.UniqueNames)
    (root owner : SectionKey) :
    ((declaredOn owner (atlas.itinerary root)).map Declaration.name).Nodup := by
  by_cases described : atlas.Describes root owner
  · rw [declaredOn_itinerary_of_describes described]
    exact uniqueNames owner
  · rw [declaredOn_itinerary_of_not_describes described]
    exact List.nodup_nil

/-- The section that a described section leads to by a valid tag is described too. -/
theorem Describes.of_leadsTo? {owner target : SectionKey} {declaration : Declaration ι}
    (described : atlas.Describes root owner) (listed : declaration ∈ atlas.declarations owner)
    (leads : declaration.leadsTo? = some target) : atlas.Describes root target := by
  rw [← declaredOn_itinerary_of_describes described, mem_declaredOn_iff] at listed
  rcases atlas.enter_mem_of_leadsTo? listed leads with impossible | entered
  · cases impossible
  · exact entered

end Atlas

end Waymark
