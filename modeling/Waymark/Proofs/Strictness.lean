import Waymark.Proofs.Filling
import Waymark.Proofs.Segments

/-!
# Strict registries

A registry that refuses doubled tags is filled just when there are none to refuse: no
section that the root reaches declares a valid tag for two names. It is then filled as a
lenient one is. Otherwise it is closed for good with the first clash that depth-first
reading comes upon.
-/

namespace Waymark

variable {ι : Type}

/-! ## Clashes -/

/-- Whether a declaration clashes with what events declared before it: its tag is valid, and
they have declared the tag on its section for another name. -/
def Clashes (before : List (Event ι)) (owner : SectionKey) (declaration : Declaration ι) : Prop :=
  isValidTag declaration.tag = true ∧
    ∃ earlier, .declare owner earlier ∈ before ∧ earlier.tag = declaration.tag ∧
      earlier.name ≠ declaration.name

/-- Whether no declaration among events clashes with those before it. -/
def ClashFree (events : List (Event ι)) : Prop :=
  ∀ before owner declaration after,
    events = before ++ .declare owner declaration :: after → ¬ Clashes before owner declaration

/-- Whether the first clash among events is on a section and a tag. -/
def FirstClash (events : List (Event ι)) (owner : SectionKey) (tag : String) : Prop :=
  ∃ before declaration after, events = before ++ .declare owner declaration :: after ∧
    ClashFree before ∧ Clashes before owner declaration ∧ declaration.tag = tag

/-- Whether a section declares a valid tag for two names. -/
def Atlas.Contested (atlas : Atlas ι) (owner : SectionKey) : Prop :=
  ∃ left ∈ atlas.declarations owner, ∃ right ∈ atlas.declarations owner,
    isValidTag left.tag = true ∧ left.tag = right.tag ∧ left.name ≠ right.name

namespace Tables

variable {policy : CollisionPolicy} {tables next final : Tables ι} {accessor : Accessor ι}
  {events : List (Event ι)} {error : LabelError} {root : SectionKey}

/-! ## Runs that stop -/

theorem takeAll_append (tables : Tables ι) (front back : List (Event ι)) :
    takeAll policy tables (front ++ back) =
      (takeAll policy tables front).bind fun middle => takeAll policy middle back := by
  induction front generalizing tables with
  | nil => rfl
  | cons event rest inductionHypothesis =>
    rw [List.cons_append, takeAll, takeAll]
    cases tables.take policy event with
    | ok next => exact inductionHypothesis next
    | error error => rfl

theorem takeAll_append_eq_ok {front back : List (Event ι)} :
    takeAll policy tables (front ++ back) = .ok final ↔
      ∃ middle, takeAll policy tables front = .ok middle ∧
        takeAll policy middle back = .ok final := by
  rw [takeAll_append]
  cases takeAll policy tables front <;> simp [Except.bind]

/-- A run stops at the first event that is refused. -/
theorem takeAll_eq_error_iff :
    takeAll policy tables events = .error error ↔
      ∃ before event after middle, events = before ++ event :: after ∧
        takeAll policy tables before = .ok middle ∧ middle.take policy event = .error error := by
  constructor
  · intro stopped
    induction events generalizing tables with
    | nil => cases stopped
    | cons event rest inductionHypothesis =>
      rw [takeAll] at stopped
      cases taken : tables.take policy event with
      | error other =>
        rw [taken] at stopped
        cases stopped
        exact ⟨[], event, rest, tables, rfl, rfl, taken⟩
      | ok next =>
        rw [taken] at stopped
        obtain ⟨before, refused, after, middle, rfl, front, failed⟩ :=
          inductionHypothesis stopped
        exact ⟨event :: before, refused, after, middle, rfl,
          takeAll_cons_eq_ok.2 ⟨next, taken, front⟩, failed⟩
  · rintro ⟨before, event, after, middle, rfl, front, refused⟩
    have behind : takeAll policy middle (event :: after) = .error error := by
      rw [takeAll, refused]
    rw [takeAll_append, front]
    exact behind

/-! ## Registering strictly -/

theorem register_reject_eq_error_iff :
    tables.register .reject accessor = .error error ↔
      isValidTag accessor.tag = true ∧ (∃ rival, tables.rival? accessor = some rival) ∧
        error = .duplicateTag accessor.owner.name accessor.tag := by
  unfold register
  by_cases valid : isValidTag accessor.tag = true
  · cases tables.rival? accessor <;> simp [valid, eq_comm]
  · simp [valid]

/-- What the strict policy lets through, the lenient one registers the same way. -/
theorem register_lastWins_of_reject (registered : tables.register .reject accessor = .ok next) :
    tables.register .lastWins accessor = .ok next := by
  rcases register_cases registered with ⟨invalid, rfl⟩ | ⟨valid, alone, rfl⟩ | ⟨-, impossible, -⟩
  · simp [register, invalid]
  · simp [register, valid, alone]
  · cases impossible

theorem takeAll_lastWins_of_reject (taken : takeAll .reject tables events = .ok final) :
    takeAll .lastWins tables events = .ok final := by
  induction events generalizing tables with
  | nil => exact taken
  | cons event rest inductionHypothesis =>
    obtain ⟨next, first, later⟩ := takeAll_cons_eq_ok.1 taken
    refine takeAll_cons_eq_ok.2 ⟨next, ?_, inductionHypothesis later⟩
    cases event with
    | enter key => exact first
    | declare owner declaration => exact register_lastWins_of_reject first

/-- Under the strict policy a tag stays with the member that has it. -/
theorem exists_holder_of_register_reject
    (registered : tables.register .reject accessor = .ok next) {owner : SectionKey} {tag : String}
    {holder : Accessor ι} (held : tables.resolve? owner tag = some holder) :
    ∃ successor, next.resolve? owner tag = some successor ∧ successor.member = holder.member := by
  rw [resolve?_register registered]
  split
  · next same =>
    obtain ⟨rfl, rfl, valid⟩ := same
    refine ⟨accessor, rfl, ?_⟩
    rcases register_cases registered with ⟨invalid, -⟩ | ⟨-, alone, -⟩ | ⟨-, impossible, -⟩
    · rw [invalid] at valid
      cases valid
    · exact (member_eq_of_rival?_eq_none alone held).symm
    · cases impossible
  · exact ⟨holder, held, rfl⟩

theorem exists_holder_of_takeAll_reject (taken : takeAll .reject tables events = .ok final)
    {owner : SectionKey} {tag : String} {holder : Accessor ι}
    (held : tables.resolve? owner tag = some holder) :
    ∃ successor, final.resolve? owner tag = some successor ∧
      successor.member = holder.member := by
  induction events generalizing tables holder with
  | nil =>
    cases taken
    exact ⟨holder, held, rfl⟩
  | cons event rest inductionHypothesis =>
    obtain ⟨next, first, later⟩ := takeAll_cons_eq_ok.1 taken
    cases event with
    | enter key =>
      cases first
      exact inductionHypothesis later held
    | declare other declaration =>
      obtain ⟨successor, heldNext, same⟩ := exists_holder_of_register_reject first held
      obtain ⟨last, heldLast, sameLast⟩ := inductionHypothesis later heldNext
      exact ⟨last, heldLast, sameLast.trans same⟩

/-- After a strict run each declared tag is held by the member that it was declared for. -/
theorem exists_holder_of_declared (taken : takeAll .reject tables events = .ok final)
    {owner : SectionKey} {declaration : Declaration ι}
    (declared : .declare owner declaration ∈ events) (valid : isValidTag declaration.tag = true) :
    ∃ holder, final.resolve? owner declaration.tag = some holder ∧
      holder.member = ⟨owner, declaration.name⟩ := by
  obtain ⟨before, after, rfl⟩ := List.mem_iff_append.1 declared
  obtain ⟨middle, -, behind⟩ := takeAll_append_eq_ok.1 taken
  obtain ⟨next, registered, later⟩ := takeAll_cons_eq_ok.1 behind
  have held : next.resolve? owner declaration.tag = some (declaration.accessor owner) := by
    rw [resolve?_register registered, if_pos ⟨rfl, rfl, valid⟩]
  exact exists_holder_of_takeAll_reject later held

/-! ## Clashes and strict runs -/

/-- What the strict policy refuses behind a run is what clashes with it. -/
theorem take_reject_eq_error_iff {before : List (Event ι)} {middle : Tables ι}
    (taken : takeAll .reject { root } before = .ok middle) {event : Event ι} :
    middle.take .reject event = .error error ↔
      ∃ owner declaration, event = .declare owner declaration ∧
        Clashes before owner declaration ∧
          error = .duplicateTag owner.name declaration.tag := by
  cases event with
  | enter key => simp [take]
  | declare owner declaration =>
    rw [take, register_reject_eq_error_iff]
    constructor
    · rintro ⟨valid, ⟨rival, contested⟩, rfl⟩
      obtain ⟨previous, found, named, different⟩ := rival?_eq_some_iff.1 contested
      -- The rival's accessor is there because it was declared before.
      have last := resolve?_takeAll taken owner valid
      rw [resolve?_empty, Option.or_none] at last
      obtain ⟨earlier, tagged, same⟩ := Option.map_eq_some_iff.1 (last.symm.trans found)
      obtain ⟨sameTag, front, back, shape, -⟩ := lastTagged?_eq_some_iff.1 tagged
      have listed : earlier ∈ declaredOn owner before := by simp [shape]
      refine ⟨owner, declaration, rfl, ⟨valid, earlier, mem_declaredOn_iff.1 listed, sameTag, ?_⟩,
        rfl⟩
      intro sameName
      apply different
      rw [← named, ← same]
      exact congrArg (Member.mk owner) sameName
    · rintro ⟨_, _, equality, ⟨valid, earlier, declared, sameTag, different⟩, rfl⟩
      cases equality
      obtain ⟨holder, held, named⟩ :=
        exists_holder_of_declared taken declared (sameTag ▸ valid)
      rw [sameTag] at held
      refine ⟨valid, ⟨holder.member, rival?_eq_some_iff.2 ⟨holder, held, rfl, ?_⟩⟩, rfl⟩
      rw [named]
      intro sameMember
      exact different (Member.mk.inj sameMember).2

/-- A strict run gets through just the events among which nothing clashes. -/
theorem exists_takeAll_reject_iff (root : SectionKey) :
    (∃ final, takeAll .reject { root } events = .ok final) ↔ ClashFree events := by
  constructor
  · rintro ⟨final, taken⟩ before owner declaration after rfl clashes
    obtain ⟨middle, front, behind⟩ := takeAll_append_eq_ok.1 taken
    obtain ⟨next, registered, -⟩ := takeAll_cons_eq_ok.1 behind
    have refused := (take_reject_eq_error_iff front).2 ⟨owner, declaration, rfl, clashes, rfl⟩
    rw [registered] at refused
    cases refused
  · intro clashFree
    cases taken : takeAll .reject { root } events with
    | ok final => exact ⟨final, rfl⟩
    | error error =>
      obtain ⟨before, event, after, middle, shape, front, refused⟩ := takeAll_eq_error_iff.1 taken
      obtain ⟨owner, declaration, rfl, clashes, -⟩ := (take_reject_eq_error_iff front).1 refused
      exact absurd clashes (clashFree before owner declaration after shape)

theorem takeAll_reject_eq_error_iff :
    takeAll .reject { root } events = .error error ↔
      ∃ owner tag, FirstClash events owner tag ∧ error = .duplicateTag owner.name tag := by
  rw [takeAll_eq_error_iff]
  constructor
  · rintro ⟨before, event, after, middle, rfl, front, refused⟩
    obtain ⟨owner, declaration, rfl, clashes, rfl⟩ := (take_reject_eq_error_iff front).1 refused
    have clashFree := (exists_takeAll_reject_iff root).1 ⟨middle, front⟩
    exact ⟨owner, declaration.tag, ⟨before, declaration, after, rfl, clashFree, clashes, rfl⟩, rfl⟩
  · rintro ⟨owner, _, ⟨before, declaration, after, rfl, clashFree, clashes, rfl⟩, rfl⟩
    obtain ⟨middle, front⟩ := (exists_takeAll_reject_iff root).2 clashFree
    exact ⟨before, .declare owner declaration, after, middle, rfl, front,
      (take_reject_eq_error_iff front).2 ⟨owner, declaration, rfl, clashes, rfl⟩⟩

variable {atlas : Atlas ι}

/-- Strict tables can be filled just when no reached section has a doubled tag. -/
theorem exists_ofAtlas_reject_iff :
    (∃ tables, ofAtlas .reject atlas root = .ok tables) ↔
      ∀ owner, atlas.Reaches root owner → ¬ atlas.Contested owner := by
  have strict : (∃ tables, ofAtlas .reject atlas root = .ok tables) ↔
      ClashFree (atlas.itinerary root) := exists_takeAll_reject_iff root
  rw [strict]
  constructor
  · intro clashFree owner reached
    rintro ⟨left, leftListed, right, rightListed, valid, sameTag, different⟩
    obtain ⟨final, taken⟩ := (exists_takeAll_reject_iff root).2 clashFree
    have described := Atlas.describes_iff_reaches.2 reached
    rw [← Atlas.declaredOn_itinerary_of_describes described, mem_declaredOn_iff]
      at leftListed rightListed
    obtain ⟨holder, held, named⟩ := exists_holder_of_declared taken leftListed valid
    obtain ⟨other, heldOther, namedOther⟩ :=
      exists_holder_of_declared taken rightListed (sameTag ▸ valid)
    rw [← sameTag, held, Option.some.injEq] at heldOther
    subst heldOther
    -- One accessor would be of both members.
    exact different (Member.mk.inj (named.symm.trans namedOther)).2
  · rintro uncontested before owner declaration after shape ⟨valid, earlier, declared, sameTag,
      different⟩
    have passedEarlier : .declare owner earlier ∈ atlas.itinerary root := by
      rw [shape]
      exact List.mem_append_left _ declared
    have passed : .declare owner declaration ∈ atlas.itinerary root := by
      rw [shape]
      exact List.mem_append_right before List.mem_cons_self
    obtain ⟨-, earlierListed⟩ := Atlas.grounded_of_mem_itinerary passedEarlier
    obtain ⟨reached, listed⟩ := Atlas.grounded_of_mem_itinerary passed
    exact uncontested owner reached
      ⟨earlier, earlierListed, declaration, listed, sameTag ▸ valid, sameTag, different⟩

/-- Otherwise filling stops with the first clash that depth-first reading comes upon. -/
theorem ofAtlas_reject_eq_error_iff :
    ofAtlas .reject atlas root = .error error ↔
      ∃ events left owner tag, atlas.DepthFirst [] [.enter root] events left ∧
        FirstClash events owner tag ∧ error = .duplicateTag owner.name tag := by
  rw [ofAtlas, takeAll_reject_eq_error_iff]
  constructor
  · rintro ⟨owner, tag, first, named⟩
    obtain ⟨left, reading⟩ := Atlas.exists_depthFirst_iff.2 (Eq.refl (atlas.itinerary root))
    exact ⟨atlas.itinerary root, left, owner, tag, reading, first, named⟩
  · rintro ⟨events, left, owner, tag, reading, first, named⟩
    rw [Atlas.exists_depthFirst_iff.1 ⟨left, reading⟩] at first
    exact ⟨owner, tag, first, named⟩

end Tables

/-! ## Closed registries -/

namespace Registry

variable {registry : Registry ι} {error : LabelError}

/-- Whether a registry is closed with an error: it counts as not filled, finds nothing and
answers every path with the error. -/
structure Closed (registry : Registry ι) (error : LabelError) : Prop where
  isFilled : registry.isFilled = false
  root : registry.root? = none
  resolve (owner : SectionKey) (tag : String) : registry.resolve? owner tag = none
  tag (member : Member) : registry.tag? member = none
  parameterTag (member : Member) (position : Nat) : registry.parameterTag? member position = none
  membersOf (owner : SectionKey) : registry.membersOf owner = []
  size : registry.size = 0
  encode (path : Path) : registry.encode path = .refused error

/-- A strict registry that could be filled answers as the lenient one of its root. -/
theorem alike_lenient_of_ofAtlas_reject {atlas : Atlas ι} {root : SectionKey} {tables : Tables ι}
    (filled : Tables.ofAtlas .reject atlas root = .ok tables) :
    (({ policy := .reject } : Registry ι).filled atlas root).Alike (lenient atlas root) := by
  have same : Tables.ofAtlas .lastWins atlas root = .ok tables :=
    Tables.takeAll_lastWins_of_reject filled
  apply alike_of_tables_eq
  rw [lenient, tables_filled, tables_filled, filled, same]

theorem closed_of_outcome (failed : registry.outcome = some (.error error)) :
    registry.Closed error := by
  have without : registry.tables = .error error := tables_of_outcome failed
  have none : registry.tables? = none := by rw [tables?, without]; rfl
  constructor
  · rw [isFilled, none]; rfl
  · rw [root?, none]; rfl
  · intro owner tag; rw [resolve?, none]; rfl
  · intro member; rw [tag?, none]; rfl
  · intro member position; rw [parameterTag?, none]; rfl
  · intro owner; rw [membersOf, none]
  · rw [size, none]
  · intro path; rw [Registry.encode, without]

end Registry

namespace Compiler

variable {compiler : Compiler ι} {registry : Registry ι} {error : LabelError}

theorem Sound.result_shape_of_failed (sound : compiler.Sound registry)
    (failed : registry.outcome = some (.error error)) {identifier : String}
    (spelled : Identifier.tags identifier ≠ []) :
    (compiler.shape registry identifier).result = .error error := by
  rw [sound.result_shape_of_tags spelled, Registry.compile_of_failed failed]

theorem Sound.result_build_of_failed (sound : compiler.Sound registry)
    (failed : registry.outcome = some (.error error)) {label : Label}
    (visible : Text.isBlank label.identifier = false)
    (spelled : Identifier.tags label.identifier ≠ []) :
    (compiler.build registry label).result = .error error := by
  rw [result_build_of_not_isBlank visible, sound.result_shape_of_failed failed spelled]
  rfl

end Compiler

namespace Workspace

variable {atlas : Atlas ι} {workspace : Workspace ι} {number compilerNumber : Nat}
  {compiler : Compiler ι} {error : LabelError}

/-- Every compiler on a registry that could not be filled gives the error. -/
theorem Sound.results_of_failed (sound : Sound atlas workspace)
    (failed : (workspace.registry number).outcome = some (.error error))
    (stored : workspace.compilers[compilerNumber]? = some (number, compiler)) :
    (∀ identifier, Identifier.tags identifier ≠ [] →
      (workspace.shape compilerNumber identifier).result = .error error) ∧
    ∀ label, Text.isBlank label.identifier = false → Identifier.tags label.identifier ≠ [] →
      (workspace.build compilerNumber label).result = .error error := by
  have kept := sound.compilers number compiler (List.mem_of_getElem? stored)
  constructor
  · intro identifier spelled
    rw [shape, result_withCompiler _ stored]
    exact kept.result_shape_of_failed failed spelled
  · intro label visible spelled
    rw [build, result_withCompiler _ stored]
    exact kept.result_build_of_failed failed visible spelled

end Workspace

open Registry Workspace

/-- What the strict policy does to a registry. Filling it succeeds just when no section that
the root reaches declares a valid tag for two names; from then on it answers as a lenient
registry of the root does. Otherwise the error names the first clash that depth-first
reading comes upon, and from then on the registry is closed with it: whatever is done later,
it gives the error to every root, every path, and every identifier with a tag. -/
theorem strict_filling_agrees_or_closes (atlas : Atlas ι) (operations : List Operation)
    {number : Nat} (root : SectionKey)
    (unfilled : (after atlas operations).registries[number]? = some { policy := .reject }) :
    (((after atlas operations).fill atlas number root).result = .ok () ↔
      ∀ owner, atlas.Reaches root owner → ¬ atlas.Contested owner) ∧
    (((after atlas operations).fill atlas number root).result = .ok () →
      ∀ later, ((after atlas (operations ++ .fill number root :: later)).registry number).Alike
        (lenient atlas root)) ∧
    ∀ error, ((after atlas operations).fill atlas number root).result = .error error →
      (∃ events left owner tag, atlas.DepthFirst [] [.enter root] events left ∧
        FirstClash events owner tag ∧ error = .duplicateTag owner.name tag) ∧
      ∀ later workspace, after atlas (operations ++ .fill number root :: later) = workspace →
        (workspace.registry number).Closed error ∧
        (∀ requested, (workspace.fill atlas number requested).result = .error error) ∧
        (∀ path, (workspace.encode number path).result = .refused error) ∧
        ∀ compilerNumber compiler,
          workspace.compilers[compilerNumber]? = some (number, compiler) →
          (∀ identifier, Identifier.tags identifier ≠ [] →
            (workspace.shape compilerNumber identifier).result = .error error) ∧
          ∀ label, Text.isBlank label.identifier = false →
            Identifier.tags label.identifier ≠ [] →
            (workspace.build compilerNumber label).result = .error error := by
  have stays (later : List Operation) :
      (after atlas (operations ++ .fill number root :: later)).registry number =
        ({ policy := .reject } : Registry ι).filled atlas root :=
    registry_of_stored (registries_after_fill unfilled root later)
  have result : ((after atlas operations).fill atlas number root).result =
      ({ policy := .reject } : Registry ι).fillResult atlas root := by
    rw [fill, registry_of_stored unfilled]
  rw [result]
  refine ⟨?succeeds, ?agrees, ?closes⟩
  case succeeds =>
    rw [fillResult_new_eq_ok_iff]
    exact Tables.exists_ofAtlas_reject_iff
  case agrees =>
    intro success later
    obtain ⟨tables, filled⟩ := fillResult_new_eq_ok_iff.1 success
    rw [stays]
    exact alike_lenient_of_ofAtlas_reject filled
  case closes =>
    intro error refused
    have failed := fillResult_new_eq_error_iff.1 refused
    refine ⟨Tables.ofAtlas_reject_eq_error_iff.1 failed, ?_⟩
    rintro later workspace rfl
    have settled : ((after atlas (operations ++ .fill number root :: later)).registry
        number).outcome = some (.error error) := by
      rw [stays, ← failed]
      rfl
    have sound := sound_after atlas (operations ++ .fill number root :: later)
    have closed := closed_of_outcome settled
    refine ⟨closed, fun requested => (sound.decided settled).failed requested rfl,
      closed.encode, ?_⟩
    intro compilerNumber compiler stored
    exact sound.results_of_failed settled stored

namespace Sample.Gallery

theorem itinerary_collidingHall :
    halls.itinerary collidingHall =
      .enter collidingHall ::
        (halls.declarations collidingHall).map (.declare collidingHall) := by
  have listed : halls.declarations collidingHall =
      [⟨"first", "x", .text fun _ => "first"⟩, ⟨"second", "x", .text fun _ => "second"⟩,
        ⟨"other", "o", .text fun _ => "other"⟩] := rfl
  apply halls.itinerary_of_leadsTo?_eq_none
  rw [listed]
  simp [Declaration.leadsTo?, AccessorKind.target?]

theorem fill_collidingHall :
    ((after halls [.addRegistry .reject]).fill halls 0 collidingHall).result =
      .error (.duplicateTag "gallery::Colliding" "x") := by
  have refused : Tables.ofAtlas .reject halls collidingHall =
      .error (.duplicateTag "gallery::Colliding" "x") := by
    rw [Tables.ofAtlas, itinerary_collidingHall]
    rfl
  exact fillResult_new_eq_error_iff.2 refused

end Sample.Gallery

open Sample.Gallery

theorem colliding_registry_is_closed :
    (after halls [.addRegistry .reject]).registries[0]? =
        some ({ policy := .reject } : Registry String) ∧
      ∀ later,
        ((after halls ([.addRegistry .reject] ++ .fill 0 collidingHall :: later)).registry
          0).Closed (.duplicateTag "gallery::Colliding" "x") := by
  have unfilled : (after halls [.addRegistry .reject]).registries[0]? =
      some ({ policy := .reject } : Registry String) := rfl
  obtain ⟨-, -, closes⟩ :=
    strict_filling_agrees_or_closes halls [.addRegistry .reject] collidingHall unfilled
  refine ⟨unfilled, ?_⟩
  intro later
  exact ((closes _ fill_collidingHall).2 later _ rfl).1

end Waymark
