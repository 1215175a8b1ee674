import Mathlib.Data.List.Induction
import Waymark.Proofs.Strictness
import Waymark.Proofs.Traversal

/-!
# What a member keeps on the writing side

A section may declare a name more than once. On the writing side its member has what the
last of these declarations gave it, until a declaration of another name takes over a tag
that the member holds. From then on it has nothing there, although its other tags still name
it when they are read.
-/

namespace Waymark

variable {ι : Type}

/-! ## Takeovers among declarations -/

/-- Whether a declaration takes its tag over from a name, given the declarations before it:
the last one with the tag was for that name. -/
def TakesFrom (name : String) (before : List (Declaration ι)) (declaration : Declaration ι) :
    Prop :=
  isValidTag declaration.tag = true ∧ declaration.name ≠ name ∧
    ∃ holder, lastTagged? declaration.tag before = some holder ∧ holder.name = name

/-- Whether no declaration behind some others takes a tag over from a name. -/
def Undisturbed (name : String) (before after : List (Declaration ι)) : Prop :=
  ∀ front declaration back, after = front ++ declaration :: back →
    ¬ TakesFrom name (before ++ front) declaration

/-- Whether a name retains a value from declarations: the last of its declarations that has
a valid tag and gives some value gives this one, and no tag of the name has been taken over
behind it. -/
def Retains (name : String) (value? : Declaration ι → Option String)
    (declarations : List (Declaration ι)) (value : String) : Prop :=
  ∃ before declaration after,
    declarations = before ++ declaration :: after ∧ declaration.name = name ∧
      isValidTag declaration.tag = true ∧ value? declaration = some value ∧
      (∀ later ∈ after, later.name = name → isValidTag later.tag = true →
        value? later = none) ∧
      Undisturbed name (before ++ [declaration]) after

variable {name value : String} {value? : Declaration ι → Option String}
  {declarations before after : List (Declaration ι)} {declaration : Declaration ι}

theorem undisturbed_nil (name : String) (before : List (Declaration ι)) :
    Undisturbed name before [] := by
  intro front declaration back split
  simp at split

theorem undisturbed_append_singleton :
    Undisturbed name before (after ++ [declaration]) ↔
      Undisturbed name before after ∧ ¬ TakesFrom name (before ++ after) declaration := by
  constructor
  · intro undisturbed
    constructor
    · intro front other back split
      exact undisturbed front other (back ++ [declaration]) (by simp [split])
    · exact undisturbed after declaration [] rfl
  · rintro ⟨undisturbed, kept⟩ front other back split
    rcases List.eq_nil_or_concat' back with rfl | ⟨rest, last, rfl⟩
    · obtain ⟨rfl, same⟩ := List.append_inj' split rfl
      cases same
      exact kept
    · rw [← List.cons_append, ← List.append_assoc] at split
      exact undisturbed front other rest (List.append_inj' split rfl).1

theorem not_retains_nil : ¬ Retains name value? [] value := by
  rintro ⟨before, declaration, after, split, -⟩
  simp at split

/-- One more declaration gives its own value to its name if it has one, clears what the name
it takes over from retains, and leaves everything else. -/
theorem retains_append_singleton :
    Retains name value? (declarations ++ [declaration]) value ↔
      (declaration.name = name ∧ isValidTag declaration.tag = true ∧
          value? declaration = some value) ∨
        (Retains name value? declarations value ∧ ¬ TakesFrom name declarations declaration ∧
          (declaration.name = name → isValidTag declaration.tag = true →
            value? declaration = none)) := by
  constructor
  · rintro ⟨before, own, after, split, named, valid, given, silent, undisturbed⟩
    rcases List.eq_nil_or_concat' after with rfl | ⟨rest, last, rfl⟩
    · obtain ⟨-, same⟩ := List.append_inj' split rfl
      cases same
      exact .inl ⟨named, valid, given⟩
    · rw [← List.cons_append, ← List.append_assoc] at split
      obtain ⟨rfl, same⟩ := List.append_inj' split rfl
      cases same
      obtain ⟨earlier, kept⟩ := undisturbed_append_singleton.1 undisturbed
      rw [List.append_assoc, List.singleton_append] at kept
      have silentEarlier : ∀ later ∈ rest, later.name = name → isValidTag later.tag = true →
          value? later = none :=
        fun later listed => silent later (List.mem_append_left [declaration] listed)
      exact .inr ⟨⟨before, own, rest, rfl, named, valid, given, silentEarlier, earlier⟩, kept,
        silent declaration (by simp)⟩
  · rintro (⟨named, valid, given⟩ |
      ⟨⟨before, own, after, rfl, named, valid, given, silent, undisturbed⟩, kept, mute⟩)
    · exact ⟨declarations, declaration, [], rfl, named, valid, given, by simp,
        undisturbed_nil _ _⟩
    · refine ⟨before, own, after ++ [declaration], by simp, named, valid, given, ?_, ?_⟩
      · intro later listed
        rcases List.mem_append.1 listed with earlier | here
        · exact silent later earlier
        · rw [List.mem_singleton.1 here]
          exact mute
      · rw [undisturbed_append_singleton, List.append_assoc, List.singleton_append]
        exact ⟨undisturbed, kept⟩

/-! ## What registering does on the writing side -/

namespace Tables

variable {policy : CollisionPolicy} {tables next final : Tables ι} {accessor : Accessor ι}
  {member : Member} {events : List (Event ι)} {root : SectionKey}

theorem tag?_register (registered : tables.register policy accessor = .ok next)
    (member : Member) :
    next.tag? member =
      if isValidTag accessor.tag = true then
        if accessor.member = member then some accessor.tag
        else if tables.rival? accessor = some member then none
        else tables.tag? member
      else tables.tag? member := by
  rcases register_cases registered with
    ⟨invalid, rfl⟩ | ⟨valid, alone, rfl⟩ | ⟨valid, -, rival, contested, rfl⟩
  · simp [invalid]
  · simp [valid, alone]
  · simp [valid, contested, eq_comm]

theorem parameterTag?_register (registered : tables.register policy accessor = .ok next)
    (member : Member) (position : Nat) :
    next.parameterTag? member position =
      if isValidTag accessor.tag = true then
        if accessor.member = member then
          (accessor.parameters[position]?.map Parameter.tag).or
            (tables.parameterTag? member position)
        else if tables.rival? accessor = some member then none
        else tables.parameterTag? member position
      else tables.parameterTag? member position := by
  rcases register_cases registered with
    ⟨invalid, rfl⟩ | ⟨valid, alone, rfl⟩ | ⟨valid, -, rival, contested, rfl⟩
  · simp [invalid]
  · by_cases same : accessor.member = member <;>
      simp [parameterTag?_record, valid, alone, same]
  · obtain ⟨-, -, -, different⟩ := rival?_eq_some_iff.1 contested
    by_cases same : accessor.member = member
    · subst same
      simp [parameterTag?_record, parameterTag?_forget, valid, Ne.symm different]
    · simp [parameterTag?_record, parameterTag?_forget, valid, contested, same, eq_comm]

/-- Whether a lookup is of what a member has on the writing side: a declaration of the member
gives it its value if it has one, a takeover from the member clears it, and nothing else
changes it. -/
structure IsKeptBy (member : Member) (value? : Declaration ι → Option String)
    (lookup : Tables ι → Option String) : Prop where
  empty (root : SectionKey) : lookup { root } = none
  register {policy : CollisionPolicy} {tables next : Tables ι} {owner : SectionKey}
    {declaration : Declaration ι} :
    tables.register policy (declaration.accessor owner) = .ok next →
      lookup next =
        if isValidTag declaration.tag = true then
          if Member.mk owner declaration.name = member then
            (value? declaration).or (lookup tables)
          else if tables.rival? (declaration.accessor owner) = some member then none
          else lookup tables
        else lookup tables

theorem isKeptBy_tag (member : Member) :
    IsKeptBy (ι := ι) member (fun declaration => some declaration.tag)
      fun tables => tables.tag? member where
  empty _ := rfl
  register registered := tag?_register registered member

end Tables

/-- The tag of the parameter that a declaration has at a position. -/
def Declaration.parameterTag? (declaration : Declaration ι) (position : Nat) : Option String :=
  declaration.kind.settle.parameters[position]?.map Parameter.tag

namespace Tables

variable {policy : CollisionPolicy} {tables next final : Tables ι} {member : Member}
  {events : List (Event ι)} {root owner : SectionKey} {lookup : Tables ι → Option String}

theorem isKeptBy_parameterTag (member : Member) (position : Nat) :
    IsKeptBy (ι := ι) member (fun declaration => declaration.parameterTag? position)
      fun tables => tables.parameterTag? member position where
  empty _ := rfl
  register registered := parameterTag?_register registered member position

/-- After a run the rival of a declaration is the member whose name it takes its tag over
from. -/
theorem rival?_eq_some_iff_takesFrom (taken : takeAll policy { root } events = .ok tables)
    (valid : isValidTag declaration.tag = true) :
    tables.rival? (declaration.accessor owner) = some member ↔
      member.owner = owner ∧ TakesFrom member.name (declaredOn owner events) declaration := by
  have found := resolve?_takeAll taken owner valid
  rw [resolve?_empty, Option.or_none] at found
  rw [rival?_eq_some_iff]
  constructor
  · rintro ⟨previous, resolved, rfl, different⟩
    obtain ⟨holder, last, rfl⟩ := Option.map_eq_some_iff.1 (found.symm.trans resolved)
    refine ⟨rfl, valid, ?_, holder, last, rfl⟩
    intro sameName
    exact different (congrArg (Member.mk owner) sameName.symm)
  · rintro ⟨rfl, -, different, holder, last, named⟩
    refine ⟨holder.accessor member.owner, ?_, congrArg (Member.mk member.owner) named, ?_⟩
    · exact found.trans (by rw [last, Option.map_some])
    · intro sameMember
      exact different (congrArg Member.name sameMember).symm

section

variable (kept : IsKeptBy member value? lookup)
  (taken : takeAll policy { root } events = .ok tables)

include kept taken

/-- A declaration on another section leaves what a member has. -/
theorem IsKeptBy.register_elsewhere (elsewhere : owner ≠ member.owner)
    (step : tables.register policy (declaration.accessor owner) = .ok next) :
    lookup next = lookup tables := by
  have other : Member.mk owner declaration.name ≠ member :=
    fun equality => elsewhere (congrArg Member.owner equality)
  rw [kept.register step, if_neg other]
  split
  · next valid =>
    have untouched : tables.rival? (declaration.accessor owner) ≠ some member :=
      fun rival => elsewhere ((rival?_eq_some_iff_takesFrom taken valid).1 rival).1.symm
    rw [if_neg untouched]
  · rfl

/-- A declaration on the section of a member does to what the member has what it does to what
its name retains. -/
theorem IsKeptBy.register_here
    (step : tables.register policy (declaration.accessor member.owner) = .ok next)
    (retained : lookup tables = some value ↔
      Retains member.name value? (declaredOn member.owner events) value) :
    lookup next = some value ↔
      Retains member.name value? (declaredOn member.owner events ++ [declaration]) value := by
  rw [kept.register step, retains_append_singleton, ← retained]
  by_cases valid : isValidTag declaration.tag = true
  · by_cases named : declaration.name = member.name
    · have untouched : ¬ TakesFrom member.name (declaredOn member.owner events) declaration :=
        fun takes => takes.2.1 named
      cases given : value? declaration <;> simp [valid, named, untouched]
    · have other : Member.mk member.owner declaration.name ≠ member :=
        fun equality => named (congrArg Member.name equality)
      have rival : tables.rival? (declaration.accessor member.owner) = some member ↔
          TakesFrom member.name (declaredOn member.owner events) declaration := by
        rw [rival?_eq_some_iff_takesFrom taken valid, and_iff_right rfl]
      by_cases takes : TakesFrom member.name (declaredOn member.owner events) declaration <;>
        simp [valid, named, other, rival, takes]
  · have untouched : ¬ TakesFrom member.name (declaredOn member.owner events) declaration :=
      fun takes => valid takes.1
    simp [valid, untouched]

end

/-- What a member has on the writing side after a run is what its name retains from the
declarations on its section. -/
theorem IsKeptBy.eq_some_iff (kept : IsKeptBy member value? lookup)
    (taken : takeAll policy { root } events = .ok final) :
    lookup final = some value ↔
      Retains member.name value? (declaredOn member.owner events) value := by
  induction events using List.reverseRecOn generalizing final with
  | nil =>
    cases taken
    simp [kept.empty, declaredOn, not_retains_nil]
  | append_singleton events event inductionHypothesis =>
    obtain ⟨middle, before, last⟩ := takeAll_append_eq_ok.1 taken
    obtain ⟨next, step, done⟩ := takeAll_cons_eq_ok.1 last
    cases done
    have retained := inductionHypothesis before
    cases event with
    | enter key =>
      cases step
      rw [declaredOn_append, declaredOn, declaredOn, List.append_nil, retained]
    | declare owner declaration =>
      rw [declaredOn_append, declaredOn, declaredOn]
      by_cases here : owner = member.owner
      · subst here
        rw [if_pos rfl]
        exact kept.register_here before step retained
      · rw [if_neg here, List.append_nil, kept.register_elsewhere before here step, retained]

variable {atlas : Atlas ι}

/-- In tables of an atlas a member has what its name retains from the page of its section,
provided that the itinerary enters the section. -/
theorem IsKeptBy.eq_some_iff_of_ofAtlas (kept : IsKeptBy member value? lookup)
    (filled : ofAtlas policy atlas root = .ok tables) :
    lookup tables = some value ↔
      atlas.Describes root member.owner ∧
        Retains member.name value? (atlas.declarations member.owner) value := by
  rw [kept.eq_some_iff filled]
  by_cases described : atlas.Describes root member.owner
  · rw [Atlas.declaredOn_itinerary_of_describes described, and_iff_right described]
  · rw [Atlas.declaredOn_itinerary_of_not_describes described]
    simp [not_retains_nil, described]

end Tables

/-! ## The last declaration of a name -/

/-- Whether a declaration is the last one of a name with a valid tag, in front of some
declarations and behind others. -/
structure IsLastOf (name : String) (declarations before : List (Declaration ι))
    (declaration : Declaration ι) (after : List (Declaration ι)) : Prop where
  split : declarations = before ++ declaration :: after
  named : declaration.name = name
  valid : isValidTag declaration.tag = true
  last : ∀ later ∈ after, later.name = name → isValidTag later.tag = false

theorem exists_isLastOf (listed : declaration ∈ declarations) (named : declaration.name = name)
    (valid : isValidTag declaration.tag = true) :
    ∃ before last after, IsLastOf name declarations before last after := by
  induction declarations generalizing declaration with
  | nil => cases listed
  | cons head rest inductionHypothesis =>
    by_cases behind : ∃ later ∈ rest, later.name = name ∧ isValidTag later.tag = true
    · obtain ⟨later, listedLater, namedLater, validLater⟩ := behind
      obtain ⟨before, last, after, isLast⟩ :=
        inductionHypothesis listedLater namedLater validLater
      exact ⟨head :: before, last, after, by rw [isLast.split, List.cons_append], isLast.named,
        isLast.valid, isLast.last⟩
    · have silent : ∀ later ∈ rest, later.name = name → isValidTag later.tag = false := by
        intro later listedLater namedLater
        rw [← Bool.not_eq_true]
        exact fun validLater => behind ⟨later, listedLater, namedLater, validLater⟩
      rcases List.mem_cons.1 listed with rfl | listedLater
      · exact ⟨[], declaration, rest, rfl, named, valid, silent⟩
      · exact absurd ⟨declaration, listedLater, named, valid⟩ behind

namespace IsLastOf

variable {other : Declaration ι} {beforeOther afterOther : List (Declaration ι)}

theorem unique (isLast : IsLastOf name declarations before declaration after)
    (isLastToo : IsLastOf name declarations beforeOther other afterOther) :
    before = beforeOther ∧ declaration = other ∧ after = afterOther := by
  have splits : before ++ declaration :: after = beforeOther ++ other :: afterOther :=
    isLast.split.symm.trans isLastToo.split
  rcases List.append_eq_append_iff.1 splits with
    ⟨between, rfl, behind⟩ | ⟨between, rfl, behind⟩
  · cases between with
    | nil =>
      obtain ⟨rfl, rfl⟩ := List.cons.inj behind
      simp
    | cons first between =>
      obtain ⟨rfl, rfl⟩ := List.cons.inj behind
      have mute := isLast.last other (by simp) isLastToo.named
      rw [isLastToo.valid] at mute
      cases mute
  · cases between with
    | nil =>
      obtain ⟨rfl, rfl⟩ := List.cons.inj behind
      simp
    | cons first between =>
      obtain ⟨rfl, rfl⟩ := List.cons.inj behind
      have mute := isLastToo.last declaration (by simp) isLast.named
      rw [isLast.valid] at mute
      cases mute

/-- What a name retains of its tags is the tag of its last declaration, if nothing behind
that takes a tag over from the name. -/
theorem retains_tag_iff (isLast : IsLastOf name declarations before declaration after) :
    Retains name (fun declaration => some declaration.tag) declarations value ↔
      declaration.tag = value ∧ Undisturbed name (before ++ [declaration]) after := by
  constructor
  · rintro ⟨front, own, back, split, named, valid, given, silent, undisturbed⟩
    have ownIsLast : IsLastOf name declarations front own back :=
      ⟨split, named, valid, fun later listed namedLater => by
        rw [← Bool.not_eq_true]
        intro validLater
        cases silent later listed namedLater validLater⟩
    obtain ⟨rfl, rfl, rfl⟩ := isLast.unique ownIsLast
    exact ⟨Option.some.inj given, undisturbed⟩
  · rintro ⟨rfl, undisturbed⟩
    refine ⟨before, declaration, after, isLast.split, isLast.named, isLast.valid, rfl, ?_,
      undisturbed⟩
    intro later listed named valid
    rw [isLast.last later listed named] at valid
    cases valid

/-- Whoever declares the tag of the last declaration again takes it over. -/
theorem not_undisturbed (isLast : IsLastOf name declarations before declaration after)
    (again : ∃ later ∈ after, later.tag = declaration.tag) :
    ¬ Undisturbed name (before ++ [declaration]) after := by
  intro undisturbed
  -- The first one to do so, as the tag is still the member's there.
  obtain ⟨first, found⟩ : ∃ first,
      after.find? (fun later => later.tag = declaration.tag) = some first := by
    rw [← Option.isSome_iff_exists, List.find?_isSome]
    simpa using again
  obtain ⟨sameTag, front, back, rfl, others⟩ := List.find?_eq_some_iff_append.1 found
  have sameTag : first.tag = declaration.tag := by simpa using sameTag
  have valid : isValidTag first.tag = true := sameTag ▸ isLast.valid
  apply undisturbed front first back rfl
  refine ⟨valid, ?_, declaration, ?_, isLast.named⟩
  · intro named
    rw [isLast.last first (by simp) named] at valid
    cases valid
  · rw [lastTagged?_eq_some_iff]
    exact ⟨sameTag.symm, before, front, by simp, by simpa [sameTag] using others⟩

end IsLastOf

/-! ## Members that can still be read -/

namespace Registry

variable {registry : Registry ι} {atlas : Atlas ι}

theorem tables_of_tables? {tables : Tables ι} (found : registry.tables? = some tables) :
    registry.tables = .ok tables := by
  rw [tables?] at found
  cases outcome : registry.tables with
  | error error =>
    rw [outcome] at found
    cases found
  | ok other =>
    rw [outcome] at found
    cases found
    rfl

/-- A registry that finds something has been filled from some root. -/
theorem FilledBy.exists_ofAtlas_of_resolve? (filledBy : registry.FilledBy atlas)
    {owner : SectionKey} {tag : String} {accessor : Accessor ι}
    (resolved : registry.resolve? owner tag = some accessor) :
    ∃ root tables, registry.tables = .ok tables ∧
      Tables.ofAtlas registry.policy atlas root = .ok tables ∧
      tables.resolve? owner tag = some accessor := by
  obtain ⟨tables, found, resolved⟩ := Option.bind_eq_some_iff.1 resolved
  have filled := tables_of_tables? found
  obtain ⟨root, same⟩ := filledBy _ (tables_eq_ok_iff.1 filled)
  exact ⟨root, tables, filled, same.symm, resolved⟩

end Registry

/-- A member that can still be read is written with the tag of its last declaration as long
as no tag that it then holds is declared for another name behind it. If the tag of its last
declaration is, then the member is not written with any tag. -/
theorem tag_lasts_until_takeover
    (atlas : Atlas ι) (operations : List Operation) {registry : Registry ι}
    (made : registry ∈ (Workspace.after atlas operations).registries)
    {owner : SectionKey} {tag : String} {accessor : Accessor ι}
    (resolved : registry.resolve? owner tag = some accessor) :
    ∃ before declaration after,
      IsLastOf accessor.member.name (atlas.declarations owner) before declaration after ∧
      (Undisturbed accessor.member.name (before ++ [declaration]) after →
        registry.tag? accessor.member = some declaration.tag ∧
          ∃ own, registry.resolve? owner declaration.tag = some own ∧
            own.member = accessor.member) ∧
      ((∃ later ∈ after, later.tag = declaration.tag) →
        registry.tag? accessor.member = none) := by
  have filledBy := (Workspace.sound_after atlas operations).registries registry made
  obtain ⟨root, tables, found, filled, resolved⟩ := filledBy.exists_ofAtlas_of_resolve? resolved
  have coherent := Tables.coherent_ofAtlas filled
  obtain rfl : accessor.member.owner = owner := coherent.owner_eq resolved
  obtain ⟨described, valid, holder, holds, same⟩ :=
    (Tables.resolve?_ofAtlas_eq_some_iff filled).1 resolved
  obtain ⟨tagged, front, back, split, -⟩ := lastTagged?_eq_some_iff.1 holds
  have named : holder.name = accessor.member.name := by rw [← same]; rfl
  have listed : holder ∈ atlas.declarations accessor.member.owner := by simp [split]
  obtain ⟨before, declaration, after, isLast⟩ := exists_isLastOf listed named (tagged ▸ valid)
  have retained (value : String) : tables.tag? accessor.member = some value ↔
      declaration.tag = value ∧
        Undisturbed accessor.member.name (before ++ [declaration]) after := by
    rw [(Tables.isKeptBy_tag accessor.member).eq_some_iff_of_ofAtlas filled,
      and_iff_right described, isLast.retains_tag_iff]
  refine ⟨before, declaration, after, isLast, ?lasts, ?lost⟩
  case lasts =>
    intro undisturbed
    have written := (retained declaration.tag).2 ⟨rfl, undisturbed⟩
    obtain ⟨own, read, ownMember, -⟩ := coherent.resolves written
    rw [Registry.tag?_of_tables found, Registry.resolve?_of_tables found]
    exact ⟨written, own, read, ownMember⟩
  case lost =>
    intro again
    rw [Registry.tag?_of_tables found, Option.eq_none_iff_forall_ne_some]
    intro value written
    exact isLast.not_undisturbed again ((retained value).1 written).2

open Registry

namespace Sample.Cabinet

def cabinet : SectionKey := ⟨0, "study::Cabinet"⟩

def drawer (tag : String) : Declaration String := ⟨"drawer", tag, .text fun _ => "drawer"⟩

def shelf : Declaration String := ⟨"shelf", "e", .text fun _ => "shelf"⟩

/-- A cabinet whose drawer has two tags. The second one goes to the shelf. -/
def inventory : Atlas String where
  pages := .ofList [(cabinet, [drawer "d", drawer "e", shelf])]

def cabinetHistory : List Operation := [.addRegistry .lastWins, .fill 0 cabinet]

theorem declarations_cabinet :
    inventory.declarations cabinet = [drawer "d", drawer "e", shelf] := rfl

theorem tables_inventory :
    (lenient inventory cabinet).tables =
      Tables.takeAll .lastWins { root := cabinet }
        (.enter cabinet :: [drawer "d", drawer "e", shelf].map (.declare cabinet)) := by
  rw [tables_lenient, inventory.itinerary_of_leadsTo?_eq_none, declarations_cabinet]
  rw [declarations_cabinet]
  simp [drawer, shelf, Declaration.leadsTo?, AccessorKind.target?]

theorem inventory_mem :
    lenient inventory cabinet ∈ (Workspace.after inventory cabinetHistory).registries :=
  List.mem_cons_self

theorem resolve?_drawer :
    (lenient inventory cabinet).resolve? cabinet "d" =
      some ((drawer "d").accessor cabinet) := by
  rw [resolve?, tables?, tables_inventory]
  rfl

theorem resolve?_shelf :
    (lenient inventory cabinet).resolve? cabinet "e" = some (shelf.accessor cabinet) := by
  rw [resolve?, tables?, tables_inventory]
  rfl

theorem isLastOf_drawer :
    IsLastOf "drawer" (inventory.declarations cabinet) [drawer "d"] (drawer "e") [shelf] where
  split := declarations_cabinet
  named := rfl
  valid := by decide
  last := by simp [shelf]

theorem isLastOf_shelf :
    IsLastOf "shelf" (inventory.declarations cabinet) [drawer "d", drawer "e"] shelf [] where
  split := declarations_cabinet
  named := rfl
  valid := by decide
  last := by simp

end Sample.Cabinet

open Sample.Cabinet

theorem tag_of_shelf_lasts :
    lenient inventory cabinet ∈ (Workspace.after inventory cabinetHistory).registries ∧
      (lenient inventory cabinet).resolve? cabinet "e" = some (shelf.accessor cabinet) ∧
      (lenient inventory cabinet).tag? ⟨cabinet, "shelf"⟩ = some "e" ∧
      (lenient inventory cabinet).resolve? cabinet "d" =
        some ((drawer "d").accessor cabinet) ∧
      (lenient inventory cabinet).tag? ⟨cabinet, "drawer"⟩ = none := by
  refine ⟨inventory_mem, resolve?_shelf, ?_, resolve?_drawer, ?_⟩
  · obtain ⟨before, declaration, after, isLast, lasts, -⟩ :=
      tag_lasts_until_takeover inventory cabinetHistory inventory_mem resolve?_shelf
    obtain ⟨rfl, rfl, rfl⟩ := isLast.unique isLastOf_shelf
    exact (lasts (undisturbed_nil _ _)).1
  · obtain ⟨before, declaration, after, isLast, -, lost⟩ :=
      tag_lasts_until_takeover inventory cabinetHistory inventory_mem resolve?_drawer
    obtain ⟨rfl, rfl, rfl⟩ := isLast.unique isLastOf_drawer
    exact lost ⟨shelf, List.mem_singleton_self shelf, rfl⟩

/-- The shelf takes one of two tags from the drawer. The drawer can still be read by the
other one, and yet it is written with none. -/
theorem drawer_can_be_read_but_not_written :
    (lenient inventory cabinet).policy = .lastWins ∧
      (lenient inventory cabinet).root? = some cabinet ∧
      (lenient inventory cabinet).resolve? cabinet "d" =
        some ⟨⟨cabinet, "drawer"⟩, "d", .text fun _ => "drawer"⟩ ∧
      ¬ ∃ tag own, (lenient inventory cabinet).tag? ⟨cabinet, "drawer"⟩ = some tag ∧
        (lenient inventory cabinet).resolve? cabinet tag = some own ∧
        own.member = ⟨cabinet, "drawer"⟩ := by
  refine ⟨rfl, root?_lenient inventory cabinet, resolve?_drawer, ?_⟩
  have untagged : (lenient inventory cabinet).tag? ⟨cabinet, "drawer"⟩ = none := by
    rw [tag?, tables?, tables_inventory]
    rfl
  rintro ⟨tag, own, tagged, -⟩
  rw [untagged] at tagged
  cases tagged

end Waymark
