import Waymark.Registry.Tables

/-!
# Registering accessors

Registering an accessor keeps the tables coherent: an accessor stands under its own
section and a tag that an identifier can spell, and the tag of a member leads back to
the member. As long as no member is registered twice, the converse is kept too: what an
identifier can name, a path can be labelled with.
-/

namespace Waymark

namespace Tables

variable {ι : Type} {policy : CollisionPolicy} {tables next final : Tables ι}
  {accessor : Accessor ι}

/-! ## What the operations do to the lookups -/

@[simp] theorem resolve?_empty (root owner : SectionKey) (tag : String) :
    ({ root } : Tables ι).resolve? owner tag = none := rfl

@[simp] theorem resolve?_forget (tables : Tables ι) (member : Member) (owner : SectionKey)
    (tag : String) : (tables.forget member).resolve? owner tag = tables.resolve? owner tag := rfl

@[simp] theorem tag?_forget (tables : Tables ι) (member other : Member) :
    (tables.forget member).tag? other = if other = member then none else tables.tag? other := by
  by_cases same : other = member <;> simp [tag?, forget, same]

theorem parameterTag?_forget (tables : Tables ι) (member other : Member) (position : Nat) :
    (tables.forget member).parameterTag? other position =
      if other = member then none else tables.parameterTag? other position := by
  by_cases same : other = member <;> simp [parameterTag?, forget, same]

@[simp] theorem resolve?_record (tables : Tables ι) (accessor : Accessor ι) (owner : SectionKey)
    (tag : String) :
    (tables.record accessor).resolve? owner tag =
      if accessor.owner = owner ∧ accessor.tag = tag then some accessor
      else tables.resolve? owner tag := by
  simp [resolve?, record]

@[simp] theorem tag?_record (tables : Tables ι) (accessor : Accessor ι) (member : Member) :
    (tables.record accessor).tag? member =
      if accessor.member = member then some accessor.tag else tables.tag? member := by
  simp [tag?, record]

theorem get?_setParameterTags (member other : Member) (start position : Nat)
    (parameters : List Parameter) (known : Dict (Member × Nat) String) :
    (setParameterTags member start parameters known).get? (other, position) =
      ((if member = other ∧ start ≤ position then parameters[position - start]?
        else none).map Parameter.tag).or (known.get? (other, position)) := by
  induction parameters generalizing start known with
  | nil => simp [setParameterTags]
  | cons parameter rest inductionHypothesis =>
    rw [setParameterTags, inductionHypothesis, Dict.get?_insert]
    by_cases same : member = other
    · rcases Nat.lt_trichotomy position start with before | here | behind
      · have notLater : ¬ start + 1 ≤ position := by omega
        have notHere : ¬ start ≤ position := by omega
        simp [same, notLater, notHere, Nat.ne_of_gt before]
      · have notLater : ¬ start + 1 ≤ start := by omega
        simp [same, here, notLater]
      · obtain ⟨offset, rfl⟩ := Nat.exists_eq_add_of_lt behind
        have shifted : start + offset + 1 - start = offset + 1 := by omega
        have shiftedRest : start + offset + 1 - (start + 1) = offset := by omega
        have here : start ≤ start + offset + 1 := by omega
        have later : start + 1 ≤ start + offset + 1 := by omega
        have apart : start ≠ start + offset + 1 := by omega
        simp [same, shifted, shiftedRest, here, later, apart]
    · simp [same]

/-- The positions that a call declares take its tags; others keep what they had. -/
theorem parameterTag?_record (tables : Tables ι) (accessor : Accessor ι) (member : Member)
    (position : Nat) :
    (tables.record accessor).parameterTag? member position =
      ((if accessor.member = member then accessor.parameters[position]?
        else none).map Parameter.tag).or (tables.parameterTag? member position) := by
  simp [parameterTag?, record, get?_setParameterTags]

/-! ## What registering can do -/

theorem rival?_eq_some_iff {rival : Member} :
    tables.rival? accessor = some rival ↔
      ∃ previous, tables.resolve? accessor.owner accessor.tag = some previous ∧
        previous.member = rival ∧ rival ≠ accessor.member := by
  simp only [rival?, Option.filter_eq_some_iff, Option.map_eq_some_iff, decide_eq_true_eq]
  constructor
  · intro contested
    obtain ⟨⟨previous, found, named⟩, different⟩ := contested
    exact ⟨previous, found, named, different⟩
  · intro contested
    obtain ⟨previous, found, named, different⟩ := contested
    exact ⟨⟨previous, found, named⟩, different⟩

theorem member_eq_of_rival?_eq_none (alone : tables.rival? accessor = none)
    {previous : Accessor ι} (found : tables.resolve? accessor.owner accessor.tag = some previous) :
    previous.member = accessor.member := by
  simpa [rival?, found] using alone

/-- Registering leaves an invalid tag out. A valid one it records, after the other member
that held it, if there was one and the policy allows it, has been forgotten. -/
theorem register_cases (registered : tables.register policy accessor = .ok next) :
    (isValidTag accessor.tag = false ∧ next = tables) ∨
      (isValidTag accessor.tag = true ∧ tables.rival? accessor = none ∧
        next = tables.record accessor) ∨
      (isValidTag accessor.tag = true ∧ policy = .lastWins ∧
        ∃ rival, tables.rival? accessor = some rival ∧
          next = (tables.forget rival).record accessor) := by
  unfold register at registered
  split at registered
  · next valid =>
    split at registered
    · next alone =>
      cases registered
      exact .inr (.inl ⟨valid, alone, rfl⟩)
    · next rival contested =>
      cases registered
      exact .inr (.inr ⟨valid, rfl, rival, contested, rfl⟩)
    · cases registered
  · next invalid =>
    cases registered
    exact .inl ⟨by simpa using invalid, rfl⟩

theorem resolve?_register (registered : tables.register policy accessor = .ok next)
    (owner : SectionKey) (tag : String) :
    next.resolve? owner tag =
      if accessor.owner = owner ∧ accessor.tag = tag ∧ isValidTag tag then some accessor
      else tables.resolve? owner tag := by
  rcases register_cases registered with ⟨invalid, rfl⟩ | ⟨valid, -, rfl⟩ | ⟨valid, -, rival, -, rfl⟩
  · rw [if_neg]
    intro same
    obtain ⟨-, rfl, valid⟩ := same
    rw [invalid] at valid
    cases valid
  all_goals
    by_cases same : accessor.owner = owner ∧ accessor.tag = tag
    · obtain ⟨rfl, rfl⟩ := same
      simp [valid]
    · have different : ¬ (accessor.owner = owner ∧ accessor.tag = tag ∧ isValidTag tag) :=
        fun all => same ⟨all.1, all.2.1⟩
      simp [same, different]

theorem root_register (registered : tables.register policy accessor = .ok next) :
    next.root = tables.root := by
  rcases register_cases registered with ⟨-, rfl⟩ | ⟨-, -, rfl⟩ | ⟨-, -, rival, -, rfl⟩ <;> rfl

/-! ## Coherent tables -/

/-- The three tables fit together: accessors stand under their own section and a valid
tag of theirs, and the tag of a member names that member, with the tags of its
parameters beside it. -/
structure Coherent (tables : Tables ι) : Prop where
  owner_eq {owner : SectionKey} {tag : String} {accessor : Accessor ι} :
    tables.resolve? owner tag = some accessor → accessor.owner = owner
  tag_eq {owner : SectionKey} {tag : String} {accessor : Accessor ι} :
    tables.resolve? owner tag = some accessor → accessor.tag = tag
  valid {owner : SectionKey} {tag : String} {accessor : Accessor ι} :
    tables.resolve? owner tag = some accessor → isValidTag tag = true
  resolves {member : Member} {tag : String} :
    tables.tag? member = some tag →
      ∃ accessor, tables.resolve? member.owner tag = some accessor ∧
        accessor.member = member ∧
        ∀ (position : Nat) (parameter : Parameter),
          accessor.parameters[position]? = some parameter →
            tables.parameterTag? member position = some parameter.tag

theorem coherent_empty (root : SectionKey) : Coherent ({ root } : Tables ι) where
  owner_eq found := by cases found
  tag_eq found := by cases found
  valid found := by cases found
  resolves found := by cases found

namespace Coherent

/-- In coherent tables only the holder of a tag can have it on the writing side. -/
theorem member_eq_of_tag? (coherent : Coherent tables) {member : Member} {tag : String}
    {accessor : Accessor ι} (tagged : tables.tag? member = some tag)
    (found : tables.resolve? member.owner tag = some accessor) : accessor.member = member := by
  obtain ⟨holder, held, same, -⟩ := coherent.resolves tagged
  rw [found, Option.some.injEq] at held
  rw [held, same]

/-- Recording an accessor whose tag no other member has on the writing side. -/
theorem record (coherent : Coherent tables) (valid : isValidTag accessor.tag = true)
    (free : ∀ member, member.owner = accessor.owner → member ≠ accessor.member →
      tables.tag? member ≠ some accessor.tag) :
    Coherent (tables.record accessor) where
  owner_eq {owner tag found} := by
    rw [resolve?_record]
    split
    · next same =>
      intro same
      cases same
      exact same.1
    · exact coherent.owner_eq
  tag_eq {owner tag found} := by
    rw [resolve?_record]
    split
    · next same =>
      intro same
      cases same
      exact same.2
    · exact coherent.tag_eq
  valid {owner tag found} := by
    rw [resolve?_record]
    split
    · next same =>
      intro same
      cases same
      exact same.2 ▸ valid
    · exact coherent.valid
  resolves {member tag} tagged := by
    rw [tag?_record] at tagged
    by_cases same : accessor.member = member
    · rw [if_pos same, Option.some.injEq] at tagged
      subst same tagged
      refine ⟨accessor, by simp [Accessor.owner], rfl, ?_⟩
      intro position parameter declared
      simp [parameterTag?_record, declared]
    · rw [if_neg same] at tagged
      obtain ⟨holder, held, named, declared⟩ := coherent.resolves tagged
      have apart : ¬ (accessor.owner = member.owner ∧ accessor.tag = tag) := by
        intro same
        obtain ⟨sameOwner, rfl⟩ := same
        exact free member sameOwner.symm (Ne.symm same) tagged
      refine ⟨holder, by rw [resolve?_record, if_neg apart, held], named, ?_⟩
      intro position parameter found
      simpa [parameterTag?_record, same] using declared position parameter found

/-- Forgetting a member takes its tag and its parameters' tags away together. -/
theorem forget (coherent : Coherent tables) (member : Member) :
    Coherent (tables.forget member) where
  owner_eq found := coherent.owner_eq found
  tag_eq found := coherent.tag_eq found
  valid found := coherent.valid found
  resolves {other tag} tagged := by
    rw [tag?_forget] at tagged
    split at tagged
    · cases tagged
    · next different =>
      obtain ⟨holder, held, named, declared⟩ := coherent.resolves tagged
      refine ⟨holder, held, named, ?_⟩
      intro position parameter found
      rw [parameterTag?_forget, if_neg different]
      exact declared position parameter found

theorem register (coherent : Coherent tables)
    (registered : tables.register policy accessor = .ok next) : Coherent next := by
  rcases register_cases registered with
    ⟨-, rfl⟩ | ⟨valid, alone, rfl⟩ | ⟨valid, -, rival, contested, rfl⟩
  · exact coherent
  · -- A member with the tag would hold it, and would have been the rival.
    apply coherent.record valid
    intro member sameOwner different tagged
    obtain ⟨holder, held, named, -⟩ := coherent.resolves tagged
    rw [sameOwner] at held
    exact different (named ▸ member_eq_of_rival?_eq_none alone held)
  · apply (coherent.forget rival).record valid
    intro member sameOwner different tagged
    rw [tag?_forget] at tagged
    split at tagged
    · cases tagged
    · next notRival =>
      obtain ⟨previous, found, named, -⟩ := rival?_eq_some_iff.1 contested
      rw [← sameOwner] at found
      exact notRival (coherent.member_eq_of_tag? tagged found ▸ named)

end Coherent

/-! ## Tables that can be written -/

/-- Every accessor that a section and a tag name has that tag on the writing side. -/
def Writable (tables : Tables ι) : Prop :=
  ∀ owner tag accessor, tables.resolve? owner tag = some accessor →
    tables.tag? accessor.member = some tag

/-- Whether no accessor of a member is known yet. -/
def Fresh (tables : Tables ι) (member : Member) : Prop :=
  ∀ owner tag accessor, tables.resolve? owner tag = some accessor → accessor.member ≠ member

/-- A member that is registered for the first time takes over whole accessors: the rival
has no other tag that could be lost with the contested one. -/
theorem Writable.register (writable : Writable tables) (coherent : Coherent tables)
    (fresh : Fresh tables accessor.member)
    (registered : tables.register policy accessor = .ok next) : Writable next := by
  intro owner tag found resolved
  rw [resolve?_register registered] at resolved
  rcases register_cases registered with
    ⟨invalid, rfl⟩ | ⟨-, -, rfl⟩ | ⟨-, -, rival, contested, rfl⟩
  · split at resolved
    · next same =>
      rw [same.2.1, same.2.2] at invalid
      cases invalid
    · exact writable owner tag found resolved
  · split at resolved
    · next same =>
      cases resolved
      simpa using same.2.1
    · rw [tag?_record, if_neg (Ne.symm (fresh owner tag found resolved))]
      exact writable owner tag found resolved
  · split at resolved
    · next same =>
      cases resolved
      simpa using same.2.1
    · next different =>
      obtain ⟨previous, held, named, -⟩ := rival?_eq_some_iff.1 contested
      -- The rival has one tag only. An accessor of it elsewhere would have the contested one.
      have kept : found.member ≠ rival := by
        intro equality
        have foundTag := writable owner tag found resolved
        have previousTag := writable _ _ previous held
        rw [equality, ← named, previousTag, Option.some.injEq] at foundTag
        have sameOwner : accessor.owner = owner := by
          rw [← coherent.owner_eq held, ← coherent.owner_eq resolved, Accessor.owner,
            Accessor.owner, named, equality]
        exact different ⟨sameOwner, foundTag, coherent.valid resolved⟩
      rw [tag?_record, if_neg (Ne.symm (fresh owner tag found resolved)), tag?_forget,
        if_neg kept]
      exact writable owner tag found resolved

end Tables

end Waymark
