import Waymark.Proofs.Takeover

/-!
# Tags of parameters

The tag of a parameter at a position of a member is that of its current declaration, as far
as this has parameters. Behind them it is that of an earlier declaration, if one with more
parameters has not been forgotten in a takeover.
-/

namespace Waymark

variable {ι : Type}

variable {name value : String} {value? : Declaration ι → Option String}
  {declarations : List (Declaration ι)}

/-- A name that retains anything retains a tag. -/
theorem Retains.exists_tag (retains : Retains name value? declarations value) :
    ∃ tag, Retains name (fun declaration => some declaration.tag) declarations tag := by
  induction declarations using List.reverseRecOn with
  | nil => exact absurd retains not_retains_nil
  | append_singleton declarations declaration inductionHypothesis =>
    by_cases own : declaration.name = name ∧ isValidTag declaration.tag = true
    · exact ⟨declaration.tag, retains_append_singleton.2 (.inl ⟨own.1, own.2, rfl⟩)⟩
    · rcases retains_append_singleton.1 retains with
        ⟨named, valid, -⟩ | ⟨retainedBefore, kept, -⟩
      · exact absurd ⟨named, valid⟩ own
      · obtain ⟨tag, tagged⟩ := inductionHypothesis retainedBefore
        exact ⟨tag, retains_append_singleton.2
          (.inr ⟨tagged, kept, fun named valid => absurd ⟨named, valid⟩ own⟩)⟩

namespace Registry

variable {registry : Registry ι} {atlas : Atlas ι} {member : Member} {position : Nat}
  {tag : String}

/-- Whether the tag of a member names a call whose parameter at a position has a tag. -/
def CallsWith (registry : Registry ι) (member : Member) (position : Nat) (tag : String) : Prop :=
  ∃ own accessor parameters invoke parameter,
    registry.tag? member = some own ∧
      registry.resolve? member.owner own = some accessor ∧
      accessor.kind = .call parameters invoke ∧
      parameters[position]? = some parameter ∧ parameter.tag = tag

/-- Whether what the tag of a member names has no parameter at a position any more, but an
earlier declaration of the member, behind which no tag was taken over from it, has one there
with a tag. -/
def Outgrown (registry : Registry ι) (atlas : Atlas ι) (member : Member) (position : Nat)
    (tag : String) : Prop :=
  ∃ own accessor,
    registry.tag? member = some own ∧
      registry.resolve? member.owner own = some accessor ∧
      accessor.parameters.length ≤ position ∧
      Retains member.name (fun declaration => declaration.parameterTag? position)
        (atlas.declarations member.owner) tag

end Registry

/-- A parameter that an accessor has makes it a call. -/
theorem Accessor.exists_call_of_parameters {accessor : Accessor ι} {position : Nat}
    {parameter : Parameter} (declared : accessor.parameters[position]? = some parameter) :
    ∃ parameters invoke, accessor.kind = .call parameters invoke ∧
      parameters[position]? = some parameter := by
  rw [Accessor.parameters] at declared
  cases kind : accessor.kind with
  | nested target navigate => simp [kind, AccessorKind.parameters] at declared
  | text read => simp [kind, AccessorKind.parameters] at declared
  | call parameters invoke =>
    rw [kind] at declared
    exact ⟨parameters, invoke, rfl, declared⟩

namespace Registry

variable {registry : Registry ι} {atlas : Atlas ι} {tables : Tables ι} {member : Member}
  {position : Nat} {tag : String}

theorem parameterTag?_of_callsWith (found : registry.tables = .ok tables)
    (coherent : tables.Coherent) (calls : registry.CallsWith member position tag) :
    registry.parameterTag? member position = some tag := by
  obtain ⟨own, accessor, parameters, invoke, parameter, tagged, resolved, call, declared, rfl⟩ :=
    calls
  rw [tag?_of_tables found] at tagged
  rw [resolve?_of_tables found] at resolved
  obtain ⟨holder, held, -, given⟩ := coherent.resolves tagged
  rw [resolved, Option.some.injEq] at held
  subst held
  rw [parameterTag?_of_tables found]
  exact given position parameter (by rw [Accessor.parameters, call]; exact declared)

theorem callsWith_or_outgrown {root : SectionKey} (found : registry.tables = .ok tables)
    (filled : Tables.ofAtlas registry.policy atlas root = .ok tables)
    (known : registry.parameterTag? member position = some tag) :
    registry.CallsWith member position tag ∨ registry.Outgrown atlas member position tag := by
  have coherent := Tables.coherent_ofAtlas filled
  have parameterTag := known
  rw [parameterTag?_of_tables found] at parameterTag
  obtain ⟨described, retained⟩ :=
    ((Tables.isKeptBy_parameterTag member position).eq_some_iff_of_ofAtlas filled).1 parameterTag
  obtain ⟨own, retainedTag⟩ := retained.exists_tag
  have tagged : tables.tag? member = some own :=
    ((Tables.isKeptBy_tag member).eq_some_iff_of_ofAtlas filled).2 ⟨described, retainedTag⟩
  obtain ⟨accessor, resolved, -, given⟩ := coherent.resolves tagged
  rw [← tag?_of_tables found] at tagged
  rw [← resolve?_of_tables found] at resolved
  cases declared : accessor.parameters[position]? with
  | none =>
    exact .inr ⟨own, accessor, tagged, resolved, List.getElem?_eq_none_iff.1 declared, retained⟩
  | some parameter =>
    obtain ⟨parameters, invoke, call, here⟩ := Accessor.exists_call_of_parameters declared
    have same := given position parameter declared
    rw [parameterTag, Option.some.injEq] at same
    exact .inl ⟨own, accessor, parameters, invoke, parameter, tagged, resolved, call, here,
      same.symm⟩

theorem parameterTag?_of_outgrown {root : SectionKey} (found : registry.tables = .ok tables)
    (filled : Tables.ofAtlas registry.policy atlas root = .ok tables)
    (outgrown : registry.Outgrown atlas member position tag) :
    registry.parameterTag? member position = some tag := by
  obtain ⟨own, accessor, tagged, -, -, retained⟩ := outgrown
  rw [tag?_of_tables found] at tagged
  obtain ⟨described, -⟩ :=
    ((Tables.isKeptBy_tag member).eq_some_iff_of_ofAtlas filled).1 tagged
  rw [parameterTag?_of_tables found]
  exact ((Tables.isKeptBy_parameterTag member position).eq_some_iff_of_ofAtlas filled).2
    ⟨described, retained⟩

end Registry

/-- A position of a member has a tag just when the member's own tag names a call with a
parameter of that tag there, or when the position has been outgrown and keeps the tag of an
earlier declaration. -/
theorem parameterTag_is_current_unless_outgrown
    (atlas : Atlas ι) (operations : List Operation) {registry : Registry ι}
    (made : registry ∈ (Workspace.after atlas operations).registries)
    (member : Member) (position : Nat) (tag : String) :
    registry.parameterTag? member position = some tag ↔
      registry.CallsWith member position tag ∨ registry.Outgrown atlas member position tag := by
  have filledBy := (Workspace.sound_after atlas operations).registries registry made
  cases found : registry.tables with
  | error error =>
    have noTables : registry.tables? = none := by
      rw [Registry.tables?, found]
      rfl
    simp [Registry.parameterTag?, Registry.CallsWith, Registry.Outgrown, Registry.tag?, noTables]
  | ok tables =>
    obtain ⟨root, same⟩ := filledBy _ (Registry.tables_eq_ok_iff.1 found)
    have filled := same.symm
    constructor
    · exact Registry.callsWith_or_outgrown found filled
    · rintro (calls | outgrown)
      · exact Registry.parameterTag?_of_callsWith found (Tables.coherent_ofAtlas filled) calls
      · exact Registry.parameterTag?_of_outgrown found filled outgrown

open Registry

namespace Sample.Doorway

def doorway : SectionKey := ⟨0, "house::Doorway"⟩

def knocker : Declaration String :=
  ⟨"knocker", "k", .call [.ofType (.int .u8) "times"] fun _ _ => "knock"⟩

def bell : Declaration String :=
  ⟨"bell", "b", .call [.ofType (.int .i32) "volume"] fun _ _ => "ring"⟩

def mutedBell : Declaration String := ⟨"bell", "b", .text fun _ => "bell"⟩

/-- A doorway with a knocker and a bell. The bell is declared first as a call, then again as
a text. -/
def fittings : Atlas String where
  pages := .ofList [(doorway, [knocker, bell, mutedBell])]

def doorwayHistory : List Operation := [.addRegistry .lastWins, .fill 0 doorway]

theorem declarations_doorway : fittings.declarations doorway = [knocker, bell, mutedBell] := rfl

theorem tables_fittings :
    (lenient fittings doorway).tables =
      Tables.takeAll .lastWins { root := doorway }
        (.enter doorway :: [knocker, bell, mutedBell].map (.declare doorway)) := by
  rw [tables_lenient, fittings.itinerary_of_leadsTo?_eq_none, declarations_doorway]
  rw [declarations_doorway]
  simp [knocker, bell, mutedBell, Declaration.leadsTo?, AccessorKind.target?]

theorem fittings_mem :
    lenient fittings doorway ∈ (Workspace.after fittings doorwayHistory).registries :=
  List.mem_cons_self

theorem callsWith_knocker :
    (lenient fittings doorway).CallsWith ⟨doorway, "knocker"⟩ 0 "times" := by
  refine ⟨"k", knocker.accessor doorway, [⟨"times", "times", .int⟩], fun _ _ => "knock",
    ⟨"times", "times", .int⟩, ?_, ?_, rfl, rfl, rfl⟩
  · rw [tag?, tables?, tables_fittings]
    rfl
  · rw [resolve?, tables?, tables_fittings]
    rfl

theorem resolve?_bell :
    (lenient fittings doorway).resolve? doorway "b" = some (mutedBell.accessor doorway) := by
  rw [resolve?, tables?, tables_fittings]
  rfl

theorem tag?_bell : (lenient fittings doorway).tag? ⟨doorway, "bell"⟩ = some "b" := by
  rw [tag?, tables?, tables_fittings]
  rfl

theorem outgrown_bell :
    (lenient fittings doorway).Outgrown fittings ⟨doorway, "bell"⟩ 0 "volume" := by
  refine ⟨"b", mutedBell.accessor doorway, tag?_bell, resolve?_bell, Nat.zero_le 0, ?_⟩
  refine ⟨[knocker], bell, [mutedBell], declarations_doorway, rfl, by decide, rfl, ?_, ?_⟩
  · intro later listed named valid
    rw [List.mem_singleton.1 listed]
    rfl
  · have own : ¬ TakesFrom "bell" ([knocker] ++ [bell] ++ []) mutedBell :=
      fun takes => takes.2.1 rfl
    exact undisturbed_append_singleton.2 ⟨undisturbed_nil _ _, own⟩

end Sample.Doorway

open Sample.Doorway

theorem parameterTags_at_doorway :
    lenient fittings doorway ∈ (Workspace.after fittings doorwayHistory).registries ∧
      (lenient fittings doorway).parameterTag? ⟨doorway, "knocker"⟩ 0 = some "times" ∧
      (lenient fittings doorway).parameterTag? ⟨doorway, "bell"⟩ 0 = some "volume" := by
  have tags := parameterTag_is_current_unless_outgrown fittings doorwayHistory fittings_mem
  exact ⟨fittings_mem, (tags _ _ _).2 (.inl callsWith_knocker),
    (tags _ _ _).2 (.inr outgrown_bell)⟩

/-- The bell is a text now, and still its first position has the tag of the parameter that
it had as a call. -/
theorem muted_bell_keeps_volume :
    (lenient fittings doorway).parameterTag? ⟨doorway, "bell"⟩ 0 = some "volume" ∧
      (lenient fittings doorway).resolve? doorway "b" =
        some ⟨⟨doorway, "bell"⟩, "b", .text fun _ => "bell"⟩ ∧
      ¬ (lenient fittings doorway).CallsWith ⟨doorway, "bell"⟩ 0 "volume" := by
  refine ⟨?_, resolve?_bell, ?_⟩
  · rw [parameterTag?, tables?, tables_fittings]
    rfl
  · rintro ⟨own, accessor, parameters, invoke, parameter, tagged, resolved, call, -⟩
    rw [tag?_bell, Option.some.injEq] at tagged
    subst tagged
    rw [resolve?_bell, Option.some.injEq] at resolved
    subst resolved
    cases call

end Waymark
