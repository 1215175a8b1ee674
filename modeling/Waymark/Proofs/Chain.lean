import Waymark.Encoding
import Waymark.Proofs.Identifier
import Waymark.Proofs.Registration
import Waymark.Shape

/-!
# Chains of accessors

Encoding and compiling both go along a chain of accessors in which each one is declared
by the section that the ones before it lead to. Encoding finds the chain by members,
compiling finds it by tags. Each succeeds just when there is such a chain, and where it
can be found both ways the two go along the same one.
-/

namespace Waymark

variable {ι : Type}

/-! ## Chains -/

/-- Accessors that lead from one section to another: each is declared by the section
reached so far and steps into a nested one. -/
inductive Leads : SectionKey → List (Accessor ι) → SectionKey → Prop
  | here (key : SectionKey) : Leads key [] key
  | through {key target reached : SectionKey} {accessor : Accessor ι} {navigate : ι → ι}
      {rest : List (Accessor ι)} :
      accessor.owner = key →
      accessor.kind = .nested target navigate →
      Leads target rest reached →
      Leads key (accessor :: rest) reached

theorem Leads.append {first middle last : SectionKey} {front back : List (Accessor ι)}
    (leadsFront : Leads first front middle) (leadsBack : Leads middle back last) :
    Leads first (front ++ back) last := by
  induction leadsFront with
  | here key => exact leadsBack
  | through owned nested _ inductionHypothesis =>
    exact .through owned nested (inductionHypothesis leadsBack)

/-- The step that a nested section is; other accessors are none. -/
def Accessor.step? (accessor : Accessor ι) : Option (Step ι) :=
  match accessor.kind with
  | .nested target navigate => some ⟨accessor.member, target, navigate⟩
  | .text _ | .call _ _ => none

theorem Accessor.step?_of_nested {accessor : Accessor ι} {target : SectionKey}
    {navigate : ι → ι} (nested : accessor.kind = .nested target navigate) :
    accessor.step? = some ⟨accessor.member, target, navigate⟩ := by
  rw [Accessor.step?, nested]

theorem Leads.map_member_steps {key reached : SectionKey} {inner : List (Accessor ι)}
    (leads : Leads key inner reached) :
    (inner.filterMap Accessor.step?).map Step.member = inner.map Accessor.member := by
  induction leads with
  | here key => rfl
  | through owned nested _ inductionHypothesis =>
    rw [List.filterMap_cons_some (Accessor.step?_of_nested nested), List.map_cons, List.map_cons,
      inductionHypothesis]

theorem Accessor.member_of_leaf? {accessor : Accessor ι} {leaf : Leaf ι}
    (isLeaf : accessor.leaf? = some leaf) : leaf.member = accessor.member := by
  unfold Accessor.leaf? at isLeaf
  split at isLeaf <;> cases isLeaf <;> rfl

namespace Tables

variable {tables : Tables ι} {accessor : Accessor ι}

/-! ## Finding accessors -/

/-- Whether an accessor is what its own section and tag name. -/
def Names (tables : Tables ι) (accessor : Accessor ι) : Prop :=
  tables.resolve? accessor.owner accessor.tag = some accessor

/-- Whether an accessor is what the tag of its own member names. -/
def Holds (tables : Tables ι) (accessor : Accessor ι) : Prop :=
  tables.accessor? accessor.member = some accessor

theorem accessor?_eq_some_iff {member : Member} :
    tables.accessor? member = some accessor ↔
      ∃ tag, tables.tag? member = some tag ∧ tables.resolve? member.owner tag = some accessor ∧
        accessor.member = member := by
  rw [accessor?]
  cases tables.tag? member with
  | none => simp
  | some tag => simp [Option.filter_eq_some_iff]

theorem Coherent.names_of_resolve? (coherent : Coherent tables) {owner : SectionKey}
    {tag : String} (found : tables.resolve? owner tag = some accessor) : Names tables accessor := by
  rw [Names, coherent.owner_eq found, coherent.tag_eq found, found]

theorem Coherent.names_of_holds (coherent : Coherent tables) (held : Holds tables accessor) :
    Names tables accessor := by
  obtain ⟨tag, -, found, -⟩ := accessor?_eq_some_iff.1 held
  exact coherent.names_of_resolve? found

theorem Writable.holds_of_names (writable : Writable tables) (named : Names tables accessor) :
    Holds tables accessor :=
  accessor?_eq_some_iff.2 ⟨accessor.tag, writable _ _ _ named, named, rfl⟩

theorem Coherent.isValidTag_of_names (coherent : Coherent tables) (named : Names tables accessor) :
    isValidTag accessor.tag = true :=
  coherent.valid named

theorem holds_of_accessor? {member : Member} (found : tables.accessor? member = some accessor) :
    accessor.member = member ∧ Holds tables accessor := by
  obtain ⟨tag, tagged, resolved, rfl⟩ := accessor?_eq_some_iff.1 found
  exact ⟨rfl, found⟩

theorem accessors?_eq_ok_iff {members : List Member} {accessors : List (Accessor ι)} :
    tables.accessors? members = .ok accessors ↔
      members = accessors.map Accessor.member ∧ ∀ accessor ∈ accessors, Holds tables accessor := by
  induction members generalizing accessors with
  | nil =>
    rw [accessors?]
    constructor
    · intro same
      cases same
      simp
    · intro found
      obtain ⟨shape, -⟩ := found
      rw [List.map_eq_nil_iff.1 shape.symm]
  | cons member rest inductionHypothesis =>
    rw [accessors?]
    constructor
    · intro found
      split at found
      · cases found
      · next others later =>
        obtain ⟨rfl, held⟩ := inductionHypothesis.1 later
        split at found
        · cases found
        · next accessor first =>
          cases found
          obtain ⟨rfl, heldFirst⟩ := holds_of_accessor? first
          exact ⟨rfl, List.forall_mem_cons.2 ⟨heldFirst, held⟩⟩
    · intro found
      obtain ⟨shape, held⟩ := found
      obtain ⟨accessor, others, rfl, rfl, rfl⟩ := List.map_eq_cons_iff.1 shape.symm
      obtain ⟨heldFirst, heldRest⟩ := List.forall_mem_cons.1 held
      rw [inductionHypothesis.2 ⟨rfl, heldRest⟩]
      simp only [show tables.accessor? accessor.member = some accessor from heldFirst]

end Tables

/-! ## Encoding along a chain -/

namespace Encoding

theorem leaf?_eq_ok_iff {identifier : String} {reached : SectionKey}
    {first leaf : Accessor ι} {rest : List (Accessor ι)} :
    leaf? identifier reached first rest = .ok leaf ↔
      ∃ inner, first :: rest = inner ++ [leaf] ∧ Leads reached inner leaf.owner := by
  induction rest generalizing reached first with
  | nil =>
    rw [leaf?]
    constructor
    · intro found
      split at found
      · next owned =>
        cases found
        exact ⟨[], rfl, owned ▸ .here leaf.owner⟩
      · cases found
    · intro chain
      obtain ⟨inner, shape, leads⟩ := chain
      obtain ⟨rfl, same⟩ := List.append_eq_singleton_iff.1 shape.symm |>.resolve_right (by simp)
      cases same
      cases leads
      rw [if_pos rfl]
  | cons next rest inductionHypothesis =>
    rw [leaf?]
    constructor
    · intro found
      split at found
      · next owned =>
        split at found
        · next target navigate nested =>
          obtain ⟨inner, shape, leads⟩ := inductionHypothesis.1 found
          exact ⟨first :: inner, by rw [shape, List.cons_append], .through owned nested leads⟩
        · cases found
        · cases found
      · cases found
    · intro chain
      obtain ⟨inner, shape, leads⟩ := chain
      cases leads with
      | here => simp at shape
      | through owned nested leads =>
        rw [List.cons_append, List.cons.injEq] at shape
        obtain ⟨rfl, shape⟩ := shape
        rw [if_pos owned, nested]
        exact inductionHypothesis.2 ⟨_, shape, leads⟩

end Encoding

namespace Tables

variable {tables : Tables ι}

/-- Along a chain that starts at the root only the end of a path decides. -/
theorem encode_of_leads {path : Path} {inner : List (Accessor ι)} {leaf : Accessor ι}
    (rooted : tables.root = path.root)
    (members : path.members = (inner ++ [leaf]).map Accessor.member)
    (held : ∀ accessor ∈ inner ++ [leaf], Holds tables accessor)
    (leads : Leads tables.root inner leaf.owner) :
    tables.encode path =
      match Encoding.parameters? (Identifier.ofTags ((inner ++ [leaf]).map Accessor.tag)) path
        leaf with
      | .error error => .refused error
      | .ok parameters =>
        .label ⟨Identifier.ofTags ((inner ++ [leaf]).map Accessor.tag), parameters⟩ := by
  rw [encode, if_pos rooted, accessors?_eq_ok_iff.2 ⟨members, held⟩]
  obtain ⟨first, rest, shape⟩ := List.exists_cons_of_ne_nil (l := inner ++ [leaf]) (by simp)
  rw [shape]
  have ends (identifier : String) :
      Encoding.leaf? identifier tables.root first rest = .ok leaf :=
    Encoding.leaf?_eq_ok_iff.2 ⟨inner, shape.symm, leads⟩
  simp only [Encoding.label?, ends]
  cases Encoding.parameters? (Identifier.ofTags ((first :: rest).map Accessor.tag)) path leaf <;>
    rfl

/-- A path has a label just when its members have tags and follow one another from the
root, and its end fits the accessor there. -/
theorem encode_eq_label_iff {path : Path} {label : Label} :
    tables.encode path = .label label ↔
      tables.root = path.root ∧ ∃ inner leaf parameters,
        path.members = (inner ++ [leaf]).map Accessor.member ∧
        (∀ accessor ∈ inner ++ [leaf], Holds tables accessor) ∧
        Leads tables.root inner leaf.owner ∧
        Encoding.parameters? (Identifier.ofTags ((inner ++ [leaf]).map Accessor.tag)) path leaf =
          .ok parameters ∧
        label = ⟨Identifier.ofTags ((inner ++ [leaf]).map Accessor.tag), parameters⟩ := by
  constructor
  · intro encoded
    rw [encode] at encoded
    split at encoded
    · next rooted =>
      split at encoded
      · cases encoded
      · cases encoded
      · next first rest found =>
        obtain ⟨members, held⟩ := accessors?_eq_ok_iff.1 found
        rw [Encoding.label?] at encoded
        split at encoded
        · cases encoded
        · next labelled =>
          split at labelled
          · cases labelled
          · next leaf ends =>
            obtain ⟨inner, shape, leads⟩ := Encoding.leaf?_eq_ok_iff.1 ends
            rw [shape] at members held labelled
            split at labelled
            · cases labelled
            · next parameters bound =>
              cases labelled
              cases encoded
              exact ⟨rooted, inner, leaf, parameters, members, held, leads, bound, rfl⟩
    · cases encoded
  · intro chain
    obtain ⟨rooted, inner, leaf, parameters, members, held, leads, bound, rfl⟩ := chain
    rw [encode_of_leads rooted members held leads, bound]

end Tables

/-! ## Compiling along a chain -/

namespace Tables

variable {tables : Tables ι} {accessor : Accessor ι}

theorem segment?_eq_ok_iff {identifier tag : String} {reached : SectionKey} :
    tables.segment? identifier reached tag = .ok accessor ↔
      tables.resolve? reached tag = some accessor := by
  rw [segment?]
  cases tables.resolve? reached tag <;> simp

theorem descend_eq_ok_iff (coherent : Coherent tables) {identifier tag : String}
    {reached : SectionKey} {tags : List String} {steps : List (Step ι)} {leaf : Leaf ι} :
    tables.descend identifier reached tag tags = .ok (steps, leaf) ↔
      ∃ inner last, Leads reached inner last.owner ∧
        tag :: tags = (inner ++ [last]).map Accessor.tag ∧
        (∀ accessor ∈ inner ++ [last], Names tables accessor) ∧
        inner.filterMap Accessor.step? = steps ∧ last.leaf? = some leaf := by
  induction tags generalizing reached tag steps with
  | nil =>
    rw [descend]
    constructor
    · intro found
      split at found
      · cases found
      · next accessor segment =>
        have resolved := segment?_eq_ok_iff.1 segment
        split at found
        · next isLeaf =>
          cases found
          refine ⟨[], accessor, ?_, by simp [coherent.tag_eq resolved],
            by simp [coherent.names_of_resolve? resolved], rfl, isLeaf⟩
          rw [coherent.owner_eq resolved]
          exact .here reached
        · cases found
    · intro chain
      obtain ⟨inner, last, leads, tags, named, rfl, isLeaf⟩ := chain
      cases inner with
      | nil =>
        cases leads
        simp only [List.nil_append, List.map_cons, List.map_nil, List.cons.injEq, and_true] at tags
        have resolved := named last (by simp)
        rw [Names, ← tags] at resolved
        rw [segment?_eq_ok_iff.2 resolved]
        simp only [isLeaf, List.filterMap_nil]
      | cons first inner => simp at tags
  | cons next tags inductionHypothesis =>
    rw [descend]
    constructor
    · intro found
      split at found
      · cases found
      · next accessor segment =>
        have resolved := segment?_eq_ok_iff.1 segment
        split at found
        · next target navigate nested =>
          split at found
          · cases found
          · next others end_ later =>
            cases found
            obtain ⟨inner, last, leads, tags, named, rfl, isLeaf⟩ := inductionHypothesis.1 later
            refine ⟨accessor :: inner, last, .through (coherent.owner_eq resolved) nested leads,
              by simp [coherent.tag_eq resolved, tags], ?_, ?_, isLeaf⟩
            · exact List.forall_mem_cons.2 ⟨coherent.names_of_resolve? resolved, named⟩
            · rw [List.filterMap_cons_some (Accessor.step?_of_nested nested)]
        · cases found
        · cases found
    · intro chain
      obtain ⟨inner, last, leads, tags, named, rfl, isLeaf⟩ := chain
      cases leads with
      | here => simp at tags
      | through owned nested leads =>
        rw [List.cons_append, List.map_cons, List.cons.injEq] at tags
        obtain ⟨rfl, tags⟩ := tags
        obtain ⟨namedFirst, namedRest⟩ := List.forall_mem_cons.1 named
        rw [Names, owned] at namedFirst
        rw [segment?_eq_ok_iff.2 namedFirst,
          List.filterMap_cons_some (Accessor.step?_of_nested nested)]
        simp only [nested]
        rw [inductionHypothesis.2 ⟨_, last, leads, tags, namedRest, rfl, isLeaf⟩]

/-- An identifier has a shape just when its tags name accessors that follow one another
from the root, the last of them a leaf. -/
theorem compile_eq_ok_iff (coherent : Coherent tables) {identifier : String} {shape : Shape ι} :
    tables.compile identifier = .ok shape ↔
      ∃ inner last leaf, Leads tables.root inner last.owner ∧
        Identifier.tags identifier = (inner ++ [last]).map Accessor.tag ∧
        (∀ accessor ∈ inner ++ [last], Names tables accessor) ∧
        last.leaf? = some leaf ∧
        shape = ⟨identifier, tables.root, inner.filterMap Accessor.step?, leaf⟩ := by
  rw [compile]
  cases tags : Identifier.tags identifier with
  | nil => simp
  | cons first rest =>
    constructor
    · intro compiled
      dsimp only at compiled
      split at compiled
      · cases compiled
      · next steps leaf descended =>
        cases compiled
        obtain ⟨inner, last, leads, spelled, named, rfl, isLeaf⟩ :=
          (descend_eq_ok_iff coherent).1 descended
        exact ⟨inner, last, leaf, leads, spelled, named, isLeaf, rfl⟩
    · intro chain
      obtain ⟨inner, last, leaf, leads, spelled, named, isLeaf, rfl⟩ := chain
      dsimp only
      rw [(descend_eq_ok_iff coherent).2 ⟨inner, last, leads, spelled, named, rfl, isLeaf⟩]

end Tables

end Waymark
