import Waymark.Proofs.Refusal

/-!
# The order of checks

What encoding answers is settled by checks in a fixed order: whether the registry has
tables, whether the path starts at their root and has members that all have tags, whether
each accessor stands where the ones before it lead, how the path ends, how many arguments
it has, and whether each of them fits its parameter. The first check that fails gives the
answer, whatever else is wrong; a path that passes them all has a label.
-/

namespace Waymark

variable {ι : Type}

/-! ## Arguments that fit and arguments that do not -/

/-- Whether a parameter takes a value: one of its kind, or the null value. -/
def Parameter.Takes (parameter : Parameter) (value : Value) : Prop :=
  value.kind? = none ∨ value.kind? = some parameter.kind

namespace Argument

/-- Why an argument does not fit the parameter at its position: it has no value before the
path is followed, or a value of another kind. -/
inductive Misfits (member : Member) (position : Nat) (parameter : Parameter) :
    Argument → LabelError → Prop
  | provider (path : Path) :
      Misfits member position parameter (.provider path)
        (.unsupportedArgument position s!"'{path.display}' reads the provider")
  | computed (description : String) :
      Misfits member position parameter (.computed description)
        (.unsupportedArgument position s!"'{description}' is computed at runtime")
  | kind {argument : Argument} {value : Value} {found : Kind} :
      argument.value? = .ok value →
      value.kind? = some found →
      found ≠ parameter.kind →
      Misfits member position parameter argument
        (.argumentKindMismatch member.display position parameter.kind found)

variable {member : Member} {position start : Nat} {argument : Argument} {parameter : Parameter}
  {error : LabelError}

theorem misfits_of_bind (failed : argument.bind member position parameter = .error error) :
    argument.Misfits member position parameter error := by
  rw [bind] at failed
  split at failed
  · next reason unknown =>
    cases failed
    cases argument with
    | provider path =>
      cases unknown
      exact .provider path
    | computed description =>
      cases unknown
      exact .computed description
    | literal value => cases unknown
    | captured name value => cases unknown
    | constant name value => cases unknown
  · next value valued =>
    split at failed
    · cases failed
    · next found kind =>
      split at failed
      · cases failed
      · next different =>
        cases failed
        exact .kind valued kind different

theorem bind_eq_error_iff :
    argument.bind member position parameter = .error error ↔
      argument.Misfits member position parameter error := by
  constructor
  · exact misfits_of_bind
  · intro misfits
    cases misfits with
    | provider path => rfl
    | computed description => rfl
    | kind valued kind different => simp only [bind, valued, kind, if_neg different]

/-- Arguments are bound just when each has a value that the parameter at its position takes,
and the values are then set under the tags of the parameters, one after the other. -/
theorem bindAll_eq_ok_iff {arguments : List Argument} {parameters : List Parameter}
    {bound result : Arguments} (sameLength : parameters.length = arguments.length) :
    bindAll member start arguments parameters bound = .ok result ↔
      ∃ values, arguments.map value? = values.map Except.ok ∧
        List.Forall₂ Parameter.Takes parameters values ∧
        result = ((parameters.map Parameter.tag).zip values).foldl
          (fun set entry => set.insert entry.1 entry.2) bound := by
  induction arguments generalizing parameters start bound with
  | nil =>
    obtain rfl := List.length_eq_zero_iff.1 sameLength
    constructor
    · intro same
      cases same
      exact ⟨[], rfl, .nil, rfl⟩
    · rintro ⟨values, -, taken, rfl⟩
      cases taken
      rfl
  | cons argument arguments inductionHypothesis =>
    cases parameters with
    | nil => cases sameLength
    | cons parameter parameters =>
      have sameLengthRest := Nat.succ.inj sameLength
      rw [bindAll_cons_eq_ok_iff]
      constructor
      · rintro ⟨value, first, later⟩
        obtain ⟨valued, takes⟩ := bind_eq_ok_iff.1 first
        obtain ⟨values, known, taken, rfl⟩ := (inductionHypothesis sameLengthRest).1 later
        refine ⟨value :: values, ?_, .cons takes taken, rfl⟩
        rw [List.map_cons, List.map_cons, valued, known]
      · rintro ⟨values, known, taken, rfl⟩
        cases taken with
        | cons takes taken =>
          rw [List.map_cons, List.map_cons, List.cons.injEq] at known
          obtain ⟨valued, known⟩ := known
          exact ⟨_, bind_eq_ok_iff.2 ⟨valued, takes⟩,
            (inductionHypothesis sameLengthRest).2 ⟨_, known, taken, rfl⟩⟩

end Argument

/-! ## The end of a path -/

namespace Encoding

/-- Why a path cannot end at an accessor. An argument is to blame only if the number of
arguments is right and those before it fit. -/
inductive EndsWrong (identifier : String) (leaf : Accessor ι) : Path → LabelError → Prop
  | read {trail : Trail} :
      (∀ read, leaf.kind ≠ .text read) →
      EndsWrong identifier leaf (.read trail)
        (.wrongAccessorKind identifier leaf.tag "a text value")
  | call {target : Trail} {member : Member} {arguments : List Argument} :
      (∀ parameters invoke, leaf.kind ≠ .call parameters invoke) →
      EndsWrong identifier leaf (.call target member arguments)
        (.wrongAccessorKind identifier leaf.tag "a call")
  | arity {target : Trail} {member : Member} {arguments : List Argument}
      {parameters : List Parameter} {invoke : ι → List Value → String} :
      leaf.kind = .call parameters invoke →
      parameters.length ≠ arguments.length →
      EndsWrong identifier leaf (.call target member arguments)
        (.arityMismatch member.display parameters.length arguments.length)
  | argument {target : Trail} {member : Member} {arguments : List Argument}
      {parameters : List Parameter} {invoke : ι → List Value → String} {position : Nat}
      {argument : Argument} {parameter : Parameter} {error : LabelError} :
      leaf.kind = .call parameters invoke →
      parameters.length = arguments.length →
      (arguments.zip parameters)[position]? = some (argument, parameter) →
      argument.Misfits member position parameter error →
      (∀ pair ∈ (arguments.zip parameters).take position, pair.1.Fits pair.2.kind) →
      EndsWrong identifier leaf (.call target member arguments) error

/-- The parameters of a path that ends at an accessor as it should: none for a text, for a
call the values of its arguments under the tags of the parameters. -/
inductive EndsWith (leaf : Accessor ι) : Path → Arguments → Prop
  | read {trail : Trail} {read : ι → String} :
      leaf.kind = .text read →
      EndsWith leaf (.read trail) .empty
  | call {target : Trail} {member : Member} {arguments : List Argument}
      {parameters : List Parameter} {invoke : ι → List Value → String} {values : List Value} :
      leaf.kind = .call parameters invoke →
      arguments.map Argument.value? = values.map Except.ok →
      List.Forall₂ Parameter.Takes parameters values →
      EndsWith leaf (.call target member arguments)
        (.ofList ((parameters.map Parameter.tag).zip values))

variable {identifier : String} {path : Path} {leaf : Accessor ι} {error : LabelError}
  {parameters : Arguments}

theorem parameters?_read_of_not_text {trail : Trail} (noText : ∀ read, leaf.kind ≠ .text read) :
    parameters? identifier (.read trail) leaf =
      .error (.wrongAccessorKind identifier leaf.tag "a text value") := by
  cases kind : leaf.kind with
  | text read => exact absurd kind (noText read)
  | nested target navigate => simp only [parameters?, kind]
  | call declared invoke => simp only [parameters?, kind]

theorem parameters?_call_of_not_call {target : Trail} {member : Member}
    {arguments : List Argument} (noCall : ∀ declared invoke, leaf.kind ≠ .call declared invoke) :
    parameters? identifier (.call target member arguments) leaf =
      .error (.wrongAccessorKind identifier leaf.tag "a call") := by
  cases kind : leaf.kind with
  | call declared invoke => exact absurd kind (noCall declared invoke)
  | nested target navigate => simp only [parameters?, kind]
  | text read => simp only [parameters?, kind]

theorem endsWrong_of_parameters? (failed : parameters? identifier path leaf = .error error) :
    EndsWrong identifier leaf path error := by
  cases path with
  | read trail =>
    by_cases text : ∃ read, leaf.kind = .text read
    · obtain ⟨read, kind⟩ := text
      simp [parameters?, kind] at failed
    · have noText : ∀ read, leaf.kind ≠ .text read := not_exists.1 text
      rw [parameters?_read_of_not_text noText] at failed
      cases failed
      exact .read noText
  | call target member arguments =>
    by_cases call : ∃ declared invoke, leaf.kind = .call declared invoke
    · obtain ⟨declared, invoke, kind⟩ := call
      simp only [parameters?, kind] at failed
      split at failed
      · next sameLength =>
        obtain ⟨position, argument, parameter, found, refused, earlier⟩ :=
          Argument.bindAll_eq_error_iff.1 failed
        rw [Nat.zero_add] at refused
        exact .argument kind sameLength found (Argument.misfits_of_bind refused) earlier
      · next different =>
        cases failed
        exact .arity kind different
    · have noCall : ∀ declared invoke, leaf.kind ≠ .call declared invoke :=
        fun declared invoke kind => call ⟨declared, invoke, kind⟩
      rw [parameters?_call_of_not_call noCall] at failed
      cases failed
      exact .call noCall

theorem parameters?_of_endsWrong (endsWrong : EndsWrong identifier leaf path error) :
    parameters? identifier path leaf = .error error := by
  cases endsWrong with
  | read noText => exact parameters?_read_of_not_text noText
  | call noCall => exact parameters?_call_of_not_call noCall
  | arity kind different => simp only [parameters?, kind, if_neg different]
  | @argument _ _ _ _ _ position _ _ _ kind sameLength found misfits earlier =>
    simp only [parameters?, kind, if_pos sameLength]
    rw [Argument.bindAll_eq_error_iff]
    refine ⟨position, _, _, found, ?_, earlier⟩
    rw [Nat.zero_add]
    exact Argument.bind_eq_error_iff.2 misfits

theorem endsWith_of_parameters? (bound : parameters? identifier path leaf = .ok parameters) :
    EndsWith leaf path parameters := by
  rcases parameters?_eq_ok_iff.1 bound with
    ⟨trail, read, rfl, kind, rfl⟩ |
      ⟨target, member, arguments, declared, invoke, rfl, kind, sameLength, bound⟩
  · exact .read kind
  · obtain ⟨values, known, taken, rfl⟩ := (Argument.bindAll_eq_ok_iff sameLength).1 bound
    exact .call kind known taken

theorem parameters?_of_endsWith (endsWith : EndsWith leaf path parameters) :
    parameters? identifier path leaf = .ok parameters := by
  rw [parameters?_eq_ok_iff]
  cases endsWith with
  | read kind => exact .inl ⟨_, _, rfl, kind, rfl⟩
  | call kind known taken =>
    have sameLength := congrArg List.length known
    rw [List.length_map, List.length_map, ← taken.length_eq] at sameLength
    exact .inr ⟨_, _, _, _, _, rfl, kind, sameLength.symm,
      (Argument.bindAll_eq_ok_iff sameLength.symm).2 ⟨_, known, taken, rfl⟩⟩

/-! ## The way to the end -/

/-- Where the accessors before it lead is where an accessor fails. -/
theorem leaf?_of_breaksOff {start reached : SectionKey} {first accessor : Accessor ι}
    {rest before after : List (Accessor ι)} (leads : Leads start before reached)
    (breaksOff : BreaksOff identifier reached accessor after error)
    (shape : first :: rest = before ++ accessor :: after) :
    leaf? identifier start first rest = .error error := by
  -- Along the way to the accessor nothing fails, so its own reason is the first.
  induction leads generalizing first rest with
  | here key =>
    obtain ⟨rfl, rfl⟩ := List.cons.inj shape
    cases breaksOff with
    | foreign after foreign => cases rest <;> rw [leaf?, if_neg foreign]
    | text next after owned text => rw [leaf?, if_pos owned, text]
    | call next after owned call => rw [leaf?, if_pos owned, call]
  | @through key target reached head navigate before owned nested later inductionHypothesis =>
    rw [List.cons_append, List.cons.injEq] at shape
    obtain ⟨rfl, shape⟩ := shape
    obtain ⟨next, others, split⟩ :=
      List.exists_cons_of_ne_nil (l := before ++ accessor :: after) (by simp)
    obtain rfl := shape.trans split
    rw [leaf?, if_pos owned, nested]
    exact inductionHypothesis breaksOff split.symm

/-- What is answered to a path along the accessors of its members. Along the accessors
before the one that fails there is nothing to object to, and the end is looked at only if
there is nothing to object to on the way. -/
inductive Verdict (root : SectionKey) (path : Path) :
    (chain : List (Accessor ι)) → Encoding → Prop
  | astray {before after : List (Accessor ι)} {accessor : Accessor ι} {reached : SectionKey}
      {error : LabelError} :
      Leads root before reached →
      BreaksOff (Identifier.ofTags ((before ++ accessor :: after).map Accessor.tag)) reached
        accessor after error →
      Verdict root path (before ++ accessor :: after) (.refused error)
  | unfit {inner : List (Accessor ι)} {leaf : Accessor ι} {error : LabelError} :
      Leads root inner leaf.owner →
      EndsWrong (Identifier.ofTags ((inner ++ [leaf]).map Accessor.tag)) leaf path error →
      Verdict root path (inner ++ [leaf]) (.refused error)
  | labelled {inner : List (Accessor ι)} {leaf : Accessor ι} {parameters : Arguments} :
      Leads root inner leaf.owner →
      EndsWith leaf path parameters →
      Verdict root path (inner ++ [leaf])
        (.label ⟨Identifier.ofTags ((inner ++ [leaf]).map Accessor.tag), parameters⟩)

end Encoding

namespace Tables

variable {tables : Tables ι} {path : Path} {chain : List (Accessor ι)} {answer : Encoding}

theorem encode_of_breaksOff {before after : List (Accessor ι)} {accessor : Accessor ι}
    {reached : SectionKey} {error : LabelError} (rooted : tables.root = path.root)
    (members : path.members = (before ++ accessor :: after).map Accessor.member)
    (held : ∀ other ∈ before ++ accessor :: after, Holds tables other)
    (leads : Leads tables.root before reached)
    (breaksOff : Encoding.BreaksOff
      (Identifier.ofTags ((before ++ accessor :: after).map Accessor.tag)) reached accessor
      after error) :
    tables.encode path = .refused error := by
  rw [encode, if_pos rooted, accessors?_eq_ok_iff.2 ⟨members, held⟩]
  obtain ⟨first, rest, shape⟩ :=
    List.exists_cons_of_ne_nil (l := before ++ accessor :: after) (by simp)
  rw [shape] at breaksOff ⊢
  simp only [Encoding.label?, Encoding.leaf?_of_breaksOff leads breaksOff shape.symm]

theorem encode_of_verdict (rooted : tables.root = path.root)
    (members : path.members = chain.map Accessor.member)
    (held : ∀ accessor ∈ chain, Holds tables accessor)
    (verdict : Encoding.Verdict tables.root path chain answer) :
    tables.encode path = answer := by
  cases verdict with
  | astray leads breaksOff => exact encode_of_breaksOff rooted members held leads breaksOff
  | unfit leads endsWrong =>
    rw [encode_of_leads rooted members held leads, Encoding.parameters?_of_endsWrong endsWrong]
  | labelled leads endsWith =>
    rw [encode_of_leads rooted members held leads, Encoding.parameters?_of_endsWith endsWith]

theorem verdict_encode (rooted : tables.root = path.root)
    (members : path.members = chain.map Accessor.member)
    (held : ∀ accessor ∈ chain, Holds tables accessor) (nonempty : chain ≠ []) :
    Encoding.Verdict tables.root path chain (tables.encode path) := by
  obtain ⟨first, rest, shape⟩ := List.exists_cons_of_ne_nil nonempty
  cases ends : Encoding.leaf? (Identifier.ofTags (chain.map Accessor.tag)) tables.root first rest
    with
  | error error =>
    obtain ⟨before, accessor, after, reached, split, leads, breaksOff⟩ :=
      Encoding.exists_breaksOff_of_leaf? ends
    rw [← shape] at split
    subst split
    rw [encode_of_breaksOff rooted members held leads breaksOff]
    exact .astray leads breaksOff
  | ok leaf =>
    obtain ⟨inner, split, leads⟩ := Encoding.leaf?_eq_ok_iff.1 ends
    rw [← shape] at split
    subst split
    rw [encode_of_leads rooted members held leads]
    split
    · next error failed => exact .unfit leads (Encoding.endsWrong_of_parameters? failed)
    · next parameters bound => exact .labelled leads (Encoding.endsWith_of_parameters? bound)

theorem encode_eq_iff_verdict (rooted : tables.root = path.root)
    (members : path.members = chain.map Accessor.member)
    (held : ∀ accessor ∈ chain, Holds tables accessor) (nonempty : chain ≠ []) :
    tables.encode path = answer ↔ Encoding.Verdict tables.root path chain answer := by
  constructor
  · rintro rfl
    exact verdict_encode rooted members held nonempty
  · exact encode_of_verdict rooted members held

/-! ## Paths without a label -/

theorem Coherent.exists_accessors?_eq_error_iff (coherent : Coherent tables)
    {members : List Member} :
    (∃ member, tables.accessors? members = .error member) ↔
      ∃ member ∈ members, tables.tag? member = none := by
  induction members with
  | nil => simp [accessors?]
  | cons member rest inductionHypothesis =>
    rw [accessors?, List.exists_mem_cons_iff, ← inductionHypothesis]
    cases later : tables.accessors? rest with
    | error untagged => simp
    | ok accessors =>
      rw [coherent.accessor?_eq_bind]
      cases tagged : tables.tag? member with
      | none => simp
      | some tag =>
        obtain ⟨accessor, held, -⟩ := coherent.resolves tagged
        simp [held]

/-- A path has no label just when it starts elsewhere, names nothing, or names a member
without a tag. -/
theorem Coherent.exists_encode_eq_unlabelled_iff (coherent : Coherent tables) :
    (∃ reason, tables.encode path = .unlabelled reason) ↔
      tables.root ≠ path.root ∨ path.members = [] ∨
        ∃ member ∈ path.members, tables.tag? member = none := by
  rw [encode, ← coherent.exists_accessors?_eq_error_iff]
  by_cases rooted : tables.root = path.root
  · rw [if_pos rooted]
    cases found : tables.accessors? path.members with
    | error member => simp
    | ok chain =>
      obtain ⟨members, -⟩ := accessors?_eq_ok_iff.1 found
      cases chain with
      | nil => simp [members]
      | cons first rest =>
        cases labelled : Encoding.label? tables.root path first rest <;>
          simp [← rooted, labelled, members]
  · simp [rooted]

theorem Coherent.exists_chain (coherent : Coherent tables) {members : List Member}
    (tagged : ∀ member ∈ members, tables.tag? member ≠ none) :
    ∃ chain : List (Accessor ι), members = chain.map Accessor.member ∧
      ∀ accessor ∈ chain, Holds tables accessor := by
  cases found : tables.accessors? members with
  | error member =>
    obtain ⟨other, listed, untagged⟩ := coherent.exists_accessors?_eq_error_iff.1 ⟨member, found⟩
    exact absurd untagged (tagged other listed)
  | ok chain => exact ⟨chain, accessors?_eq_ok_iff.1 found⟩

end Tables

/-! ## The verdict of a registry -/

/-- What a registry answers to a path. Without tables it is the error that stands for them.
With tables there is no label just when the path starts at another section, names nothing or
names a member without a tag, be the rest of it as it may; otherwise the accessors of its
members, and then its end, are checked in order, and the first objection is the answer. -/
theorem encode_settled_by_first_failing_check
    (atlas : Atlas ι) (operations : List Operation) {registry : Registry ι}
    (made : registry ∈ (Workspace.after atlas operations).registries) (path : Path) :
    (registry.outcome = none → registry.encode path = .refused .notInitialized) ∧
    (∀ error, registry.outcome = some (.error error) → registry.encode path = .refused error) ∧
    ∀ root, registry.root? = some root →
      ((∃ reason, registry.encode path = .unlabelled reason) ↔
        root ≠ path.root ∨ path.members = [] ∨
          ∃ member ∈ path.members, registry.tag? member = none) ∧
      (root = path.root → path.members ≠ [] →
        (∀ member ∈ path.members, registry.tag? member ≠ none) →
        ∃ chain : List (Accessor ι), path.members = chain.map Accessor.member ∧
          path.members.map registry.holder? = chain.map some ∧
          ∀ answer, registry.encode path = answer ↔ Encoding.Verdict root path chain answer) := by
  have filledBy := (Workspace.sound_after atlas operations).registries registry made
  refine ⟨?unfilled, ?failed, ?filled⟩
  case unfilled =>
    intro unfilled
    rw [Registry.encode, Registry.tables, unfilled]
  case failed =>
    intro error failed
    rw [Registry.encode, Registry.tables, failed]
  case filled =>
    intro root rooted
    obtain ⟨tables, found, filled⟩ := filledBy.exists_tables rooted
    have coherent := filledBy.coherent found
    obtain rfl := Tables.root_ofAtlas filled
    simp only [Registry.encode_of_tables found, Registry.tag?_of_tables found]
    refine ⟨coherent.exists_encode_eq_unlabelled_iff, ?_⟩
    intro sameRoot nonempty tagged
    obtain ⟨chain, members, held⟩ := coherent.exists_chain tagged
    refine ⟨chain, members, ?_, fun answer => ?_⟩
    · rw [members, List.map_map]
      apply List.map_congr_left
      intro accessor listed
      exact registry.holder?_of_holds found (held accessor listed)
    · apply Tables.encode_eq_iff_verdict sameRoot members held
      rintro rfl
      exact nonempty members

namespace Sample.House

/-- The path that calls what no section declares, behind an oven that leads nowhere and with
an argument that has no value. -/
def attic : Path :=
  .call ⟨house, [⟨kitchen, "oven"⟩]⟩ ⟨kitchen, "attic"⟩ [.computed "today()"]

theorem houseRegistry_mem : houseRegistry ∈ (Workspace.after plan houseHistory).registries :=
  List.mem_cons_self

theorem tag?_attic : houseRegistry.tag? ⟨kitchen, "attic"⟩ = none := by
  rw [Registry.tag?, Registry.tables?, houseRegistry, Registry.tables_lenient, itinerary_house]
  rfl

def nameOfHouse : Accessor String := ⟨⟨house, "name"⟩, "n", .text fun _ => "house"⟩

def ovenOfKitchen : Accessor String := ⟨⟨kitchen, "oven"⟩, "o", .text fun _ => "oven"⟩

theorem map_holder?_throughName :
    throughName.members.map houseRegistry.holder? = [nameOfHouse, ovenOfKitchen].map some := by
  simp only [throughName, Path.members, List.map_cons, List.map_nil, Registry.holder?,
    Registry.tag?, Registry.resolve?, Registry.tables?, houseRegistry, Registry.tables_lenient,
    itinerary_house]
  rfl

theorem tagged_of_throughName :
    ∀ member ∈ throughName.members, houseRegistry.tag? member ≠ none := by
  rintro member listed untagged
  have unheld : houseRegistry.holder? member = none := by
    rw [Registry.holder?, untagged, Option.bind_none]
  have found := List.mem_map_of_mem (f := houseRegistry.holder?) listed
  rw [map_holder?_throughName, unheld] at found
  simp at found

end Sample.House

open Sample.House

theorem encode_settled_in_house :
    houseRegistry ∈ (Workspace.after plan houseHistory).registries ∧
      houseRegistry.root? = some house ∧
      (∃ reason, houseRegistry.encode attic = .unlabelled reason) ∧
      houseRegistry.encode throughName = .refused (.wrongAccessorKind "n_o" "n" "a section") := by
  obtain ⟨-, -, settledAttic⟩ :=
    encode_settled_by_first_failing_check plan houseHistory houseRegistry_mem attic
  obtain ⟨-, -, settledThroughName⟩ :=
    encode_settled_by_first_failing_check plan houseHistory houseRegistry_mem throughName
  refine ⟨houseRegistry_mem, root?_houseRegistry, ?_, ?_⟩
  · exact (settledAttic house root?_houseRegistry).1.2
      (.inr (.inr ⟨⟨kitchen, "attic"⟩, by simp [attic, Path.members], tag?_attic⟩))
  · obtain ⟨chain, -, held, settled⟩ :=
      (settledThroughName house root?_houseRegistry).2 rfl (by simp [throughName, Path.members])
        tagged_of_throughName
    rw [map_holder?_throughName] at held
    obtain rfl := List.map_injective_iff.2 (Option.some_injective _) held
    have astray : Encoding.Verdict house throughName ([] ++ [nameOfHouse, ovenOfKitchen])
        (.refused (.wrongAccessorKind "n_o" "n" "a section")) :=
      .astray (.here house) (.text ovenOfKitchen [] rfl rfl)
    exact (settled _).2 astray

end Waymark
