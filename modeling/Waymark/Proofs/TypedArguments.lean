import Waymark.Proofs.Rounding
import Waymark.Proofs.Running
import Waymark.Proofs.TypedPath

/-!
# Typed arguments of calls

An argument of a scalar type is widened to a value, written into a label, pulled out again
under the tag of its parameter, and narrowed to the type by the method that it is for. It
comes out as it went in. A value that does not fit is replaced twice on this way, by the zero
of a kind and by the default of a type, and the two replacements agree.
-/

namespace Waymark

variable {ι : Type}

/-! ## Widening and narrowing -/

theorem FloatFormat.nearest_zero (format : FloatFormat) {den : Nat} (positive : 0 < den) :
    format.nearest 0 den = 0 := by
  apply nearest_eq_of_reaches positive (Nat.zero_le _) rfl
  apply not_reaches_succ_of_le positive
  rw [Nat.zero_mul]
  exact Nat.zero_le _

theorem Binary.convert_zero (format target : FloatFormat)
    (finite : 0 ≠ format.infinity) :
    Binary.convert target (Binary.zero : Binary format) = Binary.zero := by
  have units : format.units 0 = 0 := FloatFormat.units_of_lt (Nat.two_pow_pos _)
  rw [zero, convert, if_neg finite, round]
  simp only [units, target.nearest_zero (Nat.two_pow_pos format.scale), zero, Nat.pow_eq]

/-- The integers of every type have a value of 64 bits. -/
theorem IntType.toInt_ofInt {type : IntType} (argument : type.Carrier) :
    (Int64.ofInt argument.val).toInt = argument.val := by
  obtain ⟨n, atLeast, atMost⟩ := argument
  have low : -2 ^ 63 ≤ type.low := by cases type <;> decide
  have high : type.high < 2 ^ 63 := by cases type <;> decide
  exact Int64.toInt_ofInt_of_le (low.trans atLeast) (atMost.trans_lt high)

namespace ScalarType

variable {type : ScalarType} {value : Value}

theorem ofValue?_int {type : IntType} {n : Int64}
    (bounds : type.low ≤ n.toInt ∧ n.toInt ≤ type.high) :
    (ScalarType.int type).ofValue? (.int n) = some (⟨n.toInt, bounds⟩ : type.Carrier) :=
  dif_pos bounds

/-- What is widened is narrowed to itself, but for the numbers of 32 bits. -/
theorem ofValue?_toValue (wide : type ≠ .single) (argument : type.Carrier) :
    type.ofValue? (type.toValue argument) = some argument := by
  cases type with
  | bool | double | text => rfl
  | single => exact absurd rfl wide
  | int type =>
    have same := IntType.toInt_ofInt argument
    have bounds : type.low ≤ (Int64.ofInt argument.val).toInt ∧
        (Int64.ofInt argument.val).toInt ≤ type.high := by
      rw [same]
      exact argument.property
    exact (ofValue?_int bounds).trans (congrArg some (Subtype.ext same))

theorem ofValue?_eq_none_of_kind (other : value.kind? ≠ some type.kind) :
    type.ofValue? value = none := by
  cases type <;> cases value <;> first | rfl | exact absurd rfl other

/-- The zero of a kind is the default of every type of the kind. -/
theorem ofValue?_zero (type : ScalarType) :
    type.ofValue? type.kind.zero = some type.default := by
  cases type with
  | bool | double | text => rfl
  | single =>
    have zero : Binary.convert .single (Binary.zero : Binary .double) = Binary.zero :=
      Binary.convert_zero .double .single (by decide)
    exact congrArg some zero
  | int type => exact ofValue?_int (by cases type <;> decide)

/-- Coercing a value to the kind of a type changes nothing of what the type makes of it. -/
theorem extract_map_coerce (type : ScalarType) (values : List Value) (position : Nat) :
    type.extract (values.map fun value => Value.coerce (some value) type.kind) position =
      type.extract values position := by
  rw [extract, extract, List.getElem?_map]
  cases values[position]? with
  | none => rfl
  | some value =>
    simp only [Option.map_some, Option.bind_some, Value.coerce]
    split
    · rfl
    · next other =>
      rw [ofValue?_zero, ofValue?_eq_none_of_kind other, Option.getD_some, Option.getD_none]

theorem extract_of_getElem? {values : List Value} {position : Nat} (wide : type ≠ .single)
    {argument : type.Carrier} (here : values[position]? = some (type.toValue argument)) :
    type.extract values position = argument := by
  rw [extract, here, Option.bind_some, ofValue?_toValue wide, Option.getD_some]

section

variable {type : IntType} {values : List Value} {position : Nat}

theorem val_extract_of_inRange {n : Int64} (here : values[position]? = some (.int n))
    (bounds : type.low ≤ n.toInt ∧ n.toInt ≤ type.high) :
    ((ScalarType.int type).extract values position : type.Carrier).val = n.toInt := by
  rw [extract, here, Option.bind_some, ofValue?_int bounds]
  rfl

theorem val_extract_of_not_inRange
    (outside : ∀ n, values[position]? = some (.int n) →
      ¬ (type.low ≤ n.toInt ∧ n.toInt ≤ type.high)) :
    ((ScalarType.int type).extract values position : type.Carrier).val = 0 := by
  rw [extract]
  cases here : values[position]? with
  | none => rfl
  | some value =>
    cases value with
    | int n =>
      have refused : (ScalarType.int type).ofValue? (.int n) = none := dif_neg (outside n here)
      rw [Option.bind_some, refused]
      rfl
    | null | bool _ | float _ | text _ => rfl

end

end ScalarType

/-! ## Arguments with a value -/

/-- Whether a typed argument has its value before the path is followed: it is written out,
captured from a local name, or named as a constant. -/
inductive TypedArgument.Carries {type : ScalarType} :
    TypedArgument type → type.Carrier → Prop
  | literal (carried : type.Carrier) : Carries (.literal carried) carried
  | captured (name : String) (carried : type.Carrier) : Carries (.captured name carried) carried
  | constant (name : String) (carried : type.Carrier) : Carries (.constant name carried) carried

theorem TypedArgument.Carries.value?_erase {type : ScalarType} {argument : TypedArgument type}
    {carried : type.Carrier} (carries : argument.Carries carried) :
    argument.erase.value? = .ok (type.toValue carried) := by
  cases carries <;> rfl

/-! ## Calls -/

/-- The values that a consumer gives to a call at its end. -/
def Consumer.supplied (consumer : Consumer ι) : List Value :=
  consumer.shape.leaf.extracts.map fun extract => extract.value consumer.parameters

/-- A consumer whose steps are a chain comes to content of the section of its leaf, which
gives the text there. -/
theorem Leads.text_consumer {consumer : Consumer ι} {identifier : String} {root : SectionKey}
    {inner : List (Accessor ι)} {leaf : Leaf ι} (leads : Leads root inner leaf.member.owner)
    (shape : consumer.shape = ⟨identifier, root, inner.filterMap Accessor.step?, leaf⟩)
    (provider : ι) :
    ∃ content,
      Shape.reach ⟨consumer.shape.root, provider⟩ consumer.shape.steps =
        .ok ⟨leaf.member.owner, content⟩ ∧
      consumer.text provider = .ok (leaf.text content consumer.parameters) := by
  have arrived : Shape.reach ⟨consumer.shape.root, provider⟩ consumer.shape.steps =
      .ok ⟨leaf.member.owner, contentAlong provider inner⟩ := by
    rw [shape]
    exact leads.reach provider
  have leafOf : consumer.shape.leaf = leaf := by rw [shape]
  refine ⟨contentAlong provider inner, arrived, ?_⟩
  simp only [Consumer.text, Shape.run, arrived, leafOf, if_true]

/-- If no tag is shared, a label has every value under its tag. -/
theorem Label.KeepsLast.parameter?_eq_some {label : Label} {tags : List String}
    {values : List Value} (keeps : label.KeepsLast tags values) (nodup : tags.Nodup)
    {position : Nat} {tag : String} {value : Value} (tagHere : tags[position]? = some tag)
    (valueHere : values[position]? = some value) : label.parameters.get? tag = some value := by
  rw [Dict.get?_eq_some_iff, keeps.entries nodup]
  exact List.mem_of_getElem? (List.getElem?_zip_eq_some.2 ⟨tagHere, valueHere⟩)

/-- The leaf of a call, with the parameters that it is declared with. -/
def ParameterDeclaration.invoked (declared : List ParameterDeclaration) (member : Member)
    (invoke : ι → List Value → String) : Leaf ι :=
  .invoke member (declared.map fun parameter => ⟨parameter.settle.tag, parameter.kind⟩) invoke

namespace Tables

variable {tables : Tables ι} {policy : CollisionPolicy} {atlas : Atlas ι} {root : SectionKey}
  {target : Trail} {member : Member} {arguments : List Argument} {label : Label}

/-- The label of a call compiles to a chain of accessors that ends at the accessor of the
member. -/
theorem Coherent.exists_leads_of_encode (coherent : Coherent tables)
    (encoded : tables.encode (.call target member arguments) = .label label) :
    ∃ inner last, last.member = member ∧ Holds tables last ∧
      Leads tables.root inner last.owner ∧
      ∀ leaf, last.leaf? = some leaf →
        tables.compile label.identifier =
          .ok ⟨label.identifier, tables.root, inner.filterMap Accessor.step?, leaf⟩ := by
  obtain ⟨-, inner, last, bound, members, held, leads, -, rfl⟩ :=
    encode_eq_label_iff.1 encoded
  have ends : target.steps ++ [member] = inner.map Accessor.member ++ [last.member] := by
    rw [← List.map_singleton, ← List.map_append, ← members]
    rfl
  exact ⟨inner, last, (List.cons.inj (List.append_inj' ends rfl).2).1.symm, held last (by simp),
    leads, fun leaf isLeaf => coherent.compile_ofTags held leads isLeaf⟩

/-- A call that has a label is one that the section of its member declares. The label
compiles to this call and keeps the values of the arguments under the declared tags. -/
theorem Coherent.exists_declared_call (coherent : Coherent tables)
    (filled : ofAtlas policy atlas root = .ok tables)
    (encoded : tables.encode (.call target member arguments) = .label label) :
    ∃ declaration ∈ atlas.declarations member.owner, ∃ declared invoke inner values,
      declaration.name = member.name ∧ declaration.kind = .call declared invoke ∧
      Leads tables.root inner member.owner ∧
      tables.compile label.identifier =
        .ok ⟨label.identifier, tables.root, inner.filterMap Accessor.step?,
          ParameterDeclaration.invoked declared member invoke⟩ ∧
      arguments.map Argument.value? = values.map Except.ok ∧
      label.KeepsLast (declared.map fun parameter => parameter.settle.tag) values := by
  obtain ⟨last, parameters, invoke, values, sameMember, heldLast, kind, known, sameLength,
    labelled⟩ := exists_call_of_encode encoded
  obtain ⟨inner, own, rfl, held, leads, compiled⟩ := coherent.exists_leads_of_encode encoded
  -- The chain ends at the accessor that the values were bound for.
  obtain rfl : last = own := by
    rw [Holds, sameMember, held] at heldLast
    exact (Option.some.inj heldLast).symm
  obtain ⟨tag, -, resolved, -⟩ := accessor?_eq_some_iff.1 held
  obtain ⟨declaration, listed, same⟩ := exists_declaration_of_resolve? filled resolved
  have settled : declaration.kind.settle = .call parameters invoke := by
    rw [← kind, ← same]
    rfl
  obtain ⟨declared, kindDeclared, rfl⟩ := AccessorKind.exists_declared_of_settle settled
  refine ⟨declaration, listed, declared, invoke, inner, values, ?_, kindDeclared, leads, ?_,
    known, ?_⟩
  · rw [← same]
    rfl
  · apply compiled
    simp only [Accessor.leaf?, kind, List.map_map]
    rfl
  · rw [List.map_map] at labelled
    rw [List.length_map, ← List.length_map (fun parameter => parameter.settle.tag)]
      at sameLength
    exact Label.keepsLast_of_ofList sameLength labelled

end Tables

/-- Whether a consumer passes the arguments of a call on to it. If no two parameters share a
tag, then what is given for a parameter of a type is what the type makes of the value that
the call gets in that place. -/
def Consumer.PassesOn (consumer : Consumer ι) (declared : List ParameterDeclaration)
    (arguments : List Argument) : Prop :=
  (declared.map fun parameter => parameter.settle.tag).Nodup →
    ∀ (type : ScalarType) (argument : TypedArgument type) (carried : type.Carrier)
      (position : Nat) (parameter : ParameterDeclaration),
      type ≠ .single → argument.Carries carried →
      arguments[position]? = some argument.erase →
      declared[position]? = some parameter → parameter.kind = type.kind →
      type.extract consumer.supplied position = carried

theorem Consumer.passesOn_of_keepsLast {consumer : Consumer ι} {label : Label}
    {declared : List ParameterDeclaration} {arguments : List Argument} {values : List Value}
    {member : Member} {invoke : ι → List Value → String}
    (leaf : consumer.shape.leaf = ParameterDeclaration.invoked declared member invoke)
    (parameters : consumer.parameters = label.parameters)
    (known : arguments.map Argument.value? = values.map Except.ok)
    (keeps : label.KeepsLast (declared.map fun parameter => parameter.settle.tag) values) :
    consumer.PassesOn declared arguments := by
  intro nodup type argument carried position parameter wide carries given here sameKind
  have valueHere : values[position]? = some (type.toValue carried) := by
    have givenValue : (arguments.map Argument.value?)[position]? =
        some (.ok (type.toValue carried)) := by
      rw [List.getElem?_map, given, Option.map_some, carries.value?_erase]
    rw [known, List.getElem?_map, Option.map_eq_some_iff] at givenValue
    obtain ⟨value, valueHere, same⟩ := givenValue
    rw [valueHere, Except.ok.inj same]
  have tagHere : (declared.map fun other => other.settle.tag)[position]? =
      some parameter.settle.tag := by
    rw [List.getElem?_map, here, Option.map_some]
  have labelled := keeps.parameter?_eq_some nodup tagHere valueHere
  -- What is pulled out is of the wanted kind, so it is not replaced.
  have pulled : Value.coerce (some (type.toValue carried)) parameter.kind =
      type.toValue carried := by
    have wanted : (type.toValue carried).kind? = some parameter.kind := by
      rw [type.kind?_toValue, sameKind]
    rw [Value.coerce, if_pos wanted]
  apply ScalarType.extract_of_getElem? wide
  rw [supplied, leaf, ParameterDeclaration.invoked, Leaf.extracts, parameters]
  simp only [List.getElem?_map, here, Option.map_some, Extract.value, labelled, pulled]

/-- Typed arguments reach the method as they are. An argument with a value has one of the
kind of its type. Whatever a compiler has kept, the label of a call builds to a consumer that
passes the arguments on: with the tags of the parameters distinct, each comes out of the
values that the method gets as what was given. Coercing values to the kind of a type changes
nothing of what the type makes of them. An integer type makes of an integer in its range this
integer, and zero of everything else. -/
theorem typed_arguments_arrive_unchanged (atlas : Atlas ι) (operations : List Operation) :
    (∀ (type : ScalarType) (argument : TypedArgument type) (carried : type.Carrier),
      argument.Carries carried →
      ∃ value, argument.erase.value? = .ok value ∧ value.kind? = some type.kind) ∧
    (∀ (number : Nat) (compiler : Compiler ι) (registry : Registry ι) (target : Trail)
      (member : Member) (arguments : List Argument) (label : Label),
      (Workspace.after atlas operations).compiler? number = some (compiler, registry) →
      registry.root? = some compiler.root →
      registry.encode (.call target member arguments) = .label label →
      ∃ declaration ∈ atlas.declarations member.owner, ∃ declared invoke consumer,
        declaration.name = member.name ∧ declaration.kind = .call declared invoke ∧
        (compiler.build registry label).result = .ok (some consumer) ∧
        consumer.PassesOn declared arguments ∧
        ∀ provider, ∃ content,
          Shape.reach ⟨consumer.shape.root, provider⟩ consumer.shape.steps =
            .ok ⟨member.owner, content⟩ ∧
          consumer.text provider = .ok (invoke content consumer.supplied)) ∧
    (∀ (type : ScalarType) (values : List Value) (position : Nat),
      type.extract (values.map fun value => Value.coerce (some value) type.kind) position =
        type.extract values position) ∧
    ∀ (type : IntType) (values : List Value) (position : Nat),
      (∀ n : Int64, values[position]? = some (.int n) →
        type.low ≤ n.toInt ∧ n.toInt ≤ type.high →
        ((ScalarType.int type).extract values position : type.Carrier).val = n.toInt) ∧
      ((∀ n : Int64, values[position]? = some (.int n) →
        ¬ (type.low ≤ n.toInt ∧ n.toInt ≤ type.high)) →
        ((ScalarType.int type).extract values position : type.Carrier).val = 0) := by
  refine ⟨?valued, ?passed, ScalarType.extract_map_coerce, ?narrowed⟩
  case valued =>
    intro type argument carried carries
    exact ⟨_, carries.value?_erase, type.kind?_toValue carried⟩
  case passed =>
    intro number compiler registry target member arguments label made rooted encoded
    obtain ⟨sound, filledBy⟩ := (Workspace.sound_after atlas operations).compiler? made
    obtain ⟨tables, found, filled⟩ := filledBy.exists_tables rooted
    have coherent := filledBy.coherent found
    rw [Registry.encode_of_tables found] at encoded
    obtain ⟨spelled, visible⟩ := coherent.canonical_identifier encoded
    obtain ⟨declaration, listed, declared, invoke, inner, values, named, kind, leads, compiled,
      known, keeps⟩ := coherent.exists_declared_call filled encoded
    have shaped := sound.shape_eq_ok_iff found (Tables.root_ofAtlas filled) |>.2
      (spelled.symm ▸ compiled)
    have arrives : Leads tables.root inner
        (ParameterDeclaration.invoked declared member invoke).member.owner := leads
    exact ⟨declaration, listed, declared, invoke, _, named, kind, build_of_shape visible shaped,
      Consumer.passesOn_of_keepsLast rfl rfl known keeps, arrives.text_consumer rfl⟩
  case narrowed =>
    intro type values position
    exact ⟨fun n here bounds => ScalarType.val_extract_of_inRange here bounds,
      fun outside => ScalarType.val_extract_of_not_inRange outside⟩

open Sample.Gallery

namespace Sample.Gallery

/-- How often the greeting is asked for. -/
def twice : TypedArgument (.int .u8) := .constant "TWICE" (⟨2, by decide⟩ : IntType.u8.Carrier)

theorem eq_greet {declaration : Declaration String} {declared : List ParameterDeclaration}
    {invoke : String → List Value → String}
    (listed : declaration ∈ halls.declarations ringHall)
    (call : declaration.kind = .call declared invoke) : declaration = greet := by
  rw [declarations_ringHall] at listed
  simp only [List.mem_cons, List.not_mem_nil, or_false] at listed
  rcases listed with rfl | rfl | rfl
  · cases call
  · cases call
  · rfl

end Sample.Gallery

theorem greetTwice_arguments_arrive :
    (Workspace.after halls ringHistory).compiler? 0 = some (ringCompiler, ringRegistry) ∧
      ringRegistry.root? = some ringCompiler.root ∧
      (∃ value, twice.erase.value? = .ok value ∧ value.kind? = some .int) ∧
      (∃ label, ringRegistry.encode greetTwice = .label label ∧
        ∃ consumer, (ringCompiler.build ringRegistry label).result = .ok (some consumer) ∧
          ((ScalarType.int .u8).extract consumer.supplied 1 : IntType.u8.Carrier).val = 2) ∧
      ((ScalarType.int .u8).extract [.int 255] 0 : IntType.u8.Carrier).val = 255 ∧
      ((ScalarType.int .u8).extract [.int 256] 0 : IntType.u8.Carrier).val = 0 := by
  obtain ⟨valued, passed, -, narrowed⟩ := typed_arguments_arrive_unchanged halls ringHistory
  have carries : twice.Carries (⟨2, by decide⟩ : IntType.u8.Carrier) := .constant "TWICE" _
  refine ⟨compiler?_ringHistory, rooted_ringCompiler, valued _ twice _ carries,
    ⟨_, encode_greetTwice, ?_⟩, ?_, ?_⟩
  · obtain ⟨declaration, listed, declared, invoke, consumer, -, call, built, passesOn, -⟩ :=
      passed 0 ringCompiler ringRegistry _ _ _ _ compiler?_ringHistory rooted_ringCompiler
        encode_greetTwice
    obtain rfl := eq_greet listed call
    cases call
    refine ⟨consumer, built, ?_⟩
    rw [passesOn (by decide) (.int .u8) twice _ 1 (.ofType (.int .u8) "times") (by decide) carries
      rfl rfl rfl]
  · exact (narrowed .u8 [.int 255] 0).1 255 rfl (by decide)
  · refine (narrowed .u8 [.int 256] 0).2 fun n here => ?_
    cases here
    decide

end Waymark
