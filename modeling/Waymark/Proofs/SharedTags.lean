import Mathlib.Data.List.Induction
import Waymark.Proofs.ParameterTags
import Waymark.Proofs.Verdict

/-!
# Parameters that share a tag

The label of a call has one parameter for each tag that the call declares, in the order in
which the tags first come. Where parameters share a tag it has the value of the last of
them, so the arguments can be read back from it just when those under one tag are equal.
-/

namespace Waymark

/-! ## Dictionaries of pairs -/

namespace Dict

variable {κ ν : Type} [DecidableEq κ] {pairs : List (κ × ν)} {key : κ} {value : ν}

theorem ofList_append_singleton (pairs : List (κ × ν)) (key : κ) (value : ν) :
    ofList (pairs ++ [(key, value)]) = (ofList pairs).insert key value := by
  rw [ofList, List.foldl_append, ← ofList]
  rfl

/-- The keys come in the order in which they come first. -/
theorem keys_ofList (pairs : List (κ × ν)) :
    (ofList pairs).keys = (pairs.map Prod.fst).eraseDups := by
  induction pairs using List.reverseRecOn with
  | nil => rfl
  | append_singleton pairs pair inductionHypothesis =>
    obtain ⟨key, value⟩ := pair
    rw [ofList_append_singleton, keys_insert, inductionHypothesis, List.map_append,
      List.eraseDups_append]
    by_cases known : key ∈ pairs.map Prod.fst
    · rw [if_pos (List.mem_eraseDups.2 known)]
      simp [List.removeAll, known]
    · rw [if_neg (mt List.mem_eraseDups.1 known)]
      simp [List.removeAll, known, List.eraseDups_cons]

theorem mem_of_get?_ofList (found : (ofList pairs).get? key = some value) :
    (key, value) ∈ pairs := by
  induction pairs using List.reverseRecOn with
  | nil => cases found
  | append_singleton pairs pair inductionHypothesis =>
    obtain ⟨own, last⟩ := pair
    rw [ofList_append_singleton, get?_insert] at found
    split at found
    · next same =>
      cases found
      subst same
      exact List.mem_append_right pairs List.mem_cons_self
    · exact List.mem_append_left [(own, last)] (inductionHypothesis found)

/-- Pairs with other keys do not change the value of a key. -/
theorem get?_ofList_append {back : List (κ × ν)} (absent : key ∉ back.map Prod.fst)
    (front : List (κ × ν)) : (ofList (front ++ back)).get? key = (ofList front).get? key := by
  induction back using List.reverseRecOn with
  | nil => rw [List.append_nil]
  | append_singleton back pair inductionHypothesis =>
    rw [List.map_append, List.mem_append, not_or] at absent
    obtain ⟨absent, different⟩ := absent
    have other : pair.1 ≠ key := fun same => different (by simp [same])
    rw [← List.append_assoc, ofList_append_singleton, get?_insert, if_neg other,
      inductionHypothesis absent]

/-- The last pair of a key decides. -/
theorem get?_ofList_of_last {position : Nat} (here : pairs[position]? = some (key, value))
    (last : key ∉ (pairs.drop (position + 1)).map Prod.fst) :
    (ofList pairs).get? key = some value := by
  have upToHere : pairs.take (position + 1) = pairs.take position ++ [(key, value)] := by
    rw [List.take_add_one, here, Option.toList_some]
  rw [← List.take_append_drop (position + 1) pairs, get?_ofList_append last, upToHere,
    ofList_append_singleton, get?_insert, if_pos rfl]

theorem entries_ofList_of_nodup (nodup : (pairs.map Prod.fst).Nodup) :
    (ofList pairs).entries = pairs := by
  induction pairs using List.reverseRecOn with
  | nil => rfl
  | append_singleton pairs pair inductionHypothesis =>
    rw [List.map_append, List.nodup_append] at nodup
    obtain ⟨nodup, -, apart⟩ := nodup
    have fresh : pair.1 ∉ (ofList pairs).keys := by
      rw [keys_ofList, List.mem_eraseDups]
      intro known
      exact apart pair.1 known pair.1 (by simp) rfl
    rw [ofList_append_singleton, entries_insert_of_not_mem fresh, inductionHypothesis nodup]

/-- Values can be read back under their keys just when no key has two of them. -/
theorem forall₂_get?_ofList_zip_iff {keys : List κ} {values : List ν}
    (sameLength : keys.length = values.length) :
    List.Forall₂ (fun key value => (ofList (keys.zip values)).get? key = some value) keys
        values ↔
      ∀ key left right, (key, left) ∈ keys.zip values → (key, right) ∈ keys.zip values →
        left = right := by
  rw [List.forall₂_iff_zip]
  constructor
  · rintro ⟨-, readsBack⟩ key left right listedLeft listedRight
    have sameValue := (readsBack listedLeft).symm.trans (readsBack listedRight)
    exact Option.some.inj sameValue
  · intro unique
    refine ⟨sameLength, ?_⟩
    intro key value listed
    have known : key ∈ (ofList (keys.zip values)).keys := by
      rw [keys_ofList, List.mem_eraseDups]
      exact List.mem_map_of_mem (f := Prod.fst) listed
    cases found : (ofList (keys.zip values)).get? key with
    | none => exact absurd known ((get?_eq_none_iff _ key).1 found)
    | some other => rw [unique key other value (mem_of_get?_ofList found) listed]

end Dict

/-! ## Calls that have a label -/

variable {ι : Type}

theorem AccessorKind.exists_declared_of_settle {kind : AccessorKind ParameterDeclaration ι}
    {parameters : List Parameter} {invoke : ι → List Value → String}
    (call : kind.settle = .call parameters invoke) :
    ∃ declared, kind = .call declared invoke ∧
      parameters = declared.map ParameterDeclaration.settle := by
  cases kind with
  | nested target navigate => cases call
  | text read => cases call
  | call declared invoke =>
    cases call
    exact ⟨declared, rfl, rfl⟩

namespace Tables

variable {tables : Tables ι} {policy : CollisionPolicy} {atlas : Atlas ι} {root : SectionKey}

/-- What is found on a section is one of its declarations. -/
theorem exists_declaration_of_resolve? (filled : ofAtlas policy atlas root = .ok tables)
    {owner : SectionKey} {tag : String} {accessor : Accessor ι}
    (resolved : tables.resolve? owner tag = some accessor) :
    ∃ declaration ∈ atlas.declarations owner, declaration.accessor owner = accessor := by
  obtain ⟨-, -, declaration, last, same⟩ := (resolve?_ofAtlas_eq_some_iff filled).1 resolved
  obtain ⟨-, before, after, split, -⟩ := lastTagged?_eq_some_iff.1 last
  exact ⟨declaration, by simp [split], same⟩

/-- A call that has a label ends at the accessor of its member, and the label has the values
of the arguments under the tags of the parameters there, set one after the other. -/
theorem exists_call_of_encode {target : Trail} {member : Member} {arguments : List Argument}
    {label : Label} (encoded : tables.encode (.call target member arguments) = .label label) :
    ∃ leaf parameters invoke values,
      leaf.member = member ∧ Holds tables leaf ∧ leaf.kind = .call parameters invoke ∧
        arguments.map Argument.value? = values.map Except.ok ∧
        parameters.length = values.length ∧
        label.parameters = .ofList ((parameters.map Parameter.tag).zip values) := by
  obtain ⟨-, inner, leaf, bound, members, held, -, succeeded, rfl⟩ :=
    encode_eq_label_iff.1 encoded
  have ends : target.steps ++ [member] = inner.map Accessor.member ++ [leaf.member] := by
    rw [← List.map_singleton, ← List.map_append, ← members]
    rfl
  have sameMember := (List.append_inj' ends rfl).2
  cases Encoding.endsWith_of_parameters? succeeded with
  | @call _ _ _ parameters invoke values kind known taken =>
    exact ⟨leaf, parameters, invoke, values, (List.cons.inj sameMember).1.symm,
      held leaf (by simp), kind, known, taken.length_eq, rfl⟩

end Tables

/-! ## What labels keep -/

/-- What a label keeps of values that are set under tags, one after the other. -/
structure Label.KeepsLast (label : Label) (tags : List String) (values : List Value) : Prop where
  /-- There is one parameter for each tag, in the order in which the tags first come. -/
  keys : label.parameters.keys = tags.eraseDups
  /-- A value is kept if no later one is set under its tag. -/
  kept {position : Nat} {tag : String} {value : Value} :
    tags[position]? = some tag → values[position]? = some value →
    tag ∉ tags.drop (position + 1) → label.parameter? tag = some value
  /-- All values can be read back just when those under one tag are equal. -/
  readsBack_iff :
    List.Forall₂ (fun tag value => label.parameter? tag = some value) tags values ↔
      ∀ tag left right, (tag, left) ∈ tags.zip values → (tag, right) ∈ tags.zip values →
        left = right
  /-- If no tag is shared, each value is kept, in its place. -/
  entries : tags.Nodup → label.parameters.entries = tags.zip values

theorem Label.keepsLast_of_ofList {label : Label} {tags : List String} {values : List Value}
    (sameLength : tags.length = values.length)
    (labelled : label.parameters = .ofList (tags.zip values)) : label.KeepsLast tags values := by
  have keys : (tags.zip values).map Prod.fst = tags := List.map_fst_zip sameLength.le
  refine ⟨?keys, ?kept, ?readsBack, ?entries⟩
  case keys => rw [labelled, Dict.keys_ofList, keys]
  case kept =>
    intro position tag value tagHere valueHere last
    have here : (tags.zip values)[position]? = some (tag, value) :=
      List.getElem?_zip_eq_some.2 ⟨tagHere, valueHere⟩
    rw [Label.parameter?, labelled]
    apply Dict.get?_ofList_of_last here
    rwa [List.map_drop, keys]
  case readsBack =>
    simp only [Label.parameter?, labelled]
    exact Dict.forall₂_get?_ofList_zip_iff sameLength
  case entries =>
    intro nodup
    rw [labelled]
    exact Dict.entries_ofList_of_nodup (keys.symm ▸ nodup)

/-- A label that a call is written as keeps the values of the arguments under the tags of the
declared parameters. An argument whose tag a later parameter shares gives way to that of the
last parameter with it. -/
theorem label_keeps_last_argument_of_each_tag
    (atlas : Atlas ι) (operations : List Operation) {registry : Registry ι}
    (made : registry ∈ (Workspace.after atlas operations).registries)
    {target : Trail} {member : Member} {arguments : List Argument} {label : Label}
    (encoded : registry.encode (.call target member arguments) = .label label) :
    ∃ declaration ∈ atlas.declarations member.owner, ∃ declared invoke tags values,
      declaration.name = member.name ∧ declaration.kind = .call declared invoke ∧
      registry.holder? member = some (declaration.accessor member.owner) ∧
      tags = declared.map (fun parameter => parameter.settle.tag) ∧
      (∀ position tag, tags[position]? = some tag →
        registry.parameterTag? member position = some tag) ∧
      arguments.map Argument.value? = values.map Except.ok ∧
      tags.length = values.length ∧ label.KeepsLast tags values := by
  have filledBy := (Workspace.sound_after atlas operations).registries registry made
  obtain ⟨tables, found⟩ := Registry.exists_tables_of_encode encoded
  obtain ⟨root, filled⟩ := filledBy _ (Registry.tables_eq_ok_iff.1 found)
  rw [Registry.encode_of_tables found] at encoded
  obtain ⟨leaf, parameters, invoke, values, rfl, held, call, known, sameLength, labelled⟩ :=
    Tables.exists_call_of_encode encoded
  obtain ⟨tag, tagged, resolved, -⟩ := Tables.accessor?_eq_some_iff.1 held
  obtain ⟨declaration, listed, same⟩ :=
    Tables.exists_declaration_of_resolve? filled.symm resolved
  have settled : declaration.kind.settle = .call parameters invoke := by
    rw [← call, ← same]
    rfl
  obtain ⟨declared, kind, rfl⟩ := AccessorKind.exists_declared_of_settle settled
  have tags : (declared.map ParameterDeclaration.settle).map Parameter.tag =
      declared.map fun parameter => parameter.settle.tag := List.map_map
  rw [tags] at labelled
  rw [List.length_map, ← List.length_map (fun parameter => parameter.settle.tag)] at sameLength
  refine ⟨declaration, listed, declared, invoke, _, values, ?_, kind, ?_, rfl, ?_, known,
    sameLength, Label.keepsLast_of_ofList sameLength labelled⟩
  · rw [← same]
    rfl
  · rw [same]
    exact Registry.holder?_of_holds found held
  · intro position tag here
    rw [← tags, List.getElem?_map, Option.map_eq_some_iff] at here
    obtain ⟨parameter, here, rfl⟩ := here
    exact Registry.parameterTag?_of_callsWith found (filledBy.coherent found)
      ⟨_, leaf, _, invoke, parameter, (Registry.tag?_of_tables found _).trans tagged,
        (Registry.resolve?_of_tables found _ _).trans resolved, call, here, rfl⟩

open Registry

namespace Sample.Bakery

def bakery : SectionKey := ⟨0, "town::Bakery"⟩

def grams (name tag : String) : ParameterDeclaration :=
  (ParameterDeclaration.ofType (.int .i32) name).tagged tag

def mix : Declaration String :=
  ⟨"mix", "m", .call [grams "flour" "g", grams "eggs" "  ", grams "sugar" "g"]
    fun _ _ => "dough"⟩

/-- A bakery that mixes flour and sugar, both under one tag, with eggs, whose tag is blank. -/
def recipes : Atlas String where
  pages := .ofList [(bakery, [mix])]

def bakeryHistory : List Operation := [.addRegistry .lastWins, .fill 0 bakery]

def baker : Registry String := lenient recipes bakery

theorem baker_mem : baker ∈ (Workspace.after recipes bakeryHistory).registries :=
  List.mem_cons_self

theorem tables_baker :
    baker.tables = .ok (Tables.record { root := bakery } (mix.accessor bakery)) := by
  have declared : recipes.declarations bakery = [mix] := rfl
  rw [baker, tables_lenient, recipes.itinerary_of_leadsTo?_eq_none, declared]
  · rfl
  · rw [declared]
    simp [mix, Declaration.leadsTo?, AccessorKind.target?]

def mixture : Path :=
  .call ⟨bakery, []⟩ ⟨bakery, "mix"⟩
    [.literal (.int 500), .literal (.int 2), .literal (.int 80)]

def mixLabel : Label := ⟨"m", .ofList [("g", .int 500), ("eggs", .int 2), ("g", .int 80)]⟩

theorem encode_mixture : baker.encode mixture = .label mixLabel := by
  rw [Registry.encode_of_tables tables_baker]
  rfl

theorem holder?_mix : baker.holder? ⟨bakery, "mix"⟩ = some (mix.accessor bakery) := by
  simp only [holder?, tag?_of_tables tables_baker, resolve?_of_tables tables_baker]
  rfl

end Sample.Bakery

open Sample.Bakery

theorem mixLabel_keeps_last_of_each_tag :
    baker ∈ (Workspace.after recipes bakeryHistory).registries ∧
      baker.encode mixture = .label mixLabel ∧
      ∃ declaration ∈ recipes.declarations bakery, ∃ declared invoke tags,
        declaration.name = "mix" ∧ declaration.kind = .call declared invoke ∧
        tags = declared.map (fun parameter => parameter.settle.tag) ∧
        mixLabel.KeepsLast tags [.int 500, .int 2, .int 80] := by
  obtain ⟨declaration, listed, declared, invoke, tags, values, named, kind, -, taken, -, known,
    -, keeps⟩ := label_keeps_last_argument_of_each_tag recipes bakeryHistory baker_mem
      encode_mixture
  have same : [.int 500, .int 2, .int 80] = values :=
    List.map_injective_iff.2 (fun _ _ => Except.ok.inj) known
  exact ⟨baker_mem, encode_mixture, declaration, listed, declared, invoke, tags, named, kind,
    taken, same ▸ keeps⟩

/-- The label of a mixture has no entry for its first parameter. The flour is lost, and the
amount of sugar is read back for it. -/
theorem mixLabel_loses_flour :
    baker ∈ (Workspace.after recipes bakeryHistory).registries ∧
      baker.encode mixture = .label mixLabel ∧
      baker.holder? ⟨bakery, "mix"⟩ = some (mix.accessor bakery) ∧
      (mix.accessor bakery).parameters.map Parameter.tag = ["g", "eggs", "g"] ∧
      mixLabel.parameters.keys = ["g", "eggs"] ∧
      mixLabel.parameter? "g" = some (.int 80) ∧ mixLabel.parameter? "g" ≠ some (.int 500) :=
  ⟨baker_mem, encode_mixture, holder?_mix, rfl, rfl, rfl, by decide⟩

end Waymark
