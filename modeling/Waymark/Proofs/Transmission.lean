import Waymark.Proofs.RoundTrip
import Waymark.Proofs.Written

/-!
# Labels through JSON

A label that is written as JSON and read again is the label that was written, except that
JSON has no numbers for what is infinite or not a number: these values arrive as null. All
others keep their kind, because the texts of no two kinds are alike.
-/

namespace Waymark

/-! ## Values -/

namespace Value

/-- Whether JSON can write a value: all but the numbers that are not finite. -/
def isWritable : Value → Bool
  | .float number => number.isFinite
  | .null | .bool _ | .int _ | .text _ => true

/-- What a value is after it was written as JSON and read. -/
def arriving (value : Value) : Value := if value.isWritable then value else .null

end Value

namespace Json

/-- Every value is written as a tree that is read as what arrives of it. -/
theorem exists_tree_of_valueText (value : Value) :
    ∃ tree, Writes (valueText value) tree ∧ tree.scalar? = some value.arriving := by
  have null : Writes "null".toList .null := writes_word rfl (by simp [wordEnds]) (by decide)
  have yes : Writes "true".toList (.bool true) := writes_word rfl (by simp [wordEnds]) (by decide)
  have no : Writes "false".toList (.bool false) :=
    writes_word rfl (by simp [wordEnds]) (by decide)
  cases value with
  | null => exact ⟨.null, null, rfl⟩
  | bool value =>
    refine ⟨.bool value, ?_, rfl⟩
    cases value with
    | false => exact no
    | true => exact yes
  | int value =>
    obtain ⟨numeral, read, same⟩ := Numeral.exists_ofWord?_int value
    exact ⟨.number numeral, writes_numeral read, same⟩
  | float number =>
    by_cases finite : number.isFinite = true
    · obtain ⟨numeral, read, same⟩ := Numeral.exists_ofWord?_float finite
      refine ⟨.number numeral, ?_, ?_⟩
      · rw [valueText, if_pos finite]
        exact writes_numeral read
      · rw [scalar?, same, Value.arriving, Value.isWritable, if_pos finite]
    · refine ⟨.null, ?_, ?_⟩
      · rw [valueText, if_neg finite]
        exact null
      · rw [scalar?, Value.arriving, Value.isWritable, if_neg finite]
  | text value =>
    refine ⟨.string (piecesOf value), (writesClosed_string value).writes, ?_⟩
    rw [scalar?, text?_piecesOf]
    rfl

end Json

/-! ## Labels -/

namespace Label

/-- Fields with different keys are all kept, in their order. -/
theorem exists_foldlM_addParameter? {tree : Value → Json}
    (reads : ∀ value, (tree value).scalar? = some value.arriving)
    {entries : List (String × Value)} {parameters : Arguments}
    (nodup : (parameters.keys ++ entries.map Prod.fst).Nodup) :
    ∃ read, (Json.fieldTrees tree entries).foldlM addParameter? parameters = some read ∧
      read.entries =
        parameters.entries ++ entries.map fun entry => (entry.1, entry.2.arriving) := by
  induction entries generalizing parameters with
  | nil => exact ⟨parameters, rfl, (List.append_nil _).symm⟩
  | cons entry entries inductionHypothesis =>
    obtain ⟨key, value⟩ := entry
    have fresh : key ∉ parameters.keys := by
      intro mem
      obtain ⟨-, -, apart⟩ := List.nodup_append.1 nodup
      exact apart key mem key List.mem_cons_self rfl
    have keys : (parameters.insert key value.arriving).keys = parameters.keys ++ [key] := by
      rw [Dict.keys_insert, if_neg fresh]
    have nodupRest : ((parameters.insert key value.arriving).keys ++
        entries.map Prod.fst).Nodup := by
      rw [keys, List.append_assoc]
      exact nodup
    obtain ⟨read, folded, same⟩ := inductionHypothesis nodupRest
    refine ⟨read, ?_, ?_⟩
    · have added : addParameter? parameters (Json.piecesOf key, tree value) =
          some (parameters.insert key value.arriving) := by
        simp only [addParameter?, Json.text?_piecesOf, reads]
      rw [Json.fieldTrees, List.map_cons, List.foldlM_cons, added]
      exact folded
    · rw [same, Dict.entries_insert_of_not_mem fresh, List.append_assoc]
      rfl

/-- The parameters of a label are read in their order, each as what arrives of it. -/
theorem parametersOfJson?_fieldTrees {tree : Value → Json}
    (reads : ∀ value, (tree value).scalar? = some value.arriving) (parameters : Arguments) :
    parametersOfJson? (.object (Json.fieldTrees tree parameters.entries)) =
      some (parameters.mapValues Value.arriving) := by
  have nodup : ((Dict.empty : Arguments).keys ++ parameters.entries.map Prod.fst).Nodup :=
    parameters.nodupKeys
  obtain ⟨read, folded, entries⟩ := exists_foldlM_addParameter? reads nodup
  have same : read = parameters.mapValues Value.arriving := Dict.ext entries
  rw [parametersOfJson?, folded, same]

theorem ofJson?_object {identifier : String} {tree : Json} {parameters : Arguments}
    (read : parametersOfJson? tree = some parameters) :
    ofJson? (.object [(Json.piecesOf "identifier", .string (Json.piecesOf identifier)),
      (Json.piecesOf "parameters", tree)]) = some ⟨identifier, parameters⟩ := by
  simp [ofJson?, Draft.add?, Draft.label?, identifierOfJson?, read]

/-- What a label is after it was written as JSON and read. -/
def arriving (label : Label) : Label :=
  { label with parameters := label.parameters.mapValues Value.arriving }

theorem ofJsonText?_json (label : Label) : ofJsonText? label.json = some label.arriving := by
  choose tree writes reads using Json.exists_tree_of_valueText
  let parametersText := Json.objectText
    (label.parameters.entries.map fun entry => (entry.1, Json.valueText entry.2))
  let parametersTree := Json.object (Json.fieldTrees tree label.parameters.entries)
  let fields : List (String × List Char × Json) :=
    [("identifier", Json.stringText label.identifier, .string (Json.piecesOf label.identifier)),
      ("parameters", parametersText, parametersTree)]
  have identifierWritten : Json.Writes (Json.stringText label.identifier)
      (.string (Json.piecesOf label.identifier)) :=
    (Json.writesClosed_string label.identifier).writes
  have parametersWritten : Json.WritesClosed parametersText parametersTree :=
    Json.writesClosed_object fun entry _ => writes entry.2
  have fieldsWritten : ∀ field ∈ fields, Json.Writes field.2.1 field.2.2 := by
    intro field mem
    rcases List.mem_pair.1 mem with rfl | rfl
    · exact identifierWritten
    · exact parametersWritten.writes
  have read : Json.ofText? label.json = some (.object (Json.fieldTrees Prod.snd fields)) :=
    (Json.writesClosed_object fieldsWritten).ofText?
  rw [ofJsonText?, read, Option.bind_some]
  exact ofJson?_object (parametersOfJson?_fieldTrees reads label.parameters)

theorem parameter?_arriving (label : Label) (tag : String) :
    label.arriving.parameter? tag = (label.parameter? tag).map Value.arriving :=
  Dict.get?_mapValues label.parameters Value.arriving tag

end Label

/-- Reading the JSON text of a label undoes writing it. The label that arrives has the same
identifier and the same tags in the same order, and under each tag the same value, bits of
floating-point numbers included, unless that is a number which JSON cannot write: then it is
the null value. -/
theorem label_json_reads_back (label : Label) :
    ∃ received, Label.ofJsonText? label.json = some received ∧
      received.identifier = label.identifier ∧
      received.parameters.keys = label.parameters.keys ∧
      ∀ tag value, label.parameter? tag = some value →
        received.parameter? tag = some (if value.isWritable then value else .null) := by
  refine ⟨label.arriving, label.ofJsonText?_json, rfl, ?_, ?_⟩
  · simp [Label.arriving, Dict.keys, Dict.mapValues, Function.comp_def]
  · intro tag value found
    rw [label.parameter?_arriving, found]
    rfl

end Waymark
