import Waymark.Proofs.Filling
import Waymark.Proofs.Transmission

/-!
# Labels that arrive build

The label that arrives has the identifier of the one that was sent, so it compiles to the
same shape and goes the same way. What a call makes of its parameters is the same too: a
null value and a zero give the same argument, whatever kind the parameter has.
-/

namespace Waymark

variable {ι : Type}

/-! ## Parameters -/

namespace Value

/-- The value with zero for what JSON cannot write. -/
def cleared (value : Value) : Value := if value.isWritable then value else .float .zero

theorem coerce_arriving (value? : Option Value) (kind : Kind) :
    coerce (value?.map arriving) kind = coerce (value?.map cleared) kind := by
  cases value? with
  | none => rfl
  | some value =>
    simp only [Option.map_some, arriving, cleared]
    split
    · rfl
    -- A null value has no kind, and a zero of the wanted kind is the kind's zero.
    · cases kind <;> rfl

theorem arriving_of_isWritable {value : Value} (writable : value.isWritable = true) :
    value.arriving = value := if_pos writable

end Value

/-- The label with zeros for the values that JSON cannot write. -/
def Label.cleared (label : Label) : Label :=
  { label with parameters := label.parameters.mapValues Value.cleared }

theorem Extract.value_arriving (extract : Extract) (label : Label) :
    extract.value label.arriving.parameters = extract.value label.cleared.parameters := by
  rw [Extract.value, Extract.value, Label.arriving, Label.cleared, Dict.get?_mapValues,
    Dict.get?_mapValues]
  exact Value.coerce_arriving _ _

theorem Label.arriving_of_isWritable {label : Label}
    (writable : ∀ value ∈ label.parameters.values, value.isWritable = true) :
    label.arriving = label := by
  have same : label.parameters.mapValues Value.arriving = label.parameters :=
    Dict.mapValues_eq_self fun value mem => Value.arriving_of_isWritable (writable value mem)
  rw [Label.arriving, same]

/-! ## Running a shape on other parameters -/

namespace Shape

variable {shape : Shape ι} {left right : Arguments}

theorem run_congr
    (same : ∀ extract ∈ shape.leaf.extracts, extract.value left = extract.value right)
    (provider : Instance ι) : shape.run provider left = shape.run provider right := by
  have text (content : ι) : shape.leaf.text content left = shape.leaf.text content right := by
    cases leaf : shape.leaf with
    | read member read => rfl
    | invoke member extracts invoke =>
      rw [leaf, Leaf.extracts] at same
      rw [Leaf.text, Leaf.text, List.map_congr_left same]
  simp only [run, text]

/-- Whether a shape runs on an instance does not depend on the parameters. -/
theorem exists_run_of_run {provider : Instance ι} {text : String}
    (ran : shape.run provider left = .ok text) (right : Arguments) :
    ∃ text', shape.run provider right = .ok text' := by
  unfold run at ran ⊢
  split at ran
  · cases ran
  · next reached arrived =>
    split at ran
    · next owned =>
      rw [if_pos owned]
      exact ⟨_, rfl⟩
    · cases ran

end Shape

/-! ## Sent labels -/

theorem build_of_shape {compiler : Compiler ι} {registry : Registry ι} {label : Label}
    {shape : Shape ι} (visible : Text.isBlank label.identifier = false)
    (shaped : (compiler.shape registry label.identifier).result = .ok shape) :
    (compiler.build registry label).result = .ok (some ⟨shape, label.parameters⟩) := by
  simp only [Compiler.build, visible, Bool.false_eq_true, if_false, shaped]
  rfl

/-- A label that was sent as JSON builds, and its consumer gives every provider the text of
the label that was sent, with zeros in place of the parameters that JSON cannot write. If
there are none, this is the text of the label itself. -/
theorem delivered_label_gives_text_of_cleared
    (atlas : Atlas ι) (operations : List Operation) {number : Nat}
    {compiler : Compiler ι} {registry : Registry ι} {path : Path} {label : Label}
    (made : (Workspace.after atlas operations).compiler? number = some (compiler, registry))
    (rooted : registry.root? = some compiler.root)
    (encoded : registry.encode path = .label label) :
    ∃ received original arrived cleared,
      Label.ofJsonText? label.json = some received ∧
      (compiler.build registry label).result = .ok (some original) ∧
      (compiler.build registry received).result = .ok (some arrived) ∧
      (compiler.build registry label.cleared).result = .ok (some cleared) ∧
      (∀ provider, ∃ text,
        arrived.text provider = .ok text ∧ cleared.text provider = .ok text) ∧
      ((∀ value ∈ label.parameters.values, value.isWritable = true) →
        ∀ provider, arrived.text provider = original.text provider) := by
  obtain ⟨sound, filledBy⟩ := (Workspace.sound_after atlas operations).compiler? made
  obtain ⟨tables, found, filled⟩ := filledBy.exists_tables rooted
  have coherent := filledBy.coherent found
  rw [Registry.encode_of_tables found] at encoded
  have visible := (coherent.canonical_identifier encoded).2
  obtain ⟨shape, compiled, shaped, admits⟩ :=
    sound.exists_shape_of_encode found (Tables.root_ofAtlas filled) coherent encoded
  -- All three labels have one identifier, so one shape is run on three sets of parameters.
  refine ⟨label.arriving, ⟨shape, label.parameters⟩, ⟨shape, label.arriving.parameters⟩,
    ⟨shape, label.cleared.parameters⟩, label.ofJsonText?_json, build_of_shape visible shaped,
    build_of_shape visible shaped, build_of_shape visible shaped, ?_, ?_⟩
  · intro provider
    obtain ⟨_, ran, -⟩ := Registry.run_eq_follow? found coherent encoded compiled provider
    obtain ⟨text, ranCleared⟩ := Shape.exists_run_of_run ran label.cleared.parameters
    refine ⟨text, ?_, ranCleared⟩
    rw [← ranCleared]
    exact Shape.run_congr (fun extract _ => extract.value_arriving label) _
  · intro writable provider
    rw [Label.arriving_of_isWritable writable]

open Sample.Gallery

theorem delivered_greetTwice_gives_text :
    (Workspace.after halls ringHistory).compiler? 0 = some (ringCompiler, ringRegistry) ∧
      ringRegistry.root? = some ringCompiler.root ∧
      ∃ label, ringRegistry.encode greetTwice = .label label ∧
        (∀ value ∈ label.parameters.values, value.isWritable = true) ∧
        ∃ received original arrived,
          Label.ofJsonText? label.json = some received ∧
          (ringCompiler.build ringRegistry label).result = .ok (some original) ∧
          (ringCompiler.build ringRegistry received).result = .ok (some arrived) ∧
          ∀ provider, arrived.text provider = original.text provider := by
  have values : (Dict.ofList [("hi", Value.text "Hi"), ("times", .int 2)]).values =
      [.text "Hi", .int 2] := rfl
  have writable : ∀ value ∈ (Dict.ofList [("hi", Value.text "Hi"), ("times", .int 2)]).values,
      value.isWritable = true := by
    rw [values]
    simp [Value.isWritable]
  obtain ⟨received, original, arrived, -, read, built, builtReceived, -, -, sameText⟩ :=
    delivered_label_gives_text_of_cleared halls ringHistory compiler?_ringHistory
      rooted_ringCompiler encode_greetTwice
  exact ⟨compiler?_ringHistory, rooted_ringCompiler, _, encode_greetTwice, writable, received,
    original, arrived, read, built, builtReceived, sameText writable⟩

namespace Sample.Meter

def dial : SectionKey := ⟨0, "meter::Dial"⟩

/-- A dial that shows a reading. -/
def showReading : Declaration Unit :=
  ⟨"show", "s", .call [.ofType .double "reading"] fun _ arguments =>
    ScalarType.extractDisplay .double arguments 0⟩

def panel : Atlas Unit where
  pages := .ofList [(dial, [showReading])]

def dialHistory : List Operation :=
  [.addRegistry .lastWins, .addCompiler 0 dial, .fill 0 dial]

def dialRegistry : Registry Unit := Registry.lenient panel dial

def dialCompiler : Compiler Unit := { root := dial }

theorem compiler?_dialHistory :
    (Workspace.after panel dialHistory).compiler? 0 = some (dialCompiler, dialRegistry) := rfl

theorem itinerary_dial : panel.itinerary dial = [.enter dial, .declare dial showReading] := by
  have declared : panel.declarations dial = [showReading] := rfl
  have ended : showReading.leadsTo? = none := rfl
  simp [Atlas.itinerary, Atlas.eventsFrom, declared, ended]

/-- The path that shows what is not a number. -/
def showNan : Path := .call (.start dial) ⟨dial, "show"⟩ [.literal (.float .nan)]

/-- The label of a reading that is not a number. -/
def nanLabel : Label := ⟨"s", .ofList [("reading", .float .nan)]⟩

end Sample.Meter

open Sample.Meter

/-- A reading that is not a number arrives as null and is shown as zero. -/
theorem nan_reading_arrives_as_zero :
    (Workspace.after panel dialHistory).compiler? 0 = some (dialCompiler, dialRegistry) ∧
      dialRegistry.root? = some dialCompiler.root ∧
      dialRegistry.encode showNan = .label nanLabel ∧
      ∃ received original arrived,
        Label.ofJsonText? nanLabel.json = some received ∧
        (dialCompiler.build dialRegistry nanLabel).result = .ok (some original) ∧
        (dialCompiler.build dialRegistry received).result = .ok (some arrived) ∧
        original.text () = .ok "NaN" ∧ arrived.text () = .ok "0" := by
  have root : dialRegistry.root? = some dialCompiler.root := Registry.root?_lenient panel dial
  have encoded : dialRegistry.encode showNan = .label nanLabel := by
    rw [Registry.encode, dialRegistry, Registry.tables_lenient, itinerary_dial]
    rfl
  let shape : Shape Unit := ⟨"s", dial, [], .invoke ⟨dial, "show"⟩ [⟨"reading", .float⟩]
    fun _ arguments => ScalarType.extractDisplay .double arguments 0⟩
  have shaped : (dialCompiler.shape dialRegistry "s").result = .ok shape := by
    simp only [Compiler.shape, Registry.compile, dialRegistry, Registry.tables_lenient,
      itinerary_dial]
    rfl
  refine ⟨compiler?_dialHistory, root, encoded, nanLabel.arriving, ⟨shape, nanLabel.parameters⟩,
    ⟨shape, nanLabel.arriving.parameters⟩, nanLabel.ofJsonText?_json, ?_, ?_, ?_, ?_⟩
  · exact build_of_shape (by decide) shaped
  · exact build_of_shape (by decide) shaped
  · rfl
  · rfl

end Waymark
