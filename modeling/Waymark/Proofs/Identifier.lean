import Waymark.Identifier

/-!
# Joining and splitting identifiers

Writing tags behind one another and reading them back are inverse to each other on tags
that an identifier can spell, and on any texts reading gives what each text reads as.
The canonical spelling is the one that writing the tags of an identifier gives.
-/

namespace Waymark

namespace Text

@[simp] theorem isBlank_append (left right : String) :
    isBlank (left ++ right) = (isBlank left && isBlank right) := by
  simp [isBlank]

end Text

namespace Identifier

/-! ## Runs of characters -/

theorem runs_ne_nil (cs : List Char) : runs cs ≠ [] := by
  cases cs with
  | nil => simp [runs]
  | cons c rest =>
    rw [runs]
    split
    · simp
    · split <;> simp

/-- A character that is no separator stands in the first run. -/
theorem runs_cons_of_ne {c : Char} (different : c ≠ tagSeparator) {rest first : List Char}
    {others : List (List Char)} (split : runs rest = first :: others) :
    runs (c :: rest) = (c :: first) :: others := by
  rw [runs, if_neg different, split]

theorem runs_append_separator (left right : List Char) :
    runs (left ++ tagSeparator :: right) = runs left ++ runs right := by
  induction left with
  | nil => simp [runs]
  | cons c rest inductionHypothesis =>
    by_cases separator : c = tagSeparator
    · simp [runs, separator, inductionHypothesis]
    · obtain ⟨first, others, split⟩ := List.exists_cons_of_ne_nil (runs_ne_nil rest)
      have splitBoth :
          runs (rest ++ tagSeparator :: right) = first :: (others ++ runs right) := by
        rw [inductionHypothesis, split, List.cons_append]
      rw [List.cons_append, runs_cons_of_ne separator split, runs_cons_of_ne separator splitBoth,
        List.cons_append]

theorem runs_eq_singleton {cs : List Char} (free : tagSeparator ∉ cs) : runs cs = [cs] := by
  induction cs with
  | nil => rfl
  | cons c rest inductionHypothesis =>
    rw [List.mem_cons, not_or] at free
    exact runs_cons_of_ne (Ne.symm free.1) (inductionHypothesis free.2)

theorem separator_not_mem_of_mem_runs {run cs : List Char} (member : run ∈ runs cs) :
    tagSeparator ∉ run := by
  induction cs generalizing run with
  | nil => simp_all [runs]
  | cons c rest inductionHypothesis =>
    by_cases separator : c = tagSeparator
    · rw [runs, if_pos separator, List.mem_cons] at member
      rcases member with rfl | member
      · exact List.not_mem_nil
      · exact inductionHypothesis member
    · obtain ⟨first, others, split⟩ := List.exists_cons_of_ne_nil (runs_ne_nil rest)
      rw [runs_cons_of_ne separator split, List.mem_cons] at member
      rcases member with rfl | member
      · rw [List.mem_cons, not_or]
        exact ⟨Ne.symm separator, inductionHypothesis (split ▸ List.mem_cons_self)⟩
      · exact inductionHypothesis (split ▸ List.mem_cons_of_mem first member)

theorem intercalate_runs (cs : List Char) : [tagSeparator].intercalate (runs cs) = cs := by
  induction cs with
  | nil => rfl
  | cons c rest inductionHypothesis =>
    obtain ⟨first, others, split⟩ := List.exists_cons_of_ne_nil (runs_ne_nil rest)
    by_cases separator : c = tagSeparator
    · rw [runs, if_pos separator, List.intercalate_cons_of_ne_nil (runs_ne_nil rest),
        inductionHypothesis, separator]
      rfl
    · rw [runs_cons_of_ne separator split, List.intercalate_cons_cons_left, ← split,
        inductionHypothesis]

/-! ## Segments and tags -/

theorem intercalate_segments (identifier : String) :
    (String.singleton tagSeparator).intercalate (segments identifier) = identifier := by
  apply String.toList_injective
  rw [String.toList_intercalate, String.toList_singleton, segments, List.map_map]
  simpa [Function.comp_def] using intercalate_runs identifier.toList

theorem segments_append_separator (left right : String) :
    segments (left ++ String.singleton tagSeparator ++ right) =
      segments left ++ segments right := by
  simp only [segments, String.toList_append, String.toList_singleton, List.append_assoc,
    List.singleton_append, runs_append_separator, List.map_append]

theorem tags_append_separator (left right : String) :
    tags (left ++ String.singleton tagSeparator ++ right) = tags left ++ tags right := by
  rw [tags, segments_append_separator, List.filter_append]
  rfl

@[simp] theorem tags_empty : tags "" = [] := rfl

/-- A tag of an identifier is not empty and does not contain the separator. -/
theorem plain_of_mem_tags {tag identifier : String} (member : tag ∈ tags identifier) :
    tag ≠ "" ∧ tagSeparator ∉ tag.toList := by
  rw [tags, List.mem_filter, segments, List.mem_map] at member
  obtain ⟨⟨run, runMember, rfl⟩, nonempty⟩ := member
  refine ⟨by simpa using nonempty, ?_⟩
  rw [String.toList_ofList]
  exact separator_not_mem_of_mem_runs runMember

theorem tags_eq_singleton {tag : String} (nonempty : tag ≠ "") (free : tagSeparator ∉ tag.toList) :
    tags tag = [tag] := by
  simp [tags, segments, runs_eq_singleton free, nonempty]

theorem plain_of_isValidTag {tag : String} (valid : isValidTag tag) :
    tag ≠ "" ∧ tagSeparator ∉ tag.toList := by
  simp only [isValidTag, Bool.and_eq_true, Bool.not_eq_true', List.contains_eq_mem,
    decide_eq_false_iff_not] at valid
  refine ⟨?_, valid.2⟩
  intro same
  subst same
  simp [Text.isBlank] at valid

theorem tags_of_isValidTag {tag : String} (valid : isValidTag tag) : tags tag = [tag] :=
  tags_eq_singleton (plain_of_isValidTag valid).1 (plain_of_isValidTag valid).2

/-! ## Joining -/

@[simp] theorem tags_extend (identifier tag : String) :
    tags (extend identifier tag) = tags identifier ++ tags tag := by
  rw [extend]
  split
  · next empty =>
    rw [String.isEmpty_iff] at empty
    rw [empty, tags_empty, List.nil_append]
  · rw [tags_append_separator]

theorem tags_foldl_extend (identifier : String) (parts : List String) :
    tags (parts.foldl extend identifier) = tags identifier ++ parts.flatMap tags := by
  induction parts generalizing identifier with
  | nil => simp
  | cons part rest inductionHypothesis =>
    rw [List.foldl_cons, inductionHypothesis, tags_extend, List.append_assoc,
      List.flatMap_cons]

/-- The tags of joined texts are those of each text, one text after the other. -/
theorem tags_ofTags (parts : List String) : tags (ofTags parts) = parts.flatMap tags := by
  rw [ofTags, tags_foldl_extend, tags_empty, List.nil_append]

theorem flatMap_tags_eq_self {parts : List String} (plain : ∀ part ∈ parts, tags part = [part]) :
    parts.flatMap tags = parts := by
  induction parts with
  | nil => rfl
  | cons part rest inductionHypothesis =>
    rw [List.flatMap_cons, plain part List.mem_cons_self,
      inductionHypothesis fun other member => plain other (List.mem_cons_of_mem part member),
      List.singleton_append]

/-- Valid tags are read back from the identifier that they are joined to. -/
theorem tags_ofTags_of_isValidTag {parts : List String} (valid : ∀ part ∈ parts, isValidTag part) :
    tags (ofTags parts) = parts := by
  rw [tags_ofTags]
  exact flatMap_tags_eq_self fun part member => tags_of_isValidTag (valid part member)

theorem isBlank_foldl_extend {identifier : String} (parts : List String)
    (visible : Text.isBlank identifier = false) :
    Text.isBlank (parts.foldl extend identifier) = false := by
  induction parts generalizing identifier with
  | nil => exact visible
  | cons part rest inductionHypothesis =>
    apply inductionHypothesis
    rw [extend]
    split
    · next empty =>
      rw [String.isEmpty_iff] at empty
      rw [empty] at visible
      cases visible
    · rw [Text.isBlank_append, Text.isBlank_append, visible, Bool.false_and, Bool.false_and]

/-- Joining valid tags, at least one of them, gives a text that is not blank. -/
theorem isBlank_ofTags {part : String} {rest : List String} (valid : isValidTag part) :
    Text.isBlank (ofTags (part :: rest)) = false := by
  rw [ofTags, List.foldl_cons]
  apply isBlank_foldl_extend
  simp only [isValidTag, Bool.and_eq_true, Bool.not_eq_true'] at valid
  simpa [extend] using valid.1

theorem foldl_extend_eq_intercalate {identifier : String} (parts : List String)
    (nonempty : identifier ≠ "") (plain : ∀ part ∈ parts, part ≠ "") :
    parts.foldl extend identifier =
      (String.singleton tagSeparator).intercalate (identifier :: parts) := by
  induction parts generalizing identifier with
  | nil => simp
  | cons part rest inductionHypothesis =>
    have extended : extend identifier part =
        identifier ++ String.singleton tagSeparator ++ part := by
      simp [extend, nonempty]
    rw [List.foldl_cons, extended, inductionHypothesis,
      String.intercalate_cons_append, String.intercalate_cons_cons]
    · simp
    · exact fun other member => plain other (List.mem_cons_of_mem part member)

theorem ofTags_eq_intercalate {parts : List String} (plain : ∀ part ∈ parts, part ≠ "") :
    ofTags parts = (String.singleton tagSeparator).intercalate parts := by
  cases parts with
  | nil => rfl
  | cons part rest =>
    rw [ofTags, List.foldl_cons]
    exact foldl_extend_eq_intercalate rest (plain part List.mem_cons_self)
      fun other member => plain other (List.mem_cons_of_mem part member)

/-! ## The canonical spelling -/

theorem ofTags_tags (identifier : String) :
    ofTags (tags identifier) =
      (String.singleton tagSeparator).intercalate (tags identifier) :=
  ofTags_eq_intercalate fun _ member => (plain_of_mem_tags member).1

/-- Both ways to find the canonical spelling write the tags of the identifier. -/
theorem canonical_eq_ofTags (identifier : String) :
    canonical identifier = ofTags (tags identifier) := by
  rw [canonical]
  split
  · rw [ofTags_tags]
  · next full =>
    have kept : tags identifier = segments identifier := by
      rw [tags, List.filter_eq_self]
      intro segment member
      simp only [List.any_eq_true, not_exists, not_and] at full
      simpa using full segment member
    rw [ofTags_tags, kept, intercalate_segments]

@[simp] theorem tags_canonical (identifier : String) :
    tags (canonical identifier) = tags identifier := by
  rw [canonical_eq_ofTags, tags_ofTags]
  exact flatMap_tags_eq_self fun tag member =>
    tags_eq_singleton (plain_of_mem_tags member).1 (plain_of_mem_tags member).2

theorem canonical_ofTags {parts : List String} (valid : ∀ part ∈ parts, isValidTag part) :
    canonical (ofTags parts) = ofTags parts := by
  rw [canonical_eq_ofTags, tags_ofTags_of_isValidTag valid]

end Identifier

end Waymark
