import Waymark.Label
import Waymark.Proofs.Identifier

/-!
# One spelling for each list of tags

Joining, splitting and the canonical spelling fit together on all texts, with separators
anywhere and empty parts among them. What is joined reads as what its parts read as, one
after the other, and two identifiers have one canonical spelling just when they read alike.
-/

namespace Waymark

namespace Identifier

/-! ## Segments as the library splits them -/

theorem runs_eq_splitOn (cs : List Char) : runs cs = cs.splitOn tagSeparator := by
  rw [List.splitOn_eq_splitOnP]
  induction cs with
  | nil => rfl
  | cons c rest inductionHypothesis =>
    rw [List.splitOnP_cons_eq_if_modifyHead, ← inductionHypothesis]
    by_cases separator : c = tagSeparator
    · simp [runs, separator]
    · obtain ⟨first, others, split⟩ := List.exists_cons_of_ne_nil (runs_ne_nil rest)
      simp [runs_cons_of_ne separator split, split, separator]

theorem segments_eq_split (identifier : String) :
    segments identifier = (identifier.split tagSeparator).toList.map String.Slice.copy := by
  rw [segments, runs_eq_splitOn, String.toList_split_char]

/-- The tags of an identifier are what splitting it at the separators gives, without the
empty texts. -/
theorem tags_eq_filter_split (identifier : String) :
    tags identifier =
      ((identifier.split tagSeparator).toList.map String.Slice.copy).filter
        fun segment => segment ≠ "" := by
  rw [tags, segments_eq_split]
  apply List.filter_congr
  intro segment _
  rw [Bool.eq_iff_iff]
  simp

/-! ## Identifiers with one spelling -/

theorem canonical_canonical (identifier : String) :
    canonical (canonical identifier) = canonical identifier := by
  rw [canonical_eq_ofTags (canonical identifier), tags_canonical, ← canonical_eq_ofTags]

theorem canonical_eq_canonical_iff {left right : String} :
    canonical left = canonical right ↔ tags left = tags right := by
  constructor
  · intro same
    rw [← tags_canonical left, same, tags_canonical]
  · intro same
    rw [canonical_eq_ofTags, same, ← canonical_eq_ofTags]

end Identifier

/-- Joined texts read as the segments of each text, one text after the other, and as the texts
themselves if each of them is one segment that is not empty. The canonical spelling of an
identifier is what its tags are joined to. It is its own canonical spelling, and the identifiers
that share it are those with the same tags. -/
theorem joined_tags_are_read_back :
    (∀ parts : List String,
      (Label.ofTags parts).tags =
        parts.flatMap fun part =>
          ((part.split tagSeparator).toList.map String.Slice.copy).filter
            fun segment => segment ≠ "") ∧
    (∀ parts : List String, (∀ part ∈ parts, part ≠ "" ∧ tagSeparator ∉ part.toList) →
      (Label.ofTags parts).tags = parts) ∧
    (∀ identifier,
      Identifier.canonical identifier =
        (Label.ofTags (Label.tags { identifier })).identifier) ∧
    (∀ identifier,
      Identifier.canonical (Identifier.canonical identifier) =
        Identifier.canonical identifier) ∧
    ∀ left right,
      Identifier.canonical left = Identifier.canonical right ↔
        Label.tags { identifier := left } = Label.tags { identifier := right } := by
  refine ⟨?joined, ?plain, Identifier.canonical_eq_ofTags, Identifier.canonical_canonical,
    fun left right => Identifier.canonical_eq_canonical_iff⟩
  case joined =>
    intro parts
    simp only [← Identifier.tags_eq_filter_split]
    exact Identifier.tags_ofTags parts
  case plain =>
    intro parts plain
    have single : ∀ part ∈ parts, Identifier.tags part = [part] :=
      fun part listed => Identifier.tags_eq_singleton (plain part listed).1 (plain part listed).2
    exact (Identifier.tags_ofTags parts).trans (Identifier.flatMap_tags_eq_self single)

theorem joined_tags_of_csharp_are_read_back :
    (∀ part ∈ ["t", " ", "c#"], part ≠ "" ∧ tagSeparator ∉ part.toList) ∧
      (Label.ofTags ["t", " ", "c#"]).tags = ["t", " ", "c#"] := by
  have plain : ∀ part ∈ ["t", " ", "c#"], part ≠ "" ∧ tagSeparator ∉ part.toList := by decide
  obtain ⟨-, readsBack, -⟩ := joined_tags_are_read_back
  exact ⟨plain, readsBack ["t", " ", "c#"] plain⟩

example : Identifier.canonical "_j__dev_" = "j_dev" := by decide

end Waymark
