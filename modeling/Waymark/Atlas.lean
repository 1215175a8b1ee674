import Waymark.Accessor
import Waymark.Dict

/-!
# Atlases

An atlas lists, section by section, what each section declares. Its itinerary from a
root is the depth-first reading of the atlas: the declarations of a section come in
order, and right behind a nested section whose tag is valid come the declarations of
that section, if it has not been entered before.
-/

namespace Waymark

/-- The declarations of sections. A section that is not listed declares nothing. -/
structure Atlas (ι : Type) where
  pages : Dict SectionKey (List (Declaration ι))

/-- A step of an itinerary: a section is entered, or one of its declarations is read. -/
inductive Event (ι : Type) where
  | enter (key : SectionKey)
  | declare (owner : SectionKey) (declaration : Declaration ι)

/-- The section that a declaration leads to: the target of a nested section, provided
that an identifier can spell the tag. -/
def Declaration.leadsTo? {ι : Type} (declaration : Declaration ι) : Option SectionKey :=
  if isValidTag declaration.tag then declaration.kind.target? else none

namespace Atlas

variable {ι : Type}

def declarations (atlas : Atlas ι) (key : SectionKey) : List (Declaration ι) :=
  (atlas.pages.get? key).getD []

def unvisited (atlas : Atlas ι) (visited : List SectionKey) : List SectionKey :=
  atlas.pages.keys.filter fun key => key ∉ visited

/-- How many events pending events can still bring without entering a listed section: a
declaration itself, and entering the section it leads to. -/
def weight : List (Event ι) → Nat
  | [] => 0
  | .enter _ :: pending => weight pending + 1
  | .declare _ _ :: pending => weight pending + 2

theorem weight_lt_enter (key : SectionKey) (pending : List (Event ι)) :
    weight pending < weight (.enter key :: pending) :=
  Nat.lt_succ_self _

theorem weight_lt_declare
    (owner : SectionKey) (declaration : Declaration ι) (pending : List (Event ι)) :
    weight pending < weight (.declare owner declaration :: pending) :=
  Nat.lt_add_of_pos_right (Nat.succ_pos 1)

theorem weight_enter_lt_declare
    (key owner : SectionKey) (declaration : Declaration ι) (pending : List (Event ι)) :
    weight (.enter key :: pending) < weight (.declare owner declaration :: pending) :=
  Nat.lt_succ_self _

theorem unvisited_cons (atlas : Atlas ι) (key : SectionKey) (visited : List SectionKey) :
    atlas.unvisited (key :: visited) =
      (atlas.unvisited visited).filter fun other => other ≠ key := by
  simp only [unvisited, List.filter_filter, List.mem_cons, not_or]
  congr 1
  funext other
  simp

theorem declarations_eq_nil_of_unlisted
    (atlas : Atlas ι) {key : SectionKey} (unlisted : key ∉ atlas.pages.keys) :
    atlas.declarations key = [] := by
  simp [declarations, (atlas.pages.get?_eq_none_iff key).2 unlisted]

theorem unvisited_cons_length_lt
    (atlas : Atlas ι) {key : SectionKey} {visited : List SectionKey}
    (listed : key ∈ atlas.pages.keys) (fresh : key ∉ visited) :
    (atlas.unvisited (key :: visited)).length < (atlas.unvisited visited).length := by
  rw [unvisited_cons, List.length_filter_lt_length_iff_exists]
  exact ⟨key, by simp [unvisited, listed, fresh], by simp⟩

theorem unvisited_cons_of_unlisted
    (atlas : Atlas ι) {key : SectionKey} {visited : List SectionKey}
    (unlisted : key ∉ atlas.pages.keys) :
    atlas.unvisited (key :: visited) = atlas.unvisited visited := by
  rw [unvisited_cons, List.filter_eq_self]
  intro other member
  simp only [unvisited, List.mem_filter] at member
  simp only [ne_eq, decide_not, Bool.not_eq_eq_eq_not, Bool.not_true, decide_eq_false_iff_not]
  intro equality
  exact unlisted (equality ▸ member.1)

/-- Entering a section for the first time leaves fewer sections to enter, or the section
is not listed and brings nothing. -/
theorem entering_decreases
    (atlas : Atlas ι) {key : SectionKey} {visited : List SectionKey}
    (pending : List (Event ι)) (fresh : key ∉ visited) :
    Prod.Lex Nat.lt Nat.lt
      ((atlas.unvisited (key :: visited)).length,
        weight ((atlas.declarations key).map (.declare key) ++ pending))
      ((atlas.unvisited visited).length, weight (.enter key :: pending)) := by
  by_cases listed : key ∈ atlas.pages.keys
  · exact Prod.Lex.left _ _ (atlas.unvisited_cons_length_lt listed fresh)
  · rw [atlas.unvisited_cons_of_unlisted listed, atlas.declarations_eq_nil_of_unlisted listed]
    exact Prod.Lex.right _ (weight_lt_enter key pending)

/-- The events that pending events bring, given the sections entered before. Entering
a section again brings nothing. -/
def eventsFrom (atlas : Atlas ι) (visited : List SectionKey) : List (Event ι) → List (Event ι)
  | [] => []
  | .enter key :: pending =>
    if key ∈ visited then
      atlas.eventsFrom visited pending
    else
      .enter key ::
        atlas.eventsFrom (key :: visited) ((atlas.declarations key).map (.declare key) ++ pending)
  | .declare owner declaration :: pending =>
    .declare owner declaration ::
      match declaration.leadsTo? with
      | some target => atlas.eventsFrom visited (.enter target :: pending)
      | none => atlas.eventsFrom visited pending
termination_by pending => ((atlas.unvisited visited).length, weight pending)
decreasing_by
  · exact Prod.Lex.right _ (weight_lt_enter _ _)
  · next fresh => exact atlas.entering_decreases pending fresh
  · exact Prod.Lex.right _ (weight_enter_lt_declare _ _ _ _)
  · exact Prod.Lex.right _ (weight_lt_declare _ _ _)

def itinerary (atlas : Atlas ι) (root : SectionKey) : List (Event ι) :=
  atlas.eventsFrom [] [.enter root]

end Atlas

end Waymark
