import Waymark.Source.Lexeme

/-!
# Token trees

Lexemes with what stands between brackets grouped. Main statement: grouping loses nothing
(`lexemesAll_of_ofLexemes?`). Angle brackets are marks like others; `parts` and
`takeAngles?` look at rows of trees with regard to them.
-/

namespace Waymark.Source

/-- A lexeme that is no bracket, or a group in brackets. -/
inductive Tree where
  | leaf (token : Token)
  | mark (character : Char) (isJoint : Bool)
  | group (bracket : Bracket) (inner : List Tree)

namespace Tree

mutual

def lexemes : Tree → List Lexeme
  | leaf token => [.token token]
  | mark character isJoint => [.mark character isJoint]
  | group bracket inner => .opening bracket :: (lexemesAll inner ++ [.closing bracket])

def lexemesAll : List Tree → List Lexeme
  | [] => []
  | tree :: rest => tree.lexemes ++ lexemesAll rest

end

def tokensAll (trees : List Tree) : List Token := Lexeme.tokens (lexemesAll trees)

mutual

def size : Tree → Nat
  | leaf _ => 1
  | mark _ _ => 1
  | group _ inner => sizeAll inner + 1

def sizeAll : List Tree → Nat
  | [] => 0
  | tree :: rest => tree.size + sizeAll rest

end

/-! ## Grouping -/

/-- Lexemes that have been grouped so far: the trees in the innermost open group, and the
open groups from the inside out, each with the trees in front of it. All rows of trees
are last first. -/
structure Nesting where
  trees : List Tree
  outer : List (Bracket × List Tree)

namespace Nesting

def push (tree : Tree) (nesting : Nesting) : Nesting :=
  { nesting with trees := tree :: nesting.trees }

def close? (bracket : Bracket) (nesting : Nesting) : Option Nesting :=
  match nesting.outer with
  | (opened, before) :: outer =>
    if opened = bracket then some ⟨group bracket nesting.trees.reverse :: before, outer⟩
    else none
  | [] => none

/-- Takes one more lexeme; none if it closes what has not been opened. -/
def take? (nesting : Nesting) : Lexeme → Option Nesting
  | .token token => some (nesting.push (leaf token))
  | .mark character isJoint => some (nesting.push (mark character isJoint))
  | .opening bracket => some ⟨[], (bracket, nesting.trees) :: nesting.outer⟩
  | .closing bracket => nesting.close? bracket

end Nesting

def ofLexemes? (lexemes : List Lexeme) : Option (List Tree) :=
  match lexemes.foldlM Nesting.take? ⟨[], []⟩ with
  | some ⟨trees, []⟩ => some trees.reverse
  | _ => none

/-! ## Grouping keeps the lexemes -/

theorem lexemesAll_append (front rest : List Tree) :
    lexemesAll (front ++ rest) = lexemesAll front ++ lexemesAll rest := by
  induction front with
  | nil => rfl
  | cons tree front inductionHypothesis =>
    simp only [List.cons_append, lexemesAll, inductionHypothesis, List.append_assoc]

namespace Nesting

def outerLexemes : List (Bracket × List Tree) → List Lexeme
  | [] => []
  | (bracket, before) :: outer =>
    outerLexemes outer ++ lexemesAll before.reverse ++ [.opening bracket]

def lexemes (nesting : Nesting) : List Lexeme :=
  outerLexemes nesting.outer ++ lexemesAll nesting.trees.reverse

theorem lexemes_push (tree : Tree) (nesting : Nesting) :
    (nesting.push tree).lexemes = nesting.lexemes ++ tree.lexemes := by
  simp [lexemes, push, lexemesAll_append, lexemesAll]

theorem lexemes_of_close? {bracket : Bracket} {nesting closed : Nesting}
    (closes : nesting.close? bracket = some closed) :
    closed.lexemes = nesting.lexemes ++ [.closing bracket] := by
  unfold close? at closes
  split at closes
  · rename_i opened before outer equality
    split at closes
    · rename_i same
      cases closes
      subst same
      simp [lexemes, equality, outerLexemes, lexemesAll_append, lexemesAll, Tree.lexemes]
    · cases closes
  · cases closes

theorem lexemes_of_take? {nesting taken : Nesting} {lexeme : Lexeme}
    (takes : nesting.take? lexeme = some taken) :
    taken.lexemes = nesting.lexemes ++ [lexeme] := by
  cases lexeme with
  | token token =>
    cases takes
    simp [lexemes_push, Tree.lexemes]
  | mark character isJoint =>
    cases takes
    simp [lexemes_push, Tree.lexemes]
  | opening bracket =>
    cases takes
    simp [lexemes, outerLexemes, lexemesAll]
  | closing bracket => exact lexemes_of_close? takes

theorem lexemes_of_foldlM_take? {nesting taken : Nesting} {rest : List Lexeme}
    (takes : rest.foldlM take? nesting = some taken) :
    taken.lexemes = nesting.lexemes ++ rest := by
  induction rest generalizing nesting with
  | nil =>
    cases takes
    simp
  | cons lexeme rest inductionHypothesis =>
    rw [List.foldlM_cons] at takes
    cases first : nesting.take? lexeme with
    | none => simp [first] at takes
    | some next =>
      simp only [first, Option.bind_eq_bind, Option.bind_some] at takes
      rw [inductionHypothesis takes, lexemes_of_take? first]
      simp

end Nesting

/-- Grouping loses nothing: the trees of lexemes have these lexemes. -/
theorem lexemesAll_of_ofLexemes? {lexemes : List Lexeme} {trees : List Tree}
    (grouped : ofLexemes? lexemes = some trees) : lexemesAll trees = lexemes := by
  unfold ofLexemes? at grouped
  split at grouped
  · rename_i inner takes
    cases grouped
    have kept := Nesting.lexemes_of_foldlM_take? takes
    simpa [Nesting.lexemes, Nesting.outerLexemes, lexemesAll] using kept
  · cases grouped

/-! ## Looking at trees -/

def isMark (wanted : Char) : Tree → Bool
  | mark character _ => character = wanted
  | _ => false

def isName (word : String) : Tree → Bool
  | leaf (.name name) => name = word
  | _ => false

def isGroup (wanted : Bracket) : Tree → Bool
  | group bracket _ => bracket = wanted
  | _ => false

/-- The trees behind a word, if they start with it, and whether they do. -/
def skipName (word : String) : List Tree → Bool × List Tree
  | [] => (false, [])
  | tree :: rest => if tree.isName word then (true, rest) else (false, tree :: rest)

def skipMarks? : List Char → List Tree → Option (List Tree)
  | [], trees => some trees
  | [wanted], mark character _ :: rest => if character = wanted then some rest else none
  | wanted :: word, mark character true :: rest =>
    if character = wanted then skipMarks? word rest else none
  | _ :: _, _ => none

/-! ## Angle brackets -/

/-- Trees, each with whether it stands outside all angle brackets; `depth` of them are
open in front. The mark in an arrow closes none. -/
def withOutside (depth : Nat) : List Tree → List (Bool × Tree)
  | [] => []
  | mark '-' true :: mark '>' isJoint :: rest =>
    (depth = 0, mark '-' true) :: (depth = 0, mark '>' isJoint) :: withOutside depth rest
  | tree :: rest =>
    if tree.isMark '<' then (depth = 0, tree) :: withOutside (depth + 1) rest
    else if tree.isMark '>' then (depth ≤ 1, tree) :: withOutside (depth - 1) rest
    else (depth = 0, tree) :: withOutside depth rest

/-- The trees in front of the first one outside angle brackets that `stops` accepts, and
the others. -/
def spanOutside (stops : Tree → Bool) (trees : List Tree) : List Tree × List Tree :=
  let continues := fun entry : Bool × Tree => !(entry.1 && stops entry.2)
  let entries := withOutside 0 trees
  ((entries.takeWhile continues).map (·.2), (entries.dropWhile continues).map (·.2))

def takeAngles? : List Tree → Option (List Tree × List Tree)
  | tree :: rest =>
    if tree.isMark '<' then
      let entries := withOutside 1 rest
      let isInside := fun entry : Bool × Tree => !entry.1
      some ((entries.takeWhile isInside).map (·.2),
        ((entries.dropWhile isInside).drop 1).map (·.2))
    else none
  | [] => none

/-- The parts of trees between commas outside angle brackets, also the empty ones. -/
def parts (trees : List Tree) : List (List Tree) :=
  (withOutside 0 trees).foldr
    (fun (isOutside, tree) parts =>
      if isOutside && tree.isMark ',' then [] :: parts
      else
        match parts with
        | part :: others => (tree :: part) :: others
        | [] => [[tree]])
    [[]]

def listed (trees : List Tree) : List (List Tree) :=
  (parts trees).filter fun part => !part.isEmpty

end Tree

end Waymark.Source
