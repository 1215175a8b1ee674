import Waymark.Source.Tree

/-!
# Forms

A form says what trees may stand in a place and how they are spelled there. Forms are
built from single trees and marks by sequence, ordered choice and repetition, and may
name rules, whose forms a grammar gives. `Form.read` takes what a form accepts from the
front of trees.
-/

namespace Waymark.Source

/-- What may stand in a place, and its spelling. -/
inductive Form (Rule : Type) where
  | empty
  /-- One tree, spelled as the function says if that gives a spelling. -/
  | one (spelling : Tree → Option (List Token))
  /-- Marks without blanks between them. -/
  | marks (word : List Char)
  | group (bracket : Bracket) (inner : Form Rule)
  | rule (name : Rule)
  | sequence (first second : Form Rule)
  | choice (first second : Form Rule)
  | many (item : Form Rule)
  /-- Nothing, in front of what a form accepts. -/
  | ahead (next : Form Rule)
  /-- Nothing, in front of what a form does not accept. -/
  | absent (next : Form Rule)
  /-- What a form accepts, spelled as it is written. -/
  | verbatim (form : Form Rule)
  /-- What a form accepts, not spelled at all. -/
  | silent (form : Form Rule)
  /-- Nothing, spelled as the given tokens. -/
  | unwritten (tokens : List Token)
  /-- Items up to a closing angle bracket, with commas between them. Lifetimes come first
  in the spelling. -/
  | lifetimesFirst (lifetime other : Form Rule)

structure AngleItem where
  isLifetime : Bool
  tokens : List Token
  hasComma : Bool

def AngleItem.withComma (isLifetime : Bool) (tokens : List Token) (rest : List Tree) :
    AngleItem × List Tree :=
  match Tree.skipMarks? [','] rest with
  | some rest => (⟨isLifetime, tokens, true⟩, rest)
  | none => (⟨isLifetime, tokens, false⟩, rest)

/-- The spelling of items: there is a comma between two of them, and one behind the last
if that has one where it is written. -/
def AngleItem.spelled : List AngleItem → List Token
  | [] => []
  | [item] => item.tokens ++ if item.hasComma then [.mark ","] else []
  | item :: rest => item.tokens ++ .mark "," :: spelled rest

def AngleItem.lifetimesFirst (items : List AngleItem) : List Token :=
  spelled (items.filter (·.isLifetime) ++ items.filter fun item => !item.isLifetime)

namespace Form

variable {Rule : Type}

instance : Append (Form Rule) := ⟨sequence⟩

instance : OrElse (Form Rule) := ⟨fun first second => choice first (second ())⟩

def maybe (form : Form Rule) : Form Rule := form <|> empty

def separated (word : String) (item : Form Rule) : Form Rule :=
  item ++ many (marks word.toList ++ item)

def listed (word : String) (item : Form Rule) : Form Rule :=
  maybe (separated word item ++ maybe (marks word.toList))

mutual

/-- Takes what a form accepts from the front of trees: its spelling and the trees behind
it. Every step takes one of `fuel`; without any, nothing is accepted. -/
def readWith (grammar : Rule → Form Rule) :
    Nat → Form Rule → List Tree → Option (List Token × List Tree)
  | 0, _, _ => none
  | fuel + 1, form, trees =>
    match form with
    | empty => some ([], trees)
    | one spelling =>
      match trees with
      | tree :: rest => (spelling tree).map (·, rest)
      | [] => none
    | marks word =>
      (Tree.skipMarks? word trees).map (Lexeme.tokens (word.map (.mark · true)), ·)
    | group bracket inner =>
      match trees with
      | .group found contents :: rest =>
        if found = bracket then
          match readWith grammar fuel inner contents with
          | some (tokens, []) => some (bracket.around tokens, rest)
          | _ => none
        else none
      | _ => none
    | rule name => readWith grammar fuel (grammar name) trees
    | sequence first second =>
      match readWith grammar fuel first trees with
      | some (front, rest) =>
        (readWith grammar fuel second rest).map fun (back, rest) => (front ++ back, rest)
      | none => none
    | choice first second =>
      match readWith grammar fuel first trees with
      | some result => some result
      | none => readWith grammar fuel second trees
    | many item =>
      match readWith grammar fuel item trees with
      | some (front, rest) =>
        if rest.length < trees.length then
          (readWith grammar fuel (many item) rest).map fun (back, rest) => (front ++ back, rest)
        else some ([], trees)
      | none => some ([], trees)
    | ahead next => (readWith grammar fuel next trees).map fun _ => ([], trees)
    | absent next => if (readWith grammar fuel next trees).isSome then none else some ([], trees)
    | verbatim form =>
      (readWith grammar fuel form trees).map fun (_, rest) =>
        (Tree.tokensAll (trees.take (trees.length - rest.length)), rest)
    | silent form => (readWith grammar fuel form trees).map fun (_, rest) => ([], rest)
    | unwritten tokens => some (tokens, trees)
    | lifetimesFirst lifetime other =>
      (readItemsWith grammar fuel lifetime other trees).map fun (items, rest) =>
        (AngleItem.lifetimesFirst items, rest)

def readItemsWith (grammar : Rule → Form Rule) :
    Nat → Form Rule → Form Rule → List Tree → Option (List AngleItem × List Tree)
  | 0, _, _, _ => none
  | fuel + 1, lifetime, other, trees =>
    if trees.head?.any (Tree.isMark '>') then some ([], trees)
    else
      match readItemWith grammar fuel lifetime other trees with
      | some (item, rest) =>
        if item.hasComma then
          (readItemsWith grammar fuel lifetime other rest).map fun (items, rest) =>
            (item :: items, rest)
        else some ([item], rest)
      | none => none

def readItemWith (grammar : Rule → Form Rule) :
    Nat → Form Rule → Form Rule → List Tree → Option (AngleItem × List Tree)
  | 0, _, _, _ => none
  | fuel + 1, lifetime, other, trees =>
    match readWith grammar fuel lifetime trees with
    | some (tokens, rest) => some (AngleItem.withComma true tokens rest)
    | none =>
      (readWith grammar fuel other trees).map fun (tokens, rest) =>
        AngleItem.withComma false tokens rest

end

/-- Takes what a form accepts from the front of trees: its spelling and the trees behind
it. There is fuel for a thousand steps for each tree. -/
def read (form : Form Rule) (grammar : Rule → Form Rule) (trees : List Tree) :
    Option (List Token × List Tree) :=
  readWith grammar (1000 * (Tree.sizeAll trees + 1)) form trees

end Form

end Waymark.Source
