import Waymark.Source.Lexeme.Reader
import Waymark.Source.Parameter

/-!
# Impl blocks

Impl blocks with their methods, as far as labels depend on them. `ImplBlock.ofText?` reads
a block; bodies, visibilities and other items are carried along as tokens.
-/

namespace Waymark.Source

/-- A method; generic parameters are tokens each. The qualifiers stand in front of the
word `fn`. The inner attributes at the front of the body are among the attributes, behind
the others. -/
structure Method where
  attributes : List Attribute
  qualifiers : List Token := []
  name : String
  generics : List (List Token) := []
  receiver : Option Receiver
  parameters : List MethodParameter
  output : Option TypeExpr
  bounds : List Token := []
  body : List Token := []
  deriving DecidableEq, Repr

namespace Method

/-- Whether a tree can stand in front of the word `fn`: a visibility, a word on how the
method is called, or the name of a calling convention. -/
def isQualifier : Tree → Bool
  | .leaf (.name word) =>
    ["pub", "default", "const", "async", "unsafe", "extern"].contains word
  | .leaf (.text _) => true
  | tree => tree.isGroup .round

def takeGenerics (trees : List Tree) : List (List Token) × List Tree :=
  match Tree.takeAngles? trees with
  | some (inner, rest) => ((Tree.listed inner).map Tree.tokensAll, rest)
  | none => ([], trees)

def outputOfTrees? : List Tree → Option TypeExpr
  | .mark '-' true :: .mark '>' _ :: type => some (.ofTrees type)
  | _ => none

def bodyOfTrees? (trees : List Tree) : Option (List Attribute × List Token) :=
  match trees.getLast? with
  | some (.group .curly inner) =>
    (Attribute.takeInner? inner).map fun (attributes, rest) =>
      (attributes, Token.braced (Tree.tokensAll rest))
  | _ => none

/-- The method that trees behind its attributes are. Without a body it is none. -/
def ofTrees? (attributes : List Attribute) (trees : List Tree) : Option Method :=
  match trees.dropWhile isQualifier with
  | .leaf (.name "fn") :: .leaf (.name name) :: rest =>
    let (generics, rest) := takeGenerics rest
    match rest with
    | .group .round inner :: rest =>
      let (output, bounds) := Tree.spanOutside (Tree.isName "where") rest.dropLast
      match MethodParameter.listOfTrees? (Tree.listed inner), bodyOfTrees? rest with
      | some (receiver, parameters), some (innerAttributes, body) =>
        some { name, generics, receiver, parameters, body
               attributes := attributes ++ innerAttributes
               qualifiers := Tree.tokensAll (trees.takeWhile isQualifier)
               output := outputOfTrees? output
               bounds := Tree.tokensAll bounds }
      | _, _ => none
    | _ => none
  | _ => none

end Method

inductive Item where
  | method (method : Method)
  | other (attributes : List Attribute) (tokens : List Token)
  deriving DecidableEq, Repr

namespace Item

def ofTrees? (trees : List Tree) : Option Item :=
  (Attribute.takeAll? trees).map fun (attributes, rest) =>
    match Method.ofTrees? attributes rest with
    | some declared => .method declared
    | none => .other attributes (Tree.tokensAll rest)

/-- Cuts trees into items. An item ends at a semicolon or with a group in braces, the
latter only if nothing is assigned, outside angle brackets each time. `item` is what the
item at hand has so far, last first. -/
def splitEntries (isAssigned : Bool) (item : List Tree) : List (Bool × Tree) → List (List Tree)
  | [] => if item.isEmpty then [] else [item.reverse]
  | (isOutside, tree) :: rest =>
    if isOutside && (tree.isMark ';' || (tree.isGroup .curly && !isAssigned)) then
      (tree :: item).reverse :: splitEntries false [] rest
    else
      splitEntries (isAssigned || (isOutside && tree.isMark '=')) (tree :: item) rest

def listOfTrees? (trees : List Tree) : Option (List Item) :=
  (splitEntries false [] (Tree.withOutside 0 trees)).mapM ofTrees?

end Item

/-- An impl block, of a trait or of the type itself. The inner attributes at the front of its
items are among the attributes, behind the others. -/
structure ImplBlock where
  attributes : List Attribute := []
  isDefault : Bool := false
  isUnsafe : Bool := false
  implemented : Option TypeExpr := none
  generics : List (List Token) := []
  selfType : TypeExpr
  bounds : List Token := []
  items : List Item
  deriving DecidableEq, Repr

namespace ImplBlock

/-- The generic parameters behind the word `impl`, and the trees behind them. A type in
angle brackets that a name is looked up in may stand there instead. -/
def takeGenerics (trees : List Tree) : List (List Token) × List Tree :=
  if (Grammar.read Grammar.opensGenerics trees).isSome then Method.takeGenerics trees
  else ([], trees)

def takeTrait? (trees : List Tree) : Option (List Tree × List Tree) :=
  match Grammar.read (Form.maybe Grammar.negation ++ Grammar.type) trees with
  | some (_, .leaf (.name "for") :: selfType) =>
    some (trees.take (trees.length - (selfType.length + 1)), selfType)
  | _ => none

def heading (trees : List Tree) : Option TypeExpr × TypeExpr :=
  match takeTrait? trees with
  | some (implemented, selfType) => (some (.ofTrees implemented), .ofTrees selfType)
  | none => (none, .ofTrees trees)

def contentOfTrees? (trees : List Tree) : Option (List Attribute × List Item) :=
  match trees.getLast? with
  | some (.group .curly inner) =>
    match Attribute.takeInner? inner with
    | some (attributes, rest) => (Item.listOfTrees? rest).map (attributes, ·)
    | none => none
  | _ => none

def behindWord? (trees : List Tree) : Option ImplBlock :=
  let (generics, rest) := takeGenerics trees
  let (front, bounds) := Tree.spanOutside (Tree.isName "where") rest.dropLast
  let (implemented, selfType) := heading front
  (contentOfTrees? rest).map fun (attributes, items) =>
    { attributes, implemented, generics, selfType, items, bounds := Tree.tokensAll bounds }

def ofTrees? (trees : List Tree) : Option ImplBlock :=
  match Attribute.takeAll? trees with
  | some (attributes, rest) =>
    let (isDefault, rest) := Tree.skipName "default" rest
    let (isUnsafe, rest) := Tree.skipName "unsafe" rest
    match rest with
    | .leaf (.name "impl") :: rest =>
      (behindWord? rest).map fun block =>
        { block with attributes := attributes ++ block.attributes, isDefault, isUnsafe }
    | _ => none
  | none => none

def ofText? (text : String) : Option ImplBlock :=
  match (lexemes? text).bind Tree.ofLexemes? with
  | some trees => ofTrees? trees
  | none => none

def methods (block : ImplBlock) : List Method :=
  block.items.filterMap fun item =>
    match item with
    | .method method => some method
    | .other _ _ => none

end ImplBlock

end Waymark.Source
