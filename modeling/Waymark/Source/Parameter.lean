import Waymark.Source.Attribute
import Waymark.Source.TypeExpr

/-!
# Parameters of source code

Parameters of methods with their patterns and types, and the receiver in front of them.
-/

namespace Waymark.Source

inductive Pattern where
  /-- A name, perhaps by reference or mutable, perhaps with a pattern behind it. -/
  | binding (byReference isMutable : Bool) (name : String) (inner : Option (List Token))
  | other (tokens : List Token)
  deriving DecidableEq, Repr

def Pattern.ofTrees (trees : List Tree) : Pattern :=
  let (byReference, rest) := Tree.skipName "ref" trees
  let (isMutable, rest) := Tree.skipName "mut" rest
  match rest with
  | .leaf (.name name) :: inner =>
    if isFreeName name then
      match inner with
      | [] => binding byReference isMutable name none
      | .mark '@' _ :: inner =>
        binding byReference isMutable name (some (Tree.tokensAll inner))
      | _ => other (Tree.tokensAll trees)
    else
      other (Tree.tokensAll trees)
  | _ => other (Tree.tokensAll trees)

/-- How a receiver is taken: as it is, behind a reference sign, or as a given type. -/
inductive ReceiverForm where
  | value (isMutable : Bool)
  | reference (lifetime : Option String) (isMutable : Bool)
  | typed (isMutable : Bool) (type : List Token)
  deriving DecidableEq, Repr

namespace ReceiverForm

def unsigned? (trees : List Tree) : Option ReceiverForm :=
  let (isMutable, rest) := Tree.skipName "mut" trees
  match rest with
  | [.leaf (.name "self")] => some (.value isMutable)
  | .leaf (.name "self") :: .mark ':' _ :: type =>
    some (.typed isMutable (Tree.tokensAll type))
  | _ => none

def referenced? (lifetime : Option String) (trees : List Tree) : Option ReceiverForm :=
  let (isMutable, rest) := Tree.skipName "mut" trees
  match rest with
  | [.leaf (.name "self")] => some (.reference lifetime isMutable)
  | _ => none

def ofTrees? : List Tree → Option ReceiverForm
  | .mark '&' _ :: .leaf (.lifetime lifetime) :: rest => referenced? (some lifetime) rest
  | .mark '&' _ :: rest => referenced? none rest
  | trees => unsigned? trees

/-- Whether a receiver is a shared reference written with the reference sign. -/
def isShared : ReceiverForm → Bool
  | .reference _ isMutable => !isMutable
  | .value _ | .typed _ _ => false

end ReceiverForm

structure Receiver where
  attributes : List Attribute := []
  form : ReceiverForm
  deriving DecidableEq, Repr

def Receiver.ofTrees? (trees : List Tree) : Option Receiver :=
  match Attribute.takeAll? trees with
  | some (attributes, rest) => (ReceiverForm.ofTrees? rest).map (⟨attributes, ·⟩)
  | none => none

structure MethodParameter where
  attributes : List Attribute
  pattern : Pattern
  type : TypeExpr
  deriving DecidableEq, Repr

namespace MethodParameter

/-- The trees in front of the first colon that is not half of a double one, and those
behind it. -/
def splitColon? : List Tree → Option (List Tree × List Tree)
  | [] => none
  | .mark ':' true :: .mark ':' joint :: rest =>
    (splitColon? rest).map fun (front, rest) =>
      (.mark ':' true :: .mark ':' joint :: front, rest)
  | tree :: rest =>
    if tree.isMark ':' then some ([], rest)
    else (splitColon? rest).map fun (front, rest) => (tree :: front, rest)

def ofTrees? (trees : List Tree) : Option MethodParameter :=
  match Attribute.takeAll? trees with
  | some (attributes, rest) =>
    (splitColon? rest).map fun (pattern, type) =>
      ⟨attributes, .ofTrees pattern, .ofTrees type⟩
  | none => none

def listOfTrees? : List (List Tree) → Option (Option Receiver × List MethodParameter)
  | [] => some (none, [])
  | first :: rest =>
    match Receiver.ofTrees? first with
    | some receiver => (rest.mapM ofTrees?).map ((some receiver, ·))
    | none => ((first :: rest).mapM ofTrees?).map ((none, ·))

end MethodParameter

end Waymark.Source
