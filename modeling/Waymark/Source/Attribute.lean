import Waymark.Source.Tree

/-!
# Attributes of source code

What stands in square brackets behind a hash, in front of a block, a method or a parameter.
With an exclamation mark behind the hash it stands inside the block or the body.
-/

namespace Waymark.Source

/-- The name of an attribute; it is absolute if it starts with a double colon. -/
structure AttributeName where
  isAbsolute : Bool
  segments : List String
  deriving DecidableEq, Repr

namespace AttributeName

def written (name : AttributeName) : String := String.intercalate "::" name.segments

def segmentsOfTrees? : List Tree → Option (List String)
  | [.leaf (.name name)] => some [name]
  | .leaf (.name name) :: .mark ':' true :: .mark ':' _ :: rest =>
    (segmentsOfTrees? rest).map (name :: ·)
  | _ => none

def ofTrees? : List Tree → Option AttributeName
  | .mark ':' true :: .mark ':' _ :: rest => (segmentsOfTrees? rest).map (⟨true, ·⟩)
  | trees => (segmentsOfTrees? trees).map (⟨false, ·⟩)

end AttributeName

inductive AttributeArguments where
  | absent
  | assigned (value : List Token)
  | grouped (bracket : Bracket) (tokens : List Token)
  deriving DecidableEq, Repr

namespace AttributeArguments

def ofTrees? : List Tree → Option AttributeArguments
  | [] => some .absent
  | [.group bracket inner] => some (.grouped bracket (Tree.tokensAll inner))
  | tree :: rest => if tree.isMark '=' then some (.assigned (Tree.tokensAll rest)) else none

end AttributeArguments

structure Attribute where
  name : AttributeName
  arguments : AttributeArguments
  isInner : Bool := false
  deriving DecidableEq, Repr

namespace Attribute

def labelName : AttributeName := ⟨false, ["label"]⟩

def isLabel (attr : Attribute) : Bool := attr.name = labelName

def isNamePart : Tree → Bool
  | .leaf (.name _) => true
  | tree => tree.isMark ':'

def ofTrees? (isInner : Bool) (trees : List Tree) : Option Attribute :=
  match AttributeName.ofTrees? (trees.takeWhile isNamePart),
    AttributeArguments.ofTrees? (trees.dropWhile isNamePart) with
  | some name, some arguments => some ⟨name, arguments, isInner⟩
  | _, _ => none

/-- The attributes at the front of trees, and the trees behind them. -/
def takeAll? : List Tree → Option (List Attribute × List Tree)
  | .mark '#' _ :: .group .square inner :: rest =>
    match ofTrees? false inner, takeAll? rest with
    | some attr, some (attributes, rest) => some (attr :: attributes, rest)
    | _, _ => none
  | trees => some ([], trees)

def takeInner? : List Tree → Option (List Attribute × List Tree)
  | .mark '#' _ :: .mark '!' _ :: .group .square inner :: rest =>
    match ofTrees? true inner, takeInner? rest with
    | some attr, some (attributes, rest) => some (attr :: attributes, rest)
    | _, _ => none
  | trees => some ([], trees)

end Attribute

end Waymark.Source
