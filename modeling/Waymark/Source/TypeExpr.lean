import Waymark.Source.Grammar

/-!
# Types of source code

Types as far as impl blocks show them. `TypeExpr.ofTrees` reads a type and spells anew
what is in it, and `tokens` writes it.
-/

namespace Waymark.Source

structure PathSegment where
  name : String
  arguments : List Token := []
  deriving DecidableEq, Repr

/-- What a qualified name starts from: what is in scope, the root, or what stands in angle
brackets and it is looked up in. -/
inductive PathStart where
  | relative
  | absolute
  | inside (qualifier : List Token)
  deriving DecidableEq, Repr

/-- A qualified name of a type. Behind the last segment may stand a signature: arguments in
parentheses and what a function gives for them. -/
structure TypePath where
  start : PathStart
  segments : List PathSegment
  signature : List Token := []
  deriving DecidableEq, Repr

namespace PathSegment

def tokens (segment : PathSegment) : List Token := .name segment.name :: segment.arguments

def takeFurther (trees : List Tree) : List PathSegment × List Tree :=
  match Grammar.read (Grammar.doubleColon ++ Grammar.typeSegment) trees with
  | some (_ :: .name name :: arguments, rest) =>
    if _shorter : rest.length < trees.length then
      let (segments, rest) := takeFurther rest
      (⟨name, arguments⟩ :: segments, rest)
    else ([], trees)
  | _ => ([], trees)
termination_by trees.length

end PathSegment

def PathStart.tokens : PathStart → List Token
  | .relative => []
  | .absolute => [.mark "::"]
  | .inside qualifier => qualifier ++ [.mark "::"]

namespace TypePath

def tokens (path : TypePath) : List Token :=
  path.start.tokens ++
    ((path.segments.map PathSegment.tokens).intersperse [.mark "::"]).flatten ++ path.signature

def last? (path : TypePath) : Option String := path.segments.getLast?.map PathSegment.name

def takeSegments (trees : List Tree) : PathStart × List PathSegment × List Tree :=
  match Grammar.read Grammar.qualifier trees with
  | some (qualifier, rest) => (.inside qualifier, PathSegment.takeFurther rest)
  | none =>
    match Grammar.read Grammar.firstSegment trees with
    | some (.name name :: arguments, rest) =>
      let (segments, rest) := PathSegment.takeFurther rest
      (.relative, ⟨name, arguments⟩ :: segments, rest)
    | _ => (.absolute, PathSegment.takeFurther trees)

def ofTrees? (trees : List Tree) : Option TypePath :=
  let (start, segments, rest) := takeSegments trees
  if segments.isEmpty then none
  else if rest.isEmpty then some ⟨start, segments, []⟩
  else
    match Grammar.read Grammar.functionArguments rest with
    | some (signature, []) => some ⟨start, segments, signature⟩
    | _ => none

end TypePath

inductive TypeExpr where
  | named (path : TypePath)
  | reference (lifetime : Option String) (isMutable : Bool) (target : TypeExpr)
  | slice (item : List Token)
  /-- An item and a length with a semicolon between them. -/
  | array (inner : List Token)
  /-- Any other type: a tuple, a type in parentheses, bounds, and so on. -/
  | other (tokens : List Token)
  deriving DecidableEq, Repr

namespace TypeExpr

def tokens : TypeExpr → List Token
  | named path => path.tokens
  | reference lifetime isMutable target =>
    .mark "&" :: ((lifetime.map Token.lifetime).toList ++
      (if isMutable then [.name "mut"] else []) ++ target.tokens)
  | slice inner | array inner => Token.bracketed inner
  | other tokens => tokens

def ofUnsigned : List Tree → TypeExpr
  | [.group .square inner] =>
    let tokens := Grammar.spell Grammar.sliceContent inner
    if inner.any (Tree.isMark ';') then array tokens else slice tokens
  | trees =>
    match TypePath.ofTrees? trees with
    | some path => named path
    | none => other (Grammar.spell Grammar.type trees)

def ofTrees : List Tree → TypeExpr
  | .mark '&' _ :: .leaf (.lifetime lifetime) :: .leaf (.name "mut") :: rest =>
    reference (some lifetime) true (ofTrees rest)
  | .mark '&' _ :: .leaf (.lifetime lifetime) :: rest =>
    reference (some lifetime) false (ofTrees rest)
  | .mark '&' _ :: .leaf (.name "mut") :: rest => reference none true (ofTrees rest)
  | .mark '&' _ :: rest => reference none false (ofTrees rest)
  | trees => ofUnsigned trees

def lastSegment? : TypeExpr → Option String
  | named path => path.last?
  | _ => none

/-- Whether a type is a qualified name, not looked up in a type, that ends in the given
segment. -/
def endsIn (type : TypeExpr) (wanted : String) : Bool :=
  match type with
  | named ⟨.inside _, _, _⟩ => false
  | named path => path.last? = some wanted
  | _ => false

end TypeExpr

end Waymark.Source
