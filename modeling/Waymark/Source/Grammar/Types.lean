import Waymark.Source.Grammar.Basic

/-!
# Types

The forms of types, of their arguments and bounds, and of generic parameters.
-/

namespace Waymark.Source.Grammar

open Form

/-! ## Names of types -/

def argumentSegment : Clause := nameIf fun word => isFreeName word || word = "Self"

def moduleSegment : Clause := nameIf fun word => ["super", "self", "crate", "try"].contains word

def typeSegment : Clause :=
  moduleSegment <|>
    argumentSegment ++
      maybe (absent (mark "<=") ++ rule .arguments <|> doubleColon ++ rule .arguments)

def firstSegment : Clause := ahead (nameIf isSegmentName) ++ typeSegment

def qualifier : Clause :=
  mark "<" ++ type ++ maybe (word "as" ++ pathOf typeSegment) ++ mark ">"

def qualifiedPathOf (segment : Clause) : Clause :=
  qualifier ++ doubleColon ++ separated "::" segment <|> pathOf segment

/-- Arguments in parentheses with what a function gives for them. A double colon in front
is not spelled. -/
def functionArguments : Clause :=
  silent (maybe doubleColon) ++ inParentheses type ++ maybe (mark "->" ++ shortType)

def namedType : Clause := qualifiedPathOf typeSegment ++ maybe functionArguments

/-! ## Generic parameters -/

/-- What may stand behind a colon: some of `bound` with plus signs between them. A colon
with nothing behind it is not spelled. -/
def boundsOf (bound : Clause) : Clause :=
  mark ":" ++ separated "+" bound ++ maybe (mark "+") <|> silent (mark ":") <|> empty

def lifetimeParameter : Clause := attributes ++ lifetime ++ boundsOf lifetime

def otherParameter : Clause :=
  attributes ++
    (word "const" ++ name ++ mark ":" ++ type ++
        maybe (mark "=" ++ (literal <|> name <|> block)) <|>
      nameOrGap ++ boundsOf (rule .bound) ++ maybe (mark "=" ++ type))

/-- Generic parameters; empty brackets are not spelled. -/
def generics : Clause :=
  silent (mark "<" ++ mark ">") <|>
    maybe (mark "<" ++ lifetimesFirst lifetimeParameter otherParameter ++ mark ">")

def binder : Clause :=
  word "for" ++ mark "<" ++ listed "," (lifetimeParameter <|> otherParameter) ++ mark ">"

def predicate : Clause :=
  lifetime ++ mark ":" ++ listed "+" lifetime <|>
    maybe binder ++ type ++ mark ":" ++ listed "+" (rule .bound)

/-- Conditions; the word in front of none is not spelled. -/
def conditions : Clause :=
  word "where" ++ separated "," predicate ++ maybe comma <|>
    silent (word "where") <|> empty

/-! ## Arguments and bounds -/

def constantArgument : Clause := literal <|> block

def otherArgument : Clause :=
  constantArgument <|>
    type ++
      (mark "=" ++ (constantArgument <|> type) <|>
        mark ":" ++ listed "+" (rule .bound) <|> empty)

def angleArguments : Clause :=
  mark "<" ++ lifetimesFirst (lifetime ++ absent (mark "+")) otherArgument ++ mark ">"

def traitBound : Clause :=
  maybe binder ++ maybe (mark "?") ++ maybe binder ++ pathOf typeSegment ++
    maybe functionArguments

def constantBound : Clause :=
  maybe binder ++ (mark "~" ++ word "const" <|> word "const" <|> group .square (word "const")) ++
    traitBound

def bound : Clause :=
  lifetime <|>
    word "use" ++ mark "<" ++ lifetimesFirst lifetime (nameIf fun _ => true) ++ mark ">" <|>
    traitBound <|> group .round traitBound <|>
    verbatim (constantBound <|> group .round constantBound)

def furtherBounds (allowsPlus : Bool) : Clause :=
  if allowsPlus then many (mark "+" ++ rule .bound) ++ maybe (mark "+") else empty

def bounds (allowsPlus : Bool) : Clause := rule .bound ++ furtherBounds allowsPlus

/-! ## Types -/

def callingConvention : Clause := word "extern" ++ maybe text

def functionTypeArgument : Clause :=
  attributes ++
    (maybe (nameOrGap ++ mark ":") ++ mark "..." <|>
      verbatim (word "mut" ++ word "self" ++ maybe (colon ++ type)) <|>
      maybe ((nameOrGap <|> word "self") ++ colon) ++ type)

def functionType : Clause :=
  maybe (word "unsafe") ++ maybe callingConvention ++ word "fn" ++
    inParentheses functionTypeArgument ++ maybe (mark "->" ++ shortType)

/-- What stands between square brackets in a type: the type of items, perhaps with how many
there are. -/
def sliceContent : Clause := type ++ maybe (semicolon ++ expression)

def typeForm (allowsPlus : Bool) : Clause :=
  maybe binder ++ functionType <|>
    group .round (ahead (mark "?") ++ rule .bound) ++ many (mark "+" ++ rule .bound) <|>
    inParentheses type ++ furtherBounds allowsPlus <|>
    invocation <|>
    maybe binder ++ namedType ++ furtherBounds allowsPlus <|>
    verbatim (word "dyn" ++ mark "*" ++ bounds allowsPlus) <|>
    (word "dyn" <|> word "impl") ++ bounds allowsPlus <|>
    group .square sliceContent <|>
    mark "*" ++ (word "const" <|> word "mut") ++ shortType <|>
    mark "&" ++ maybe lifetime ++ maybe (word "mut") ++ shortType <|>
    mark "!" <|>
    word "_" <|>
    lifetime ++ furtherBounds allowsPlus

end Waymark.Source.Grammar
