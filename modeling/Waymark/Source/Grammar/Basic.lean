import Waymark.Source.Form

/-!
# The words of the grammar

The names of the grammar's rules, and the small forms from which the forms of types,
patterns, expressions and items are built.
-/

namespace Waymark.Source

/-- The rules of the grammar: what can stand inside itself. Types may have several bounds
with plus signs or not, and expressions may be struct literals or not, which depends on
where they stand. -/
inductive Rule where
  | type (allowsPlus : Bool)
  | bound
  | arguments
  | attr
  | pattern
  | alternatives
  | expression (allowsStruct : Bool)
  | operand (allowsStruct : Bool)
  | braced
  | conditional
  | statement
  | item
  deriving DecidableEq, Repr

abbrev Clause := Form Rule

namespace Grammar

open Form

/-! ## Rules -/

def type : Clause := rule (.type true)

def shortType : Clause := rule (.type false)

def expression : Clause := rule (.expression true)

def attributes : Clause := many (rule .attr)

def someAttributes : Clause := rule .attr ++ attributes

/-! ## Words and marks -/

def nameIf (accepts : String → Bool) : Clause :=
  one fun tree =>
    match tree with
    | .leaf (.name word) => if accepts word then some [.name word] else none
    | _ => none

def word (wanted : String) : Clause := nameIf (· = wanted)

def name : Clause := nameIf isFreeName

def nameOrGap : Clause := nameIf fun word => isFreeName word || word = "_"

def lifetime : Clause :=
  one fun tree =>
    match tree with
    | .leaf (.lifetime word) => some [.lifetime word]
    | _ => none

def mark (word : String) : Clause := marks word.toList

def comma : Clause := mark ","

def semicolon : Clause := mark ";"

def colon : Clause := absent (mark "::") ++ mark ":"

def doubleColon : Clause := mark "::"

def text : Clause :=
  one fun tree =>
    match tree with
    | .leaf (.text value) => some [.text value]
    | _ => none

def unsignedLiteral : Clause :=
  one fun tree =>
    match tree with
    | .leaf (.text value) => some [.text value]
    | .leaf (.literal word) => some [.literal word]
    | .leaf (.name "true") => some [.name "true"]
    | .leaf (.name "false") => some [.name "false"]
    | _ => none

def literal : Clause := maybe (mark "-") ++ unsignedLiteral

/-! ## Groups -/

def anyTree : Clause := one fun tree => some (Tree.tokensAll [tree])

def rawGroup (bracket : Bracket) : Clause := group bracket (verbatim (many anyTree))

def anyGroup : Clause := rawGroup .round <|> rawGroup .square <|> rawGroup .curly

def inParentheses (item : Clause) : Clause := group .round (listed "," item)

def inBraces (item : Clause) : Clause := group .curly (listed "," item)

/-! ## Names with double colons -/

def plainSegment : Clause := nameIf fun word => isSegmentName word || word = "try"

def pathOf (segment : Clause) : Clause :=
  (doubleColon <|> ahead (nameIf isSegmentName)) ++ separated "::" segment

def plainPath : Clause := pathOf plainSegment

/-- A call of a macro without a semicolon: its name, an exclamation mark and a group, which
is kept as it is written. -/
def invocation : Clause :=
  (plainPath <|> word "try") ++ absent (mark "!=") ++ mark "!" ++ anyGroup

/-! ## Attributes and blocks -/

/-- What stands in the brackets of an attribute. Only a value behind an equals sign is
spelled anew. -/
def attributeContent : Clause :=
  (word "unsafe" <|> plainPath) ++
    maybe (anyGroup <|> absent (mark "==" <|> mark "=>") ++ mark "=" ++ expression)

def outerAttribute : Clause := mark "#" ++ group .square attributeContent

def innerAttributes : Clause := many (mark "#" ++ mark "!" ++ group .square attributeContent)

def block : Clause := group .curly (innerAttributes ++ many (rule .statement))

end Grammar

end Waymark.Source
