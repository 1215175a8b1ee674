import Waymark.Source.Grammar.Patterns

/-!
# Expressions

The forms of expressions and of statements, items apart. Some expressions that begin with
a word and end in a brace are statements without a semicolon; these are `bracedForm`.
-/

namespace Waymark.Source.Grammar

open Form

/-! ## Operators -/

/-- The operators between two operands, apart from assignments; longer ones first. -/
def operators : List String :=
  ["&&", "||", "<<", ">>", "==", "<=", "!=", ">=", "+", "-", "*", "/", "%", "^", "&", "|", "<",
    ">"]

def updates : List String := ["<<=", ">>=", "+=", "-=", "*=", "/=", "%=", "^=", "&=", "|="]

def oneOf (words : List String) : Clause :=
  words.foldr (fun word others => mark word <|> others) (one fun _ => none)

def assignment : Clause := oneOf updates <|> absent (mark "==" <|> mark "=>") ++ mark "="

def operand (allowsStruct : Bool) : Clause := rule (.operand allowsStruct)

/-- What an operand goes on with if nothing is assigned: another operand behind an operator,
or the type that it is cast to. -/
def calculation (allowsStruct : Bool) : Clause :=
  absent assignment ++ oneOf operators ++ operand allowsStruct <|> word "as" ++ shortType

def withoutBrace (allowsStruct : Bool) (form : Clause) : Clause :=
  if allowsStruct then form else absent (rawGroup .curly) ++ form

def range (allowsStruct : Bool) : Clause :=
  rangeMark ++
    maybe (withoutBrace allowsStruct (operand allowsStruct) ++ many (calculation allowsStruct))

def continuation (allowsStruct : Bool) : Clause :=
  assignment ++ operand allowsStruct <|> calculation allowsStruct <|> range allowsStruct

def expressionForm (allowsStruct : Bool) : Clause :=
  operand allowsStruct ++ many (continuation allowsStruct)

/-! ## Fields, calls and indices -/

/-- Numbers of fields, one inside the other, as a literal with points in it has them. The
last point may have no digit behind it. -/
def positions (endsInPoint : Bool) : Clause :=
  one fun tree =>
    match tree with
    | .leaf (.literal word) => Field.positions? endsInPoint word
    | _ => none

def memberName : Clause :=
  word "await" <|> positions false <|> name ++ maybe (doubleColon ++ rule .arguments)

def point : Clause := absent (mark "..") ++ mark "."

def selection : Clause :=
  inParentheses expression <|> group .square expression <|> mark "?" <|>
    point ++ maybe (positions true) ++ memberName

/-! ## Expressions with braces -/

def repetition : Clause :=
  word "while" ++ rule (.expression false) ++ block <|>
    word "for" ++ rule .alternatives ++ word "in" ++ rule (.expression false) ++ block <|>
    word "loop" ++ block

def conditionalForm : Clause :=
  word "if" ++ rule (.expression false) ++ block ++
    maybe (word "else" ++ (rule .conditional <|> block))

/-- What shows that an expression goes on behind its brace. -/
def goingOn : Clause := ahead (point <|> mark "?")

/-- An expression that ends with its last brace unless a point or question mark is behind
it. -/
def statementExpression : Clause :=
  rule .braced ++ maybe (goingOn ++ many selection ++ many (continuation true)) <|> expression

def rawValue : Clause :=
  verbatim
    (word "builtin" ++ mark "#" ++ name ++ rawGroup .round <|> word "become" ++ expression)

/-- Attributes in front of a value that is kept as it is written are not spelled. -/
def attributedRawValue : Clause :=
  silent someAttributes ++ rawValue ++ absent selection ++ many (continuation true)

/-- Attributes in front of a range; the range is spelled in parentheses. -/
def attributedRange (form : Clause) : Clause :=
  someAttributes ++ unwritten [.mark "("] ++ form ++ unwritten [.mark ")"]

def caseValue : Clause :=
  attributedRange (range true) <|> attributedRawValue <|> attributes ++ statementExpression

def matchCase : Clause :=
  attributes ++ rule .alternatives ++ maybe (word "if" ++ expression) ++ mark "=>" ++ caseValue ++
    maybe comma

def bracedForm : Clause :=
  rule .conditional <|> repetition <|>
    word "match" ++ rule (.expression false) ++
      group .curly (innerAttributes ++ many matchCase) <|>
    maybe (word "try" <|> word "unsafe" <|> word "const") ++ block <|>
    lifetime ++ mark ":" ++ (repetition <|> block)

/-! ## Values -/

def structField : Clause :=
  mark ".." ++ maybe expression <|>
    attributes ++ (position ++ mark ":" ++ expression <|> name ++ maybe (colon ++ expression))

def pathOrStruct (allowsStruct : Bool) : Clause :=
  valuePath ++ if allowsStruct then maybe (inBraces structField) else empty

/-- A parameter of a closure. Attributes of one that is unboxed and has no type are not
spelled. -/
def closureParameter : Clause :=
  silent someAttributes ++ ahead (word "box") ++ rule .pattern ++ absent (mark ":") <|>
    attributes ++ rule .pattern ++ maybe (mark ":" ++ type)

def closure (allowsStruct : Bool) : Clause :=
  maybe binder ++ maybe (word "const") ++ maybe (word "static") ++ maybe (word "async") ++
    maybe (word "move") ++ mark "|" ++ listed "," closureParameter ++ mark "|" ++
    (mark "->" ++ type ++ block <|> rule (.expression allowsStruct))

def jump (allowsStruct : Bool) : Clause :=
  word "break" ++ maybe lifetime ++ maybe (withoutBrace allowsStruct expression) <|>
    word "continue" ++ maybe lifetime <|>
    (word "return" <|> word "yield") ++ maybe expression

def array : Clause :=
  group .square
    (maybe
      (expression ++ (semicolon ++ expression <|> many (comma ++ expression) ++ maybe comma)))

def value (allowsStruct : Bool) : Clause :=
  unsignedLiteral <|>
    word "async" ++ maybe (word "move") ++ block <|>
    closure allowsStruct <|> rawValue <|> rule .braced <|> invocation <|>
    pathOrStruct allowsStruct <|> inParentheses expression <|> jump allowsStruct <|> array <|>
    word "let" ++ rule .alternatives ++ mark "=" ++ rule (.expression allowsStruct) <|>
    word "_"

def operandForm (allowsStruct : Bool) : Clause :=
  verbatim (someAttributes ++ rawValue ++ absent selection) <|>
    attributes ++
      (mark "&" ++ (word "raw" ++ (word "const" <|> word "mut") <|> maybe (word "mut")) ++
          operand allowsStruct <|>
        oneOf ["*", "!", "-"] ++ operand allowsStruct <|>
        range allowsStruct <|>
        value allowsStruct ++ many selection)

/-! ## Statements -/

def bindingStatement : Clause :=
  attributes ++ word "let" ++ rule .alternatives ++ maybe (mark ":" ++ type) ++
    maybe (mark "=" ++ expression ++ maybe (word "else" ++ block)) ++ semicolon

def rangeStatement : Clause :=
  range true <|> operand true ++ many (calculation true) ++ range true

def statementForm : Clause :=
  semicolon <|>
    attributes ++ plainPath ++ mark "!" ++ rawGroup .curly ++ absent goingOn <|>
    bindingStatement <|> rule .item <|>
    attributes ++ rule .braced ++ absent goingOn <|>
    attributedRange rangeStatement <|> attributedRawValue <|> attributes ++ statementExpression

end Waymark.Source.Grammar
