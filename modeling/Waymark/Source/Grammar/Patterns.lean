import Waymark.Source.Field
import Waymark.Source.Grammar.Types

/-!
# Patterns

The forms of names and numbers in expressions and patterns, and of patterns.
-/

namespace Waymark.Source.Grammar

open Form

/-! ## Names and numbers -/

/-- A segment of a name in an expression. A double colon stands in front of arguments. -/
def valueSegment : Clause :=
  moduleSegment <|> argumentSegment ++ maybe (doubleColon ++ rule .arguments)

def valuePath : Clause :=
  qualifiedPathOf valueSegment <|>
    word "try" ++ ahead doubleColon ++ many (doubleColon ++ valueSegment)

def position : Clause :=
  one fun tree =>
    match tree with
    | .leaf (.literal word) => (Field.position? word).map fun position => [position]
    | _ => none

def rangeMark : Clause := mark "..=" <|> absent (mark "...") ++ mark ".."

/-! ## Patterns -/

/-- The mark of a range behind its beginning in a pattern. Three points are an old
spelling of two with an equals sign. -/
def patternRangeMark : Clause :=
  silent (mark "...") ++ unwritten [.mark ".", .mark ".", .mark "="] <|> rangeMark

def patternValue : Clause := literal <|> word "const" ++ block

def patternEnd : Clause := patternValue <|> valuePath

def patternRange : Clause := patternRangeMark ++ maybe patternEnd

def patternField : Clause :=
  attributes ++
    (mark ".." <|>
      position ++ mark ":" ++ rule .alternatives <|>
      name ++ colon ++ rule .alternatives <|>
      maybe (word "box") ++ maybe (word "ref") ++ maybe (word "mut") ++ name)

/-- What makes more than a binding of the name in front of it. -/
def beyondBinding : Clause :=
  doubleColon <|> mark "!" <|> mark ".." <|> rawGroup .curly <|> rawGroup .round

def boundName : Clause :=
  maybe (word "ref") ++ maybe (word "mut") ++ (name <|> word "self") ++ absent beyondBinding ++
    maybe (mark "@" ++ rule .pattern)

def patternForm : Clause :=
  boundName <|> invocation <|>
    valuePath ++
      maybe (inBraces patternField <|> inParentheses (rule .alternatives) <|> patternRange) <|>
    verbatim (word "box" ++ rule .pattern) <|>
    patternValue ++ maybe patternRange <|>
    word "_" <|>
    mark "&" ++ maybe (word "mut") ++ rule .pattern <|>
    inParentheses (rule .alternatives) <|>
    group .square (listed "," (rule .alternatives)) <|>
    rangeMark ++ maybe patternEnd

def alternativesForm : Clause :=
  maybe (mark "|") ++ rule .pattern ++
    many (absent (mark "||" <|> mark "|=") ++ mark "|" ++ rule .pattern)

end Waymark.Source.Grammar
