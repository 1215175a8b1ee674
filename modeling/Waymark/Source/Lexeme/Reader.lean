import Waymark.Source.Comment
import Waymark.Source.Literal

/-!
# Reading lexemes

`lexemes?` cuts source code into its lexemes. Blanks and plain comments are dropped.
-/

namespace Waymark.Source

def readWord : List Char → List Char × List Char
  | 'r' :: '#' :: rest =>
    ('r' :: '#' :: rest.takeWhile Token.continuesName, rest.dropWhile Token.continuesName)
  | text => (text.takeWhile Token.continuesName, text.dropWhile Token.continuesName)

namespace Lexeme

def marks : List Char :=
  ['~', '!', '@', '#', '$', '%', '^', '&', '*', '-', '=', '+', '|', ';', ':', ',', '<', '.', '>',
    '/', '?', '\'']

/-- Whether a text goes on with a mark; a comment is none. -/
def startsMark : List Char → Bool
  | '/' :: '/' :: _ => false
  | '/' :: '*' :: _ => false
  | c :: _ => marks.contains c
  | [] => false

def ofCharacter (c : Char) (rest : List Char) : Lexeme :=
  match Bracket.all.find? (·.opening = c), Bracket.all.find? (·.closing = c) with
  | some bracket, _ => .opening bracket
  | none, some bracket => .closing bracket
  | none, none => .mark c (startsMark rest)

def readPlain? : List Char → Option (Lexeme × List Char)
  | [] => none
  | '\'' :: rest =>
    let (word, rest) := readWord rest
    some (.token (.lifetime (String.ofList ('\'' :: word))), rest)
  | c :: rest =>
    if Token.startsName c then
      let (word, rest) := readWord (c :: rest)
      some (.token (.name (String.ofList word)), rest)
    else
      some (ofCharacter c rest, rest)

def readLiteral? (text : List Char) : Option (Lexeme × List Char) :=
  (Literal.read? text).map fun (literal, rest) => (.token literal, rest)

/-- The lexemes that a text begins with, at most one apart from comments, and what
follows them. -/
def readSome? (text : List Char) : Option (List Lexeme × List Char) :=
  match text with
  | [] => none
  | c :: rest =>
    if Token.isBlank c then some ([], rest)
    else
      match Comment.read? text with
      | some (comment, rest) => some (comment.lexemes, rest)
      | none => (readLiteral? text <|> readPlain? text).map fun (lexeme, rest) => ([lexeme], rest)

/-- Reads lexemes until none is left; none if the text is malformed. Every step has to
take a character, which is what the comparison of lengths makes sure of. -/
def readAll? (text : List Char) : Option (List Lexeme) :=
  if text.isEmpty then some []
  else
    match readSome? text with
    | none => none
    | some (lexemes, rest) =>
      if _shorter : rest.length < text.length then (readAll? rest).map (lexemes ++ ·)
      else none
termination_by text.length

end Lexeme

def lexemes? (text : String) : Option (List Lexeme) := Lexeme.readAll? text.toList

end Waymark.Source
