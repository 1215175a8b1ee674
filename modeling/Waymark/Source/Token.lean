import Waymark.Text.Blank

/-!
# Tokens of source code

Names, lifetimes, punctuation and literals of annotated impl blocks. String literals are
kept by their value, everything else as it is written; a raw name keeps its mark.
-/

namespace Waymark.Source

inductive Token where
  /-- A name or keyword, a raw name with its mark. -/
  | name (word : String)
  | lifetime (word : String)
  /-- Punctuation: a double colon, an arrow, or one character. -/
  | mark (word : String)
  /-- A string literal by its value. -/
  | text (value : String)
  | literal (word : String)
  deriving DecidableEq, Repr

namespace Token

/-- A token as it is written; the value of a string literal stands between quotes as
it is. -/
def written : Token → String
  | .name word | .lifetime word | .mark word | .literal word => word
  | .text value => "\"" ++ value ++ "\""

def writtenAll (tokens : List Token) : String := String.intercalate " " (tokens.map written)

/-- Whether a character separates tokens: white space, or a mark of direction. -/
def isBlank (c : Char) : Bool := Text.isWhite c || c = '\u200e' || c = '\u200f'

/-- Whether a character can start a name. Letters beyond ASCII are not told apart from
other characters there that separate no tokens. -/
def startsName (c : Char) : Bool :=
  c.isAlpha || c = '_' || (0x80 ≤ c.toNat && !isBlank c)

def continuesName (c : Char) : Bool := startsName c || c.isDigit

def ofWord : List Char → Token
  | [] => .mark ""
  | c :: rest =>
    let word := String.ofList (c :: rest)
    if c = '\'' then .lifetime word
    else if startsName c then .name word
    else if c.isDigit then .literal word
    else .mark word

def ofWords (words : String) : List Token := (words.toList.splitOn ' ').map ofWord

def parenthesized (tokens : List Token) : List Token := .mark "(" :: (tokens ++ [.mark ")"])

def bracketed (tokens : List Token) : List Token := .mark "[" :: (tokens ++ [.mark "]"])

def braced (tokens : List Token) : List Token := .mark "\x7b" :: (tokens ++ [.mark "\x7d"])

def angled (tokens : List Token) : List Token := .mark "<" :: (tokens ++ [.mark ">"])

def commaSeparated (groups : List (List Token)) : List Token :=
  (groups.intersperse [.mark ","]).flatten

end Token

def unraw (name : String) : String :=
  match name.toList with
  | 'r' :: '#' :: rest => String.ofList rest
  | _ => name

/-- The words that are no names unless they are raw. -/
def reservedWords : List String :=
  ["_", "abstract", "as", "async", "await", "become", "box", "break", "const", "continue",
    "crate", "do", "dyn", "else", "enum", "extern", "false", "final", "fn", "for", "if",
    "impl", "in", "let", "loop", "macro", "match", "mod", "move", "mut", "override", "priv",
    "pub", "ref", "return", "Self", "self", "static", "struct", "super", "trait", "true",
    "try", "type", "typeof", "unsafe", "unsized", "use", "virtual", "where", "while",
    "yield"]

def isFreeName (word : String) : Bool := !reservedWords.contains word

def isSegmentName (word : String) : Bool :=
  isFreeName word || ["Self", "self", "super", "crate"].contains word

end Waymark.Source
