import Waymark.Text.HexDigit

/-!
# Tokens of JSON texts

`tokens?` cuts a text into its tokens in one pass over the characters. White space
separates tokens and is dropped; strings keep their escapes as code units, because a
string that nobody reads may hold half of a surrogate pair.
-/

namespace Waymark.Json

/-- What a string holds at one place: a character, or a code unit that was escaped. -/
inductive Piece where
  | char (c : Char)
  | unit (code : Nat)
  deriving DecidableEq, Repr

inductive Token where
  | punctuation (c : Char)
  | string (pieces : List Piece)
  | word (text : List Char)
  deriving DecidableEq, Repr

def isSpace (c : Char) : Bool := c = ' ' || c = '\t' || c = '\n' || c = '\r'

def isPunctuation (c : Char) : Bool :=
  c = '\x7b' || c = '\x7d' || c = '[' || c = ']' || c = ',' || c = ':'

def simpleEscape? (c : Char) : Option Char :=
  match c with
  | '"' => some '"'
  | '\\' => some '\\'
  | '/' => some '/'
  | 'b' => some '\x08'
  | 'f' => some '\x0c'
  | 'n' => some '\n'
  | 'r' => some '\r'
  | 't' => some '\t'
  | _ => none

/-- Where the scan stands: between tokens, in a word, in a string, behind a backslash,
or in a code unit of which some digits are missing. What was read comes last first. -/
inductive Scan where
  | between
  | word (read : List Char)
  | string (read : List Piece)
  | escape (read : List Piece)
  | unit (read : List Piece) (missing : Nat) (code : Nat)

def scan : Scan → List Char → Option (List Token)
  | .between, [] => some []
  | .between, c :: rest =>
    if isSpace c then scan .between rest
    else if isPunctuation c then (scan .between rest).map (.punctuation c :: ·)
    else if c = '"' then scan (.string []) rest
    else scan (.word [c]) rest
  | .word read, [] => some [.word read.reverse]
  | .word read, c :: rest =>
    if isSpace c then (scan .between rest).map (.word read.reverse :: ·)
    else if isPunctuation c then
      (scan .between rest).map (.word read.reverse :: .punctuation c :: ·)
    else if c = '"' then (scan (.string []) rest).map (.word read.reverse :: ·)
    else scan (.word (c :: read)) rest
  | .string _, [] => none
  | .string read, c :: rest =>
    if c = '"' then (scan .between rest).map (.string read.reverse :: ·)
    else if c = '\\' then scan (.escape read) rest
    else if c.toNat < 0x20 then none
    else scan (.string (.char c :: read)) rest
  | .escape _, [] => none
  | .escape read, c :: rest =>
    if c = 'u' then scan (.unit read 3 0) rest
    else
      match simpleEscape? c with
      | some escaped => scan (.string (.char escaped :: read)) rest
      | none => none
  | .unit _ _ _, [] => none
  | .unit read missing code, c :: rest =>
    match Text.hexDigit? c with
    | none => none
    | some digit =>
      match missing with
      | 0 => scan (.string (.unit (code * 16 + digit) :: read)) rest
      | missing + 1 => scan (.unit read missing (code * 16 + digit)) rest

def tokens? (text : List Char) : Option (List Token) := scan .between text

/-- The characters of a string's pieces; none if a surrogate stands alone. -/
def characters? : List Piece → Option (List Char)
  | [] => some []
  | .char c :: rest => (characters? rest).map (c :: ·)
  | .unit high :: .unit low :: rest =>
    if 0xD800 ≤ high ∧ high < 0xDC00 then
      if 0xDC00 ≤ low ∧ low < 0xE000 then
        (characters? rest).map
          (Char.ofNat (0x10000 + (high - 0xD800) * 0x400 + (low - 0xDC00)) :: ·)
      else
        none
    else if 0xDC00 ≤ high ∧ high < 0xE000 then none
    else (characters? (.unit low :: rest)).map (Char.ofNat high :: ·)
  | .unit code :: rest =>
    if 0xD800 ≤ code ∧ code < 0xE000 then none
    else (characters? rest).map (Char.ofNat code :: ·)

def text? (pieces : List Piece) : Option String := (characters? pieces).map String.ofList

end Waymark.Json
