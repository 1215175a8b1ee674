import Waymark.Source.Token
import Waymark.Text.HexDigit

/-!
# Literals of source code

Strings, characters, bytes and numbers. A plain string is read for its value, with its
escapes resolved; of the others only the extent matters.
-/

namespace Waymark.Source.Literal

/-! ## Strings -/

def simpleEscape? (c : Char) : Option Char :=
  match c with
  | 'n' => some '\n'
  | 'r' => some '\r'
  | 't' => some '\t'
  | '\\' => some '\\'
  | '0' => some '\x00'
  | '\'' => some '\''
  | '"' => some '"'
  | _ => none

/-- Where the scan of a string stands: between characters, behind a carriage return,
behind a backslash, in a code of two digits, in front of or inside a code in braces, or in
the blanks that an escaped line end drops. -/
inductive Scan where
  | plain
  | carriageReturn
  | escape
  | byte (missing : Nat) (code : Nat)
  | brace
  | code (code : Nat)
  | lineEnd

/-- The value of a string and what follows it. Its opening quote has been read. A
carriage return stands only in front of a line feed, and the value has the line feed
alone. -/
def scan? : Scan → List Char → Option (List Char × List Char)
  | _, [] => none
  | .plain, c :: rest =>
    if c = '"' then some ([], rest)
    else if c = '\\' then scan? .escape rest
    else if c = '\r' then scan? .carriageReturn rest
    else (scan? .plain rest).map fun (value, rest) => (c :: value, rest)
  | .carriageReturn, c :: rest =>
    if c = '\n' then (scan? .plain rest).map fun (value, rest) => (c :: value, rest)
    else none
  | .escape, c :: rest =>
    if c = 'x' then scan? (.byte 1 0) rest
    else if c = 'u' then scan? .brace rest
    else if c = '\n' ∨ c = '\r' then scan? .lineEnd rest
    else
      match simpleEscape? c with
      | some escaped =>
        (scan? .plain rest).map fun (value, rest) => (escaped :: value, rest)
      | none => none
  | .byte missing code, c :: rest =>
    match Text.hexDigit? c with
    | none => none
    | some digit =>
      match missing with
      | 0 =>
        (scan? .plain rest).map fun (value, rest) =>
          (Char.ofNat (code * 16 + digit) :: value, rest)
      | missing + 1 => scan? (.byte missing (code * 16 + digit)) rest
  | .brace, c :: rest => if c = '\x7b' then scan? (.code 0) rest else none
  | .code code, c :: rest =>
    if c = '\x7d' then
      (scan? .plain rest).map fun (value, rest) => (Char.ofNat code :: value, rest)
    else if c = '_' then scan? (.code code) rest
    else
      match Text.hexDigit? c with
      | some digit => scan? (.code (code * 16 + digit)) rest
      | none => none
  | .lineEnd, c :: rest =>
    if c = ' ' ∨ c = '\t' ∨ c = '\n' ∨ c = '\r' then scan? .lineEnd rest
    else if c = '"' then some ([], rest)
    else if c = '\\' then scan? .escape rest
    else (scan? .plain rest).map fun (value, rest) => (c :: value, rest)

/-- The value of a raw string and what follows it. The opening quote and the hashes in
front of it have been read; as many hashes close the string. -/
def scanRaw? (hashes : Nat) : List Char → Option (List Char × List Char)
  | [] => none
  | c :: rest =>
    if c = '"' ∧ rest.take hashes = List.replicate hashes '#' then
      some ([], rest.drop hashes)
    else
      (scanRaw? hashes rest).map fun (value, rest) => (c :: value, rest)

def raw? (text : List Char) : Option (List Char × List Char) :=
  match text.dropWhile (· = '#') with
  | '"' :: rest => scanRaw? (text.takeWhile (· = '#')).length rest
  | _ => none

/-! ## Characters -/

def skipCharacter? : List Char → Option (List Char)
  | '\\' :: _ :: rest => (rest.dropWhile (· ≠ '\'')).tail?
  | _ :: '\'' :: rest => some rest
  | _ => none

/-! ## Numbers -/

def isDigitOrGap (c : Char) : Bool := c.isDigit || c = '_'

/-- The length of the fraction that a text begins with. A point in front of another point
or of a name starts none. -/
def fractionLength : List Char → Nat
  | '.' :: rest =>
    if rest.head?.any fun c => c = '.' || Token.startsName c then 0
    else 1 + (rest.takeWhile isDigitOrGap).length
  | _ => 0

/-- The length of what follows the letter of an exponent: digits, with at most one sign in
front of them. None if there is no digit or a second sign. -/
def powerLength? (isSigned hasDigit : Bool) : List Char → Option Nat
  | [] => if hasDigit then some 0 else none
  | c :: rest =>
    if c.isDigit then (powerLength? isSigned true rest).map (· + 1)
    else if c = '_' then (powerLength? isSigned hasDigit rest).map (· + 1)
    else if hasDigit then some 0
    else if (c = '+' ∨ c = '-') ∧ !isSigned then (powerLength? true false rest).map (· + 1)
    else none

def exponentLength : List Char → Nat
  | c :: rest =>
    if c = 'e' ∨ c = 'E' then ((powerLength? false false rest).map (· + 1)).getD 0 else 0
  | [] => 0

/-- What follows a number. Letters straight behind its digits belong to it. -/
def skipNumber (text : List Char) : List Char :=
  let rest := text.dropWhile isDigitOrGap
  let rest := rest.drop (fractionLength rest)
  (rest.drop (exponentLength rest)).dropWhile Token.continuesName

/-! ## Tokens -/

def skipTypeLetters (text : List Char) : List Char :=
  if text.head?.any Token.startsName then text.dropWhile Token.continuesName else text

def textToken : List Char × List Char → Token × List Char
  | (value, rest) => (.text (String.ofList value), skipTypeLetters rest)

/-- The token of another literal, as it is written: `text` up to `rest` and the letters
behind. -/
def writtenToken (text rest : List Char) : Token × List Char :=
  let rest := skipTypeLetters rest
  (.literal (String.ofList (text.take (text.length - rest.length))), rest)

def read? (text : List Char) : Option (Token × List Char) :=
  match text with
  | '"' :: rest => (scan? .plain rest).map textToken
  | 'r' :: rest => (raw? rest).map textToken
  | 'b' :: '"' :: rest | 'c' :: '"' :: rest =>
    (scan? .plain rest).map fun (_, rest) => writtenToken text rest
  | 'b' :: 'r' :: rest | 'c' :: 'r' :: rest =>
    (raw? rest).map fun (_, rest) => writtenToken text rest
  | 'b' :: '\'' :: rest | '\'' :: rest => (skipCharacter? rest).map (writtenToken text)
  | c :: _ => if c.isDigit then some (writtenToken text (skipNumber text)) else none
  | [] => none

end Waymark.Source.Literal
