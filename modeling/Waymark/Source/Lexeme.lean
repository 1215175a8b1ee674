import Waymark.Source.Token

/-!
# Lexemes

What source code is cut into before it is grouped: tokens, brackets, and marks of one
character. A mark knows whether another one stands right behind it, as it has to where
several characters are one operator. `Lexeme.tokens` forgets that again.
-/

namespace Waymark.Source

inductive Bracket where
  | round
  | square
  | curly
  deriving DecidableEq, Repr

namespace Bracket

def all : List Bracket := [round, square, curly]

def opening : Bracket → Char
  | round => '('
  | square => '['
  | curly => '\x7b'

def closing : Bracket → Char
  | round => ')'
  | square => ']'
  | curly => '\x7d'

def around : Bracket → List Token → List Token
  | round => Token.parenthesized
  | square => Token.bracketed
  | curly => Token.braced

end Bracket

inductive Lexeme where
  | token (token : Token)
  /-- A mark; it is joint if another mark stands right behind it. -/
  | mark (character : Char) (isJoint : Bool)
  | opening (bracket : Bracket)
  | closing (bracket : Bracket)
  deriving DecidableEq, Repr

namespace Lexeme

/-- The tokens of lexemes. A double colon is one token, and so is an arrow. -/
def tokens : List Lexeme → List Token
  | [] => []
  | .mark ':' true :: .mark ':' _ :: rest => .mark "::" :: tokens rest
  | .mark '-' true :: .mark '>' _ :: rest => .mark "->" :: tokens rest
  | .token word :: rest => word :: tokens rest
  | .mark character _ :: rest => .mark (String.singleton character) :: tokens rest
  | .opening bracket :: rest => .mark (String.singleton bracket.opening) :: tokens rest
  | .closing bracket :: rest => .mark (String.singleton bracket.closing) :: tokens rest

end Lexeme

end Waymark.Source
