import Waymark.Expansion.TaggedMember

/-!
# Generated registrations

A section describes itself by one statement per tagged member. A statement registers
the member under its name and tag, with a way to read it from an instance.
-/

namespace Waymark

open Source

structure RegisteredParameter where
  type : TypeExpr
  name : String
  tag : Option String

/-- A statement that registers a member. `method` is the method that reads it; a call
extracts an argument of each type, in order of position. -/
inductive Registration where
  | nested (target : TypeExpr) (name tag method : String)
  | text (name tag method : String)
  | call (name tag : String) (parameters : List RegisteredParameter) (method : String)
    (extractions : List (TypeExpr × Nat))

namespace Registration

def ofMember (member : TaggedMember) : Registration :=
  let name := unraw member.method
  match member.form with
  | .nested target => .nested target name member.tag member.method
  | .text => .text name member.tag member.method
  | .call parameters =>
    .call name member.tag
      (parameters.map fun parameter =>
        ⟨parameter.type, unraw parameter.binding, parameter.tag⟩)
      member.method
      (parameters.zipIdx.map fun (parameter, position) => (parameter.type, position))

end Registration

def RegisteredParameter.tokens (parameter : RegisteredParameter) : List Token :=
  Token.ofWords ":: tagpath :: Parameter :: of ::" ++ Token.angled parameter.type.tokens ++
    Token.parenthesized [.text parameter.name] ++
    match parameter.tag with
    | some tag => Token.ofWords ". tagged" ++ Token.parenthesized [.text tag]
    | none => []

namespace Registration

def extractionTokens (type : TypeExpr) (position : Nat) : List Token :=
  Token.ofWords ":: tagpath :: extract ::" ++ Token.angled type.tokens ++
    Token.parenthesized [.name "args", .mark ",", .literal (toString position)]

/-- The tokens that turn the outcome of a method on `this` to text. -/
def readingTokens (method : String) (arguments : List (List Token)) : List Token :=
  Token.braced (Token.ofWords ":: std :: string :: ToString :: to_string" ++
    Token.parenthesized (Token.ofWords "& this ." ++ .name method ::
      Token.parenthesized (Token.commaSeparated arguments)))

def tokens : Registration → List Token
  | .nested target name tag method =>
    Token.ofWords "members . section ::" ++ Token.angled target.tokens ++
      Token.parenthesized ([.text name, .mark ",", .text tag, .mark ","] ++
        Token.ofWords "Self ::" ++ [.name method]) ++ [.mark ";"]
  | .text name tag method =>
    Token.ofWords "members . value" ++
      Token.parenthesized ([.text name, .mark ",", .text tag, .mark ","] ++
        Token.ofWords "| this : & Self |" ++ readingTokens method []) ++ [.mark ";"]
  | .call name tag parameters method extractions =>
    Token.ofWords "members . call" ++
      Token.parenthesized ([.text name, .mark ",", .text tag, .mark ","] ++
        Token.bracketed (Token.commaSeparated (parameters.map RegisteredParameter.tokens)) ++
        Token.ofWords ", | this : & Self , args : & [ :: tagpath :: Value ] |" ++
        readingTokens method
          (extractions.map fun (type, position) => extractionTokens type position) ++
        [.mark ","]) ++ [.mark ";"]

end Registration

end Waymark
