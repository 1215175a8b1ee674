import Waymark.Expansion

/-!
# Generated code

The words of generated code are put together from records, one piece at a time. Here the
statements, signatures and bodies are given as a whole, the way one would write them, with
gaps for names, tags and types.
-/

namespace Waymark

open Source
open Token (ofWords)

/-- A parameter of a generated call: what it is bound to, its name without the mark of a raw
one, its type, and its tag if it has one. -/
structure CallParameter where
  binding : String
  name : String
  type : TypeExpr
  tag : Option String

namespace CallParameter

def declared (parameter : CallParameter) : List Token :=
  ofWords ":: tagpath :: Parameter :: of :: <" ++ parameter.type.tokens ++ ofWords "> (" ++
    [.text parameter.name, .mark ")"] ++
    parameter.tag.elim [] fun tag => ofWords ". tagged (" ++ [.text tag, .mark ")"]

/-- The argument that a method gets at a position. -/
def extracted (position : Nat) (parameter : CallParameter) : List Token :=
  ofWords ":: tagpath :: extract :: <" ++ parameter.type.tokens ++ ofWords "> ( args ," ++
    [.literal (toString position), .mark ")"]

def accepted (parameter : CallParameter) : List Token :=
  .name parameter.binding :: ofWords ": impl :: core :: convert :: Into < :: tagpath :: Arg <" ++
    parameter.type.tokens ++ ofWords "> >"

/-- The argument that a path passes on. -/
def passed (parameter : CallParameter) : List Token :=
  ofWords ":: tagpath :: Arg :: <" ++ parameter.type.tokens ++
    ofWords "> :: into_expr ( :: core :: convert :: Into :: < :: tagpath :: Arg <" ++
    parameter.type.tokens ++ ofWords "> > :: into (" ++ .name parameter.binding :: ofWords ") )"

end CallParameter

/-- What is generated for a member: the statement that registers it, and the signature and the
body of its path method. -/
@[ext] structure MemberCode where
  statement : List Token
  signature : List Token
  body : List Token

namespace MemberCode

def commas (groups : List (List Token)) : List Token := List.intercalate [.mark ","] groups

variable (selfType : TypeExpr) (method name tag : String)

def nested (target : TypeExpr) : MemberCode where
  statement :=
    ofWords "members . section :: <" ++ target.tokens ++ ofWords "> (" ++
      [.text name, .mark ",", .text tag] ++ ofWords ", Self ::" ++ .name method :: ofWords ") ;"
  signature :=
    [.name "fn", .name method] ++ ofWords "( self ) -> :: tagpath :: Path <" ++
      target.tokens ++ [.mark ">"]
  body :=
    ofWords ":: tagpath :: Path :: <" ++ selfType.tokens ++ ofWords "> :: section :: <" ++
      target.tokens ++ ofWords "> ( self ," ++ [.text name, .mark ")"]

def text : MemberCode where
  statement :=
    ofWords "members . value (" ++ [.text name, .mark ",", .text tag] ++
      ofWords ", | this : & Self | \x7b :: std :: string :: ToString :: to_string ( & this ." ++
      .name method :: ofWords "( ) ) \x7d ) ;"
  signature := [.name "fn", .name method] ++ ofWords "( self ) -> :: tagpath :: PathExpr"
  body :=
    ofWords ":: tagpath :: Path :: <" ++ selfType.tokens ++ ofWords "> :: value ( self ," ++
      [.text name, .mark ")"]

def call (parameters : List CallParameter) : MemberCode where
  statement :=
    ofWords "members . call (" ++ [.text name, .mark ",", .text tag] ++ ofWords ", [" ++
      commas (parameters.map CallParameter.declared) ++
      ofWords "] , | this : & Self , args : & [ :: tagpath :: Value ] | \x7b" ++
      ofWords ":: std :: string :: ToString :: to_string ( & this ." ++
      [.name method, .mark "("] ++ commas (parameters.mapIdx CallParameter.extracted) ++
      ofWords ") ) \x7d , ) ;"
  signature :=
    [.name "fn", .name method] ++ ofWords "( self ," ++
      commas (parameters.map CallParameter.accepted) ++ ofWords ") -> :: tagpath :: PathExpr"
  body :=
    ofWords ":: tagpath :: Path :: <" ++ selfType.tokens ++ ofWords "> :: call ( self ," ++
      .text name :: ofWords ", [" ++ commas (parameters.map CallParameter.passed) ++
      ofWords "] )"

end MemberCode

namespace CallParameter

variable (parameters : List TaggedParameter)

end CallParameter

namespace MemberCode

def ofMember (selfType : TypeExpr) (member : TaggedMember) : MemberCode where
  statement := (Registration.ofMember member).tokens
  signature := (PathMethod.ofMember member).signatureTokens
  body := (PathMethod.ofMember member).step.tokens selfType

variable (selfType : TypeExpr) (method tag : String)

end MemberCode

section

variable (selfType : TypeExpr) (typeName : String) (members : List TaggedMember)

end

end Waymark
