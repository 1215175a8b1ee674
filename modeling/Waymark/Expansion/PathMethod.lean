import Waymark.Expansion.TaggedMember

/-!
# Generated path methods

Paths through a section get one method per tagged member, which takes the path one step
further or ends it.
-/

namespace Waymark

open Source

inductive PathResult where
  | path (target : TypeExpr)
  | finished

/-- What a path method does: one step into a nested section, or an end at a text or at a
call with the arguments given. -/
inductive PathStep where
  | nested (target : TypeExpr) (name : String)
  | text (name : String)
  | call (name : String) (arguments : List (TypeExpr × String))

/-- A method on paths. Its parameters are names with the types of their arguments. -/
structure PathMethod where
  method : String
  parameters : List (String × TypeExpr)
  result : PathResult
  step : PathStep

namespace PathMethod

def ofMember (member : TaggedMember) : PathMethod :=
  let name := unraw member.method
  match member.form with
  | .nested target => ⟨member.method, [], .path target, .nested target name⟩
  | .text => ⟨member.method, [], .finished, .text name⟩
  | .call parameters =>
    ⟨member.method, parameters.map fun parameter => (parameter.binding, parameter.type),
      .finished,
      .call name (parameters.map fun parameter => (parameter.type, parameter.binding))⟩

end PathMethod

def Source.TypeExpr.argumentTokens (type : TypeExpr) : List Token :=
  Token.ofWords ":: tagpath :: Arg" ++ Token.angled type.tokens

def PathResult.tokens : PathResult → List Token
  | .path target => Token.ofWords ":: tagpath :: Path" ++ Token.angled target.tokens
  | .finished => Token.ofWords ":: tagpath :: PathExpr"

namespace PathStep

def argumentTokens (type : TypeExpr) (binding : String) : List Token :=
  Token.ofWords ":: tagpath :: Arg ::" ++ Token.angled type.tokens ++
    Token.ofWords ":: into_expr" ++
    Token.parenthesized (Token.ofWords ":: core :: convert :: Into ::" ++
      Token.angled type.argumentTokens ++ Token.ofWords ":: into" ++
      Token.parenthesized [.name binding])

def tokens (selfType : TypeExpr) (step : PathStep) : List Token :=
  Token.ofWords ":: tagpath :: Path ::" ++ Token.angled selfType.tokens ++
    match step with
    | .nested target name =>
      Token.ofWords ":: section ::" ++ Token.angled target.tokens ++
        Token.parenthesized [.name "self", .mark ",", .text name]
    | .text name =>
      Token.ofWords ":: value" ++ Token.parenthesized [.name "self", .mark ",", .text name]
    | .call name arguments =>
      Token.ofWords ":: call" ++
        Token.parenthesized ([.name "self", .mark ",", .text name, .mark ","] ++
          Token.bracketed (Token.commaSeparated
            (arguments.map fun (type, binding) => argumentTokens type binding)))

end PathStep

namespace PathMethod

def parameterTokens (binding : String) (type : TypeExpr) : List Token :=
  [.name binding, .mark ":", .name "impl"] ++ Token.ofWords ":: core :: convert :: Into" ++
    Token.angled type.argumentTokens

def signatureTokens (method : PathMethod) : List Token :=
  [.name "fn", .name method.method] ++
    Token.parenthesized (Token.commaSeparated ([.name "self"] ::
      method.parameters.map fun (binding, type) => parameterTokens binding type)) ++
    .mark "->" :: method.result.tokens

def tokens (selfType : TypeExpr) (method : PathMethod) : List Token :=
  method.signatureTokens ++ Token.braced (method.step.tokens selfType)

end PathMethod

end Waymark
