import Waymark.Expansion.PathMethod
import Waymark.Expansion.Registration

/-!
# Expansion

An impl block whose methods carry labels describes a section. Expansion takes the labels
off and generates the section's registrations and its path methods.
-/

namespace Waymark

open Source

/-- What is generated for a section. `typeName` is the last segment of its type. -/
structure Expansion where
  selfType : TypeExpr
  typeName : String
  registrations : List Registration
  pathMethods : List PathMethod

namespace Expansion

def ofMembers (selfType : TypeExpr) (typeName : String) (members : List TaggedMember) :
    Expansion :=
  ⟨selfType, typeName, members.map Registration.ofMember, members.map PathMethod.ofMember⟩

def traitName (expansion : Expansion) : String := unraw expansion.typeName ++ "Path"

def traitComment (expansion : Expansion) : String :=
  "Typed label paths through the tagged members of [`" ++ expansion.typeName ++ "`]."

def describeTokens (expansion : Expansion) : List Token :=
  Token.ofWords "impl :: tagpath :: Section for" ++ expansion.selfType.tokens ++
    Token.braced
      (Token.ofWords "# [ allow ( unused_variables ) ] fn describe" ++
        Token.parenthesized
          (Token.ofWords "members : & mut :: tagpath :: Members < '_ , Self >") ++
        Token.braced (expansion.registrations.flatMap Registration.tokens))

def traitTokens (expansion : Expansion) : List Token :=
  .mark "#" :: Token.bracketed [.name "doc", .mark "=", .text expansion.traitComment] ++
    [.name "pub", .name "trait", .name expansion.traitName] ++
    Token.braced (expansion.pathMethods.flatMap fun method =>
      method.signatureTokens ++ [.mark ";"])

def pathTokens (expansion : Expansion) : List Token :=
  [.name "impl", .name expansion.traitName] ++ Token.ofWords "for :: tagpath :: Path" ++
    Token.angled expansion.selfType.tokens ++
    Token.braced (expansion.pathMethods.flatMap (PathMethod.tokens expansion.selfType))

def tokens (expansion : Expansion) : List Token :=
  expansion.describeTokens ++ expansion.traitTokens ++ expansion.pathTokens

end Expansion

namespace Source.ImplBlock

def checkedTypeName (block : ImplBlock) : Except ExpansionError String :=
  if block.implemented.isSome then .error .implementsTrait
  else if !block.generics.isEmpty then .error .genericSection
  else
    match block.selfType.lastSegment? with
    | none => .error .unnamedType
    | some typeName => .ok typeName

/-- Takes the labels off a block and expands it. The block that is left is given beside
an error, too. -/
def expand (block : ImplBlock) : ImplBlock × Except ExpansionError Expansion :=
  match block.checkedTypeName with
  | .error error => (block, .error error)
  | .ok typeName =>
    let (items, results) := takeEach Item.takeTagged block.items
    ({ block with items },
      results.map fun members =>
        Expansion.ofMembers block.selfType typeName (members.filterMap id))

end Source.ImplBlock

end Waymark
