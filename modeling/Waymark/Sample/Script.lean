import Waymark.Atlas

/-!
# Scripted sections

Sections whose members say fixed texts. A provider holds one name for each section, and
a member may end in the name of its own section. Calls spell out the arguments that
they extract, which makes visible what reached them.
-/

namespace Waymark.Sample

/-- A provider of scripted sections: the name of the instance of each section. -/
abbrev Names := SectionKey → String

namespace Script

/-- What a member says in front, and whether the name of its section follows. -/
structure Line where
  text : String
  named : Bool

def Line.finish (line : Line) (said : String) (owner : SectionKey) (names : Names) : String :=
  said ++ (if line.named then names owner else "")

def nested (name tag : String) (target : SectionKey) : Declaration Names :=
  ⟨name, tag, .nested target id⟩

def text (owner : SectionKey) (name tag : String) (line : Line) : Declaration Names :=
  ⟨name, tag, .text fun names => line.finish line.text owner names⟩

/-- A member that says a line and, in parentheses, the arguments at some positions, each
extracted as a scalar type. -/
def call (owner : SectionKey) (name tag : String) (parameters : List ParameterDeclaration)
    (line : Line) (extracts : List (Nat × ScalarType)) : Declaration Names :=
  ⟨name, tag, .call parameters fun names arguments =>
    let extracted := extracts.map fun (index, type) => type.extractDisplay arguments index
    line.finish (line.text ++ "(" ++ String.intercalate "|" extracted ++ ")") owner names⟩

end Script

end Waymark.Sample
