import Waymark.Atlas

/-!
# Members that samples share

Job titles and technologies, as both sample atlases declare them.
-/

namespace Waymark.Sample

variable {ι : Type}

def textAt (arguments : List Value) (index : Nat) : String :=
  ScalarType.extract .text arguments index

def boolAt (arguments : List Value) (index : Nat) : Bool :=
  ScalarType.extract .bool arguments index

def intAt (type : IntType) (arguments : List Value) (index : Nat) : Int :=
  (ScalarType.extract (.int type) arguments index : type.Carrier).val

def developer : Declaration ι :=
  ⟨"dev", "dev",
    .call [(ParameterDeclaration.ofType .text "experience").tagged "xp"]
      fun _ arguments => textAt arguments 0 ++ " Software Developer"⟩

def qualityEngineer : Declaration ι :=
  ⟨"qa", "qa", .text fun _ => "Quality Assurance Engineer"⟩

def csharp : Declaration ι :=
  ⟨"csharp", "c#",
    .call
      [(ParameterDeclaration.ofType .bool "with_asp").tagged "asp",
        (ParameterDeclaration.ofType .bool "with_ef").tagged "ef",
        (ParameterDeclaration.ofType .bool "with_blazor").tagged "blazor"]
      fun _ arguments =>
        String.intercalate "; " <|
          ["C#"] ++ (if boolAt arguments 0 then ["ASP.NET Core"] else []) ++
            (if boolAt arguments 1 then ["EF Core"] else []) ++
            (if boolAt arguments 2 then ["Blazor"] else [])⟩

end Waymark.Sample
