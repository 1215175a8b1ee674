import Waymark.Sample.Jobs
import Waymark.Sample.Route

/-!
# A desk

A sample atlas with a root, two nested sections and calls of every scalar type. The
provider is the desk's title.
-/

namespace Waymark.Sample.Desk

def deskKey (path : String) : SectionKey := ⟨0, path ++ "::Desk"⟩

def jobsKey (path : String) : SectionKey := ⟨1, path ++ "::Jobs"⟩

def toolsKey (path : String) : SectionKey := ⟨2, path ++ "::Tools"⟩

def integers : Declaration String :=
  ⟨"ints", "ints",
    .call
      [.ofType (.int .i8) "a", .ofType (.int .i16) "b", .ofType (.int .i32) "c",
        .ofType (.int .i64) "d", .ofType (.int .u8) "e",
        (ParameterDeclaration.ofType (.int .u16) "f").tagged "six", .ofType (.int .u32) "g"]
      fun _ arguments =>
        let types := [IntType.i8, .i16, .i32, .i64, .u8, .u16, .u32]
        String.intercalate " " <|
          types.zipIdx.map fun (type, index) =>
            ScalarType.extractDisplay (.int type) arguments index⟩

def product : Declaration String :=
  ⟨"mul", "mul",
    .call [.ofType .single "in", .ofType .double "y"] fun _ arguments =>
      let left : Binary .single := ScalarType.extract .single arguments 0
      let right : Binary .double := ScalarType.extract .double arguments 1
      DecimalStyle.plain.text ((left.convert .double).mul right)⟩

/-- The difference of two parameters that share a tag, wrapped to 32 bits. -/
def difference : Declaration String :=
  ⟨"dup", "dup",
    .call
      [(ParameterDeclaration.ofType (.int .i32) "first").tagged "k",
        (ParameterDeclaration.ofType (.int .i32) "second").tagged "k"]
      fun _ arguments =>
        Value.intText ((intAt .i32 arguments 0 - intAt .i32 arguments 1).bmod 4294967296)⟩

def atlas (path : String) : Atlas String where
  pages := .ofList
    [(deskKey path,
        [⟨"jobs", "j", .nested (jobsKey path) id⟩,
          ⟨"tools", "t", .nested (toolsKey path) id⟩,
          ⟨"title", "ttl", .text id⟩,
          ⟨"motto", "mo", .text fun _ => "Label all the things"⟩,
          ⟨"type", "ty", .text fun _ => "7"⟩]),
      (jobsKey path, [developer, qualityEngineer, csharp]),
      (toolsKey path, [integers, product, difference])]

/-- The ways to write paths on a desk. The member `hidden` is not declared. -/
def routes (path : String) : List (String × Route) :=
  let desk := Cursor.start (deskKey path)
  let jobs := desk.enter "jobs" (jobsKey path)
  let tools := desk.enter "tools" (toolsKey path)
  [("title", ⟨desk, "title", none⟩), ("motto", ⟨desk, "motto", none⟩),
    ("type", ⟨desk, "type", none⟩), ("hidden", ⟨desk, "hidden", none⟩),
    ("jobs.qa", ⟨jobs, "qa", none⟩), ("jobs.dev", ⟨jobs, "dev", some [.text]⟩),
    ("jobs.csharp", ⟨jobs, "csharp", some [.bool, .bool, .bool]⟩),
    ("tools.ints",
      ⟨tools, "ints",
        some
          [.int .i8, .int .i16, .int .i32, .int .i64, .int .u8, .int .u16, .int .u32]⟩),
    ("tools.mul", ⟨tools, "mul", some [.single, .double]⟩),
    ("tools.dup", ⟨tools, "dup", some [.int .i32, .int .i32]⟩)]

end Waymark.Sample.Desk
