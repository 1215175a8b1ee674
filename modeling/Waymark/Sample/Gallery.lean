import Waymark.Sample.Jobs
import Waymark.Sample.Route

/-!
# A gallery of small atlases

Seven sections with five roots among them: one with nested sections, one whose members
collide, one with tags that no identifier can spell, one that contains itself, and one
that stands alone. The provider is the name that the self-containing section shows.
-/

namespace Waymark.Sample.Gallery

inductive Room where
  | provider
  | jobs
  | technologies
  | colliding
  | badTags
  | ring
  | otherRoot
  deriving DecidableEq, Repr

namespace Room

def all : List Room := [.provider, .jobs, .technologies, .colliding, .badTags, .ring, .otherRoot]

def name : Room → String
  | .provider => "LabelProvider"
  | .jobs => "JobsSection"
  | .technologies => "TechnologiesSection"
  | .colliding => "Colliding"
  | .badTags => "BadTags"
  | .ring => "Ring"
  | .otherRoot => "OtherRoot"

def key (base : Nat) (path : String) (room : Room) : SectionKey :=
  ⟨base + room.ctorIdx, path ++ "::" ++ room.name⟩

/-- What a room says of itself to a consumer that is a function. -/
def direct : Room → String → String
  | .provider | .jobs | .technologies => fun _ => "Test"
  | .colliding => fun _ => "colliding"
  | .badTags => fun _ => "bad"
  | .ring => fun name => name
  | .otherRoot => fun _ => "other"

end Room

def greet : Declaration String :=
  ⟨"greet", "g",
    .call
      [(ParameterDeclaration.ofType .text "greeting").tagged "hi", .ofType (.int .u8) "times"]
      fun name arguments =>
        let greeting := textAt arguments 0 ++ " " ++ name
        String.join (List.replicate (intAt .u8 arguments 1).toNat greeting)⟩

def declarations (key : Room → SectionKey) : Room → List (Declaration String)
  | .provider =>
    [⟨"jobs", "j", .nested (key .jobs) id⟩,
      ⟨"technologies", "t", .nested (key .technologies) id⟩]
  | .jobs => [developer, qualityEngineer, ⟨"pm", "pm", .text fun _ => "Project Manager"⟩]
  | .technologies =>
    [csharp,
      ⟨"experience", "exp",
        .call [.ofType (.int .i32) "years"] fun _ arguments =>
          Value.intText (intAt .i32 arguments 0) ++ " year(s)"⟩]
  | .colliding =>
    [⟨"first", "x", .text fun _ => "first"⟩, ⟨"second", "x", .text fun _ => "second"⟩,
      ⟨"other", "o", .text fun _ => "other"⟩]
  | .badTags =>
    [⟨"blank", "  ", .text fun _ => "blank"⟩, ⟨"joined", "a_b", .text fun _ => "joined"⟩,
      ⟨"fine", "ok", .text fun _ => "fine"⟩]
  | .ring => [⟨"inner", "r", .nested (key .ring) id⟩, ⟨"name", "n", .text id⟩, greet]
  | .otherRoot => [⟨"only", "only", .text fun _ => "only"⟩]

def atlas (key : Room → SectionKey) : Atlas String where
  pages := .ofList (Room.all.map fun room => (key room, declarations key room))

/-- The ways to write paths from the room with nested sections. -/
def routes (key : Room → SectionKey) : List (String × Route) :=
  let provider := Cursor.start (key .provider)
  let jobs := provider.enter "jobs" (key .jobs)
  let technologies := provider.enter "technologies" (key .technologies)
  [("jobs.qa", ⟨jobs, "qa", none⟩), ("jobs.pm", ⟨jobs, "pm", none⟩),
    ("jobs.dev", ⟨jobs, "dev", some [.text]⟩),
    ("technologies.csharp", ⟨technologies, "csharp", some [.bool, .bool, .bool]⟩),
    ("technologies.experience", ⟨technologies, "experience", some [.int .i32]⟩)]

end Waymark.Sample.Gallery
