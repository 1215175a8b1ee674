import Waymark.SectionKey
import Waymark.Value

/-!
# Paths

A path names members one after the other, starting at a root section, and may end in a
call with arguments. Paths can be written down for members that do not exist; a registry
tells which of them have labels.
-/

namespace Waymark

structure Trail where
  root : SectionKey
  steps : List Member
  deriving DecidableEq, Repr

mutual

/-- A trail whose last member is read, or a trail followed by a call. -/
inductive Path where
  | read (trail : Trail)
  | call (target : Trail) (member : Member) (arguments : List Argument)

/-- What is written for a parameter of a call. Only the first three forms have a value
before the path is followed. -/
inductive Argument where
  | literal (value : Value)
  | captured (name : String) (value : Value)
  | constant (name : String) (value : Value)
  | provider (path : Path)
  | computed (description : String)

end

namespace Trail

def start (root : SectionKey) : Trail := ⟨root, []⟩

def push (trail : Trail) (member : Member) : Trail :=
  { trail with steps := trail.steps ++ [member] }

def display (trail : Trail) : String :=
  trail.root.shortName ++ String.join (trail.steps.map fun step => "." ++ step.name)

def inspect (trail : Trail) : String :=
  Inspect.record "NavPath"
    [("root", trail.root.inspect), ("steps", Inspect.list (trail.steps.map Member.inspect))]

end Trail

namespace Path

def root : Path → SectionKey
  | .read trail => trail.root
  | .call target _ _ => target.root

def members : Path → List Member
  | .read trail => trail.steps
  | .call target member _ => target.steps ++ [member]

end Path

mutual

def Path.display : Path → String
  | .read trail => trail.display
  | .call target member arguments =>
    target.display ++ "." ++ member.name ++ "(" ++
      Inspect.commaSeparated (Argument.displayAll arguments) ++ ")"

/-- An argument as messages show it: literals by their value, other arguments by what
they name. -/
def Argument.display : Argument → String
  | .literal (.text value) => Text.quoted value
  | .literal .null => "null"
  | .literal value => value.display
  | .captured name _ => name
  | .constant name _ => name
  | .provider path => path.display
  | .computed description => "<" ++ description ++ ">"

def Argument.displayAll : List Argument → List String
  | [] => []
  | argument :: rest => argument.display :: Argument.displayAll rest

end

mutual

def Path.inspect : Path → String
  | .read trail => Inspect.constructor "Read" [trail.inspect]
  | .call target member arguments =>
    Inspect.record "Call"
      [("target", target.inspect), ("member", member.inspect),
        ("args", Inspect.list (Argument.inspectAll arguments))]

def Argument.inspect : Argument → String
  | .literal value => Inspect.constructor "Literal" [value.inspect]
  | .captured name value =>
    Inspect.record "Captured" [("name", Text.quoted name), ("value", value.inspect)]
  | .constant name value =>
    Inspect.record "Static" [("path", Text.quoted name), ("value", value.inspect)]
  | .provider path => Inspect.constructor "Provider" [path.inspect]
  | .computed description => Inspect.constructor "Computed" [Text.quoted description]

def Argument.inspectAll : List Argument → List String
  | [] => []
  | argument :: rest => argument.inspect :: Argument.inspectAll rest

end

mutual

/-- Equality of paths, numeric for floating-point values in arguments. -/
def Path.same : Path → Path → Bool
  | .read left, .read right => left = right
  | .call target member arguments, .call target' member' arguments' =>
    target = target' && member = member' && Argument.sameAll arguments arguments'
  | _, _ => false

def Argument.same : Argument → Argument → Bool
  | .literal left, .literal right => left.same right
  | .captured name value, .captured name' value' => name = name' && value.same value'
  | .constant name value, .constant name' value' => name = name' && value.same value'
  | .provider left, .provider right => left.same right
  | .computed left, .computed right => left = right
  | _, _ => false

def Argument.sameAll : List Argument → List Argument → Bool
  | [], [] => true
  | left :: lefts, right :: rights => left.same right && Argument.sameAll lefts rights
  | _, _ => false

end

end Waymark
