import Waymark.Path
import Waymark.Value.Scalar

/-!
# Typed paths

A `Cursor` is a trail together with the section it has reached, so that every member
named through it belongs to that section. A `TypedArgument` fits a parameter of its
scalar type wherever it has a value.
-/

namespace Waymark

inductive TypedArgument (type : ScalarType) where
  | literal (argument : type.Carrier)
  | captured (name : String) (argument : type.Carrier)
  | constant (name : String) (argument : type.Carrier)
  | provider (path : Path)
  | computed (description : String)

namespace TypedArgument

variable {type : ScalarType}

def erase : TypedArgument type → Argument
  | .literal argument => .literal (type.toValue argument)
  | .captured name argument => .captured name (type.toValue argument)
  | .constant name argument => .constant name (type.toValue argument)
  | .provider path => .provider path
  | .computed description => .computed description

def inspect (argument : TypedArgument type) : String :=
  Inspect.constructor "Arg" [argument.erase.inspect]

end TypedArgument

structure Cursor where
  trail : Trail
  reached : SectionKey

namespace Cursor

def start (root : SectionKey) : Cursor := ⟨.start root, root⟩

def enter (cursor : Cursor) (name : String) (target : SectionKey) : Cursor :=
  ⟨cursor.trail.push ⟨cursor.reached, name⟩, target⟩

/-- The path that ends by reading a member of the section reached. -/
def value (cursor : Cursor) (name : String) : Path :=
  .read (cursor.trail.push ⟨cursor.reached, name⟩)

def call (cursor : Cursor) (name : String) (arguments : List Argument) : Path :=
  .call cursor.trail ⟨cursor.reached, name⟩ arguments

def inspect (cursor : Cursor) : String := Inspect.constructor "Path" [cursor.trail.inspect]

end Cursor

end Waymark
