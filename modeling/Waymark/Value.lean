import Waymark.Number.DecimalStyle
import Waymark.Text.Inspect
import Waymark.Text.Quoted

/-!
# Values

The values that labels carry and calls take. A value has at most one kind, and a
parameter of a kind replaces every value that is missing or of another kind by the
kind's zero.
-/

namespace Waymark

inductive Kind where
  | bool
  | int
  | float
  | text
  deriving DecidableEq, Repr

/-- A value; integers have 64 bits. -/
inductive Value where
  | null
  | bool (value : Bool)
  | int (value : Int64)
  | float (value : Binary .double)
  | text (value : String)
  deriving DecidableEq, Inhabited

namespace Kind

def name : Kind → String
  | .bool => "bool"
  | .int => "int"
  | .float => "float"
  | .text => "string"

def inspect : Kind → String
  | .bool => "Bool"
  | .int => "Int"
  | .float => "Float"
  | .text => "Str"

def zero : Kind → Value
  | .bool => .bool false
  | .int => .int 0
  | .float => .float .zero
  | .text => .text ""

def all : List Kind := [.bool, .int, .float, .text]

end Kind

namespace Value

def isNull : Value → Bool
  | .null => true
  | _ => false

def kind? : Value → Option Kind
  | .null => none
  | .bool _ => some .bool
  | .int _ => some .int
  | .float _ => some .float
  | .text _ => some .text

def bool? : Value → Option Bool
  | .bool value => some value
  | _ => none

def int? : Value → Option Int64
  | .int value => some value
  | _ => none

def float? : Value → Option (Binary .double)
  | .float value => some value
  | _ => none

def text? : Value → Option String
  | .text value => some value
  | _ => none

def boolText (value : Bool) : String := if value then "true" else "false"

def intText (value : Int) : String :=
  String.ofList
    (if value < 0 then '-' :: DecimalStyle.digitsOf value.natAbs
     else DecimalStyle.digitsOf value.natAbs)

/-- A value as it is shown to readers; nothing is shown for the null value. -/
def display : Value → String
  | .null => ""
  | .bool value => boolText value
  | .int value => intText value.toInt
  | .float value => DecimalStyle.plain.text value
  | .text value => value

def inspect : Value → String
  | .null => "Null"
  | .bool value => Inspect.constructor "Bool" [boolText value]
  | .int value => Inspect.constructor "Int" [intText value.toInt]
  | .float value => Inspect.constructor "Float" [DecimalStyle.inspection.text value]
  | .text value => Inspect.constructor "Str" [Text.quoted value]

/-- Equality of values, numeric for floating-point numbers. -/
def same : Value → Value → Bool
  | .float left, .float right => left.same right
  | left, right => left = right

/-- The value itself if it has the wanted kind, else the zero of that kind. -/
def coerce (value? : Option Value) (kind : Kind) : Value :=
  match value? with
  | some value => if value.kind? = some kind then value else kind.zero
  | none => kind.zero

@[simp] theorem kind?_zero (kind : Kind) : kind.zero.kind? = some kind := by
  cases kind <;> rfl

end Value

end Waymark
