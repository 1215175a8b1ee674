import Waymark.Value

/-!
# Scalar types of call parameters

A call declares each parameter with a scalar type. Its carrier is the set of arguments
the call can take. Every scalar becomes a value of the type's kind, and reading a value
back is strict: another kind or an integer out of range is no argument of the type.
-/

namespace Waymark

inductive IntType where
  | i8 | i16 | i32 | i64 | u8 | u16 | u32
  deriving DecidableEq, Repr

namespace IntType

def low : IntType → Int
  | .i8 => -128
  | .i16 => -32768
  | .i32 => -2147483648
  | .i64 => -9223372036854775808
  | .u8 | .u16 | .u32 => 0

def high : IntType → Int
  | .i8 => 127
  | .i16 => 32767
  | .i32 => 2147483647
  | .i64 => 9223372036854775807
  | .u8 => 255
  | .u16 => 65535
  | .u32 => 4294967295

def Carrier (type : IntType) : Type := { n : Int // type.low ≤ n ∧ n ≤ type.high }

def zero (type : IntType) : type.Carrier := ⟨0, by cases type <;> decide⟩

end IntType

inductive ScalarType where
  | bool
  | int (type : IntType)
  | single
  | double
  | text
  deriving DecidableEq, Repr

namespace ScalarType

def all : List ScalarType :=
  [.bool, .int .i8, .int .i16, .int .i32, .int .i64, .int .u8, .int .u16, .int .u32,
    .single, .double, .text]

def Carrier : ScalarType → Type
  | .bool => Bool
  | .int type => type.Carrier
  | .single => Binary .single
  | .double => Binary .double
  | .text => String

def kind : ScalarType → Kind
  | .bool => .bool
  | .int _ => .int
  | .single | .double => .float
  | .text => .text

def default : (type : ScalarType) → type.Carrier
  | .bool => false
  | .int type => type.zero
  | .single => (Binary.zero : Binary .single)
  | .double => (Binary.zero : Binary .double)
  | .text => ""

/-- The value of an argument; a number of 32 bits is widened. -/
def toValue : (type : ScalarType) → type.Carrier → Value
  | .bool, argument => .bool argument
  | .int _, argument => .int (Int64.ofInt argument.val)
  | .single, argument => .float (Binary.convert .double argument)
  | .double, argument => .float argument
  | .text, argument => .text argument

def toValueOption (type : ScalarType) : Option type.Carrier → Value
  | none => .null
  | some argument => type.toValue argument

/-- The argument that a value is, if its kind fits and it is in range. A number of
64 bits is rounded to a number of 32 bits where those are wanted. -/
def ofValue? : (type : ScalarType) → Value → Option type.Carrier
  | .bool, .bool value => some value
  | .int type, .int value =>
    if bounds : type.low ≤ value.toInt ∧ value.toInt ≤ type.high then
      some ⟨value.toInt, bounds⟩
    else
      none
  | .single, .float value => some (value.convert .single)
  | .double, .float value => some value
  | .text, .text value => some value
  | _, _ => none

def display : (type : ScalarType) → type.Carrier → String
  | .bool, argument => Value.boolText argument
  | .int _, argument => Value.intText argument.val
  | .single, argument => DecimalStyle.plain.text argument
  | .double, argument => DecimalStyle.plain.text argument
  | .text, argument => argument

/-- The argument at a position, or the default where there is none of the type. -/
def extract (type : ScalarType) (arguments : List Value) (index : Nat) : type.Carrier :=
  (arguments[index]?.bind type.ofValue?).getD type.default

def extractDisplay (type : ScalarType) (arguments : List Value) (index : Nat) : String :=
  type.display (type.extract arguments index)

end ScalarType

end Waymark
