import Waymark.Value

/-!
# Numerals of JSON texts

A numeral is a decimal as it is written. It stands for an integer of 64 bits if it has
neither fraction nor exponent and fits, and for the nearest floating-point number
otherwise.
-/

namespace Waymark.Json

/-- A number as it is written: sign, digits before the point, digits behind it, and
exponent. -/
structure Numeral where
  negative : Bool
  whole : List Char
  fraction : Option (List Char)
  exponent : Option Int
  deriving DecidableEq, Repr

namespace Numeral

def ofDigits (digits : List Char) : Nat :=
  digits.foldl (fun number digit => number * 10 + (digit.toNat - '0'.toNat)) 0

def spanDigits (text : List Char) : List Char × List Char :=
  (text.takeWhile Char.isDigit, text.dropWhile Char.isDigit)

def fraction? : List Char → Option (Option (List Char) × List Char)
  | '.' :: rest =>
    match spanDigits rest with
    | ([], _) => none
    | (digits, rest) => some (some digits, rest)
  | rest => some (none, rest)

def signedDigits? (negative : Bool) (text : List Char) : Option Int :=
  match spanDigits text with
  | ([], _) => none
  | (digits, []) => some (if negative then -(ofDigits digits : Int) else ofDigits digits)
  | _ => none

/-- An exponent that ends a text, or nothing at all. -/
def exponent? : List Char → Option (Option Int)
  | [] => some none
  | mark :: rest =>
    if mark = 'e' ∨ mark = 'E' then
      match rest with
      | '-' :: digits => (signedDigits? true digits).map some
      | '+' :: digits => (signedDigits? false digits).map some
      | digits => (signedDigits? false digits).map some
    else
      none

/-- The numeral without its sign; a leading zero stands alone. -/
def unsigned? (negative : Bool) (text : List Char) : Option Numeral :=
  match spanDigits text with
  | ([], _) => none
  | ('0' :: _ :: _, _) => none
  | (whole, rest) =>
    match fraction? rest with
    | none => none
    | some (fraction, rest) =>
      (exponent? rest).map fun exponent => { negative, whole, fraction, exponent }

def ofWord? : List Char → Option Numeral
  | '-' :: rest => unsigned? true rest
  | text => unsigned? false text

def decimal (numeral : Numeral) : Decimal :=
  let fraction := numeral.fraction.getD []
  ⟨ofDigits (numeral.whole ++ fraction), numeral.exponent.getD 0 - fraction.length⟩

/-- The integer of a numeral that has neither fraction nor exponent, unless it is a
zero with a minus sign. -/
def integer? (numeral : Numeral) : Option Int :=
  match numeral.fraction, numeral.exponent with
  | none, none =>
    let magnitude := ofDigits numeral.whole
    if numeral.negative then
      if magnitude = 0 then none else some (-(magnitude : Int))
    else
      some magnitude
  | _, _ => none

/-- The value of a numeral; none if it is beyond the finite numbers. -/
def value? (numeral : Numeral) : Option Value :=
  let float :=
    let number := numeral.decimal.toBinary .double numeral.negative
    if number.isFinite then some (.float number) else none
  match numeral.integer? with
  | some n =>
    if Int64.minValue.toInt ≤ n ∧ n ≤ Int64.maxValue.toInt then some (.int (Int64.ofInt n))
    else float
  | none => float

end Numeral

end Waymark.Json
