import Waymark.Number.Decimal

/-!
# How numbers are written

A `DecimalStyle` holds the choices of one way to write a binary number with its
shortest digits: where positional notation ends, whether whole numbers keep a `.0`,
and how ties and exponents go.
-/

namespace Waymark

structure DecimalStyle where
  tie : TieRule
  /-- Whole numbers in positional notation end in `.0`. -/
  wholeMark : Bool
  /-- The exponents of the first digit that are written positionally, the upper
  bound excluded; all of them if absent. -/
  positional : Option (Int × Int)
  /-- A nonnegative exponent has a plus sign. -/
  plusSign : Bool

namespace DecimalStyle

/-- Plain text: always positional, whole numbers without a point. -/
def plain : DecimalStyle := ⟨.upward, false, none, false⟩

/-- Inspection text: from 0.0001 up to 10^16 positional and with a point. -/
def inspection : DecimalStyle := ⟨.upward, true, some (-4, 16), false⟩

/-- JSON text: from 0.00001 up to 10^16 positional and with a point, a plus sign
in front of positive exponents. -/
def json : DecimalStyle := ⟨.toEven, true, some (-5, 16), true⟩

def digitsOf (n : Nat) : List Char := Nat.toDigits 10 n

/-- Digits with the point after `point` of them, padded with zeros. -/
def positionalText (style : DecimalStyle) (digits : List Char) (point : Int) : List Char :=
  if point ≤ 0 then
    '0' :: '.' :: (List.replicate (-point).toNat '0' ++ digits)
  else if digits.length ≤ point then
    digits ++ List.replicate (point.toNat - digits.length) '0' ++
      (if style.wholeMark then ['.', '0'] else [])
  else
    digits.take point.toNat ++ '.' :: digits.drop point.toNat

/-- One digit, the others behind a point, and the exponent of the first. -/
def exponentText (style : DecimalStyle) (digits : List Char) (exponent : Int) : List Char :=
  let mantissa :=
    match digits with
    | [] => []
    | [digit] => [digit]
    | digit :: others => digit :: '.' :: others
  let sign := if exponent < 0 then ['-'] else if style.plusSign then ['+'] else []
  mantissa ++ 'e' :: sign ++ digitsOf exponent.natAbs

def decimalText (style : DecimalStyle) (decimal : Decimal) : List Char :=
  let digits := digitsOf decimal.digits
  let point := digits.length + decimal.exponent
  match style.positional with
  | none => style.positionalText digits point
  | some (low, high) =>
    if low ≤ point - 1 ∧ point - 1 < high then
      style.positionalText digits point
    else
      style.exponentText digits (point - 1)

/-- The text of a finite rank without sign. Zero has no shortest decimal of its
own and is the digit zero. -/
def rankText (style : DecimalStyle) (format : FloatFormat) (rank : Nat) : List Char :=
  if rank = 0 then
    style.positionalText ['0'] 1
  else
    style.decimalText (Decimal.shortest format style.tie rank)

/-- The text of a number; the sign of zero is written. -/
def text (style : DecimalStyle) {format : FloatFormat} : Binary format → String
  | .nan => "NaN"
  | .ofRank negative rank _ =>
    let magnitude :=
      if rank = format.infinity then ['i', 'n', 'f'] else style.rankText format rank
    String.ofList (if negative then '-' :: magnitude else magnitude)

end DecimalStyle

end Waymark
