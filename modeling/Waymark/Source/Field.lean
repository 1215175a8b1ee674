import Waymark.Source.Token
import Waymark.Text.HexDigit

/-!
# Fields with numbers

Fields of tuples are numbers, which are spelled in decimal digits. A number with a point
in it picks a field inside a field.
-/

namespace Waymark.Source.Field

/-- The number that digits of a base stand for; underscores between them do not count, and
`number` is what is in front of them, if there is a digit. -/
def digits? (base : Nat) (number : Option Nat) : List Char → Option Nat
  | [] => number
  | c :: rest =>
    if c = '_' then digits? base number rest
    else
      match Text.hexDigit? c with
      | some digit =>
        if digit < base then digits? base (some (number.getD 0 * base + digit)) rest else none
      | none => none

def number? (word : List Char) : Option Nat :=
  match word with
  | '0' :: 'x' :: digits => digits? 16 none digits
  | '0' :: 'o' :: digits => digits? 8 none digits
  | '0' :: 'b' :: digits => digits? 2 none digits
  | digits => digits? 10 none digits

def position? (word : String) : Option Token :=
  (number? word.toList).map fun number => .literal (toString number)

/-- The spelling of the numbers in a literal with points between them, and perhaps one
behind the last number. -/
def positions? (endsInPoint : Bool) (word : String) : Option (List Token) :=
  let parts := word.splitOn "."
  if endsInPoint then
    if parts.getLast? = some "" then
      (parts.dropLast.mapM position?).map fun fields =>
        fields.flatMap fun field => [field, .mark "."]
    else none
  else (parts.mapM position?).map fun fields => fields.intersperse (.mark ".")

end Waymark.Source.Field
