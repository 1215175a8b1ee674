/-!
# Inspection text

One spelling for every structured value that is shown for inspection: records with
named fields, constructors with arguments, lists and maps.
-/

namespace Waymark.Inspect

def commaSeparated (items : List String) : String := String.intercalate ", " items

/-- A record with its fields in order, such as `Point { x: 1, y: 2 }`. -/
def record (name : String) (fields : List (String × String)) : String :=
  name ++ " \x7b " ++ commaSeparated (fields.map fun (field, text) => field ++ ": " ++ text)
    ++ " \x7d"

/-- A constructor with its arguments, such as `Some(1)`. -/
def constructor (name : String) (arguments : List String) : String :=
  name ++ "(" ++ commaSeparated arguments ++ ")"

def list (items : List String) : String := "[" ++ commaSeparated items ++ "]"

def map (entries : List (String × String)) : String :=
  "\x7b" ++ commaSeparated (entries.map fun (key, value) => key ++ ": " ++ value) ++ "\x7d"

def option : Option String → String
  | none => "None"
  | some text => constructor "Some" [text]

end Waymark.Inspect
