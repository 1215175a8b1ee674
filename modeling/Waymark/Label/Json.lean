import Waymark.Json.Tree
import Waymark.Label

/-!
# Labels as JSON

A label is written as an object with its identifier and its parameters, which are
scalars. Numbers that JSON cannot write become null. Reading takes the two fields in
any order and an array in their place, passes over other fields, and refuses a field
that is given twice.
-/

namespace Waymark

namespace Json

def escaped (c : Char) : List Char :=
  if c = '"' then ['\\', '"']
  else if c = '\\' then ['\\', '\\']
  else if c = '\x08' then ['\\', 'b']
  else if c = '\x0c' then ['\\', 'f']
  else if c = '\n' then ['\\', 'n']
  else if c = '\r' then ['\\', 'r']
  else if c = '\t' then ['\\', 't']
  else if c.toNat < 0x20 then
    ['\\', 'u', '0', '0', Nat.digitChar (c.toNat / 16), Nat.digitChar (c.toNat % 16)]
  else [c]

def stringText (s : String) : List Char := '"' :: (s.toList.flatMap escaped ++ ['"'])

def commaSeparated : List (List Char) → List Char
  | [] => []
  | [item] => item
  | item :: rest => item ++ ',' :: commaSeparated rest

def valueText : Value → List Char
  | .null => "null".toList
  | .bool value => (Value.boolText value).toList
  | .int value => (Value.intText value.toInt).toList
  | .float value =>
    if value.isFinite then (DecimalStyle.json.text value).toList else "null".toList
  | .text value => stringText value

def objectText (fields : List (String × List Char)) : List Char :=
  '\x7b' :: (commaSeparated (fields.map fun (key, text) => stringText key ++ ':' :: text) ++
    ['\x7d'])

def scalar? : Json → Option Value
  | .null => some .null
  | .bool value => some (.bool value)
  | .number numeral => numeral.value?
  | .string pieces => (text? pieces).map .text
  | .array _ | .object _ => none

end Json

namespace Label

def json (label : Label) : String :=
  String.ofList <|
    Json.objectText
      [("identifier", Json.stringText label.identifier),
        ("parameters", Json.objectText
          (label.parameters.entries.map fun (tag, value) => (tag, Json.valueText value)))]

/-- Adds one field of a parameter object; a repeated tag replaces the value. -/
def addParameter? (parameters : Arguments) (field : List Json.Piece × Json) : Option Arguments :=
  match Json.text? field.1, field.2.scalar? with
  | some tag, some value => some (parameters.insert tag value)
  | _, _ => none

def parametersOfJson? : Json → Option Arguments
  | .object fields => fields.foldlM addParameter? .empty
  | _ => none

def identifierOfJson? : Json → Option String
  | .string pieces => Json.text? pieces
  | _ => none

structure Draft where
  identifier : Option String := none
  parameters : Option Arguments := none

/-- Reads one field. Each of the two known fields may come once; others are passed
over, but their names have to be texts. -/
def Draft.add? (draft : Draft) (field : List Json.Piece × Json) : Option Draft :=
  match Json.text? field.1 with
  | none => none
  | some "identifier" =>
    match draft.identifier with
    | some _ => none
    | none => (identifierOfJson? field.2).map fun read => { draft with identifier := some read }
  | some "parameters" =>
    match draft.parameters with
    | some _ => none
    | none => (parametersOfJson? field.2).map fun read => { draft with parameters := some read }
  | some _ => some draft

def Draft.label? (draft : Draft) : Option Label :=
  draft.identifier.map fun identifier => ⟨identifier, draft.parameters.getD .empty⟩

def ofJson? : Json → Option Label
  | .object fields => (fields.foldlM Draft.add? {}).bind Draft.label?
  | .array [identifier] => (identifierOfJson? identifier).map fun read => ⟨read, .empty⟩
  | .array [identifier, parameters] =>
    match identifierOfJson? identifier, parametersOfJson? parameters with
    | some identifier, some parameters => some ⟨identifier, parameters⟩
    | _, _ => none
  | _ => none

def ofJsonText? (text : String) : Option Label := (Json.ofText? text).bind ofJson?

end Label

namespace Value

def json (value : Value) : String := String.ofList (Json.valueText value)

end Value

end Waymark
