import Waymark.Json.Numeral
import Waymark.Json.Token

/-!
# Trees of JSON texts

`ofTokens?` builds the tree of a token list with a stack of the arrays and objects that
are still open, one token at a time. It accepts exactly one value.
-/

namespace Waymark

/-- A JSON value as it is written; fields keep their order and may repeat. -/
inductive Json where
  | null
  | bool (value : Bool)
  | number (numeral : Json.Numeral)
  | string (pieces : List Json.Piece)
  | array (items : List Json)
  | object (fields : List (List Json.Piece × Json))

namespace Json

abbrev Fields := List (List Piece × Json)

/-- An open array with its items so far, or an open object with its fields so far and
the key that waits for its value. What was read comes last first. -/
inductive Frame where
  | items (read : List Json)
  | field (read : Fields) (key : List Piece)

inductive Expectation where
  | value
  | firstItem
  | firstKey
  | nextKey (read : Fields)
  | colon (read : Fields) (key : List Piece)
  | complete (value : Json)

structure Reader where
  expectation : Expectation
  frames : List Frame

def ofWord? (word : List Char) : Option Json :=
  if word = ['n', 'u', 'l', 'l'] then some .null
  else if word = ['t', 'r', 'u', 'e'] then some (.bool true)
  else if word = ['f', 'a', 'l', 's', 'e'] then some (.bool false)
  else (Numeral.ofWord? word).map .number

def Reader.startValue? (frames : List Frame) : Token → Option Reader
  | .punctuation c =>
    if c = '[' then some ⟨.firstItem, .items [] :: frames⟩
    else if c = '\x7b' then some ⟨.firstKey, frames⟩
    else none
  | .string pieces => some ⟨.complete (.string pieces), frames⟩
  | .word word => (ofWord? word).map fun value => ⟨.complete value, frames⟩

def Reader.continue? (value : Json) (c : Char) : List Frame → Option Reader
  | .items read :: frames =>
    if c = ',' then some ⟨.value, .items (value :: read) :: frames⟩
    else if c = ']' then some ⟨.complete (.array (value :: read).reverse), frames⟩
    else none
  | .field read key :: frames =>
    if c = ',' then some ⟨.nextKey ((key, value) :: read), frames⟩
    else if c = '\x7d' then some ⟨.complete (.object ((key, value) :: read).reverse), frames⟩
    else none
  | [] => none

def Reader.step? (reader : Reader) (token : Token) : Option Reader :=
  match reader.expectation, token with
  | .value, token => startValue? reader.frames token
  | .firstItem, token =>
    if token = .punctuation ']' then
      match reader.frames with
      | .items _ :: frames => some ⟨.complete (.array []), frames⟩
      | _ => none
    else
      startValue? reader.frames token
  | .firstKey, .string key => some ⟨.colon [] key, reader.frames⟩
  | .firstKey, token =>
    if token = .punctuation '\x7d' then some ⟨.complete (.object []), reader.frames⟩ else none
  | .nextKey read, .string key => some ⟨.colon read key, reader.frames⟩
  | .nextKey _, _ => none
  | .colon read key, token =>
    if token = .punctuation ':' then some ⟨.value, .field read key :: reader.frames⟩ else none
  | .complete value, .punctuation c => continue? value c reader.frames
  | .complete _, _ => none

def ofTokens? (tokens : List Token) : Option Json :=
  match tokens.foldlM Reader.step? ⟨.value, []⟩ with
  | some ⟨.complete value, []⟩ => some value
  | _ => none

def ofText? (text : String) : Option Json := (tokens? text.toList).bind ofTokens?

end Json

end Waymark
