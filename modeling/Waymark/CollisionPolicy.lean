import Waymark.Text.Blank

/-!
# Collision policies

What a registry does when two members of one section declare the same tag, and the
texts that name a policy.
-/

namespace Waymark

inductive CollisionPolicy where
  | lastWins
  | reject
  deriving DecidableEq, Repr, Inhabited

namespace CollisionPolicy

def name : CollisionPolicy → String
  | .lastWins => "last-wins"
  | .reject => "reject"

def inspect : CollisionPolicy → String
  | .lastWins => "LastWins"
  | .reject => "Reject"

def normalize (text : String) : String :=
  String.ofList ((Text.trim text.toList).map Char.toLower)

/-- The policy that a text names, in any case and with white space around it. The
error quotes the normalized text. -/
def ofText? (text : String) : Except String CollisionPolicy :=
  match normalize text with
  | "last-wins" | "last_wins" | "lastwins" => .ok .lastWins
  | "reject" | "strict" => .ok .reject
  | other => .error s!"unknown collision policy '{other}'"

end CollisionPolicy

end Waymark
