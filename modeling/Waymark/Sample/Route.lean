import Waymark.Path.Typed

/-!
# Routes

A route is one way to write a path: the sections on the way, the member at the end, and
the types of the arguments if that member is called and not read.
-/

namespace Waymark.Sample

structure Route where
  cursor : Cursor
  member : String
  parameters : Option (List ScalarType)

def Route.path (route : Route) (arguments : List Argument) : Path :=
  match route.parameters with
  | none => route.cursor.value route.member
  | some _ => route.cursor.call route.member arguments

end Waymark.Sample
