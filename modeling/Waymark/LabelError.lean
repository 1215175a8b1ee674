import Waymark.Value

/-!
# Errors

Why a path has no label that can be given, why an identifier names nothing that can be
read, and why a registry cannot be used.
-/

namespace Waymark

/-- The errors of registries, encoding and compiling. Sections are given by their
full names, members by section and name. -/
inductive LabelError where
  /-- An argument has no value before the path is followed. -/
  | unsupportedArgument (position : Nat) (reason : String)
  | arityMismatch (member : String) (expected found : Nat)
  | argumentKindMismatch (member : String) (position : Nat) (expected found : Kind)
  | unknownSegment (identifier segment owner : String)
  /-- A segment names a member that cannot stand where it does. -/
  | wrongAccessorKind (identifier segment expected : String)
  | invalidIdentifier (identifier : String)
  | notInitialized
  | rootMismatch (expected found : String)
  | duplicateTag (owner tag : String)
  /-- A step was given an instance of another section. -/
  | providerMismatch (expected : String)
  deriving DecidableEq, Repr

namespace LabelError

def message : LabelError → String
  | .unsupportedArgument position reason =>
    s!"Unsupported argument expression at position {position}: {reason}"
  | .arityMismatch member expected found =>
    s!"Call to '{member}' expects {expected} argument(s), got {found}"
  | .argumentKindMismatch member position expected found =>
    s!"Argument {position} of '{member}' is {found.name}, declared {expected.name}"
  | .unknownSegment identifier segment owner =>
    s!"Invalid label identifier '{identifier}': member '{segment}' not found on {owner}"
  | .wrongAccessorKind identifier segment expected =>
    s!"Invalid label identifier '{identifier}': member '{segment}' is not {expected}"
  | .invalidIdentifier identifier => s!"Invalid label identifier '{identifier}'"
  | .notInitialized => "Registry has not been initialized"
  | .rootMismatch expected found =>
    s!"Registry root mismatch: expected {expected}, registry holds {found}"
  | .duplicateTag owner tag => s!"Duplicate tag '{tag}' on {owner}"
  | .providerMismatch expected => s!"Provider mismatch: expected an instance of {expected}"

end LabelError

end Waymark
