/-!
# Errors of expansion

Why an impl block does not describe a section: errors of the block come first, then
those of labels and tags, then those of tagged methods and their parameters.
-/

namespace Waymark

inductive ExpansionError where
  | implementsTrait
  | genericSection
  | unnamedType
  /-- A label has nothing behind its name. -/
  | labelWithoutTag
  /-- A label has its tag behind an equals sign. -/
  | labelAssigned
  | labelEmpty
  | labelNotText
  | labelTrailing
  | labelRepeated
  | blankTag
  | tagWithSeparator
  | genericMember
  /-- A tagged method has no receiver, or not a shared reference. -/
  | receiverNotShared
  | outputMissing
  | parameterNotNamed
  /-- A parameter of a tagged method is a reference, to text or to something else. -/
  | parameterReference (toText : Bool)
  deriving DecidableEq, Repr

namespace ExpansionError

def message : ExpansionError → String
  | .implementsTrait => "#[section] applies to inherent impl blocks only"
  | .genericSection => "Generic sections are not supported"
  | .unnamedType => "Expected a named type"
  | .labelWithoutTag => "expected attribute arguments in parentheses: #[label(...)]"
  | .labelAssigned => "expected parentheses: #[label(...)]"
  | .labelEmpty => "unexpected end of input, expected string literal"
  | .labelNotText => "expected string literal"
  | .labelTrailing => "unexpected token"
  | .labelRepeated => "Duplicate #[label]"
  | .blankTag => "Label tag must not be blank"
  | .tagWithSeparator => "Label tag must not contain '_'"
  | .genericMember => "Tagged members cannot be generic"
  | .receiverNotShared => "Tagged members must take `&self`"
  | .outputMissing => "Tagged members must return a value"
  | .parameterNotNamed => "Parameters of tagged members must be plain identifiers"
  | .parameterReference true =>
    "Parameters of tagged members cannot be references, use `String` instead of `&str`"
  | .parameterReference false =>
    "Parameters of tagged members cannot be references, use an owned type"

end ExpansionError

end Waymark
