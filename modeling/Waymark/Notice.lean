import Waymark.CollisionPolicy
import Waymark.Path

/-!
# Notices

What registries, encoding and compiling report while they work. A notice names its
cause; its level and its wording are functions of the cause.
-/

namespace Waymark

inductive Level where
  | error
  | warn
  | debug
  | trace
  deriving DecidableEq, Repr

def Level.name : Level → String
  | .error => "ERROR"
  | .warn => "WARN"
  | .debug => "DEBUG"
  | .trace => "TRACE"

inductive Notice where
  | unknownPolicy (text problem : String)
  | describing (key : SectionKey)
  | skipped (member : Member) (tag : String)
  | moved (tag : String) (owner : SectionKey) (previous next : String)
  | collided (tag : String) (owner : SectionKey) (previous next : String)
  | filled (root : SectionKey) (sections accessors parameters : Nat)
  /-- A filled registry was to be filled from another root. -/
  | otherRoot (root requested : SectionKey)
  | foreignRoot (path : Path)
  | untagged (member : Member) (path : Path)
  /-- An identifier was compiled; shapes are counted per compiler. -/
  | compiled (identifier : String) (steps count : Nat)
  | defaulted (tag : String) (kind : Kind)

namespace Notice

def level : Notice → Level
  | .collided .. => .error
  | .unknownPolicy .. | .skipped .. | .moved .. | .otherRoot .. => .warn
  | .describing .. | .filled .. | .foreignRoot .. | .untagged .. | .compiled .. => .debug
  | .defaulted .. => .trace

def message : Notice → String
  | .unknownPolicy text problem =>
    let shown := Text.quoted text
    let default := CollisionPolicy.lastWins.name
    s!"[config] TAGPATH_COLLISION_POLICY={shown}: {problem}. Using '{default}'."
  | .describing key => s!"[registry] describing section {key.shortName}"
  | .skipped member tag =>
    let shown := Text.quoted tag
    s!"[registry] skipping {member.display}: tag {shown} is blank or contains '_'"
  | .moved tag owner previous next =>
    s!"[registry] tag '{tag}' on {owner.shortName} moves from '{previous}' to '{next}'"
  | .collided tag owner previous next =>
    s!"[registry] tag '{tag}' declared by both '{previous}' and '{next}' on {owner.shortName}"
  | .filled root sections accessors parameters =>
    s!"[registry] initialized from {root.shortName}: {sections} section(s), " ++
      s!"{accessors} accessor(s), {parameters} parameter(s)"
  | .otherRoot root requested =>
    s!"[registry] already initialized from {root.shortName}, ignoring {requested.shortName}"
  | .foreignRoot path =>
    s!"[encoder] {path.display} is not rooted at the registry root, no label"
  | .untagged member path =>
    s!"[encoder] {member.display} has no tag, no label for {path.display}"
  | .compiled identifier steps count =>
    s!"[compiler] compiled '{identifier}' ({steps} step(s), compilation #{count})"
  | .defaulted tag kind =>
    s!"[compiler] parameter '{tag}' missing or not {kind.name}, using default"

def line (notice : Notice) : String := notice.level.name ++ " " ++ notice.message

end Notice

namespace CollisionPolicy

/-- The policy that a setting asks for: the default if it is absent or unknown. -/
def ofSetting (setting : Option String) : CollisionPolicy :=
  match setting with
  | none => .lastWins
  | some text =>
    match ofText? text with
    | .ok policy => policy
    | .error _ => .lastWins

def settingNotices (setting : Option String) : List Notice :=
  match setting with
  | none => []
  | some text =>
    match ofText? text with
    | .ok _ => []
    | .error problem => [.unknownPolicy text problem]

end CollisionPolicy

end Waymark
