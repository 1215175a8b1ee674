import Waymark.Registry.Tables

/-!
# Registries

A registry has a collision policy and is filled at most once: the first attempt decides
for good, whether it succeeds or not. Lookups in a registry without tables find nothing.
-/

namespace Waymark

/-- A registry with what its first filling gave, if there was one. -/
structure Registry (ι : Type) where
  policy : CollisionPolicy := .lastWins
  outcome : Option (Except LabelError (Tables ι)) := none

namespace Registry

variable {ι : Type}

instance : Inhabited (Registry ι) := ⟨{}⟩

/-! ## Filling -/

/-- The registry after an attempt to fill it from a root. Only the first one counts. -/
def filled (registry : Registry ι) (atlas : Atlas ι) (root : SectionKey) : Registry ι :=
  match registry.outcome with
  | some _ => registry
  | none => { registry with outcome := some (Tables.ofAtlas registry.policy atlas root) }

def tables (registry : Registry ι) : Except LabelError (Tables ι) :=
  match registry.outcome with
  | some outcome => outcome
  | none => .error .notInitialized

/-- Whether a registry serves a root: it has tables, and they are of that root. -/
def serves (registry : Registry ι) (root : SectionKey) : Except LabelError Unit :=
  match registry.tables with
  | .error error => .error error
  | .ok tables =>
    if tables.root = root then .ok () else .error (.rootMismatch root.name tables.root.name)

def fillResult (registry : Registry ι) (atlas : Atlas ι) (root : SectionKey) :
    Except LabelError Unit :=
  (registry.filled atlas root).serves root

def fillNotices (registry : Registry ι) (atlas : Atlas ι) (root : SectionKey) : List Notice :=
  match registry.outcome with
  | none => Tables.ofAtlasNotices registry.policy atlas root
  | some (.error _) => []
  | some (.ok tables) => if tables.root = root then [] else [.otherRoot tables.root root]

/-! ## Lookups -/

def tables? (registry : Registry ι) : Option (Tables ι) := registry.tables.toOption

def isFilled (registry : Registry ι) : Bool := registry.tables?.isSome

def root? (registry : Registry ι) : Option SectionKey := registry.tables?.map Tables.root

def resolve? (registry : Registry ι) (owner : SectionKey) (tag : String) :
    Option (Accessor ι) :=
  registry.tables?.bind fun tables => tables.resolve? owner tag

def tag? (registry : Registry ι) (member : Member) : Option String :=
  registry.tables?.bind fun tables => tables.tag? member

def parameterTag? (registry : Registry ι) (member : Member) (position : Nat) :
    Option String :=
  registry.tables?.bind fun tables => tables.parameterTag? member position

def membersOf (registry : Registry ι) (owner : SectionKey) : List (Accessor ι) :=
  match registry.tables? with
  | some tables => tables.membersOf owner
  | none => []

def size (registry : Registry ι) : Nat :=
  match registry.tables? with
  | some tables => tables.size
  | none => 0

def inspect (registry : Registry ι) : String :=
  Inspect.record "Registry"
    [("config",
        Inspect.record "RegistryConfig" [("collision_policy", registry.policy.inspect)]),
      ("root", Inspect.option (registry.root?.map SectionKey.inspect)),
      ("accessors", Value.intText registry.size)]

end Registry

end Waymark
