import Waymark.Compiler
import Waymark.Encoding

/-!
# Workspaces

A workspace holds registries, compilers and consumers, each numbered in the order in
which it was made. Every compiler belongs to a registry, every consumer to a compiler;
a compiler made before its registry is filled sees the tables once they are there.
-/

namespace Waymark

/-- Numbered registries, compilers with their registries, and consumers with their
compilers. -/
structure Workspace (ι : Type) where
  registries : List (Registry ι) := []
  compilers : List (Nat × Compiler ι) := []
  consumers : List (Nat × Consumer ι) := []

structure Done (ι α : Type) where
  result : α
  workspace : Workspace ι
  notices : List Notice := []

namespace Workspace

variable {ι : Type}

/-- The registry of a number; an unknown number stands for one that was never filled. -/
def registry (workspace : Workspace ι) (number : Nat) : Registry ι :=
  workspace.registries[number]?.getD {}

def compiler? (workspace : Workspace ι) (number : Nat) :
    Option (Compiler ι × Registry ι) :=
  workspace.compilers[number]?.map fun (registry, compiler) =>
    (compiler, workspace.registry registry)

def consumer? (workspace : Workspace ι) (number : Nat) : Option (Consumer ι) :=
  workspace.consumers[number]?.map Prod.snd

/-- The number of the compiler that a kept consumer comes from. -/
def compilerOf (workspace : Workspace ι) (number : Nat) : Nat :=
  (workspace.consumers[number]?.map Prod.fst).getD 0

def addRegistry (workspace : Workspace ι) (policy : CollisionPolicy) : Done ι Nat where
  result := workspace.registries.length
  workspace := { workspace with registries := workspace.registries ++ [{ policy }] }

def addCompiler (workspace : Workspace ι) (registry : Nat) (root : SectionKey) : Done ι Nat where
  result := workspace.compilers.length
  workspace :=
    { workspace with compilers := workspace.compilers ++ [(registry, { root })] }

def addConsumer (workspace : Workspace ι) (compiler : Nat) (consumer : Consumer ι) :
    Done ι Nat where
  result := workspace.consumers.length
  workspace := { workspace with consumers := workspace.consumers ++ [(compiler, consumer)] }

def fill (workspace : Workspace ι) (atlas : Atlas ι) (number : Nat) (root : SectionKey) :
    Done ι (Except LabelError Unit) :=
  let registry := workspace.registry number
  { result := registry.fillResult atlas root
    workspace :=
      { workspace with
        registries := workspace.registries.set number (registry.filled atlas root) }
    notices := registry.fillNotices atlas root }

def encode (workspace : Workspace ι) (number : Nat) (path : Path) : Done ι Encoding :=
  let encoding := (workspace.registry number).encode path
  { result := encoding
    workspace := workspace
    notices := encoding.notices path }

/-- Runs an operation of the compiler of a number; an unknown number has no registry
that was filled. -/
def withCompiler {α : Type} (workspace : Workspace ι) (number : Nat)
    (operation : Compiler ι → Registry ι → Compiled ι α) : Done ι (Except LabelError α) :=
  match workspace.compilers[number]? with
  | none => { result := .error .notInitialized, workspace := workspace }
  | some (registry, compiler) =>
    let compiled := operation compiler (workspace.registry registry)
    { result := compiled.result
      workspace :=
        { workspace with
          compilers := workspace.compilers.set number (registry, compiled.compiler) }
      notices := compiled.notices }

def shape (workspace : Workspace ι) (number : Nat) (identifier : String) :
    Done ι (Except LabelError (Shape ι)) :=
  workspace.withCompiler number fun compiler registry => compiler.shape registry identifier

def build (workspace : Workspace ι) (number : Nat) (label : Label) :
    Done ι (Except LabelError (Option (Consumer ι))) :=
  workspace.withCompiler number fun compiler registry => compiler.build registry label

/-- Whether two kept consumers share one shape. A compiler keeps one shape for each
identifier, so they do if they come from one compiler and spell one identifier. -/
def sharesShape (workspace : Workspace ι) (left right : Nat) : Bool :=
  match workspace.consumers[left]?, workspace.consumers[right]? with
  | some (compiler, consumer), some (compiler', consumer') =>
    compiler = compiler' && consumer.shape.identifier = consumer'.shape.identifier
  | _, _ => false

end Workspace

end Waymark
