import Waymark.Shape

/-!
# Compilers and consumers

A compiler keeps the shapes of the identifiers it has compiled, one per spelling
without empty segments, and counts them. Failures are not kept. A consumer is a shape
with parameters: all that is left is to give it a provider.
-/

namespace Waymark

structure Compiler (ι : Type) where
  root : SectionKey
  shapes : Dict String (Shape ι) := .empty
  compilations : Nat := 0

structure Consumer (ι : Type) where
  shape : Shape ι
  parameters : Arguments

/-- A consumer that is a function, for texts that no registry knows. -/
structure DirectConsumer (ι : Type) where
  read : ι → String

/-- What an operation on a compiler leaves: its result, the compiler after it, and what
it reported. -/
structure Compiled (ι α : Type) where
  result : Except LabelError α
  compiler : Compiler ι
  notices : List Notice

namespace Consumer

variable {ι : Type}

def text (consumer : Consumer ι) (provider : ι) : Except LabelError String :=
  consumer.shape.run ⟨consumer.shape.root, provider⟩ consumer.parameters

def notices (consumer : Consumer ι) (provider : ι) : List Notice :=
  consumer.shape.runNotices ⟨consumer.shape.root, provider⟩ consumer.parameters

def rebind (consumer : Consumer ι) (parameters : Arguments) : Consumer ι :=
  { consumer with parameters }

def inspect (consumer : Consumer ι) : String :=
  Inspect.record "Consumer"
    [("identifier", Text.quoted consumer.shape.identifier),
      ("parameters", Label.inspectParameters consumer.parameters)]

end Consumer

namespace DirectConsumer

variable {ι : Type}

def text (consumer : DirectConsumer ι) (provider : ι) : Except LabelError String :=
  .ok (consumer.read provider)

def inspect (_ : DirectConsumer ι) : String := "FnConsumer"

end DirectConsumer

namespace Compiler

variable {ι : Type}

/-- Whether an identifier, or another spelling of it, has been compiled. -/
def isCached (compiler : Compiler ι) (identifier : String) : Bool :=
  compiler.shapes.contains (Identifier.canonical identifier)

/-- The shape of an identifier. It is compiled only if no spelling of the identifier
was compiled before. -/
def shape (compiler : Compiler ι) (registry : Registry ι) (identifier : String) :
    Compiled ι (Shape ι) :=
  let spelling := Identifier.canonical identifier
  if spelling.isEmpty then
    ⟨.error (.invalidIdentifier identifier), compiler, []⟩
  else
    match compiler.shapes.get? spelling with
    | some shape => ⟨.ok shape, compiler, []⟩
    | none =>
      match registry.compile compiler.root spelling with
      | .error error => ⟨.error error, compiler, []⟩
      | .ok shape =>
        let count := compiler.compilations + 1
        ⟨.ok shape,
          { compiler with
            shapes := compiler.shapes.insert spelling shape
            compilations := count },
          [.compiled spelling shape.depth count]⟩

/-- The consumer of a label; a blank identifier has none. -/
def build (compiler : Compiler ι) (registry : Registry ι) (label : Label) :
    Compiled ι (Option (Consumer ι)) :=
  if Text.isBlank label.identifier then
    ⟨.ok none, compiler, []⟩
  else
    let compiled := compiler.shape registry label.identifier
    ⟨compiled.result.map fun shape => some ⟨shape, label.parameters⟩, compiled.compiler,
      compiled.notices⟩

def inspect (compiler : Compiler ι) (registry : Registry ι) : String :=
  Inspect.record "LabelCompiler"
    [("registry", registry.inspect), ("cached_shapes", Value.intText compiler.shapes.size),
      ("compilations", Value.intText compiler.compilations)]

end Compiler

end Waymark
