import Waymark.Source.Grammar.Patterns

/-!
# Items

The forms of items: functions, types, traits, implementations and so on. Items that are
only half written, such as a function without a body, are kept as they are written.
-/

namespace Waymark.Source.Grammar

open Form

/-! ## Parts of items -/

def visibility : Clause :=
  maybe
    (word "pub" ++
      maybe
        (group .round (word "crate" <|> word "self" <|> word "super" <|>
          word "in" ++ plainPath)))

def defaultness : Clause := maybe (word "default" ++ absent (mark "!"))

def typed : Clause := mark ":" ++ type

def assigned : Clause := mark "=" ++ expression

def itemsOf (item : Clause) : Clause := group .curly (innerAttributes ++ many item)

def invocationItem : Clause :=
  plainPath ++ mark "!" ++
    (rawGroup .curly <|> (rawGroup .round <|> rawGroup .square) ++ semicolon)

def namedInvocationItem : Clause :=
  plainPath ++ mark "!" ++ (name <|> word "try") ++
    (rawGroup .curly <|> (rawGroup .round <|> rawGroup .square) ++ semicolon)

def attributed (item : Clause) : Clause := attributes ++ (item <|> invocationItem)

/-! ## Functions -/

def receiver : Clause :=
  mark "&" ++ maybe lifetime ++ maybe (word "mut") ++ word "self" ++ absent (mark ":") <|>
    maybe (word "mut") ++ word "self" ++ maybe (colon ++ type) ++ absent (mark ":")

/-- A parameter of a function. A type alone gets a gap in front of it if it is a name with
arguments. -/
def functionParameter : Clause :=
  attributes ++
    (mark "..." <|> receiver <|>
      ahead (name ++ mark "<") ++ unwritten [.name "_", .mark ":"] ++ type <|>
      rule .pattern ++ mark ":" ++ (mark "..." <|> type))

/-- The head of a function; `qualifiers` stand between the word for asynchronous functions
and the calling convention. -/
def headWith (qualifiers : Clause) : Clause :=
  maybe (word "const") ++ maybe (word "async") ++ qualifiers ++ maybe callingConvention ++
    word "fn" ++ name ++ generics ++ inParentheses functionParameter ++
    maybe (mark "->" ++ type) ++ conditions

def functionHead : Clause := headWith (maybe (word "unsafe"))

/-! ## Constants and names of types -/

def anyConstant : Clause :=
  word "const" ++ nameOrGap ++ generics ++ typed ++ maybe assigned ++ conditions ++ semicolon

def constant : Clause := word "const" ++ nameOrGap ++ typed ++ assigned ++ semicolon

def anyTypeName : Clause :=
  word "type" ++ name ++ generics ++ boundsOf (rule .bound) ++ conditions ++
    maybe (mark "=" ++ type) ++ conditions ++ semicolon

/-! ## Structures -/

/-- A field with a name; one with an underscore instead may have fields of its own, which
are kept as they are written. -/
def namedField : Clause :=
  attributes ++ visibility ++
    (word "_" ++ mark ":" ++
        verbatim ((word "struct" <|> word "union") ++ rawGroup .curly) <|>
      nameOrGap ++ typed)

def unnamedField : Clause := attributes ++ visibility ++ type

/-- A case of an enumeration. Who may use it is not spelled. -/
def variant : Clause :=
  attributes ++ silent visibility ++ name ++
    maybe (inBraces namedField <|> inParentheses unnamedField) ++ maybe assigned

def dataType : Clause :=
  visibility ++
    (word "struct" ++ name ++ generics ++
        (inParentheses unnamedField ++ conditions ++ semicolon <|>
          conditions ++ (inBraces namedField <|> semicolon)) <|>
      word "union" ++ name ++ generics ++ conditions ++ inBraces namedField <|>
      word "enum" ++ name ++ generics ++ conditions ++ inBraces variant)

/-! ## Traits -/

def traitItem : Clause :=
  attributed
      (functionHead ++ (block <|> semicolon) <|>
        word "const" ++ nameOrGap ++ typed ++ maybe assigned ++ semicolon <|>
        word "type" ++ name ++ generics ++ boundsOf (rule .bound) ++ maybe (mark "=" ++ type) ++
          conditions ++ semicolon) <|>
    verbatim
      (attributes ++ visibility ++ defaultness ++
        (functionHead ++ (block <|> semicolon) <|> anyConstant <|> anyTypeName))

def trait : Clause :=
  visibility ++ maybe (word "unsafe") ++ maybe (word "auto") ++ word "trait" ++ name ++
    generics ++
    (mark "=" ++ listed "+" (rule .bound) ++ conditions ++ semicolon <|>
      boundsOf (rule .bound) ++ conditions ++ itemsOf traitItem)

/-! ## Implementations -/

def implementedItem : Clause :=
  attributed
      (visibility ++ defaultness ++
        (functionHead ++ block <|> constant <|>
          word "type" ++ name ++ generics ++ mark "=" ++ type ++ conditions ++ semicolon)) <|>
    verbatim
      (attributes ++ visibility ++ defaultness ++
        (functionHead ++ semicolon <|> anyConstant <|> anyTypeName))

/-- What shows that an angle bracket behind the word `impl` opens generic parameters and
not a type that a name is looked up in. -/
def opensGenerics : Clause :=
  ahead
    (mark "<" ++
      (mark ">" <|> mark "#" <|> word "const" <|>
        (lifetime <|> name) ++ (mark ">" <|> mark "," <|> colon <|> mark "=")))

def implementationHead : Clause :=
  maybe (word "default") ++ maybe (word "unsafe") ++ word "impl" ++
    maybe (opensGenerics ++ generics)

/-- An exclamation mark in front of a trait that is not implemented. -/
def negation : Clause := mark "!" ++ absent (rawGroup .curly)

def implementation : Clause :=
  implementationHead ++
    (maybe negation ++ pathOf typeSegment ++ maybe functionArguments ++ word "for" ++ type <|>
      verbatim (negation ++ type) <|> type) ++
    conditions ++ itemsOf implementedItem

/-- An implementation of something else than a trait, one that is constant, or one with a
visibility. -/
def oddImplementation : Clause :=
  visibility ++ implementationHead ++ maybe (maybe (mark "?") ++ word "const") ++ maybe negation ++
    type ++ maybe (word "for" ++ type) ++ conditions ++ rawGroup .curly

/-! ## Items of other languages -/

def foreignItem : Clause :=
  attributed
      (visibility ++
        (functionHead ++ semicolon <|>
          word "static" ++ maybe (word "mut") ++ name ++ typed ++ semicolon <|>
          word "type" ++ name ++ generics ++ conditions ++ semicolon)) <|>
    verbatim
      (attributes ++ visibility ++
        (headWith (maybe (word "unsafe" <|> word "safe")) ++ (rawGroup .curly <|> semicolon) <|>
          maybe (word "unsafe" <|> word "safe") ++ word "static" ++ maybe (word "mut") ++ name ++
            typed ++ maybe assigned ++ semicolon <|>
          anyTypeName))

/-! ## Items -/

def spelledItem : Clause :=
  visibility ++ functionHead ++ block <|>
    visibility ++ word "extern" ++ word "crate" ++ (name <|> word "self") ++
      maybe (word "as" ++ nameOrGap) ++ semicolon <|>
    maybe (word "unsafe") ++ callingConvention ++ itemsOf foreignItem <|>
    visibility ++ verbatim (word "use" ++ many (absent semicolon ++ anyTree)) ++ semicolon <|>
    visibility ++ word "static" ++ maybe (word "mut") ++ name ++ typed ++ assigned ++ semicolon <|>
    visibility ++ constant <|>
    visibility ++ maybe (word "unsafe") ++ word "mod" ++ name ++
      (semicolon <|> itemsOf (rule .item <|> attributes ++ invocationItem)) <|>
    visibility ++ word "type" ++ name ++ generics ++ conditions ++ mark "=" ++ type ++
      semicolon <|>
    dataType <|> trait <|> implementation <|> namedInvocationItem

def rawItem : Clause :=
  visibility ++ functionHead ++ semicolon <|>
    visibility ++ word "static" ++ maybe (word "mut") ++ name ++ maybe typed ++ maybe assigned ++
      semicolon <|>
    visibility ++ anyConstant <|>
    visibility ++ anyTypeName <|>
    oddImplementation <|>
    visibility ++ word "macro" ++ name ++ maybe (rawGroup .round) ++ rawGroup .curly

def itemForm : Clause := attributes ++ spelledItem <|> verbatim (attributes ++ rawItem)

end Waymark.Source.Grammar
