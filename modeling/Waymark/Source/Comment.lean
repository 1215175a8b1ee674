import Waymark.Source.Lexeme

/-!
# Comments of source code

Most comments are dropped like blanks; one that documents something is an attribute
written in another way.
-/

namespace Waymark.Source

/-- Documentation is of what follows it or, if it is inner, of what it stands in. -/
inductive Comment where
  | plain
  | documentation (isInner : Bool) (text : List Char)

namespace Comment

def lexemes : Comment → List Lexeme
  | .plain => []
  | .documentation isInner text =>
    .mark '#' isInner :: (if isInner then [.mark '!' false] else []) ++
      [.opening .square, .token (.name "doc"), .mark '=' false,
        .token (.text (String.ofList text)), .closing .square]

/-- The comment that a line behind two slashes is. A third slash makes it documentation,
a fourth one plain again. -/
def ofLine : List Char → Comment
  | '/' :: '/' :: _ => .plain
  | '/' :: text => .documentation false text
  | '!' :: text => .documentation true text
  | _ => .plain

/-- The comment that a text between a slash with a star and a star with a slash is. A
second star makes it documentation if something other than a star follows. -/
def ofBlock : List Char → Comment
  | ['*'] => .plain
  | '*' :: '*' :: _ => .plain
  | '*' :: text => .documentation false text
  | '!' :: text => .documentation true text
  | _ => .plain

/-- The text of a block comment up to its end, and what follows it. Comments may be
nested; `inner` of them are open inside this one. -/
def blockText? : Nat → List Char → Option (List Char × List Char)
  | _, [] => none
  | 0, '*' :: '/' :: rest => some ([], rest)
  | inner + 1, '*' :: '/' :: rest =>
    (blockText? inner rest).map fun (text, rest) => ('*' :: '/' :: text, rest)
  | inner, '/' :: '*' :: rest =>
    (blockText? (inner + 1) rest).map fun (text, rest) => ('/' :: '*' :: text, rest)
  | inner, c :: rest => (blockText? inner rest).map fun (text, rest) => (c :: text, rest)

/-- What stands in front of the end of a line, which is a line feed, perhaps behind a
carriage return. -/
def lineText (text : List Char) : List Char :=
  let line := text.takeWhile (· ≠ '\n')
  if line.getLast? = some '\r' then line.dropLast else line

def read? : List Char → Option (Comment × List Char)
  | '/' :: '/' :: rest => some (ofLine (lineText rest), rest.dropWhile (· ≠ '\n'))
  | '/' :: '*' :: rest => (blockText? 0 rest).map fun (text, rest) => (ofBlock text, rest)
  | _ => none

end Comment

end Waymark.Source
