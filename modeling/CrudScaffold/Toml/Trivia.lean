/-!
# Space and comments

What stands between the parts of a setting document. A parser takes the characters that are left
and gives what it has read with the characters behind it.
-/

namespace CrudScaffold.Toml

/-- A parser of something. -/
abbrev Parser (α : Type) := List Char → Option (α × List Char)

/-- Space within a line. -/
def isSpace (c : Char) : Bool := c == ' ' || c == '\t'

/-- A character that is not a control character, or a tab. -/
def isPlain (c : Char) : Bool := c == '\t' || (' ' ≤ c && c ≠ '\x7F')

/-- The characters between two ends of the input, without carriage returns. -/
def between (before after : List Char) : String :=
  String.ofList ((before.take (before.length - after.length)).filter (· ≠ '\r'))

/-- The characters between two ends of the input as they are. -/
def written (before after : List Char) : String :=
  String.ofList (before.take (before.length - after.length))

/-- Skips space within a line. -/
def skipSpace (cs : List Char) : List Char := cs.dropWhile isSpace

/-- Skips the end of a line, which may be the end of the document. -/
def lineEnd? : List Char → Option (List Char)
  | [] => some []
  | '\n' :: rest => some rest
  | '\r' :: '\n' :: rest => some rest
  | _ => none

/-- Skips a comment up to the end of its line. -/
def skipComment : List Char → List Char
  | '#' :: rest => rest.dropWhile isPlain
  | cs => cs

/-- Reads what may follow on a line, and the end of the line. -/
def lineRest? : Parser String := fun cs => do
  let after := skipComment (skipSpace cs)
  return (between cs after, ← lineEnd? after)

/-- Skips space, comments and ends of lines. -/
def skipGap (inComment : Bool) : List Char → List Char
  | [] => []
  | '\n' :: rest => skipGap false rest
  | '\r' :: '\n' :: rest => skipGap false rest
  | c :: rest =>
    if inComment && isPlain c then skipGap true rest
    else if isSpace c then skipGap false rest
    else if c = '#' then skipGap true rest
    else c :: rest

/-- Reads space, comments and ends of lines. -/
def gap (cs : List Char) : String × List Char :=
  let after := skipGap false cs
  (between cs after, after)

end CrudScaffold.Toml
