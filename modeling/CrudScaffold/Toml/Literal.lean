import CrudScaffold.Toml.Number
import CrudScaffold.Toml.Table

/-!
# Literals

Reads values together with the text they are printed as. A plain value is printed as it was
written. Lists and tables between brackets are put together again from their parts; in the space
between the parts carriage returns get lost, and keys of a common path stand together.
-/

namespace CrudScaffold.Toml

/-- Reads a text, a word or a number. -/
def plain? : Parser Value := fun cs =>
  match cs with
  | '"' :: _ => (quoted? cs).map fun (s, rest) => (.text (String.ofList s), rest)
  | '\'' :: _ => (quoted? cs).map fun (s, rest) => (.text (String.ofList s), rest)
  | 't' :: 'r' :: 'u' :: 'e' :: rest => some (.boolean true, rest)
  | 'f' :: 'a' :: 'l' :: 's' :: 'e' :: rest => some (.boolean false, rest)
  | _ => moment? cs <|> float? cs <|> integer? cs

/-- Reads a plain value with its text. -/
def plainLiteral? : Parser Literal := fun cs => do
  let (value, rest) ← plain? cs
  return (⟨value, written cs rest⟩, rest)

/-- Reads what follows the opening bracket of a list. -/
def listRest? (element? : Parser Literal) : Nat → Parser (List Value × String)
  | 0 => fun _ => none
  | fuel + 1 => fun cs =>
    let (before, cs) := gap cs
    match cs with
    | ']' :: rest => some (([], before ++ "]"), rest)
    | cs => do
      let (literal, cs) ← element? cs
      let (after, cs) := gap cs
      let text := before ++ literal.text ++ after
      match cs with
      | ']' :: rest => return (([literal.value], text ++ "]"), rest)
      | ',' :: rest =>
        let ((values, more), rest) ← listRest? element? fuel rest
        return ((literal.value :: values, text ++ "," ++ more), rest)
      | _ => none

/-- Reads an entry of a table between braces. -/
def member? (element? : Parser Literal) : Parser (Path × Item) := fun cs => do
  let (path, cs) ← path? cs
  match cs with
  | '=' :: cs =>
    let start := skipSpace cs
    let (literal, stop) ← element? start
    let rest := skipSpace stop
    return ((path, .value literal (some ⟨written cs start, written stop rest⟩)), rest)
  | _ => none

/-- Reads entries up to the closing brace. -/
def membersRest? (element? : Parser Literal) : Nat → Parser (List (Path × Item))
  | 0 => fun _ => none
  | fuel + 1 => fun cs => do
    let (entry, cs) ← member? element? cs
    match cs with
    | '\x7d' :: rest => return ([entry], rest)
    | ',' :: rest =>
      let (entries, rest) ← membersRest? element? fuel rest
      return (entry :: entries, rest)
    | _ => none

/-- A table of entries under paths. -/
def Entries.ofMembers? (members : List (Path × Item)) : Option Entries :=
  members.foldlM (fun entries (path, item) => entries.put? path item) []

/-- A table between braces. -/
def Entries.toLiteral (entries : Entries) : Literal where
  value := .table (Entries.toValues entries)
  text := "\x7b" ++ ",".intercalate (entries.lines.map fun l => l.write ⟨" ", " "⟩ ⟨" ", ""⟩) ++
    "\x7d"

/-- Reads what follows the opening brace of a table. -/
def tableRest? (element? : Parser Literal) : Parser Literal := fun cs =>
  match skipSpace cs with
  | '\x7d' :: rest => some (⟨.table [], "\x7b" ++ written cs rest⟩, rest)
  | _ => do
    let (members, rest) ← membersRest? element? cs.length cs
    return ((← Entries.ofMembers? members).toLiteral, rest)

/-- Brackets and braces are at most this deep. -/
def deepest : Nat := 79

/-- Reads a value whose brackets and braces are at most as deep as the number says. -/
def literalWithin? : Nat → Parser Literal
  | 0 => plainLiteral?
  | depth + 1 => fun cs =>
    match cs with
    | '[' :: rest => do
      let ((values, text), rest') ← listRest? (literalWithin? depth) rest.length rest
      return (⟨.list values, "[" ++ text⟩, rest')
    | '\x7b' :: rest => tableRest? (literalWithin? depth) rest
    | _ => plainLiteral? cs

/-- Reads a value. -/
def literal? : Parser Literal := literalWithin? deepest

end CrudScaffold.Toml
