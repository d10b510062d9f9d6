import CrudScaffold.Config.Setting
import CrudScaffold.Text.Blank

/-!
# Settings of the environment

A variable whose name begins with `BLUEPRINT_` sets what the rest of its name says. Two
underscores in a row part the section from the key. Its text is read as a flag, a number, a text
in quotes, a list in brackets or a table in braces. A text that is none of these is the setting
itself.
-/

namespace CrudScaffold.Environment

/-- A parser of something. -/
abbrev Parser (α : Type) := List Char → Option (α × List Char)

/-- Space between the parts of a value. -/
def isSpace (c : Char) : Bool :=
  c == ' ' || c == '\t' || c == '\n' || c == '\x0C' || c == '\r'

/-- Skips space. -/
def skipSpace (cs : List Char) : List Char := cs.dropWhile isSpace

/-- A character that ends a bare value. -/
def isSeparator (c : Char) : Bool :=
  c == ',' || c == '\x7b' || c == '\x7d' || c == '[' || c == ']'

/-! ### Texts in quotes -/

/-- Takes the characters up to the closing quote. -/
def quotedRaw : Parser (List Char)
  | [] => none
  | '"' :: rest => some ([], rest)
  | '\\' :: c :: rest => (quotedRaw rest).map fun (s, rest) => ('\\' :: c :: s, rest)
  | c :: rest => (quotedRaw rest).map fun (s, rest) => (c :: s, rest)

/-- The text that the characters between quotes stand for. -/
def unescape? : List Char → Option (List Char)
  | [] => some []
  | '\\' :: 'u' :: a :: b :: c :: d :: rest => do
    return (← Toml.scalar? [a, b, c, d]) :: (← unescape? rest)
  | '\\' :: 'U' :: a :: b :: c :: d :: e :: f :: g :: h :: rest => do
    return (← Toml.scalar? [a, b, c, d, e, f, g, h]) :: (← unescape? rest)
  | '\\' :: c :: rest => do return (← Toml.escaped? c) :: (← unescape? rest)
  | c :: rest => if Toml.isPlain c && c ≠ '\\' then (unescape? rest).map (c :: ·) else none

/-- Reads a text in double quotes. -/
def quoted? : Parser String
  | '"' :: cs => do
    let (raw, rest) ← quotedRaw cs
    return (String.ofList (← unescape? raw), rest)
  | _ => none

/-! ### Numbers -/

/-- Skips an exponent that ends the text. -/
def isExponent : List Char → Bool
  | [] => true
  | c :: rest =>
    if c = 'e' ∨ c = 'E' then
      let digits := (Toml.sign rest).2
      !digits.isEmpty && digits.all Char.isDigit
    else false

/-- The text is a number with a point. -/
def isDecimal (cs : List Char) : Bool :=
  let cs := (Toml.sign cs).2
  let whole := cs.takeWhile Char.isDigit
  match cs.dropWhile Char.isDigit with
  | '.' :: cs =>
    let fraction := cs.takeWhile Char.isDigit
    !(whole.isEmpty && fraction.isEmpty) && isExponent (cs.dropWhile Char.isDigit)
  | _ => false

/-- The whole number that a text spells, if it is within 64 bits. -/
def integer? (cs : List Char) : Option Int :=
  let (negative, digits) := Toml.sign cs
  if digits.isEmpty || !digits.all Char.isDigit then none
  else
    let n := Toml.numberOf 10 digits
    if negative then if n ≤ Toml.wordLimit then some (-(n : Int)) else none
    else if n < 2 * Toml.wordLimit then some n else none

/-- A value that is written bare. -/
def bare (cs : List Char) : Setting :=
  let s := Text.trim (String.ofList cs)
  if isDecimal s.toList then .float
  else match integer? s.toList with
    | some n => .integer n
    | none => .text s

/-! ### Values -/

/-- A character of a bare key. -/
def isKeyChar (c : Char) : Bool := c.isAlphanum || c == '_' || c == '-'

/-- Reads a key. -/
def key? : Parser String := fun cs =>
  match cs with
  | '"' :: _ => quoted? cs
  | _ =>
    match cs.takeWhile isKeyChar with
    | [] => none
    | word => some (String.ofList word, cs.dropWhile isKeyChar)

/-- Reads a key with its value. -/
def pair? (value? : Parser Setting) : Parser (String × Setting) := fun cs => do
  let (key, cs) ← key? (skipSpace cs)
  match skipSpace cs with
  | '=' :: cs =>
    let (value, cs) ← value? (skipSpace cs)
    return ((key, value), skipSpace cs)
  | _ => none

/-- Reads items with commas between them, and the character that closes them. A comma may stand
behind the last one. -/
def items? (close : Char) (item? : Parser α) : Nat → Parser (List α)
  | 0 => fun _ => none
  | fuel + 1 => fun cs =>
    if cs.head? = some close then some ([], cs.drop 1)
    else do
      let (item, cs) ← item? cs
      match cs with
      | ',' :: cs =>
        let (items, rest) ← items? close item? fuel cs
        return (item :: items, rest)
      | c :: rest => if c = close then return ([item], rest) else none
      | [] => none

/-- A table of entries, of which the later ones count. -/
def tableOf (entries : List (String × Setting)) : Setting :=
  .table (entries.foldl (fun table (k, v) => Setting.change k (fun _ => v) table) [])

/-- Reads a value. The number is at least the depth of its brackets and braces. -/
def valueWithin? : Nat → Parser Setting
  | 0 => fun _ => none
  | depth + 1 => fun cs => do
    let cs := skipSpace cs
    let (value, rest) ← match cs with
      | 't' :: 'r' :: 'u' :: 'e' :: rest => some (.boolean true, rest)
      | 'f' :: 'a' :: 'l' :: 's' :: 'e' :: rest => some (.boolean false, rest)
      | '\x7b' :: rest => do
        let (entries, rest') ← items? '\x7d' (pair? (valueWithin? depth)) (rest.length + 1) rest
        some (tableOf entries, rest')
      | '[' :: rest => do
        let (items, rest') ← items? ']' (valueWithin? depth) (rest.length + 1) rest
        some (.list items, rest')
      | '"' :: _ => (quoted? cs).map fun (s, rest) => (.text s, rest)
      | '\'' :: c :: '\'' :: rest => some (.text (String.singleton c), rest)
      | '\'' :: _ => none
      | cs => some (bare (cs.takeWhile (!isSeparator ·)), cs.dropWhile (!isSeparator ·))
    return (value, skipSpace rest)

/-- The setting that the text of a variable stands for. -/
def value (s : String) : Setting :=
  match valueWithin? (s.length + 1) s.toList with
  | some (v, []) => v
  | _ => .text s

/-! ### Names -/

/-- The name that begins every variable of a setting. -/
def start : List Char := "blueprint_".toList

/-- Parts a name at two underscores in a row and at points. -/
def parts : List Char → List (List Char)
  | [] => [[]]
  | '_' :: '_' :: rest => [] :: parts rest
  | '.' :: rest => [] :: parts rest
  | c :: rest =>
    match parts rest with
    | first :: more => (c :: first) :: more
    | [] => [[c]]

/-- The path of keys that a variable sets, if it sets any. Neither case nor space around the parts
of the name counts. -/
def path? (name : String) : Option (List String) :=
  let name := ((Text.trim name).toList).map Char.toLower
  if start.isPrefixOf name then
    let keys := parts (Text.trimChars (name.drop start.length))
    if keys.any List.isEmpty then none else some (keys.map String.ofList)
  else none

/-- The settings of an environment. Variables are taken in the order of their names, and later
ones lie over earlier ones. -/
def setting (environment : List (String × String)) : Setting :=
  let sorted := environment.mergeSort fun a b => decide (a.1 ≤ b.1)
  sorted.foldl (fun layer (name, text) =>
    match path? name with
    | some path => (Setting.under path (value text)).layOver layer
    | none => layer) (.table [])

end CrudScaffold.Environment
