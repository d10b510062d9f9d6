/-!
# Values and their layout

JSON values that the library writes, and their text on indented lines: two blanks a level, one
member or item a line, `[]` and `{}` for containers that hold nothing.
-/

namespace CrudScaffold.Json

/-- A value to be written. -/
inductive Value
  | null
  | bool (b : Bool)
  | number (n : Nat)
  | string (s : String)
  | array (items : List Value)
  | object (members : List (String × Value))
deriving Repr, Inhabited

/-- One character inside a string. Control characters are written as escapes. -/
def escapeChar (c : Char) : List Char :=
  match c with
  | '"' => ['\\', '"']
  | '\\' => ['\\', '\\']
  | '\n' => ['\\', 'n']
  | '\r' => ['\\', 'r']
  | '\t' => ['\\', 't']
  | '\x08' => ['\\', 'b']
  | '\x0c' => ['\\', 'f']
  | c =>
    if c.toNat < 0x20 then
      ['\\', 'u', '0', '0', Nat.digitChar (c.toNat / 16), Nat.digitChar (c.toNat % 16)]
    else [c]

/-- A text as a string literal. -/
def quote (s : String) : List Char := '"' :: s.toList.flatMap escapeChar ++ ['"']

/-- A new line at the given level. -/
def newLine (level : Nat) : List Char := '\n' :: List.replicate (2 * level) ' '

namespace Value

mutual

/-- The text of a value whose own line is at the given level. -/
def layout (level : Nat) : Value → List Char
  | .null => "null".toList
  | .bool b => (if b then "true" else "false").toList
  | .number n => (toString n).toList
  | .string s => quote s
  | .array [] => "[]".toList
  | .array (v :: vs) =>
    '[' :: newLine (level + 1) ++ layout (level + 1) v ++ layoutItems (level + 1) vs ++
      newLine level ++ [']']
  | .object [] => ['\x7b', '\x7d']
  | .object ((k, v) :: ms) =>
    '\x7b' :: newLine (level + 1) ++ quote k ++ [':', ' '] ++ layout (level + 1) v ++
      layoutMembers (level + 1) ms ++ newLine level ++ ['\x7d']

/-- The items of an array behind the first one. -/
def layoutItems (level : Nat) : List Value → List Char
  | [] => []
  | v :: vs => ',' :: newLine level ++ layout level v ++ layoutItems level vs

/-- The members of an object behind the first one. -/
def layoutMembers (level : Nat) : List (String × Value) → List Char
  | [] => []
  | (k, v) :: ms =>
    ',' :: newLine level ++ quote k ++ [':', ' '] ++ layout level v ++ layoutMembers level ms

end

/-- The text of a value on indented lines. -/
def pretty (v : Value) : String := String.ofList (v.layout 0)

end Value

end CrudScaffold.Json
