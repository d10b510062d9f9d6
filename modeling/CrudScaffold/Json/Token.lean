import CrudScaffold.Json.Tree

/-!
# Tokens

The lexical elements of a JSON text. Blanks between tokens leave no trace in the list of
tokens, so two texts that differ in blanks alone have the same tokens. The list stops behind
the first token that is not well formed.
-/

namespace CrudScaffold.Json

/-- A lexical element. -/
inductive Token
  | openArray
  | closeArray
  | openObject
  | closeObject
  | comma
  | colon
  | null
  | bool (b : Bool)
  | number (n : Numeral) (fault : Option Fault)
  | string (s : StringLiteral)
  /-- A word that is none of `null`, `true` and `false`. -/
  | word (fault : Fault)
  /-- A character that begins no token. -/
  | stray
deriving Repr, DecidableEq

/-- The blanks of JSON. -/
def isBlank (c : Char) : Bool := c == ' ' || c == '\n' || c == '\t' || c == '\r'

/-! ### Strings -/

/-- The value of a hexadecimal digit. -/
def hexDigit? (c : Char) : Option Nat :=
  if '0' ≤ c ∧ c ≤ '9' then some (c.toNat - 48)
  else if 'a' ≤ c ∧ c ≤ 'f' then some (c.toNat - 87)
  else if 'A' ≤ c ∧ c ≤ 'F' then some (c.toNat - 55)
  else none

/-- The character that a one-letter escape stands for. -/
def unescape? (c : Char) : Option Char :=
  match c with
  | '"' => some '"'
  | '\\' => some '\\'
  | '/' => some '/'
  | 'b' => some '\x08'
  | 'f' => some '\x0c'
  | 'n' => some '\n'
  | 'r' => some '\r'
  | 't' => some '\t'
  | _ => none

/-- The unit of four hexadecimal digits. -/
def hexUnit? (a b c d : Char) : Option Nat := do
  return (← hexDigit? a) * 4096 + (← hexDigit? b) * 256 + (← hexDigit? c) * 16 + (← hexDigit? d)

/-- The fault of an escape that lacks digits in front of the given rest. Fewer than four bytes of
text are an early end. -/
def unitFault (rest : List Char) : Fault :=
  if (String.ofList rest).utf8ByteSize < 4 then .unfinished else .malformed

/-- A unit as a piece of a literal. -/
def Piece.ofUnit (u : Nat) : Piece :=
  if 0xD800 ≤ u ∧ u < 0xE000 then .half u else .char (Char.ofNat u)

/-- Reads a string literal behind its opening quote, with the pieces so far in reverse. -/
def lexString (done : List Piece) : List Char → StringLiteral × List Char
  | [] => (⟨done.reverse, some .unfinished⟩, [])
  | '"' :: r => (⟨done.reverse, none⟩, r)
  | ['\\'] => (⟨done.reverse, some .unfinished⟩, [])
  | '\\' :: 'u' :: a :: b :: c :: d :: r =>
    match hexUnit? a b c d with
    | some u => lexString (Piece.ofUnit u :: done) r
    | none => (⟨done.reverse, some .malformed⟩, r)
  | '\\' :: 'u' :: r => (⟨done.reverse, some (unitFault r)⟩, [])
  | '\\' :: c :: r =>
    match unescape? c with
    | some d => lexString (.char d :: done) r
    | none => (⟨done.reverse, some .malformed⟩, r)
  | c :: r =>
    if c.toNat < 0x20 then (⟨done.reverse, some .malformed⟩, r)
    else lexString (.char c :: done) r

/-! ### Numbers -/

/-- The fault of a number that needs a digit in front of the given rest. -/
def digitFault (rest : List Char) : Fault :=
  if rest.isEmpty then .unfinished else .malformed

/-- Reads the exponent of a number behind its `e`. -/
def lexExponent (n : Numeral) (s : List Char) : Token × List Char :=
  let (negative, s) := match s with
    | '-' :: r => (true, r)
    | '+' :: r => (false, r)
    | s => (false, s)
  let digits := s.takeWhile Char.isDigit
  let rest := s.dropWhile Char.isDigit
  let n := { n with exponent := some (negative, digits) }
  (.number n (if digits.isEmpty then some (digitFault rest) else none), rest)

/-- Reads what follows the whole digits of a number. -/
def lexFraction (n : Numeral) (s : List Char) : Token × List Char :=
  match s with
  | '.' :: s =>
    let digits := s.takeWhile Char.isDigit
    let rest := s.dropWhile Char.isDigit
    let n := { n with fraction := some digits }
    if digits.isEmpty then (.number n (some (digitFault rest)), rest)
    else match rest with
      | 'e' :: r | 'E' :: r => lexExponent n r
      | rest => (.number n none, rest)
  | 'e' :: r | 'E' :: r => lexExponent n r
  | s => (.number n none, s)

/-- Reads a number behind its sign. A zero may not be followed by another digit. -/
def lexNumber (negative : Bool) (s : List Char) : Token × List Char :=
  let digits := s.takeWhile Char.isDigit
  let rest := s.dropWhile Char.isDigit
  let n : Numeral := ⟨negative, digits, none, none⟩
  match digits with
  | [] => (.number n (some (digitFault rest)), rest)
  | '0' :: _ :: _ => (.number n (some .malformed), rest)
  | _ => lexFraction n rest

/-! ### Words and the whole text -/

/-- Matches the rest of a word. -/
def lexWord (token : Token) : List Char → List Char → Token × List Char
  | [], s => (token, s)
  | _ :: _, [] => (.word .unfinished, [])
  | c :: w, d :: s => if c = d then lexWord token w s else (.word .malformed, s)

/-- The token at the start of a text that begins with the given character. -/
def lexToken (c : Char) (r : List Char) : Token × List Char :=
  match c with
  | '[' => (.openArray, r)
  | ']' => (.closeArray, r)
  | '{' => (.openObject, r)
  | '}' => (.closeObject, r)
  | ',' => (.comma, r)
  | ':' => (.colon, r)
  | '"' =>
    let (s, rest) := lexString [] r
    (.string s, rest)
  | 'n' => lexWord .null "ull".toList r
  | 't' => lexWord (.bool true) "rue".toList r
  | 'f' => lexWord (.bool false) "alse".toList r
  | '-' => lexNumber true r
  | c => if c.isDigit then lexNumber false (c :: r) else (.stray, r)

/-- A token behind which nothing is read. -/
def Token.isBroken : Token → Bool
  | .number _ fault => fault.isSome
  | .string s => s.fault.isSome
  | .word _ | .stray => true
  | _ => false

/-- The tokens of a text. Every token takes at least one character, which bounds the steps. -/
def lexAll : Nat → List Char → List Token
  | 0, _ => []
  | fuel + 1, s =>
    match s with
    | [] => []
    | c :: r =>
      if isBlank c then lexAll fuel r
      else
        let (token, rest) := lexToken c r
        if token.isBroken then [token] else token :: lexAll fuel rest

/-- The tokens of a text up to its first lexical fault. -/
def tokens (s : String) : List Token := lexAll (s.toList.length + 1) s.toList

end CrudScaffold.Json
