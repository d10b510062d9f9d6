import CrudScaffold.Toml.Trivia

/-!
# Quoted text

Texts in double quotes know escapes and texts in single quotes do not. Both can go over several
lines between three quotes; then ends of lines are plain, one at the very start is dropped, and
up to two quotes may stand in front of the closing ones.
-/

namespace CrudScaffold.Toml

/-- The value of a hexadecimal digit. -/
def hexDigit? (c : Char) : Option Nat :=
  if c.isDigit then some (c.toNat - '0'.toNat)
  else if 'a' ≤ c ∧ c ≤ 'f' then some (c.toNat - 'a'.toNat + 10)
  else if 'A' ≤ c ∧ c ≤ 'F' then some (c.toNat - 'A'.toNat + 10)
  else none

/-- The number that digits spell. -/
def ofDigits (base : Nat) (digits : List Nat) : Nat := digits.foldl (fun n d => base * n + d) 0

/-- The character with a number in hexadecimal digits, if there is one. -/
def scalar? (digits : List Char) : Option Char := do
  let n := ofDigits 16 (← digits.mapM hexDigit?)
  if n.isValidChar then some (Char.ofNat n) else none

/-- The character of an escape of one letter. -/
def escaped? : Char → Option Char
  | 'b' => some '\x08'
  | 't' => some '\t'
  | 'n' => some '\n'
  | 'f' => some '\x0C'
  | 'r' => some '\r'
  | '"' => some '"'
  | '\\' => some '\\'
  | _ => none

/-- Puts a character in front of what is read. -/
def cons (c : Char) : Option (List Char × List Char) → Option (List Char × List Char) :=
  Option.map fun (s, rest) => (c :: s, rest)

/-- Reads the rest of a text in double quotes. -/
def basicRest : Parser (List Char)
  | [] => none
  | '"' :: rest => some ([], rest)
  | '\\' :: 'u' :: a :: b :: c :: d :: rest => do
    cons (← scalar? [a, b, c, d]) (basicRest rest)
  | '\\' :: 'U' :: a :: b :: c :: d :: e :: f :: g :: h :: rest => do
    cons (← scalar? [a, b, c, d, e, f, g, h]) (basicRest rest)
  | '\\' :: c :: rest => do cons (← escaped? c) (basicRest rest)
  | c :: rest => if isPlain c && c ≠ '\\' then cons c (basicRest rest) else none

/-- Where a text over several lines stands: in its text, behind a backslash that has to end its
line, or in the space behind such a line. -/
inductive Fold
  | none
  | ending
  | skipping
deriving DecidableEq

/-- Reads the rest of a text in three double quotes. -/
def basicLines (fold : Fold) : Parser (List Char)
  | [] => none
  | '\n' :: rest =>
    if fold = .none then cons '\n' (basicLines .none rest) else basicLines .skipping rest
  | '\r' :: '\n' :: rest =>
    if fold = .none then cons '\n' (basicLines .none rest) else basicLines .skipping rest
  | ' ' :: rest => if fold = .none then cons ' ' (basicLines .none rest) else basicLines fold rest
  | '\t' :: rest =>
    if fold = .none then cons '\t' (basicLines .none rest) else basicLines fold rest
  | '"' :: '"' :: '"' :: '"' :: '"' :: rest =>
    if fold = .ending then none else some (['"', '"'], rest)
  | '"' :: '"' :: '"' :: '"' :: rest => if fold = .ending then none else some (['"'], rest)
  | '"' :: '"' :: '"' :: rest => if fold = .ending then none else some ([], rest)
  | '\\' :: 'u' :: a :: b :: c :: d :: rest =>
    if fold = .ending then none
    else do cons (← scalar? [a, b, c, d]) (basicLines .none rest)
  | '\\' :: 'U' :: a :: b :: c :: d :: e :: f :: g :: h :: rest =>
    if fold = .ending then none
    else do cons (← scalar? [a, b, c, d, e, f, g, h]) (basicLines .none rest)
  | '\\' :: c :: rest =>
    if fold = .ending then none
    else if isSpace c then basicLines .ending rest
    else if c = '\n' then basicLines .skipping rest
    else if c = '\r' then
      match rest with
      | '\n' :: rest => basicLines .skipping rest
      | _ => none
    else do cons (← escaped? c) (basicLines .none rest)
  | c :: rest =>
    if fold ≠ .ending && isPlain c && c ≠ '\\' then cons c (basicLines .none rest) else none

/-- Reads the rest of a text in single quotes. -/
def literalRest : Parser (List Char)
  | [] => none
  | '\'' :: rest => some ([], rest)
  | c :: rest => if isPlain c then cons c (literalRest rest) else none

/-- Reads the rest of a text in three single quotes. -/
def literalLines : Parser (List Char)
  | [] => none
  | '\n' :: rest => cons '\n' (literalLines rest)
  | '\r' :: '\n' :: rest => cons '\n' (literalLines rest)
  | '\'' :: '\'' :: '\'' :: '\'' :: '\'' :: rest => some (['\'', '\''], rest)
  | '\'' :: '\'' :: '\'' :: '\'' :: rest => some (['\''], rest)
  | '\'' :: '\'' :: '\'' :: rest => some ([], rest)
  | c :: rest => if isPlain c then cons c (literalLines rest) else none

/-- Drops the end of a line at the start. -/
def dropLineEnd : List Char → List Char
  | '\n' :: rest => rest
  | '\r' :: '\n' :: rest => rest
  | cs => cs

/-- Reads a text on one line. -/
def quotedLine? : Parser (List Char)
  | '"' :: rest => basicRest rest
  | '\'' :: rest => literalRest rest
  | _ => none

/-- Reads a text in quotes of any kind. -/
def quoted? : Parser (List Char)
  | '"' :: '"' :: '"' :: rest => basicLines .none (dropLineEnd rest)
  | '\'' :: '\'' :: '\'' :: rest => literalLines (dropLineEnd rest)
  | cs => quotedLine? cs

end CrudScaffold.Toml
