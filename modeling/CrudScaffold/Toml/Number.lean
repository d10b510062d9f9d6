import CrudScaffold.Toml.Quoted

/-!
# Values, numbers and moments

What a setting document holds, and the values that are made of digits: whole numbers of 64 bits in
four bases, numbers with a fraction or an exponent, dates and times. Digits can be set apart by
single underscores. Numbers with a fraction and moments are kept as they are written; nothing in the
library counts with them.
-/

namespace CrudScaffold.Toml

/-- A value of a setting document. -/
inductive Value
  | text (s : String)
  | integer (n : Int)
  | float (written : String)
  | boolean (b : Bool)
  | moment (written : String)
  | list (items : List Value)
  | table (entries : List (String × Value))
deriving Repr, BEq, Inhabited

/-- Takes digits, each of which may stand behind an underscore. -/
def moreDigits (isDigit : Char → Bool) : List Char → List Char × List Char
  | '_' :: c :: rest =>
    if isDigit c then
      let (digits, rest) := moreDigits isDigit rest
      (c :: digits, rest)
    else ([], '_' :: c :: rest)
  | c :: rest =>
    if isDigit c then
      let (digits, rest) := moreDigits isDigit rest
      (c :: digits, rest)
    else ([], c :: rest)
  | [] => ([], [])

/-- Reads digits, at least one of them. -/
def digits? (isDigit : Char → Bool) : Parser (List Char)
  | c :: rest =>
    if isDigit c then
      let (digits, rest) := moreDigits isDigit rest
      some (c :: digits, rest)
    else none
  | [] => none

/-- The value of a digit that is known to be one. -/
def digitValue (c : Char) : Nat := (hexDigit? c).getD 0

/-- The number that digits spell in a base. -/
def numberOf (base : Nat) (digits : List Char) : Nat := ofDigits base (digits.map digitValue)

/-- Takes a sign. -/
def sign : List Char → Bool × List Char
  | '+' :: rest => (false, rest)
  | '-' :: rest => (true, rest)
  | cs => (false, cs)

/-- Reads the digits of a decimal number, which has no leading zeros. -/
def decimal? : Parser (List Char)
  | '0' :: rest => some (['0'], rest)
  | cs => digits? Char.isDigit cs

/-- The least natural number beyond the whole numbers of 64 bits. -/
def wordLimit : Nat := 0x8000000000000000

/-- A whole number that fits into 64 bits. -/
def word? (n : Int) : Option Value :=
  if -wordLimit ≤ n ∧ n < wordLimit then some (.integer n) else none

/-- Reads a whole number. -/
def integer? : Parser Value
  | '0' :: 'x' :: rest => do
    let (digits, rest) ← digits? (fun c => (hexDigit? c).isSome) rest
    return (← word? (numberOf 16 digits), rest)
  | '0' :: 'o' :: rest => do
    let (digits, rest) ← digits? (fun c => '0' ≤ c && c ≤ '7') rest
    return (← word? (numberOf 8 digits), rest)
  | '0' :: 'b' :: rest => do
    let (digits, rest) ← digits? (fun c => c == '0' || c == '1') rest
    return (← word? (numberOf 2 digits), rest)
  | cs => do
    let (negative, rest) := sign cs
    let (digits, rest) ← decimal? rest
    let n : Int := numberOf 10 digits
    return (← word? (if negative then -n else n), rest)

/-! ### Fractions and exponents -/

/-- The least number that is too large: half a step beyond the largest float. -/
def floatLimit : Nat := Nat.pow 2 1024 - Nat.pow 2 970

/-- The number that digits spell, `e` places further up, is too large for a float. The place of
the first digit decides unless it is near the limit. -/
def isHuge (digits : List Char) (e : Int) : Bool :=
  let digits := digits.dropWhile (· == '0')
  let places := digits.length + e
  let n := numberOf 10 digits
  if digits.isEmpty || places < 308 then false
  else if 310 < places then true
  else if 0 ≤ e then floatLimit ≤ n * Nat.pow 10 e.toNat
  else floatLimit * Nat.pow 10 (-e).toNat ≤ n

/-- Reads an exponent. -/
def exponent? : Parser Int
  | c :: rest => do
    if c ≠ 'e' ∧ c ≠ 'E' then none
    let (negative, rest) := sign rest
    let (digits, rest) ← digits? Char.isDigit rest
    let n : Int := numberOf 10 digits
    return (if negative then -n else n, rest)
  | [] => none

/-- Reads a fraction. -/
def fraction? : Parser (List Char)
  | '.' :: rest => digits? Char.isDigit rest
  | _ => none

/-- Reads a number with a fraction or an exponent. -/
def plainFloat? : Parser Value := fun cs => do
  let (negative, rest) := sign cs
  let (whole, rest) ← decimal? rest
  let (fraction, exponent, rest) ← match fraction? rest with
    | some (fraction, rest) =>
      match exponent? rest with
      | some (e, rest) => some (fraction, e, rest)
      | none => some (fraction, 0, rest)
    | none => (exponent? rest).map fun (e, rest) => ([], e, rest)
  if !negative && isHuge (whole ++ fraction) (exponent - fraction.length) then none
  else return (.float (written cs rest), rest)

/-- Reads the words for what is no number. -/
def specialFloat? : Parser Value := fun cs =>
  match (sign cs).2 with
  | 'i' :: 'n' :: 'f' :: rest => some (.float (written cs rest), rest)
  | 'n' :: 'a' :: 'n' :: rest => some (.float (written cs rest), rest)
  | _ => none

/-- Reads a number that is not whole. -/
def float? : Parser Value := fun cs => plainFloat? cs <|> specialFloat? cs

/-! ### Moments -/

/-- Reads a number of `count` digits in some bounds. -/
def fixed? (count low high : Nat) : Parser Nat := fun cs =>
  let digits := cs.take count
  let n := numberOf 10 digits
  if digits.length = count ∧ digits.all Char.isDigit ∧ low ≤ n ∧ n ≤ high then
    some (n, cs.drop count)
  else none

/-- Skips a character. -/
def skip? (c : Char) : List Char → Option (List Char)
  | d :: rest => if d = c then some rest else none
  | [] => none

/-- A year with a day between February and March. -/
def isLeap (year : Nat) : Bool := year % 4 == 0 && (year % 100 != 0 || year % 400 == 0)

/-- The number of days in a month. -/
def daysIn (year month : Nat) : Nat :=
  if month = 2 then if isLeap year then 29 else 28
  else if month = 4 ∨ month = 6 ∨ month = 9 ∨ month = 11 then 30
  else 31

/-- Skips a date. -/
def skipDate? (cs : List Char) : Option (List Char) := do
  let (year, cs) ← fixed? 4 0 9999 cs
  let cs ← skip? '-' cs
  let (month, cs) ← fixed? 2 1 12 cs
  let cs ← skip? '-' cs
  let (_, cs) ← fixed? 2 1 (daysIn year month) cs
  return cs

/-- Skips the fraction of a second, if there is one. -/
def skipParts? (cs : List Char) : Option (List Char) :=
  match cs with
  | '.' :: rest =>
    match rest with
    | c :: _ => if c.isDigit then some (rest.dropWhile Char.isDigit) else none
    | [] => none
  | _ => some cs

/-- Skips a time of day. -/
def skipTime? (cs : List Char) : Option (List Char) := do
  let (_, cs) ← fixed? 2 0 23 cs
  let cs ← skip? ':' cs
  let (_, cs) ← fixed? 2 0 59 cs
  let cs ← skip? ':' cs
  let (_, cs) ← fixed? 2 0 60 cs
  skipParts? cs

/-- Skips the offset of a time, if there is one. -/
def skipOffset? (cs : List Char) : Option (List Char) :=
  match cs with
  | [] => some []
  | c :: rest =>
    if c = 'Z' ∨ c = 'z' then some rest
    else if c = '+' ∨ c = '-' then do
      let (_, rest) ← fixed? 2 0 23 rest
      let rest ← skip? ':' rest
      let (_, rest) ← fixed? 2 0 59 rest
      return rest
    else some cs

/-- A character between a date and a time. -/
def isTimeMark (c : Char) : Bool := c == 'T' || c == 't' || c == ' '

/-- Skips the time behind a date, if there is one. -/
def skipDayTime? (cs : List Char) : Option (List Char) :=
  match cs with
  | c :: rest =>
    match fixed? 2 0 23 rest with
    | some (_, ':' :: _) => if isTimeMark c then skipTime? rest >>= skipOffset? else some cs
    | _ => some cs
  | [] => some []

/-- Reads a date, a time or both. -/
def moment? : Parser Value := fun cs => do
  let rest ← (skipDate? cs >>= skipDayTime?) <|> skipTime? cs
  return (.moment (written cs rest), rest)

end CrudScaffold.Toml
