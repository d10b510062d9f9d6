import CrudScaffold.Decimal.Shortest
import CrudScaffold.Json.Parser
import CrudScaffold.Text.Quoted

/-!
# Reading typed values from trees

A reader takes a tree to a value or to the first problem in document order. Problems are
either faults of the text or mismatches between what stands there and what is wanted.

An object is read member by member into a draft of the record, so a repeated member is seen
before its value is looked at and a missing one only behind the closing brace. A record may
also be given as the array of its fields in their declared order.
-/

namespace CrudScaffold.Json

/-- What a mismatch found in the text. -/
inductive Found
  | null
  | boolean (b : Bool)
  | integer (i : Int)
  | float (x : Float)
  | text (s : String)
  | sequence
  | map
deriving Repr

/-- A well-formed text that does not have the wanted shape. -/
inductive Mismatch
  | wrongType (found : Found) (expected : String)
  | wrongValue (found : Found) (expected : String)
  | wrongLength (length : Nat) (expected : String)
  | missingField (name : String)
  | duplicateField (name : String)
deriving Repr

/-- Why a text cannot be read. -/
inductive Error
  | fault (f : Fault)
  | mismatch (m : Mismatch)
deriving Repr

/-- What was found, in words. -/
def Found.describe : Found → String
  | .null => "null"
  | .boolean b => "boolean `" ++ toString b ++ "`"
  | .integer i => "integer `" ++ toString i ++ "`"
  | .float x => "floating point `" ++ Decimal.ofFloat x ++ "`"
  | .text s => "string " ++ Text.quoted s
  | .sequence => "sequence"
  | .map => "map"

/-- A mismatch in words. -/
def Mismatch.message : Mismatch → String
  | .wrongType found expected => "invalid type: " ++ found.describe ++ ", expected " ++ expected
  | .wrongValue found expected => "invalid value: " ++ found.describe ++ ", expected " ++ expected
  | .wrongLength length expected =>
    "invalid length " ++ toString length ++ ", expected " ++ expected
  | .missingField name => "missing field `" ++ name ++ "`"
  | .duplicateField name => "duplicate field `" ++ name ++ "`"

/-- The words of an error. -/
def Error.message : Error → String
  | .fault .malformed => "malformed text"
  | .fault .unfinished => "unexpected end of text"
  | .mismatch m => m.message

/-! ### Numbers -/

/-- The value of a number literal. A literal without fraction and exponent is an integer as
long as 64 bits hold it, a negative one with a sign bit; every other literal is a double. -/
inductive Number
  | integer (i : Int)
  | float (x : Float)
deriving Repr

/-- Appends digits to a number while 64 bits hold it. Gives the number and the digits left. -/
def appendDigits : Nat → List Char → Nat × List Char
  | n, [] => (n, [])
  | n, d :: r =>
    let next := n * 10 + (d.toNat - 48)
    if next < 0x10000000000000000 then appendDigits next r else (n, d :: r)

/-- The double nearest to `10^k` for `k ≤ 308`. -/
def powerOfTen (k : Nat) : Float := Float.ofScientific 1 false k

/-- Scales a double by a power of ten in steps of at most `10^308`. A result beyond the range
of doubles is a fault. -/
def scaleFloat : Nat → Float → Int → Except Fault Float
  | 0, x, _ => .ok x
  | fuel + 1, x, e =>
    if e.natAbs ≤ 308 then
      if 0 ≤ e then
        let y := x * powerOfTen e.natAbs
        if y.isInf then .error .malformed else .ok y
      else .ok (x / powerOfTen e.natAbs)
    else if x == 0 then .ok x
    else if 0 ≤ e then .error .malformed
    else scaleFloat fuel (x / powerOfTen 308) (e + 308)

/-- Gives a double its sign. -/
def signed (negative : Bool) (x : Float) : Float := if negative then -x else x

/-- The double of a numeral. Digits beyond 64 bits are dropped, and an exponent beyond 31 bits
counts as endless. -/
def Numeral.toFloat (n : Numeral) : Except Fault Float :=
  let (whole, dropped) := appendDigits 0 n.whole
  let fraction := n.fraction.getD []
  let (digits, unread) := appendDigits whole fraction
  let shift : Int := Int.ofNat dropped.length - Int.ofNat (fraction.length - unread.length)
  let (down, power) := match n.exponent with
    | none => (false, 0)
    | some (down, ds) => (down, ds.foldl (fun (e : Nat) (d : Char) => e * 10 + (d.toNat - 48)) 0)
  if 0x80000000 ≤ power then
    if digits ≠ 0 ∧ ¬ down then .error .malformed else .ok (signed n.negative 0)
  else
    let e := if down then shift - Int.ofNat power else shift + Int.ofNat power
    (scaleFloat (e.natAbs / 308 + 1) digits.toUInt64.toFloat e).map (signed n.negative)

/-- The value of a number literal. Negative zero is a double. -/
def Numeral.value (n : Numeral) : Except Fault Number :=
  let (whole, dropped) := appendDigits 0 n.whole
  if n.fraction.isNone ∧ n.exponent.isNone ∧ dropped = [] ∧
      (¬ n.negative ∨ (0 < whole ∧ whole ≤ 0x8000000000000000)) then
    .ok (.integer (if n.negative then -Int.ofNat whole else Int.ofNat whole))
  else n.toFloat.map .float

/-! ### Scalars -/

/-- Raises a fault if there is one. -/
def Fault.raise (fault : Option Fault) : Except Error Unit :=
  match fault with
  | none => .ok ()
  | some f => .error (.fault f)

/-- A failed lexical step as a reading error. -/
def liftFault {α : Type} (x : Except Fault α) : Except Error α := x.mapError .fault

/-- A number literal that has to be well formed. -/
def numberValue (n : Numeral) (fault : Option Fault) : Except Error Number :=
  match fault with
  | some f => .error (.fault f)
  | none => liftFault n.value

/-- The error of a value that is not of the expected kind. Scalars are read to be named. -/
def unexpected (expected : String) : Tree → Error
  | .null => .mismatch (.wrongType .null expected)
  | .bool b => .mismatch (.wrongType (.boolean b) expected)
  | .number n fault =>
    match numberValue n fault with
    | .ok (.integer i) => .mismatch (.wrongType (.integer i) expected)
    | .ok (.float x) => .mismatch (.wrongType (.float x) expected)
    | .error e => e
  | .string s =>
    match s.decode with
    | .ok s => .mismatch (.wrongType (.text s) expected)
    | .error f => .fault f
  | .array _ _ => .mismatch (.wrongType .sequence expected)
  | .object _ _ | .keyless _ => .mismatch (.wrongType .map expected)
  | .word f | .absent f => .fault f

/-- Reads a text. -/
def readString : Tree → Except Error String
  | .string s => liftFault s.decode
  | t => .error (unexpected "a string" t)

/-- Reads a truth value. -/
def readBool : Tree → Except Error Bool
  | .bool b => .ok b
  | t => .error (unexpected "a boolean" t)

/-- Reads a natural number below `2^32`. -/
def readNat32 : Tree → Except Error Nat
  | .number n fault => do
    match ← numberValue n fault with
    | .integer i =>
      if 0 ≤ i ∧ i < 0x100000000 then pure i.toNat
      else throw (.mismatch (.wrongValue (.integer i) "u32"))
    | .float x => throw (.mismatch (.wrongType (.float x) "u32"))
  | t => .error (unexpected "u32" t)

/-- Reads `null` as nothing and anything else with the given reader. -/
def readOption {α : Type} (read : Tree → Except Error α) : Tree → Except Error (Option α)
  | .null => .ok none
  | t => (read t).map some

/-- Skips a value. -/
def skip (t : Tree) : Except Error Unit := Fault.raise t.skipFault

/-- Reads one of a set of names: a string, or an object with the name as its only key and
`null` as its value. -/
def readName {α : Type} (ofName : String → α) : Tree → Except Error α
  | .string s => do return ofName (← liftFault s.decode)
  | .object [] fault => .error (.fault (fault.getD .malformed))
  | .object ((key, value) :: more) fault => do
    let name ← liftFault key.decode
    match value with
    | .null => pure ()
    | t => throw (unexpected "unit" t)
    if more.isEmpty then Fault.raise fault else throw (.fault .malformed)
    return ofName name
  | .keyless lead => .error (unexpected "variant identifier" lead)
  | .absent f => .error (.fault f)
  | _ => .error (.fault .malformed)

/-! ### Containers -/

/-- Reads an array item by item. -/
def readList {α : Type} (read : Tree → Except Error α) : Tree → Except Error (List α)
  | .array items fault => do
    let values ← items.mapM read
    Fault.raise fault
    return values
  | t => .error (unexpected "a sequence" t)

/-- Fills a field of a draft that may be given once. -/
def once {α : Type} (name : String) (slot : Option α) (read : Except Error α) :
    Except Error (Option α) :=
  if slot.isSome then .error (.mismatch (.duplicateField name)) else read.map some

/-- The value of a field that has to be given. -/
def required {α : Type} (name : String) : Option α → Except Error α
  | some a => .ok a
  | none => .error (.mismatch (.missingField name))

/-- How a record is read: member by member into a draft, or field by field from an array. -/
structure Record (δ α : Type) where
  /-- The record in messages. -/
  expected : String
  /-- The record and the number of its fields in messages. -/
  expectedLength : String
  /-- The draft that nothing is known of. -/
  blank : δ
  /-- Takes one member into the draft. -/
  member : δ → String → Tree → Except Error δ
  /-- The names of the fields in declared order. -/
  fields : List String
  /-- The number of leading fields that an array has to give. -/
  needed : Nat
  /-- The record from its draft. -/
  finish : δ → Except Error α

namespace Record

variable {δ α : Type} (r : Record δ α)

/-- Takes the members of an object into a draft. -/
def readMembers : δ → List (StringLiteral × Tree) → Except Error δ
  | d, [] => .ok d
  | d, (key, value) :: rest => do
    let name ← liftFault key.decode
    let d ← r.member d name value
    readMembers d rest

/-- Takes the items of an array as the fields from position `i` on. -/
def readItems (fault : Option Fault) : Nat → δ → List String → List Tree → Except Error δ
  | _, d, [], [] => do
    Fault.raise fault
    return d
  | _, _, [], _ :: _ => .error (.fault .malformed)
  | i, d, _ :: _, [] => do
    Fault.raise fault
    if i < r.needed then throw (.mismatch (.wrongLength i r.expectedLength))
    return d
  | i, d, name :: names, item :: items => do
    let d ← r.member d name item
    readItems fault (i + 1) d names items

/-- Reads a record. -/
def read : Tree → Except Error α
  | .object members fault => do
    let d ← r.readMembers r.blank members
    Fault.raise fault
    r.finish d
  | .array items fault => do
    let d ← r.readItems fault 0 r.blank r.fields items
    r.finish d
  | .keyless _ => .error (.fault .malformed)
  | t => .error (unexpected r.expected t)

/-- Reads a record from a whole text. -/
def ofText (text : String) : Except Error α :=
  let document := parse text
  match r.read document.tree with
  | .error e => .error e
  | .ok a => if document.trailing then .error (.fault .malformed) else .ok a

end Record

end CrudScaffold.Json
