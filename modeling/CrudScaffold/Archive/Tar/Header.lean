import CrudScaffold.Archive.Words
import CrudScaffold.Text.Blank

/-!
# Entry headers

A header is one block of fields at fixed places. Numbers are written in octal digits, or in bytes
behind a marked first byte where the digits do not suffice.
-/

namespace CrudScaffold.Tar

/-- The size of a block. -/
def blockSize : Nat := 512

/-- The number of bytes in the blocks that hold `n` bytes. -/
def blocksFor (n : Nat) : Nat := (n + 511) / 512 * 512

/-- Some bytes with zeros behind them up to the end of a block. -/
def fillBlocks (b : Bytes) : Bytes := Bytes.padTo (blocksFor b.length) b

/-- A block that ends an archive. -/
def zeroBlock : Bytes := List.replicate blockSize 0

/-! ### Writing -/

/-- A number in `count` octal digits. -/
def octalDigits : Nat → Nat → Bytes
  | 0, _ => []
  | count + 1, n => octalDigits count (n / 8) ++ [(0x30 + n % 8).toUInt8]

/-- A field of octal digits with a zero at its end. -/
def octalField (width n : Nat) : Bytes := octalDigits (width - 1) n ++ [0]

/-- The least number that eleven octal digits do not suffice for. -/
def octalLimit : Nat := 0x200000000

/-- The field of a size. -/
def sizeField (n : Nat) : Bytes :=
  if n < octalLimit then octalField 12 n else 0x80 :: 0 :: 0 :: 0 :: Bytes.highFirst 8 n

/-- The sum of all bytes. -/
def byteSum (b : Bytes) : Nat := b.foldl (fun n x => n + x.toNat) 0

/-- The sum of a checksum field that holds spaces. -/
def blankSum : Nat := 8 * 0x20

/-- The fields in front of the checksum. -/
def fieldsBefore (name : Bytes) (size : Nat) : Bytes :=
  Bytes.padTo 100 name ++ octalField 8 0o644 ++ octalField 8 0 ++ octalField 8 0 ++
    sizeField size ++ octalField 12 0

/-- The fields behind the checksum. -/
def fieldsAfter (kind : UInt8) : Bytes :=
  kind :: List.replicate 100 0 ++ Text.bytes "ustar  " ++ List.replicate 248 0

/-- The header of an entry. -/
def header (name : Bytes) (size : Nat) (kind : UInt8) : Bytes :=
  let before := fieldsBefore name size
  let after := fieldsAfter kind
  before ++ octalField 8 (byteSum before + blankSum + byteSum after) ++ after

/-! ### Reading -/

/-- The bytes of a field up to its first zero. -/
def text (field : Bytes) : Bytes := field.takeWhile (· ≠ 0)

/-- The value of an octal digit. -/
def octalDigit? (c : Char) : Option Nat :=
  if '0' ≤ c ∧ c ≤ '7' then some (c.toNat - '0'.toNat) else none

/-- The number that digits spell. There has to be one, and the number has to be a word. -/
def ofOctalDigits? (digits : List Char) : Option Nat :=
  if digits.isEmpty then none
  else do
    let values ← digits.mapM octalDigit?
    let n := values.foldl (fun n d => 8 * n + d) 0
    if n < Bytes.wordLimit then some n else none

/-- The number in a field of octal digits, which may have space around it and a sign. -/
def ofOctal? (field : Bytes) : Option Nat := do
  let s ← Text.ofBytes? (text field)
  match Text.trimChars s.toList with
  | '+' :: digits => ofOctalDigits? digits
  | digits => ofOctalDigits? digits

/-- The number in a field, in either form. -/
def number? (field : Bytes) : Option Nat :=
  match field with
  | first :: _ =>
    if 0x80 ≤ first then some (Bytes.ofHighFirst (field.drop (field.length - 8)))
    else ofOctal? field
  | [] => none

/-- The standards that a header can follow. -/
inductive Standard
  | old
  | gnu
  | posix
deriving Repr, DecidableEq

/-- The standard of a header. -/
def standard (h : Bytes) : Standard :=
  let magic := Bytes.slice h 257 8
  if magic = Text.bytes "ustar  \x00" then .gnu
  else if magic = Text.bytes "ustar\x0000" then .posix
  else .old

/-- The checksum of a header agrees with its bytes. -/
def agrees (h : Bytes) : Bool :=
  match ofOctal? (Bytes.slice h 148 8) with
  | some n => n % 0x100000000 == byteSum (h.take 148) + blankSum + byteSum (h.drop 156)
  | none => false

/-- The size of the entry of a header. -/
def size? (h : Bytes) : Option Nat := number? (Bytes.slice h 124 12)

/-- The kind of the entry of a header. -/
def kind (h : Bytes) : UInt8 := h[156]?.getD 0

/-- The name in a header. Only one standard has a field for what comes in front of it. -/
def name (h : Bytes) : Bytes :=
  let field := Bytes.slice h 0 100
  let front := text (Bytes.slice h 345 155)
  if standard h = .posix ∧ front ≠ [] then front ++ [0x2F] ++ text field else text field

end CrudScaffold.Tar
