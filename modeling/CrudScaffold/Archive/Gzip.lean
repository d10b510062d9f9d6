import CrudScaffold.Archive.Deflate
import CrudScaffold.Archive.Inflate

/-!
# Compressed streams

A stream has a head, compressed data and a tail with the checksum and the length of what the data
stand for. What a stream gives can be read up to its first fault, and only a reader that goes on
behind it gets to know: the end of a stream is sound if the tail agrees.

Data are handed on a window at a time, so a damaged window is lost as a whole.
-/

namespace CrudScaffold

/-! ### The checksum -/

namespace Crc

/-- The generator polynomial, lowest power first. -/
def polynomial : UInt32 := 0xEDB88320

/-- Divides by one more power. -/
def bitStep (crc : UInt32) : UInt32 :=
  if crc &&& 1 = 1 then (crc >>> 1) ^^^ polynomial else crc >>> 1

/-- Takes in a byte. -/
def byteStep (crc : UInt32) (b : UInt8) : UInt32 :=
  bitStep <| bitStep <| bitStep <| bitStep <| bitStep <| bitStep <| bitStep <| bitStep <|
    crc ^^^ b.toUInt32

/-- The checksum of some bytes: their cyclic redundancy check of 32 bits, one bit at a time. -/
def checksum (b : Bytes) : UInt32 := b.foldl byteStep 0xFFFFFFFF ^^^ 0xFFFFFFFF

end Crc

namespace Gzip

/-- What can be read from a stream, and whether its end is sound. -/
structure Contents where
  bytes : Bytes
  sound : Bool
deriving Repr, DecidableEq

/-- A stream from which nothing can be read. -/
def Contents.unreadable : Contents := ⟨[], false⟩

/-- The head that is written: no flags, no time, no system. -/
def head : Bytes := [0x1F, 0x8B, 8, 0, 0, 0, 0, 0, 0, 0xFF]

/-- The tail that agrees with some bytes. -/
def tail (b : Bytes) : Bytes :=
  Bytes.lowFirst 4 (Crc.checksum b).toNat ++ Bytes.lowFirst 4 b.length

/-- The plainest compression: a stream that holds its bytes as they are. -/
def store (b : Bytes) : Bytes := head ++ Deflate.store b ++ tail b

/-! ### The head -/

/-- The longest text that a head may hold. -/
def textLimit : Nat := 65535

/-- Skips a text that ends in a zero. -/
def skipText (b : Bytes) : Option Bytes :=
  let text := b.takeWhile (· ≠ 0)
  if textLimit < text.length then none
  else match b.drop text.length with
    | [] => none
    | _ :: rest => some rest

/-- Skips a field behind its length. -/
def skipExtra (b : Bytes) : Option Bytes :=
  let length := Bytes.ofLowFirst (b.take 2) + 2
  if b.length < 2 ∨ b.length < length then none else some (b.drop length)

/-- Checks the low half of the checksum of what is in front. -/
def skipCheck (all b : Bytes) : Option Bytes :=
  let before := all.take (all.length - b.length)
  if b.length < 2 then none
  else if Bytes.ofLowFirst (b.take 2) = (Crc.checksum before).toNat % 65536 then some (b.drop 2)
  else none

/-- Applies a step if a flag is set. -/
def when (flags : UInt8) (bit : Nat) (step : Bytes → Option Bytes) (b : Bytes) : Option Bytes :=
  if flags.toNat.testBit bit then step b else some b

/-- What follows the head of a stream. -/
def afterHead (all : Bytes) : Option Bytes :=
  match all with
  | 0x1F :: 0x8B :: 8 :: flags :: _ :: _ :: _ :: _ :: _ :: _ :: rest =>
    if 32 ≤ flags then none
    else do
      let b ← when flags 2 skipExtra rest
      let b ← when flags 3 skipText b
      let b ← when flags 4 skipText b
      when flags 1 (skipCheck all) b
  | _ => none

/-! ### Reading -/

/-- The size of a window. -/
def window : Nat := 32768

/-- Reads a stream. What follows it is not looked at. -/
def decompress (all : Bytes) : Contents :=
  match afterHead all with
  | none => .unreadable
  | some data =>
    match Inflate.inflate data with
    | (bytes, .ok rest) => ⟨bytes, rest.take 8 == tail bytes⟩
    | (bytes, .error .unfinished) => ⟨bytes, false⟩
    | (bytes, .error .damaged) => ⟨bytes.take (bytes.length / window * window), false⟩

end Gzip

end CrudScaffold
