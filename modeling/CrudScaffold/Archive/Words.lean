import CrudScaffold.Text.Utf8

/-!
# Numbers in bytes

Numbers as a fixed count of bytes, lowest first or highest first.
-/

namespace CrudScaffold.Bytes

/-- The least number that does not fit into eight bytes. -/
def wordLimit : Nat := 0x10000000000000000

/-- A number as `count` bytes, the lowest first. Higher ones are dropped. -/
def lowFirst : Nat → Nat → Bytes
  | 0, _ => []
  | count + 1, n => n.toUInt8 :: lowFirst count (n / 256)

/-- A number as `count` bytes, the highest first. Higher ones are dropped. -/
def highFirst (count n : Nat) : Bytes := (lowFirst count n).reverse

/-- The number of some bytes, the lowest first. -/
def ofLowFirst : Bytes → Nat
  | [] => 0
  | b :: rest => b.toNat + 256 * ofLowFirst rest

/-- The number of some bytes, the highest first. -/
def ofHighFirst (b : Bytes) : Nat := ofLowFirst b.reverse

/-- Some bytes, with zeros behind them up to a length. -/
def padTo (length : Nat) (b : Bytes) : Bytes := b ++ List.replicate (length - b.length) 0

/-- A part of some bytes. -/
def slice (b : Bytes) (start count : Nat) : Bytes := (b.drop start).take count

end CrudScaffold.Bytes
