import CrudScaffold.Archive.Words

/-!
# Storing

The plainest form of compressed data: blocks that hold their bytes as they are, each behind its
length, the last one marked.
-/

namespace CrudScaffold.Deflate

/-- The most bytes that a block can hold. -/
def blockLimit : Nat := 65535

/-- A block of bytes behind its length and the complement of its length. -/
def block (last : Bool) (b : Bytes) : Bytes :=
  (if last then 1 else 0) ::
    Bytes.lowFirst 2 b.length ++ Bytes.lowFirst 2 (blockLimit - b.length) ++ b

/-- Some bytes in as few blocks as they fit in. -/
def store (b : Bytes) : Bytes :=
  if b.length ≤ blockLimit then block true b
  else block false (b.take blockLimit) ++ store (b.drop blockLimit)
termination_by b.length
decreasing_by simp [blockLimit] at *; omega

end CrudScaffold.Deflate
