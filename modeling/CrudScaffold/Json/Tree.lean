/-!
# Document trees

The structure of a JSON text up to its first fault. Reading a text always gives a tree. If the
text is not well formed the tree ends in a leaf that says so, and whatever stood before that
leaf is still there. A reader that walks the tree in document order therefore meets the first
problem of the text first, be it a wrong type or a syntax fault.

String and number literals keep their spelling: a value that is skipped may hold what a value
that is used may not, such as half of a surrogate pair.
-/

namespace CrudScaffold.Json

/-- Why a text stops being JSON: something stands where it may not, or the text ends early. -/
inductive Fault
  | malformed
  | unfinished
deriving Repr, DecidableEq

/-- One unit of a string literal: a character, or one half of a surrogate pair written as an
escape. -/
inductive Piece
  | char (c : Char)
  | half (unit : Nat)
deriving Repr, DecidableEq

/-- A string literal with the fault that ended it, if it was not closed properly. -/
structure StringLiteral where
  pieces : List Piece
  fault : Option Fault
deriving Repr, DecidableEq

/-- A number literal: digits before the point, after it, and an exponent with its sign. -/
structure Numeral where
  negative : Bool
  whole : List Char
  fraction : Option (List Char)
  exponent : Option (Bool × List Char)
deriving Repr, DecidableEq

/-- A JSON text up to its first fault. -/
inductive Tree
  | null
  | bool (b : Bool)
  | number (n : Numeral) (fault : Option Fault)
  | string (s : StringLiteral)
  /-- The items of an array and the fault that kept it from being closed. -/
  | array (items : List Tree) (fault : Option Fault)
  /-- The members of an object and the fault that kept it from being closed. -/
  | object (members : List (StringLiteral × Tree)) (fault : Option Fault)
  /-- An object whose first key is not a string but the given lead of a value. -/
  | keyless (lead : Tree)
  /-- A word that is none of the three that JSON has. -/
  | word (fault : Fault)
  /-- Nothing that could begin a value. -/
  | absent (fault : Fault)
deriving Repr, Inhabited

/-- A text as a tree, and whether more than blanks follows it. -/
structure Document where
  tree : Tree
  trailing : Bool
deriving Repr

namespace StringLiteral

/-- Characters from the pieces of a literal. Halves of a surrogate pair must come in order and
next to each other; an open pair at the end of a broken literal is left to the literal's own
fault. -/
def decodePieces (fault : Option Fault) : List Piece → Except Fault (List Char)
  | [] => match fault with
    | none => .ok []
    | some f => .error f
  | .char c :: r => (decodePieces fault r).map (c :: ·)
  | .half h :: .half l :: r =>
    if 0xD800 ≤ h ∧ h < 0xDC00 ∧ 0xDC00 ≤ l ∧ l < 0xE000 then
      (decodePieces fault r).map (Char.ofNat (0x10000 + (h - 0xD800) * 0x400 + (l - 0xDC00)) :: ·)
    else .error .malformed
  | [.half h] =>
    if 0xD800 ≤ h ∧ h < 0xDC00 then .error (fault.getD .malformed) else .error .malformed
  | .half _ :: .char _ :: _ => .error .malformed

/-- The text of a literal. -/
def decode (s : StringLiteral) : Except Fault String :=
  (decodePieces s.fault s.pieces).map String.ofList

/-- The literal that spells a text character by character. -/
def ofString (s : String) : StringLiteral := ⟨s.toList.map .char, none⟩

theorem decodePieces_map_char (s : List Char) : decodePieces none (s.map .char) = .ok s := by
  induction s with
  | nil => rfl
  | cons c r ih => simp [decodePieces, ih, Except.map]

@[simp] theorem decode_ofString (s : String) : (ofString s).decode = .ok s := by
  simp [decode, ofString, decodePieces_map_char, Except.map]

end StringLiteral

namespace Tree

mutual

/-- The fault that skipping a value meets. Skipping looks at spelling only. -/
def skipFault : Tree → Option Fault
  | .null | .bool _ => none
  | .number _ fault => fault.map fun _ => .malformed
  | .string s => s.fault
  | .array items fault => skipItems items <|> fault
  | .object members fault => skipMembers members <|> fault
  | .keyless _ => some .malformed
  | .word f | .absent f => some f

/-- The first fault among the items of an array. -/
def skipItems : List Tree → Option Fault
  | [] => none
  | t :: r => skipFault t <|> skipItems r

/-- The first fault among the members of an object, keys included. -/
def skipMembers : List (StringLiteral × Tree) → Option Fault
  | [] => none
  | (k, t) :: r => k.fault <|> skipFault t <|> skipMembers r

end

end Tree

end CrudScaffold.Json
