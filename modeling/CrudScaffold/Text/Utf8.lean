/-!
# UTF-8

Texts as bytes and back. Reading is exact, `ofBytes?`, or forgiving, `ofBytes`: then every
longest run of bytes that begins a character and does not finish it is shown as U+FFFD.
-/

namespace CrudScaffold

/-- Plain bytes. -/
abbrev Bytes := List UInt8

namespace Text

/-- The bytes of a text. -/
def bytes (s : String) : Bytes := s.toByteArray.data.toList

/-- The text that some bytes spell. -/
def ofBytes? (b : Bytes) : Option String := String.fromUTF8? ⟨b.toArray⟩

theorem ofBytes?_bytes (s : String) : ofBytes? (bytes s) = some s := by
  have h : (⟨s.toByteArray.data.toList.toArray⟩ : ByteArray) = s.toByteArray := by simp
  simp only [ofBytes?, bytes, h]
  simp only [String.fromUTF8?, s.isValidUTF8, dif_pos]
  rfl

/-- A byte that continues a character. -/
def isContinuation (b : UInt8) : Bool := 0x80 ≤ b && b ≤ 0xBF

/-- The bytes that may follow the first one of a character, position by position. -/
def followers (first : UInt8) : List (UInt8 → Bool) :=
  let within (low high : UInt8) : UInt8 → Bool := fun b => low ≤ b && b ≤ high
  if 0xC2 ≤ first && first ≤ 0xDF then [isContinuation]
  else if first == 0xE0 then [within 0xA0 0xBF, isContinuation]
  else if first == 0xED then [within 0x80 0x9F, isContinuation]
  else if 0xE1 ≤ first && first ≤ 0xEF then [isContinuation, isContinuation]
  else if first == 0xF0 then [within 0x90 0xBF, isContinuation, isContinuation]
  else if 0xF1 ≤ first && first ≤ 0xF3 then [isContinuation, isContinuation, isContinuation]
  else if first == 0xF4 then [within 0x80 0x8F, isContinuation, isContinuation]
  else []

/-- The number of bytes that follow in a row as they may. -/
def fitting : List (UInt8 → Bool) → Bytes → Nat
  | [], _ => 0
  | _ :: _, [] => 0
  | p :: ps, b :: bs => if p b then fitting ps bs + 1 else 0

/-- What the first bytes stand for: the character they spell, or none for a run that spells none,
and the number of bytes after the first. -/
def firstChar (first : UInt8) (rest : Bytes) : Option Char × Nat :=
  if first < 0x80 then (some (Char.ofNat first.toNat), 0)
  else
    let ps := followers first
    let n := fitting ps rest
    if ps.isEmpty || n < ps.length then (none, n)
    else
      let lead := first.toNat % (1 <<< (6 - ps.length))
      let code := (rest.take n).foldl (fun code b => code * 64 + b.toNat % 64) lead
      (some (Char.ofNat code), n)

/-- The characters that bytes stand for. -/
def forgivingChars (b : Bytes) : List Char :=
  match b with
  | [] => []
  | first :: rest =>
    let (c, n) := firstChar first rest
    c.getD '\uFFFD' :: forgivingChars (rest.drop n)
termination_by b.length
decreasing_by simp only [List.length_drop, List.length_cons]; omega

/-- The text that bytes stand for, whatever they are. -/
def ofBytes (b : Bytes) : String :=
  match ofBytes? b with
  | some s => s
  | none => String.ofList (forgivingChars b)

@[simp] theorem ofBytes_bytes (s : String) : ofBytes (bytes s) = s := by
  simp [ofBytes, ofBytes?_bytes]

end Text

end CrudScaffold
