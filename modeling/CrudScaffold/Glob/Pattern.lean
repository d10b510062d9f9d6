import CrudScaffold.FileSystem.Path

/-!
# Name patterns

A pattern is a path in which some characters stand for others: a question mark for any one, a
star for any number of them, brackets for one of a set. Two stars alone between slashes stand for
any number of names.
-/

namespace CrudScaffold.Glob

/-- A part of a pattern. -/
inductive Token
  | char (c : Char)
  | anyChar
  | anyChars
  | oneOf (ranges : List (Char × Char))
  | noneOf (ranges : List (Char × Char))
deriving Repr, DecidableEq

/-- The pattern of a name. -/
inductive Component
  /-- Any number of names. -/
  | anyNames
  | name (tokens : List Token)
deriving Repr, DecidableEq

/-! ### Reading -/

/-- The ranges between two brackets. -/
def ranges : List Char → List (Char × Char)
  | a :: '-' :: b :: rest => (a, b) :: ranges rest
  | a :: rest => (a, a) :: ranges rest
  | [] => []

/-- Takes what stands in front of a closing bracket, at least one character, and what stands
behind it. -/
def bracketed? : List Char → Option (List Char × List Char)
  | [] => none
  | c :: rest =>
    match rest.dropWhile (· ≠ ']') with
    | [] => none
    | _ :: after => some (c :: rest.takeWhile (· ≠ ']'), after)

/-- What stands behind a bracket is shorter than what stands behind the opening one. -/
theorem bracketed?_length {cs inner after : List Char} (h : bracketed? cs = some (inner, after)) :
    after.length < cs.length := by
  cases cs with
  | nil => simp [bracketed?] at h
  | cons c rest =>
    have hl : (rest.dropWhile (· ≠ ']')).length ≤ rest.length :=
      (List.dropWhile_sublist _).length_le
    simp only [bracketed?] at h
    split at h <;> simp_all
    omega

/-- Reads the tokens of a name. -/
def tokens? (cs : List Char) : Option (List Token) :=
  match cs with
  | [] => some []
  | '?' :: rest => (tokens? rest).map (.anyChar :: ·)
  | '*' :: '*' :: _ => none
  | '*' :: rest => (tokens? rest).map (.anyChars :: ·)
  | '[' :: '!' :: rest =>
    match h : bracketed? rest with
    | none => none
    | some (inner, after) =>
      have := bracketed?_length h
      (tokens? after).map (.noneOf (ranges inner) :: ·)
  | '[' :: rest =>
    match h : bracketed? rest with
    | none => none
    | some (inner, after) =>
      have := bracketed?_length h
      (tokens? after).map (.oneOf (ranges inner) :: ·)
  | c :: rest => (tokens? rest).map (.char c :: ·)
termination_by cs.length
decreasing_by all_goals simp_all <;> omega

/-- Reads the pattern of a name. -/
def component? (name : List Char) : Option Component :=
  if name = ['*', '*'] then some .anyNames else (tokens? name).map .name

/-- Reads a pattern. -/
def pattern? (path : String) : Option (List Component) :=
  (Path.splitChars path.toList).mapM component?

/-! ### Matching -/

/-- A character is in one of some ranges. -/
def inRanges (ranges : List (Char × Char)) (c : Char) : Bool :=
  ranges.any fun (a, b) => a ≤ c && c ≤ b

/-- A name fits to tokens. -/
def fits : List Token → List Char → Bool
  | [], cs => cs.isEmpty
  | .anyChars :: ts, [] => fits ts []
  | .anyChars :: ts, c :: cs => fits ts (c :: cs) || fits (.anyChars :: ts) cs
  | _ :: _, [] => false
  | .char d :: ts, c :: cs => c = d && fits ts cs
  | .anyChar :: ts, _ :: cs => fits ts cs
  | .oneOf rs :: ts, c :: cs => inRanges rs c && fits ts cs
  | .noneOf rs :: ts, c :: cs => !inRanges rs c && fits ts cs
termination_by ts cs => (cs.length, ts.length)

/-- The one name that tokens stand for, if they are all plain characters. -/
def literal? : List Token → Option (List Char)
  | [] => some []
  | .char c :: ts => (literal? ts).map (c :: ·)
  | _ => none

end CrudScaffold.Glob
