import CrudScaffold.Event

/-!
# Which events are shown

A filter is a list of rules. A rule gives a threshold for the areas of the program whose names
begin in a certain way, and the rule with the longest beginning counts.
-/

namespace CrudScaffold

/-- The area of the program that an event comes from, by the name that filters know it by. -/
def Event.area : Event → String
  | stageChanged .. | generating .. | projectArtifact .. | classArtifact .. | repeatedTypeName ..
  | assembled .. => "blueprint_codegen::assembler"
  | unusableClassName .. => "blueprint_codegen::naming"
  | unknownEndpoint .. | repeatedRelationshipField .. => "blueprint_codegen::relations"
  | unusableAttributeName .. | repeatedAttribute .. | unknownTag .. | extraKey ..
  | idServesAsKey .. => "blueprint_codegen::templates"
  | archivePacked .. => "blueprint_codegen"
  | archiveDelivered .. => "blueprint_codegen::archive"
  | snapshotWritten .. => "blueprint_core"

/-- How low a threshold has to be for events of a level to be shown. -/
def Level.rank : Level → Nat
  | .error => 1
  | .warn => 2
  | .info => 3
  | .debug => 4

/-- The word of a level. -/
def Level.word : Level → String
  | .error => "ERROR"
  | .warn => "WARN"
  | .info => "INFO"
  | .debug => "DEBUG"

/-- An event as one line. -/
def Event.line (e : Event) : String :=
  e.level.word ++ " " ++ e.message ++
    String.join (e.fields.map fun (name, v) => " " ++ name ++ "=" ++ v.render)

namespace CommandLine

/-- A threshold for the areas whose names begin in a certain way. -/
structure Rule where
  start : String
  threshold : Nat
deriving Repr, DecidableEq

/-- The rules by which events are shown. -/
abbrev Filter := List Rule

namespace Filter

/-- The threshold that a word or a digit stands for. -/
def threshold? (s : String) : Option Nat :=
  match s.toList.map Char.toLower with
  | ['o', 'f', 'f'] | ['0'] => some 0
  | ['e', 'r', 'r', 'o', 'r'] | ['1'] => some 1
  | ['w', 'a', 'r', 'n'] | ['2'] => some 2
  | ['i', 'n', 'f', 'o'] | ['3'] => some 3
  | ['d', 'e', 'b', 'u', 'g'] | ['4'] => some 4
  | ['t', 'r', 'a', 'c', 'e'] | ['5'] => some 5
  | _ => none

/-- A character of the name of an area. -/
def isAreaChar (c : Char) : Bool := c.isAlphanum || c == '_' || c == ':' || c == '-'

/-- Reads a rule: a threshold for all areas, an area that is shown in full, or an area with its
threshold. -/
def rule? (s : String) : Option Rule :=
  match threshold? s with
  | some n => some ⟨"", n⟩
  | none =>
    let cs := s.toList
    let area := cs.takeWhile isAreaChar
    if area.isEmpty then none
    else match cs.dropWhile isAreaChar with
      | [] | ['='] => some ⟨String.ofList area, 5⟩
      | '=' :: rest => (threshold? (String.ofList rest)).map (⟨String.ofList area, ·⟩)
      | _ => none

/-- Parts a text at its commas. -/
def pieces : List Char → List (List Char)
  | [] => [[]]
  | ',' :: rest => [] :: pieces rest
  | c :: rest =>
    match pieces rest with
    | first :: more => (c :: first) :: more
    | [] => [[c]]

/-- Reads a filter. One without rules shows errors only. -/
def ofText? (s : String) : Option Filter := do
  let rules ← ((pieces s.toList).filter (!·.isEmpty)).mapM fun p => rule? (String.ofList p)
  return if rules.isEmpty then [⟨"", 1⟩] else rules

/-- The better one of two rules for an area, of which the later one wins a tie. -/
def better (area : String) (best : Option Rule) (r : Rule) : Option Rule :=
  if !r.start.toList.isPrefixOf area.toList then best
  else match best with
    | some b => if b.start.length ≤ r.start.length then some r else best
    | none => some r

/-- An event is shown. -/
def shows (f : Filter) (e : Event) : Bool :=
  match f.foldl (better e.area) none with
  | some r => e.level.rank ≤ r.threshold
  | none => false

/-- The filter of the flags of a command line. -/
def ofFlags (quiet verbose : Bool) : Filter :=
  [⟨"", if quiet then 1 else if verbose then 4 else 2⟩]

/-- The filter of a command line. A readable text in the environment overrides the flags. -/
def choose (text : Option String) (quiet verbose : Bool) : Filter :=
  (text >>= ofText?).getD (ofFlags quiet verbose)

end Filter

end CommandLine

end CrudScaffold
