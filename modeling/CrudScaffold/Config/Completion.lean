import CrudScaffold.Config.Setting

/-!
# Completing a document

A document is completed by putting into it every setting that a configuration has and the
document has not. What the document has is kept as it is written. Where the name of a section
stands for something that is no table, an empty table takes its place first.
-/

namespace CrudScaffold.Config

/-- A setting as it is written into a document. Texts of a configuration that is completed from
hold nothing that needs an escape. -/
def literal? : Setting → Option Toml.Literal
  | .text s => some ⟨.text s, "\"" ++ s ++ "\""⟩
  | .integer n => some ⟨.integer n, toString n⟩
  | .boolean b => some ⟨.boolean b, toString b⟩
  | _ => none

/-- Puts a setting into a table if its key is missing, and counts it. -/
def addMissing (table : Toml.Entries × Nat) (setting : String × Setting) : Toml.Entries × Nat :=
  let (entries, count) := table
  match entries.get? setting.1, literal? setting.2 with
  | none, some literal => (entries ++ [(Toml.Key.ofWord setting.1, .value literal none)], count + 1)
  | _, _ => (entries, count)

/-- Puts the missing settings of a section into a document, and adds their number to a count. -/
def completeSection (document : Toml.Entries × Nat) (section' : String × List (String × Setting)) :
    Toml.Entries × Nat :=
  let (entries, count) := document
  let (name, settings) := section'
  let (head, inner) := match entries.get? name with
    | some (.table head inner) => (head, inner)
    | _ => ({}, [])
  let (inner, count) := settings.foldl addMissing (inner, count)
  (entries.set (Toml.Key.ofWord name) (.table head inner), count)

/-- Completes a document, and counts the settings that were missing. -/
def complete (c : Config) (d : Toml.Document) : Toml.Document × Nat :=
  let (entries, count) := c.settings.foldl completeSection (d.entries, 0)
  ({ d with entries }, count)

end CrudScaffold.Config
