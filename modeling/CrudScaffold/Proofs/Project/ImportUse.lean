import CrudScaffold.Proofs.Artifact.ImportUse
import CrudScaffold.Proofs.Project.Legible

/-!
# Imports in the files of a diagram

Whatever the classes of a diagram are made of, their files import what they use of dates, decimals,
collections and constraints, and nothing else of these.
-/

namespace CrudScaffold

open Naming

namespace Snapshot

/-- **Exact imports.** Every class of a diagram has a type name, and under it one of the entities
that the files of a project are made from. The imports of its seven files are in order and not
repeated. The types of values are imported for the attributes in model, request and response, and
for the key in repository, service and controller. The model imports the collections of its
relationship fields, and the request the constraints that stand over its fields. -/
theorem entity_importsExactly (s : Snapshot) (name : String) {c : ClassDef} (hc : c ∈ s.classes) :
    let package := (Layout.ofName name).package
    ∃ n, (ClassNames.ofSnapshot s).typeName? c.id = some n ∧
      s.entity package c n ∈ s.entities package ∧
      (s.entity package c n).ImportsExactly := by
  intro package
  obtain ⟨n, hn, hmem, he⟩ := exists_isReadable hc name
  exact ⟨n, hn, hmem, Entity.importsExactly he.wordy he.legible he.key⟩

/-- A class whose key is a decimal number, with a date and a text of limited length. -/
def invoice : ClassDef where
  id := "i"
  name := "Invoice"
  attributes := [{ name := "Number", typeTag := .decimal, isPrimaryKey := true },
    { name := "Issued on", typeTag := .date, isRequired := true },
    { name := "Note", maxLength := some 200 }]

/-- A diagram in which such invoices list items. -/
def invoices : Snapshot where
  classes := [invoice, { id := "t", name := "Item" }]
  relations := [⟨"r", "t", "i", .association, none⟩]

/-- The repository of an invoice imports the type of its number and not that of its date, the
request imports both, and the model imports lists and no sets. -/
theorem entity_importsExactly_invoice :
    invoice ∈ invoices.classes ∧
    ∃ e ∈ invoices.entities (Layout.ofName "Shop").package,
      e.typeName = "Invoice" ∧ e.ImportsExactly ∧
      "java.math.BigDecimal" ∈ Code.importedNames (ArtifactKind.access.render e) ∧
      "java.time.LocalDate" ∉ Code.importedNames (ArtifactKind.access.render e) ∧
      "java.time.LocalDate" ∈ Code.importedNames (ArtifactKind.request.render e) ∧
      "java.util.List" ∈ Code.importedNames (ArtifactKind.model.render e) ∧
      "java.util.Set" ∉ Code.importedNames (ArtifactKind.model.render e) := by
  have hc : invoice ∈ invoices.classes := List.mem_cons_self
  obtain ⟨n, hn, hmem, hexact⟩ := entity_importsExactly invoices "Shop" hc
  obtain rfl : "Invoice" = n := Option.some.inj ((by decide +kernel :
    (ClassNames.ofSnapshot invoices).typeName? "i" = some "Invoice").symm.trans hn)
  have hpackage : (Layout.ofName "Shop").package = "shop" := by rw [Layout.ofName_shop]
  rw [hpackage] at hmem hexact ⊢
  have hdate : Code.simpleName "java.time.LocalDate" = "LocalDate" := by
    rw [Code.simpleName_ofList]
    decide
  have hdecimal : Code.simpleName "java.math.BigDecimal" = "BigDecimal" := by
    rw [Code.simpleName_ofList]
    decide
  refine ⟨hc, _, hmem, rfl, hexact, ?_, ?_, ?_, ?_, ?_⟩
  · rw [hexact.key .access (by decide) _ (by decide), hdecimal]
    decide +kernel
  · rw [hexact.key .access (by decide) _ (by decide), hdate]
    decide +kernel
  · rw [hexact.attributes .request (by decide) _ (by decide), hdate]
    decide +kernel
  · rw [hexact.lists _ (by decide)]
    decide
  · rw [hexact.sets _ (by decide)]
    decide +kernel

end Snapshot

end CrudScaffold
