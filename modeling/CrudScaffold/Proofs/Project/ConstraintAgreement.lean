import CrudScaffold.Proofs.Artifact.Column
import CrudScaffold.Proofs.Project.Legible

/-!
# Constraints in the files of a diagram

For every class of a diagram the database asks for what requests are asked for, and for nothing
else.
-/

namespace CrudScaffold

open Naming

namespace Snapshot

/-- **One set of constraints.** Every class of a diagram has a type name, and under it one of the
entities that the files of a project are made from. Its request and its response declare the
attributes and nothing else, and so does its model, next to the key and the relationship fields. The
columns of the attributes that are not the key have the options that the constraints in the request
ask for, and the response has no annotation. -/
theorem entity_constraintsAgree (s : Snapshot) (name : String) {c : ClassDef} (hc : c ∈ s.classes) :
    let package := (Layout.ofName name).package
    ∃ n, (ClassNames.ofSnapshot s).typeName? c.id = some n ∧
      s.entity package c n ∈ s.entities package ∧
      (s.entity package c n).ConstraintsAgree := by
  intro package
  obtain ⟨n, hn, hmem, he⟩ := exists_isReadable hc name
  exact ⟨n, hn, hmem, Entity.constraintsAgree he.wordy he.legible he.package he.nodup⟩

/-- A class with a required text of limited length, a required number and a text that may be
missing. -/
def product : ClassDef where
  id := "p"
  name := "Product"
  attributes := [{ name := "Title", isRequired := true, maxLength := some 80 },
    { name := "Weight", typeTag := .decimal, isRequired := true, maxLength := some 5 },
    { name := "Remark", maxLength := some 200 }, { name := "Launched on", typeTag := .date }]

/-- A diagram in which such products are sold in shops. -/
def products : Snapshot where
  classes := [product, { id := "s", name := "Shop" }]
  relations := [⟨"r", "p", "s", .associationNtoN, none⟩]

/-- The columns of a product agree with its requests. None of its attributes is the key. -/
theorem entity_constraintsAgree_product :
    product ∈ products.classes ∧
    ∃ e ∈ products.entities (Layout.ofName "Shop").package,
      e.typeName = "Product" ∧
      e.attributes.map (fun a => (a.fieldName, a.isPrimaryKey)) =
        [("title", false), ("weight", false), ("remark", false), ("launchedOn", false)] ∧
      e.ConstraintsAgree := by
  have hc : product ∈ products.classes := List.mem_cons_self
  obtain ⟨n, hn, hmem, hagree⟩ := entity_constraintsAgree products "Shop" hc
  obtain rfl : "Product" = n := Option.some.inj ((by decide +kernel :
    (ClassNames.ofSnapshot products).typeName? "p" = some "Product").symm.trans hn)
  have hpackage : (Layout.ofName "Shop").package = "shop" := by rw [Layout.ofName_shop]
  rw [hpackage] at hmem hagree ⊢
  have hnames : (products.entity "shop" product "Product").attributes.map
      (fun a => (a.fieldName, a.isPrimaryKey)) =
      [("title", false), ("weight", false), ("remark", false), ("launchedOn", false)] := by
    decide +kernel
  exact ⟨hc, _, hmem, rfl, hnames, hagree⟩

end Snapshot

end CrudScaffold
