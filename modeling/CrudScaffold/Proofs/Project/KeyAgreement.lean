import CrudScaffold.Proofs.Artifact.Key
import CrudScaffold.Proofs.Project.Legible

/-!
# One key for every class

Model, repository, service and controller of a class are written one by one, and each of them speaks
of the key of the class. All of them speak of the same field of the same type, whether an attribute
is the key or one is added.
-/

namespace CrudScaffold

open Naming

namespace Snapshot

/-- **One key for every class.** Every class of a diagram has a type name, and under it one of the
entities that the files of a project are made from. If no line end is in the names of its joins, its
model declares one key, with the name and the type of the key of the entity. The type of the key is
that of all keys which the repository, the service and the controller take, and the service sets the
key through a method that the model has. -/
theorem entity_agreesOnKey (s : Snapshot) (name : String) {c : ClassDef} (hc : c ∈ s.classes) :
    let package := (Layout.ofName name).package
    ∃ n, (ClassNames.ofSnapshot s).typeName? c.id = some n ∧
      s.entity package c n ∈ s.entities package ∧
      ((s.entity package c n).JoinsOneLine →
        (s.entity package c n).AgreesOnKey (s.entity package c n).primaryKey.fieldName
          (s.entity package c n).primaryKey.java.name) := by
  intro package
  obtain ⟨n, hn, hmem, he⟩ := exists_isReadable hc name
  exact ⟨n, hn, hmem, Entity.agreesOnKey he.wordy he.name he.package he.key⟩

/-- A class whose key is not the attribute called `id`. -/
def numberedOrder : ClassDef where
  id := "o"
  name := "Order"
  attributes := [{ name := "id" },
    { name := "Order number", typeTag := .int, isPrimaryKey := true }]

/-- A diagram in which such orders refer to customers and share a join table with items. -/
def numberedOrders : Snapshot where
  classes := [numberedOrder, { id := "c", name := "Customer" }, { id := "i", name := "Item" }]
  relations := [⟨"r", "o", "c", .association, none⟩,
    ⟨"l", "o", "i", .associationNtoN, some "order lines"⟩]

/-- The files of an order agree on its number as the key. -/
theorem entity_agreesOnKey_numberedOrder :
    numberedOrder ∈ numberedOrders.classes ∧
    ∃ e ∈ numberedOrders.entities (Layout.ofName "Shop").package,
      e.typeName = "Order" ∧
      e.relationships.map RelationshipField.joinName = ["customer_id", "order lines"] ∧
      e.JoinsOneLine ∧ e.AgreesOnKey "orderNumber" "Integer" := by
  have hc : numberedOrder ∈ numberedOrders.classes := List.mem_cons_self
  obtain ⟨n, hn, hmem, hagree⟩ := entity_agreesOnKey numberedOrders "Shop" hc
  obtain rfl : "Order" = n := Option.some.inj ((by decide +kernel :
    (ClassNames.ofSnapshot numberedOrders).typeName? "o" = some "Order").symm.trans hn)
  have hpackage : (Layout.ofName "Shop").package = "shop" := by rw [Layout.ofName_shop]
  rw [hpackage] at hmem hagree ⊢
  have hnames : (numberedOrders.entity "shop" numberedOrder "Order").relationships.map
      RelationshipField.joinName = ["customer_id", "order lines"] := by
    decide +kernel
  have hjoins : (numberedOrders.entity "shop" numberedOrder "Order").JoinsOneLine := by
    intro f hf
    have hlines : ∀ t ∈ ["customer_id", "order lines"], '\n' ∉ t.toList := by decide
    exact hlines _ (hnames ▸ List.mem_map_of_mem hf)
  have hkey : (numberedOrders.entity "shop" numberedOrder "Order").primaryKey =
      ⟨"orderNumber", .ofTag .int, false⟩ := by
    decide +kernel
  refine ⟨hc, _, hmem, rfl, hnames, hjoins, ?_⟩
  have hfiles := hagree hjoins
  rw [hkey] at hfiles
  exact hfiles

end Snapshot

end CrudScaffold
