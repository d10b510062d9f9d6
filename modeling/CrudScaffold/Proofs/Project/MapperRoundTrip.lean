import CrudScaffold.Proofs.Artifact.Mapper
import CrudScaffold.Proofs.Project.Legible

/-!
# Mappers of a diagram

The mapper of a class is written from the same attributes as request, model and response, but into a
file of its own. For every class of a diagram these four files fit together: what comes in with a
request goes out with a response.
-/

namespace CrudScaffold

open Naming

namespace Snapshot

/-- **There and back.** Every class of a diagram has a type name, and under it one of the entities
that the files of a project are made from. Its mapper copies the attributes from a request to a
model and from a model to a response, with methods that these classes declare for the attributes,
and nothing that a request holds gets lost on the way to the response. -/
theorem entity_mapsBackAndForth (s : Snapshot) (name : String) {c : ClassDef} (hc : c ∈ s.classes) :
    let package := (Layout.ofName name).package
    ∃ n, (ClassNames.ofSnapshot s).typeName? c.id = some n ∧
      s.entity package c n ∈ s.entities package ∧
      (s.entity package c n).MapsBackAndForth := by
  intro package
  obtain ⟨n, hn, hmem, he⟩ := exists_isReadable hc name
  exact ⟨n, hn, hmem, Entity.mapsBackAndForth he.wordy he.name he.legible he.nodup⟩

/-- A class that gives one name to two attributes, and another to an attribute that begins with a
digit. -/
def contact : ClassDef where
  id := "c"
  name := "Contact"
  attributes := [{ name := "E-mail" }, { name := "e mail", typeTag := .date },
    { name := "2nd line", typeTag := .int }, { name := "eMail2", typeTag := .decimal }]

/-- A diagram in which such contacts belong to customers. -/
def contacts : Snapshot where
  classes := [contact, { id := "u", name := "Customer" }]
  relations := [⟨"r", "c", "u", .association, none⟩]

/-- What a request for a contact holds is held by the response. -/
theorem entity_mapsBackAndForth_contact :
    contact ∈ contacts.classes ∧
    ∃ e ∈ contacts.entities (Layout.ofName "Shop").package,
      e.typeName = "Contact" ∧
      e.attributes.map Attribute.fieldName = ["eMail", "2ndLine", "eMail2"] ∧
      e.MapsBackAndForth := by
  have hc : contact ∈ contacts.classes := List.mem_cons_self
  obtain ⟨n, hn, hmem, hmaps⟩ := entity_mapsBackAndForth contacts "Shop" hc
  obtain rfl : "Contact" = n := Option.some.inj ((by decide +kernel :
    (ClassNames.ofSnapshot contacts).typeName? "c" = some "Contact").symm.trans hn)
  have hnames : ∀ package, (contacts.entity package contact "Contact").attributes.map
      Attribute.fieldName = ["eMail", "2ndLine", "eMail2"] := by
    intro package
    rw [entity_eq, Entity.map_fieldName_ofClass]
    decide +kernel
  exact ⟨hc, _, hmem, rfl, hnames _, hmaps⟩

end Snapshot

end CrudScaffold
