import CrudScaffold.Proofs.Artifact.Column
import CrudScaffold.Proofs.Entity.Key
import CrudScaffold.Proofs.Project.Legible
import CrudScaffold.Proofs.Snapshot.MaxLength

/-!
# Limits of lengths from end to end

The limit of an attribute begins as digits in the text of a diagram and ends as digits in the files
of its class: in the request, where it is the constraint of a field, and in the model, where it is
an option of a column. In between it is a number of 32 bits. Nothing is lost on the way: where the
number is taken at all, the digits in the files are the digits of the text.
-/

namespace CrudScaffold

open Json

/-! ### Attributes that are kept -/

section Survey

variable {seen : List String} {flagged : Bool} {defs : List AttributeDef} {j : Nat} {b : Attribute}
  {unknownTag extraKey : Bool}

/-- A survey says of its first attribute what becomes of it, and goes on to the others. -/
lemma exists_survey_cons (seen : List String) (flagged : Bool) (d : AttributeDef)
    (defs : List AttributeDef) :
    ∃ f seen' flagged', survey seen flagged (d :: defs) = f :: survey seen' flagged' defs ∧
      ∀ a, f.attribute? = some a → a.Carries d := by
  rw [survey]
  split_ifs with hempty hseen
  · exact ⟨_, _, _, rfl, fun a ha => absurd ha.symm (Option.some_ne_none a)⟩
  · exact ⟨_, _, _, rfl, fun a ha => absurd ha.symm (Option.some_ne_none a)⟩
  · refine ⟨_, _, _, rfl, fun a ha => ?_⟩
    obtain rfl := Option.some.inj ha
    exact ⟨rfl, rfl, rfl, rfl⟩

/-- What a survey keeps is carried over from the attribute at the same position. -/
lemma exists_carries_of_survey
    (h : (survey seen flagged defs)[j]? = some (.kept b unknownTag extraKey)) :
    ∃ d, defs[j]? = some d ∧ b.Carries d := by
  induction defs generalizing seen flagged j with
  | nil => cases h
  | cons d defs ih =>
    obtain ⟨f, seen', flagged', hcons, hcarries⟩ := exists_survey_cons seen flagged d defs
    rw [hcons] at h
    cases j with
    | zero =>
      obtain rfl := Option.some.inj h
      exact ⟨d, rfl, hcarries b rfl⟩
    | succ j => exact ih h

/-- The choice of a key leaves the kept attributes where they are, with what they are carried over
from. -/
lemma Entity.exists_getElem?_attributes {c : ClassDef} {n : String}
    {fields : List RelationshipField} {package : String}
    (h : (survey [] false c.attributes)[j]? = some (.kept b unknownTag extraKey)) :
    ∃ (k : Nat) (a : Attribute), (ofClass c n fields package).attributes[k]? = some a ∧
      a.fieldName = b.fieldName ∧ a.java = b.java ∧ a.maxLength = b.maxLength := by
  have hkept : b ∈ keptAttributes c :=
    List.mem_filterMap.mpr ⟨_, List.mem_of_getElem? h, rfl⟩
  obtain ⟨k, hk⟩ := List.mem_iff_getElem?.mp hkept
  have hsame : (ofClass c n fields package).attributes.map
        (fun a => (a.fieldName, a.java, a.maxLength)) =
      (keptAttributes c).map fun a => (a.fieldName, a.java, a.maxLength) :=
    map_chooseKey (fun _ => rfl) _
  have hat := congrArg (·[k]?) hsame
  simp only [List.getElem?_map, hk, Option.map_some, Option.map_eq_some_iff] at hat
  obtain ⟨a, ha, he⟩ := hat
  simp only [Prod.mk.injEq] at he
  exact ⟨k, a, ha, he⟩

end Survey

/-! ### Fields and columns -/

/-- The fields of an attribute in the request and in the model are limited to a length, as it is
written: the one by its constraints, the other, if it is not the key, by the options of its column.
They are limited to no other length. -/
structure Attribute.IsLimited (a : Attribute) (column field : Field) (literal : String) : Prop where
  column_member : column.member = a.member
  field_member : field.member = a.member
  size : ∀ l, field.IsLimitedTo l ↔ l = literal
  length : ¬ a.isPrimaryKey → ∀ l, "length = " ++ l ∈ column.columnOptions ↔ l = literal

/-- Request and model of an entity limit the attribute of a name to a length, as it is written. -/
def Entity.LimitsLength (e : Entity) (name literal : String) : Prop :=
  ∃ k a column field, e.attributes[k]? = some a ∧ a.fieldName = name ∧
    (Code.fields (ArtifactKind.model.render e))[e.addedKey.length + k]? = some column ∧
    (Code.fields (ArtifactKind.request.render e))[k]? = some field ∧
    a.IsLimited column field literal

/-- The limit of a text is written in request and model as numbers are written. -/
lemma Entity.IsReadable.limitsLength {e : Entity} (he : e.IsReadable) {k : Nat} {a : Attribute}
    (ha : e.attributes[k]? = some a) {m : UInt32} (hlimit : a.textLimit = some m) :
    e.LimitsLength a.fieldName (toString m) := by
  obtain ⟨column, field, hcolumn, hfield, hcolumnMember, hfieldMember, hagrees⟩ :=
    (constraintsAgree he.wordy he.legible he.package he.nodup).columns k a ha
  have hrequest : Code.fields (ArtifactKind.request.render e) =
      e.attributes.map fun a => ⟨a.constraints.map Constraint.annotationLine, a.member⟩ :=
    fields_payload he.wordy he.legible .request
  have hsize : ∀ l, field.IsLimitedTo l ↔ l = toString m := by
    intro l
    rw [hrequest, List.getElem?_map, ha] at hfield
    rw [← Option.some.inj hfield, Attribute.isLimitedTo_constraints, hlimit]
    simp [eq_comm]
  exact ⟨k, a, column, field, ha, rfl, hcolumn, hfield, hcolumnMember, hfieldMember, hsize,
    fun hkey l => ((hagrees hkey).length l).trans (hsize l)⟩

namespace Snapshot

/-- The limit of an attribute that is kept is written in request and model of its class. -/
lemma exists_limitsLength {s : Snapshot} {c : ClassDef} (hc : c ∈ s.classes) {j : Nat}
    {b : Attribute} {unknownTag extraKey : Bool}
    (hkept : (survey [] false c.attributes)[j]? = some (.kept b unknownTag extraKey))
    {m : UInt32} (hlimit : b.textLimit = some m) (name : String) :
    let package := (Layout.ofName name).package
    ∃ n, (ClassNames.ofSnapshot s).typeName? c.id = some n ∧
      s.entity package c n ∈ s.entities package ∧
      (s.entity package c n).LimitsLength b.fieldName (toString m) := by
  intro package
  obtain ⟨n, hn, hmem, he⟩ := exists_isReadable hc name
  obtain ⟨k, a, ha, hname, hjava, hmax⟩ := Entity.exists_getElem?_attributes hkept
  have htext : a.textLimit = some m := by
    unfold Attribute.textLimit at hlimit ⊢
    rw [hjava, hmax]
    exact hlimit
  exact ⟨n, hn, hmem, hname ▸ he.limitsLength ha htext⟩

end Snapshot

/-- **Limits from end to end.** Take the text of a diagram that is read, and put any number literal
into it as the limit of any attribute. The text is read exactly if the literal consists of digits
and 32 bits hold the number. Then it is the same diagram but for this limit, and if the attribute is
kept and its type is text, request and model of its class have the literal itself as their limit. -/
theorem Snapshot.ofJson_maxLength {text text' literal : String} {s : Snapshot} {t t' : Tree}
    {n : Numeral} {i j : Nat} (hs : ofJson text = .ok s) (ht : IsDocument text t)
    (ht' : IsDocument text' t') (hliteral : IsLexeme literal.toList (.number n none))
    (hput : PutsMaxLength i j n t t') :
    ((∃ s', ofJson text' = .ok s') ↔ IsNat32 literal) ∧
    ∀ s', ofJson text' = .ok s' → ∃ m c d, toString m = literal ∧ s' = s.withMaxLength i j m ∧
      s'.classes[i]? = some c ∧ c.attributes[j]? = some d ∧ d.maxLength = some m ∧
      ∀ b unknownTag extraKey,
        (survey [] false c.attributes)[j]? = some (.kept b unknownTag extraKey) →
          (JavaType.ofTag d.typeTag).isText → ∀ name,
            let package := (Layout.ofName name).package
            ∃ typeName, (ClassNames.ofSnapshot s').typeName? c.id = some typeName ∧
              s'.entity package c typeName ∈ s'.entities package ∧
              (s'.entity package c typeName).LimitsLength (Naming.fieldName d.name) literal := by
  obtain ⟨c, a, hc, ha, hread⟩ := hput.read_iff ((ofText_iff_read Part.slotted_diagram ht).mp hs)
  have haccepted : ∀ s', ofJson text' = .ok s' ↔
      ∃ m, readLength (.number n none) = .ok m ∧ s' = s.withMaxLength i j m :=
    fun s' => (ofText_iff_read Part.slotted_diagram ht').trans (hread s')
  refine ⟨⟨?_, fun h => ?_⟩, fun s' hs' => ?_⟩
  · rintro ⟨s', hs'⟩
    obtain ⟨m, hm, -⟩ := (haccepted s').mp hs'
    exact ((readLength_eq_ok_iff hliteral).mp hm).1
  · obtain ⟨m, hm⟩ := exists_readLength hliteral h
    exact ⟨_, (haccepted _).mpr ⟨m, hm, rfl⟩⟩
  · obtain ⟨m, hm, rfl⟩ := (haccepted s').mp hs'
    obtain ⟨-, hwritten⟩ := (readLength_eq_ok_iff hliteral).mp hm
    have hclass : (s.withMaxLength i j m).classes[i]? = some (c.withMaxLength j m) := by
      unfold withMaxLength
      rw [List.getElem?_modify_eq, hc]
      rfl
    have hattribute : (c.withMaxLength j m).attributes[j]? =
        some { a with maxLength := some m } := by
      unfold ClassDef.withMaxLength
      rw [List.getElem?_modify_eq, ha]
      rfl
    refine ⟨m, _, _, hwritten, rfl, hclass, hattribute, rfl, ?_⟩
    intro b unknownTag extraKey hkept htext name
    obtain ⟨d, hd, hname, hjava, -, hmax⟩ := exists_carries_of_survey hkept
    obtain rfl := Option.some.inj (hattribute.symm.trans hd)
    have hlimit : b.textLimit = some m := by
      unfold Attribute.textLimit
      rw [hjava, if_pos htext, hmax]
    rw [← hname, ← hwritten]
    exact exists_limitsLength (List.mem_of_getElem? hclass) hkept hlimit name

/-- The document of a diagram of one class with one attribute. -/
def oneAttribute (t : Tree) : Tree :=
  .object ([] ++ (.ofString "classes", .array ([] ++
    .object ([(.ofString "id", .string (.ofString "c")),
        (.ofString "name", .string (.ofString "Shop"))] ++
      (.ofString "attributes", .array ([] ++ t :: []) none) :: []) none :: []) none) ::
    []) none

/-- The document of an attribute with some members behind its name. -/
def titled (members : List (StringLiteral × Tree)) : Tree :=
  .object ([(.ofString "name", .string (.ofString "title"))] ++ members) none

/-- The largest limit that there is becomes one more member of an attribute, and arrives in the
files of the class. -/
theorem Snapshot.ofJson_maxLength_largest :
    ofJson ("\x7b\"classes\":[\x7b\"id\":\"c\",\"name\":\"Shop\",\"attributes\":[" ++
      "\x7b\"name\":\"title\"\x7d]\x7d]\x7d") =
        .ok { classes := [⟨"c", "Shop", [{ name := "title" }]⟩] } ∧
    ∃ s', ofJson
      ("\x7b\"classes\":[\x7b\"id\":\"c\",\"name\":\"Shop\",\"attributes\":[" ++
        "\x7b\"name\":\"title\",\"maxLength\":4294967295\x7d]\x7d]\x7d") = .ok s' ∧
      s' = { classes := [⟨"c", "Shop", [{ name := "title", maxLength := some 4294967295 }]⟩] } ∧
      ∃ e ∈ s'.entities (Layout.ofName "Shop").package,
        e.typeName = "Shop" ∧ e.LimitsLength "title" "4294967295" := by
  have ht : IsDocument
      ("\x7b\"classes\":[\x7b\"id\":\"c\",\"name\":\"Shop\",\"attributes\":[" ++
        "\x7b\"name\":\"title\"\x7d]\x7d]\x7d") (oneAttribute (titled [])) :=
    parse_eq_iff.mp ⟨rfl, rfl⟩
  have ht' : IsDocument
      ("\x7b\"classes\":[\x7b\"id\":\"c\",\"name\":\"Shop\",\"attributes\":[" ++
        "\x7b\"name\":\"title\",\"maxLength\":4294967295\x7d]\x7d]\x7d")
      (oneAttribute (titled [(.ofString "maxLength",
        .number ⟨false, "4294967295".toList, none, none⟩ none)])) := parse_eq_iff.mp ⟨rfl, rfl⟩
  have hs : ofJson _ = .ok { classes := [⟨"c", "Shop", [{ name := "title" }]⟩] } :=
    (ofText_eq_ok_iff Part.slotted_diagram).mpr ⟨_, ht, rfl⟩
  have hdigits : AreDigits "4294967295".toList := List.all_eq_true.mp (by decide)
  have hliteral : IsLexeme "4294967295".toList
      (.number ⟨false, "4294967295".toList, none, none⟩ none) :=
    .positive ⟨[], [], ⟨by decide, hdigits, by decide⟩, .none, .none, rfl⟩ rfl
  have hnew : ∀ m ∈ [(StringLiteral.ofString "name", Tree.string (.ofString "title"))] ++ [],
      m.1.decode ≠ .ok "maxLength" := by
    refine List.forall_mem_singleton.mpr ?_
    rw [StringLiteral.decode_ofString]
    decide
  have hput : PutsMaxLength 0 0 ⟨false, "4294967295".toList, none, none⟩
      (oneAttribute (titled []))
      (oneAttribute (titled [(.ofString "maxLength",
        .number ⟨false, "4294967295".toList, none, none⟩ none)])) :=
    .member (StringLiteral.decode_ofString _) <| .intro rfl <|
      .member (StringLiteral.decode_ofString _) <| .intro rfl
        ⟨_, .refl, .member (StringLiteral.decode_ofString _) hnew⟩
  obtain ⟨hiff, hfiles⟩ := ofJson_maxLength hs ht ht' hliteral hput
  obtain ⟨s', hs'⟩ := hiff.mpr ⟨hdigits, by decide⟩
  obtain ⟨m, c, d, hm, hsame, hc, hd, -, hlimits⟩ := hfiles s' hs'
  obtain rfl : m = 4294967295 := UInt32.toNat_inj.mp (Nat.repr_injective hm)
  subst hsame
  cases hc
  cases hd
  obtain ⟨typeName, hname, hmem, hlimit⟩ := hlimits
    { fieldName := "title", java := .ofTag .string, isPrimaryKey := false, isRequired := false,
      maxLength := some 4294967295 } false false (by decide +kernel) rfl "Shop"
  obtain rfl : typeName = "Shop" :=
    Option.some.inj (hname.symm.trans (by decide +kernel))
  have hfield : Naming.fieldName "title" = "title" := by decide +kernel
  rw [hfield] at hlimit
  exact ⟨hs, _, hs', rfl, _, hmem, rfl, hlimit⟩

end CrudScaffold
