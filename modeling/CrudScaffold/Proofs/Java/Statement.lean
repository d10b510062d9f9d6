import Mathlib.Logic.Function.Basic
import CrudScaffold.Proofs.Java.Declaration

/-!
# Methods that copy fields

A method that turns one object into another makes a new object, copies field after field to it and
gives it back. Neither object is touched but through methods of its class, so what such a method
does depends on three texts: its own, and those of the two classes.

`Statement.ofLine?` reads the lines of a method, and `Statement.run` runs them. The texts of classes
say which field a method reads or writes. If they say so for all fields that are copied, these
fields and no others have the values that they have in the first object
(`Statement.run_copyFields`).
-/

namespace CrudScaffold

open Naming

/-- A statement of a method that copies fields. -/
inductive Statement
  /-- A variable is a new object of a type. -/
  | create (type name : String)
  /-- What a method of one variable gives back is what a method of another is called with. -/
  | copy (target writer source reader : String)
  /-- A variable is given back. -/
  | give (name : String)
deriving Repr, DecidableEq

namespace Statement

/-! ### Reading statements -/

/-- The statement in a line that copies. -/
def copyOfLine? (line : String) : Option Statement := do
  let (target, rest) ← Code.cut? '.' line.toList
  let (writer, rest) ← Code.cut? '(' rest
  let (source, rest) ← Code.cut? '.' rest
  let (reader, rest) ← Code.cut? '(' rest
  if rest = "));".toList then
    some (.copy (.ofList target) (.ofList writer) (.ofList source) (.ofList reader))
  else none

/-- The statement in a line that makes an object. -/
def createOfLine? (line : String) : Option Statement := do
  let (type, rest) ← Code.cut? ' ' line.toList
  let (name, rest) ← Code.cut? ' ' rest
  if rest = "= new ".toList ++ type ++ "();".toList then
    some (.create (.ofList type) (.ofList name))
  else none

/-- The statement in a line that gives an object back. -/
def giveOfLine? (line : String) : Option Statement := do
  let (word, rest) ← Code.cut? ' ' line.toList
  let (name, rest) ← Code.cut? ';' rest
  if word = "return".toList ∧ rest = [] then some (.give (.ofList name)) else none

/-- The statement in a line. -/
def ofLine? (line : String) : Option Statement :=
  copyOfLine? line <|> createOfLine? line <|> giveOfLine? line

variable {line type name target writer source reader : String}

/-- Without a dot nothing is copied. -/
lemma copyOfLine?_eq_none (h : '.' ∉ line.toList) : copyOfLine? line = none := by
  rw [copyOfLine?, Code.cut?_eq_none h]
  rfl

/-- A line that copies is read as such. -/
lemma ofLine?_copy (htarget : IsWordText target) (hwriter : IsWordText writer)
    (hsource : IsWordText source) (hreader : IsWordText reader) :
    ofLine? s!"{target}.{writer}({source}.{reader}());" =
      some (.copy target writer source reader) := by
  have hlist : (s!"{target}.{writer}({source}.{reader}());").toList = target.toList ++ '.' ::
      (writer.toList ++ '(' :: (source.toList ++ '.' :: (reader.toList ++ '(' ::
        "));".toList))) := by
    simp [toString_text]
  have hcopy : copyOfLine? s!"{target}.{writer}({source}.{reader}());" =
      some (.copy target writer source reader) := by
    rw [copyOfLine?, hlist]
    simp only [Option.bind_eq_bind, Option.bind_some,
      Code.cut?_append (htarget.notMem '.' (by decide)),
      Code.cut?_append (hwriter.notMem '(' (by decide)),
      Code.cut?_append (hsource.notMem '.' (by decide)),
      Code.cut?_append (hreader.notMem '(' (by decide)), if_true, String.ofList_toList]
  rw [ofLine?, hcopy]
  rfl

/-- A line that makes an object is read as such. -/
lemma ofLine?_create (htype : IsWordText type) (hname : IsWordText name) :
    ofLine? s!"{type} {name} = new {type}();" = some (.create type name) := by
  have hlist : (s!"{type} {name} = new {type}();").toList = type.toList ++ ' ' ::
      (name.toList ++ ' ' :: ("= new ".toList ++ type.toList ++ "();".toList)) := by
    simp [toString_text]
  have hdot : '.' ∉ (s!"{type} {name} = new {type}();").toList := by
    rw [hlist]
    simp [htype.notMem '.' (by decide), hname.notMem '.' (by decide)]
  have hcreate : createOfLine? s!"{type} {name} = new {type}();" = some (.create type name) := by
    rw [createOfLine?, hlist]
    simp only [Option.bind_eq_bind, Option.bind_some,
      Code.cut?_append (htype.notMem ' ' (by decide)),
      Code.cut?_append (hname.notMem ' ' (by decide)), if_true, String.ofList_toList]
  rw [ofLine?, copyOfLine?_eq_none hdot, hcreate]
  rfl

/-- A line that gives an object back is read as such. -/
lemma ofLine?_give (hname : IsWordText name) : ofLine? s!"return {name};" = some (.give name) := by
  have hlist : (s!"return {name};").toList = "return".toList ++ ' ' ::
      (name.toList ++ ';' :: []) := by
    simp [toString_text]
  have hdot : '.' ∉ (s!"return {name};").toList := by
    rw [hlist]
    simp [hname.notMem '.' (by decide)]
  have hreturn : ' ' ∉ "return".toList := by decide
  have hblank : ' ' ∉ name.toList ++ [';'] := by
    simp [hname.notMem ' ' (by decide)]
  have hcreate : createOfLine? s!"return {name};" = none := by
    rw [createOfLine?, hlist]
    simp only [Option.bind_eq_bind, Option.bind_some, Code.cut?_append hreturn,
      Code.cut?_eq_none hblank, Option.bind_none]
  have hgive : giveOfLine? s!"return {name};" = some (.give name) := by
    rw [giveOfLine?, hlist]
    simp only [Option.bind_eq_bind, Option.bind_some, Code.cut?_append hreturn,
      Code.cut?_append (hname.notMem ';' (by decide)), and_self, if_true,
      String.ofList_toList]
  rw [ofLine?, copyOfLine?_eq_none hdot, hcreate, hgive]
  rfl

end Statement

/-- The statements of a method, if all its lines are some. -/
def Method.statements? (m : Method) : Option (List Statement) := m.body.mapM Statement.ofLine?

/-- Lines that are statements one by one are read as these statements. -/
lemma Statement.mapM_ofLine? {α : Type} {text : α → String} {statement : α → Statement}
    {l : List α} (h : ∀ a ∈ l, ofLine? (text a) = some (statement a)) :
    (l.map text).mapM ofLine? = some (l.map statement) := by
  induction l with
  | nil => rfl
  | cons a l ih =>
    obtain ⟨ha, hl⟩ := List.forall_mem_cons.mp h
    rw [List.map_cons, List.mapM_cons, ha, ih hl]
    rfl

/-! ### Running statements -/

/-- An object of a class: its type and the values of its fields, as far as they have any. -/
structure Object (α : Type) where
  type : String
  values : String → Option α

section Running

variable {α : Type} (texts : String → Option String)

namespace Object

/-- A new object, in which no field has a value. -/
def new (type : String) : Object α := ⟨type, fun _ => none⟩

/-- What a method of an object gives back, given the texts of the classes. -/
def read? (o : Object α) (reader : String) : Option (Option α) := do
  let text ← texts o.type
  let field ← (Code.lastMethod? text reader).bind Method.returned?
  return o.values field

/-- An object after a method of it is called with a value. -/
def write? (o : Object α) (writer : String) (value : Option α) : Option (Object α) := do
  let text ← texts o.type
  let field ← (Code.lastMethod? text writer).bind Method.assigned?
  return { o with values := Function.update o.values field value }

end Object

/-- What some statements give back that begin with the variables in a scope. -/
def Statement.run (scope : String → Option (Object α)) : List Statement → Option (Object α)
  | [] => none
  | .create type name :: rest => run (Function.update scope name (some (.new type))) rest
  | .copy target writer source reader :: rest => do
    let value ← (← scope source).read? texts reader
    let object ← (← scope target).write? texts writer value
    run (Function.update scope target (some object)) rest
  | .give name :: _ => scope name

/-- What a method gives back that is called with an object of the type of its parameter. -/
def Method.call? (m : Method) (argument : Object α) : Option (Object α) := do
  let (type, name) ← Code.cut? ' ' m.parameters.toList
  let statements ← m.statements?
  if String.ofList type = argument.type then
    Statement.run texts (Function.update (fun _ => none) (.ofList name) (some argument)) statements
  else none

/-- The class of a type has methods that read and write some fields. -/
def Offers (type : String) (fields : List String) : Prop :=
  ∃ text members, texts type = some text ∧ Code.HasAccessors text members ∧
    fields ⊆ members.map Member.name

variable {texts} {fields : List String} {f : String}

/-- A field that the class of an object offers is read. -/
lemma Object.read?_getter {o : Object α} (h : Offers texts o.type fields) (hf : f ∈ fields) :
    o.read? texts (getter f) = some (o.values f) := by
  obtain ⟨text, members, htext, haccessors, hsub⟩ := h
  obtain ⟨m, hm, rfl⟩ := List.mem_map.mp (hsub hf)
  simp only [read?, htext, haccessors.returned?_lastMethod? hm, Option.bind_eq_bind,
    Option.bind_some]
  rfl

/-- A field that the class of an object offers is written, and no other one. -/
lemma Object.write?_setter {o : Object α} (h : Offers texts o.type fields) (hf : f ∈ fields)
    (value : Option α) :
    o.write? texts (setter f) value = some ⟨o.type, Function.update o.values f value⟩ := by
  obtain ⟨text, members, htext, haccessors, hsub⟩ := h
  obtain ⟨m, hm, rfl⟩ := List.mem_map.mp (hsub hf)
  simp only [write?, htext, haccessors.assigned?_lastMethod? hm, Option.bind_eq_bind,
    Option.bind_some]
  rfl

/-- The statement that copies a field from one variable to another. -/
def Statement.copyField (source target field : String) : Statement :=
  .copy target (setter field) source (getter field)

namespace Statement

variable {scope : String → Option (Object α)} {source target type : String}

/-- One statement copies one field. -/
lemma run_copyField {given taken : Object α} {rest : List Statement}
    (hsource : scope source = some given) (htarget : scope target = some taken)
    (hgiven : Offers texts given.type fields) (htaken : Offers texts taken.type fields)
    (hf : f ∈ fields) :
    run texts scope (copyField source target f :: rest) =
      run texts (Function.update scope target
        (some ⟨taken.type, Function.update taken.values f (given.values f)⟩)) rest := by
  rw [copyField, run, hsource, htarget]
  simp only [Option.bind_eq_bind, Option.bind_some, Object.read?_getter hgiven hf,
    Object.write?_setter htaken hf]

/-- Statements that copy fields one by one give these fields the values that they have in the other
object, and leave all others alone. -/
lemma run_copyFields {given taken : Object α} {copied : List String} (hcopied : copied ⊆ fields)
    (hne : source ≠ target) (hsource : scope source = some given)
    (htarget : scope target = some taken) (hgiven : Offers texts given.type fields)
    (htaken : Offers texts taken.type fields) :
    run texts scope (copied.map (copyField source target) ++ [.give target]) =
      some ⟨taken.type, fun f => if f ∈ copied then given.values f else taken.values f⟩ := by
  induction copied generalizing scope taken with
  | nil =>
    rw [List.map_nil, List.nil_append, run, htarget]
    simp
  | cons f copied ih =>
    obtain ⟨hf, hcopied⟩ := List.cons_subset.mp hcopied
    have hsource' : Function.update scope target
        (some ⟨taken.type, Function.update taken.values f (given.values f)⟩) source =
          some given := by
      rw [Function.update_of_ne hne, hsource]
    rw [List.map_cons, List.cons_append, run_copyField hsource htarget hgiven htaken hf,
      ih hcopied hsource' (Function.update_self _ _ _) htaken]
    -- a field that is copied again gets the same value again
    have hvalues : ∀ g, (if g ∈ copied then given.values g
        else Function.update taken.values f (given.values f) g) =
        if g ∈ f :: copied then given.values g else taken.values g := by
      intro g
      by_cases hg : g = f
      · subst hg
        simp
      · simp [hg]
    exact congrArg (fun values => some (Object.mk taken.type values)) (funext hvalues)

end Statement

/-- A method that makes an object, copies fields of its argument to it and gives it back returns an
object with the values of these fields and no others. -/
lemma Method.call?_of_copyFields {m : Method} {argument : Object α} {source target type : String}
    (hparameters : m.parameters = argument.type ++ " " ++ source)
    (htype : ' ' ∉ argument.type.toList)
    (hstatements : m.statements? = some (.create type target ::
      (fields.map (Statement.copyField source target) ++ [.give target])))
    (hne : source ≠ target) (hargument : Offers texts argument.type fields)
    (hresult : Offers texts type fields) :
    m.call? texts argument =
      some ⟨type, fun f => if f ∈ fields then argument.values f else none⟩ := by
  have hlist : m.parameters.toList = argument.type.toList ++ ' ' :: source.toList := by
    rw [hparameters]
    simp
  rw [call?, hlist]
  simp only [Code.cut?_append htype, hstatements, Option.bind_eq_bind, Option.bind_some,
    String.ofList_toList, if_true]
  rw [Statement.run]
  refine Statement.run_copyFields (List.Subset.refl fields) hne ?_ (Function.update_self _ _ _)
    hargument hresult
  rw [Function.update_of_ne hne, Function.update_self]

end Running

end CrudScaffold
