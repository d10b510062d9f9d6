import CrudScaffold.Java.Member
import CrudScaffold.Proofs.Java.Line
import CrudScaffold.Proofs.List
import CrudScaffold.Proofs.Naming.Accessor
import CrudScaffold.Proofs.Naming.WordText

/-!
# Fields and methods of a Java file

What a class declares is read line by line. A field is a line of its own under the annotations that
stand directly above it. A method is a header with a result, a name and parameters, and what follows
it up to the line that closes its body.

`Code.fields` and `Code.methods` read any text in this way, whatever it was made from. Of lines that
declare members and their accessors they give back these members (`Code.fieldsIn_flatMap_declared`,
`Code.methodsIn_flatMap_accessors`).
-/

namespace CrudScaffold

open Naming

/-- A field of a class with the annotations above it. -/
structure Field where
  annotations : List String
  member : Member
deriving Repr, DecidableEq

/-- A public method of a class, with the lines of its body. -/
structure Method where
  type : String
  name : String
  parameters : String
  body : List String
deriving Repr, DecidableEq

namespace Code

/-! ### Reading declarations -/

/-- What stands before the first place of a mark, and what stands behind it. -/
def cut? (mark : Char) (cs : List Char) : Option (List Char × List Char) :=
  if mark ∈ cs then some (cs.takeWhile (· ≠ mark), (cs.dropWhile (· ≠ mark)).tail) else none

/-- The field that a line declares, whether it has a value from the start or not. -/
def declaredMember? (line : String) : Option Member := do
  let (word, rest) ← cut? ' ' line.toList
  let (type, rest) ← cut? ' ' rest
  if word = "private".toList ∧ rest.getLast? = some ';' then
    some ⟨.ofList type, .ofList (rest.takeWhile fun c => c ≠ ' ' ∧ c ≠ ';')⟩
  else none

/-- A line is an annotation of what stands below it. -/
def isMarked (line : String) : Bool := line.toList.head? == some '@'

/-- The name of the annotation on a line. -/
def annotationName (line : String) : String :=
  String.ofList ((line.toList.drop 1).takeWhile (· ≠ '('))

/-- What stands in the brackets of the annotation on a line, between the commas. -/
def annotationOptions (line : String) : List String :=
  match cut? '(' line.toList with
  | some (_, options) =>
    (options.dropLast.splitOn ',').map fun option => trimmed (.ofList option)
  | none => []

/-- The fields that lines declare below some annotations. -/
def fieldsIn (above : List String) : List String → List Field
  | [] => []
  | l :: lines =>
    match declaredMember? l with
    | some m => ⟨above, m⟩ :: fieldsIn [] lines
    | none => fieldsIn (if isMarked l then above ++ [l] else []) lines

/-- The fields that a text declares. -/
def fields (text : String) : List Field := fieldsIn [] (codeLines text)

/-- The public method that a line opens above some others. Types and constructors are none. -/
def declaredMethod? (line : String) (below : List String) : Option Method := do
  let header ← header? line
  let (word, rest) ← cut? ' ' header.toList
  let (type, rest) ← cut? ' ' rest
  let (name, rest) ← cut? '(' rest
  if word = "public".toList ∧ rest.getLast? = some ')' then
    some ⟨.ofList type, .ofList name, .ofList rest.dropLast, below.takeWhile (· ≠ "\x7d")⟩
  else none

/-- The public methods that lines declare. -/
def methodsIn : List String → List Method
  | [] => []
  | l :: lines => (declaredMethod? l lines).toList ++ methodsIn lines

/-- The public methods that a text declares. -/
def methods (text : String) : List Method := methodsIn (codeLines text)

/-! ### Cutting a line -/

section Cut

variable {mark : Char} {a : List Char}

/-- A line is cut where a mark stands for the first time. -/
lemma cut?_append (h : mark ∉ a) (b : List Char) : cut? mark (a ++ mark :: b) = some (a, b) := by
  have hmem : mark ∈ a ++ mark :: b := List.mem_append_right _ List.mem_cons_self
  have hall : ∀ c ∈ a, decide (c ≠ mark) = true := by
    intro c hc
    exact decide_eq_true fun hmark => h (hmark ▸ hc)
  rw [cut?, if_pos hmem, List.takeWhile_append_of_pos hall, List.dropWhile_append_of_pos hall]
  simp

/-- A line without the mark is not cut. -/
lemma cut?_eq_none (h : mark ∉ a) : cut? mark a = none := if_neg h

/-- What is cut off a line is the beginning of it. -/
lemma prefix_of_cut? {before after : List Char} (h : cut? mark a = some (before, after)) :
    before <+: a := by
  rw [cut?] at h
  split_ifs at h
  · cases h
    exact List.takeWhile_prefix _

/-- An annotation is called by the name before its bracket. -/
lemma annotationName_eq {line : String} {name rest : List Char} (hname : '(' ∉ name)
    (hline : line.toList = '@' :: (name ++ '(' :: rest)) : annotationName line = .ofList name := by
  have hall : ∀ c ∈ name, decide (c ≠ '(') = true := by
    intro c hc
    exact decide_eq_true fun hbracket => hname (hbracket ▸ hc)
  rw [annotationName, hline, List.drop_one, List.tail_cons, List.takeWhile_append_of_pos hall]
  simp

/-- A list of options is cut at its commas. -/
lemma splitOn_intercalate {option : String} {options : List String}
    (h : ∀ o ∈ option :: options, ',' ∉ o.toList) :
    (", ".intercalate (option :: options)).toList.splitOn ',' =
      option.toList :: options.map fun o => ' ' :: o.toList := by
  induction options generalizing option with
  | nil =>
    have hsingle : ", ".intercalate [option] = option := rfl
    rw [hsingle, List.splitOn_eq_singleton (h option List.mem_cons_self)]
    rfl
  | cons next options ih =>
    obtain ⟨hoption, hoptions⟩ := List.forall_mem_cons.mp h
    have hlist : (", ".intercalate (option :: next :: options)).toList =
        option.toList ++ ',' :: ([' '] ++ (", ".intercalate (next :: options)).toList) := by
      simp [String.toList_intercalate]
    rw [hlist, List.splitOn_append_cons_self, List.splitOn_eq_singleton hoption,
      splitOn_append_of_notMem (by decide), ih hoptions]
    rfl

/-- The options of an annotation are read as they are written. -/
lemma annotationOptions_eq {line option : String} {name : List Char} {options : List String}
    (hname : '(' ∉ name) (hline : line.toList =
      name ++ '(' :: ((", ".intercalate (option :: options)).toList ++ [')']))
    (h : ∀ o ∈ option :: options, ',' ∉ o.toList ∧ o.toList.head? ≠ some ' ') :
    annotationOptions line = option :: options := by
  have htrimmed : ∀ o ∈ option :: options, trimmed o = o ∧ trimmed (" " ++ o) = o := by
    intro o ho
    have hself := trimmed_eq_self (h o ho).2
    exact ⟨hself, by simpa [trimmed] using hself⟩
  obtain ⟨hfirst, hrest⟩ := List.forall_mem_cons.mp htrimmed
  have hblank : ∀ o ∈ options, trimmed (.ofList (' ' :: o.toList)) = o := by
    intro o ho
    have hlist : String.ofList (' ' :: o.toList) = " " ++ o := String.toList_injective (by simp)
    rw [hlist, (hrest o ho).2]
  rw [annotationOptions, hline]
  simp only [cut?_append hname, List.dropLast_concat,
    splitOn_intercalate fun o ho => (h o ho).1, List.map_cons, List.map_map, String.ofList_toList,
    hfirst.1]
  exact congrArg _ ((List.map_congr_left hblank).trans (List.map_id options))

end Cut

end Code

/-- A member whose type is one word on one line and whose name consists of letters and digits and
does not begin with a capital. -/
structure Member.IsLegible (m : Member) : Prop where
  type : ' ' ∉ m.type.toList ∧ '\n' ∉ m.type.toList
  name : IsWordText m.name
  small : IsSmall m.name

namespace Code

/-! ### Fields -/

section Fields

variable {line declaration : String} {above annotations lines : List String} {m : Member}

/-- A line that does not begin like a private member declares no field. -/
lemma declaredMember?_eq_none (h : line.toList.take 2 ≠ ['p', 'r']) :
    declaredMember? line = none := by
  refine Option.bind_eq_none_iff.mpr ?_
  rintro ⟨word, rest⟩ hcut
  have hword : word ≠ "private".toList := by
    rintro rfl
    obtain ⟨after, hafter⟩ := prefix_of_cut? hcut
    rw [← hafter] at h
    exact h rfl
  refine Option.bind_eq_none_iff.mpr ?_
  rintro ⟨type, rest⟩ -
  exact if_neg fun hprivate => hword hprivate.1

/-- The line of a private member declares it, whatever stands behind its name. -/
lemma declaredMember?_eq_some (rest : List Char) (hm : m.IsLegible)
    (hline : line.toList = "private".toList ++ ' ' :: (m.type.toList ++ ' ' ::
      (m.name.toList ++ rest)))
    (hstop : rest.head? = some ' ' ∨ rest.head? = some ';') (hend : rest.getLast? = some ';') :
    declaredMember? line = some m := by
  have hword : ' ' ∉ "private".toList := by decide
  have hlast : (m.name.toList ++ rest).getLast? = some ';' := by
    rw [List.getLast?_append, hend]
    rfl
  have hname : (m.name.toList ++ rest).takeWhile (fun c => c ≠ ' ' ∧ c ≠ ';') = m.name.toList := by
    have hall : ∀ c ∈ m.name.toList, decide (c ≠ ' ' ∧ c ≠ ';') = true := by
      intro c hc
      refine decide_eq_true ⟨?_, ?_⟩
      · rintro rfl
        exact hm.name.notMem ' ' (by decide) hc
      · rintro rfl
        exact hm.name.notMem ';' (by decide) hc
    rw [List.takeWhile_append_of_pos hall]
    cases rest with
    | nil => simp
    | cons c rest => rcases hstop with h | h <;> cases h <;> simp
  rw [declaredMember?, hline, cut?_append hword]
  simp only [Option.bind_eq_bind, Option.bind_some, cut?_append hm.type.1, hlast, and_self,
    if_true, hname, String.ofList_toList]

/-- The declaration of a member declares it. -/
lemma declaredMember?_declaration (hm : m.IsLegible) : declaredMember? m.declaration = some m :=
  declaredMember?_eq_some [';'] hm (by simp [Member.declaration, toString_text]) (.inr rfl) rfl

/-- So does its declaration with a collection. -/
lemma declaredMember?_declarationWith (hm : m.IsLegible) (collection : String) :
    declaredMember? (m.declarationWith collection) = some m :=
  declaredMember?_eq_some (" = new ".toList ++ collection.toList ++ "<>();".toList) hm
    (by simp [Member.declarationWith, toString_text]) (.inl rfl)
    (by rw [List.getLast?_append]; rfl)

/-- A line that is neither a field nor an annotation of one. -/
structure IsSilent (l : String) : Prop where
  field : declaredMember? l = none
  unmarked : isMarked l = false

/-- How a line begins tells that it is silent. -/
lemma isSilent_of_take (h : line.toList.take 2 ≠ ['p', 'r'] ∧ line.toList.head? ≠ some '@') :
    IsSilent line :=
  ⟨declaredMember?_eq_none h.1, by simpa [isMarked] using h.2⟩

/-- Below a silent line no annotation counts that is above it. -/
lemma fieldsIn_cons_of_isSilent (h : IsSilent line) :
    fieldsIn above (line :: lines) = fieldsIn [] lines := by
  rw [fieldsIn, h.field, h.unmarked]
  rfl

/-- Silent lines declare nothing. -/
lemma fieldsIn_append_of_isSilent {before : List String} (h : ∀ l ∈ before, IsSilent l) :
    fieldsIn [] (before ++ lines) = fieldsIn [] lines := by
  induction before with
  | nil => rfl
  | cons l before ih =>
    obtain ⟨hl, hbefore⟩ := List.forall_mem_cons.mp h
    rw [List.cons_append, fieldsIn_cons_of_isSilent hl, ih hbefore]

/-- Where all lines are silent there are no fields. -/
lemma fieldsIn_eq_nil (h : ∀ l ∈ lines, IsSilent l) : fieldsIn [] lines = [] := by
  rw [← List.append_nil lines, fieldsIn_append_of_isSilent h]
  rfl

/-- Annotations belong to what stands below them. -/
lemma fieldsIn_annotations_append (h : ∀ a ∈ annotations, a.toList.head? = some '@') :
    fieldsIn above (annotations ++ lines) = fieldsIn (above ++ annotations) lines := by
  induction annotations generalizing above with
  | nil => rw [List.nil_append, List.append_nil]
  | cons a annotations ih =>
    obtain ⟨ha, hrest⟩ := List.forall_mem_cons.mp h
    have hfield : declaredMember? a = none := by
      refine declaredMember?_eq_none fun htake => ?_
      have hhead := congrArg List.head? htake
      rw [List.head?_take, if_neg (by decide), ha] at hhead
      exact absurd hhead (by decide)
    have hannotation : isMarked a = true := beq_iff_eq.mpr ha
    rw [List.cons_append, fieldsIn, hfield, hannotation]
    change fieldsIn (above ++ [a]) (annotations ++ lines) = _
    rw [ih hrest, List.append_assoc, List.singleton_append]

/-- Fields that are declared under annotations, each after a blank line, are read with them. -/
lemma fieldsIn_flatMap_declared {α : Type} {annotations : α → List String}
    {declaration : α → String} {member : α → Member} {l : List α}
    (hannotations : ∀ x ∈ l, ∀ a ∈ annotations x, a.toList.head? = some '@')
    (hdeclaration : ∀ x ∈ l, declaredMember? (declaration x) = some (member x)) :
    fieldsIn [] ((l.flatMap fun x => "" :: (annotations x ++ [declaration x])) ++ lines) =
      l.map (fun x => ⟨annotations x, member x⟩) ++ fieldsIn [] lines := by
  induction l with
  | nil => rfl
  | cons x l ih =>
    obtain ⟨ha, hannotations⟩ := List.forall_mem_cons.mp hannotations
    obtain ⟨hd, hdeclaration⟩ := List.forall_mem_cons.mp hdeclaration
    have hblank : IsSilent "" := ⟨rfl, rfl⟩
    rw [List.flatMap_cons, List.cons_append, List.cons_append, fieldsIn_cons_of_isSilent hblank,
      List.append_assoc, List.append_assoc, fieldsIn_annotations_append ha, List.nil_append,
      List.singleton_append, fieldsIn, hd, List.map_cons, List.cons_append,
      ← ih hannotations hdeclaration]

end Fields

/-! ### Methods -/

section Methods

variable {line type name parameters : String} {before body below lines : List String} {m : Member}

/-- What is no header opens no method. -/
lemma declaredMethod?_eq_none (h : header? line = none) (below : List String) :
    declaredMethod? line below = none := by
  rw [declaredMethod?, h]
  rfl

/-- What has no parameters behind its second word opens no method. -/
lemma declaredMethod?_eq_none_of_header {header : String} (hline : header? line = some header)
    (h : ∀ word rest, cut? ' ' header.toList = some (word, rest) →
      ∀ type rest', cut? ' ' rest = some (type, rest') → '(' ∉ rest') (below : List String) :
    declaredMethod? line below = none := by
  rw [declaredMethod?, hline, Option.bind_eq_bind, Option.bind_some]
  refine Option.bind_eq_none_iff.mpr ?_
  rintro ⟨word, rest⟩ hword
  refine Option.bind_eq_none_iff.mpr ?_
  rintro ⟨type, rest'⟩ htype
  refine Option.bind_eq_none_iff.mpr ?_
  rintro ⟨name, parameters⟩ hname
  rw [cut?_eq_none (h word rest hword type rest' htype)] at hname
  exact absurd hname (by simp)

/-- What a method is opened with: its result, its name and its parameters. -/
def signature (type name parameters : String) : List Char :=
  "public".toList ++ ' ' :: (type.toList ++ ' ' :: (name.toList ++ '(' ::
    (parameters.toList ++ [')'])))

-- For `simp`: Lean's own equation of this definition takes seconds to derive.
lemma signature_eq : signature type name parameters =
    "public".toList ++ ' ' :: (type.toList ++ ' ' :: (name.toList ++ '(' ::
      (parameters.toList ++ [')']))) :=
  rfl

/-- A method is opened with its result, its name and its parameters. -/
lemma declaredMethod?_eq_some {header : String} (htype : ' ' ∉ type.toList)
    (hname : '(' ∉ name.toList) (hheader : header.toList = signature type name parameters) :
    declaredMethod? (header ++ " \x7b") below =
      some ⟨type, name, parameters, below.takeWhile (· ≠ "\x7d")⟩ := by
  have hbegins : beginsMember header := by simp [beginsMember, hheader, signature_eq]
  have hpublic : ' ' ∉ "public".toList := by decide
  have hword : cut? ' ' header.toList = some ("public".toList,
      type.toList ++ ' ' :: (name.toList ++ '(' :: (parameters.toList ++ [')']))) := by
    rw [hheader]
    exact cut?_append hpublic _
  have hclosed : (parameters.toList ++ [')']).getLast? = some ')' := List.getLast?_concat
  rw [declaredMethod?, header?_append_brace hbegins]
  simp only [Option.bind_eq_bind, Option.bind_some, hword, cut?_append htype, cut?_append hname,
    hclosed, and_self, if_true, List.dropLast_concat, String.ofList_toList]

/-- Lines that open no method add none. -/
lemma methodsIn_append_of_eq_none (h : ∀ l ∈ before, ∀ below, declaredMethod? l below = none) :
    methodsIn (before ++ lines) = methodsIn lines := by
  induction before with
  | nil => rfl
  | cons l before ih =>
    obtain ⟨hl, hbefore⟩ := List.forall_mem_cons.mp h
    rw [List.cons_append, methodsIn, hl, ih hbefore]
    rfl

/-- Whatever stands above some lines, the methods in these are read last. -/
lemma exists_methodsIn_append (before lines : List String) :
    ∃ first, methodsIn (before ++ lines) = first ++ methodsIn lines := by
  induction before with
  | nil => exact ⟨[], rfl⟩
  | cons l before ih =>
    obtain ⟨first, hfirst⟩ := ih
    refine ⟨(declaredMethod? l (before ++ lines)).toList ++ first, ?_⟩
    rw [List.cons_append, methodsIn, hfirst, List.append_assoc]

/-- A method is read with the statements in its body. -/
lemma methodsIn_method {header : String} (htype : ' ' ∉ type.toList) (hname : '(' ∉ name.toList)
    (hheader : header.toList = signature type name parameters)
    (hbody : ∀ l ∈ body, l.toList.getLast? = some ';') :
    methodsIn ((header ++ " \x7b") :: (body ++ "\x7d" :: lines)) =
      ⟨type, name, parameters, body⟩ :: methodsIn lines := by
  have hstop : (body ++ "\x7d" :: lines).takeWhile (· ≠ "\x7d") = body := by
    have hall : ∀ l ∈ body, decide (l ≠ "\x7d") = true := by
      intro l hl
      refine decide_eq_true fun hbrace => ?_
      have hlast := hbody l hl
      rw [hbrace] at hlast
      exact absurd hlast (by decide)
    rw [List.takeWhile_append_of_pos hall]
    simp
  have hinner : ∀ l ∈ body, ∀ below, declaredMethod? l below = none := by
    intro l hl
    refine declaredMethod?_eq_none (header?_eq_none_of_getLast? ?_)
    rw [hbody l hl]
    decide
  have hbrace : ∀ l ∈ ["\x7d"], ∀ below, declaredMethod? l below = none :=
    List.forall_mem_singleton.mpr (declaredMethod?_eq_none rfl)
  rw [methodsIn, declaredMethod?_eq_some htype hname hheader, hstop,
    methodsIn_append_of_eq_none hinner,
    ← List.singleton_append, methodsIn_append_of_eq_none hbrace]
  rfl

end Methods

end Code

namespace Method

/-- The method that reads a member. -/
def reading (m : Member) : Method := ⟨m.type, getter m.name, "", [s!"return {m.name};"]⟩

/-- The method that writes a member. -/
def writing (m : Member) : Method :=
  ⟨"void", setter m.name, s!"{m.type} {m.name}", [s!"this.{m.name} = {m.name};"]⟩

/-- The field that a method gives back and does nothing else. -/
def returned? (m : Method) : Option String := do
  let [line] := m.body | none
  let (word, rest) ← Code.cut? ' ' line.toList
  let (field, rest) ← Code.cut? ';' rest
  if word = "return".toList ∧ rest = [] then some (.ofList field) else none

/-- The field that a method sets to what it is called with and does nothing else. -/
def assigned? (m : Method) : Option String := do
  let [line] := m.body | none
  let (_, parameter) ← Code.cut? ' ' m.parameters.toList
  let (object, rest) ← Code.cut? '.' line.toList
  let (field, rest) ← Code.cut? ' ' rest
  if object = "this".toList ∧ rest = "= ".toList ++ parameter ++ [';'] then some (.ofList field)
  else none

variable {m : Member}

/-- The method that reads a member gives it back. -/
lemma returned?_reading (hm : m.IsLegible) : (reading m).returned? = some m.name := by
  have hlist : (s!"return {m.name};").toList =
      "return".toList ++ ' ' :: (m.name.toList ++ ';' :: []) := by
    simp [toString_text]
  have hword : ' ' ∉ "return".toList := by decide
  have hname : ';' ∉ m.name.toList := hm.name.notMem ';' (by decide)
  simp only [returned?, reading, hlist, Code.cut?_append hword, Code.cut?_append hname,
    Option.bind_eq_bind, Option.bind_some, and_self, if_true, String.ofList_toList]

/-- The method that writes a member sets it. -/
lemma assigned?_writing (hm : m.IsLegible) : (writing m).assigned? = some m.name := by
  have hparameters : (s!"{m.type} {m.name}").toList = m.type.toList ++ ' ' :: m.name.toList := by
    simp [toString_text]
  have hlist : (s!"this.{m.name} = {m.name};").toList =
      "this".toList ++ '.' :: (m.name.toList ++
        ' ' :: ("= ".toList ++ m.name.toList ++ [';'])) := by
    simp [toString_text]
  have hobject : '.' ∉ "this".toList := by decide
  have hname : ' ' ∉ m.name.toList := hm.name.notMem ' ' (by decide)
  simp only [assigned?, writing, hparameters, hlist, Code.cut?_append hm.type.1,
    Code.cut?_append hobject, Code.cut?_append hname, Option.bind_eq_bind, Option.bind_some,
    and_self, if_true, String.ofList_toList]

end Method

/-! ### Files of one class -/

namespace Code

section Classes

variable {package header : String} {imports annotations : List String} {body : List Code}

/-- The lines above the body of a type in its file. -/
def headLines (package : String) (imports annotations : List String) (header : String) :
    List String :=
  linesOf 0 (preamble package imports) ++ annotations ++ [header ++ " \x7b"]

/-- An annotation that is one line. -/
structure IsAnnotationLine (text : String) : Prop where
  oneLine : '\n' ∉ text.toList
  marked : text.toList.head? = some '@'

/-- It is not indented. -/
lemma IsAnnotationLine.isFlush {text : String} (h : IsAnnotationLine text) : IsFlush text :=
  ⟨h.oneLine, by rw [h.marked]; decide⟩

/-- What stands above the body of a class in its file, each piece of it on a line of its own. -/
structure IsClassHead (package : String) (imports annotations : List String) (header : String) :
    Prop where
  head : ∀ l ∈ linesOf 0 (preamble package imports), '\n' ∉ l.toList
  annotations : ∀ a ∈ annotations, IsAnnotationLine a
  header : ∃ name, IsWordText name ∧ header = "public class " ++ name

namespace IsClassHead

variable (h : IsClassHead package imports annotations header)

include h

/-- What stands above the body is not indented. -/
lemma isFlush_of_mem_headLines :
    ∀ l ∈ headLines package imports annotations header, IsFlush l := by
  refine List.forall_mem_append.mpr ⟨List.forall_mem_append.mpr ⟨fun l hl => ?_, fun a ha => ?_⟩,
    List.forall_mem_singleton.mpr ?_⟩
  · refine ⟨h.head l hl, ?_⟩
    rcases mem_linesOf_preamble.mp hl with rfl | rfl | ⟨i, -, rfl⟩
    · simp [toString_text]
    · decide
    · simp [toString_text]
  · exact (h.annotations a ha).isFlush
  · obtain ⟨name, hname, rfl⟩ := h.header
    exact ⟨by simp [hname.notMem '\n' (by decide)], by simp⟩

/-- No method is opened above the body. -/
lemma declaredMethod?_of_mem_headLines :
    ∀ l ∈ headLines package imports annotations header, ∀ below,
      declaredMethod? l below = none := by
  refine List.forall_mem_append.mpr ⟨List.forall_mem_append.mpr ⟨fun l hl => ?_, fun a ha => ?_⟩,
    List.forall_mem_singleton.mpr ?_⟩
  · refine declaredMethod?_eq_none (header?_eq_none_of_getLast? ?_)
    rcases mem_linesOf_preamble.mp hl with rfl | rfl | ⟨i, -, rfl⟩
    · exact getLast?_append_ne _ (by decide)
    · decide
    · exact getLast?_append_ne _ (by decide)
  · refine declaredMethod?_eq_none (header?_eq_none_of_head? ?_)
    rw [(h.annotations a ha).marked]
    decide
  · obtain ⟨name, hname, rfl⟩ := h.header
    have hbegins : beginsMember ("public class " ++ name) := by simp [beginsMember]
    have hpublic : ' ' ∉ "public".toList := by decide
    have hclass : ' ' ∉ "class".toList := by decide
    have hlist : ("public class " ++ name).toList =
        "public".toList ++ ' ' :: ("class".toList ++ ' ' :: name.toList) := by simp
    refine declaredMethod?_eq_none_of_header (header?_append_brace hbegins) ?_
    intro word rest hword type rest' htype
    rw [hlist, cut?_append hpublic] at hword
    cases hword
    rw [cut?_append hclass] at htype
    cases htype
    exact hname.notMem '(' (by decide)

/-- The lines of a class are those above its body, those of the body and the last brace. -/
lemma codeLines_render : codeLines (render (preamble package imports ++
      (annotations.map line ++ [braces header body]))) =
    headLines package imports annotations header ++
      ((textsOf body).flatMap codeLines ++ ["\x7d", ""]) := by
  have htexts : textsOf (preamble package imports ++ (annotations.map line ++
      [braces header body])) =
      headLines package imports annotations header ++ (textsOf body ++ ["\x7d"]) := by
    simp [headLines, textsOf_append, textsOf_preamble, textsOf_map_line, braces, textsOf, texts]
  have hbrace : ["\x7d"].flatMap codeLines = ["\x7d"] := by decide
  rw [codeLines_render_eq_flatMap, htexts, List.flatMap_append, List.flatMap_append,
    flatMap_codeLines h.isFlush_of_mem_headLines, hbrace, List.append_assoc, List.append_assoc]
  rfl

/-- The fields of a class are declared in its body. -/
lemma fields_render : fields (render (preamble package imports ++
      (annotations.map line ++ [braces header body]))) =
    fieldsIn [] ((textsOf body).flatMap codeLines ++ ["\x7d", ""]) := by
  have hpreamble : ∀ l ∈ linesOf 0 (preamble package imports), IsSilent l := by
    intro l hl
    rcases mem_linesOf_preamble.mp hl with rfl | rfl | ⟨i, -, rfl⟩
    · exact isSilent_of_take (by simp [toString_text])
    · exact isSilent_of_take (by decide)
    · exact isSilent_of_take (by simp [toString_text])
  have hheader : IsSilent (header ++ " \x7b") := by
    obtain ⟨name, -, rfl⟩ := h.header
    exact isSilent_of_take (by simp)
  rw [fields, h.codeLines_render, headLines, List.append_assoc, List.append_assoc,
    fieldsIn_append_of_isSilent hpreamble,
    fieldsIn_annotations_append fun a ha => (h.annotations a ha).marked, List.singleton_append,
    fieldsIn_cons_of_isSilent hheader]

/-- So are its methods. -/
lemma methods_render : methods (render (preamble package imports ++
      (annotations.map line ++ [braces header body]))) =
    methodsIn ((textsOf body).flatMap codeLines ++ ["\x7d", ""]) := by
  rw [methods, h.codeLines_render, methodsIn_append_of_eq_none h.declaredMethod?_of_mem_headLines]

end IsClassHead

end Classes

end Code

/-! ### Accessors -/

namespace Code

section Accessors

variable {lines : List String} {m : Member}

/-- Members are declared without indentation. -/
lemma isFlush_declaration (hm : m.IsLegible) : IsFlush m.declaration := by
  have hname := hm.name.notMem '\n' (by decide)
  exact ⟨by simp [Member.declaration, toString_text, hm.type.2, hname],
    by simp [Member.declaration, toString_text]⟩

/-- The lines of the methods that read and write a member are not indented in their blocks, and none
of them declares a field. -/
lemma isFlush_and_isSilent_accessors (hm : m.IsLegible) :
    ∀ t ∈ textsOf m.accessors, IsFlush t ∧ IsSilent t := by
  have hname := hm.name.notMem '\n' (by decide)
  have hupper := hm.name.upperFirst.notMem '\n' (by decide)
  have hline : ∀ t : String, '\n' ∉ t.toList ∧ t.toList.head? ≠ some ' ' ∧
      t.toList.take 2 ≠ ['p', 'r'] ∧ t.toList.head? ≠ some '@' → IsFlush t ∧ IsSilent t :=
    fun t h => ⟨⟨h.1, h.2.1⟩, isSilent_of_take h.2.2⟩
  have hbrace : IsFlush "\x7d" ∧ IsSilent "\x7d" := hline _ (by decide)
  have hblank : IsFlush "" ∧ IsSilent "" := hline _ (by decide)
  have hreads : IsFlush (s!"public {m.type} {getter m.name}()" ++ " \x7b") ∧
      IsSilent (s!"public {m.type} {getter m.name}()" ++ " \x7b") :=
    hline _ (by simp [getter, toString_text, hm.type.2, hupper])
  have hreturns : IsFlush s!"return {m.name};" ∧ IsSilent s!"return {m.name};" :=
    hline _ (by simp [toString_text, hname])
  have hwrites : IsFlush (s!"public void {setter m.name}({m.type} {m.name})" ++ " \x7b") ∧
      IsSilent (s!"public void {setter m.name}({m.type} {m.name})" ++ " \x7b") :=
    hline _ (by simp [setter, toString_text, hm.type.2, hname, hupper])
  have hassigns : IsFlush s!"this.{m.name} = {m.name};" ∧ IsSilent s!"this.{m.name} = {m.name};" :=
    hline _ (by simp [toString_text, hname])
  simp only [Member.accessors, Member.reader, Member.writer, blank, braces, textsOf, texts,
    List.append_nil, List.cons_append, List.nil_append, List.forall_mem_cons, List.not_mem_nil,
    false_implies, implies_true, and_true]
  exact ⟨hblank, hreads, hreturns, hbrace, hblank, hwrites, hassigns, hbrace⟩

/-- The methods that read and write a member are read as such. -/
lemma methodsIn_accessors_append (hm : m.IsLegible) :
    methodsIn (textsOf m.accessors ++ lines) = .reading m :: .writing m :: methodsIn lines := by
  have hblank : ∀ l ∈ [""], ∀ below, declaredMethod? l below = none :=
    List.forall_mem_singleton.mpr (declaredMethod?_eq_none rfl)
  have hgetter : '(' ∉ (getter m.name).toList := by
    simpa [getter] using hm.name.upperFirst.notMem '(' (by decide)
  have hsetter : '(' ∉ (setter m.name).toList := by
    simpa [setter] using hm.name.upperFirst.notMem '(' (by decide)
  have hvoid : ' ' ∉ "void".toList := by decide
  have hreturns : ∀ t ∈ [s!"return {m.name};"], t.toList.getLast? = some ';' := by
    refine List.forall_mem_singleton.mpr ?_
    rw [String.toList_append, List.getLast?_append]
    rfl
  have hassigns : ∀ t ∈ [s!"this.{m.name} = {m.name};"], t.toList.getLast? = some ';' := by
    refine List.forall_mem_singleton.mpr ?_
    rw [String.toList_append, List.getLast?_append]
    rfl
  have hreads : (s!"public {m.type} {getter m.name}()").toList =
      signature m.type (getter m.name) "" := by
    simp [signature_eq, toString_text]
  have hwrites : (s!"public void {setter m.name}({m.type} {m.name})").toList =
      signature "void" (setter m.name) s!"{m.type} {m.name}" := by
    simp [signature_eq, toString_text]
  have htexts : textsOf m.accessors ++ lines =
      [""] ++ ((s!"public {m.type} {getter m.name}()" ++ " \x7b") :: ([s!"return {m.name};"] ++
        "\x7d" :: ([""] ++ ((s!"public void {setter m.name}({m.type} {m.name})" ++ " \x7b") ::
          ([s!"this.{m.name} = {m.name};"] ++ "\x7d" :: lines))))) := rfl
  rw [htexts, methodsIn_append_of_eq_none hblank,
    methodsIn_method hm.type.1 hgetter hreads hreturns,
    methodsIn_append_of_eq_none hblank,
    methodsIn_method hvoid hsetter hwrites hassigns]
  rfl

/-- The methods that read and write some members, one after the other. -/
def accessorMethods (members : List Member) : List Method :=
  members.flatMap fun m => [.reading m, .writing m]

/-- The methods of many members are those that read and write each of them. -/
lemma methodsIn_flatMap_accessors {members : List Member} (h : ∀ m ∈ members, m.IsLegible) :
    methodsIn (textsOf (members.flatMap Member.accessors) ++ lines) =
      accessorMethods members ++ methodsIn lines := by
  induction members with
  | nil => rfl
  | cons m members ih =>
    obtain ⟨hm, hmembers⟩ := List.forall_mem_cons.mp h
    rw [List.flatMap_cons, textsOf_append, List.append_assoc, methodsIn_accessors_append hm,
      ih hmembers]
    rfl

/-- In a text the methods come last that read and write some members. -/
structure HasAccessors (text : String) (members : List Member) : Prop where
  legible : ∀ m ∈ members, m.IsLegible
  last : ∃ first, methods text = first ++ accessorMethods members

/-- The method of a name that stands last in a text. A class with two of them is refused, so this is
the method that the name stands for. -/
def lastMethod? (text name : String) : Option Method :=
  (methods text).reverse.find? fun m => m.name = name

variable {text : String} {members : List Member}

/-- Of the methods that read and write members, one that reads reads a member. -/
lemma eq_of_getter_mem {k : Method} (h : ∀ m ∈ members, m.IsLegible) (hm : m ∈ members)
    (hk : k ∈ accessorMethods members) (hname : k.name = getter m.name) :
    ∃ m' ∈ members, m'.name = m.name ∧ k = .reading m' := by
  obtain ⟨m', hm', hk⟩ := List.mem_flatMap.mp hk
  rcases List.mem_pair.mp hk with rfl | rfl
  · exact ⟨m', hm', (getter_inj (h m' hm').small (h m hm).small).mp hname, rfl⟩
  · exact absurd hname.symm (getter_ne_setter m.name m'.name)

/-- One that writes writes a member. -/
lemma eq_of_setter_mem {k : Method} (h : ∀ m ∈ members, m.IsLegible) (hm : m ∈ members)
    (hk : k ∈ accessorMethods members) (hname : k.name = setter m.name) :
    ∃ m' ∈ members, m'.name = m.name ∧ k = .writing m' := by
  obtain ⟨m', hm', hk⟩ := List.mem_flatMap.mp hk
  rcases List.mem_pair.mp hk with rfl | rfl
  · exact absurd hname (getter_ne_setter m'.name m.name)
  · exact ⟨m', hm', (setter_inj (h m' hm').small (h m hm).small).mp hname, rfl⟩

/-- Of members with different names each one is read by one method. -/
lemma filter_getter (h : ∀ m ∈ members, m.IsLegible) (hnodup : (members.map Member.name).Nodup)
    (hm : m ∈ members) :
    (accessorMethods members).filter (fun k => k.name = getter m.name) = [.reading m] := by
  have hpick : ∀ m' ∈ members, [Method.reading m', .writing m'].filter
      (fun k => k.name = getter m.name) = if m'.name = m.name then [.reading m'] else [] := by
    intro m' hm'
    have hreads : (Method.reading m').name = getter m.name ↔ m'.name = m.name :=
      getter_inj (h m' hm').small (h m hm).small
    have hwrites : (Method.writing m').name ≠ getter m.name :=
      fun hname => getter_ne_setter m.name m'.name hname.symm
    simp [List.filter_cons, hreads, hwrites]
  rw [accessorMethods, List.filter_flatMap, List.flatMap_congr hpick]
  exact flatMap_ite_key hnodup hm fun m => [Method.reading m]

/-- Each one is written by one method. -/
lemma filter_setter (h : ∀ m ∈ members, m.IsLegible) (hnodup : (members.map Member.name).Nodup)
    (hm : m ∈ members) :
    (accessorMethods members).filter (fun k => k.name = setter m.name) = [.writing m] := by
  have hpick : ∀ m' ∈ members, [Method.reading m', .writing m'].filter
      (fun k => k.name = setter m.name) = if m'.name = m.name then [.writing m'] else [] := by
    intro m' hm'
    have hreads : (Method.reading m').name ≠ setter m.name := getter_ne_setter m'.name m.name
    have hwrites : (Method.writing m').name = setter m.name ↔ m'.name = m.name :=
      setter_inj (h m' hm').small (h m hm).small
    simp [List.filter_cons, hreads, hwrites]
  rw [accessorMethods, List.filter_flatMap, List.flatMap_congr hpick]
  exact flatMap_ite_key hnodup hm fun m => [Method.writing m]

/-- A text declares some members, each of them once, with one method to read it and one to write
it. -/
structure DeclaresOnce (text : String) (members : List Member) : Prop where
  declared : (fields text).map Field.member = members
  names : ((fields text).map fun f => f.member.name).Nodup
  reader : ∀ m ∈ members, (methods text).filter (fun k => k.name = getter m.name) = [.reading m]
  writer : ∀ m ∈ members, (methods text).filter (fun k => k.name = setter m.name) = [.writing m]

/-- Legible members of different names are declared once if nothing else is declared. -/
lemma declaresOnce (h : ∀ m ∈ members, m.IsLegible) (hnodup : (members.map Member.name).Nodup)
    (hfields : (fields text).map Field.member = members)
    (hmethods : methods text = accessorMethods members) : DeclaresOnce text members where
  declared := hfields
  names := by
    rw [← hfields, List.map_map] at hnodup
    exact hnodup
  reader := fun m hm => by rw [hmethods, filter_getter h hnodup hm]
  writer := fun m hm => by rw [hmethods, filter_setter h hnodup hm]

namespace HasAccessors

variable (h : HasAccessors text members)

include h

/-- A name of an accessor stands for an accessor. -/
lemma exists_lastMethod? (name : String)
    (hname : ∃ k ∈ accessorMethods members, k.name = name) :
    ∃ k ∈ accessorMethods members, k.name = name ∧ lastMethod? text name = some k := by
  obtain ⟨first, hmethods⟩ := h.last
  obtain ⟨k, hk, hkname⟩ := hname
  cases hfind : (accessorMethods members).reverse.find? fun m => m.name = name with
  | none =>
    have hno := List.find?_eq_none.mp hfind k (List.mem_reverse.mpr hk)
    exact absurd (decide_eq_true hkname) hno
  | some k' =>
    refine ⟨k', List.mem_reverse.mp (List.mem_of_find?_eq_some hfind),
      of_decide_eq_true (List.find?_some hfind :), ?_⟩
    rw [lastMethod?, hmethods, List.reverse_append, List.find?_append, hfind, Option.some_or]

/-- The method that is called like one that reads a member reads it. -/
lemma returned?_lastMethod? (hm : m ∈ members) :
    (lastMethod? text (getter m.name)).bind Method.returned? = some m.name := by
  have hreading : Method.reading m ∈ accessorMethods members :=
    List.mem_flatMap.mpr ⟨m, hm, List.mem_cons_self⟩
  obtain ⟨k, hk, hname, hlast⟩ := h.exists_lastMethod? (getter m.name) ⟨_, hreading, rfl⟩
  obtain ⟨m', hm', hsame, rfl⟩ := eq_of_getter_mem h.legible hm hk hname
  rw [hlast, Option.bind_some, Method.returned?_reading (h.legible m' hm'), hsame]

/-- The method that is called like one that writes a member writes it. -/
lemma assigned?_lastMethod? (hm : m ∈ members) :
    (lastMethod? text (setter m.name)).bind Method.assigned? = some m.name := by
  have hwriting : Method.writing m ∈ accessorMethods members :=
    List.mem_flatMap.mpr ⟨m, hm, List.mem_cons_of_mem _ List.mem_cons_self⟩
  obtain ⟨k, hk, hname, hlast⟩ := h.exists_lastMethod? (setter m.name) ⟨_, hwriting, rfl⟩
  obtain ⟨m', hm', hsame, rfl⟩ := eq_of_setter_mem h.legible hm hk hname
  rw [hlast, Option.bind_some, Method.assigned?_writing (h.legible m' hm'), hsame]

end HasAccessors

end Accessors

end Code

end CrudScaffold
