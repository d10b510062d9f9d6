import Mathlib.Data.Bool.AllAny
import CrudScaffold.Proofs.Java.TypeFile
import CrudScaffold.Proofs.Project.Escape

/-!
# Reading markup

A document is read character by character. The reader (`Reader`) knows the elements that are open,
the innermost first, and the fields that it has read: a field is an element that holds no others,
with its text, and it is known by the names of the elements on the way to it. What XML allows and
manifests do not need is refused: comments, instructions other than the declaration, references to
numbered characters, and elements that hold both text and elements. So is whatever XML does not
allow, and what is read is read as in XML.

What stands in a document is described by the fields it adds (`ReadsIff`), and by a condition that
says whether it does.
-/

namespace CrudScaffold.Markup

/-! ### Characters and names -/

/-- A character that may stand in a document and is read as it is. Control characters may not, but
for tabs and line ends, and nor may the two codes without a character. -/
def isChar (c : Char) : Bool :=
  c == '\t' || c == '\n' || (32 ≤ c.toNat && c.toNat != 0xFFFE && c.toNat != 0xFFFF)

/-- Space between elements. -/
def isSpace (c : Char) : Bool := c == ' ' || c == '\t' || c == '\n'

/-- A character of a name. -/
def isNameChar (c : Char) : Bool := c.isAlphanum || c ∈ ['_', ':', '-', '.']

/-- A name of an element or an attribute. -/
def isName : List Char → Bool
  | [] => false
  | c :: cs => (c.isAlpha || c == '_') && cs.all isNameChar

/-- The character that a reference stands for. -/
def entity? (name : List Char) : Option Char :=
  [("amp".toList, '&'), ("lt".toList, '<'), ("gt".toList, '>'), ("quot".toList, '"'),
    ("apos".toList, '\'')].lookup name

/-- The names of the attributes that the parts between quotes make up. -/
def attributeNames? : List (List Char) → Option (List (List Char))
  | [[]] => some []
  | (' ' :: before) :: value :: rest =>
    if before.getLast? = some '=' ∧ isName before.dropLast ∧ value.all fun c => isChar c && c != '&'
    then (attributeNames? rest).map (before.dropLast :: ·)
    else none
  | _ => none

/-- Attributes with different names, each behind a blank. -/
def areAttributes (cs : List Char) : Bool :=
  (attributeNames? (cs.splitOn '"')).any fun names => names.Nodup

/-! ### Elements -/

/-- An element that is open. -/
structure Element where
  name : List Char
  /-- The text in the element itself so far. -/
  text : List Char := []
  /-- The element holds others. -/
  isBranch : Bool := false
deriving DecidableEq

/-- The names on the way to an element with a text, and the text. -/
abbrev Field := List String × String

/-- The names on the way to the innermost of some elements. -/
def path (stack : List Element) : List String :=
  (stack.map fun e => String.ofList e.name).reverse

/-- A field further in. -/
def under (way : List String) (f : Field) : Field := (way ++ f.1, f.2)

/-- The texts of the fields at a path. -/
def textsAt (way : List String) (fields : List Field) : List String :=
  (fields.filter fun f => f.1 = way).map Prod.snd

/-! ### The reader -/

/-- What a reader is in the middle of. -/
inductive Mode
  /-- Text, the last characters of which are closing brackets. -/
  | text (brackets : Nat)
  /-- A reference to a character. -/
  | reference (name : List Char)
  /-- A tag, and maybe the value of an attribute in it. -/
  | tag (cs : List Char) (quoted : Bool)
deriving DecidableEq

/-- A reader of a document. -/
structure Reader where
  mode : Mode := .text 0
  /-- The elements that are open, the innermost first. -/
  stack : List Element := []
  /-- The fields that have been read. -/
  fields : List Field := []
deriving DecidableEq

namespace Reader

/-- Takes a character into the text of the innermost element. Around the outermost one there is only
space. -/
def take (r : Reader) (c : Char) (brackets : Nat) : Option Reader :=
  match r.stack with
  | [] => if isSpace c then some { r with mode := .text brackets } else none
  | e :: stack =>
    some { r with mode := .text brackets, stack := { e with text := e.text ++ [c] } :: stack }

/-- Closes the innermost element, which has to have the name. -/
def close? (r : Reader) (name : List Char) : Option Reader :=
  match r.stack with
  | [] => none
  | e :: stack =>
    if e.name ≠ name then none
    else if e.isBranch then
      if e.text.all isSpace then some { r with mode := .text 0, stack } else none
    else
      some ⟨.text 0, stack, r.fields ++ [(path r.stack, String.ofList e.text)]⟩

/-- Opens an element in the innermost one. There is one outermost element. -/
def open? (r : Reader) (name : List Char) : Option Reader :=
  match r.stack with
  | [] => if r.fields.isEmpty then some { r with mode := .text 0, stack := [{ name }] } else none
  | e :: stack =>
    some { r with mode := .text 0, stack := { name } :: { e with isBranch := true } :: stack }

/-- Takes a tag, without the brackets around it. -/
def takeTag (r : Reader) (cs : List Char) : Option Reader :=
  match cs with
  | '/' :: name => r.close? name
  | _ =>
    let name := cs.takeWhile isNameChar
    let rest := cs.dropWhile isNameChar
    if !isName name then none
    else if rest = ['/'] then (r.open? name).bind (·.close? name)
    else if areAttributes rest then r.open? name
    else none

/-- Takes one character, unless it must not stand there. -/
def step (r : Reader) (c : Char) : Option Reader :=
  match r.mode with
  | .text brackets =>
    if c = '<' then some { r with mode := .tag [] false }
    else if c = '&' then some { r with mode := .reference [] }
    else if !isChar c || (c = '>' && 2 ≤ brackets) then none
    else r.take c (if c = ']' then brackets + 1 else 0)
  | .reference name =>
    if c = ';' then (entity? name).bind fun d => r.take d 0
    else if c.isAlpha then some { r with mode := .reference (name ++ [c]) }
    else none
  | .tag cs quoted =>
    if c = '"' then some { r with mode := .tag (cs ++ [c]) !quoted }
    else if c = '<' then none
    else if c = '>' && !quoted then r.takeTag cs
    else some { r with mode := .tag (cs ++ [c]) quoted }

/-- Takes characters one after the other. -/
def run (r : Reader) (cs : List Char) : Option Reader := cs.foldlM step r

end Reader

/-- What a document may begin with. -/
def declaration : List Char := "<?xml version=\"1.0\" encoding=\"UTF-8\"?>".toList

/-- The fields of a document, if it can be read. -/
def read? (document : String) : Option (List Field) :=
  let cs := document.toList
  let cs := if declaration.isPrefixOf cs then cs.drop declaration.length else cs
  match Reader.run {} cs with
  | some ⟨.text _, [], fields⟩ => if fields.isEmpty then none else some fields
  | _ => none

/-! ### What a step does -/

namespace Reader

variable {r r' : Reader} {m : Mode} {e : Element} {stack : List Element} {done : List Field}
  {c : Char} {cs ds name : List Char} {n : Nat}

/-- Reading goes on where it has stopped. -/
lemma run_append (h : r.run cs = some r') (ds : List Char) : r.run (cs ++ ds) = r'.run ds := by
  rw [run, List.foldlM_append, ← run, h]
  rfl

@[simp] lemma run_cons (c : Char) (cs : List Char) :
    r.run (c :: cs) = (r.step c).bind fun r' => r'.run cs := by
  rw [run, List.foldlM_cons]
  rfl

/-- What a tag does in an element: it opens an element, opens and closes one, or closes the element
itself. -/
lemma takeTag_cases (h : takeTag ⟨m, e :: stack, done⟩ cs = some r) :
    (∃ name, r = ⟨.text 0, { name } :: { e with isBranch := true } :: stack, done⟩) ∨
    (∃ name, r = ⟨.text 0, { e with isBranch := true } :: stack,
      done ++ [(path ({ name } :: { e with isBranch := true } :: stack), "")]⟩) ∨
    (e.isBranch ∧ r = ⟨.text 0, stack, done⟩) ∨
    (e.isBranch = false ∧
      r = ⟨.text 0, stack, done ++ [(path (e :: stack), String.ofList e.text)]⟩) := by
  unfold takeTag at h
  split at h
  · simp only [close?] at h
    split_ifs at h with hname hbranch hspace
    · exact .inr (.inr (.inl ⟨hbranch, (Option.some.inj h).symm⟩))
    · exact .inr (.inr (.inr ⟨Bool.eq_false_iff.mpr hbranch, (Option.some.inj h).symm⟩))
  · dsimp only at h
    split_ifs at h with hname hrest hattributes
    · simp only [open?, Option.bind_some, close?, ne_eq, not_true_eq_false, if_false] at h
      exact .inr (.inl ⟨_, (Option.some.inj h).symm⟩)
    · exact .inl ⟨_, (Option.some.inj h).symm⟩

/-- A step of a reader in an element, of which only a tag can do more than go on in the element. -/
lemma step_cases (h : step ⟨m, e :: stack, done⟩ c = some r) :
    (∃ m' text, r = ⟨m', { e with text } :: stack, done⟩) ∨
      ∃ cs, takeTag ⟨m, e :: stack, done⟩ cs = some r := by
  unfold step at h
  split at h
  · split_ifs at h
    all_goals exact .inl ⟨_, _, (Option.some.inj h).symm⟩
  · split_ifs at h
    · obtain ⟨d, -, h⟩ := Option.bind_eq_some_iff.mp h
      exact .inl ⟨_, _, (Option.some.inj h).symm⟩
    · exact .inl ⟨_, e.text, (Option.some.inj h).symm⟩
  · split_ifs at h
    · exact .inl ⟨_, e.text, (Option.some.inj h).symm⟩
    · exact .inr ⟨_, h⟩
    · exact .inl ⟨_, e.text, (Option.some.inj h).symm⟩

/-- A character is no field. -/
lemma fields_take (h : r.take c n = some r') : r'.fields = r.fields := by
  unfold take at h
  split at h
  · split_ifs at h
    rw [← Option.some.inj h]
  · rw [← Option.some.inj h]

/-- An element that is open is no field yet. -/
lemma fields_open? (h : r.open? name = some r') : r'.fields = r.fields := by
  unfold open? at h
  split at h
  · split_ifs at h
    rw [← Option.some.inj h]
  · rw [← Option.some.inj h]

/-- An element that is closed may be one. -/
lemma prefix_close? (h : r.close? name = some r') : r.fields <+: r'.fields := by
  unfold close? at h
  split at h
  · cases h
  · split_ifs at h <;> cases h
    · exact List.prefix_rfl
    · exact List.prefix_append _ _

/-- What has been read stays when a tag is taken. -/
lemma prefix_takeTag (h : r.takeTag cs = some r') : r.fields <+: r'.fields := by
  unfold takeTag at h
  split at h
  · exact prefix_close? h
  · dsimp only at h
    split_ifs at h
    · obtain ⟨opened, hopen, h⟩ := Option.bind_eq_some_iff.mp h
      exact fields_open? hopen ▸ prefix_close? h
    · exact fields_open? h ▸ List.prefix_rfl

/-- What has been read stays when a character is taken. -/
lemma prefix_step (h : r.step c = some r') : r.fields <+: r'.fields := by
  unfold step at h
  split at h
  · split_ifs at h
    · cases h
      exact List.prefix_rfl
    · cases h
      exact List.prefix_rfl
    · exact fields_take h ▸ List.prefix_rfl
    · exact fields_take h ▸ List.prefix_rfl
  · split_ifs at h
    · obtain ⟨d, -, h⟩ := Option.bind_eq_some_iff.mp h
      exact fields_take h ▸ List.prefix_rfl
    · cases h
      exact List.prefix_rfl
  · split_ifs at h
    · cases h
      exact List.prefix_rfl
    · exact prefix_takeTag h
    · cases h
      exact List.prefix_rfl

/-- Fields that have been read stay. -/
lemma prefix_run (h : r.run cs = some r') : r.fields <+: r'.fields := by
  induction cs generalizing r with
  | nil =>
    cases h
    exact List.prefix_rfl
  | cons c cs ih =>
    rw [run_cons] at h
    obtain ⟨r'', hstep, h⟩ := Option.bind_eq_some_iff.mp h
    exact (prefix_step hstep).trans (ih h)

/-- What is read next, if anything is. -/
def Next (r : Reader) (cs : List Char) (f : Field) : Prop :=
  ∃ r', r.run cs = some r' ∧ r.fields ++ [f] <+: r'.fields

/-- A step that reads no field leaves what is read next to those behind it. -/
lemma Next.of_step {f : Field} (h : Next r (c :: cs) f) : ∃ r', r.step c = some r' ∧
    (r'.fields = r.fields → Next r' cs f) ∧
    (∀ g, r'.fields = r.fields ++ [g] → g = f) := by
  obtain ⟨last, hrun, hprefix⟩ := h
  rw [run_cons] at hrun
  obtain ⟨r', hstep, hrun⟩ := Option.bind_eq_some_iff.mp hrun
  refine ⟨r', hstep, fun hsame => ⟨last, hrun, hsame ▸ hprefix⟩, fun g hg => ?_⟩
  have hlast := prefix_run hrun
  rw [hg] at hlast
  have heq := (List.prefix_of_prefix_length_le hlast hprefix (by simp)).eq_of_length (by simp)
  simpa using heq

@[simp] lemma not_next_nil (f : Field) : ¬ Next r [] f := by
  rintro ⟨r', h, hprefix⟩
  cases h
  have hlength := hprefix.length_le
  rw [List.length_append, List.length_singleton] at hlength
  omega

/-- In an element that holds no others, what is read next is at least as far in as the element. -/
lemma Next.le_length {f : Field} (h : Next ⟨m, e :: stack, done⟩ cs f) (he : e.isBranch = false) :
    stack.length + 1 ≤ f.1.length := by
  induction cs generalizing m e stack with
  | nil => exact absurd h (not_next_nil f)
  | cons c cs ih =>
    obtain ⟨r', hstep, hnext, hfield⟩ := h.of_step
    rcases step_cases hstep with ⟨m', text, rfl⟩ | ⟨tag, htag⟩
    · exact ih (hnext rfl) he
    rcases takeTag_cases htag with ⟨name, rfl⟩ | ⟨name, rfl⟩ | ⟨hbranch, rfl⟩ | ⟨-, rfl⟩
    · have := ih (hnext rfl) rfl
      rw [List.length_cons] at this
      omega
    · rw [← hfield _ rfl]
      simp [path]
    · rw [he] at hbranch
      cases hbranch
    · rw [← hfield _ rfl]
      simp [path]

/-- In a tag in an element without others, nothing but the text of the element can be read next
that belongs to the element. -/
lemma Next.eq_text_of_tag {w : String} {quoted : Bool}
    (h : Next ⟨.tag ds quoted, e :: stack, done⟩ cs (path (e :: stack), w))
    (he : e.isBranch = false) : w = String.ofList e.text := by
  induction cs generalizing ds quoted with
  | nil => exact absurd h (not_next_nil _)
  | cons c cs ih =>
    obtain ⟨r', hstep, hnext, hfield⟩ := h.of_step
    simp only [step] at hstep
    split_ifs at hstep
    · cases hstep
      exact ih (hnext rfl)
    · rcases takeTag_cases hstep with ⟨name, rfl⟩ | ⟨name, rfl⟩ | ⟨hbranch, rfl⟩ | ⟨-, rfl⟩
      · have hlength := (hnext rfl).le_length rfl
        simp only [path, List.length_reverse, List.length_map, List.length_cons] at hlength
        omega
      · have hlength := congrArg (fun f : Field => f.1.length) (hfield _ rfl)
        simp [path] at hlength
      · rw [he] at hbranch
        cases hbranch
      · exact (congrArg Prod.snd (hfield _ rfl)).symm
    · cases hstep
      exact ih (hnext rfl)

/-- What is read as the text of an element is at most as long as what stands for it. -/
lemma Next.length_le {w : String} {v rest : List Char}
    (h : Next ⟨m, e :: stack, done⟩ (v ++ '<' :: rest) (path (e :: stack), w))
    (hm : ∀ cs quoted, m ≠ .tag cs quoted) (he : e.isBranch = false) :
    w.length ≤ e.text.length + v.length := by
  induction v generalizing m e with
  | nil =>
    obtain ⟨r', hstep, hnext, -⟩ := h.of_step
    cases m with
    | text n =>
      cases hstep
      rw [(hnext rfl).eq_text_of_tag he, String.length_ofList]
      omega
    | reference name => cases hstep
    | tag cs quoted => exact absurd rfl (hm cs quoted)
  | cons c v ih =>
    obtain ⟨r', hstep, hnext, -⟩ := h.of_step
    have htake : ∀ {d n}, take ⟨m, e :: stack, done⟩ d n = some r' →
        w.length ≤ e.text.length + (c :: v).length := by
      intro d n htake
      cases htake
      have hlength := ih (hnext rfl) (fun _ _ => nofun) he
      rw [List.length_append, List.length_singleton] at hlength
      rw [List.length_cons]
      omega
    have hsame : ∀ m', (∀ cs quoted, m' ≠ .tag cs quoted) → r' = ⟨m', e :: stack, done⟩ →
        w.length ≤ e.text.length + (c :: v).length := by
      rintro m' hm' rfl
      have hlength := ih (hnext rfl) hm' he
      rw [List.length_cons]
      omega
    cases m with
    | text n =>
      simp only [step] at hstep
      split_ifs at hstep
      · cases hstep
        rw [(hnext rfl).eq_text_of_tag he, String.length_ofList]
        omega
      · exact hsame (.reference []) (fun _ _ => nofun) (Option.some.inj hstep).symm
      · exact htake hstep
      · exact htake hstep
    | reference name =>
      simp only [step] at hstep
      split_ifs at hstep
      · obtain ⟨d, -, hstep⟩ := Option.bind_eq_some_iff.mp hstep
        exact htake hstep
      · exact hsame (.reference (name ++ [c])) (fun _ _ => nofun) (Option.some.inj hstep).symm
    | tag cs quoted => exact absurd rfl (hm cs quoted)

end Reader

/-! ### Texts that are read as they are -/

/-- A text that is read as it is: it begins neither a tag nor a reference, and does not end what has
to be ended elsewhere. -/
structure IsPlain (text : String) : Prop where
  chars : ∀ c ∈ text.toList, isChar c ∧ c ≠ '<' ∧ c ≠ '&'
  noEnd : ¬ [']', ']', '>'] <:+: text.toList

/-- Characters that are taken one after the other, behind a number of closing brackets. -/
def plainFrom : Nat → List Char → Bool
  | _, [] => true
  | n, c :: cs =>
    isChar c && c != '<' && c != '&' && !(c = '>' && 2 ≤ n) &&
      plainFrom (if c = ']' then n + 1 else 0) cs

/-- The first character is taken, and those behind it. -/
lemma plainFrom_cons (n : Nat) (c : Char) (cs : List Char) :
    plainFrom n (c :: cs) ↔ (isChar c ∧ c ≠ '<' ∧ c ≠ '&') ∧ ¬ (c = '>' ∧ 2 ≤ n) ∧
      plainFrom (if c = ']' then n + 1 else 0) cs := by
  rw [plainFrom]
  simp only [Bool.and_eq_true, bne_iff_ne, Bool.not_eq_true', Bool.and_eq_false_iff,
    decide_eq_false_iff_not, not_and_or, and_assoc]

/-- Behind brackets that the next character ends, an end is there or further behind. -/
lemma infix_replicate_append_iff {c : Char} (hc : c ≠ ']') (n : Nat) (cs : List Char) :
    [']', ']', '>'] <:+: List.replicate n ']' ++ c :: cs ↔
      (c = '>' ∧ 2 ≤ n) ∨ [']', ']', '>'] <:+: cs := by
  induction n with
  | zero => simp [List.infix_cons_iff, hc.symm]
  | succ n ih =>
    rw [List.replicate_succ, List.cons_append, List.infix_cons_iff, ih]
    match n with
    | 0 => simp [hc.symm]
    | 1 => simp [eq_comm]
    | n + 2 => simp [List.replicate_succ]

/-- What is taken is what is read as it is. -/
lemma plainFrom_iff (n : Nat) (cs : List Char) :
    plainFrom n cs ↔ (∀ c ∈ cs, isChar c ∧ c ≠ '<' ∧ c ≠ '&') ∧
      ¬ [']', ']', '>'] <:+: List.replicate n ']' ++ cs := by
  induction cs generalizing n with
  | nil =>
    have hnone : ¬ [']', ']', '>'] <:+: List.replicate n ']' := by
      intro h
      have hmem : '>' ∈ List.replicate n ']' := h.subset (by decide)
      exact absurd (List.eq_of_mem_replicate hmem) (by decide)
    simp [plainFrom, hnone]
  | cons c cs ih =>
    rw [plainFrom_cons, List.forall_mem_cons, ih]
    by_cases hc : c = ']'
    · have hlist : List.replicate n ']' ++ c :: cs = List.replicate (n + 1) ']' ++ cs := by
        rw [hc, List.replicate_succ', List.append_assoc, List.singleton_append]
      have hmark : ¬ (c = '>' ∧ 2 ≤ n) := fun h => absurd (hc.symm.trans h.1) (by decide)
      rw [hlist, if_pos hc, iff_true_intro hmark, true_and]
      simp only [and_assoc]
    · rw [if_neg hc, infix_replicate_append_iff hc, not_or, List.replicate_zero, List.nil_append]
      tauto

/-- A text is read as it is if each character of it is taken. -/
lemma isPlain_iff (text : String) : IsPlain text ↔ plainFrom 0 text.toList := by
  rw [plainFrom_iff]
  exact ⟨fun h => ⟨h.chars, h.noEnd⟩, fun h => ⟨h.1, h.2⟩⟩

namespace Reader

variable {r r' : Reader} {m : Mode} {e : Element} {stack : List Element} {done : List Field}
  {cs ds name : List Char} {n : Nat}

/-- In text a character is taken if it may stand there and begins nothing. -/
lemma step_text {c : Char} (hopen : c ≠ '<') (hand : c ≠ '&') :
    step ⟨.text n, e :: stack, done⟩ c =
      if isChar c ∧ ¬ (c = '>' ∧ 2 ≤ n) then
        some ⟨.text (if c = ']' then n + 1 else 0), { e with text := e.text ++ [c] } :: stack, done⟩
      else none := by
  simp only [step, if_neg hopen, if_neg hand, take]
  split_ifs <;> simp_all

/-- Characters that are read as they are go into the text of the element. -/
lemma exists_run_of_plainFrom (e : Element) (stack : List Element) (done : List Field)
    (h : plainFrom n cs) :
    ∃ n', run ⟨.text n, e :: stack, done⟩ cs =
      some ⟨.text n', { e with text := e.text ++ cs } :: stack, done⟩ := by
  induction cs generalizing n e with
  | nil => exact ⟨n, by rw [List.append_nil]; rfl⟩
  | cons c cs ih =>
    obtain ⟨⟨hchar, hopen, hand⟩, hmark, hrest⟩ := (plainFrom_cons n c cs).mp h
    obtain ⟨n', hrun⟩ := ih { e with text := e.text ++ [c] } hrest
    refine ⟨n', ?_⟩
    rw [run_cons, step_text hopen hand, if_pos ⟨hchar, hmark⟩, Option.bind_some, hrun,
      List.append_assoc, List.singleton_append]

/-- Only what is read as it is can be read as the text that it is. -/
lemma Next.plainFrom {w : String} {v rest : List Char}
    (h : Next ⟨.text n, e :: stack, done⟩ (v ++ '<' :: rest) (path (e :: stack), w))
    (he : e.isBranch = false) (hlength : w.length = e.text.length + v.length) :
    plainFrom n v := by
  induction v generalizing n e with
  | nil => rfl
  | cons c v ih =>
    rw [List.length_cons] at hlength
    obtain ⟨r', hstep, hnext, -⟩ := h.of_step
    by_cases hopen : c = '<'
    · obtain rfl : r' = ⟨.tag [] false, e :: stack, done⟩ := by
        simpa [step, hopen] using hstep.symm
      rw [(hnext rfl).eq_text_of_tag he, String.length_ofList] at hlength
      omega
    by_cases hand : c = '&'
    · obtain rfl : r' = ⟨.reference [], e :: stack, done⟩ := by
        simpa [step, hand] using hstep.symm
      have := (hnext rfl).length_le (fun _ _ => nofun) he
      omega
    rw [step_text hopen hand] at hstep
    by_cases htaken : isChar c ∧ ¬ (c = '>' ∧ 2 ≤ n)
    · rw [if_pos htaken] at hstep
      cases hstep
      refine (plainFrom_cons n c v).mpr ⟨⟨htaken.1, hopen, hand⟩, htaken.2, ?_⟩
      refine ih (hnext rfl) he ?_
      rw [hlength, List.length_append, List.length_singleton]
      omega
    · rw [if_neg htaken] at hstep
      cases hstep

/-- A text between two tags: it is read as `t` if a condition holds, and only then. -/
structure Spells (raw : List Char) (t : String) (condition : Prop) : Prop where
  reads : condition → ∀ name stack done, ∃ n,
    run ⟨.text 0, { name } :: stack, done⟩ raw =
      some ⟨.text n, { name, text := t.toList } :: stack, done⟩
  necessary : ∀ name stack done rest,
    Next ⟨.text 0, { name } :: stack, done⟩ (raw ++ '<' :: rest) (path ({ name } :: stack), t) →
      condition

/-- A text that stands for itself. -/
lemma spells_self (t : String) : Spells t.toList t (IsPlain t) where
  reads h name stack done := by
    obtain ⟨n, hrun⟩ := exists_run_of_plainFrom _ _ _ ((isPlain_iff t).mp h)
    exact ⟨n, hrun⟩
  necessary name stack done rest h := by
    refine (isPlain_iff t).mpr (h.plainFrom rfl ?_)
    rw [List.length_nil, Nat.zero_add, String.length_toList]

/-- What is written for a character is read as the character. -/
lemma exists_run_xmlEntity (n : Nat) (e : Element) (stack : List Element) (done : List Field)
    {c : Char} (hc : isChar c) :
    ∃ n', run ⟨.text n, e :: stack, done⟩ (xmlEntity c) =
      some ⟨.text n', { e with text := e.text ++ [c] } :: stack, done⟩ := by
  unfold xmlEntity
  split_ifs with hand hopen hclose
  · exact ⟨0, by rw [hand]; rfl⟩
  · exact ⟨0, by rw [hopen]; rfl⟩
  · exact ⟨0, by rw [hclose]; rfl⟩
  · refine ⟨if c = ']' then n + 1 else 0, ?_⟩
    rw [run_cons, step_text hopen hand, if_pos ⟨hc, fun h => hclose h.1⟩]
    rfl

/-- What is written for characters is read as the characters. -/
lemma exists_run_flatMap_xmlEntity (h : ∀ c ∈ cs, isChar c) :
    ∃ n', run ⟨.text n, e :: stack, done⟩ (cs.flatMap xmlEntity) =
      some ⟨.text n', { e with text := e.text ++ cs } :: stack, done⟩ := by
  induction cs generalizing n e with
  | nil => exact ⟨n, by rw [List.append_nil]; rfl⟩
  | cons c cs ih =>
    obtain ⟨hc, hcs⟩ := List.forall_mem_cons.mp h
    obtain ⟨n₁, hfirst⟩ := exists_run_xmlEntity n e stack done hc
    obtain ⟨n₂, hrest⟩ := ih (n := n₁) (e := { e with text := e.text ++ [c] }) hcs
    refine ⟨n₂, ?_⟩
    rw [List.flatMap_cons, run_append hfirst, hrest, List.append_assoc, List.singleton_append]

/-- What is written for a character that may not stand in a document may not either. -/
lemma isChar_of_run (h : run ⟨.text n, e :: stack, done⟩ (cs.flatMap xmlEntity ++ ds) = some r) :
    ∀ c ∈ cs, isChar c := by
  induction cs generalizing n e with
  | nil => exact List.forall_mem_nil _
  | cons c cs ih =>
    rw [List.flatMap_cons, List.append_assoc] at h
    have hc : isChar c := by
      by_contra hc
      have hne : ∀ d, isChar d → c ≠ d := by
        rintro d hd rfl
        exact hc hd
      have hself : xmlEntity c = [c] :=
        xmlEntity_eq_self (hne _ (by decide)) (hne _ (by decide)) (hne _ (by decide))
      rw [hself, List.singleton_append, run_cons, step_text (hne _ (by decide)) (hne _ (by decide)),
        if_neg fun h => hc h.1] at h
      cases h
    obtain ⟨n', hrun⟩ := exists_run_xmlEntity n e stack done hc
    rw [run_append hrun] at h
    exact List.forall_mem_cons.mpr ⟨hc, ih h⟩

/-- An escaped text behind a text that stands for itself. -/
lemma spells_escape {front : String} (hfront : IsPlain front) (t : String) :
    Spells (front ++ xmlEscape t).toList (front ++ t) (∀ c ∈ t.toList, isChar c) where
  reads h name stack done := by
    obtain ⟨n, hrun⟩ := exists_run_of_plainFrom _ _ _ ((isPlain_iff front).mp hfront)
    obtain ⟨n', hrun'⟩ := exists_run_flatMap_xmlEntity h
    refine ⟨n', ?_⟩
    rw [String.toList_append, run_append hrun, toList_xmlEscape, hrun', String.toList_append]
    rfl
  necessary name stack done rest h := by
    obtain ⟨r, hrun, -⟩ := h
    obtain ⟨n, hrun'⟩ := exists_run_of_plainFrom _ _ _ ((isPlain_iff front).mp hfront)
    rw [String.toList_append, List.append_assoc, run_append hrun', toList_xmlEscape] at hrun
    exact isChar_of_run hrun

/-! ### Contents of an element -/

/-- What is written in an element: it adds fields and leaves only space besides. -/
def Reads (cs : List Char) (fields : List Field) : Prop :=
  ∀ n e stack done, e.text.all isSpace → ∃ n' text, text.all isSpace ∧
    run ⟨.text n, e :: stack, done⟩ cs =
      some ⟨.text n', { e with text, isBranch := e.isBranch || !fields.isEmpty } :: stack,
        done ++ fields.map (under (path (e :: stack)))⟩

/-- What is written in an element adds fields if a condition holds, and only then. -/
structure ReadsIff (cs : List Char) (fields : List Field) (condition : Prop) : Prop where
  reads : condition → Reads cs fields
  necessary : ∀ n e stack done rest r, e.text.all isSpace →
    run ⟨.text n, e :: stack, done⟩ (cs ++ rest) = some r →
      done ++ fields.map (under (path (e :: stack))) <+: r.fields → condition

variable {fields more : List Field} {P Q : Prop}

/-- What is written without a condition. -/
lemma Reads.readsIff (h : Reads cs fields) : ReadsIff cs fields True :=
  ⟨fun _ => h, fun _ _ _ _ _ _ _ _ _ => trivial⟩

/-- Conditions may be put in other words. -/
lemma ReadsIff.congr (h : ReadsIff cs fields P) (hiff : P ↔ Q) : ReadsIff cs fields Q :=
  propext hiff ▸ h

/-- What is written one after the other is read one after the other. -/
lemma Reads.append (h : Reads cs fields) (h' : Reads ds more) :
    Reads (cs ++ ds) (fields ++ more) := by
  intro n e stack done he
  obtain ⟨n₁, text₁, hspace₁, hrun₁⟩ := h n e stack done he
  obtain ⟨n₂, text₂, hspace₂, hrun₂⟩ := h' n₁
    { e with text := text₁, isBranch := e.isBranch || !fields.isEmpty } stack
    (done ++ fields.map (under (path (e :: stack)))) hspace₁
  refine ⟨n₂, text₂, hspace₂, ?_⟩
  rw [run_append hrun₁, hrun₂, List.map_append, List.append_assoc]
  cases fields <;> simp [path]

/-- What is written one after the other is read under both conditions. -/
lemma ReadsIff.append (h : ReadsIff cs fields P) (h' : ReadsIff ds more Q) :
    ReadsIff (cs ++ ds) (fields ++ more) (P ∧ Q) where
  reads := fun ⟨hP, hQ⟩ => (h.reads hP).append (h'.reads hQ)
  necessary n e stack done rest r he hrun hprefix := by
    rw [List.map_append, ← List.append_assoc] at hprefix
    rw [List.append_assoc] at hrun
    have hP := h.necessary n e stack done _ r he hrun ((List.prefix_append _ _).trans hprefix)
    obtain ⟨n', text, hspace, hrun'⟩ := h.reads hP n e stack done he
    rw [run_append hrun'] at hrun
    exact ⟨hP, h'.necessary n' _ stack _ rest r hspace hrun hprefix⟩

/-! ### Tags -/

/-- A tag, with the brackets around it. -/
def tag (cs : List Char) : List Char := '<' :: (cs ++ ['>'])

/-- No character of a name means anything in a tag. -/
lemma isNameChar_of_isName (h : isName name) : ∀ c ∈ name, isNameChar c := by
  cases name with
  | nil => exact List.forall_mem_nil _
  | cons c cs =>
    rw [isName, Bool.and_eq_true, Bool.or_eq_true, beq_iff_eq, List.all_eq_true] at h
    refine List.forall_mem_cons.mpr ⟨?_, h.2⟩
    rcases h.1 with hc | rfl
    · simp [isNameChar, Char.isAlphanum, hc]
    · rfl

/-- A tag is taken as a whole. -/
lemma run_tag (h : ∀ c ∈ cs, c ∉ ['"', '<', '>']) :
    run ⟨.text n, stack, done⟩ (tag cs) = takeTag ⟨.tag cs false, stack, done⟩ cs := by
  have hchars : ∀ ds : List Char, run ⟨.tag ds false, stack, done⟩ (cs ++ ['>']) =
      takeTag ⟨.tag (ds ++ cs) false, stack, done⟩ (ds ++ cs) := by
    induction cs with
    | nil =>
      intro ds
      rw [List.append_nil, List.nil_append, run_cons]
      exact Option.bind_fun_some _
    | cons c cs ih =>
      intro ds
      obtain ⟨hc, hcs⟩ := List.forall_mem_cons.mp h
      have hstep : step ⟨.tag ds false, stack, done⟩ c =
          some ⟨.tag (ds ++ [c]) false, stack, done⟩ := by
        simp only [List.mem_cons, List.not_mem_nil, or_false, not_or] at hc
        simp [step, hc]
      rw [List.cons_append, run_cons, hstep, Option.bind_some, ih hcs, List.append_assoc,
        List.singleton_append]
  rw [tag, run_cons]
  exact hchars []

/-- No character of a name is a mark of a tag. -/
lemma notMem_of_isName (h : isName name) :
    (∀ c ∈ name, c ∉ ['"', '<', '>']) ∧ '/' ∉ name := by
  have hmarks : ∀ c ∈ ['"', '<', '>'], isNameChar c = false :=
    List.all_iff_forall_prop.mp (by decide)
  refine ⟨fun c hc hmem => ?_, fun hslash => ?_⟩
  · exact Bool.eq_false_iff.mp (hmarks c hmem) (isNameChar_of_isName h c hc)
  · exact absurd (isNameChar_of_isName h _ hslash) (by decide)

/-- What a tag means that begins with a name. -/
lemma takeTag_name_append (r : Reader) (ds : List Char) (h : isName name)
    (hrest : ds.head?.all (!isNameChar ·)) :
    r.takeTag (name ++ ds) =
      if ds = ['/'] then (r.open? name).bind (·.close? name)
      else if areAttributes ds then r.open? name else none := by
  have hchars := isNameChar_of_isName h
  have htake : (name ++ ds).takeWhile isNameChar = name ∧
      (name ++ ds).dropWhile isNameChar = ds := by
    rw [List.takeWhile_append_of_pos hchars, List.dropWhile_append_of_pos hchars]
    cases ds with
    | nil => simp
    | cons d ds =>
      have hd : isNameChar d = false := by simpa using hrest
      simp [hd]
  unfold takeTag
  split
  · rename_i rest hslash
    cases name with
    | nil => cases h
    | cons c cs =>
      obtain rfl : c = '/' := (List.cons.inj hslash).1
      exact absurd List.mem_cons_self (notMem_of_isName h).2
  · dsimp only
    rw [htake.1, htake.2, h]
    rfl

/-- A tag with a name opens an element. -/
lemma run_opening (h : isName name) :
    run ⟨.text n, e :: stack, done⟩ (tag name) =
      some ⟨.text 0, { name } :: { e with isBranch := true } :: stack, done⟩ := by
  have htag := takeTag_name_append ⟨.tag name false, e :: stack, done⟩ [] h rfl
  rw [List.append_nil] at htag
  rw [run_tag (notMem_of_isName h).1, htag]
  rfl

/-- A tag with a slash before the name closes the element. -/
lemma run_closing (h : isName name) :
    run ⟨.text n, stack, done⟩ (tag ('/' :: name)) =
      close? ⟨.tag ('/' :: name) false, stack, done⟩ name := by
  rw [run_tag (List.forall_mem_cons.mpr ⟨by decide, (notMem_of_isName h).1⟩)]
  rfl

/-- A tag that is not closed before the next one begins cannot be read. -/
lemma run_unclosed (h : '>' ∉ cs) (quoted : Bool) (rest : List Char) :
    run ⟨.tag ds quoted, stack, done⟩ (cs ++ '<' :: rest) = none := by
  induction cs generalizing ds quoted with
  | nil => rfl
  | cons c cs ih =>
    obtain ⟨hc, hcs⟩ := not_or.mp (List.mem_cons.not.mp h)
    rw [List.cons_append, run_cons, step]
    dsimp only
    split_ifs with hquote hopen hclose
    · exact ih hcs _
    · rfl
    · simp [Ne.symm hc] at hclose
    · exact ih hcs _

/-! ### Elements with contents -/

variable {fields : List Field} {P : Prop} {raw : List Char} {t : String}

/-- An element that holds a text is a field. -/
lemma readsIff_leaf (hname : isName name) (h : Spells raw t P) :
    ReadsIff (tag name ++ raw ++ tag ('/' :: name)) [([String.ofList name], t)] P where
  reads hP := by
    intro n e stack done he
    obtain ⟨n', hrun⟩ := h.reads hP name ({ e with isBranch := true } :: stack) done
    refine ⟨0, e.text, he, ?_⟩
    rw [List.append_assoc, run_append (run_opening hname), run_append hrun, run_closing hname]
    simp [close?, path, under]
  necessary n e stack done rest r he hrun hprefix := by
    refine h.necessary name ({ e with isBranch := true } :: stack) done
      ('/' :: name ++ ['>'] ++ rest) ⟨r, ?_, ?_⟩
    · rw [List.append_assoc, List.append_assoc, run_append (run_opening hname)] at hrun
      simpa [tag] using hrun
    · simpa [path, under] using hprefix

/-- An element without a text may be written as one tag. -/
lemma reads_empty (hname : isName name) :
    Reads (tag (name ++ ['/'])) [([String.ofList name], "")] := by
  intro n e stack done he
  have htag : ∀ c ∈ name ++ ['/'], c ∉ ['"', '<', '>'] :=
    List.forall_mem_append.mpr
      ⟨(notMem_of_isName hname).1, List.forall_mem_singleton.mpr (by decide)⟩
  refine ⟨0, e.text, he, ?_⟩
  rw [run_tag htag, takeTag_name_append _ _ hname (by decide), if_pos rfl]
  simp [open?, close?, path, under]

/-- The fields of an element that holds others are further in. -/
lemma ReadsIff.branch (hname : isName name) (hne : fields ≠ []) (h : ReadsIff cs fields P) :
    ReadsIff (tag name ++ cs ++ tag ('/' :: name)) (fields.map (under [String.ofList name])) P := by
  have hunder : ∀ (e : Element) (stack : List Element),
      fields.map (under (path ({ name } :: { e with isBranch := true } :: stack))) =
        (fields.map (under [String.ofList name])).map (under (path (e :: stack))) := by
    intro e stack
    simp [path, under]
  constructor
  · intro hP n e stack done he
    obtain ⟨n', text, htext, hrun⟩ := h.reads hP 0 { name } ({ e with isBranch := true } :: stack)
      done rfl
    refine ⟨0, e.text, he, ?_⟩
    rw [List.append_assoc, run_append (run_opening hname), run_append hrun, run_closing hname,
      ← hunder]
    simp [close?, htext, hne]
  · intro n e stack done rest r he hrun hprefix
    rw [List.append_assoc, List.append_assoc, run_append (run_opening hname)] at hrun
    exact h.necessary 0 { name } _ done _ r rfl hrun (hunder e stack ▸ hprefix)

/-- Space adds nothing. -/
lemma reads_space (h : cs.all isSpace) : Reads cs [] := by
  have hplain : ∀ n, plainFrom n cs := by
    induction cs with
    | nil => exact fun _ => rfl
    | cons c cs ih =>
      rw [List.all_cons, Bool.and_eq_true] at h
      intro n
      have hc : (isChar c ∧ c ≠ '<' ∧ c ≠ '&') ∧ c ≠ '>' := by
        have hspace := h.1
        simp only [isSpace, Bool.or_eq_true, beq_iff_eq] at hspace
        rcases hspace with (rfl | rfl) | rfl <;> decide
      exact (plainFrom_cons n c cs).mpr ⟨hc.1, fun hmark => hc.2 hmark.1, ih h.2 _⟩
  intro n e stack done he
  obtain ⟨n', hrun⟩ := exists_run_of_plainFrom e stack done (hplain n)
  refine ⟨n', e.text ++ cs, by rw [List.all_append, he, h, Bool.and_true], ?_⟩
  rw [hrun]
  simp

/-- What is written in an element cannot be read, whatever is behind it. -/
def Refused (cs : List Char) : Prop :=
  ∀ n e stack done rest, e.text.all isSpace →
    run ⟨.text n, e :: stack, done⟩ (cs ++ rest) = none

/-- What cannot be read cannot be read with more behind it. -/
lemma Refused.append (h : Refused cs) (ds : List Char) : Refused (cs ++ ds) := by
  intro n e stack done rest he
  rw [List.append_assoc]
  exact h n e stack done _ he

/-- What cannot be read cannot be read behind something else. -/
lemma Reads.append_refused (h : Reads cs fields) (h' : Refused ds) : Refused (cs ++ ds) := by
  intro n e stack done rest he
  obtain ⟨n', text, htext, hrun⟩ := h n e stack done he
  rw [List.append_assoc, run_append hrun]
  exact h' n' _ stack _ rest htext

/-- A text that begins a tag and does not end it. -/
lemma refused_leaf (hname : isName name) {before after : String} (hbefore : IsPlain before)
    (hafter : '>' ∉ after.toList) :
    Refused (tag name ++ (before ++ "<" ++ after).toList ++ tag ('/' :: name)) := by
  intro n e stack done rest he
  obtain ⟨n', hrun⟩ := exists_run_of_plainFrom { name } ({ e with isBranch := true } :: stack) done
    ((isPlain_iff before).mp hbefore)
  have hlist : tag name ++ (before ++ "<" ++ after).toList ++ tag ('/' :: name) ++ rest =
      tag name ++ (before.toList ++
        '<' :: (after.toList ++ '<' :: ('/' :: name ++ '>' :: rest))) := by
    simp [tag]
  rw [hlist, run_append (run_opening hname), run_append hrun, run_cons]
  exact run_unclosed hafter false _

end Reader

/-- A document behind its declaration is read if no element is open at its end. -/
lemma read?_eq_some_iff {document : String} {cs : List Char} {fields : List Field}
    (h : document.toList = declaration ++ cs) : read? document = some fields ↔
      fields ≠ [] ∧ ∃ n, Reader.run {} cs = some ⟨.text n, [], fields⟩ := by
  have hprefix : declaration.isPrefixOf (declaration ++ cs) :=
    List.isPrefixOf_iff_prefix.mpr (List.prefix_append _ _)
  rw [read?, h, if_pos hprefix, List.drop_left]
  constructor
  · intro hread
    split at hread
    · rename_i n fields' hrun
      split_ifs at hread with hempty
      cases hread
      exact ⟨fun hnil => hempty (List.isEmpty_iff.mpr hnil), n, hrun⟩
    · cases hread
  · rintro ⟨hne, n, hrun⟩
    rw [hrun]
    exact if_neg fun hempty => hne (List.isEmpty_iff.mp hempty)

example : read? "<a b=\"c\"> <d>1 &lt; 2</d> <e/></a>" =
    some [(["a", "d"], "1 < 2"), (["a", "e"], "")] := by
  decide +kernel

end CrudScaffold.Markup
