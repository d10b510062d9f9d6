import CrudScaffold.Proofs.Java.TypeFile

/-!
# Texts and brackets of a Java source

What a reader of a Java source has to know before it can tell tokens apart is where texts begin and
end and which brackets are still open. `Scan.step` takes in one character. A text begins and ends
with a quote, and neither a backslash nor a line end is accepted in it. Outside of texts every
bracket closes the one that was opened last, and whatever else could hide a quote, which is a
comment, a character or an escape, is refused. So a source that `Tokenizes` is read in one way only.

Most characters change nothing, and a source is read like what remains of it when they are left out
(`tokenizes_iff_marks`). What is put into a source and has no marks can be left out with them.
-/

namespace CrudScaffold

/-! ### Reading a source -/

/-- Where a reader of a source is: among code or in a text. It knows what closes the brackets that
are open, the innermost first. -/
inductive Scan
  | code (closers : List Char)
  | text (closers : List Char)
deriving DecidableEq

namespace Scan

/-- Takes in one character, unless it must not stand there. -/
def step : Scan → Char → Option Scan
  | text closers, c =>
    if c = '"' then some (code closers)
    else if c ∈ ['\\', '\n', '\r'] then none
    else some (text closers)
  | code closers, c =>
    if c = '"' then some (text closers)
    else if c = '\x7b' then some (code ('\x7d' :: closers))
    else if c = '(' then some (code (')' :: closers))
    else if c ∈ ['\x7d', ')'] then
      if closers.head? = some c then some (code closers.tail) else none
    else if c ∈ ['\\', '\x27', '/'] then none
    else some (code closers)

/-- Takes in characters one after the other. -/
def run (s : Scan) (cs : List Char) : Option Scan := cs.foldlM step s

end Scan

/-- A source begins and ends among code, with no bracket open, and every text in it ends on the line
it begins on. -/
def Tokenizes (source : String) : Prop := (Scan.code []).run source.toList = some (.code [])

/-- Whether a source can be read is found out by reading it. -/
instance (source : String) : Decidable (Tokenizes source) :=
  inferInstanceAs (Decidable ((Scan.code []).run source.toList = some (.code [])))

/-- What can stand between quotes: no quote, no backslash and no line end. -/
def FitsText (t : String) : Prop := ∀ c ∈ t.toList, c ∉ ['"', '\\', '\n', '\r']

/-- Whether something fits between quotes can be decided. -/
instance : DecidablePred FitsText := fun t =>
  List.decidableBAll (fun c => c ∉ ['"', '\\', '\n', '\r']) t.toList

/-- What fits can be put together. -/
lemma FitsText.append {a b : String} (ha : FitsText a) (hb : FitsText b) : FitsText (a ++ b) := by
  intro c hc
  rw [String.toList_append] at hc
  exact (List.mem_append.mp hc).elim (ha c) (hb c)

namespace Scan

variable {s s' : Scan} {c : Char} {cs ds : List Char}

/-- Reading goes on where it has stopped. -/
lemma run_append (h : s.run cs = some s') (ds : List Char) : s.run (cs ++ ds) = s'.run ds := by
  rw [run, List.foldlM_append, ← run, h]
  rfl

/-- What fits between quotes is read without leaving the text. -/
lemma run_of_fitsText {t : String} (h : FitsText t) (closers : List Char) :
    (text closers).run t.toList = some (text closers) := by
  rw [FitsText] at h
  generalize t.toList = cs at h
  induction cs with
  | nil => rfl
  | cons c cs ih =>
    obtain ⟨hquote, hother⟩ := not_or.mp (List.mem_cons.not.mp (h c List.mem_cons_self))
    have hstep : (text closers).step c = some (text closers) := by
      rw [step, if_neg hquote, if_neg hother]
    rw [run, List.foldlM_cons, hstep]
    exact ih fun d hd => h d (List.mem_cons_of_mem c hd)

/-! ### Brackets further out -/

/-- The same place with more brackets open around it. -/
def within (outer : List Char) : Scan → Scan
  | code closers => code (closers ++ outer)
  | text closers => text (closers ++ outer)

/-- Brackets further out make no difference to what is taken in. -/
lemma step_within (h : s.step c = some s') (outer : List Char) :
    (s.within outer).step c = some (s'.within outer) := by
  cases s with
  | text closers =>
    rw [within, step]
    rw [step] at h
    split_ifs at h ⊢ <;> cases h <;> rfl
  | code closers =>
    rw [within, step]
    rw [step] at h
    split_ifs at h ⊢ with hquote hbrace hparenthesis hcloser hhead hinner hinner hother
    · cases h
      rfl
    · cases h
      rfl
    · cases h
      rfl
    · cases h
      obtain ⟨rest, hclosers⟩ := List.head?_eq_some_iff.mp hinner
      rw [hclosers]
      rfl
    · obtain ⟨rest, hclosers⟩ := List.head?_eq_some_iff.mp hinner
      exact absurd (by rw [hclosers]; rfl) hhead
    · cases h
      rfl

/-- A source is read in brackets as it is read outside of them. -/
lemma run_within (h : s.run cs = some s') (outer : List Char) :
    (s.within outer).run cs = some (s'.within outer) := by
  induction cs generalizing s with
  | nil =>
    cases h
    rfl
  | cons c cs ih =>
    rw [run, List.foldlM_cons] at h ⊢
    obtain ⟨next, hnext, h⟩ := Option.bind_eq_some_iff.mp h
    rw [step_within hnext]
    exact ih h

end Scan

/-! ### Quotes -/

namespace Scan

variable {s s' : Scan}

/-- The reader is in a text. -/
def isText : Scan → Bool
  | code _ => false
  | text _ => true

/-- A quote leads into a text or out of it, and nothing else does. -/
lemma isText_step {c : Char} (h : s.step c = some s') :
    s'.isText = if c = '"' then !s.isText else s.isText := by
  cases s with
  | text closers =>
    rw [step] at h
    split_ifs at h ⊢ <;> cases h <;> rfl
  | code closers =>
    rw [step] at h
    split_ifs at h ⊢ <;> cases h <;> rfl

/-- So an odd number of quotes leads from code into a text, and an even one back to code. -/
lemma isText_run {cs : List Char} (h : s.run cs = some s') :
    s'.isText = (s.isText ^^ decide (cs.count '"' % 2 = 1)) := by
  induction cs generalizing s with
  | nil =>
    cases h
    simp
  | cons c cs ih =>
    rw [run, List.foldlM_cons] at h
    obtain ⟨next, hnext, h⟩ := Option.bind_eq_some_iff.mp h
    rw [ih h, isText_step hnext, List.count_cons]
    by_cases hc : c = '"'
    · have hparity : decide ((cs.count '"' + 1) % 2 = 1) = !decide (cs.count '"' % 2 = 1) := by
        rw [← decide_not, decide_eq_decide]
        omega
      simp [hc, hparity]
    · simp [hc]

end Scan

namespace Code

/-- A source that can be read has an even number of quotes on every line. -/
lemma count_quote_of_tokenizes {lines : List String} (h : Tokenizes (textOf lines)) :
    ∀ line ∈ lines, line.toList.count '"' % 2 = 0 := by
  rw [Tokenizes] at h
  -- the brackets that are open when a line begins do not matter
  generalize hopen : ([] : List Char) = closers at h
  have hstart : (Scan.code closers).run (textOf lines).toList ≠ none := by
    rw [h]
    exact Option.some_ne_none _
  clear h hopen
  induction lines generalizing closers with
  | nil => exact List.forall_mem_nil _
  | cons line lines ih =>
    rw [toList_textOf_cons, Scan.run, List.foldlM_append, ← Scan.run] at hstart
    cases hline : (Scan.code closers).run line.toList with
    | none =>
      rw [hline] at hstart
      exact absurd rfl hstart
    | some s =>
      have hparity := Scan.isText_run hline
      cases s with
      | text closers' =>
        rw [hline] at hstart
        exact absurd rfl hstart
      | code closers' =>
        rw [hline] at hstart
        refine List.forall_mem_cons.mpr ⟨?_, ih closers' hstart⟩
        have hodd : ¬ line.toList.count '"' % 2 = 1 := by
          simpa [Scan.isText] using hparity.symm
        omega

/-- So has every line that stands in it. -/
lemma count_quote_of_shows {text : String} {level : Nat} {block : List String}
    (hshows : Shows text level block) (h : Tokenizes text) :
    ∀ line ∈ block, line.toList.count '"' % 2 = 0 := by
  obtain ⟨before, after, rfl⟩ := hshows
  intro line hline
  have hcount : (indented level line).toList.count '"' = line.toList.count '"' := by
    rw [indented]
    split_ifs with hempty
    · rw [String.isEmpty_iff.mp hempty]
    · simp [List.count_replicate]
  rw [← hcount]
  exact count_quote_of_tokenizes h _
    (List.mem_append_left _ (List.mem_append_right _ (List.mem_map_of_mem hline)))

end Code

namespace Tokenizes

variable {a b : String}

/-- What can be read by itself can be read inside of brackets. -/
lemma run (h : Tokenizes a) (closers : List Char) :
    (Scan.code closers).run a.toList = some (.code closers) :=
  Scan.run_within h closers

/-- What can be read by itself can be read one after the other. -/
lemma append (ha : Tokenizes a) (hb : Tokenizes b) : Tokenizes (a ++ b) := by
  rw [Tokenizes, String.toList_append, Scan.run_append ha]
  exact hb

end Tokenizes

/-! ### Marks -/

/-- The characters that a reader of a source looks at. -/
def Scan.isMark (c : Char) : Bool :=
  c ∈ ['"', '\\', '\n', '\r', '\x7b', '\x7d', '(', ')', '\x27', '/']

/-- What remains of a source when everything else is left out. -/
def marks (source : String) : List Char := source.toList.filter Scan.isMark

/-- All other characters are passed over. -/
lemma Scan.step_eq_self {c : Char} (h : isMark c = false) (s : Scan) : s.step c = some s := by
  simp only [isMark, List.mem_cons, List.not_mem_nil, decide_eq_false_iff_not, not_or] at h
  cases s <;> simp [step, h]

/-- A source is read by its marks. -/
lemma Scan.run_marks (s : Scan) (source : String) : s.run (marks source) = s.run source.toList := by
  unfold marks
  induction source.toList generalizing s with
  | nil => rfl
  | cons c cs ih =>
    cases hc : isMark c with
    | true =>
      rw [List.filter_cons_of_pos hc, run, run, List.foldlM_cons, List.foldlM_cons]
      exact congrArg (s.step c).bind (funext ih)
    | false =>
      rw [List.filter_cons_of_neg (Bool.not_eq_true _ ▸ hc), ih, run, run, List.foldlM_cons,
        step_eq_self hc]
      rfl

/-- Whether a source can be read is seen from its marks. -/
lemma tokenizes_iff_marks {source : String} :
    Tokenizes source ↔ (Scan.code []).run (marks source) = some (.code []) := by
  rw [Scan.run_marks, Tokenizes]

@[simp] lemma marks_append (a b : String) : marks (a ++ b) = marks a ++ marks b := by
  rw [marks, String.toList_append, List.filter_append, marks, marks]

@[simp] lemma marks_toString (a : String) : marks (toString a) = marks a := rfl

@[simp] lemma marks_ofList (cs : List Char) : marks (String.ofList cs) = cs.filter Scan.isMark := by
  rw [marks, String.toList_ofList]

/-- A source without marks can be read. -/
lemma tokenizes_of_marks_eq_nil {source : String} (h : marks source = []) : Tokenizes source := by
  rw [tokenizes_iff_marks, h]
  rfl

/-- Between two quotes a source takes everything that fits. -/
lemma tokenizes_fill {before t after : String} {closers : List Char}
    (hbefore : (Scan.code []).run (marks before) = some (.text closers)) (ht : FitsText t)
    (hafter : (Scan.text closers).run (marks after) = some (.code [])) :
    Tokenizes (before ++ (t ++ after)) := by
  rw [Scan.run_marks] at hbefore hafter
  rw [Tokenizes, String.toList_append, String.toList_append, Scan.run_append hbefore,
    Scan.run_append (Scan.run_of_fitsText ht closers)]
  exact hafter

/-! ### Code -/

namespace Code

/-- Every line can be read by itself, and a block is closed by its last line. -/
inductive IsClean : Code → Prop
  | line {text : String} (h : Tokenizes text) : IsClean (.line text)
  | block {opening closing : String} {body : List Code} {closers : List Char}
    (hopening : (Scan.code []).run opening.toList = some (.code closers))
    (hbody : ∀ c ∈ body, IsClean c)
    (hclosing : (Scan.code closers).run closing.toList = some (.code [])) :
    IsClean (.block opening body closing)

variable {text header : String} {body code : List Code}

@[simp] lemma isClean_line : IsClean (.line text) ↔ Tokenizes text :=
  ⟨fun h => by cases h; assumption, .line⟩

@[simp] lemma isClean_blank : IsClean blank :=
  .line rfl

/-- A block in braces is read like its header and its body. -/
lemma isClean_braces : IsClean (.braces header body) ↔
    Tokenizes header ∧ ∀ c ∈ body, IsClean c := by
  have hbrace : ∀ s : Scan, s.run " \x7b".toList = s.step '\x7b' := by
    intro s
    cases s <;> rfl
  constructor
  · rintro ⟨⟩
    rename_i closers hopening hbody hclosing
    refine ⟨?_, hbody⟩
    rw [String.toList_append, Scan.run, List.foldlM_append] at hopening
    obtain ⟨s, hheader, hs⟩ := Option.bind_eq_some_iff.mp hopening
    rw [← Scan.run, hbrace] at hs
    cases s with
    | text closers' => cases hs
    | code closers' =>
      cases hs
      -- the brace that is closed last is that of the header
      have hcloser : (Scan.code ('\x7d' :: closers')).run "\x7d".toList =
          some (.code closers') := rfl
      obtain rfl : closers' = [] := by
        simpa using hcloser.symm.trans hclosing
      exact hheader
  · rintro ⟨hheader, hbody⟩
    have hopening : (Scan.code []).run (header ++ " \x7b").toList = some (.code ['\x7d']) := by
      rw [String.toList_append, Scan.run_append hheader]
      rfl
    exact .block hopening hbody rfl

/-- Indentation makes no difference. -/
lemma run_indented (s : Scan) (level : Nat) (text : String) :
    s.run (indented level text).toList = s.run text.toList := by
  have hspaces : marks (String.ofList (List.replicate (4 * level) ' ')) = [] := by
    rw [marks, String.toList_ofList, List.filter_replicate]
    rfl
  rw [← Scan.run_marks, ← Scan.run_marks, indented]
  split_ifs with hempty
  · rw [String.isEmpty_iff.mp hempty]
  · rw [marks_append, hspaces, List.nil_append]

/-- Pieces of code that can be read are read one after the other. -/
lemma tokenizes_linesOf {level : Nat}
    (h : ∀ c ∈ code, Tokenizes (textOf (lines level c))) :
    Tokenizes (textOf (linesOf level code)) := by
  induction code with
  | nil => rfl
  | cons c code ih =>
    obtain ⟨hc, hcode⟩ := List.forall_mem_cons.mp h
    rw [linesOf, Tokenizes, toList_textOf_append, Scan.run_append hc]
    exact ih hcode

/-- The lines of a clean piece of code can be read. -/
lemma IsClean.tokenizes_lines {c : Code} (h : IsClean c) (level : Nat) :
    Tokenizes (textOf (lines level c)) := by
  have hend : ∀ closers, (Scan.code closers).run ['\n'] = some (.code closers) := fun _ => rfl
  induction h generalizing level with
  | line h =>
    rw [lines, Tokenizes, toList_textOf_cons,
      Scan.run_append ((run_indented _ level _).trans h)]
    rfl
  | @block opening closing body closers hopening hbody hclosing ih =>
    have hlines := tokenizes_linesOf fun c hc => ih c hc (level + 1)
    rw [lines, Tokenizes, List.cons_append, toList_textOf_cons, toList_textOf_append,
      Scan.run_append ((run_indented _ level _).trans hopening), ← List.singleton_append,
      Scan.run_append (hend closers), Scan.run_append (hlines.run closers), toList_textOf_cons,
      Scan.run_append ((run_indented _ level _).trans hclosing)]
    rfl

/-- The text of clean code can be read. -/
lemma tokenizes_render (h : ∀ c ∈ code, IsClean c) : Tokenizes (render code) :=
  tokenizes_linesOf fun c hc => (h c hc).tokenizes_lines 0

/-- The head of a file is clean if neither its package nor its imports have marks. -/
lemma isClean_preamble {package : String} {imports : List String} (hpackage : marks package = [])
    (himports : ∀ i ∈ imports, marks i = []) : ∀ c ∈ preamble package imports, IsClean c := by
  have hline : ∀ (word : String) {name : String}, marks word = [] → marks name = [] →
      IsClean (.line (word ++ name ++ ";")) := by
    intro word name hword hname
    refine .line (tokenizes_of_marks_eq_nil ?_)
    rw [marks_append, marks_append, hword, hname]
    rfl
  intro c hc
  rw [preamble, List.mem_append, List.mem_append, List.mem_singleton, List.mem_singleton] at hc
  rcases hc with (rfl | hc) | rfl
  · exact hline "package " (by decide) hpackage
  · split_ifs at hc
    · exact absurd hc List.not_mem_nil
    · rcases List.mem_cons.mp hc with rfl | hc
      · exact isClean_blank
      · obtain ⟨i, hi, rfl⟩ := List.mem_map.mp hc
        exact hline "import " (by decide) (himports i (mem_sortedNames.mp hi))
  · exact isClean_blank

end Code

end CrudScaffold
