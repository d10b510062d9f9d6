import Mathlib.Data.List.DropRight
import Mathlib.Data.List.TakeWhile
import CrudScaffold.Proofs.Config.Quotation
import CrudScaffold.Proofs.List

/-!
# Values that are complete

What a value is made of, without a word on how it is read: a flag, a character between apostrophes,
a bare word, a text between quotes, a list of values between brackets, or a table of keys with
values between braces, each with space around it (`IsComplete`). Where a value can end the reader
takes whatever is complete, and it takes nothing else (`isComplete_iff`).
-/

namespace CrudScaffold.Environment

/-- Characters that are space. -/
def IsSpacing (cs : List Char) : Prop := ∀ c ∈ cs, isSpace c

/-- A key with space around it: a word, or a text between quotes. -/
def IsKey (cs : List Char) : Prop :=
  ∃ before key after, cs = before ++ (key ++ after) ∧ IsSpacing before ∧ IsSpacing after ∧
    (IsQuotation key ∨ key ≠ [] ∧ ∀ c ∈ key, isKeyChar c)

/-- Items in a row with commas between them. A comma may stand behind the last one. -/
inductive IsRow : List (List Char) → List Char → Prop
  | nil : IsRow [] []
  | last (item : List Char) : IsRow [item] item
  | cons (item : List Char) {items : List (List Char)} {row : List Char} (h : IsRow items row) :
      IsRow (item :: items) (item ++ ',' :: row)

/-- A word that nothing else than a bare value begins with: no flag, no mark and no space. -/
def IsBare (cs : List Char) : Prop :=
  (∀ c ∈ cs, isSeparator c = false) ∧
    (∀ c, cs.head? = some c → isSpace c = false ∧ c ∉ ['"', '\'']) ∧
    ¬ "true".toList <+: cs ∧ ¬ "false".toList <+: cs

/-- Characters that are a value from the first to the last. -/
inductive IsComplete : List Char → Prop
  | flag {cs : List Char} (h : cs = "true".toList ∨ cs = "false".toList) : IsComplete cs
  | character (c : Char) : IsComplete ['\'', c, '\'']
  | bare {cs : List Char} (h : IsBare cs) : IsComplete cs
  | quotation {cs : List Char} (h : IsQuotation cs) : IsComplete cs
  | list {items : List (List Char)} {row : List Char} (hrow : IsRow items row)
      (h : ∀ item ∈ items, IsComplete item) : IsComplete ('[' :: (row ++ [']']))
  | table {entries : List (List Char × List Char)} {row : List Char}
      (hrow : IsRow (entries.map fun e => e.1 ++ '=' :: e.2) row) (hkeys : ∀ e ∈ entries, IsKey e.1)
      (h : ∀ e ∈ entries, IsComplete e.2) : IsComplete ('\x7b' :: (row ++ ['\x7d']))
  | spaced {before cs after : List Char} (hbefore : IsSpacing before) (hafter : IsSpacing after)
      (h : IsComplete cs) : IsComplete (before ++ (cs ++ after))

variable {c : Char} {cs rest row : List Char} {items : List (List Char)} {depth fuel : Nat}

/-! ### Space -/

@[simp] lemma isSpacing_nil : IsSpacing [] := List.forall_mem_nil _

/-- What is skipped is space. -/
lemma exists_skipSpace (cs : List Char) :
    ∃ before, IsSpacing before ∧ cs = before ++ skipSpace cs :=
  ⟨cs.takeWhile isSpace, fun _ hc => List.mem_takeWhile_imp hc,
    (List.takeWhile_append_dropWhile ..).symm⟩

/-- Space in front is skipped. -/
@[simp] lemma skipSpace_append {before : List Char} (h : IsSpacing before) (cs : List Char) :
    skipSpace (before ++ cs) = skipSpace cs :=
  List.dropWhile_append_of_pos h

@[simp] lemma skipSpace_skipSpace (cs : List Char) : skipSpace (skipSpace cs) = skipSpace cs :=
  List.dropWhile_idempotent isSpace cs

/-- Nothing is skipped in front of another character. -/
lemma skipSpace_of_head (h : ∀ c, cs.head? = some c → isSpace c = false) : skipSpace cs = cs := by
  cases cs with
  | nil => rfl
  | cons c cs => exact List.dropWhile_cons_of_neg (by rw [h c rfl]; nofun)

/-- A separator is no space. -/
lemma isSpace_of_isSeparator (h : isSeparator c) : isSpace c = false := by
  simp only [isSeparator, Bool.or_eq_true, beq_iff_eq] at h
  rcases h with (((rfl | rfl) | rfl) | rfl) | rfl <;> rfl

/-! ### Rows -/

/-- An item is part of its row. -/
lemma IsRow.length_le (h : IsRow items row) {item : List Char} (hitem : item ∈ items) :
    item.length ≤ row.length := by
  induction h with
  | nil => cases hitem
  | last item' => rw [List.mem_singleton.mp hitem]
  | cons item' h ih =>
    rw [List.length_append, List.length_cons]
    rcases List.mem_cons.mp hitem with rfl | hitem
    · omega
    · have := ih hitem
      omega

/-- A row is read item by item up to what closes it, if its items can be read where a comma or the
end of the row follows. -/
lemma IsRow.exists_items? {α : Type} {item? : Parser α} {close : Char} (h : IsRow items row)
    (hclose : close ≠ ',') (hread : ∀ item ∈ items, ∀ c ∈ [',', close], ∀ rest,
      ∃ a, item? (item ++ c :: rest) = some (a, c :: rest))
    (hhead : ∀ item ∈ items, item.head? ≠ some close) (hfuel : row.length < fuel)
    (rest : List Char) : ∃ as, items? close item? fuel (row ++ close :: rest) =
      some (as, rest) := by
  obtain ⟨fuel, rfl⟩ := Nat.exists_eq_add_one_of_ne_zero (Nat.ne_zero_of_lt hfuel)
  induction h generalizing fuel with
  | nil => exact ⟨[], by simp [items?]⟩
  | last item =>
    by_cases hempty : item = []
    · exact ⟨[], by simp [items?, hempty]⟩
    · obtain ⟨a, ha⟩ := hread item List.mem_cons_self close (by simp) rest
      have hfirst : (item ++ close :: rest).head? ≠ some close := by
        obtain ⟨c, more, rfl⟩ := List.exists_cons_of_ne_nil hempty
        exact hhead (c :: more) List.mem_cons_self
      refine ⟨[a], ?_⟩
      rw [items?]
      dsimp only
      rw [if_neg hfirst, ha]
      simp
  | @cons item items row h ih =>
    obtain ⟨a, ha⟩ := hread item List.mem_cons_self ',' (by simp) (row ++ close :: rest)
    have hfirst : (item ++ ',' :: (row ++ close :: rest)).head? ≠ some close := by
      cases item with
      | nil => exact fun he => hclose (Option.some.inj he).symm
      | cons c item => exact hhead (c :: item) List.mem_cons_self
    rw [List.length_append, List.length_cons] at hfuel
    obtain ⟨fuel, rfl⟩ := Nat.exists_eq_add_one_of_ne_zero (n := fuel) (by omega)
    obtain ⟨as, has⟩ := ih (fun item hitem => hread item (List.mem_cons_of_mem _ hitem))
      (fun item hitem => hhead item (List.mem_cons_of_mem _ hitem)) fuel (by omega)
    refine ⟨a :: as, ?_⟩
    rw [List.append_assoc, List.cons_append, items?]
    dsimp only
    rw [if_neg hfirst, ha]
    simp [has]

/-- What is read item by item is a row of what the items are read from, and what closes it. -/
lemma exists_isRow {α : Type} {item? : Parser α} {close : Char} {P : List Char → Prop}
    (hitem : ∀ {cs a rest}, item? cs = some (a, rest) → ∃ front, P front ∧ cs = front ++ rest)
    {as : List α} (h : items? close item? fuel cs = some (as, rest)) :
    ∃ items row, IsRow items row ∧ (∀ item ∈ items, P item) ∧ cs = row ++ close :: rest := by
  induction fuel generalizing cs as with
  | zero => cases h
  | succ fuel ih =>
    rw [items?] at h
    dsimp only at h
    split_ifs at h with hclose
    · obtain ⟨more, rfl⟩ := List.head?_eq_some_iff.mp hclose
      cases h
      exact ⟨[], [], .nil, List.forall_mem_nil _, rfl⟩
    · obtain ⟨⟨a, more⟩, ha, hmore⟩ := Option.bind_eq_some_iff.mp h
      obtain ⟨front, hfront, hcs⟩ := hitem ha
      dsimp only at hmore
      split at hmore
      · obtain ⟨⟨as', rest'⟩, has, hmore⟩ := Option.bind_eq_some_iff.mp hmore
        cases hmore
        obtain ⟨items, row, hrow, hitems, rfl⟩ := ih has
        exact ⟨_, _, hrow.cons front, List.forall_mem_cons.mpr ⟨hfront, hitems⟩, by simp [hcs]⟩
      · split_ifs at hmore with hc
        cases hmore
        exact ⟨_, _, .last front, by simpa using hfront, by rw [hcs, hc]⟩
      · cases hmore

/-! ### Values -/

/-- A character of a word is no space. -/
lemma isSpace_of_isKeyChar (h : isKeyChar c) : isSpace c = false := by
  rw [Bool.eq_false_iff]
  intro hspace
  simp only [isSpace, Bool.or_eq_true, beq_iff_eq] at hspace
  rcases hspace with (((rfl | rfl) | rfl) | rfl) | rfl <;> cases h

/-- A key is read with the space in front of it. -/
lemma IsKey.exists_key? (h : IsKey cs) (more : List Char) :
    ∃ k after, key? (skipSpace (cs ++ '=' :: more)) = some (k, after) ∧
      skipSpace after = '=' :: more := by
  obtain ⟨before, key, after, rfl, hbefore, hafter, hkey⟩ := h
  have hsign : skipSpace (after ++ '=' :: more) = '=' :: more := by
    rw [skipSpace_append hafter]
    exact skipSpace_of_head fun c hc => by cases hc; rfl
  rw [List.append_assoc, List.append_assoc, skipSpace_append hbefore]
  rcases hkey with hquotation | ⟨hne, hword⟩
  · obtain ⟨s, hs⟩ := hquotation.exists_quoted? (after ++ '=' :: more)
    obtain ⟨raw, -, rfl⟩ := hquotation
    refine ⟨s, after ++ '=' :: more, ?_, hsign⟩
    rw [skipSpace_of_head fun c hc => by cases hc; rfl]
    exact hs
  · have hstop : ∀ d, (after ++ '=' :: more).head? = some d → isKeyChar d = false := by
      intro d hd
      cases after with
      | nil => cases hd; rfl
      | cons a after =>
        cases hd
        have hspace := hafter d List.mem_cons_self
        rw [Bool.eq_false_iff]
        intro hd
        rw [isSpace_of_isKeyChar hd] at hspace
        cases hspace
    obtain ⟨htake, hdrop⟩ := takeWhile_append_of_head hword hstop
    obtain ⟨c, word, rfl⟩ := List.exists_cons_of_ne_nil hne
    have hc : isKeyChar c := hword c List.mem_cons_self
    refine ⟨String.ofList (c :: word), after ++ '=' :: more, ?_, hsign⟩
    rw [skipSpace_of_head fun d hd => by cases hd; exact isSpace_of_isKeyChar hc]
    unfold key?
    split
    · rename_i quoted hquoted
      obtain rfl : c = '"' := (List.cons_eq_cons.mp hquoted).1
      cases hc
    · rw [htake, hdrop]

/-- What is read as a key is one. -/
lemma exists_isKey {k : String} (h : key? (skipSpace cs) = some (k, rest)) {more : List Char}
    (hsign : skipSpace rest = '=' :: more) : ∃ front, IsKey front ∧ cs = front ++ '=' :: more := by
  obtain ⟨before, hbefore, hcs⟩ := exists_skipSpace cs
  obtain ⟨after, hafter, hrest⟩ := exists_skipSpace rest
  have hkey : ∃ key, (IsQuotation key ∨ key ≠ [] ∧ ∀ c ∈ key, isKeyChar c) ∧
      skipSpace cs = key ++ rest := by
    unfold key? at h
    split at h
    · obtain ⟨key, hkey, heq⟩ := exists_isQuotation h
      exact ⟨key, .inl hkey, heq⟩
    · split at h
      · cases h
      · rename_i hne
        cases h
        exact ⟨_, .inr ⟨hne, fun c hc => List.mem_takeWhile_imp hc⟩,
          (List.takeWhile_append_dropWhile ..).symm⟩
  obtain ⟨key, hkey, heq⟩ := hkey
  refine ⟨before ++ (key ++ after), ⟨before, key, after, rfl, hbefore, hafter, hkey⟩, ?_⟩
  rw [hcs, heq, hrest, hsign]
  simp

/-- A key with a value behind the sign. -/
lemma exists_entry {value? : Parser Setting} {P : List Char → Prop}
    (hvalue : ∀ {cs v rest}, value? cs = some (v, rest) →
      ∃ front, P front ∧ cs = front ++ rest ∧ skipSpace rest = rest)
    (hspaced : ∀ {before cs}, IsSpacing before → P cs → P (before ++ cs)) {e : String × Setting}
    (h : pair? value? cs = some (e, rest)) :
    ∃ entry : List Char × List Char, IsKey entry.1 ∧ P entry.2 ∧
      cs = (entry.1 ++ '=' :: entry.2) ++ rest := by
  unfold pair? at h
  obtain ⟨⟨k, after⟩, hk, h⟩ := Option.bind_eq_some_iff.mp h
  dsimp only at h
  split at h
  · rename_i more hsign
    obtain ⟨⟨v, rest'⟩, hv, h⟩ := Option.bind_eq_some_iff.mp h
    obtain ⟨front, hfront, hmore, hrest'⟩ := hvalue hv
    obtain rfl : rest' = rest := hrest'.symm.trans (Prod.mk.inj (Option.some.inj h)).2
    obtain ⟨key, hkey, hcs⟩ := exists_isKey hk hsign
    obtain ⟨before, hbefore, hbefore'⟩ := exists_skipSpace more
    refine ⟨⟨key, before ++ front⟩, hkey, hspaced hbefore hfront, ?_⟩
    rw [hcs, hbefore', hmore]
    simp
  · cases h

/-- Reads a value without the space around it. -/
def core? (depth : Nat) (cs : List Char) : Option (Setting × List Char) :=
  match cs with
  | 't' :: 'r' :: 'u' :: 'e' :: rest => some (.boolean true, rest)
  | 'f' :: 'a' :: 'l' :: 's' :: 'e' :: rest => some (.boolean false, rest)
  | '\x7b' :: rest =>
    (items? '\x7d' (pair? (valueWithin? depth)) (rest.length + 1) rest).map fun (entries, rest) =>
      (tableOf entries, rest)
  | '[' :: rest =>
    (items? ']' (valueWithin? depth) (rest.length + 1) rest).map fun (items, rest) =>
      (.list items, rest)
  | '"' :: _ => (quoted? cs).map fun (s, rest) => (.text s, rest)
  | '\'' :: c :: '\'' :: rest => some (.text (String.singleton c), rest)
  | '\'' :: _ => none
  | cs => some (bare (cs.takeWhile (!isSeparator ·)), cs.dropWhile (!isSeparator ·))

/-- A value is read between space that is skipped. -/
lemma valueWithin?_succ (depth : Nat) (cs : List Char) : valueWithin? (depth + 1) cs =
    (core? depth (skipSpace cs)).map fun (v, rest) => (v, skipSpace rest) := by
  simp only [valueWithin?, core?]
  generalize skipSpace cs = cs
  split <;> simp [Option.map_eq_bind, Option.bind_assoc]

/-- A row of keys with values is what a table is read from. -/
lemma isComplete_table (hrow : IsRow items row)
    (hitems : ∀ item ∈ items, ∃ e : List Char × List Char, IsKey e.1 ∧ IsComplete e.2 ∧
      item = e.1 ++ '=' :: e.2) : IsComplete ('\x7b' :: (row ++ ['\x7d'])) := by
  choose! e hkey hvalue he using hitems
  have hsame : (items.map e).map (fun e => e.1 ++ '=' :: e.2) = items := by
    rw [List.map_map]
    exact (List.map_congr_left fun item hitem => (he item hitem).symm).trans (List.map_id items)
  refine .table (hsame ▸ hrow) ?_ ?_
  · simpa using hkey
  · simpa using hvalue

/-- What is taken up to a separator is a bare value, if it begins like one. -/
lemma isBare_takeWhile (h : ∀ c, cs.head? = some c → isSpace c = false ∧ c ∉ ['"', '\''])
    (hflag : ∀ word ∈ ["true".toList, "false".toList], ∀ more, cs ≠ word ++ more) :
    IsBare (cs.takeWhile (!isSeparator ·)) := by
  have hprefix : cs.takeWhile (!isSeparator ·) <+: cs := List.takeWhile_prefix _
  have hno : ∀ word ∈ ["true".toList, "false".toList],
      ¬ word <+: cs.takeWhile (!isSeparator ·) := by
    intro word hword hflag'
    obtain ⟨more, hmore⟩ := hflag'.trans hprefix
    exact hflag word hword more hmore.symm
  refine ⟨fun c hc => ?_, fun c hc => h c ?_, hno _ (by simp), hno _ (by simp)⟩
  · simpa using List.mem_takeWhile_imp hc
  · obtain ⟨more, hmore⟩ := List.head?_eq_some_iff.mp hc
    rw [hmore] at hprefix
    obtain ⟨rest, rfl⟩ := hprefix
    rfl

/-- What is read without the space around it is complete, if the values inside it are. -/
lemma exists_isComplete_core {v : Setting}
    (hvalue : ∀ {cs rest v}, valueWithin? depth cs = some (v, rest) →
      ∃ front, IsComplete front ∧ cs = front ++ rest ∧ skipSpace rest = rest)
    (hstart : ∀ c, cs.head? = some c → isSpace c = false)
    (h : core? depth cs = some (v, rest)) : ∃ front, IsComplete front ∧ cs = front ++ rest := by
  unfold core? at h
  split at h
  · cases h
    exact ⟨['t', 'r', 'u', 'e'], .flag (.inl rfl), rfl⟩
  · cases h
    exact ⟨['f', 'a', 'l', 's', 'e'], .flag (.inr rfl), rfl⟩
  · obtain ⟨⟨entries, more⟩, hentries, he⟩ := Option.map_eq_some_iff.mp h
    cases he
    obtain ⟨items, row, hrow, hitems, rfl⟩ := exists_isRow
      (P := fun item => ∃ e : List Char × List Char, IsKey e.1 ∧ IsComplete e.2 ∧
        item = e.1 ++ '=' :: e.2) (fun hpair => by
        obtain ⟨e, hkey, hcomplete, heq⟩ := exists_entry hvalue
          (fun hbefore h => by simpa using h.spaced hbefore isSpacing_nil) hpair
        exact ⟨_, ⟨e, hkey, hcomplete, rfl⟩, heq⟩) hentries
    exact ⟨_, isComplete_table hrow hitems, by simp⟩
  · obtain ⟨⟨values, more⟩, hvalues, he⟩ := Option.map_eq_some_iff.mp h
    cases he
    obtain ⟨items, row, hrow, hitems, rfl⟩ := exists_isRow (P := IsComplete)
      (fun hitem => by
        obtain ⟨front, hfront, heq, -⟩ := hvalue hitem
        exact ⟨front, hfront, heq⟩) hvalues
    exact ⟨_, .list hrow hitems, by simp⟩
  · obtain ⟨⟨s, more⟩, hquoted, he⟩ := Option.map_eq_some_iff.mp h
    cases he
    obtain ⟨front, hfront, heq⟩ := exists_isQuotation hquoted
    exact ⟨front, .quotation hfront, heq⟩
  · cases h
    exact ⟨_, .character _, rfl⟩
  · cases h
  · rename_i htrue hfalse hbrace hbracket hquote hcharacter hmark
    obtain ⟨rfl, rfl⟩ := Prod.mk.inj (Option.some.inj h)
    refine ⟨_, .bare (isBare_takeWhile (fun c hc => ⟨hstart c hc, ?_⟩) ?_),
      (List.takeWhile_append_dropWhile ..).symm⟩
    · obtain ⟨more, hmore⟩ := List.head?_eq_some_iff.mp hc
      simp only [List.mem_cons, List.not_mem_nil, or_false]
      rintro (rfl | rfl)
      · exact hquote more hmore
      · exact hmark more hmore
    · intro word hword more hcs
      rcases List.mem_pair.mp hword with rfl | rfl
      · exact htrue more (by simpa using hcs)
      · exact hfalse more (by simpa using hcs)

/-- What is read as a value is complete, and no space follows. -/
lemma exists_isComplete {v : Setting} (h : valueWithin? depth cs = some (v, rest)) :
    ∃ front, IsComplete front ∧ cs = front ++ rest ∧ skipSpace rest = rest := by
  induction depth generalizing cs v rest with
  | zero => cases h
  | succ depth ih =>
    obtain ⟨before, hbefore, hcs⟩ := exists_skipSpace cs
    rw [valueWithin?_succ] at h
    obtain ⟨⟨v', more⟩, hread, he⟩ := Option.map_eq_some_iff.mp h
    cases he
    have hstart : ∀ c, (skipSpace cs).head? = some c → isSpace c = false := by
      intro c hc
      have hnot := List.head?_dropWhile_not isSpace cs
      rw [skipSpace] at hc
      simpa [hc] using hnot
    obtain ⟨front, hfront, heq⟩ := exists_isComplete_core ih hstart hread
    obtain ⟨after, hafter, hmore⟩ := exists_skipSpace more
    refine ⟨before ++ (front ++ after), .spaced hbefore hafter hfront, ?_, skipSpace_skipSpace more⟩
    rw [hcs, heq]
    conv_lhs => rw [hmore]
    simp

/-! ### Complete values are read -/

/-- The characters that can follow a value. -/
def isClosing (c : Char) : Bool := c == ',' || c == ']' || c == '\x7d'

/-- A place where a value can end: behind space there is nothing, a comma or a closing mark. -/
def IsEnd (rest : List Char) : Prop := ∀ c, (skipSpace rest).head? = some c → isClosing c

/-- What can follow a value is a separator. -/
lemma isSeparator_of_isClosing (h : isClosing c) : isSeparator c := by
  simp only [isClosing, Bool.or_eq_true, beq_iff_eq] at h
  rcases h with (rfl | rfl) | rfl <;> rfl

/-- In front of a comma and of a closing mark a value can end. -/
lemma isEnd_cons (hc : isClosing c) (rest : List Char) :
    skipSpace (c :: rest) = c :: rest ∧ IsEnd (c :: rest) := by
  have hsame : skipSpace (c :: rest) = c :: rest :=
    skipSpace_of_head fun d hd => by
      cases hd
      exact isSpace_of_isSeparator (isSeparator_of_isClosing hc)
  refine ⟨hsame, fun d hd => ?_⟩
  rw [hsame] at hd
  cases hd
  exact hc

/-- What a value can end in front of are space and separators. -/
lemma IsEnd.head (h : IsEnd rest) (hc : rest.head? = some c) : isSpace c ∨ isSeparator c := by
  obtain ⟨more, rfl⟩ := List.head?_eq_some_iff.mp hc
  by_cases hspace : isSpace c
  · exact .inl hspace
  · exact .inr (isSeparator_of_isClosing
      (h c (by rw [skipSpace, List.dropWhile_cons_of_neg hspace]; rfl)))

/-- A word that a value does not begin with is not begun by what follows the value. -/
lemma IsEnd.not_prefix_append (h : IsEnd rest) {word : List Char}
    (hword : ∀ c ∈ word, isSpace c = false ∧ isSeparator c = false) (hno : ¬ word <+: cs) :
    ¬ word <+: cs ++ rest := by
  rintro ⟨more, hmore⟩
  have hrest : rest.takeWhile (fun c => !isSpace c && !isSeparator c) = [] := by
    cases rest with
    | nil => rfl
    | cons c rest =>
      refine List.takeWhile_cons_of_neg ?_
      rcases h.head rfl with hc | hc <;> simp [hc]
  have htaken := congrArg (List.takeWhile fun c => !isSpace c && !isSeparator c) hmore
  rw [List.takeWhile_append_of_pos fun c hc => by simp [hword c hc], List.takeWhile_append, hrest,
    List.append_nil] at htaken
  split_ifs at htaken
  · exact hno ⟨_, htaken⟩
  · exact hno (List.IsPrefix.trans ⟨_, htaken⟩ (List.takeWhile_prefix _))

/-- No key and no value begins with a closing mark or a comma. -/
lemma IsKey.head (h : IsKey cs) (hc : cs.head? = some c) : isClosing c = false := by
  obtain ⟨before, key, after, rfl, hbefore, hafter, hkey⟩ := h
  rw [Bool.eq_false_iff]
  intro hclosing
  cases before with
  | cons b before =>
    cases hc
    have hspace := isSpace_of_isSeparator (isSeparator_of_isClosing hclosing)
    rw [hbefore c List.mem_cons_self] at hspace
    cases hspace
  | nil =>
    rcases hkey with ⟨raw, -, rfl⟩ | ⟨hne, hword⟩
    · cases hc
      cases hclosing
    · obtain ⟨d, key, rfl⟩ := List.exists_cons_of_ne_nil hne
      cases hc
      have hc := hword c List.mem_cons_self
      simp only [isClosing, Bool.or_eq_true, beq_iff_eq] at hclosing
      rcases hclosing with (rfl | rfl) | rfl <;> cases hc

lemma IsComplete.head (h : IsComplete cs) (hc : cs.head? = some c) : isClosing c = false := by
  have hspacing : ∀ {before : List Char}, IsSpacing before → before.head? = some c →
      isClosing c = false := by
    intro before hbefore hhead
    rw [Bool.eq_false_iff]
    intro hclosing
    have hspace := isSpace_of_isSeparator (isSeparator_of_isClosing hclosing)
    rw [hbefore c (List.mem_of_mem_head? hhead)] at hspace
    cases hspace
  induction h with
  | flag h => rcases h with rfl | rfl <;> cases hc <;> rfl
  | character d => cases hc; rfl
  | bare h =>
    rw [Bool.eq_false_iff]
    intro hclosing
    have hno := h.1 c (List.mem_of_mem_head? hc)
    rw [isSeparator_of_isClosing hclosing] at hno
    cases hno
  | quotation h =>
    obtain ⟨raw, -, rfl⟩ := h
    cases hc
    rfl
  | list => cases hc; rfl
  | table => cases hc; rfl
  | @spaced before cs after hbefore hafter h ih =>
    cases before with
    | cons b before => exact hspacing hbefore hc
    | nil =>
      cases cs with
      | cons d cs => exact ih hc
      | nil => exact hspacing hafter hc

/-- A key with a value is read up to the end of the value. -/
lemma exists_pair? {key value : List Char} (hkey : IsKey key) {v : Setting}
    (hvalue : valueWithin? depth (value ++ rest) = some (v, rest)) (hrest : skipSpace rest = rest) :
    ∃ e, pair? (valueWithin? depth) (key ++ '=' :: value ++ rest) = some (e, rest) := by
  obtain ⟨k, after, hk, hsign⟩ := hkey.exists_key? (value ++ rest)
  have hskip : valueWithin? depth (skipSpace (value ++ rest)) =
      valueWithin? depth (value ++ rest) := by
    cases depth with
    | zero => rfl
    | succ depth =>
      rw [valueWithin?_succ, valueWithin?_succ, skipSpace_skipSpace]
  refine ⟨(k, v), ?_⟩
  rw [List.append_assoc, List.cons_append]
  unfold pair?
  simp [hk, hsign, hskip, hvalue, hrest]

/-- What begins like a bare value is read as one, up to a separator. -/
lemma core?_eq_bare (hhead : ∀ c, cs.head? = some c → c ∉ ['\x7b', '[', '"', '\''])
    (hflag : ∀ word ∈ ["true".toList, "false".toList], ¬ word <+: cs) :
    core? depth cs =
      some (bare (cs.takeWhile (!isSeparator ·)), cs.dropWhile (!isSeparator ·)) := by
  unfold core?
  split
  · exact absurd ⟨_, rfl⟩ (hflag ['t', 'r', 'u', 'e'] (by simp))
  · exact absurd ⟨_, rfl⟩ (hflag ['f', 'a', 'l', 's', 'e'] (by simp))
  · exact absurd (by decide) (hhead '\x7b' rfl)
  · exact absurd (by decide) (hhead '[' rfl)
  · exact absurd (by decide) (hhead '"' rfl)
  · exact absurd (by decide) (hhead '\'' rfl)
  · exact absurd (by decide) (hhead '\'' rfl)
  · rfl

/-- A bare value is read up to its end, with the space behind it. -/
lemma IsBare.exists_core? (h : IsBare cs) (hrest : IsEnd rest) (depth : Nat) :
    ∃ v, core? depth (skipSpace (cs ++ rest)) = some (v, skipSpace rest) := by
  obtain ⟨hbare, hhead, htrue, hfalse⟩ := h
  obtain ⟨spacing, hspacing, heq⟩ := exists_skipSpace rest
  have hseparator : ∀ c ∈ spacing, isSeparator c = false := by
    intro c hc
    rw [Bool.eq_false_iff]
    intro hseparator
    have hspace := isSpace_of_isSeparator hseparator
    rw [hspacing c hc] at hspace
    cases hspace
  have hclosing : ∀ c, isClosing c → c ∉ ['\x7b', '[', '"', '\''] := by
    intro c hc hmem
    simp only [isClosing, Bool.or_eq_true, beq_iff_eq] at hc
    rcases hc with (rfl | rfl) | rfl <;> revert hmem <;> decide
  have hflag : ∀ word ∈ ["true".toList, "false".toList],
      ∀ c ∈ word, isSpace c = false ∧ isSeparator c = false := by
    intro word hword c hc
    have hall : word.all fun c => !isSpace c && !isSeparator c := by
      rcases List.mem_pair.mp hword with rfl | rfl <;> rfl
    simpa using List.all_eq_true.mp hall c hc
  have hstop : ∀ c, (skipSpace rest).head? = some c → (!isSeparator c) = false := by
    intro c hc
    rw [isSeparator_of_isClosing (hrest c hc)]
    rfl
  -- an empty value has its space skipped with that in front of it
  by_cases hempty : cs = []
  · subst hempty
    have hend : IsEnd (skipSpace rest) := fun c hc => hrest c (skipSpace_skipSpace rest ▸ hc)
    obtain ⟨-, hdrop⟩ := takeWhile_append_of_head (List.forall_mem_nil _) hstop
    rw [List.nil_append] at hdrop
    rw [List.nil_append, core?_eq_bare, hdrop]
    · exact ⟨_, rfl⟩
    · exact fun c hc => hclosing c (hrest c hc)
    · intro word hword
      have hno : ¬ word <+: [] := by
        rcases List.mem_pair.mp hword with rfl | rfl
        · exact htrue
        · exact hfalse
      exact hend.not_prefix_append (hflag word hword) hno
  · obtain ⟨c, more, rfl⟩ := List.exists_cons_of_ne_nil hempty
    obtain ⟨hspace, hmark⟩ := hhead c rfl
    have hsame : skipSpace (c :: more ++ rest) = c :: more ++ rest :=
      skipSpace_of_head fun d hd => by cases hd; exact hspace
    have hkept : ∀ d ∈ c :: more ++ spacing, (!isSeparator d) = true := by
      intro d hd
      rcases List.mem_append.mp hd with hd | hd
      · rw [hbare d hd]
        rfl
      · rw [hseparator d hd]
        rfl
    obtain ⟨-, hdrop⟩ := takeWhile_append_of_head hkept hstop
    rw [List.append_assoc, ← heq] at hdrop
    rw [hsame, core?_eq_bare, hdrop]
    · exact ⟨_, rfl⟩
    · intro d hd hmem
      cases hd
      have hno := hbare c List.mem_cons_self
      simp only [List.mem_cons, List.not_mem_nil, or_false, not_or] at hmem hmark
      rcases hmem with rfl | rfl | rfl | rfl
      · cases hno
      · cases hno
      · exact hmark.1 rfl
      · exact hmark.2 rfl
    · intro word hword
      refine hrest.not_prefix_append (hflag word hword) ?_
      rcases List.mem_pair.mp hword with rfl | rfl
      · exact htrue
      · exact hfalse

/-- A complete value is read up to its end, and the space behind it is skipped. -/
lemma IsComplete.exists_valueWithin? (h : IsComplete cs) (hdepth : cs.length < depth)
    (hrest : IsEnd rest) : ∃ v, valueWithin? depth (cs ++ rest) = some (v, skipSpace rest) := by
  induction h generalizing depth rest with
  | flag h =>
    obtain ⟨depth, rfl⟩ := Nat.exists_eq_add_one_of_ne_zero (Nat.ne_zero_of_lt hdepth)
    rcases h with rfl | rfl
    · exact ⟨.boolean true, by rw [valueWithin?_succ]; rfl⟩
    · exact ⟨.boolean false, by rw [valueWithin?_succ]; rfl⟩
  | character c =>
    obtain ⟨depth, rfl⟩ := Nat.exists_eq_add_one_of_ne_zero (Nat.ne_zero_of_lt hdepth)
    exact ⟨.text (String.singleton c), by rw [valueWithin?_succ]; rfl⟩
  | bare h =>
    obtain ⟨depth, rfl⟩ := Nat.exists_eq_add_one_of_ne_zero (Nat.ne_zero_of_lt hdepth)
    obtain ⟨v, hv⟩ := h.exists_core? hrest depth
    exact ⟨v, by simp [valueWithin?_succ, hv]⟩
  | quotation h =>
    obtain ⟨depth, rfl⟩ := Nat.exists_eq_add_one_of_ne_zero (Nat.ne_zero_of_lt hdepth)
    obtain ⟨s, hs⟩ := h.exists_quoted? rest
    obtain ⟨raw, -, rfl⟩ := h
    refine ⟨.text s, ?_⟩
    rw [valueWithin?_succ, skipSpace_of_head fun c hc => by cases hc; rfl]
    simp only [List.cons_append] at hs ⊢
    rw [core?, hs]
    rfl
  | @list items row hrow h ih =>
    obtain ⟨depth, rfl⟩ := Nat.exists_eq_add_one_of_ne_zero (Nat.ne_zero_of_lt hdepth)
    simp only [List.length_cons, List.length_append, List.length_nil] at hdepth
    have hread : ∀ item ∈ items, ∀ c ∈ [',', ']'], ∀ rest,
        ∃ v, valueWithin? depth (item ++ c :: rest) = some (v, c :: rest) := by
      intro item hitem c hc rest
      have hclosing : isClosing c := by rcases List.mem_pair.mp hc with rfl | rfl <;> rfl
      obtain ⟨hsame, hend⟩ := isEnd_cons hclosing rest
      have hlength : item.length < depth := by
        have := hrow.length_le hitem
        omega
      obtain ⟨v, hv⟩ := ih item hitem hlength hend
      exact ⟨v, by rw [hv, hsame]⟩
    have hfuel : row.length < (row ++ ']' :: rest).length + 1 := by
      rw [List.length_append]
      omega
    obtain ⟨vs, hvs⟩ := hrow.exists_items? (by decide) hread
      (fun item hitem hhead => by cases (h item hitem).head hhead) hfuel rest
    refine ⟨.list vs, ?_⟩
    rw [valueWithin?_succ, skipSpace_of_head fun c hc => by cases hc; rfl, List.cons_append,
      List.append_assoc, List.singleton_append, core?, hvs]
    rfl
  | @table entries row hrow hkeys h ih =>
    obtain ⟨depth, rfl⟩ := Nat.exists_eq_add_one_of_ne_zero (Nat.ne_zero_of_lt hdepth)
    simp only [List.length_cons, List.length_append, List.length_nil] at hdepth
    have hread : ∀ item ∈ entries.map (fun e => e.1 ++ '=' :: e.2), ∀ c ∈ [',', '\x7d'], ∀ rest,
        ∃ e, pair? (valueWithin? depth) (item ++ c :: rest) = some (e, c :: rest) := by
      intro item hitem c hc rest
      have hclosing : isClosing c := by rcases List.mem_pair.mp hc with rfl | rfl <;> rfl
      obtain ⟨hsame, hend⟩ := isEnd_cons hclosing rest
      have hlength := hrow.length_le hitem
      obtain ⟨e, he, rfl⟩ := List.mem_map.mp hitem
      have hvalue : e.2.length < depth := by
        rw [List.length_append, List.length_cons] at hlength
        omega
      obtain ⟨v, hv⟩ := ih e he hvalue hend
      exact exists_pair? (hkeys e he) (by rw [hv, hsame]) hsame
    have hhead : ∀ item ∈ entries.map (fun e => e.1 ++ '=' :: e.2), item.head? ≠ some '\x7d' := by
      intro item hitem hhead
      obtain ⟨⟨key, value⟩, he, rfl⟩ := List.mem_map.mp hitem
      cases key with
      | nil => cases hhead
      | cons c key => cases (hkeys _ he).head hhead
    have hfuel : row.length < (row ++ '\x7d' :: rest).length + 1 := by
      rw [List.length_append]
      omega
    obtain ⟨es, hes⟩ := hrow.exists_items? (by decide) hread hhead hfuel rest
    refine ⟨tableOf es, ?_⟩
    rw [valueWithin?_succ, skipSpace_of_head fun c hc => by cases hc; rfl, List.cons_append,
      List.append_assoc, List.singleton_append, core?, hes]
    rfl
  | @spaced before cs after hbefore hafter h ih =>
    obtain ⟨depth, rfl⟩ := Nat.exists_eq_add_one_of_ne_zero (Nat.ne_zero_of_lt hdepth)
    have hskip : skipSpace (after ++ rest) = skipSpace rest := skipSpace_append hafter rest
    have hlength : cs.length < depth + 1 := by
      rw [List.length_append, List.length_append] at hdepth
      omega
    have hend : IsEnd (after ++ rest) := fun c hc => hrest c (hskip ▸ hc)
    obtain ⟨v, hv⟩ := ih hlength hend
    refine ⟨v, ?_⟩
    rw [← hskip, ← hv, valueWithin?_succ, valueWithin?_succ, List.append_assoc, List.append_assoc,
      skipSpace_append hbefore]

/-- **Complete values.** Characters are read as a value to their end exactly if they are
complete. -/
lemma isComplete_iff : IsComplete cs ↔ ∃ v, valueWithin? (cs.length + 1) cs = some (v, []) := by
  constructor
  · intro h
    have hend : IsEnd [] := nofun
    have hread := h.exists_valueWithin? (Nat.lt_succ_self _) hend
    rwa [List.append_nil] at hread
  · rintro ⟨v, hv⟩
    obtain ⟨front, hfront, hcs, -⟩ := exists_isComplete hv
    rwa [hcs, List.append_nil]

end CrudScaffold.Environment
