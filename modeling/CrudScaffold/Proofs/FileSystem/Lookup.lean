import CrudScaffold.Proofs.FileSystem.Publication

/-!
# Files that are found again

After a change that is confined to a directory, a path can lead to a file that it did not lead to
before, though the file is an old one: where two dots of the path leave a directory that is new. Any
other path to a file with a name of its own leads to the same content as before, from whichever
directory it is followed (`FileSystem.Confined.read_seenFrom_eq_ok_iff`).
-/

namespace CrudScaffold.FileSystem

variable {fs fs' : FileSystem} {p q r : Place} {dir path x : String} {files names : List String}
  {content : Bytes}

/-- A file is read exactly where a path leads to it. -/
lemma read_eq_ok_iff : fs.read path = .ok content ↔
    ∃ p, fs.locate path = .ok p ∧ fs.get? p = some (.file content) := by
  constructor
  · intro h
    obtain ⟨n, hn, hread⟩ := bind_eq_ok_iff.mp h
    obtain ⟨p, hp, hn⟩ := bind_eq_ok_iff.mp hn
    refine ⟨p, hp, ?_⟩
    cases hget : fs.get? p with
    | none => simp [hget] at hn
    | some m =>
      obtain rfl : m = n := by simpa [hget] using hn
      cases m with
      | directory => cases hread
      | file b =>
        obtain rfl : b = content := Except.ok.inj hread
        rfl
  · rintro ⟨p, hp, hfile⟩
    exact read_of_locate hp hfile

/-- A path leads to a file if a file can be read there. -/
lemma hasFile_iff : fs.hasFile path ↔ ∃ content, fs.read path = .ok content := by
  simp only [hasFile, read]
  cases fs.find path with
  | error e => simp [bind, Except.bind]
  | ok n => cases n <;> simp [bind, Except.bind]

/-- What is read of a path is the content of the file there. -/
lemma toOption_read_eq_some_iff : (fs.read path).toOption = some content ↔
    fs.read path = .ok content := by
  cases fs.read path <;> simp [Except.toOption]

/-- The same stands at every place, wherever it is seen from. -/
@[simp] lemma get?_seenFrom (fs : FileSystem) (q p : Place) :
    (fs.seenFrom q).get? p = fs.get? p := rfl

/-- Names lead on from a place in the same way, wherever they are seen from. -/
@[simp] lemma leads_seenFrom : (fs.seenFrom r).Leads p names q ↔ fs.Leads p names q := Iff.rfl

@[simp] lemma here_seenFrom (fs : FileSystem) (q : Place) : (fs.seenFrom q).here = q := rfl

@[simp] lemma seenFrom_here (fs : FileSystem) : fs.seenFrom fs.here = fs := rfl

/-- No directory that two dots of a path leave is new. -/
def OldDetours (fs fs' : FileSystem) (path : String) : Prop :=
  ∀ front rest d, Path.names path = front ++ ".." :: rest →
    fs'.Leads (fs'.start path) front d → fs'.get? d = some .directory →
      fs.get? d = some .directory

/-- A path without two dots has no detours. -/
lemma oldDetours_of_notMem (h : ".." ∉ Path.names path) : OldDetours fs fs' path := by
  intro front rest d hpath
  refine absurd ?_ h
  rw [hpath]
  exact List.mem_append_right front List.mem_cons_self

/-- Where the last name of a path is a file name, the path leads to something of this name. -/
lemma exists_eq_append_of_leads (hx : Path.IsFileName x) (hnames : ∃ front, names = front ++ [x])
    (hq : fs.Leads p names q) : ∃ d, q = d ++ [x] := by
  obtain ⟨front, rfl⟩ := hnames
  obtain ⟨d, -, hq⟩ := leads_append.mp hq
  obtain ⟨q', hstep, hq'⟩ := leads_cons.mp hq
  obtain rfl := leads_nil.mp hq'
  obtain ⟨-, ⟨hstay, -⟩ | ⟨hdots, -⟩ | ⟨-, hq⟩⟩ := step_eq_ok_iff.mp hstep
  · exact absurd hstay (not_or.mpr ⟨hx.ne_empty, hx.ne_dot⟩)
  · exact absurd hdots hx.ne_dots
  · exact ⟨d, hq⟩

namespace Confined

variable (h : Confined fs fs' dir files)

include h

/-- All directories stay. -/
lemma directory (hr : fs.get? r = some .directory) : fs'.get? r = some .directory := by
  rcases h.places r with hsame | ⟨hold, -⟩ | ⟨hold, -⟩
  · rw [hsame, hr]
  · rw [hold] at hr
    cases hr
  · exact absurd hr hold

/-- What was there and is a directory was one. -/
lemma directory_of_ne_none (hr : fs'.get? r = some .directory) (hne : fs.get? r ≠ none) :
    fs.get? r = some .directory := by
  rcases h.places r with hsame | ⟨hold, -⟩ | ⟨-, hnow, -⟩
  · rw [← hsame, hr]
  · exact absurd hold hne
  · exact absurd hr hnow

/-- Names that lead to something old have led there before, if two dots leave old directories
only. -/
lemma leads_of_leads (hfs : fs.Sound)
    (hdetours : ∀ front rest d, names = front ++ ".." :: rest → fs'.Leads p front d →
      fs'.get? d = some .directory → fs.get? d = some .directory)
    (hq : fs'.Leads p names q) (hne : fs.get? q ≠ none) : fs.Leads p names q := by
  induction names using List.reverseRecOn generalizing q with
  | nil => exact leads_nil.mpr (leads_nil.mp hq)
  | append_singleton names x ih =>
    obtain ⟨r, hr, hlast⟩ := leads_append.mp hq
    obtain ⟨q', hstep, hq'⟩ := leads_cons.mp hlast
    obtain rfl := leads_nil.mp hq'
    obtain ⟨hnow, hx⟩ := step_eq_ok_iff.mp hstep
    -- the directory before the last name is an old one, whatever this name is
    have hold : fs.get? r = some .directory := by
      rcases hx with ⟨-, rfl⟩ | ⟨rfl, -⟩ | ⟨-, rfl⟩
      · exact h.directory_of_ne_none hnow hne
      · exact hdetours names [] r rfl hr hnow
      · obtain ⟨n, hn⟩ := Option.ne_none_iff_exists'.mp hne
        exact hfs.parent hn
    have hr' : fs.Leads p names r := by
      refine ih (fun front rest d hnames => ?_) hr (by rw [hold]; exact Option.some_ne_none _)
      exact hdetours front (rest ++ [x]) d (by rw [hnames, List.append_assoc, List.cons_append])
    exact leads_append.mpr ⟨r, hr', leads_cons.mpr
      ⟨q, step_eq_ok_iff.mpr ⟨hold, hx⟩, leads_nil.mpr rfl⟩⟩

/-- A path to something of another name leads to something still. -/
lemma has_of_has (hx : Path.IsFileName x) (hfiles : x ∉ files)
    (hnames : ∃ front, Path.names path = front ++ [x]) (hhas : fs.has path) : fs'.has path := by
  obtain ⟨q, hlocate, hsome⟩ := has_iff.mp hhas
  obtain ⟨hzero, hne, hq⟩ := locate_eq_ok_iff.mp hlocate
  obtain ⟨d, rfl⟩ := exists_eq_append_of_leads hx hnames hq
  refine has_iff.mpr ⟨d ++ [x], locate_eq_ok_iff.mpr ⟨hzero, hne, ?_⟩, ?_⟩
  · rw [start_congr h.here]
    exact hq.mono fun r => h.directory
  · rcases h.places (d ++ [x]) with hsame | ⟨hold, -⟩ | ⟨-, -, d', y, hy, -, hplace⟩
    · rwa [hsame]
    · rw [hold] at hsome
      cases hsome
    · obtain rfl : x = y := List.singleton_inj.mp (List.append_inj' hplace rfl).2
      exact absurd hy hfiles

/-- A path to a file of another name is read as before from every directory from which its detours
are old. -/
lemma read_seenFrom_eq_ok_iff (hfs : fs.Sound) (hx : Path.IsFileName x) (hfiles : x ∉ files)
    (hnames : ∃ front, Path.names path = front ++ [x])
    (hdetours : OldDetours (fs.seenFrom r) (fs'.seenFrom r) path) :
    (fs'.seenFrom r).read path = .ok content ↔ (fs.seenFrom r).read path = .ok content := by
  have hstart : (fs'.seenFrom r).start path = (fs.seenFrom r).start path := rfl
  simp only [FileSystem.read_eq_ok_iff, locate_eq_ok_iff, hstart, get?_seenFrom, leads_seenFrom]
  refine exists_congr fun q => ?_
  constructor
  · rintro ⟨⟨hzero, hne, hq⟩, hfile⟩
    obtain ⟨d, rfl⟩ := exists_eq_append_of_leads hx hnames hq
    rw [h.get?_eq_file_iff hfiles] at hfile
    refine ⟨⟨hzero, hne, h.leads_of_leads hfs hdetours hq ?_⟩, hfile⟩
    rw [hfile]
    exact Option.some_ne_none _
  · rintro ⟨⟨hzero, hne, hq⟩, hfile⟩
    obtain ⟨d, rfl⟩ := exists_eq_append_of_leads hx hnames hq
    exact ⟨⟨hzero, hne, hq.mono fun r => h.directory⟩,
      (h.get?_eq_file_iff hfiles d content).mpr hfile⟩

/-- A file of another name in the current directory is read as before. -/
lemma read_name_eq_ok_iff (hfs : fs.Sound) (hx : Path.IsFileName x) (hfiles : x ∉ files) :
    fs'.read x = .ok content ↔ fs.read x = .ok content := by
  have hnames : Path.names x = [x] := Path.names_of_notMem hx.slash
  have hdetours : OldDetours (fs.seenFrom fs.here) (fs'.seenFrom fs.here) x := by
    refine oldDetours_of_notMem ?_
    rw [hnames, List.mem_singleton]
    exact hx.ne_dots.symm
  have hread : (fs'.seenFrom fs.here).read x = .ok content ↔
      (fs.seenFrom fs.here).read x = .ok content :=
    h.read_seenFrom_eq_ok_iff hfs hx hfiles ⟨[], hnames⟩ hdetours
  rwa [← h.here, seenFrom_here, h.here, seenFrom_here] at hread

end Confined

end CrudScaffold.FileSystem
