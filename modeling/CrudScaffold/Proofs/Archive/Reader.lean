import CrudScaffold.Archive.Tar.Reader
import CrudScaffold.Proofs.Archive.Header
import CrudScaffold.Proofs.Archive.Name

/-!
# Reading entries back

The reader takes an archive entry by entry, and what it takes from an entry that was written is the
file that the entry was written for. A file with a long path has two entries, of which the first one
announces the path. So the files come back one after the other, until the reader meets the first
block of zeros.
-/

namespace CrudScaffold

/-- The bytes of an object in memory are counted by a signed word, so that none has as many. -/
def Text.sizeLimit : Nat := 0x8000000000000000

/-- A text as it can be in memory. -/
def Text.Addressable (s : String) : Prop := (Text.bytes s).length < Text.sizeLimit

/-- A file as it can be in memory. -/
structure File.Addressable (f : File) : Prop where
  path : Text.Addressable f.path
  content : Text.Addressable f.content

/-- Whether a file can be in memory can be decided from its texts. -/
instance : DecidablePred File.Addressable := fun f =>
  decidable_of_iff ((Text.bytes f.path).length < Text.sizeLimit ∧
    (Text.bytes f.content).length < Text.sizeLimit)
    ⟨fun h => ⟨h.1, h.2⟩, fun h => ⟨h.path, h.content⟩⟩

namespace Tar

/-! ### One entry -/

section Entry

variable {name : Bytes} {kind : UInt8} {content : Bytes}

@[simp] lemma length_fillBlocks (b : Bytes) : (fillBlocks b).length = blocksFor b.length :=
  Bytes.length_padTo (by rw [blocksFor]; omega)

/-- The bytes that are filled up come first. -/
lemma take_fillBlocks (b rest : Bytes) : (fillBlocks b ++ rest).take b.length = b := by
  rw [fillBlocks, Bytes.padTo, List.append_assoc, List.take_left]

/-- Filled blocks are passed over as a whole. -/
lemma skip_fillBlocks (b rest : Bytes) : skip b.length (fillBlocks b ++ rest) = .ok rest := by
  have htake : (fillBlocks b ++ rest).take (blocksFor b.length) = fillBlocks b :=
    List.take_left' (length_fillBlocks b)
  have hdrop : (fillBlocks b ++ rest).drop (blocksFor b.length) = rest :=
    List.drop_left' (length_fillBlocks b)
  simp only [skip, htake, hdrop, length_fillBlocks]
  exact if_neg (Nat.lt_irrefl _)

/-- What begins with a block is not empty. -/
lemma isEmpty_eq_false_of_take {b : Bytes} (h : (b.take blockSize).length = blockSize) :
    b.isEmpty = false := by
  cases b with
  | nil => exact absurd h (by decide)
  | cons x b => rfl

/-- A header that was written announces its entry, whatever stands behind it. -/
lemma nextEntry_header (sound : Bool) {a : Announced} (ha : a.extension = none)
    (hname : name.length ≤ nameLimit) {size : Nat} (hsize : size + 511 < Bytes.wordLimit)
    (rest : Bytes) :
    nextEntry sound a (header name size kind ++ rest) =
      .ok (some ⟨header name size kind, size, rest⟩) := by
  have hlength := length_header hname size kind
  have htake : (header name size kind ++ rest).take blockSize = header name size kind :=
    List.take_left' hlength
  have hdrop : (header name size kind ++ rest).drop blockSize = rest := List.drop_left' hlength
  have hnonempty : (header name size kind ++ rest).isEmpty = false :=
    isEmpty_eq_false_of_take (by rw [htake, hlength])
  have hread : entrySize? a (header name size kind) = some size := by
    rw [entrySize?, size?_header hname _ _ (by omega), ha]
    simp only [Option.bind_eq_bind, Option.bind_some, Option.bind_none, Option.getD_none,
      if_pos hsize]
  simp only [nextEntry, hnonempty, htake, hdrop, hlength, Nat.lt_irrefl, header_ne_zeros,
    agrees_header hname, hread, if_true, Bool.false_eq_true, if_false]

/-- The next entry of an archive is the one that was written first. -/
lemma nextEntry_entry (sound : Bool) {a : Announced} (ha : a.extension = none)
    (hname : name.length ≤ nameLimit) (hsize : content.length + 511 < Bytes.wordLimit)
    (rest : Bytes) :
    nextEntry sound a (entry name kind content ++ rest) =
      .ok (some ⟨header name content.length kind, content.length, fillBlocks content ++ rest⟩) := by
  rw [entry, List.append_assoc]
  exact nextEntry_header sound ha hname hsize _

/-- A plain entry is a file. -/
lemma role_plain (hname : name.length ≤ nameLimit) (size : Nat) :
    role (header name size plainKind) = .plain := by
  simp only [role, kind_header hname]
  rfl

/-- An entry for a long name names the next one. -/
lemma role_longName (hname : name.length ≤ nameLimit) (size : Nat) :
    role (header name size longNameKind) = .nextName := by
  simp only [role, kind_header hname, standard_header hname]
  rfl

/-- A plain entry gives the file with the path that is announced or in the header, and then the rest
of the archive is read. -/
lemma filesFrom_plain (sound : Bool) (fuel : Nat) {a : Announced} (ha : a.extension = none)
    (hname : name.length ≤ nameLimit) {f : File} (hf : f.Addressable)
    (hpath : entryName a (header name (Text.bytes f.content).length plainKind) =
      Text.bytes f.path) (rest : Bytes) :
    filesFrom sound (fuel + 1) a (entry name plainKind (Text.bytes f.content) ++ rest) =
      (filesFrom sound fuel {} rest).map (f :: ·) := by
  have hsize : (Text.bytes f.content).length + 511 < Bytes.wordLimit := by
    have hlimit : (Text.bytes f.content).length < Text.sizeLimit := hf.content
    rw [Text.sizeLimit] at hlimit
    rw [Bytes.wordLimit]
    omega
  have hannounce : announce a ⟨header name (Text.bytes f.content).length plainKind,
      (Text.bytes f.content).length, fillBlocks (Text.bytes f.content) ++ rest⟩ = .ok {} := by
    simp only [announce, role_plain hname]
  have hfile : entryFile sound a ⟨header name (Text.bytes f.content).length plainKind,
      (Text.bytes f.content).length, fillBlocks (Text.bytes f.content) ++ rest⟩ =
        .ok ([f], fillBlocks (Text.bytes f.content) ++ rest) := by
    simp only [entryFile, role_plain hname, readFile, take_fillBlocks, hpath, Text.ofBytes_bytes,
      Text.ofBytes?_bytes, Nat.lt_irrefl, false_and, if_false, Except.map]
  rw [filesFrom, nextEntry_entry sound ha hname hsize]
  simp only [Bind.bind, Except.bind, hannounce, hfile, skip_fillBlocks]
  cases filesFrom sound fuel {} rest <;> rfl

/-- An entry for a long name announces what it holds. -/
lemma filesFrom_longName (sound : Bool) (fuel : Nat) (hname : name.length ≤ nameLimit)
    (hsize : content.length + 511 < Bytes.wordLimit) (rest : Bytes) :
    filesFrom sound (fuel + 1) {} (entry name longNameKind content ++ rest) =
      filesFrom sound fuel { name := some content } rest := by
  have hannounce : announce {} ⟨header name content.length longNameKind, content.length,
      fillBlocks content ++ rest⟩ = .ok { name := some content } := by
    simp only [announce, role_longName hname, take_fillBlocks]
    rfl
  have hfile : entryFile sound {} ⟨header name content.length longNameKind, content.length,
      fillBlocks content ++ rest⟩ = .ok ([], fillBlocks content ++ rest) := by
    simp only [entryFile, role_longName hname]
  rw [filesFrom, nextEntry_entry sound rfl hname hsize]
  simp only [Bind.bind, Except.bind, hannounce, hfile, skip_fillBlocks]
  cases filesFrom sound fuel { name := some content } rest <;> rfl

/-- A block of zeros ends an archive, unless something is announced. -/
lemma filesFrom_zeroBlock (sound : Bool) (fuel : Nat) (rest : Bytes) :
    filesFrom sound (fuel + 1) {} (zeroBlock ++ rest) = .ok [] := by
  have htake : (zeroBlock ++ rest).take blockSize = zeroBlock :=
    List.take_left' List.length_replicate
  have hlength : zeroBlock.length = blockSize := List.length_replicate
  have hnonempty : (zeroBlock ++ rest).isEmpty = false :=
    isEmpty_eq_false_of_take (by rw [htake, hlength])
  have hzeros : zeroBlock.all (· == 0) = true := by simp [zeroBlock]
  have hend : nextEntry sound {} (zeroBlock ++ rest) = .ok none := by
    simp only [nextEntry, hnonempty, htake, hzeros, hlength, Nat.lt_irrefl, Bool.false_eq_true,
      if_false, if_true]
  rw [filesFrom, hend]
  rfl

end Entry

/-! ### All files -/

/-- An entry takes at least one byte. -/
lemma length_entry_pos {name : Bytes} (hname : name.length ≤ nameLimit) (kind : UInt8)
    (content : Bytes) : 1 ≤ (entry name kind content).length := by
  rw [entry, List.length_append, length_header hname]
  exact Nat.le_add_right_of_le (by decide)

/-- A portable path that fits stands in the header of its file. -/
lemma fileBlocks?_of_le {path : String} (h : IsPortable path)
    (hfits : (Text.bytes path).length ≤ nameLimit) (content : Bytes) :
    fileBlocks? (Text.bytes path) content = some (entry (Text.bytes path) plainKind content) := by
  rw [fileBlocks?, h.isNamePath.entryName?_eq, if_pos hfits]

/-- A longer portable path is announced by an entry of its own, and a beginning of it stands in the
header of its file. -/
lemma exists_fileBlocks?_of_lt {path : String} (h : IsPortable path)
    (hlong : nameLimit < (Text.bytes path).length) (content : Bytes) :
    ∃ name, name.length ≤ nameLimit ∧ fileBlocks? (Text.bytes path) content =
      some (entry longNameTitle longNameKind (Text.bytes path ++ [0]) ++
        entry name plainKind content) := by
  obtain ⟨hshort, hclose⟩ := length_beginning hlong
  have hpath : IsNamePath (beginning (Text.bytes path) ++
      (Text.bytes path).drop (wholeChars (Text.bytes path) nameLimit)) := by
    rw [beginning, List.take_append_drop]
    exact h.isNamePath
  rw [nameLimit] at hclose
  obtain ⟨name, hname, hlength⟩ := hpath.exists_entryName?_prefix (by omega) hshort
  refine ⟨name, hlength, ?_⟩
  rw [fileBlocks?, h.isNamePath.entryName?_eq, if_neg (Nat.not_le.mpr hlong)]
  simp only [hname, if_neg (Nat.not_lt.mpr (Nat.le_of_lt hlong)), Option.map_some]

/-- A file with a portable path has blocks, and if it can be in memory, the reader takes it from
them in `n` steps. -/
lemma exists_fileBlocks? {f : File} (hpath : IsPortable f.path) :
    ∃ blocks n, fileBlocks? (Text.bytes f.path) (Text.bytes f.content) = some blocks ∧
      n ≤ blocks.length ∧
      (f.Addressable → ∀ sound fuel rest, filesFrom sound (fuel + n) {} (blocks ++ rest) =
        (filesFrom sound fuel {} rest).map (f :: ·)) := by
  by_cases hfits : (Text.bytes f.path).length ≤ nameLimit
  · refine ⟨_, 1, fileBlocks?_of_le hpath hfits _, length_entry_pos hfits _ _,
      fun hf sound fuel rest => ?_⟩
    refine filesFrom_plain sound fuel rfl hfits hf ?_ rest
    simp only [entryName, Option.bind_none, Option.getD_none]
    exact name_header hfits _ _ hpath.isNamePath.noZero
  · obtain ⟨name, hname, hblocks⟩ :=
      exists_fileBlocks?_of_lt hpath (Nat.lt_of_not_le hfits) (Text.bytes f.content)
    have htitle : longNameTitle.length ≤ nameLimit := by decide
    refine ⟨_, 2, hblocks, ?_, fun hf sound fuel rest => ?_⟩
    · rw [List.length_append]
      exact Nat.add_le_add (length_entry_pos htitle _ _) (length_entry_pos hname _ _)
    · have hsize : (Text.bytes f.path ++ [0]).length + 511 < Bytes.wordLimit := by
        have hlimit : (Text.bytes f.path).length < Text.sizeLimit := hf.path
        rw [Text.sizeLimit] at hlimit
        rw [List.length_append, List.length_singleton, Bytes.wordLimit]
        omega
      -- the announced path counts, not the one in the header
      rw [List.append_assoc, filesFrom_longName sound (fuel + 1) htitle hsize]
      refine filesFrom_plain sound fuel rfl hname hf ?_ rest
      simp [entryName]

/-- Files with portable paths have blocks, and if they can be in memory, they are read back from
them. -/
lemma exists_blocksOf {files : List File} (hpaths : ∀ f ∈ files, IsPortable f.path) :
    ∃ blocks, blocksOf files = .ok blocks ∧
      ((∀ f ∈ files, f.Addressable) → ∀ sound fuel, blocks.length ≤ fuel →
        filesFrom sound fuel {} blocks = .ok files) := by
  induction files with
  | nil =>
    refine ⟨zeroBlock ++ zeroBlock, rfl, fun _ sound fuel hfuel => ?_⟩
    have hlength : (zeroBlock ++ zeroBlock).length = 1024 := by
      simp only [zeroBlock, List.length_append, List.length_replicate, blockSize]
    obtain ⟨fuel, rfl⟩ : ∃ n, fuel = n + 1 := Nat.exists_eq_add_one_of_ne_zero (by omega)
    exact filesFrom_zeroBlock sound fuel zeroBlock
  | cons f files ih =>
    obtain ⟨blocks, n, hblocks, hn, hread⟩ := exists_fileBlocks? (hpaths f List.mem_cons_self)
    obtain ⟨more, hmore, hrest⟩ := ih fun g hg => hpaths g (List.mem_cons_of_mem f hg)
    refine ⟨blocks ++ more, ?_, fun hall sound fuel hfuel => ?_⟩
    · rw [blocksOf, hblocks, hmore]
      rfl
    · rw [List.length_append] at hfuel
      obtain ⟨fuel, rfl⟩ : ∃ m, fuel = m + n := ⟨fuel - n, by omega⟩
      rw [hread (hall f List.mem_cons_self),
        hrest (fun g hg => hall g (List.mem_cons_of_mem f hg)) sound fuel (by omega)]
      rfl

end Tar

end CrudScaffold
