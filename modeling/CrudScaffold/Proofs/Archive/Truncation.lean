import CrudScaffold.Proofs.Archive.RoundTrip

/-!
# Archives that are cut off

The blocks of an archive may end anywhere. What is left is read as a fault or as the first files of
the archive, each of them complete, and never as a file that was not packed.

This rests on the step behind a content. A content that is cut off can be read as a shorter text,
and so can the name of the next file, but then the blocks of the entry cannot be passed over
(`Tar.exists_error_of_rest_lt`). A reader that gets past an entry has seen all of it, so it can only
stop without a fault where the blocks of a file end, or at the block of zeros behind the last one.
-/

namespace CrudScaffold

namespace Tar

section Entry

variable {name : Bytes} {kind : UInt8} {content : Bytes} {sound : Bool} {a : Announced}

/-! ### One entry that is cut off -/

/-- A content that is not all there cannot be passed over. -/
lemma skip_eq_error_of_lt {size : Nat} {b : Bytes} (h : b.length < blocksFor size) :
    skip size b = .error .archive := by
  have htake : (b.take (blocksFor size)).length < blocksFor size :=
    Nat.lt_of_le_of_lt (List.length_take_le' _ _) h
  rw [skip, if_pos htake]

/-- Unless an entry has holes, its content begins behind its header. -/
lemma rest_of_entryFile {e : Entry} (hholes : role e.header ≠ .holes) {files : List File}
    {rest : Bytes} (h : entryFile sound a e = .ok (files, rest)) : rest = e.rest := by
  unfold entryFile at h
  split at h
  · cases hread : readFile sound a e with
    | error fault =>
      rw [hread] at h
      cases h
    | ok file =>
      rw [hread] at h
      cases h
      rfl
  · rename_i hrole
    exact absurd hrole hholes
  · cases h
    rfl

/-- An entry whose content is not all there is a fault, however much of it has been read. -/
lemma exists_error_of_rest_lt {b : Bytes} {e : Entry} (hnext : nextEntry sound a b = .ok (some e))
    (hholes : role e.header ≠ .holes) (hrest : e.rest.length < blocksFor e.size) (fuel : Nat) :
    ∃ fault, filesFrom sound (fuel + 1) a b = .error fault := by
  rw [filesFrom, hnext]
  simp only [Bind.bind, Except.bind]
  cases announce a e with
  | error fault => exact ⟨fault, rfl⟩
  | ok a' =>
    cases hfile : entryFile sound a e with
    | error fault => exact ⟨fault, rfl⟩
    | ok found =>
      obtain ⟨files, rest⟩ := found
      refine ⟨.archive, ?_⟩
      simp only [rest_of_entryFile hholes hfile, skip_eq_error_of_lt hrest]

/-- A header that is cut off is a fault. -/
lemma nextEntry_eq_error_of_lt {b : Bytes} (hb : b ≠ []) (hlength : b.length < blockSize) :
    nextEntry sound a b = .error .archive := by
  have hnonempty : b.isEmpty = false := List.isEmpty_eq_false_iff.mpr hb
  have hshort : (b.take blockSize).length < blockSize :=
    Nat.lt_of_le_of_lt (List.length_take_le' _ _) hlength
  simp only [nextEntry, hnonempty, hshort, Bool.false_eq_true, if_false, if_true]

/-- Where less is left than a header, the reader stops with a fault. -/
lemma filesFrom_take_eq_error {b : Bytes} {k : Nat} (hk : 0 < k) (hlt : k < blockSize)
    (hle : k ≤ b.length) (fuel : Nat) :
    filesFrom sound (fuel + 1) a (b.take k) = .error .archive := by
  have hlength : (b.take k).length = k := List.length_take_of_le hle
  have hne : b.take k ≠ [] := List.ne_nil_of_length_pos (hlength.symm ▸ hk)
  rw [filesFrom, nextEntry_eq_error_of_lt hne (hlength.symm ▸ hlt)]
  rfl

/-- An entry that is cut off somewhere inside is a fault. -/
lemma exists_error_of_take_entry (ha : a.extension = none) (hname : name.length ≤ nameLimit)
    (hkind : kind = plainKind ∨ kind = longNameKind)
    (hsize : content.length + 511 < Bytes.wordLimit)
    {k : Nat} (hk : 0 < k) (hlt : k < (entry name kind content).length) (fuel : Nat) :
    ∃ fault, filesFrom sound fuel a ((entry name kind content).take k) = .error fault := by
  cases fuel with
  | zero => exact ⟨.archive, rfl⟩
  | succ fuel =>
    by_cases hheader : k < blockSize
    · exact ⟨.archive, filesFrom_take_eq_error hk hheader (Nat.le_of_lt hlt) fuel⟩
    · -- the header is there, and some of the blocks behind it are not
      obtain ⟨n, rfl⟩ := Nat.exists_eq_add_of_le (Nat.le_of_not_lt hheader)
      have hblock := length_header hname content.length kind
      have htake : (entry name kind content).take (blockSize + n) =
          header name content.length kind ++ (fillBlocks content).take n := by
        rw [entry, ← hblock, List.take_length_add_append]
      have hshort : ((fillBlocks content).take n).length < blocksFor content.length := by
        rw [entry, List.length_append, hblock, length_fillBlocks] at hlt
        exact Nat.lt_of_le_of_lt (List.length_take_le _ _) (Nat.lt_of_add_lt_add_left hlt)
      have hholes : role (header name content.length kind) ≠ .holes := by
        rcases hkind with rfl | rfl
        · rw [role_plain hname]
          decide
        · rw [role_longName hname]
          decide
      rw [htake]
      exact exists_error_of_rest_lt (nextEntry_header sound ha hname hsize _) hholes hshort fuel

end Entry

/-! ### One file that is cut off -/

/-- An archive does not end behind the name of a file. -/
lemma exists_error_of_announced (sound : Bool) (fuel : Nat) (name : Bytes) :
    ∃ fault, filesFrom sound fuel { name := some name } [] = .error fault := by
  cases fuel with
  | zero => exact ⟨.archive, rfl⟩
  | succ fuel => cases sound <;> exact ⟨.archive, rfl⟩

/-- The blocks of a file that are cut off somewhere inside are a fault. -/
lemma exists_error_of_take_fileBlocks {f : File} (hpath : IsPortable f.path) (hf : f.Addressable)
    {blocks : Bytes}
    (hblocks : fileBlocks? (Text.bytes f.path) (Text.bytes f.content) = some blocks) {k : Nat}
    (hk : 0 < k) (hlt : k < blocks.length) (sound : Bool) (fuel : Nat) :
    ∃ fault, filesFrom sound fuel {} (blocks.take k) = .error fault := by
  have hpathSize : (Text.bytes f.path).length < Text.sizeLimit := hf.path
  have hcontentSize : (Text.bytes f.content).length < Text.sizeLimit := hf.content
  rw [Text.sizeLimit] at hpathSize hcontentSize
  have hcontent : (Text.bytes f.content).length + 511 < Bytes.wordLimit := by
    rw [Bytes.wordLimit]
    omega
  by_cases hfits : (Text.bytes f.path).length ≤ nameLimit
  · rw [fileBlocks?_of_le hpath hfits] at hblocks
    cases hblocks
    exact exists_error_of_take_entry rfl hfits (.inl rfl) hcontent hk hlt fuel
  · obtain ⟨name, hname, hlong⟩ :=
      exists_fileBlocks?_of_lt hpath (Nat.lt_of_not_le hfits) (Text.bytes f.content)
    rw [hlong] at hblocks
    cases hblocks
    have htitle : longNameTitle.length ≤ nameLimit := by decide
    have hannounced : (Text.bytes f.path ++ [0]).length + 511 < Bytes.wordLimit := by
      rw [List.length_append, List.length_singleton, Bytes.wordLimit]
      omega
    rcases Nat.lt_or_ge k (entry longNameTitle longNameKind (Text.bytes f.path ++ [0])).length with
      hfirst | hfirst
    · rw [List.take_append_of_le_length (Nat.le_of_lt hfirst)]
      exact exists_error_of_take_entry rfl htitle (.inr rfl) hannounced hk hfirst fuel
    · -- the name of the file has been read, and the entry that it belongs to is not all there
      obtain ⟨n, rfl⟩ := Nat.exists_eq_add_of_le hfirst
      rw [List.length_append] at hlt
      have hrest : n < (entry name plainKind (Text.bytes f.content)).length :=
        Nat.lt_of_add_lt_add_left hlt
      rw [List.take_length_add_append]
      cases fuel with
      | zero => exact ⟨.archive, rfl⟩
      | succ fuel =>
        rw [filesFrom_longName sound fuel htitle hannounced]
        rcases Nat.eq_zero_or_pos n with rfl | hn
        · exact exists_error_of_announced sound fuel _
        · exact exists_error_of_take_entry rfl hname (.inl rfl) hcontent hn hrest fuel

/-! ### All files -/

/-- What has been read is a fault, or the first of some files. -/
def ReadsBeginning (files : List File) (result : Except Fault (List File)) : Prop :=
  (∃ fault, result = .error fault) ∨ ∃ front, result = .ok front ∧ front <+: files

/-- One file more in front has been read as well. -/
lemma ReadsBeginning.cons {files : List File} {result : Except Fault (List File)}
    (h : ReadsBeginning files result) (f : File) :
    ReadsBeginning (f :: files) (result.map (f :: ·)) := by
  rcases h with ⟨fault, rfl⟩ | ⟨front, rfl, hfront⟩
  · exact .inl ⟨fault, rfl⟩
  · exact .inr ⟨f :: front, rfl, List.cons_prefix_cons.mpr ⟨rfl, hfront⟩⟩

/-- Where nothing is left, no more files are read. -/
lemma readsBeginning_nil (files : List File) (sound : Bool) (fuel : Nat) :
    ReadsBeginning files (filesFrom sound fuel {} []) := by
  cases fuel with
  | zero => exact .inl ⟨.archive, rfl⟩
  | succ fuel =>
    cases sound with
    | true => exact .inr ⟨[], rfl, List.nil_prefix⟩
    | false => exact .inl ⟨.archive, rfl⟩

/-- The two blocks of zeros give no files, wherever they are cut off. -/
lemma readsBeginning_take_zeroBlocks (k : Nat) (sound : Bool) (fuel : Nat) :
    ReadsBeginning [] (filesFrom sound fuel {} ((zeroBlock ++ zeroBlock).take k)) := by
  have hblock : zeroBlock.length = blockSize := List.length_replicate
  cases fuel with
  | zero => exact .inl ⟨.archive, rfl⟩
  | succ fuel =>
    rcases Nat.eq_zero_or_pos k with rfl | hk
    · exact readsBeginning_nil [] sound (fuel + 1)
    · by_cases hlt : k < blockSize
      · have hle : k ≤ (zeroBlock ++ zeroBlock).length := by
          rw [List.length_append, hblock]
          exact Nat.le_add_right_of_le (Nat.le_of_lt hlt)
        exact .inl ⟨.archive, filesFrom_take_eq_error hk hlt hle fuel⟩
      · obtain ⟨n, rfl⟩ := Nat.exists_eq_add_of_le (Nat.le_of_not_lt hlt)
        rw [← hblock, List.take_length_add_append, filesFrom_zeroBlock]
        exact .inr ⟨[], rfl, List.nil_prefix⟩

/-- The blocks of some files are those of the first one, which are read as it, and those of the
others. -/
lemma exists_blocksOf_cons {f : File} {files : List File}
    (hpaths : ∀ g ∈ f :: files, IsPortable g.path) (hf : f.Addressable) {blocks : Bytes}
    (hblocks : blocksOf (f :: files) = .ok blocks) :
    ∃ first more n, blocks = first ++ more ∧ blocksOf files = .ok more ∧
      fileBlocks? (Text.bytes f.path) (Text.bytes f.content) = some first ∧ n ≤ first.length ∧
      ∀ sound fuel rest, filesFrom sound (fuel + n) {} (first ++ rest) =
        (filesFrom sound fuel {} rest).map (f :: ·) := by
  obtain ⟨first, n, hfirst, hn, hread⟩ := exists_fileBlocks? (hpaths f List.mem_cons_self)
  obtain ⟨more, hmore, -⟩ := exists_blocksOf fun g hg => hpaths g (List.mem_cons_of_mem f hg)
  refine ⟨first, more, n, ?_, hmore, hfirst, hn, hread hf⟩
  rw [blocksOf, hfirst, hmore] at hblocks
  exact (Except.ok.inj hblocks).symm

/-- The blocks of some files, cut off anywhere, are read as a fault or as the first files. -/
lemma readsBeginning_take {files : List File} (hpaths : ∀ f ∈ files, IsPortable f.path)
    (hfiles : ∀ f ∈ files, f.Addressable) {blocks : Bytes} (hblocks : blocksOf files = .ok blocks)
    {k fuel : Nat} (hfuel : k < fuel) (sound : Bool) :
    ReadsBeginning files (filesFrom sound fuel {} (blocks.take k)) := by
  induction files generalizing blocks k fuel with
  | nil =>
    cases hblocks
    exact readsBeginning_take_zeroBlocks k sound fuel
  | cons f files ih =>
    have hf := hfiles f List.mem_cons_self
    obtain ⟨first, more, n, rfl, hmore, hfirst, hn, hread⟩ := exists_blocksOf_cons hpaths hf hblocks
    rcases Nat.eq_zero_or_pos k with rfl | hk
    · exact readsBeginning_nil (f :: files) sound fuel
    · rcases Nat.lt_or_ge k first.length with hlt | hge
      · rw [List.take_append_of_le_length (Nat.le_of_lt hlt)]
        exact .inl (exists_error_of_take_fileBlocks (hpaths f List.mem_cons_self) hf hfirst hk hlt
          sound fuel)
      · -- the first file is all there, and the rest is cut off somewhere
        obtain ⟨m, rfl⟩ := Nat.exists_eq_add_of_le hge
        obtain ⟨fuel, rfl⟩ : ∃ i, fuel = i + n := ⟨fuel - n, by omega⟩
        rw [List.take_length_add_append, hread]
        exact (ih (fun g hg => hpaths g (List.mem_cons_of_mem f hg))
          (fun g hg => hfiles g (List.mem_cons_of_mem f hg)) hmore (by omega)).cons f

/-- Behind the blocks of any number of files the archive can be cut off without a fault. -/
lemma exists_take_eq_ok {files : List File} (hpaths : ∀ f ∈ files, IsPortable f.path)
    (hfiles : ∀ f ∈ files, f.Addressable) {blocks : Bytes} (hblocks : blocksOf files = .ok blocks)
    (i : Nat) :
    ∃ k ≤ blocks.length, ∀ fuel, k < fuel →
      filesFrom true fuel {} (blocks.take k) = .ok (files.take i) := by
  induction i generalizing files blocks with
  | zero =>
    refine ⟨0, Nat.zero_le _, fun fuel hfuel => ?_⟩
    obtain ⟨fuel, rfl⟩ := Nat.exists_eq_add_one_of_ne_zero (Nat.ne_of_gt hfuel)
    rfl
  | succ i ih =>
    cases files with
    | nil =>
      cases hblocks
      refine ⟨zeroBlock.length, ?_, fun fuel hfuel => ?_⟩
      · rw [List.length_append]
        exact Nat.le_add_right _ _
      · obtain ⟨fuel, rfl⟩ := Nat.exists_eq_add_one_of_ne_zero (Nat.ne_zero_of_lt hfuel)
        rw [List.take_left, ← List.append_nil zeroBlock, filesFrom_zeroBlock]
        rfl
    | cons f files =>
      obtain ⟨first, more, n, rfl, hmore, -, hn, hread⟩ :=
        exists_blocksOf_cons hpaths (hfiles f List.mem_cons_self) hblocks
      obtain ⟨k, hk, hrest⟩ := ih (fun g hg => hpaths g (List.mem_cons_of_mem f hg))
        (fun g hg => hfiles g (List.mem_cons_of_mem f hg)) hmore
      refine ⟨first.length + k, ?_, fun fuel hfuel => ?_⟩
      · rw [List.length_append]
        exact Nat.add_le_add_left hk _
      · obtain ⟨fuel, rfl⟩ : ∃ j, fuel = j + n := ⟨fuel - n, by omega⟩
        rw [List.take_length_add_append, hread, hrest fuel (by omega)]
        rfl

end Tar

/-! ### Archives -/

namespace FileTree

variable {t : FileTree} {blocks stream : Bytes} {k : Nat}

/-- What is unpacked is what the reader finds, unless it finds a fault. -/
lemma unpack_eq {b : Bytes} (hstream : Gzip.decompress stream = ⟨b, true⟩) {files : List File}
    (hread : Tar.filesFrom true (b.length + 1) {} b = .ok files) :
    unpack stream = .ok (ofList files) := by
  have hfiles : Tar.files (Gzip.decompress stream) = .ok files := hstream ▸ hread
  simp only [unpack, hfiles]

/-- A fault that the reader finds is one of the archive. -/
lemma exists_unpack_eq_error {b : Bytes} (hstream : Gzip.decompress stream = ⟨b, true⟩)
    {fault : Tar.Fault} (hread : Tar.filesFrom true (b.length + 1) {} b = .error fault) :
    ∃ e, unpack stream = .error e := by
  have hfiles : Tar.files (Gzip.decompress stream) = .error fault := hstream ▸ hread
  simp only [unpack, hfiles]
  cases fault with
  | archive => exact ⟨_, rfl⟩
  | content path => exact ⟨_, rfl⟩

end FileTree

/-- **Archives that are cut off.** A tree of files with portable paths that can be in memory is
packed into an archive. Take the first bytes of its blocks, any number of them, and any stream that
stands for these: unpacking it fails or gives a tree with the first files of the original, each with
its path and its whole content. Any number of first files can be what is left. -/
theorem FileTree.unpack_truncated (compress : Bytes → Bytes) (t : FileTree) (ht : t.Sound)
    (hpaths : ∀ f ∈ t.files, IsPortable f.path) (hfiles : ∀ f ∈ t.files, f.Addressable) :
    ∃ blocks, Tar.blocksOf t.files = .ok blocks ∧ t.pack compress = .ok (compress blocks) ∧
      (∀ (k : Nat) (stream : Bytes), Gzip.decompress stream = ⟨blocks.take k, true⟩ →
        (∃ e, unpack stream = .error e) ∨
          ∃ front, unpack stream = .ok front ∧ front.Sound ∧ front.files <+: t.files) ∧
      ∀ i, ∃ k ≤ blocks.length, ∀ stream, Gzip.decompress stream = ⟨blocks.take k, true⟩ →
        ∃ front, unpack stream = .ok front ∧ front.files = t.files.take i := by
  have hfront : ∀ front, front <+: t.files → (ofList front).files = front := by
    intro front hfront
    exact files_ofList (ht.nodup.sublist (hfront.map File.path).sublist)
  obtain ⟨blocks, hblocks, hpack, -⟩ := exists_pack ht hpaths
  refine ⟨blocks, hblocks, hpack compress, fun k stream hstream => ?_, fun i => ?_⟩
  · have hlength : min k blocks.length < (blocks.take k).length + 1 := by
      rw [List.length_take]
      exact Nat.lt_succ_self _
    have hread := Tar.readsBeginning_take hpaths hfiles hblocks hlength true
    rw [← List.take_eq_take_min] at hread
    rcases hread with ⟨fault, hfault⟩ | ⟨front, hok, hbeginning⟩
    · exact .inl (exists_unpack_eq_error hstream hfault)
    · refine .inr ⟨ofList front, unpack_eq hstream hok, sound_ofList front, ?_⟩
      rw [hfront front hbeginning]
      exact hbeginning
  · obtain ⟨k, hk, hread⟩ := Tar.exists_take_eq_ok hpaths hfiles hblocks i
    refine ⟨k, hk, fun stream hstream => ⟨_, unpack_eq hstream (hread _ ?_), ?_⟩⟩
    · rw [List.length_take_of_le hk]
      exact Nat.lt_succ_self k
    · exact hfront _ (List.take_prefix i _)

/-- The archive of a tree with a short and a long path, cut off after a thousand bytes, which end in
the padding of the first file, and cut off where the first file is all that is left. -/
theorem FileTree.unpack_truncated_longPath :
    longPath.Sound ∧ (∀ f ∈ longPath.files, IsPortable f.path) ∧
    (∀ f ∈ longPath.files, f.Addressable) ∧
    ∃ blocks, longPath.pack Gzip.store = .ok (Gzip.store blocks) ∧
      Gzip.decompress (Gzip.store (blocks.take 1000)) = ⟨blocks.take 1000, true⟩ ∧
      ((∃ e, unpack (Gzip.store (blocks.take 1000)) = .error e) ∨
        ∃ front, unpack (Gzip.store (blocks.take 1000)) = .ok front ∧ front.Sound ∧
          front.files <+: longPath.files) ∧
      ∃ k front, unpack (Gzip.store (blocks.take k)) = .ok front ∧
        front.files = [⟨"shop/pom.xml", "<project/>\n"⟩] := by
  have hsound : longPath.Sound := sound_ofList _
  have hpaths : ∀ f ∈ longPath.files, IsPortable f.path := by decide
  have hfiles : ∀ f ∈ longPath.files, f.Addressable := by decide
  obtain ⟨blocks, -, hpack, hcut, hborder⟩ :=
    unpack_truncated Gzip.store longPath hsound hpaths hfiles
  obtain ⟨k, -, hfirst⟩ := hborder 1
  have hstream := Gzip.isCompression_store (blocks.take 1000)
  exact ⟨hsound, hpaths, hfiles, blocks, hpack, hstream, hcut 1000 _ hstream, k,
    hfirst _ (Gzip.isCompression_store _)⟩

end CrudScaffold
