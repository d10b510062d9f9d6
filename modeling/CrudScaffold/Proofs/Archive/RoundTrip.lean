import Mathlib.Algebra.Ring.Nat
import CrudScaffold.Archive.Basic
import CrudScaffold.Proofs.Archive.Gzip
import CrudScaffold.Proofs.Archive.Reader
import CrudScaffold.Proofs.Java.Source
import CrudScaffold.Proofs.Project.Escape
import CrudScaffold.Proofs.Project.Portable

/-!
# Packing and unpacking

A tree of files with portable paths can be packed, and its archive is read back as the same tree.
How the blocks of the archive are compressed does not matter, as long as the stream stands for them.
All paths of a project are portable, so this holds for whatever is generated.
-/

namespace CrudScaffold

namespace FileTree

variable {t : FileTree}

/-- A stream that stands for the blocks of a tree is read as the tree. -/
lemma unpack_of_decompress {blocks stream : Bytes} (ht : t.Sound)
    (hread : ∀ sound fuel, blocks.length ≤ fuel →
      Tar.filesFrom sound fuel {} blocks = .ok t.files)
    (hstream : Gzip.decompress stream = ⟨blocks, true⟩) : unpack stream = .ok t := by
  have hfiles : Tar.files (Gzip.decompress stream) = .ok t.files := by
    rw [hstream]
    exact hread true (blocks.length + 1) (Nat.le_succ _)
  simp only [unpack, hfiles, ht.ofList_files]

/-- A tree with portable paths can be packed, and streams for its blocks are read as the tree. -/
lemma exists_pack (ht : t.Sound) (hpaths : ∀ f ∈ t.files, IsPortable f.path) :
    ∃ blocks, Tar.blocksOf t.files = .ok blocks ∧
      (∀ compress : Bytes → Bytes, t.pack compress = .ok (compress blocks)) ∧
      ((∀ f ∈ t.files, f.Addressable) →
        ∀ stream, Gzip.decompress stream = ⟨blocks, true⟩ → unpack stream = .ok t) := by
  obtain ⟨blocks, hblocks, hread⟩ := Tar.exists_blocksOf hpaths
  refine ⟨blocks, hblocks, fun compress => by rw [pack, hblocks], fun hfiles stream hstream => ?_⟩
  exact unpack_of_decompress ht (hread hfiles) hstream

end FileTree

/-! ### Sizes of texts -/

/-- The bytes of a text of lines are counted line by line. -/
lemma Code.length_bytes_textOf (lines : List String) :
    (Text.bytes (textOf lines)).length =
      (lines.map fun line => (Text.bytes line).length + 1).sum := by
  induction lines with
  | nil => decide
  | cons line lines ih =>
    have hend : (Text.bytes "\n").length = 1 := by decide
    rw [textOf, List.map_cons, String.join_cons, Text.bytes_append, Text.bytes_append,
      List.length_append, List.length_append, hend, List.map_cons, List.sum_cons, ← ih]
    rfl

/-- A text of few short lines can be in memory. -/
lemma Code.addressable_render {code : List Code}
    (h : ((linesOf 0 code).map fun line => (Text.bytes line).length + 1).sum <
      Text.sizeLimit) : Text.Addressable (render code) := by
  rw [Text.Addressable, render_eq, length_bytes_textOf]
  exact h

/-! ### Two trees -/

/-- A tree with a short path and one of which a header holds all up to the `ñ` of its last word. -/
def FileTree.longPath : FileTree :=
  .ofList [⟨"shop/pom.xml", "<project/>\n"⟩,
    ⟨"shop/doc/gestión-de-pedidos-y-facturación-electrónica-para-pequeñas-y-medianas-compañías-españolas.md",
      "año\n"⟩]

/-- A diagram with one class. -/
def Snapshot.oneClass : Snapshot where
  classes := [{ id := "a", name := "Order" }]

/-- The files of a project with one class can be in memory. -/
lemma Snapshot.addressable_of_mem_oneClass {f : File} (h : f ∈ oneClass.files {} "Shop") :
    f.Addressable := by
  have hpaths : ∀ f ∈ oneClass.files {} "Shop",
      (Text.bytes f.path).length < Text.sizeLimit := by
    decide +kernel
  -- the search behind a replacement cannot be run here, so the escaped title is put in first
  have htitle : xmlEscape (oneClass.project {} "Shop").title = "Shop" := by
    rw [← String.toList_inj, toList_xmlEscape]
    decide +kernel
  have hproject : ∀ code ∈ [(oneClass.project {} "Shop").manifest,
      (oneClass.project {} "Shop").readme, (oneClass.project {} "Shop").runtimeSettings,
      (oneClass.project {} "Shop").application],
      ((Code.linesOf 0 code).map fun line => (Text.bytes line).length + 1).sum <
        Text.sizeLimit := by
    rw [Project.manifest, Project.manifestBody, htitle]
    decide +kernel
  have hclass : ∀ e ∈ oneClass.entities "shop", ∀ kind ∈ ArtifactKind.all,
      ((Code.linesOf 0 (kind.code e)).map fun line => (Text.bytes line).length + 1).sum <
        Text.sizeLimit := by
    decide +kernel
  have hpackage : (Layout.ofName "Shop").package = "shop" := by rw [Layout.ofName_shop]
  refine ⟨hpaths f h, ?_⟩
  rcases List.mem_append.mp h with hf | hf
  · simp only [Project.ownFiles, List.mem_cons, List.not_mem_nil, or_false] at hf
    rcases hf with rfl | rfl | rfl | rfl <;>
      exact Code.addressable_render (hproject _ (by simp))
  · obtain ⟨e, he, hfile⟩ := List.mem_flatMap.mp hf
    obtain ⟨kind, hkind, rfl⟩ := List.mem_map.mp hfile
    exact Code.addressable_render (hclass e (hpackage ▸ he) kind hkind)

/-! ### Archives -/

/-- **Archives keep their files.** A tree of files with portable paths is packed into an archive,
and if its files can be in memory, the archive is read back as the tree, and so is every other
stream that stands for the same blocks. A project that is generated from a diagram with classes
has an archive, and if its files can be in memory, that archive is read back as the tree of the
project. -/
theorem FileTree.unpack_pack {compress : Bytes → Bytes} (hcompress : Gzip.IsCompression compress) :
    (∀ t : FileTree, t.Sound → (∀ f ∈ t.files, IsPortable f.path) →
      ∃ blocks, Tar.blocksOf t.files = .ok blocks ∧ t.pack compress = .ok (compress blocks) ∧
        ((∀ f ∈ t.files, f.Addressable) →
          unpack (compress blocks) = .ok t ∧
          ∀ stream, Gzip.decompress stream = ⟨blocks, true⟩ → unpack stream = .ok t)) ∧
    ∀ (s : Snapshot) (config : Config) (name : String), s.isEmpty = false →
      ∃ tree archive, generate s config name = .ok tree ∧
        generateArchive compress s config name = .ok archive ∧
        ((∀ f ∈ tree.files, f.Addressable) → unpack archive.bytes = .ok tree) := by
  refine ⟨fun t ht hpaths => ?_, fun s config name hs => ?_⟩
  · obtain ⟨blocks, hblocks, hpack, hunpack⟩ := exists_pack ht hpaths
    exact ⟨blocks, hblocks, hpack compress, fun hfiles =>
      ⟨hunpack hfiles _ (hcompress blocks), hunpack hfiles⟩⟩
  · have hgenerate := Snapshot.generate_eq config name hs
    have hpaths : ∀ f ∈ (ofList (s.files config name)).files, IsPortable f.path :=
      fun f hf => Snapshot.isPortable_of_mem_paths (List.mem_map_of_mem hf)
    obtain ⟨blocks, -, hpack, hunpack⟩ := exists_pack (sound_ofList _) hpaths
    refine ⟨_, ⟨(Layout.ofName name).archiveName, compress blocks⟩, hgenerate, ?_,
      fun hfiles => hunpack hfiles _ (hcompress blocks)⟩
    simp only [generateArchive, hgenerate, hpack]

/-- Both trees are read back from their archives. -/
theorem FileTree.unpack_pack_longPath :
    longPath.Sound ∧ (∀ f ∈ longPath.files, IsPortable f.path) ∧
    (∀ f ∈ longPath.files, f.Addressable) ∧
    (∃ bytes, longPath.pack Gzip.store = .ok bytes ∧ unpack bytes = .ok longPath) ∧
    Snapshot.oneClass.isEmpty = false ∧
    ∃ tree archive, generate Snapshot.oneClass {} "Shop" = .ok tree ∧
      (∀ f ∈ tree.files, f.Addressable) ∧
      generateArchive Gzip.store Snapshot.oneClass {} "Shop" = .ok archive ∧
      unpack archive.bytes = .ok tree := by
  have hsound : longPath.Sound := sound_ofList _
  have hpaths : ∀ f ∈ longPath.files, IsPortable f.path := by decide
  have hfiles : ∀ f ∈ longPath.files, f.Addressable := by decide
  have hs : Snapshot.oneClass.isEmpty = false := rfl
  obtain ⟨blocks, -, hpack, hunpack⟩ :=
    (unpack_pack Gzip.isCompression_store).1 longPath hsound hpaths
  obtain ⟨tree, archive, hgenerate, harchive, hread⟩ :=
    (unpack_pack Gzip.isCompression_store).2 Snapshot.oneClass {} "Shop" hs
  have htree : ∀ f ∈ tree.files, f.Addressable := by
    intro f hf
    have hlist := Snapshot.generate_eq {} "Shop" hs
    rw [Except.ok.inj (hgenerate.symm.trans hlist)] at hf
    exact Snapshot.addressable_of_mem_oneClass (mem_of_mem_files_ofList hf)
  exact ⟨hsound, hpaths, hfiles, ⟨_, hpack, (hunpack hfiles).1⟩, hs, tree, archive, hgenerate, htree,
    harchive, hread htree⟩

end CrudScaffold
