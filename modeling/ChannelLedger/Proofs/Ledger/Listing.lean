import ChannelLedger.Proofs.Ledger.Files
import Mathlib.Data.List.Dedup
import Mathlib.Data.String.Basic

/-!
# A directory is its block files

A directory lists its entries in some order and may hold anything besides blocks. What is opened depends on
neither: the files that count are those whose names say so (`Directory.mem_blockFiles_iff`), they are taken in
the order of their names, and as the names differ there is one such order (`Directory.InOrder.unique`). The
first of them that does not decode is what opening fails with; if all decode, their blocks are inserted one
after the other, so a later file takes the number from an earlier one and the ledger holds as many blocks as
there are different numbers (`BlockIndex.Reflects.size_eq`).

Main theorem `DirectoryLedger.open?_in_order`.
-/
namespace ChannelLedger

open Wire Outcome

namespace Directory

/-! ## Names of block files -/

/-- The name of a block file ends in the extension, with something in front of the dot. -/
def NamesBlock (name : String) : Prop :=
  ∃ stem, stem ≠ "" ∧ name = stem ++ "." ++ blockExtension

/-- What stands in front of the first dot, and what behind it. -/
theorem span_eq_iff {cs front behind : List Char} {c : Char} :
    cs.span (· ≠ '.') = (front, c :: behind) ↔ '.' ∉ front ∧ c = '.' ∧ cs = front ++ '.' :: behind := by
  rw [List.span_eq_takeWhile_dropWhile, Prod.mk.injEq]
  constructor
  · rintro ⟨rfl, hdrop⟩
    have hc : c = '.' := by
      have hhead := List.head?_dropWhile_not (fun c => decide (c ≠ '.')) cs
      rw [hdrop] at hhead
      simpa using hhead
    have happend := List.takeWhile_append_dropWhile (p := fun c => decide (c ≠ '.')) (l := cs)
    rw [hdrop, hc] at happend
    refine ⟨fun hmem => ?_, hc, happend.symm⟩
    have hkept := List.mem_takeWhile_imp hmem
    simp at hkept
  · rintro ⟨hfront, rfl, rfl⟩
    have hkept : ∀ c ∈ front, decide (c ≠ '.') = true := by
      intro c hc
      have hne : c ≠ '.' := fun heq => hfront (heq ▸ hc)
      simpa using hne
    rw [List.takeWhile_append_of_pos hkept, List.dropWhile_append_of_pos hkept]
    simp

theorem extension?_eq_block {name : String} : extension? name = some blockExtension ↔ NamesBlock name := by
  unfold extension? NamesBlock
  constructor
  · intro h
    split at h
    case h_1 suffix dot last front hspan =>
      obtain ⟨-, rfl, hname⟩ := span_eq_iff.1 hspan
      have hsuffix : suffix.reverse = blockExtension.toList := by
        rw [← String.toList_ofList (l := suffix.reverse), Option.some.inj h]
      refine ⟨String.ofList (last :: front).reverse, ?_, ?_⟩
      · intro hempty
        have hlist := congrArg String.toList hempty
        simp at hlist
      · have hlist := congrArg List.reverse hname
        rw [List.reverse_reverse, List.reverse_append, hsuffix] at hlist
        rw [← String.toList_inj, hlist]
        simp
    case h_2 => cases h
  · rintro ⟨stem, hstem, rfl⟩
    obtain ⟨last, front, hlast⟩ : ∃ last front, stem.toList.reverse = last :: front := by
      refine List.exists_cons_of_ne_nil fun hempty => hstem ?_
      rw [← String.toList_inj]
      simpa using hempty
    have hname : (stem ++ "." ++ blockExtension).toList.reverse
        = blockExtension.toList.reverse ++ '.' :: last :: front := by
      rw [← hlast]
      simp
    have hspan := span_eq_iff.2 ⟨by decide, rfl, hname⟩
    rw [hspan]
    simp

/-- **The files that are taken for blocks are those whose names end in the extension.** -/
theorem mem_blockFiles_iff {directory : Directory} {name : String} {content : Bytes} :
    (name, content) ∈ directory.blockFiles ↔ (name, .file content) ∈ directory ∧ NamesBlock name := by
  rw [mem_blockFiles, ← extension?_eq_block]
  simp [isBlockFile]

/-! ## The order in which files are read -/

/-- The block files of a directory in the order of their names. -/
structure InOrder (directory : Directory) (files : List (String × Bytes)) : Prop where
  ordered : files.Pairwise (·.1 < ·.1)
  complete : ∀ name content,
    (name, content) ∈ files ↔ (name, .file content) ∈ directory ∧ NamesBlock name

/-- There is one such order. -/
theorem InOrder.unique {directory : Directory} {files files' : List (String × Bytes)}
    (h : InOrder directory files) (h' : InOrder directory files') : files = files' := by
  have hirrefl : Std.Irrefl fun a b : String × Bytes => a.1 < b.1 := ⟨fun a => String.lt_irrefl a.1⟩
  refine h.ordered.eq_of_mem_iff h'.ordered fun file => ?_
  rw [h.complete, h'.complete]

/-- Where every name stands for one entry, the files that are read stand in that order. -/
theorem inOrder_blockFiles {directory : Directory} (distinct : (directory.map (·.1)).Nodup) :
    InOrder directory directory.blockFiles where
  ordered := by
    have hsorted : directory.sorted.Pairwise fun a b => (!decide (b.1 < a.1)) = true := by
      refine List.pairwise_mergeSort (fun a b c hab hbc => ?_) (fun a b => ?_) directory
      · simp only [Bool.not_eq_true', decide_eq_false_iff_not, not_lt] at hab hbc ⊢
        exact hab.trans hbc
      · simp only [Bool.or_eq_true, Bool.not_eq_true', decide_eq_false_iff_not, not_lt]
        exact le_total a.1 b.1
    have hdistinct : (directory.sorted.map (·.1)).Nodup :=
      ((List.mergeSort_perm directory _).map (·.1)).nodup_iff.2 distinct
    have hnames : directory.sorted.Pairwise (·.1 < ·.1) := by
      refine (hsorted.and (List.pairwise_map.1 hdistinct)).imp fun {a b} hab => ?_
      simp only [Bool.not_eq_true', decide_eq_false_iff_not, not_lt] at hab
      exact lt_of_le_of_ne hab.1 hab.2
    refine hnames.filterMap _ fun a b hab file hfile file' hfile' => ?_
    -- what is kept of an entry has the entry's name
    obtain ⟨name, content | _⟩ := a
    case directory => cases hfile
    obtain ⟨name', content' | _⟩ := b
    case directory => cases hfile'
    obtain ⟨-, hfile⟩ := Option.ite_none_right_eq_some.1 hfile
    obtain ⟨-, hfile'⟩ := Option.ite_none_right_eq_some.1 hfile'
    cases hfile
    cases hfile'
    exact hab
  complete _ _ := mem_blockFiles_iff

end Directory

/-! ## How many blocks there are -/

namespace BlockIndex.Reflects

variable {suite : HashSuite} {blocks : List Block} {index : BlockIndex}

/-- A number leads to a block once a block was inserted with it. -/
theorem mem_numbers (h : Reflects suite blocks index) {number : UInt64} :
    number ∈ index.blocks.map (·.number) ↔ number ∈ (Block.headers blocks).map (·.number) := by
  constructor
  · intro hmem
    obtain ⟨stored, hstored, rfl⟩ := List.mem_map.1 hmem
    exact List.mem_map.2 ⟨stored.header, h.mem_headers (h.find?_of_mem hstored), rfl⟩
  · intro hmem
    obtain ⟨header, hheader, rfl⟩ := List.mem_map.1 hmem
    obtain ⟨block, hblock, heq⟩ := List.mem_filterMap.1 hheader
    have hnumbered : block.isNumbered header.number = true := by simp [Block.isNumbered, heq]
    obtain ⟨found, hfound⟩ : ∃ found, Block.latest? blocks header.number = some found :=
      Option.isSome_iff_exists.1 (List.find?_isSome.2 ⟨block, List.mem_reverse.2 hblock, hnumbered⟩)
    obtain ⟨stored, hstored, -⟩ := h.find?_of_latest hfound
    exact List.mem_map.2 ⟨stored, mem_of_find? hstored, number_of_find? hstored⟩

/-- **An index holds as many blocks as different numbers were inserted.** -/
theorem size_eq (h : Reflects suite blocks index) :
    index.size = ((Block.headers blocks).map (·.number)).dedup.length := by
  have hnodup : (index.blocks.map (·.number)).Nodup :=
    List.pairwise_map.2 (h.sorted.imp fun {a b} hlt => UInt64.ne_of_lt hlt)
  have hperm : (index.blocks.map (·.number)).Perm ((Block.headers blocks).map (·.number)).dedup := by
    refine (List.perm_ext_iff_of_nodup hnodup (List.nodup_dedup _)).2 fun number => ?_
    rw [h.mem_numbers, List.mem_dedup]
  rw [size, ← hperm.length_eq, List.length_map]

end BlockIndex.Reflects

/-! ## Opening -/

/-- The block in a file. -/
def Directory.blockOf (path : String) (file : String × Bytes) : Except LedgerFailure Block :=
  (Message.decode file.2).mapError (.malformed (pathOf path file.1))

theorem DirectoryLedger.open?_eq_mapM (suite : HashSuite) (path : String) (directory : Directory) :
    open? suite path (some directory) =
      (directory.blockFiles.mapM (Directory.blockOf path)).map fun blocks => ⟨path, .ofBlocks suite blocks⟩ := by
  have hblocks : directory.blocks path = directory.blockFiles.mapM (Directory.blockOf path) := rfl
  simp only [open?, hblocks]
  cases directory.blockFiles.mapM (Directory.blockOf path) <;> rfl

/-- **A directory is opened by its block files, in the order of their names.** Either the first of them
that is no block is reported, or the ledger is that of their blocks in memory, where the last file with a
number has it. Neither how the directory is listed nor what else it holds makes a difference. -/
theorem DirectoryLedger.open?_in_order (suite : HashSuite) (path : String) (directory : Directory)
    (distinct : (directory.map (·.1)).Nodup) :
    ∃ files, directory.InOrder files ∧
      ((∃ front name content behind fault, files = front ++ (name, content) :: behind ∧
          (∀ file ∈ front, ∃ block : Block, Message.decode file.2 = .ok block) ∧
          Message.decode (α := Block) content = .error fault ∧
          open? suite path (some directory) = .error (.malformed (Directory.pathOf path name) fault)) ∨
        ∃ blocks, List.Forall₂ (fun file block => Message.decode file.2 = .ok block) files blocks ∧
          let memory := BlockIndex.ofBlocks suite blocks
          open? suite path (some directory) = .ok ⟨path, memory⟩ ∧
          (∀ number block, memory.block (.number number) = .ok block ↔
            Block.latest? blocks number = some block) ∧
          memory.size = ((Block.headers blocks).map (·.number)).dedup.length) ∧
      ∀ other : Directory, (other.map (·.1)).Nodup →
        (∀ name content, Directory.NamesBlock name →
          ((name, .file content) ∈ other ↔ (name, .file content) ∈ directory)) →
        open? suite path (some other) = open? suite path (some directory) := by
  have horder := Directory.inOrder_blockFiles distinct
  refine ⟨directory.blockFiles, horder, ?_, fun other hother hsame => ?_⟩
  · rw [open?_eq_mapM]
    rcases mapM_cases (Directory.blockOf path) directory.blockFiles with
      ⟨blocks, hall, heq⟩ | ⟨front, ⟨name, content⟩, behind, failure, hfiles, hfront, hfile, heq⟩
    · refine .inr ⟨blocks, hall.imp fun {file block} h => mapError_eq_ok.1 h, by rw [heq]; rfl, ?_, ?_⟩
      · intro number block
        exact (BlockIndex.reflects_ofBlocks suite blocks).block_number_ok
      · exact (BlockIndex.reflects_ofBlocks suite blocks).size_eq
    · obtain ⟨fault, hfault, rfl⟩ := mapError_eq_error.1 hfile
      refine .inl ⟨front, name, content, behind, fault, hfiles, fun file hmem => ?_, hfault, by rw [heq]; rfl⟩
      obtain ⟨block, hblock⟩ := hfront file hmem
      exact ⟨block, mapError_eq_ok.1 hblock⟩
  · have hfiles : other.blockFiles = directory.blockFiles := by
      have hothers : directory.InOrder other.blockFiles := by
        refine ⟨(Directory.inOrder_blockFiles hother).ordered, fun name content => ?_⟩
        rw [Directory.mem_blockFiles_iff]
        exact and_congr_left fun hname => hsame name content hname
      exact hothers.unique horder
    rw [open?_eq_mapM, open?_eq_mapM, hfiles]

/-- Two files with one number, listed in two orders among entries that do not count. -/
theorem DirectoryLedger.open?_in_order_twice :
    let first : Block := ⟨some ⟨7, [1], []⟩, none, none⟩
    let second : Block := ⟨some ⟨7, [2], []⟩, some ⟨[]⟩, none⟩
    let files : List (String × DirectoryEntry) :=
      [("b.block", .file (Message.encode second)), ("a.block", .file (Message.encode first))]
    let directory := files ++ [("sub.block", .directory), (".block", .file [0xff])]
    let other := ("notes.txt", .file [0xff]) :: files.reverse
    (directory.map (·.1)).Nodup ∧ (other.map (·.1)).Nodup ∧
    ∃ ledger, open? .verbatim "ledger" (some directory) = .ok ledger ∧
      open? .verbatim "ledger" (some other) = .ok ledger ∧
      ledger.index.block (.number 7) = .ok second ∧ ledger.index.size = 1 := by
  intro first second files directory other
  have hdistinct : (directory.map (·.1)).Nodup := by decide
  have hdistinct' : (other.map (·.1)).Nodup := by decide
  refine ⟨hdistinct, hdistinct', ?_⟩
  obtain ⟨read, horder, houtcome, hothers⟩ := open?_in_order .verbatim "ledger" directory hdistinct
  have hread : read = [("a.block", Message.encode first), ("b.block", Message.encode second)] := by
    refine horder.unique ⟨by decide, fun name content => ?_⟩
    rw [← Directory.extension?_eq_block]
    constructor
    · intro hmem
      rcases List.mem_pair.1 hmem with heq | heq <;> obtain ⟨rfl, rfl⟩ := Prod.mk.inj heq
      · exact ⟨by simp [directory, files], by decide⟩
      · exact ⟨by simp [directory, files], by decide⟩
    · rintro ⟨hmem, hname⟩
      have hdot : name ≠ ".block" := by
        rintro rfl
        exact absurd hname (by decide)
      simpa [directory, files, hdot, or_comm] using hmem
  have hfirst : Message.decode (Message.encode first) = .ok first := by rfl
  have hsecond : Message.decode (Message.encode second) = .ok second := by rfl
  have hopen : open? .verbatim "ledger" (some other) = open? .verbatim "ledger" (some directory) := by
    refine hothers other hdistinct' fun name content hname => ?_
    have hdot : name ≠ ".block" ∧ name ≠ "notes.txt" := by
      rw [← Directory.extension?_eq_block] at hname
      constructor <;> rintro rfl <;> exact absurd hname (by decide)
    simp [directory, other, files, hdot, or_comm]
  rcases houtcome with ⟨front, name, content, behind, fault, hfiles, -, hfault, -⟩ |
    ⟨blocks, hall, hledger, hnumber, hsize⟩
  · have hmem : (name, content) ∈ read := hfiles ▸ List.mem_append_right front List.mem_cons_self
    rw [hread] at hmem
    rcases List.mem_pair.1 hmem with heq | heq <;> obtain ⟨rfl, rfl⟩ := Prod.mk.inj heq
    · cases hfirst.symm.trans hfault
    · cases hsecond.symm.trans hfault
  · obtain rfl : blocks = [first, second] := by
      rw [hread] at hall
      cases hall with
      | cons ha hall =>
        cases hall with
        | cons hb hall =>
          cases hall
          cases hfirst.symm.trans ha
          cases hsecond.symm.trans hb
          rfl
    exact ⟨_, hledger, hopen.trans hledger, (hnumber 7 second).2 (by rfl), hsize.trans (by rfl)⟩

end ChannelLedger
