import ChannelLedger.Ledger.Directory
import ChannelLedger.Proofs.Walk.Chain
import ChannelLedger.Proofs.Wire.RoundTrip

/-!
# Files and memory hold the same ledger

Of several blocks with one number an index keeps the one that was inserted last, and a directory the one
that was written last, since both have one file. `Directory.Keeps` says that the files of a directory are
those of the blocks that count; writing keeps it (`Directory.Keeps.write`). The files are read in the order of their
names, which need not be that of the numbers, let alone that of the writing, but no two of them have one
number, so the order does not matter: the blocks that are read are those that count
(`Directory.Keeps.latest?_of_mem`).

An index answers from the blocks that count alone, as long as hashes do not collide
(`BlockIndex.Reflects.answers_eq`).

Main theorem `DirectoryLedger.open?_written`.
-/
namespace ChannelLedger

open Wire Outcome

/-! ## Names of files -/

namespace Block

/-- The digits of a block's file name. -/
def fileDigits (number : UInt64) : List Char :=
  List.replicate (8 - (Nat.toDigits 10 number.toNat).length) '0' ++ Nat.toDigits 10 number.toNat

theorem toList_fileName (block : Block) :
    block.fileName.toList = fileDigits block.number ++ '.' :: Directory.blockExtension.toList := by
  have hdigits : toString block.number = String.ofList (Nat.toDigits 10 block.number.toNat) :=
    Nat.toString_eq_ofList_toDigits
  unfold fileName fileDigits
  simp [hdigits]

theorem fileDigits_injective : Function.Injective fileDigits := by
  intro a b h
  have hvalue (number : UInt64) : Nat.ofDigitChars 10 (fileDigits number) 0 = number.toNat := by
    rw [fileDigits, Nat.ofDigitChars_append, Nat.ofDigitChars_replicate_zero, Nat.mul_zero,
      Nat.ofDigitChars_ten_toDigits]
  rw [← UInt64.toNat_inj, ← hvalue, ← hvalue, h]

/-- A file name says the number of its block. -/
theorem fileName_inj {a b : Block} : a.fileName = b.fileName ↔ a.number = b.number := by
  constructor
  · intro h
    have hlist := congrArg String.toList h
    rw [toList_fileName, toList_fileName] at hlist
    exact fileDigits_injective (List.append_cancel_right hlist)
  · intro h
    rw [fileName, fileName, h]

/-- A block is written where blocks are looked for. -/
theorem isBlockFile_fileName (block : Block) (content : Bytes) :
    Directory.isBlockFile (block.fileName, .file content) = true := by
  obtain ⟨digit, digits, hdigits⟩ : ∃ digit digits, (fileDigits block.number).reverse = digit :: digits := by
    refine List.exists_cons_of_ne_nil ?_
    simp [fileDigits, Nat.toDigits_ne_nil]
  have hreverse : block.fileName.toList.reverse
      = Directory.blockExtension.toList.reverse ++ '.' :: digit :: digits := by
    rw [toList_fileName, List.reverse_append, List.reverse_cons, hdigits, List.append_assoc]
    rfl
  have hspan : block.fileName.toList.reverse.span (· ≠ '.')
      = (Directory.blockExtension.toList.reverse, '.' :: digit :: digits) := by
    have hletters : ∀ c ∈ Directory.blockExtension.toList.reverse, decide (c ≠ '.') = true := by
      simp [Directory.blockExtension]
    rw [hreverse, List.span_eq_takeWhile_dropWhile, List.takeWhile_append_of_pos hletters,
      List.dropWhile_append_of_pos hletters]
    simp
  have hextension : Directory.extension? block.fileName = some Directory.blockExtension := by
    unfold Directory.extension?
    rw [hspan]
    simp
  simp only [Directory.isBlockFile, hextension, decide_true]

end Block

/-- The files that are read are those whose names say that they hold a block. -/
theorem Directory.mem_blockFiles {directory : Directory} {name : String} {content : Bytes} :
    (name, content) ∈ directory.blockFiles ↔
      (name, .file content) ∈ directory ∧ isBlockFile (name, .file content) = true := by
  unfold blockFiles sorted
  rw [List.mem_filterMap]
  constructor
  · rintro ⟨⟨name', entry⟩, hmem, hentry⟩
    cases entry with
    | directory => cases hentry
    | file content' =>
      dsimp only at hentry
      split at hentry
      case isTrue hfile =>
        cases hentry
        exact ⟨List.mem_mergeSort.1 hmem, hfile⟩
      case isFalse => cases hentry
  · rintro ⟨hmem, hfile⟩
    exact ⟨_, List.mem_mergeSort.2 hmem, if_pos hfile⟩

/-! ## What a directory keeps -/

/-- The files of a directory are those of the blocks that count, each under its number. -/
structure Directory.Keeps (blocks : List Block) (directory : Directory) : Prop where
  numbered : ∀ block ∈ blocks, block.isNumbered block.number = true
  entries : ∀ entry, entry ∈ directory ↔ ∃ block, Block.latest? blocks block.number = some block ∧
    entry = (block.fileName, .file (Message.encode block))

theorem Block.isNumbered_eq {block : Block} (h : block.isNumbered block.number = true) (number : UInt64) :
    block.isNumbered number = decide (block.number = number) := by
  unfold isNumbered Block.number at *
  cases hheader : block.header with
  | none => simp [hheader] at h
  | some header => simp

namespace Directory.Keeps

variable {blocks : List Block} {directory : Directory}

theorem nil : Keeps [] [] where
  numbered := by simp
  entries := by simp [Block.latest?]

/-- What counts under a number has that number. -/
theorem number_of_latest? (h : Keeps blocks directory) {number : UInt64} {block : Block}
    (hlatest : Block.latest? blocks number = some block) : block.number = number := by
  have hnumbered := List.find?_some hlatest
  rw [Block.isNumbered_eq (h.numbered block (Block.mem_of_latest? hlatest))] at hnumbered
  exact of_decide_eq_true hnumbered

/-- One more file takes the place of the one of its number. -/
theorem write (h : Keeps blocks directory) {block : Block} (hblock : block.isNumbered block.number = true) :
    ∃ directory', block.writeTo (some directory) = .ok directory' ∧ Keeps (blocks ++ [block]) directory' := by
  have hwrite : block.writeTo (some directory)
      = .ok (Directory.write directory block.fileName (Message.encode block)) := by
    unfold Block.writeTo Directory.find?
    cases hfind : directory.lookup block.fileName with
    | none => simp only [hfind]
    | some entry =>
      obtain ⟨front, behind, heq, -⟩ := List.lookup_eq_some_iff.1 hfind
      have hmem : (block.fileName, entry) ∈ directory := heq ▸ List.mem_append_right front List.mem_cons_self
      obtain ⟨other, -, hother⟩ := (h.entries _).1 hmem
      obtain ⟨-, rfl⟩ := Prod.mk.inj hother
      simp only [hfind]
  refine ⟨_, hwrite, ?_, fun entry => ?_⟩
  · intro other hother
    rcases List.mem_append.1 hother with hother | hother
    · exact h.numbered other hother
    · rwa [List.mem_singleton.1 hother]
  · simp only [Directory.write, List.mem_append, List.mem_filter, List.mem_singleton, h.entries,
      Block.latest?_concat, Block.isNumbered_eq hblock, decide_eq_true_eq]
    constructor
    · rintro (⟨⟨other, hlatest, rfl⟩, hname⟩ | rfl)
      · have hnumber : ¬ block.number = other.number := fun heq => hname (Block.fileName_inj.2 heq.symm)
        exact ⟨other, by rw [if_neg hnumber, hlatest], rfl⟩
      · exact ⟨block, if_pos rfl, rfl⟩
    · rintro ⟨other, hlatest, rfl⟩
      by_cases hnumber : block.number = other.number
      · rw [if_pos hnumber, Option.some.injEq] at hlatest
        exact .inr (by rw [hlatest])
      · rw [if_neg hnumber] at hlatest
        exact .inl ⟨⟨other, hlatest, rfl⟩, fun heq => hnumber (Block.fileName_inj.1 heq).symm⟩

/-- Blocks that are written one after the other, each over the one of its number. -/
theorem writeAll (h : Keeps blocks directory) {others : List Block}
    (numbered : ∀ block ∈ others, block.isNumbered block.number = true) :
    ∃ directory', others.foldlM (fun directory block => block.writeTo (some directory)) directory = .ok directory' ∧
      Keeps (blocks ++ others) directory' := by
  induction others generalizing blocks directory with
  | nil => exact ⟨directory, rfl, by rwa [List.append_nil]⟩
  | cons block others ih =>
    obtain ⟨middle, hfirst, hmiddle⟩ := h.write (numbered block List.mem_cons_self)
    obtain ⟨last, hrest, hlast⟩ := ih hmiddle fun other hm => numbered other (List.mem_cons_of_mem block hm)
    refine ⟨last, ?_, by rwa [← List.append_cons] at hlast⟩
    rw [List.foldlM_cons, hfirst, ok_bind, hrest]

/-- Reading the directory gives the blocks that count, in some order. -/
theorem blocks_eq (h : Keeps blocks directory)
    (short : ∀ block ∈ blocks, (Message.encode block).length < 2 ^ 64) (path : String) :
    ∃ read, directory.blocks path = .ok read ∧
      ∀ block, block ∈ read ↔ Block.latest? blocks block.number = some block := by
  have hfiles (file : String × Bytes) : file ∈ directory.blockFiles ↔
      ∃ block, Block.latest? blocks block.number = some block ∧ file = (block.fileName, Message.encode block) := by
    obtain ⟨name, content⟩ := file
    rw [Directory.mem_blockFiles, h.entries]
    constructor
    · rintro ⟨⟨block, hlatest, heq⟩, -⟩
      obtain ⟨hname, hentry⟩ := Prod.mk.inj heq
      exact ⟨block, hlatest, Prod.mk.injEq .. ▸ ⟨hname, DirectoryEntry.file.inj hentry⟩⟩
    · rintro ⟨block, hlatest, heq⟩
      obtain ⟨rfl, rfl⟩ := Prod.mk.inj heq
      exact ⟨⟨block, hlatest, rfl⟩, block.isBlockFile_fileName _⟩
  let decodeFile (file : String × Bytes) : Except LedgerFailure Block :=
    (Message.decode file.2).mapError (.malformed (pathOf path file.1))
  have hdecode (block : Block) (hlatest : Block.latest? blocks block.number = some block) :
      decodeFile (block.fileName, Message.encode block) = .ok block := by
    have hshort := short block (Block.mem_of_latest? hlatest)
    simp only [decodeFile, Message.decode_encode (show Message.schema Block ∈ schemas by simp [schemas]) block hshort,
      mapError_ok]
  have hfile : ∀ file ∈ directory.blockFiles, ∃ block, decodeFile file = .ok block := by
    intro file hmem
    obtain ⟨block, hlatest, rfl⟩ := (hfiles file).1 hmem
    exact ⟨block, hdecode block hlatest⟩
  obtain ⟨read, hread, hmem⟩ := mapM_ok hfile
  refine ⟨read, hread, fun block => (hmem block).trans ⟨?_, fun hlatest => ?_⟩⟩
  · rintro ⟨file, hfile, hblock⟩
    obtain ⟨other, hlatest, rfl⟩ := (hfiles file).1 hfile
    obtain rfl := Except.ok.inj ((hdecode other hlatest).symm.trans hblock)
    exact hlatest
  · exact ⟨_, (hfiles _).2 ⟨block, hlatest, rfl⟩, hdecode block hlatest⟩

/-- Whatever the order in which they are read, the same blocks count. -/
theorem latest?_of_mem (h : Keeps blocks directory) {read : List Block}
    (hmem : ∀ block, block ∈ read ↔ Block.latest? blocks block.number = some block) (number : UInt64) :
    Block.latest? read number = Block.latest? blocks number := by
  have hread {block : Block} (hlatest : Block.latest? read number = some block) :
      Block.latest? blocks number = some block := by
    have hblock := (hmem block).1 (Block.mem_of_latest? hlatest)
    have hnumbered := List.find?_some hlatest
    rw [Block.isNumbered_eq (h.numbered block (Block.mem_of_latest? hblock))] at hnumbered
    rwa [of_decide_eq_true hnumbered] at hblock
  cases hblocks : Block.latest? blocks number with
  | none =>
    cases hlatest : Block.latest? read number with
    | none => rfl
    | some block => simp [hread hlatest] at hblocks
  | some block =>
    have hnumber := h.number_of_latest? hblocks
    have hnumbered := Block.isNumbered_eq (h.numbered block (Block.mem_of_latest? hblocks)) number
    have hin : block ∈ read.reverse := List.mem_reverse.2 ((hmem block).2 (hnumber.symm ▸ hblocks))
    obtain ⟨found, hfound⟩ := Option.isSome_iff_exists.1
      (List.find?_isSome.2 ⟨block, hin, hnumbered.trans (decide_eq_true hnumber)⟩)
    exact hfound.trans ((hread hfound).symm.trans hblocks)

end Directory.Keeps

/-! ## Answers of two indices -/

namespace BlockIndex.Reflects

variable {suite : HashSuite} {blocks blocks' : List Block} {index index' : BlockIndex}

/-- The block that is held under a number is held there by every index for which the same blocks count. -/
theorem mem_of_latest? (h : Reflects suite blocks index) (h' : Reflects suite blocks' index')
    (latest : ∀ number, Block.latest? blocks number = Block.latest? blocks' number) {stored : StoredBlock}
    (hm : stored ∈ index.blocks) : stored ∈ index'.blocks := by
  have hlatest := h.latest stored.number
  rw [h.find?_of_mem hm, latest] at hlatest
  obtain ⟨other, hother, hblock⟩ := h'.find?_of_latest hlatest.symm
  have hmem := mem_of_find? hother
  have hhash := h.hashed stored hm
  have hhash' := h'.hashed other hmem
  obtain ⟨block, header, hash, header_eq⟩ := stored
  obtain ⟨block', header', hash', header_eq'⟩ := other
  obtain rfl : block' = block := hblock
  obtain rfl : header' = header := Option.some.inj (header_eq'.symm.trans header_eq)
  obtain rfl : hash' = hash := hhash'.trans hhash.symm
  exact hmem

theorem blocks_eq (h : Reflects suite blocks index) (h' : Reflects suite blocks' index')
    (latest : ∀ number, Block.latest? blocks number = Block.latest? blocks' number) :
    index.blocks = index'.blocks := by
  have hirrefl : Std.Irrefl fun a b : StoredBlock => a.number < b.number := ⟨fun a => UInt64.lt_irrefl a.number⟩
  exact h.sorted.eq_of_mem_iff h'.sorted fun stored =>
    ⟨h.mem_of_latest? h' latest, h'.mem_of_latest? h fun number => (latest number).symm⟩

theorem block_hash_of_blocks_eq (h : Reflects suite blocks index) (h' : Reflects suite blocks' index')
    (free' : suite.CollisionFree (Block.headers blocks')) (heq : index.blocks = index'.blocks) {hash : Bytes}
    {block : Block} (hb : index.block (.hash hash) = .ok block) : index'.block (.hash hash) = .ok block := by
  obtain ⟨header, hheader, rfl, hnumber⟩ := h.block_hash_sound hb
  have hnumber' : index'.block (.number header.number) = .ok block := by
    rw [← hnumber, BlockIndex.block, BlockIndex.block, find?, find?, heq]
  exact h'.block_hash_complete free' hnumber' hheader

/-- **Without collisions an index answers from the blocks that count alone.** -/
theorem answers_eq (h : Reflects suite blocks index) (h' : Reflects suite blocks' index')
    (free : suite.CollisionFree (Block.headers blocks)) (free' : suite.CollisionFree (Block.headers blocks'))
    (heq : index.blocks = index'.blocks) : index.answers = index'.answers := by
  have htip : index.tip = index'.tip := by rw [tip, tip, heq]
  have hblock : index.block = index'.block := by
    funext ref
    cases ref with
    | number number => rw [BlockIndex.block, BlockIndex.block, find?, find?, heq]
    | hash hash =>
      rcases block_hash_cases index hash with ⟨block, hb⟩ | hb
      · rw [hb, h.block_hash_of_blocks_eq h' free' heq hb]
      · rcases block_hash_cases index' hash with ⟨block', hb'⟩ | hb'
        · rw [h'.block_hash_of_blocks_eq h free heq.symm hb', hb']
        · rw [hb, hb']
  rw [answers, answers, htip, hblock]

end BlockIndex.Reflects

/-! ## The two ledgers -/

theorem Block.isNumbered_of_header {block : Block} (h : block.header.isSome = true) :
    block.isNumbered block.number = true := by
  obtain ⟨header, hheader⟩ := Option.isSome_iff_exists.1 h
  simp [isNumbered, number, hheader]

/-- **A ledger that was written block by block and read from its directory is the ledger of those blocks.**
However often a number was written and in whatever order, writing and opening succeed, and every query
and every walk has the result that it has over the blocks in memory. -/
theorem DirectoryLedger.open?_written (suite : HashSuite) (path : String) (blocks : List Block)
    (numbered : ∀ block ∈ blocks, block.header.isSome = true)
    (short : ∀ block ∈ blocks, (Message.encode block).length < 2 ^ 64)
    (free : suite.CollisionFree (Block.headers blocks)) :
    ∃ directory ledger,
      blocks.foldlM (fun directory block => block.writeTo (some directory)) [] = .ok directory ∧
      open? suite path (some directory) = .ok ledger ∧
      let memory := BlockIndex.ofBlocks suite blocks
      ledger.index.tip = memory.tip ∧
      (∀ number, ledger.index.block (.number number) = memory.block (.number number)) ∧
      (∀ number, ledger.index.hash? number = memory.hash? number) ∧
      (∀ hash, ledger.index.block (.hash hash) = memory.block (.hash hash)) ∧
      (∀ rule, ledger.index.browse rule = memory.browse rule) ∧
      ∀ rule, ledger.index.browseByNumber suite rule = memory.browseByNumber suite rule := by
  obtain ⟨directory, hwritten, hkeeps⟩ := Directory.Keeps.nil.writeAll fun block hm =>
    Block.isNumbered_of_header (numbered block hm)
  rw [List.nil_append] at hkeeps
  obtain ⟨read, hread, hmem⟩ := hkeeps.blocks_eq short path
  have latest := hkeeps.latest?_of_mem hmem
  have hfiles := BlockIndex.reflects_ofBlocks suite read
  have hmemory := BlockIndex.reflects_ofBlocks suite blocks
  have free' : suite.CollisionFree (Block.headers read) :=
    HashChain.free_of_subset (fun block hm => Block.mem_of_latest? ((hmem block).1 hm)) free
  have heq := hfiles.blocks_eq hmemory latest
  have hanswers := hfiles.answers_eq hmemory free' free heq
  have hsize : (BlockIndex.ofBlocks suite read).size = (BlockIndex.ofBlocks suite blocks).size := by
    rw [BlockIndex.size, BlockIndex.size, heq]
  have hblock (ref : BlockRef) := congrFun (congrArg Answers.block hanswers) ref
  refine ⟨directory, ⟨path, .ofBlocks suite read⟩, hwritten, by rw [open?, hread]; rfl,
    congrArg Answers.tip hanswers, fun number => hblock (.number number), fun number => ?_,
    fun hash => hblock (.hash hash), fun rule => ?_, fun rule => ?_⟩
  · rw [hfiles.hash?_eq, hmemory.hash?_eq, latest]
  · rw [BlockIndex.browse, BlockIndex.browse, hanswers, hsize]
  · rw [BlockIndex.browseByNumber, BlockIndex.browseByNumber, hanswers]

/-- Block 100000000, whose file comes in front of that of block 20000000, and block 5, written twice. -/
theorem DirectoryLedger.open?_written_twice :
    let blocks : List Block := [⟨some ⟨100000000, [1], []⟩, some ⟨[[7]]⟩, none⟩, ⟨some ⟨5, [2], []⟩, none, none⟩,
      ⟨some ⟨20000000, [], []⟩, some ⟨[]⟩, none⟩, ⟨some ⟨5, [3], []⟩, some ⟨[]⟩, some ⟨[[], [8]]⟩⟩]
    ∃ directory ledger,
      blocks.foldlM (fun directory block => block.writeTo (some directory)) [] = .ok directory ∧
      open? .verbatim "ledger" (some directory) = .ok ledger ∧
      ledger.index.block (.number 5) = .ok ⟨some ⟨5, [3], []⟩, some ⟨[]⟩, some ⟨[[], [8]]⟩⟩ ∧
      ledger.index.tip = .ok ⟨100000001, BlockHeader.hash .verbatim ⟨100000000, [1], []⟩, [1]⟩ := by
  intro blocks
  obtain ⟨directory, ledger, hwritten, hopen, htip, hnumber, -⟩ := open?_written .verbatim "ledger" blocks
    (by decide) (by decide +kernel) (by decide)
  exact ⟨directory, ledger, hwritten, hopen, (hnumber 5).trans (by rfl), htip.trans (by rfl)⟩

end ChannelLedger
