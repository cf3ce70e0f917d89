import ChannelLedger.Proofs.Block.DataHash
import ChannelLedger.Proofs.Ledger.Index

/-!
# The line that says a block links back

An inspection prints what it finds of the link among many other lines, some of which carry texts of the
slots. A line is what is printed at once, whatever these texts are, and all of the others begin in another
way, in front of the mark, with the mark or with the word behind it (`strays`). So the line stands in the
output only if the inspection found the link to hold.

Main theorem `reportsLink_iff`.
-/
namespace ChannelLedger.Inspect

/-! ## The verdict -/

/-- The characters that a line begins with if it says that a block links back. -/
def linkOpening : List Char := [' ', ' ', '✅', ' ', 'B']

/-- Whether a line begins in another way. -/
def strays (line : String) : Bool :=
  (line.toList.zip linkOpening).any fun (c, expected) => c ≠ expected

theorem zip_append_any {α : Type} (p : α × α → Bool) {a : List α} (b : List α) {opening : List α}
    (h : (a.zip opening).any p = true) : ((a ++ b).zip opening).any p = true := by
  induction a generalizing opening with
  | nil => simp at h
  | cons c a ih =>
    cases opening with
    | nil => simp at h
    | cons expected opening =>
      simp only [List.cons_append, List.zip_cons_cons, List.any_cons, Bool.or_eq_true] at h ⊢
      exact h.imp_right ih

/-- What begins with a text that strays, strays. -/
theorem strays_append {a : String} (h : strays a = true) (b : String) : strays (a ++ b) = true := by
  rw [strays, String.toList_append]
  exact zip_append_any _ _ h

/-- What strays, or is empty, is not the verdict that a block links back. -/
theorem ne_linked {line : String} (h : line = "" ∨ strays line = true) (next : UInt64) :
    line ≠ LinkVerdict.linked.text next := by
  have hlist : "  ✅ Block ".toList = [' ', ' ', '✅', ' ', 'B', 'l', 'o', 'c', 'k', ' '] := by simp
  change line ≠ "  ✅ Block " ++ toString next ++ " links back to this header"
  rw [String.append_assoc]
  rintro rfl
  rcases h with h | h
  · simpa [hlist] using congrArg String.toList h
  · rw [strays, String.toList_append, hlist] at h
    cases h

/-- What is found of a link is told in a line of its own. -/
theorem linkVerdict_text_inj {verdict : LinkVerdict} {next : UInt64}
    (h : verdict.text next = LinkVerdict.linked.text next) : verdict = .linked := by
  cases verdict with
  | linked => rfl
  | broken link =>
    have hstrays : strays (LinkVerdict.text next (.broken link)) = true := by
      change strays ("  ❌ Block " ++ toString next ++ " previous hash " ++ Bytes.toHex link ++ " does not match") =
        true
      repeat' apply strays_append
      simp [strays, linkOpening]
    exact absurd h (ne_linked (.inr hstrays) next)
  | unchecked =>
    have hstrays : strays (LinkVerdict.text next .unchecked) = true := by
      change strays ("  ℹ️  No block " ++ toString next ++ " to check the link against") = true
      repeat' apply strays_append
      simp [strays, linkOpening]
    exact absurd h (ne_linked (.inr hstrays) next)

/-! ## The other lines -/

theorem creatorLines_stray (suite : HashSuite) (idBytes : Bytes) :
    ∀ line ∈ creatorLines suite idBytes, strays line = true := by
  intro line hm
  unfold creatorLines at hm
  split at hm
  · rw [List.mem_singleton.1 hm]
    exact strays_append (by simp [strays, linkOpening]) _
  · rcases List.mem_pair.1 hm with rfl | rfl
    · split
      · repeat' apply strays_append
        simp [strays, linkOpening]
      · exact strays_append (by simp [strays, linkOpening]) _
    · split
      · repeat' apply strays_append
        simp [strays, linkOpening]
      · exact strays_append (by simp [strays, linkOpening]) _

theorem resultLines_stray (results : Bytes) : ∀ line ∈ resultLines results, strays line = true := by
  intro line hm
  unfold resultLines at hm
  split at hm
  · rw [List.mem_singleton.1 hm]
    exact strays_append (by simp [strays, linkOpening]) _
  · obtain ⟨set, -, rfl⟩ := List.mem_map.1 hm
    repeat' apply strays_append
    simp [strays, linkOpening]

theorem chaincodeLines_stray (data : Bytes) : ∀ line ∈ chaincodeLines data, strays line = true := by
  intro line hm
  unfold chaincodeLines at hm
  split at hm
  · rw [List.mem_singleton.1 hm]
    exact strays_append (by simp [strays, linkOpening]) _
  · rcases List.mem_append.1 hm with hm | hm
    · rcases List.mem_append.1 hm with hm | hm
      · split at hm
        · cases hm
        · rw [List.mem_singleton.1 hm]
          have hlayer : strays ("  ✅ " ++ Layer.chaincodeInvocationSpec.name) = true := by
            simp [strays, linkOpening, Layer.name]
          exact strays_append (strays_append (strays_append (strays_append hlayer _) _) _) _
      · rw [List.mem_singleton.1 hm]
        exact strays_append (by simp [strays, linkOpening]) _
    · split at hm
      · rw [List.mem_singleton.1 hm]
        simp [strays, linkOpening]
      · split at hm
        · cases hm
        · exact resultLines_stray _ line hm

theorem headerLines_stray (layers : EnvelopeLayers) : ∀ line ∈ headerLines layers, strays line = true := by
  have hnonce : strays ("  ✅ " ++ Layer.signatureHeader.name) = true := by simp [strays, linkOpening, Layer.name]
  have hcreator : strays ("  ✅ " ++ Layer.serializedIdentity.name) = true := by simp [strays, linkOpening, Layer.name]
  simp only [headerLines, List.forall_mem_cons, List.not_mem_nil, false_imp_iff, implies_true, and_true]
  refine ⟨by simp [strays, linkOpening, Layer.name], ?_, ?_, ?_⟩
  · repeat' apply strays_append
    simp [strays, linkOpening]
  · exact strays_append (strays_append (strays_append hnonce _) _) _
  · exact strays_append (strays_append (strays_append (strays_append (strays_append hcreator _) _) _) _) _

/-- Whatever a slot holds, no line of it begins like the verdict that a block links back. -/
theorem slotLines_stray (suite : HashSuite) (raw : Bytes) :
    ∀ line ∈ slotLines suite raw, strays line = true := by
  intro line hm
  unfold slotLines at hm
  split at hm
  · rw [List.mem_singleton.1 hm]
    exact strays_append (by simp [strays, linkOpening]) _
  · rcases List.mem_append.1 hm with hm | hm
    · rcases List.mem_append.1 hm with hm | hm
      · exact headerLines_stray _ line hm
      · split at hm
        · cases hm
        · exact creatorLines_stray suite _ line hm
    · split at hm
      · rw [List.mem_singleton.1 hm]
        simp [strays, linkOpening]
      · exact chaincodeLines_stray _ line hm

theorem headerFields_stray (suite : HashSuite) (header : BlockHeader) (hash : Bytes) :
    ∀ line ∈ headerFields suite header hash, strays line = true := by
  simp only [headerFields, List.forall_mem_cons, List.not_mem_nil, false_imp_iff, implies_true, and_true]
  refine ⟨by simp [strays, linkOpening], ?_, ?_, ?_, ?_⟩
  all_goals
    repeat' apply strays_append
    simp [strays, linkOpening]

theorem metadataLines_stray (metadata : Option BlockMetadata) :
    ∀ line ∈ metadataLines metadata, line = "" ∨ strays line = true := by
  cases metadata with
  | none => exact List.forall_mem_cons.2 ⟨.inl rfl, List.forall_mem_singleton.2 (.inr (by simp [strays, linkOpening]))⟩
  | some metadata =>
    refine List.forall_mem_append.2
      ⟨List.forall_mem_cons.2 ⟨.inl rfl, List.forall_mem_singleton.2 (.inr (by simp [strays, linkOpening]))⟩, ?_⟩
    intro line hm
    obtain ⟨i, hi, rfl⟩ := List.mem_mapIdx.1 hm
    right
    repeat' apply strays_append
    simp [strays, linkOpening]

theorem dataLines_stray (suite : HashSuite) (data : Option BlockData) :
    ∀ line ∈ dataLines suite data, line = "" ∨ strays line = true := by
  cases data with
  | none => exact List.forall_mem_singleton.2 (.inr (by simp [strays, linkOpening]))
  | some data =>
    refine List.forall_mem_append.2
      ⟨List.forall_mem_cons.2 ⟨.inl rfl, List.forall_mem_singleton.2 (.inr ?_)⟩, fun line hm => ?_⟩
    · exact strays_append (by simp [strays, linkOpening]) _
    obtain ⟨⟨raw, i⟩, -, hline⟩ := List.mem_flatMap.1 hm
    rcases List.mem_append.1 hline with hline | hline
    · rcases List.mem_pair.1 hline with rfl | rfl
      · exact .inl rfl
      · right
        repeat' apply strays_append
        simp [strays, linkOpening]
    · exact .inr (slotLines_stray suite raw line hline)

theorem dataHashLine_stray (holds : Bool) : strays (dataHashLine holds) = true := by
  cases holds <;> decide +kernel

/-! ## The inspection -/

/-- No line of these is the verdict that a block links back. -/
theorem linked_not_mem {lines : List String} (h : ∀ line ∈ lines, line = "" ∨ strays line = true)
    (next : UInt64) : LinkVerdict.linked.text next ∉ lines :=
  fun hm => ne_linked (h _ hm) next rfl

theorem linked_mem_checkLines (suite : HashSuite) {index : BlockIndex} {stored : StoredBlock} {hash : Bytes} :
    LinkVerdict.linked.text (stored.number + 1) ∈ checkLines suite index stored hash ↔
      linkVerdict index (stored.number + 1) hash = .linked := by
  have hverdict : LinkVerdict.linked.text (stored.number + 1) =
      (linkVerdict index (stored.number + 1) hash).text (stored.number + 1) ↔
        linkVerdict index (stored.number + 1) hash = .linked :=
    ⟨fun h => linkVerdict_text_inj h.symm, fun h => by rw [h]⟩
  unfold checkLines
  cases stored.block.data with
  | none => rw [List.append_nil, List.mem_singleton, hverdict]
  | some data =>
    have hhash := linked_not_mem (List.forall_mem_singleton.2
      (.inr (dataHashLine_stray (dataHashHolds suite stored.header data)))) (stored.number + 1)
    rw [List.mem_append, List.mem_singleton, hverdict, or_iff_left hhash]

/-- The inspection of the block of a number prints the line which says that the next block links back to the
header of this one. -/
def ReportsLink (suite : HashSuite) (index : BlockIndex) (number : UInt64) : Prop :=
  LinkVerdict.linked.text (number + 1) ∈ (inspectBlock suite index number).lines

/-- **The line is printed where the link holds**, and no other line can be taken for it. -/
theorem reportsLink_iff {suite : HashSuite} {index : BlockIndex} {number : UInt64} {stored : StoredBlock}
    (found : index.find? number = some stored) (below : number ≠ 0xffffffffffffffff) :
    ReportsLink suite index number ↔
      linkVerdict index (number + 1) (stored.header.hash suite) = .linked := by
  obtain rfl : stored.number = number := BlockIndex.number_of_find? found
  have htitle : ∀ line ∈ ["", "🔍 Block Structure Investigation for Block " ++ toString stored.number,
      Inspect.line 70 "="], line = "" ∨ strays line = true := by
    simp only [List.forall_mem_cons, List.not_mem_nil, false_imp_iff, implies_true, and_true, true_or, true_and]
    exact ⟨.inr (strays_append (by simp [strays, linkOpening]) _), .inr (by decide +kernel)⟩
  have hheader := headerFields_stray suite stored.header (stored.header.hash suite)
  rw [ReportsLink, lines_inspectBlock found, if_neg below, ← linked_mem_checkLines suite]
  simp only [List.mem_append, linked_not_mem htitle, linked_not_mem fun line hm => .inr (hheader line hm),
    linked_not_mem (metadataLines_stray _), linked_not_mem (dataLines_stray suite _), false_or, or_false]

end ChannelLedger.Inspect
