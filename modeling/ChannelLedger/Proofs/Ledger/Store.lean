import ChannelLedger.Ledger.Index

/-!
# Storing a block

What one more block does to the two tables of an index. The list of blocks stays ordered by number,
and under the block's number it now has that block (`find?_store`); the table of hashes leads from
the block's hash to its number, no longer leads anywhere from the hash whose block lost its place, and
is otherwise as it was (`lookup_numbers_store`). Neither statement asks that hashes do not collide.
-/
namespace ChannelLedger

/-! ## The ordered list -/

namespace StoredBlock

theorem mem_place {stored x : StoredBlock} {blocks : List StoredBlock} (h : x ∈ stored.place blocks) :
    x = stored ∨ x ∈ blocks := by
  induction blocks with
  | nil => simpa [place] using h
  | cons first rest ih =>
    simp only [place] at h
    split at h
    · simpa using h
    · split at h
      · rcases List.mem_cons.1 h with h | h
        · exact .inl h
        · exact .inr (List.mem_cons_of_mem _ h)
      · rcases List.mem_cons.1 h with h | h
        · exact .inr (h ▸ List.mem_cons_self)
        · rcases ih h with h | h
          · exact .inl h
          · exact .inr (List.mem_cons_of_mem _ h)

theorem sorted_place {stored : StoredBlock} {blocks : List StoredBlock}
    (h : blocks.Pairwise (·.number < ·.number)) :
    (stored.place blocks).Pairwise (·.number < ·.number) := by
  induction blocks with
  | nil => simp [place]
  | cons first rest ih =>
    obtain ⟨hfirst, hrest⟩ := List.pairwise_cons.1 h
    simp only [place]
    split
    · rename_i hlt
      refine List.pairwise_cons.2 ⟨fun x hx => ?_, h⟩
      rcases List.mem_cons.1 hx with rfl | hx
      · exact hlt
      · exact UInt64.lt_trans hlt (hfirst x hx)
    · split
      · rename_i heq
        exact List.pairwise_cons.2 ⟨fun x hx => heq ▸ hfirst x hx, hrest⟩
      · rename_i hlt hne
        refine List.pairwise_cons.2 ⟨fun x hx => ?_, ih hrest⟩
        rcases mem_place hx with rfl | hx
        · exact UInt64.lt_of_le_of_ne (UInt64.not_lt.1 hlt) (Ne.symm hne)
        · exact hfirst x hx

/-- Placing a block changes what is found under its number, and nothing else. -/
theorem find?_place (stored : StoredBlock) (blocks : List StoredBlock) (number : UInt64) :
    (stored.place blocks).find? (·.number = number) =
      if stored.number = number then some stored else blocks.find? (·.number = number) := by
  induction blocks with
  | nil => by_cases h : stored.number = number <;> simp [place, h]
  | cons first rest ih =>
    simp only [place]
    split
    · by_cases h : stored.number = number <;> simp [h]
    · split
      · rename_i heq
        by_cases h : stored.number = number
        · simp [h]
        · have : first.number ≠ number := heq ▸ h
          simp [h, this]
      · rename_i hne
        by_cases hf : first.number = number
        · have : stored.number ≠ number := fun h => hne (h.trans hf.symm)
          simp [hf, this]
        · simp [hf, ih]

theorem find?_of_mem {stored : StoredBlock} {blocks : List StoredBlock}
    (sorted : blocks.Pairwise (·.number < ·.number)) (hm : stored ∈ blocks) :
    blocks.find? (·.number = stored.number) = some stored := by
  induction blocks with
  | nil => cases hm
  | cons first rest ih =>
    obtain ⟨hfirst, hrest⟩ := List.pairwise_cons.1 sorted
    rcases List.mem_cons.1 hm with rfl | hm
    · simp
    · have : first.number ≠ stored.number := UInt64.ne_of_lt (hfirst stored hm)
      simp [this, ih hrest hm]

end StoredBlock

namespace BlockIndex

theorem find?_store (index : BlockIndex) (stored : StoredBlock) (number : UInt64) :
    (index.store stored).find? number =
      if stored.number = number then some stored else index.find? number :=
  StoredBlock.find?_place stored index.blocks number

theorem hash?_store (index : BlockIndex) (stored : StoredBlock) (number : UInt64) :
    (index.store stored).hash? number =
      if stored.number = number then some stored.hash else index.hash? number := by
  unfold hash?
  rw [find?_store]
  split <;> rfl

theorem lookup_entry (query key : Bytes) (number : UInt64) (rest : List (Bytes × UInt64)) :
    ((key, number) :: rest).lookup query = if query = key then some number else rest.lookup query := by
  by_cases h : query = key
  · simp [h]
  · have hb : (query == key) = false := by simpa using h
    simp [List.lookup_cons, hb, h]

theorem forget_entry (hash key : Bytes) (number : UInt64) (rest : List (Bytes × UInt64)) :
    forget hash ((key, number) :: rest) =
      if key = hash then forget hash rest else (key, number) :: forget hash rest := by
  by_cases h : key = hash <;> simp [forget, h]

theorem lookup_forget (hash query : Bytes) (numbers : List (Bytes × UInt64)) :
    (forget hash numbers).lookup query = if query = hash then none else numbers.lookup query := by
  induction numbers with
  | nil => simp [forget]
  | cons entry rest ih =>
    obtain ⟨key, number⟩ := entry
    rw [forget_entry]
    by_cases hk : key = hash
    · rw [if_pos hk, ih, lookup_entry]
      by_cases hq : query = hash <;> simp [hq, hk]
    · rw [if_neg hk, lookup_entry, lookup_entry, ih]
      by_cases hq : query = key
      · simp [hq, hk]
      · simp [hq]

/-- What a hash leads to once a block is stored: to the block, if it is the block's hash; to nothing,
if it was the hash of the block whose place is taken; else to what it led to before. -/
theorem lookup_numbers_store (index : BlockIndex) (stored : StoredBlock) (hash : Bytes) :
    (index.store stored).numbers.lookup hash =
      if hash = stored.hash then some stored.number
      else if index.hash? stored.number = some hash then none
      else index.numbers.lookup hash := by
  simp only [store]
  rw [lookup_entry, lookup_forget]
  by_cases hs : hash = stored.hash
  · simp [hs]
  · simp only [hs, ↓reduceIte]
    split
    · rename_i hold
      simp [hold]
    · rename_i old hold
      rw [lookup_forget, hold]
      by_cases ho : hash = old
      · simp [ho]
      · have : old ≠ hash := Ne.symm ho
        simp [ho, this]

end BlockIndex

end ChannelLedger
