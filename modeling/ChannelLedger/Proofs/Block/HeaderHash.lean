import ChannelLedger.Block.HeaderHash
import ChannelLedger.Proofs.Der.Strict
import ChannelLedger.Proofs.Ledger.Index

/-!
# The encoding of a header determines the header

The hash of a block is taken of the DER encoding of its header. A strict reader takes this encoding,
and no other bytes, for the header (`BlockHeader.readHeader_iff`), so different headers have
different encodings, and two headers of one hash are two byte strings of one hash
(`BlockHeader.der_canonical`). What is asked of a suite on headers is therefore no more than what is
asked of it on their encodings (`HashSuite.collisionFree_of_encodings`).
-/
namespace ChannelLedger

namespace BlockHeader

/-- What stands inside the sequence that encodes a header. -/
def content (header : BlockHeader) : Bytes :=
  Der.element Der.integerTag (Der.unsigned header.number)
    ++ Der.element Der.octetStringTag header.previousHash
    ++ Der.element Der.octetStringTag header.dataHash

/-- The length of what stands inside the encoding fits in 64 bits. -/
def Fits (header : BlockHeader) : Prop :=
  header.content.length < 2 ^ 64

instance (header : BlockHeader) : Decidable header.Fits :=
  inferInstanceAs (Decidable (header.content.length < 2 ^ 64))

theorem Fits.hashes {header : BlockHeader} (h : header.Fits) :
    header.previousHash.length < 2 ^ 64 ∧ header.dataHash.length < 2 ^ 64 := by
  unfold Fits content at h
  simp only [Der.element, List.length_append, List.length_cons] at h
  omega

open Der in
/-- **A strict reader takes exactly the encoding of a header for the header.** -/
theorem readHeader_iff {header : BlockHeader} (fits : header.Fits) {input : Bytes} :
    Strict.readHeader input =
        some ((header.number.toNat : Int), header.previousHash, header.dataHash) ↔
      input = header.der := by
  obtain ⟨hprevious, hdata⟩ := fits.hashes
  have hfields (content : Bytes) : Strict.readFields content =
      some ((header.number.toNat : Int), header.previousHash, header.dataHash) ↔
        content = header.content := Strict.readFields_iff hprevious hdata
  have hsequence : Strict.readElement Tag.sequence input = some (header.content, []) ↔
      input = header.der ++ [] := Strict.readElement_iff fits
  rw [List.append_nil] at hsequence
  simp only [Strict.readHeader_eq_some, hfields, exists_eq_right, hsequence]

/-- A header fits if it was read from bytes whose length fits in 64 bits. -/
theorem fits_of_readHeader {header : BlockHeader} {input : Bytes} (short : input.length < 2 ^ 64)
    (h : Der.Strict.readHeader input =
      some ((header.number.toNat : Int), header.previousHash, header.dataHash)) : header.Fits := by
  obtain ⟨content, hsequence, hfields⟩ := Der.Strict.readHeader_eq_some.1 h
  have hcontent := Der.Strict.length_le_of_readElement hsequence
  obtain ⟨hprevious, hdata⟩ := Der.Strict.length_le_of_readFields hfields
  have heq : content = header.content :=
    (Der.Strict.readFields_iff (by omega) (by omega)).1 hfields
  unfold Fits
  rw [← heq]
  omega

/-- **The encoding determines the header.** -/
theorem der_inj {a b : BlockHeader} (ha : a.Fits) (hb : b.Fits) (h : a.der = b.der) : a = b := by
  have hread := (readHeader_iff ha).2 h.symm
  rw [(readHeader_iff hb).2 rfl] at hread
  simp only [Option.some.injEq, Prod.mk.injEq, Nat.cast_inj, UInt64.toNat_inj] at hread
  obtain ⟨hnumber, hprevious, hdata⟩ := hread
  cases a
  cases b
  simp_all

end BlockHeader

/-- A suite that tells the encodings of headers apart tells the headers apart. -/
theorem HashSuite.collisionFree_of_encodings {suite : HashSuite} {headers : List BlockHeader}
    (fits : ∀ header ∈ headers, header.Fits)
    (distinct : ∀ a ∈ headers, ∀ b ∈ headers, suite.hash a.der = suite.hash b.der → a.der = b.der) :
    suite.CollisionFree headers := by
  intro a ha b hb h
  exact BlockHeader.der_inj (fits a ha) (fits b hb) (distinct a ha b hb h)

/-- **The encoding of a header is canonical**, and so two headers share a hash only where the suite
collides on two byte strings. -/
theorem BlockHeader.der_canonical :
    -- a strict reader takes the encoding of a header for that header
    (∀ header : BlockHeader, header.Fits → Der.Strict.readHeader header.der =
      some ((header.number.toNat : Int), header.previousHash, header.dataHash)) ∧
    -- what it takes for a header is the encoding of that header
    (∀ (input : Bytes) (number : Int) (previousHash dataHash : Bytes), input.length < 2 ^ 64 →
      Der.Strict.readHeader input = some (number, previousHash, dataHash) →
      0 ≤ number → number < 2 ^ 64 →
      input = der ⟨UInt64.ofNat number.toNat, previousHash, dataHash⟩) ∧
    -- headers that differ have different encodings
    (∀ a b : BlockHeader, a.Fits → b.Fits → a ≠ b → a.der ≠ b.der) ∧
    -- different headers of one hash are a collision of the suite
    ∀ (suite : HashSuite) (a b : BlockHeader), a.Fits → b.Fits → a ≠ b →
      a.hash suite = b.hash suite → a.der ≠ b.der ∧ suite.hash a.der = suite.hash b.der := by
  refine ⟨fun header fits => (readHeader_iff fits).2 rfl, ?_, ?_, ?_⟩
  · intro input number previousHash dataHash short hread hnonneg hlt
    have hnumber : ((UInt64.ofNat number.toNat).toNat : Int) = number := by
      rw [UInt64.toNat_ofNat_of_lt' (by simp [UInt64.size]; omega)]
      omega
    rw [← hnumber] at hread
    have fits : Fits ⟨UInt64.ofNat number.toNat, previousHash, dataHash⟩ :=
      fits_of_readHeader short hread
    exact (readHeader_iff fits).1 hread
  · intro a b ha hb hne h
    exact hne (der_inj ha hb h)
  · intro suite a b ha hb hne h
    exact ⟨fun heq => hne (der_inj ha hb heq), h⟩

/-- Numbers with the first bit set and hashes on both sides of the long form, a length and an integer
read off bytes, and a suite for which all headers collide. -/
theorem BlockHeader.der_canonical_long_form :
    let header : BlockHeader := ⟨0x8000000000000000, List.replicate 128 0, List.replicate 127 1⟩
    let other : BlockHeader := { header with number := 0x80000000000000 }
    let input : Bytes := [0x30, 8, 2, 2, 0, 0x80, 4, 0, 4, 0]
    let suite : HashSuite := ⟨"constant", fun _ => []⟩
    (header.Fits ∧ Der.Strict.readHeader header.der =
      some (0x8000000000000000, List.replicate 128 0, List.replicate 127 1)) ∧
    (Der.Strict.readHeader input = some (0x80, [], []) ∧ input = der ⟨0x80, [], []⟩) ∧
    (other.Fits ∧ header ≠ other ∧ header.der ≠ other.der) ∧
    header.hash suite = other.hash suite ∧
    header.der ≠ other.der ∧ suite.hash header.der = suite.hash other.der := by
  intro header other input suite
  obtain ⟨reads, written, differ, collide⟩ := der_canonical
  have hfits : header.Fits := by decide +kernel
  have hother : other.Fits := by decide +kernel
  have hne : header ≠ other := by decide +kernel
  have hinput : Der.Strict.readHeader input = some (0x80, [], []) := by decide +kernel
  exact ⟨⟨hfits, reads header hfits⟩,
    ⟨hinput, written input 0x80 [] [] (by decide) hinput (by decide) (by decide)⟩,
    ⟨hother, hne, differ header other hfits hother hne⟩,
    rfl, collide suite header other hfits hother hne rfl⟩

end ChannelLedger
