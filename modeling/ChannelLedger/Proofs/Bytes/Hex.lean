import Mathlib
import ChannelLedger.Bytes.Hex
import ChannelLedger.Proofs.Outcome

/-!
# Hexadecimal text denotes its bytes

A byte string is written with lower-case digits, and any text that differs from it by the case of its
letters is read as that byte string (`ofHex_of_toLower`). So a hash that was shown can be given back in
either case, and what two byte strings are shown as tells them apart (`toHex_inj`).
-/
namespace ChannelLedger

namespace Hex

/-- Lowering the case of a character does not bring it into ASCII. -/
theorem toNat_lt_of_toLower {c : Char} (h : c.toLower.toNat < 128) : c.toNat < 128 := by
  unfold Char.toLower at h
  split at h
  · rename_i hupper
    have hle : c.val.toNat ≤ 90 := UInt32.le_iff_toNat_le.1 hupper.2
    change c.val.toNat < 128
    omega
  · exact h

theorem toNat_digit_lt : ∀ n < 16, (digit n).toNat < 128 := by
  decide

theorem toLower_digit : ∀ n < 16, (digit n).toLower = digit n := by
  decide

/-- A digit of either case is one byte of text, and that byte has the value of the digit. -/
theorem value?_of_toLower {c : Char} {n : Nat} (hn : n < 16) (h : c.toLower = digit n) :
    ∃ byte, String.utf8EncodeChar c = [byte] ∧ value? byte = some n := by
  have hascii : ∀ k < 128, ∀ n < 16, (Char.ofNat k).toLower = digit n →
      String.utf8EncodeChar (Char.ofNat k) = [UInt8.ofNat k] ∧ value? (UInt8.ofNat k) = some n := by
    decide +kernel
  have hc : c.toNat < 128 := toNat_lt_of_toLower (h ▸ toNat_digit_lt n hn)
  have hcases := hascii c.toNat hc n hn
  rw [Char.ofNat_toNat] at hcases
  exact ⟨_, hcases h⟩

/-- The digits of a byte string in either case are read as it, two bytes of text for each byte. -/
theorem ofDigits_of_toLower {bytes : Bytes} {cs : List Char} (h : cs.map Char.toLower = digits bytes)
    (position : Nat) :
    ofDigits position (cs.flatMap String.utf8EncodeChar) = .ok bytes ∧
      (cs.flatMap String.utf8EncodeChar).length = 2 * bytes.length := by
  induction bytes generalizing cs position with
  | nil =>
    obtain rfl := List.map_eq_nil_iff.1 h
    exact ⟨rfl, rfl⟩
  | cons b bytes ih =>
    obtain ⟨high, rest, rfl, hhigh, hrest⟩ := List.map_eq_cons_iff.1 h
    obtain ⟨low, rest, rfl, hlow, hrest⟩ := List.map_eq_cons_iff.1 hrest
    have hb : b.toNat < 256 := b.toNat_lt
    obtain ⟨hbyte, hhe, hhv⟩ := value?_of_toLower (n := b.toNat / 16) (by omega) hhigh
    obtain ⟨lbyte, hle, hlv⟩ := value?_of_toLower (n := b.toNat % 16) (by omega) hlow
    obtain ⟨hread, hlen⟩ := ih hrest (position + 2)
    have hjoin : 16 * (b.toNat / 16) + b.toNat % 16 = b.toNat := by omega
    simp only [List.flatMap_cons, hhe, hle, List.cons_append, List.nil_append]
    refine ⟨?_, ?_⟩
    · simp only [ofDigits, hhv, hlv, hread, Outcome.map_ok, hjoin, UInt8.ofNat_toNat]
    · simp only [List.length_cons, hlen]
      omega

end Hex

namespace Bytes

/-- **A shown byte string is read back from text of either case.** -/
theorem ofHex_of_toLower {bytes : Bytes} {text : String} (h : text.toLower = toHex bytes) :
    ofHex text = .ok bytes := by
  have hdigits : text.toList.map Char.toLower = Hex.digits bytes := by
    rw [← String.toList_map]
    exact (congrArg String.toList h).trans String.toList_ofList
  obtain ⟨hread, hlen⟩ := Hex.ofDigits_of_toLower hdigits 0
  rw [ofHex, ofText, hlen, if_neg (by omega), hread]

theorem toLower_toHex (bytes : Bytes) : (toHex bytes).toLower = toHex bytes := by
  have hlower : (Hex.digits bytes).map Char.toLower = Hex.digits bytes := by
    rw [Hex.digits, List.map_flatMap]
    refine List.flatMap_congr fun b _ => ?_
    have hb : b.toNat < 256 := b.toNat_lt
    simp only [List.map_cons, List.map_nil, Hex.toLower_digit _ (show b.toNat / 16 < 16 by omega),
      Hex.toLower_digit _ (show b.toNat % 16 < 16 by omega)]
  rw [← String.toList_inj, String.toLower, String.toList_map, toHex, String.toList_ofList, hlower]

@[simp] theorem ofHex_toHex (bytes : Bytes) : ofHex (toHex bytes) = .ok bytes :=
  ofHex_of_toLower (toLower_toHex bytes)

/-- **What two byte strings are shown as tells them apart.** -/
theorem toHex_inj {a b : Bytes} (h : toHex a = toHex b) : a = b := by
  have hread := congrArg ofHex h
  rw [ofHex_toHex, ofHex_toHex] at hread
  exact Except.ok.inj hread

end Bytes

end ChannelLedger
