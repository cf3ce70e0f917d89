import ChannelLedger.Text.Utf8
import Mathlib.Tactic.SplitIfs

/-!
# Text survives its encoding

A character is encoded as one to four bytes. The scan takes exactly these bytes as one character,
whatever stands behind them, so scanning an encoded text gives its characters back: strict reading
accepts it and lossy reading leaves it as it is (`decode?_ofText`, `lossy_ofText`). No other bytes are
accepted as the text (`decode?_eq_some_iff`).
-/
namespace ChannelLedger.Utf8

theorem ofNat_eq_iff {n : Nat} (h : n < 256) (b : UInt8) : UInt8.ofNat n = b ↔ n = b.toNat := by
  rw [← UInt8.toNat_inj, UInt8.toNat_ofNat_of_lt' h]

/-! ## The bytes behind the first -/

theorem continuationByte_lt (n : Nat) : n % 64 + 0x80 < 256 := by
  omega

theorem continuation_zero (bits : Nat) (rest : Bytes) :
    continuation 0 bits rest = (some bits, rest) := rfl

/-- Six bits on a continuation byte are read back. -/
theorem continuation_step (count bits n : Nat) (rest : Bytes) :
    continuation (count + 1) bits (UInt8.ofNat (n % 64 + 0x80) :: rest)
      = continuation count (bits * 64 + n % 64) rest := by
  have hlt := continuationByte_lt n
  have hb : isContinuation (UInt8.ofNat (n % 64 + 0x80)) = true := by
    simp only [isContinuation, Bool.and_eq_true, decide_eq_true_eq, UInt8.le_ofNat_iff hlt,
      UInt8.ofNat_le_iff hlt, UInt8.reduceToNat]
    omega
  simp only [continuation, hb, if_true, UInt8.toNat_ofNat_of_lt' hlt, Nat.add_sub_cancel]

/-! ## The first byte -/

theorem lead?_two {n : Nat} (low : 0xc2 ≤ n) (high : n ≤ 0xdf) :
    lead? (UInt8.ofNat n) = some (1, n - 0xc0, 0x80, 0xbf) := by
  have hlt : n < 256 := by omega
  simp only [lead?, Bool.and_eq_true, decide_eq_true_eq, UInt8.le_ofNat_iff hlt,
    UInt8.ofNat_le_iff hlt, UInt8.toNat_ofNat_of_lt' hlt, UInt8.reduceToNat]
  rw [if_pos ⟨low, high⟩]

theorem within (lo hi : UInt8) {n : Nat} (h : n < 256) (hlo : lo.toNat ≤ n) (hhi : n ≤ hi.toNat) :
    lo ≤ UInt8.ofNat n ∧ UInt8.ofNat n ≤ hi :=
  ⟨(UInt8.le_ofNat_iff h).2 hlo, (UInt8.ofNat_le_iff h).2 hhi⟩

/-- The byte in front of two others. The bounds on the next byte shut out overlong forms and
surrogates. -/
theorem lead?_three (n next : Nat) (low : 0xe0 ≤ n) (high : n ≤ 0xef)
    (hnext : 0x80 ≤ next ∧ next ≤ 0xbf) (overlong : n = 0xe0 → 0xa0 ≤ next)
    (surrogate : n = 0xed → next ≤ 0x9f) :
    ∃ lo hi, lead? (UInt8.ofNat n) = some (2, n - 0xe0, lo, hi)
      ∧ lo ≤ UInt8.ofNat next ∧ UInt8.ofNat next ≤ hi := by
  have hlt : n < 256 := by omega
  have hlt' : next < 256 := by omega
  simp only [lead?, Bool.and_eq_true, decide_eq_true_eq, beq_iff_eq, UInt8.le_ofNat_iff hlt,
    UInt8.ofNat_le_iff hlt, ofNat_eq_iff hlt, UInt8.toNat_ofNat_of_lt' hlt, UInt8.reduceToNat]
  rw [if_neg (by omega)]
  by_cases he0 : n = 0xe0
  · exact ⟨0xa0, 0xbf, by simp [he0], within _ _ hlt' (overlong he0) hnext.2⟩
  · by_cases hed : n = 0xed
    · exact ⟨0x80, 0x9f, by simp [hed], within _ _ hlt' hnext.1 (surrogate hed)⟩
    · refine ⟨0x80, 0xbf, ?_, within _ _ hlt' hnext.1 hnext.2⟩
      rw [if_neg he0, if_neg hed, if_pos (by omega)]

/-- The byte in front of three others. The bounds on the next byte shut out overlong forms and
numbers beyond the last character. -/
theorem lead?_four (n next : Nat) (low : 0xf0 ≤ n) (high : n ≤ 0xf4)
    (hnext : 0x80 ≤ next ∧ next ≤ 0xbf) (overlong : n = 0xf0 → 0x90 ≤ next)
    (beyond : n = 0xf4 → next ≤ 0x8f) :
    ∃ lo hi, lead? (UInt8.ofNat n) = some (3, n - 0xf0, lo, hi)
      ∧ lo ≤ UInt8.ofNat next ∧ UInt8.ofNat next ≤ hi := by
  have hlt : n < 256 := by omega
  have hlt' : next < 256 := by omega
  simp only [lead?, Bool.and_eq_true, decide_eq_true_eq, beq_iff_eq, UInt8.le_ofNat_iff hlt,
    UInt8.ofNat_le_iff hlt, ofNat_eq_iff hlt, UInt8.toNat_ofNat_of_lt' hlt, UInt8.reduceToNat]
  rw [if_neg (by omega), if_neg (by omega), if_neg (by omega), if_neg (by omega)]
  by_cases hf0 : n = 0xf0
  · exact ⟨0x90, 0xbf, by simp [hf0], within _ _ hlt' (overlong hf0) hnext.2⟩
  · by_cases hf4 : n = 0xf4
    · exact ⟨0x80, 0x8f, by simp [hf4], within _ _ hlt' hnext.1 (beyond hf4)⟩
    · refine ⟨0x80, 0xbf, ?_, within _ _ hlt' hnext.1 hnext.2⟩
      rw [if_neg hf0, if_pos (by omega)]

/-- A first byte and a second one within its bounds: what is left to read are the others. -/
theorem first_of_lead {n count bits : Nat} {lo hi : UInt8} (next : Nat) (rest : Bytes)
    (hn : 0x80 ≤ n) (hn' : n < 256)
    (hlead : lead? (UInt8.ofNat n) = some (count + 1, bits, lo, hi))
    (hnext : lo ≤ UInt8.ofNat (next % 64 + 0x80) ∧ UInt8.ofNat (next % 64 + 0x80) ≤ hi) :
    first (UInt8.ofNat n) (UInt8.ofNat (next % 64 + 0x80) :: rest)
      = ((continuation count (bits * 64 + next % 64) rest).1.map Char.ofNat,
        (continuation count (bits * 64 + next % 64) rest).2) := by
  have hbyte : (UInt8.ofNat (next % 64 + 0x80)).toNat - 0x80 = next % 64 := by
    rw [UInt8.toNat_ofNat_of_lt' (continuationByte_lt next)]
    omega
  unfold first
  rw [if_neg (by rw [UInt8.ofNat_lt_iff hn']; simp; omega), hlead]
  simp only [hnext.1, hnext.2, decide_true, Bool.and_self, if_true, hbyte, Nat.add_sub_cancel]

/-! ## Whole characters -/

/-- The numbers of characters leave out the surrogates. -/
theorem toNat_cases (c : Char) : c.toNat < 0xd800 ∨ 0xdfff < c.toNat ∧ c.toNat < 0x110000 :=
  c.valid

/-- **One character is scanned as one character.** -/
theorem scan_utf8EncodeChar (c : Char) (rest : Bytes) :
    scan (String.utf8EncodeChar c ++ rest) = some c :: scan rest := by
  have hvalid := toNat_cases c
  have hc : Char.ofNat c.toNat = c := Char.ofNat_toNat c
  have hval : c.val.toNat = c.toNat := rfl
  generalize hn : c.toNat = n at hvalid hc hval
  simp only [String.utf8EncodeChar, hval]
  by_cases h1 : n ≤ 0x7f
  · have hlt : n < 256 := by omega
    have hfirst : first (UInt8.ofNat n) rest = (some c, rest) := by
      unfold first
      rw [if_pos (by rw [UInt8.ofNat_lt_iff hlt]; simp; omega), UInt8.toNat_ofNat_of_lt' hlt, hc]
    simp only [h1, if_true, List.cons_append, List.nil_append, scan, hfirst]
  · by_cases h2 : n ≤ 0x7ff
    · have hlead := lead?_two (n := n / 64 % 32 + 0xc0) (by omega) (by omega)
      have hnext := within 0x80 0xbf (continuationByte_lt n) (by simp) (by simp; omega)
      have hfirst := first_of_lead n rest (by omega) (by omega) hlead hnext
      have hbits : (n / 64 % 32 + 0xc0 - 0xc0) * 64 + n % 64 = n := by omega
      simp only [continuation_zero, hbits, Option.map_some, hc] at hfirst
      simp only [h1, h2, if_true, if_false, List.cons_append, List.nil_append, scan, hfirst]
    · by_cases h3 : n ≤ 0xffff
      · obtain ⟨lo, hi, hlead, hnext⟩ := lead?_three (n / 4096 % 16 + 0xe0)
          (n / 64 % 64 + 0x80) (by omega) (by omega) (by omega) (by omega) (by omega)
        have hfirst := first_of_lead (n / 64) (UInt8.ofNat (n % 64 + 0x80) :: rest)
          (by omega) (by omega) hlead hnext
        have hbits : ((n / 4096 % 16 + 0xe0 - 0xe0) * 64 + n / 64 % 64) * 64 + n % 64 = n := by
          omega
        simp only [continuation_step, continuation_zero, hbits, Option.map_some, hc] at hfirst
        simp only [h1, h2, h3, if_true, if_false, List.cons_append, List.nil_append, scan, hfirst]
      · obtain ⟨lo, hi, hlead, hnext⟩ := lead?_four (n / 262144 % 8 + 0xf0)
          (n / 4096 % 64 + 0x80) (by omega) (by omega) (by omega) (by omega) (by omega)
        have hfirst := first_of_lead (n / 4096) (UInt8.ofNat (n / 64 % 64 + 0x80)
          :: UInt8.ofNat (n % 64 + 0x80) :: rest) (by omega) (by omega) hlead hnext
        have hbits : (((n / 262144 % 8 + 0xf0 - 0xf0) * 64 + n / 4096 % 64) * 64
            + n / 64 % 64) * 64 + n % 64 = n := by
          omega
        simp only [continuation_step, continuation_zero, hbits, Option.map_some, hc] at hfirst
        simp only [h1, h2, h3, if_false, List.cons_append, List.nil_append, scan, hfirst]

/-- An encoded text is scanned as its characters. -/
theorem scan_ofText (s : String) : scan (Bytes.ofText s) = s.toList.map some := by
  unfold Bytes.ofText
  induction s.toList with
  | nil => simp [scan]
  | cons c cs ih => rw [List.flatMap_cons, scan_utf8EncodeChar, ih, List.map_cons]

/-- **Strict reading gives an encoded text back.** -/
@[simp] theorem decode?_ofText (s : String) : decode? (Bytes.ofText s) = some s := by
  have hall : (s.toList.map some).mapM id = pure (s.toList.map id) := by
    rw [List.mapM_map]
    exact List.mapM_pure
  rw [decode?, scan_ofText, hall, List.map_id]
  exact congrArg some String.ofList_toList

/-- Only the empty text is encoded as no bytes. -/
theorem isEmpty_ofText (s : String) : (Bytes.ofText s).isEmpty = true ↔ s = "" := by
  constructor
  · intro h
    have hdecode := decode?_ofText s
    rw [List.isEmpty_iff.1 h, show ([] : Bytes) = Bytes.ofText "" from rfl,
      decode?_ofText] at hdecode
    exact (Option.some.inj hdecode).symm
  · rintro rfl
    rfl

/-- **Lossy reading gives an encoded text back.** -/
@[simp] theorem lossy_ofText (s : String) : lossy (Bytes.ofText s) = s := by
  have hall : (s.toList.map some).map (·.getD '\ufffd') = s.toList := by
    rw [List.map_map]
    exact List.map_id' s.toList
  rw [lossy, scan_ofText, hall, String.ofList_toList]

/-! ## What is read is an encoding -/

theorem continuation_succ_eq_some {count bits n : Nat} {rest behind : Bytes}
    (h : continuation (count + 1) bits rest = (some n, behind)) :
    ∃ next others, rest = next :: others ∧ 0x80 ≤ next.toNat ∧ next.toNat ≤ 0xbf ∧
      continuation count (bits * 64 + (next.toNat - 0x80)) others = (some n, behind) := by
  cases rest with
  | nil => simp [continuation] at h
  | cons next others =>
    rw [continuation] at h
    split at h
    case isFalse => cases h
    case isTrue hnext =>
      simp only [isContinuation, Bool.and_eq_true, decide_eq_true_eq, UInt8.le_iff_toNat_le] at hnext
      exact ⟨next, others, rfl, hnext.1, hnext.2, h⟩

/-- What the first byte says of the others. -/
theorem lead?_cases {b : UInt8} {count bits : Nat} {lo hi : UInt8} (h : lead? b = some (count, bits, lo, hi)) :
    0x80 ≤ lo.toNat ∧ hi.toNat ≤ 0xbf ∧
    (count = 1 ∧ 0xc2 ≤ b.toNat ∧ b.toNat ≤ 0xdf ∧ bits = b.toNat - 0xc0 ∨
      count = 2 ∧ 0xe0 ≤ b.toNat ∧ b.toNat ≤ 0xef ∧ bits = b.toNat - 0xe0 ∧ (b.toNat = 0xe0 → 0xa0 ≤ lo.toNat) ∧
        (b.toNat = 0xed → hi.toNat ≤ 0x9f) ∨
      count = 3 ∧ 0xf0 ≤ b.toNat ∧ b.toNat ≤ 0xf4 ∧ bits = b.toNat - 0xf0 ∧ (b.toNat = 0xf0 → 0x90 ≤ lo.toNat) ∧
        (b.toNat = 0xf4 → hi.toNat ≤ 0x8f)) := by
  unfold lead? at h
  simp only [Bool.and_eq_true, decide_eq_true_eq, beq_iff_eq, UInt8.le_iff_toNat_le, ← UInt8.toNat_inj,
    UInt8.reduceToNat] at h
  split_ifs at h <;> simp only [Option.some.injEq, Prod.mk.injEq] at h <;>
    obtain ⟨rfl, rfl, rfl, rfl⟩ := h <;> simp <;> omega

theorem toNat_ofNat {n : Nat} (h : n.isValidChar) : (Char.ofNat n).toNat = n := by
  rw [Char.ofNat, dif_pos h]
  rfl

theorem ofNat_byte {n : Nat} {b : UInt8} (h : n = b.toNat) : UInt8.ofNat n = b := by
  rw [h, UInt8.ofNat_toNat]

/-- **What is read as one character is its encoding.** -/
theorem first_eq_some {b : UInt8} {rest behind : Bytes} {c : Char} (h : first b rest = (some c, behind)) :
    b :: rest = String.utf8EncodeChar c ++ behind := by
  unfold first at h
  split at h
  case isTrue hlow =>
    obtain ⟨hc, rfl⟩ := Prod.mk.inj h
    have hb : b.toNat < 0x80 := UInt8.lt_iff_toNat_lt.1 hlow
    have hval : c.val.toNat = b.toNat := by
      rw [← Option.some.inj hc]
      exact toNat_ofNat (.inl (by omega))
    simp only [String.utf8EncodeChar, hval, show b.toNat ≤ 0x7f by omega, if_true, UInt8.ofNat_toNat]
    rfl
  case isFalse hhigh =>
    split at h
    case h_1 => cases h
    case h_2 => cases h
    case h_3 count bits lo hi next others hlead =>
      split at h
      case isFalse => cases h
      case isTrue hnext =>
        simp only [Bool.and_eq_true, decide_eq_true_eq, UInt8.le_iff_toNat_le] at hnext
        obtain ⟨hc, rfl⟩ := Prod.mk.inj h
        obtain ⟨n, hn, rfl⟩ := Option.map_eq_some_iff.1 hc
        generalize hrest : (continuation (count - 1) (bits * 64 + (next.toNat - 0x80)) others).2 = behind
        have hread : continuation (count - 1) (bits * 64 + (next.toNat - 0x80)) others = (some n, behind) :=
          Prod.ext hn hrest
        obtain ⟨hlo, hhi, hcases⟩ := lead?_cases hlead
        have hbyte := b.toNat_lt
        rcases hcases with ⟨rfl, hb, hb', hbits⟩ | ⟨rfl, hb, hb', hbits, hover, hsurrogate⟩ |
          ⟨rfl, hb, hb', hbits, hover, hbeyond⟩
        · simp only [Nat.sub_self, continuation_zero, Prod.mk.injEq, Option.some.injEq] at hread
          obtain ⟨hnum, rfl⟩ := hread
          have hval : (Char.ofNat n).val.toNat = n := toNat_ofNat (.inl (by omega))
          simp only [String.utf8EncodeChar, hval]
          rw [if_neg (by omega), if_pos (by omega), ofNat_byte (b := b) (by omega), ofNat_byte (b := next) (by omega)]
          rfl
        · obtain ⟨third, others, rfl, ht, ht', hread⟩ := continuation_succ_eq_some hread
          obtain ⟨hnum, rfl⟩ := Prod.mk.inj hread
          have hnum := Option.some.inj hnum
          have hvalid : n.isValidChar := by
            unfold Nat.isValidChar
            omega
          have hval : (Char.ofNat n).val.toNat = n := toNat_ofNat hvalid
          simp only [String.utf8EncodeChar, hval]
          rw [if_neg (by omega), if_neg (by omega), if_pos (by omega), ofNat_byte (b := b) (by omega),
            ofNat_byte (b := next) (by omega), ofNat_byte (b := third) (by omega)]
          rfl
        · obtain ⟨third, others, rfl, ht, ht', hread⟩ := continuation_succ_eq_some hread
          obtain ⟨fourth, others, rfl, hf, hf', hread⟩ := continuation_succ_eq_some hread
          obtain ⟨hnum, rfl⟩ := Prod.mk.inj hread
          have hnum := Option.some.inj hnum
          have hvalid : n.isValidChar := by
            unfold Nat.isValidChar
            omega
          have hval : (Char.ofNat n).val.toNat = n := toNat_ofNat hvalid
          simp only [String.utf8EncodeChar, hval]
          rw [if_neg (by omega), if_neg (by omega), if_neg (by omega), ofNat_byte (b := b) (by omega),
            ofNat_byte (b := next) (by omega), ofNat_byte (b := third) (by omega), ofNat_byte (b := fourth) (by omega)]
          rfl

/-- Bytes without ill-formed pieces encode their characters. -/
theorem eq_of_scan {bs : Bytes} {cs : List Char} (h : scan bs = cs.map some) : bs = cs.flatMap String.utf8EncodeChar := by
  fun_induction scan bs generalizing cs with
  | case1 =>
    rw [List.map_eq_nil_iff.1 h.symm]
    rfl
  | case2 b rest ih =>
    obtain ⟨c, cs, rfl, hc, hcs⟩ := List.map_eq_cons_iff.1 h.symm
    rw [List.flatMap_cons, ← ih hcs.symm]
    exact first_eq_some (Prod.ext hc.symm rfl)

theorem mapM_id_eq_some_iff {pieces : List (Option Char)} {cs : List Char} :
    pieces.mapM id = some cs ↔ pieces = cs.map some := by
  induction pieces generalizing cs with
  | nil => cases cs <;> simp
  | cons piece pieces ih =>
    simp only [List.mapM_cons, id_eq, Option.bind_eq_bind, Option.bind_eq_some_iff, ih, Option.pure_def,
      Option.some.injEq]
    constructor
    · rintro ⟨c, rfl, cs, rfl, rfl⟩
      rfl
    · intro h
      obtain ⟨c, cs, rfl, rfl, rfl⟩ := List.map_eq_cons_iff.1 h.symm
      exact ⟨c, rfl, cs, rfl, rfl⟩

/-- **Strict reading accepts as a text its encoding only.** -/
theorem decode?_eq_some_iff {bs : Bytes} {s : String} : decode? bs = some s ↔ bs = Bytes.ofText s := by
  constructor
  · intro h
    obtain ⟨cs, hcs, rfl⟩ := Option.map_eq_some_iff.1 h
    rw [Bytes.ofText, String.toList_ofList]
    exact eq_of_scan (mapM_id_eq_some_iff.1 hcs)
  · rintro rfl
    exact decode?_ofText s

end ChannelLedger.Utf8
