import ChannelLedger.Certificate.Base64

/-!
# Base64 says its bytes

A group of four characters has 24 bits. Where the last group stands for one or two bytes only, four or two
bits of its last character stand for nothing, and a reader takes any. `spelling` has them as a parameter, and
what is read as a byte string are its spellings and nothing else (`ofGroups_eq_some_iff`).

Main theorem `decode?_eq_some_iff`.
-/
namespace ChannelLedger.Base64

/-! ## Characters -/

theorem value?_character : ∀ n < 64, value? (character n) = some n := by
  decide

theorem value?_eq_some_iff {b : UInt8} {n : Nat} : value? b = some n ↔ n < 64 ∧ b = character n := by
  have hall : ∀ k < 256, ∀ n, value? (UInt8.ofNat k) = some n → n < 64 ∧ UInt8.ofNat k = character n := by
    decide +kernel
  constructor
  · intro h
    simpa using hall b.toNat b.toNat_lt n (by simpa using h)
  · rintro ⟨hn, rfl⟩
    exact value?_character n hn

theorem character_ne_pad : ∀ n < 64, character n ≠ pad := by
  decide

/-! ## Spellings -/

/-- The characters of a byte string; `unused` gives the bits that stand for nothing. -/
def spelling (unused : Nat) : Bytes → Bytes
  | [] => []
  | [a] => [character (a.toNat / 4), character (a.toNat % 4 * 16 + unused % 16), pad, pad]
  | [a, b] => [character (a.toNat / 4), character (a.toNat % 4 * 16 + b.toNat / 16),
      character (b.toNat % 16 * 4 + unused % 4), pad]
  | a :: b :: c :: rest =>
    character (a.toNat / 4) :: character (a.toNat % 4 * 16 + b.toNat / 16)
      :: character (b.toNat % 16 * 4 + c.toNat / 64) :: character (c.toNat % 64) :: spelling unused rest

/-! ## Groups -/

section

variable {x y z w : Nat} (hx : x < 64) (hy : y < 64) (hz : z < 64) (hw : w < 64)

include hx hy

theorem ofGroups_one : ofGroups [character x, character y, pad, pad] = some [UInt8.ofNat (x * 4 + y / 16)] := by
  rw [ofGroups, value?_character x hx, value?_character y hy]
  rfl

include hz

theorem ofGroups_two : ofGroups [character x, character y, character z, pad] =
    some [UInt8.ofNat (x * 4 + y / 16), UInt8.ofNat (y % 16 * 16 + z / 4)] := by
  simp only [ofGroups, value?_character x hx, value?_character y hy, value?_character z hz,
    character_ne_pad z hz, if_false, if_true, Option.bind_eq_bind, Option.bind_some, Option.pure_def]

include hw

/-- A group without a pad is read like any other, also where it is the last. -/
theorem ofGroups_three (text : Bytes) :
    ofGroups (character x :: character y :: character z :: character w :: text) =
      (ofGroups text).map fun bytes =>
        UInt8.ofNat (x * 4 + y / 16) :: UInt8.ofNat (y % 16 * 16 + z / 4) :: UInt8.ofNat (z % 4 * 64 + w) :: bytes := by
  cases text with
  | nil =>
    simp only [ofGroups, value?_character x hx, value?_character y hy, value?_character z hz,
      value?_character w hw, character_ne_pad z hz, character_ne_pad w hw, if_false, Option.bind_eq_bind,
      Option.bind_some, Option.pure_def, Option.map_some]
  | cons b text =>
    rw [ofGroups, value?_character x hx, value?_character y hy, value?_character z hz, value?_character w hw]
    · cases ofGroups (b :: text) <;> rfl
    · simp

end

/-- The bits of a byte that stand in two characters, put together again. -/
theorem ofNat_join {b : UInt8} {high low unit : Nat} (h : (high * unit + low) % 256 = b.toNat) :
    UInt8.ofNat (high * unit + low) = b := by
  rw [← UInt8.toNat_inj, UInt8.toNat_ofNat', h]

/-- A spelling is read as what it spells. -/
theorem ofGroups_spelling (unused : Nat) (bytes : Bytes) : ofGroups (spelling unused bytes) = some bytes := by
  fun_induction spelling unused bytes with
  | case1 => rfl
  | case2 a =>
    have ha := a.toNat_lt
    rw [ofGroups_one (by omega) (by omega), ofNat_join (b := a) (by omega)]
  | case3 a b =>
    have ha := a.toNat_lt
    have hb := b.toNat_lt
    rw [ofGroups_two (by omega) (by omega) (by omega), ofNat_join (b := a) (by omega),
      ofNat_join (b := b) (by omega)]
  | case4 a b c rest ih =>
    have ha := a.toNat_lt
    have hb := b.toNat_lt
    have hc := c.toNat_lt
    rw [ofGroups_three (by omega) (by omega) (by omega) (by omega), ih, ofNat_join (b := a) (by omega),
      ofNat_join (b := b) (by omega), ofNat_join (b := c) (by omega)]
    rfl

section

variable {x y z w : Nat} (hx : x < 64) (hy : y < 64) (hz : z < 64) (hw : w < 64)

include hx hy

theorem spelling_one :
    spelling (y % 16) [UInt8.ofNat (x * 4 + y / 16)] = [character x, character y, pad, pad] := by
  have ha : (x * 4 + y / 16) / 4 = x := by omega
  have hb : (x * 4 + y / 16) % 4 * 16 + y % 16 % 16 = y := by omega
  rw [spelling, UInt8.toNat_ofNat_of_lt' (show x * 4 + y / 16 < 256 by omega), ha, hb]

include hz

theorem spelling_two :
    spelling (z % 4) [UInt8.ofNat (x * 4 + y / 16), UInt8.ofNat (y % 16 * 16 + z / 4)] =
      [character x, character y, character z, pad] := by
  have ha : (x * 4 + y / 16) / 4 = x := by omega
  have hb : (x * 4 + y / 16) % 4 * 16 + (y % 16 * 16 + z / 4) / 16 = y := by omega
  have hc : (y % 16 * 16 + z / 4) % 16 * 4 + z % 4 % 4 = z := by omega
  rw [spelling, UInt8.toNat_ofNat_of_lt' (show x * 4 + y / 16 < 256 by omega),
    UInt8.toNat_ofNat_of_lt' (show y % 16 * 16 + z / 4 < 256 by omega), ha, hb, hc]

include hw

theorem spelling_three (unused : Nat) (bytes : Bytes) :
    spelling unused (UInt8.ofNat (x * 4 + y / 16) :: UInt8.ofNat (y % 16 * 16 + z / 4) ::
      UInt8.ofNat (z % 4 * 64 + w) :: bytes) =
      character x :: character y :: character z :: character w :: spelling unused bytes := by
  have ha : (x * 4 + y / 16) / 4 = x := by omega
  have hb : (x * 4 + y / 16) % 4 * 16 + (y % 16 * 16 + z / 4) / 16 = y := by omega
  have hc : (y % 16 * 16 + z / 4) % 16 * 4 + (z % 4 * 64 + w) / 64 = z := by omega
  have hd : (z % 4 * 64 + w) % 64 = w := by omega
  rw [spelling, UInt8.toNat_ofNat_of_lt' (show x * 4 + y / 16 < 256 by omega),
    UInt8.toNat_ofNat_of_lt' (show y % 16 * 16 + z / 4 < 256 by omega),
    UInt8.toNat_ofNat_of_lt' (show z % 4 * 64 + w < 256 by omega), ha, hb, hc, hd]

end

/-- What is read spells what was read. -/
theorem spelling_of_ofGroups {text bytes : Bytes} (h : ofGroups text = some bytes) :
    ∃ unused, text = spelling unused bytes := by
  fun_induction ofGroups text generalizing bytes with
  | case1 =>
    cases h
    exact ⟨0, rfl⟩
  | case2 a b c d =>
    simp only [Option.bind_eq_bind, Option.bind_eq_some_iff, value?_eq_some_iff] at h
    obtain ⟨x, ⟨hx, rfl⟩, y, ⟨hy, rfl⟩, h⟩ := h
    split at h
    case isTrue hc =>
      split at h
      case isTrue hd =>
        cases h
        exact ⟨y % 16, by rw [spelling_one hx hy, hc, hd]⟩
      case isFalse => cases h
    case isFalse =>
      simp only [Option.bind_eq_some_iff, value?_eq_some_iff] at h
      obtain ⟨z, ⟨hz, rfl⟩, h⟩ := h
      split at h
      case isTrue hd =>
        cases h
        exact ⟨z % 4, by rw [spelling_two hx hy hz, hd]⟩
      case isFalse =>
        simp only [Option.bind_eq_some_iff, value?_eq_some_iff] at h
        obtain ⟨w, ⟨hw, rfl⟩, h⟩ := h
        cases h
        exact ⟨0, (spelling_three hx hy hz hw 0 []).symm⟩
  | case3 a b c d rest _ ih =>
    simp only [Option.bind_eq_bind, Option.bind_eq_some_iff, value?_eq_some_iff] at h
    obtain ⟨x, ⟨hx, rfl⟩, y, ⟨hy, rfl⟩, z, ⟨hz, rfl⟩, w, ⟨hw, rfl⟩, bytes, hrest, h⟩ := h
    cases h
    obtain ⟨unused, rfl⟩ := ih hrest
    exact ⟨unused, (spelling_three hx hy hz hw unused bytes).symm⟩
  | case4 => cases h

theorem ofGroups_eq_some_iff {text bytes : Bytes} :
    ofGroups text = some bytes ↔ ∃ unused, text = spelling unused bytes := by
  constructor
  · exact spelling_of_ofGroups
  · rintro ⟨unused, rfl⟩
    exact ofGroups_spelling unused bytes

/-- What holds of every character and of the pad holds of a spelling. -/
theorem forall_mem_spelling {P : UInt8 → Prop} (hcharacter : ∀ n < 64, P (character n)) (hpad : P pad)
    (unused : Nat) (bytes : Bytes) : ∀ b ∈ spelling unused bytes, P b := by
  fun_induction spelling unused bytes with
  | case1 => simp
  | case2 a =>
    have ha := a.toNat_lt
    simp only [List.forall_mem_cons, List.not_mem_nil, false_imp_iff, implies_true, and_true]
    exact ⟨hcharacter _ (by omega), hcharacter _ (by omega), hpad, hpad⟩
  | case3 a b =>
    have ha := a.toNat_lt
    have hb := b.toNat_lt
    simp only [List.forall_mem_cons, List.not_mem_nil, false_imp_iff, implies_true, and_true]
    exact ⟨hcharacter _ (by omega), hcharacter _ (by omega), hcharacter _ (by omega), hpad⟩
  | case4 a b c rest ih =>
    have ha := a.toNat_lt
    have hb := b.toNat_lt
    have hc := c.toNat_lt
    simp only [List.forall_mem_cons]
    exact ⟨hcharacter _ (by omega), hcharacter _ (by omega), hcharacter _ (by omega), hcharacter _ (by omega), ih⟩

/-- **A text is read as a byte string if its characters up to a dash, without blanks, spell it.** -/
theorem decode?_eq_some_iff {text bytes : Bytes} :
    decode? text = some bytes ↔
      ∃ unused, (text.takeWhile (· != dash)).filter (!isBlank ·) = spelling unused bytes :=
  ofGroups_eq_some_iff

end ChannelLedger.Base64
