import ChannelLedger.Proofs.Wire.Varint
import ChannelLedger.Wire.Read

/-!
# What is skipped

A reader meets fields that its schema does not declare, and has to find their end. `IsContent` says,
without reference to any reader, what may stand behind a key: how long a number, a word or a delimited
part is, and how the fields of a group are balanced, with groups no deeper than a budget. Numbers may be
spelled with more bytes than they need (`Varint.Spells`).

Main theorem `skipField_eq_ok`: exactly such contents are skipped, and to the byte.
-/
namespace ChannelLedger.Wire

open Outcome

/-! ## Numbers -/

namespace Varint

/-- The bytes spell a number in groups of seven bits. Only `left` bytes are allowed, and the last that is
allowed carries one bit. -/
inductive Spells : (left : Nat) → Bytes → Nat → Prop
  | last {left : Nat} {b : UInt8} (low : b < 0x80) (fits : left = 0 → b ≤ 1) : Spells (left + 1) [b] b.toNat
  | more {left n : Nat} {b : UInt8} {rest : Bytes} (high : 0x80 ≤ b) (spells : Spells left rest n) :
    Spells (left + 1) (b :: rest) (b.toNat - 0x80 + 128 * n)

variable {left n : Nat} {bytes input rest : Bytes} {word : UInt64}

theorem readUpTo_eq_some :
    readUpTo left input = some (n, rest) ↔ ∃ bytes, input = bytes ++ rest ∧ Spells left bytes n := by
  constructor
  · intro h
    induction left generalizing input n with
    | zero => cases h
    | succ left ih =>
      cases input with
      | nil => cases h
      | cons b input =>
        rw [readUpTo] at h
        by_cases hlow : b < 0x80
        · rw [if_pos hlow] at h
          by_cases hlast : left = 0 ∧ 1 < b
          · rw [if_pos hlast] at h
            cases h
          · rw [if_neg hlast] at h
            cases h
            exact ⟨[b], rfl, .last hlow fun hleft => UInt8.not_lt.1 fun hb => hlast ⟨hleft, hb⟩⟩
        · rw [if_neg hlow] at h
          obtain ⟨⟨m, rest'⟩, hrest, heq⟩ := Option.map_eq_some_iff.1 h
          cases heq
          obtain ⟨bytes, rfl, hspells⟩ := ih hrest
          exact ⟨b :: bytes, rfl, .more (UInt8.not_lt.1 hlow) hspells⟩
  · rintro ⟨bytes, rfl, hspells⟩
    induction hspells with
    | @last left b hlow hfits =>
      have hlast : ¬ (left = 0 ∧ 1 < b) := fun h => UInt8.not_lt.2 (hfits h.1) h.2
      rw [List.singleton_append, readUpTo, if_pos hlow, if_neg hlast]
    | more hhigh _ ih =>
      rw [List.cons_append, readUpTo, if_neg (UInt8.not_lt.2 hhigh), ih, Option.map_some]

theorem Spells.lt (h : Spells (left + 1) bytes n) : n < 2 * 128 ^ left := by
  induction left generalizing bytes n with
  | zero =>
    cases h with
    | last low fits =>
      have hle := UInt8.le_iff_toNat_le.1 (fits rfl)
      simp at hle
      omega
    | more high spells => cases spells
  | succ left ih =>
    rw [Nat.pow_succ]
    cases h with
    | last low fits =>
      have hlt := UInt8.lt_iff_toNat_lt.1 low
      have hpos := Nat.pow_pos (n := left) (show 0 < 128 by decide)
      simp at hlt
      omega
    | @more _ m b _ high spells =>
      have hbyte := b.toNat_lt
      have hrest := ih spells
      omega

/-- **The bytes that are read as a number are those that spell it.** -/
theorem read_eq_ok :
    read input = .ok (word, rest) ↔ ∃ bytes, input = bytes ++ rest ∧ Spells maxLength bytes word.toNat := by
  have hread : read input = .ok (word, rest) ↔ readUpTo maxLength input = some (word.toNat, rest) := by
    unfold read
    cases hup : readUpTo maxLength input with
    | none => simp
    | some pair =>
      obtain ⟨n, rest'⟩ := pair
      obtain ⟨bytes, -, hspells⟩ := readUpTo_eq_some.1 hup
      have hlt : n < 2 ^ 64 := hspells.lt
      have hword : UInt64.ofNat n = word ↔ n = word.toNat := by
        rw [← UInt64.toNat_inj, UInt64.toNat_ofNat_of_lt' hlt]
      simp only [Except.ok.injEq, Prod.mk.injEq, Option.some.injEq, hword]
  rw [hread, readUpTo_eq_some]

/-- What spells a number is read as it, whatever stands behind. -/
theorem Spells.read (h : Spells maxLength bytes n) (behind : Bytes) :
    Varint.read (bytes ++ behind) = .ok (UInt64.ofNat n, behind) := by
  have hlt : n < 2 ^ 64 := h.lt
  refine read_eq_ok.2 ⟨bytes, rfl, ?_⟩
  rwa [UInt64.toNat_ofNat_of_lt' hlt]

theorem Spells.ne_nil (h : Spells left bytes n) : bytes ≠ [] := by
  cases h <;> simp

end Varint

/-! ## Keys -/

namespace Key

variable {key : Key} {input rest : Bytes}

/-- The bytes spell a key. -/
def Spells (key : Key) (bytes : Bytes) : Prop :=
  IsNumber key.number ∧ Varint.Spells Varint.maxLength bytes (8 * key.number + key.wireType.code)

theorem ofCode_eq_ok {code : UInt64} :
    ofCode code = .ok key ↔ IsNumber key.number ∧ code.toNat = 8 * key.number + key.wireType.code := by
  obtain ⟨number, wireType⟩ := key
  have hcode : wireType.code < 8 := by cases wireType <;> decide
  unfold ofCode IsNumber
  constructor
  · intro h
    split at h
    case isTrue hlt =>
      split at h
      case h_1 => cases h
      case h_2 wireType' hwireType =>
        split at h
        case isTrue => cases h
        case isFalse hnumber =>
          cases h
          have hmod : code.toNat % 8 = wireType.code := by
            unfold WireType.ofCode? at hwireType
            split at hwireType <;> cases hwireType <;> assumption
          dsimp only
          omega
    case isFalse => cases h
  · rintro ⟨⟨hpos, hlt⟩, hnat⟩
    dsimp only at hpos hlt hnat
    have hmod : (8 * number + wireType.code) % 8 = wireType.code := by omega
    have hdiv : (8 * number + wireType.code) / 8 = number := by omega
    rw [hnat, if_pos (by omega), hmod, hdiv, WireType.ofCode?_code]
    exact if_neg (by omega)

/-- **The bytes that are read as a key are those that spell it.** -/
theorem read_eq_ok :
    read input = .ok (key, rest) ↔ ∃ bytes, input = bytes ++ rest ∧ key.Spells bytes := by
  unfold read Spells
  constructor
  · intro h
    obtain ⟨⟨code, rest'⟩, hcode, hkey⟩ := bind_eq_ok.1 h
    obtain ⟨key', hof, hpair⟩ := bind_eq_ok.1 hkey
    cases hpair
    obtain ⟨isNumber, hnat⟩ := ofCode_eq_ok.1 hof
    obtain ⟨bytes, rfl, hspells⟩ := Varint.read_eq_ok.1 hcode
    exact ⟨bytes, rfl, isNumber, hnat ▸ hspells⟩
  · rintro ⟨bytes, rfl, isNumber, hspells⟩
    have hnat : (UInt64.ofNat (8 * key.number + key.wireType.code)).toNat
        = 8 * key.number + key.wireType.code := UInt64.toNat_ofNat_of_lt' hspells.lt
    simp only [hspells.read rest, ok_bind, ofCode_eq_ok.2 ⟨isNumber, hnat⟩, pure_eq]

theorem Spells.read {bytes : Bytes} (h : key.Spells bytes) (behind : Bytes) :
    Key.read (bytes ++ behind) = .ok (key, behind) :=
  read_eq_ok.2 ⟨bytes, rfl, h⟩

end Key

/-! ## Contents -/

/-- The fields of a group and its end. What stands behind the key of a member is described by `member`. -/
inductive IsGroup (member : Key → Bytes → Prop) (number : Nat) : Bytes → Prop
  | ending {bytes : Bytes} (spells : (Key.mk number .endGroup).Spells bytes) : IsGroup member number bytes
  | field {key : Key} {front content rest : Bytes} (spells : key.Spells front) (isMember : member key content)
      (others : IsGroup member number rest) : IsGroup member number (front ++ content ++ rest)

/-- What may stand behind a key, with groups no deeper than a budget. -/
def IsContent : (budget : Nat) → Key → Bytes → Prop
  | 0, _, _ => False
  | budget + 1, key, bytes =>
    match key.wireType with
    | .varint => ∃ n, Varint.Spells Varint.maxLength bytes n
    | .fixed64 => bytes.length = 8
    | .fixed32 => bytes.length = 4
    | .delimited =>
      ∃ length content, bytes = length ++ content ∧ Varint.Spells Varint.maxLength length content.length
    | .startGroup => IsGroup (IsContent budget) key.number bytes
    | .endGroup => False

variable {budget number count : Nat} {key : Key} {input content rest : Bytes}

theorem IsContent.wireType_ne (h : IsContent budget key content) : key.wireType ≠ .endGroup := by
  intro hend
  cases budget with
  | zero => exact h
  | succ budget =>
    unfold IsContent at h
    rw [hend] at h
    exact h

/-! ## Skipping -/

theorem skipBytes_eq_ok :
    skipBytes count input = .ok rest ↔ ∃ content, input = content ++ rest ∧ content.length = count := by
  unfold skipBytes
  constructor
  · intro h
    split at h
    case isTrue => cases h
    case isFalse hfits =>
      cases h
      refine ⟨input.take count, (List.take_append_drop ..).symm, ?_⟩
      rw [List.length_take]
      omega
  · rintro ⟨content, rfl, rfl⟩
    rw [if_neg (by simp), List.drop_left]

section

variable {skip : Key → Bytes → Except Cause Bytes} {member : Key → Bytes → Prop}

theorem isGroup_of_skipGroup
    (hskip : ∀ key input rest, skip key input = .ok rest → ∃ content, input = content ++ rest ∧ member key content)
    {fuel : Nat} (h : skipGroup skip number fuel input = .ok rest) :
    ∃ content, input = content ++ rest ∧ IsGroup member number content := by
  induction fuel generalizing input with
  | zero => cases h
  | succ fuel ih =>
    rw [skipGroup] at h
    obtain ⟨⟨key, input'⟩, hkey, hbehind⟩ := bind_eq_ok.1 h
    obtain ⟨front, rfl, hspells⟩ := Key.read_eq_ok.1 hkey
    dsimp only at hbehind
    split at hbehind
    case isTrue hend =>
      split at hbehind
      case isTrue hnumber =>
        cases hbehind
        obtain ⟨number', wireType⟩ := key
        cases hend
        cases hnumber
        exact ⟨front, rfl, .ending hspells⟩
      case isFalse => cases hbehind
    case isFalse =>
      obtain ⟨middle, hfield, hrest⟩ := bind_eq_ok.1 hbehind
      obtain ⟨content, rfl, hmember⟩ := hskip _ _ _ hfield
      obtain ⟨others, rfl, hothers⟩ := ih hrest
      exact ⟨front ++ content ++ others, by simp only [List.append_assoc], .field hspells hmember hothers⟩

theorem IsGroup.skipGroup (hskip : ∀ key content behind, member key content → skip key (content ++ behind) = .ok behind)
    (hend : ∀ key content, member key content → key.wireType ≠ .endGroup)
    (h : IsGroup member number content) (behind : Bytes) {fuel : Nat} (hfuel : content.length ≤ fuel) :
    Wire.skipGroup skip number fuel (content ++ behind) = .ok behind := by
  induction h generalizing fuel with
  | ending spells =>
    have hpos := List.length_pos_iff.2 spells.2.ne_nil
    obtain ⟨fuel, rfl⟩ : ∃ left, fuel = left + 1 := ⟨fuel - 1, by omega⟩
    simp only [Wire.skipGroup, spells.read behind, ok_bind, if_true, pure_eq]
  | @field key front content rest spells isMember _ ih =>
    have hpos := List.length_pos_iff.2 spells.2.ne_nil
    simp only [List.length_append] at hfuel
    obtain ⟨fuel, rfl⟩ : ∃ left, fuel = left + 1 := ⟨fuel - 1, by omega⟩
    simp only [Wire.skipGroup, List.append_assoc, spells.read _, ok_bind, hend _ _ isMember, if_false,
      hskip _ _ _ isMember, @ih fuel (by omega)]

end

/-- **A content is skipped to its end, and nothing else is skipped.** -/
theorem skipField_eq_ok :
    skipField budget key input = .ok rest ↔ ∃ content, input = content ++ rest ∧ IsContent budget key content := by
  induction budget generalizing key input rest with
  | zero => simp [skipField, IsContent]
  | succ budget ih =>
    obtain ⟨number, wireType⟩ := key
    cases wireType with
    | varint =>
      unfold skipField IsContent
      rw [map_eq_ok]
      constructor
      · rintro ⟨⟨n, rest⟩, hread, rfl⟩
        obtain ⟨bytes, rfl, hspells⟩ := Varint.read_eq_ok.1 hread
        exact ⟨bytes, rfl, _, hspells⟩
      · rintro ⟨bytes, rfl, n, hspells⟩
        exact ⟨_, hspells.read rest, rfl⟩
    | fixed64 => exact skipBytes_eq_ok
    | fixed32 => exact skipBytes_eq_ok
    | delimited =>
      unfold skipField IsContent
      constructor
      · intro h
        obtain ⟨⟨length, input'⟩, hread, hskip⟩ := bind_eq_ok.1 h
        obtain ⟨front, rfl, hspells⟩ := Varint.read_eq_ok.1 hread
        obtain ⟨content, rfl, hlength⟩ := skipBytes_eq_ok.1 hskip
        exact ⟨front ++ content, (List.append_assoc ..).symm, front, content, rfl, hlength ▸ hspells⟩
      · rintro ⟨_, rfl, front, content, rfl, hspells⟩
        have hlength : (UInt64.ofNat content.length).toNat = content.length :=
          UInt64.toNat_ofNat_of_lt' hspells.lt
        simp only [List.append_assoc, hspells.read, ok_bind, hlength]
        exact skipBytes_eq_ok.2 ⟨content, rfl, rfl⟩
    | startGroup =>
      unfold skipField IsContent
      constructor
      · exact isGroup_of_skipGroup fun _ _ _ h => ih.1 h
      · rintro ⟨content, rfl, hgroup⟩
        refine hgroup.skipGroup (fun _ content _ h => ih.2 ⟨content, rfl, h⟩)
          (fun _ _ h => h.wireType_ne) rest ?_
        rw [List.length_append]
        omega
    | endGroup => simp [skipField, IsContent]

end ChannelLedger.Wire
