import ChannelLedger.Der.Reader
import ChannelLedger.Proofs.Bytes.BigEndian
import Mathlib.Data.List.Forall2
import Mathlib.Data.List.TakeWhile

/-!
# What is read as a sequence of elements

Bytes may be the same elements in many ways. `IsIdentifier` and `IsLength` say how a tag and a length may be
written, `Begins` how bytes begin with both, and `Closes` which bytes are contents that are open, up to their
end marks. With them `Heads` says how bytes begin with an element, `Encodes` when they are nothing but elements
one behind the other, and `Gathers` which bytes a string is that is put together of parts.

The readers take what these say and nothing else (`readHeader_eq_some_iff`, `dropOpen_eq_some_iff`,
`readElement_eq_some_iff`, `elements?_eq_some_iff`, `collect_eq_some_iff`), so bytes are a sequence of elements
in one way only (`Encodes.unique`) and a string has one content at most (`Gathers.unique`).
-/
namespace ChannelLedger.Der

/-! ## Identifiers -/

/-- The number that groups of seven bits go on to spell. -/
def typeNumber (number : Nat) (groups : Bytes) : Nat :=
  groups.foldl (fun number b => number * 128 + b.toNat % 128) number

theorem le_typeNumber (number : Nat) (groups : Bytes) : number ≤ typeNumber number groups := by
  induction groups generalizing number with
  | nil => exact le_rfl
  | cons b groups ih =>
    calc number
      _ ≤ number * 128 + b.toNat % 128 := by omega
      _ ≤ typeNumber number (b :: groups) := ih _

theorem readTypeNumber_eq_some_iff {number n : Nat} {input rest : Bytes} :
    readTypeNumber number input = some (n, rest) ↔
      ∃ groups last, (∀ b ∈ groups, 0x80 ≤ b) ∧ last < 0x80 ∧ n = typeNumber number (groups ++ [last]) ∧
        n < 0x80000000 ∧ input = groups ++ last :: rest := by
  induction input generalizing number with
  | nil => simp [readTypeNumber]
  | cons b input ih =>
    simp only [readTypeNumber]
    constructor
    · intro h
      split at h
      case isTrue => cases h
      case isFalse hbound =>
        split at h
        case isTrue hlast =>
          cases h
          exact ⟨[], b, by simp, hlast, rfl, Nat.not_le.1 hbound, rfl⟩
        case isFalse hmore =>
          obtain ⟨groups, last, hgroups, hlast, hn, hlt, rfl⟩ := ih.1 h
          exact ⟨b :: groups, last, List.forall_mem_cons.2 ⟨UInt8.not_lt.1 hmore, hgroups⟩, hlast, hn, hlt, rfl⟩
    · rintro ⟨_ | ⟨_, groups⟩, last, hgroups, hlast, rfl, hlt, heq⟩ <;> cases heq
      · have hbound : ¬ 0x80000000 ≤ number * 128 + b.toNat % 128 := Nat.not_le.2 hlt
        rw [if_neg hbound, if_pos hlast]
        rfl
      · obtain ⟨hb, hgroups⟩ := List.forall_mem_cons.1 hgroups
        have hbound : ¬ 0x80000000 ≤ number * 128 + b.toNat % 128 :=
          Nat.not_le.2 (Nat.lt_of_le_of_lt (le_typeNumber _ (groups ++ [last])) hlt)
        rw [if_neg hbound, if_neg (UInt8.not_lt.2 hb)]
        exact ih.2 ⟨groups, last, hgroups, hlast, rfl, hlt, rfl⟩

/-- The ways to write a tag: a byte of its own, or a byte with class and form, behind which the number stands in
groups of seven bits. A number over 30 counts as 31. -/
inductive IsIdentifier (tag : UInt8) : Bytes → Prop
  | short : tag % 32 ≠ 31 → IsIdentifier tag [tag]
  | long {first last : UInt8} {groups : Bytes} : first % 32 = 31 → (∀ b ∈ groups, 0x80 ≤ b) → last < 0x80 →
      typeNumber 0 (groups ++ [last]) < 0x80000000 → tag / 32 = first / 32 →
      (tag % 32).toNat = min 31 (typeNumber 0 (groups ++ [last])) → IsIdentifier tag (first :: (groups ++ [last]))

/-- A byte is told by class and form and by its number. -/
theorem eq_numbered_iff {tag first : UInt8} {number : Nat} (hfirst : first % 32 = 31) :
    tag = (if number < 31 then first - 31 + UInt8.ofNat number else first) ↔
      tag / 32 = first / 32 ∧ (tag % 32).toNat = min 31 number := by
  have htag := tag.toNat_lt
  have hlt := first.toNat_lt
  have hfirst : first.toNat % 32 = 31 := by simpa using congrArg UInt8.toNat hfirst
  have hsub : (first - 31).toNat = first.toNat - 31 := UInt8.toNat_sub_of_le _ _ (by
    rw [UInt8.le_iff_toNat_le]
    change 31 ≤ first.toNat
    omega)
  have hdiv : tag / 32 = first / 32 ↔ tag.toNat / 32 = first.toNat / 32 := by
    rw [← UInt8.toNat_inj, UInt8.toNat_div, UInt8.toNat_div]
    rfl
  have hmod : (tag % 32).toNat = tag.toNat % 32 := by rw [UInt8.toNat_mod]; rfl
  rw [hdiv, hmod, ← UInt8.toNat_inj]
  split
  case isTrue hnumber =>
    rw [UInt8.toNat_add, hsub, UInt8.toNat_ofNat']
    omega
  case isFalse hnumber => omega

theorem readIdentifier_eq_some_iff {input rest : Bytes} {tag : UInt8} :
    readIdentifier input = some (tag, rest) ↔ ∃ identifier, IsIdentifier tag identifier ∧ input = identifier ++ rest := by
  constructor
  · intro h
    cases input with
    | nil => cases h
    | cons first input =>
      simp only [readIdentifier] at h
      split at h
      case isTrue hfirst =>
        obtain ⟨⟨number, rest'⟩, hnumber, heq⟩ := Option.bind_eq_some_iff.1 h
        obtain ⟨htag, rfl⟩ := Prod.mk.inj (Option.some.inj heq)
        obtain ⟨groups, last, hgroups, hlast, rfl, hlt, rfl⟩ := readTypeNumber_eq_some_iff.1 hnumber
        obtain ⟨hclass, hnumber⟩ := (eq_numbered_iff hfirst).1 htag.symm
        exact ⟨_, .long hfirst hgroups hlast hlt hclass hnumber, by simp⟩
      case isFalse hfirst =>
        cases h
        exact ⟨_, .short hfirst, rfl⟩
  · rintro ⟨identifier, hidentifier, rfl⟩
    cases hidentifier with
    | short hshort => rw [List.singleton_append, readIdentifier, if_neg hshort]
    | @long first last groups hfirst hgroups hlast hlt hclass hnumber =>
      have hread : readTypeNumber 0 (groups ++ last :: rest) = some (typeNumber 0 (groups ++ [last]), rest) :=
        readTypeNumber_eq_some_iff.2 ⟨groups, last, hgroups, hlast, rfl, hlt, rfl⟩
      have htag := (eq_numbered_iff hfirst).2 ⟨hclass, hnumber⟩
      rw [List.cons_append, List.append_assoc, List.singleton_append, readIdentifier, if_pos hfirst, hread]
      exact congrArg (fun tag => some (tag, rest)) htag.symm

theorem IsIdentifier.length_pos {tag : UInt8} {identifier : Bytes} (h : IsIdentifier tag identifier) :
    0 < identifier.length := by
  cases h <;> simp

/-! ## Lengths -/

/-- The ways to write a length: a byte of its own, or the number of the bytes that follow, which are digits with
any zeros in front. -/
inductive IsLength (n : Nat) : Bytes → Prop
  | short : n < 0x80 → IsLength n [UInt8.ofNat n]
  | long {zeros digits : Bytes} : (∀ b ∈ zeros, b = 0) → digits.head? ≠ some 0 → digits.length ≤ 8 →
      Bytes.toNat digits = n → 0 < (zeros ++ digits).length → (zeros ++ digits).length < 0x80 →
      IsLength n (UInt8.ofNat (0x80 + (zeros ++ digits).length) :: (zeros ++ digits))

theorem IsLength.length_pos {n : Nat} {length : Bytes} (h : IsLength n length) : 0 < length.length := by
  cases h <;> simp

theorem trimZeros_append {zeros digits : Bytes} (hzeros : ∀ b ∈ zeros, b = 0) (hdigits : digits.head? ≠ some 0) :
    Bytes.trimZeros (zeros ++ digits) = digits := by
  have hdrop : digits.dropWhile (· == 0) = digits := by
    cases digits with
    | nil => rfl
    | cons b digits =>
      have hb : b ≠ 0 := by simpa using hdigits
      simp [hb]
  rw [Bytes.trimZeros, List.dropWhile_append_of_pos fun b hb => by simp [hzeros b hb], hdrop]

/-- The first byte of a length is the length, or it says that the length is open or how many bytes follow. -/
theorem lengthByte_cases (b : UInt8) : (∃ n < 0x80, b = UInt8.ofNat n) ∨ b = 0x80 ∨
    ∃ count, 0 < count ∧ count < 0x80 ∧ b = UInt8.ofNat (0x80 + count) := by
  have hb := b.toNat_lt
  rcases Nat.lt_trichotomy b.toNat 0x80 with hlt | heq | hgt
  · exact .inl ⟨b.toNat, hlt, UInt8.ofNat_toNat.symm⟩
  · exact .inr (.inl (UInt8.toNat_inj.1 heq))
  · refine .inr (.inr ⟨b.toNat - 0x80, by omega, by omega, ?_⟩)
    rw [Nat.add_sub_cancel' (Nat.le_of_lt hgt), UInt8.ofNat_toNat]

section

variable {n count : Nat} {input tail rest : Bytes}

theorem readLength_short (h : n < 0x80) : readLength (UInt8.ofNat n :: tail) = some (some n, tail) := by
  have hbyte : (UInt8.ofNat n).toNat = n := UInt8.toNat_ofNat_of_lt' (Nat.lt_trans h (by decide))
  have hshort : UInt8.ofNat n < 0x80 := by
    rw [UInt8.lt_iff_toNat_lt, hbyte]
    exact h
  rw [readLength, if_pos hshort, hbyte]

theorem readLength_open : readLength (0x80 :: tail) = some (none, tail) := rfl

theorem readLength_long (hpos : 0 < count) (hlt : count < 0x80) :
    readLength (UInt8.ofNat (0x80 + count) :: tail) =
      if tail.length ≤ count then none
      else if 8 < (Bytes.trimZeros (tail.take count)).length then none
      else some (some (Bytes.toNat (Bytes.trimZeros (tail.take count))), tail.drop count) := by
  have hbyte : (UInt8.ofNat (0x80 + count)).toNat = 0x80 + count := by
    rw [UInt8.toNat_ofNat']
    omega
  have hlong : ¬ UInt8.ofNat (0x80 + count) < 0x80 := by
    rw [UInt8.lt_iff_toNat_lt, hbyte]
    simp
  have hstated : UInt8.ofNat (0x80 + count) ≠ 0x80 := by
    rw [ne_eq, ← UInt8.toNat_inj, hbyte]
    change ¬ 0x80 + count = 0x80
    omega
  simp only [readLength, hlong, hstated, if_false, hbyte, Nat.add_sub_cancel_left]

/-- Bytes are digits with zeros in front. -/
theorem IsLength.of_trimZeros {header : Bytes} (hpos : 0 < header.length) (hlt : header.length < 0x80)
    (hdigits : (Bytes.trimZeros header).length ≤ 8) :
    IsLength (Bytes.toNat (Bytes.trimZeros header)) (UInt8.ofNat (0x80 + header.length) :: header) := by
  have hsplit : header.takeWhile (· == 0) ++ Bytes.trimZeros header = header := List.takeWhile_append_dropWhile
  have hzeros : ∀ c ∈ header.takeWhile (· == 0), c = 0 := fun c hc => by
    simpa using List.mem_takeWhile_imp hc
  have hform := IsLength.long hzeros (Bytes.head?_trimZeros header) hdigits rfl (by rwa [hsplit]) (by rwa [hsplit])
  rwa [hsplit] at hform

/-- **A length is read from any of its ways.** Behind one of several bytes something must follow. -/
theorem readLength_eq_some_iff : readLength input = some (some n, rest) ↔
    ∃ length, IsLength n length ∧ (1 < length.length → rest ≠ []) ∧ input = length ++ rest := by
  constructor
  · intro h
    cases input with
    | nil => cases h
    | cons b tail =>
      rcases lengthByte_cases b with ⟨m, hm, rfl⟩ | rfl | ⟨count, hpos, hlt, rfl⟩
      · rw [readLength_short hm] at h
        cases h
        exact ⟨_, .short hm, by simp, rfl⟩
      · cases h
      · rw [readLength_long hpos hlt] at h
        obtain ⟨hcount, h⟩ := Option.ite_none_left_eq_some.1 h
        obtain ⟨hdigits, h⟩ := Option.ite_none_left_eq_some.1 h
        cases h
        have hlength : (tail.take count).length = count := List.length_take_of_le (by omega)
        have hform := IsLength.of_trimZeros (by rwa [hlength]) (by rwa [hlength]) (Nat.le_of_not_lt hdigits)
        rw [hlength] at hform
        refine ⟨_, hform, fun _ hempty => hcount (List.drop_eq_nil_iff.1 hempty), ?_⟩
        rw [List.cons_append, List.take_append_drop]
  · rintro ⟨length, hform, hrest, rfl⟩
    cases hform with
    | short hlt => exact readLength_short hlt
    | @long zeros digits hzeros hhead hdigits hnumber hpos hlt =>
      have hnonempty : 0 < rest.length := List.length_pos_iff.2 (hrest (by rw [List.length_cons]; omega))
      have hcount : ¬ ((zeros ++ digits) ++ rest).length ≤ (zeros ++ digits).length := by
        have hlength : ((zeros ++ digits) ++ rest).length = (zeros ++ digits).length + rest.length := List.length_append
        omega
      rw [List.cons_append, readLength_long hpos hlt, if_neg hcount, List.take_left, List.drop_left,
        trimZeros_append hzeros hhead, if_neg (Nat.not_lt.2 hdigits), hnumber]

theorem readLength_eq_none_iff : readLength input = some (none, rest) ↔ input = 0x80 :: rest := by
  constructor
  · intro h
    cases input with
    | nil => cases h
    | cons b tail =>
      rcases lengthByte_cases b with ⟨m, hm, rfl⟩ | rfl | ⟨count, hpos, hlt, rfl⟩
      · rw [readLength_short hm] at h
        cases h
      · cases h
        rfl
      · rw [readLength_long hpos hlt] at h
        obtain ⟨-, h⟩ := Option.ite_none_left_eq_some.1 h
        obtain ⟨-, h⟩ := Option.ite_none_left_eq_some.1 h
        cases h
  · rintro rfl
    exact readLength_open

end

/-! ## Identifier and length -/

/-- How bytes begin with a tag and a length, and what stands behind. A stated length fits; an open one is for
constructed elements only. -/
inductive Begins (tag : UInt8) : Option Nat → (behind input : Bytes) → Prop
  | stated {n : Nat} {identifier length behind : Bytes} : IsIdentifier tag identifier → IsLength n length →
      (1 < length.length → behind ≠ []) → n ≤ behind.length → Begins tag (some n) behind (identifier ++ (length ++ behind))
  | opened {identifier behind : Bytes} : IsIdentifier tag identifier → Tag.isConstructed tag = true →
      Begins tag none behind (identifier ++ 0x80 :: behind)

theorem readHeader_eq_some_iff {input behind : Bytes} {tag : UInt8} {length : Option Nat} :
    readHeader input = some (tag, length, behind) ↔ Begins tag length behind input := by
  constructor
  · intro h
    simp only [readHeader, Option.bind_eq_bind, Option.bind_eq_some_iff, Prod.exists] at h
    obtain ⟨tag', rest, htag, length', behind', hlength, h⟩ := h
    obtain ⟨identifier, hidentifier, rfl⟩ := readIdentifier_eq_some_iff.1 htag
    cases length' with
    | some n =>
      obtain ⟨hfits, h⟩ := Option.ite_none_left_eq_some.1 h
      cases h
      obtain ⟨written, hwritten, hbehind, rfl⟩ := readLength_eq_some_iff.1 hlength
      exact .stated hidentifier hwritten hbehind (Nat.le_of_not_lt hfits)
    | none =>
      obtain ⟨hconstructed, h⟩ := Option.ite_none_right_eq_some.1 h
      cases h
      obtain rfl := readLength_eq_none_iff.1 hlength
      exact .opened hidentifier hconstructed
  · rintro (@⟨n, identifier, length, behind, hidentifier, hlength, hbehind, hfits⟩ |
      @⟨identifier, behind, hidentifier, hconstructed⟩)
    · have htag : readIdentifier (identifier ++ (length ++ behind)) = some (tag, length ++ behind) :=
        readIdentifier_eq_some_iff.2 ⟨identifier, hidentifier, rfl⟩
      have hread : readLength (length ++ behind) = some (some n, behind) :=
        readLength_eq_some_iff.2 ⟨length, hlength, hbehind, rfl⟩
      simp only [readHeader, Option.bind_eq_bind, htag, Option.bind_some, hread, if_neg (Nat.not_lt.2 hfits)]
    · have htag : readIdentifier (identifier ++ 0x80 :: behind) = some (tag, 0x80 :: behind) :=
        readIdentifier_eq_some_iff.2 ⟨identifier, hidentifier, rfl⟩
      have hread : readLength (0x80 :: behind) = some (none, behind) := readLength_open
      simp only [readHeader, Option.bind_eq_bind, htag, Option.bind_some, hread, hconstructed, if_true]

namespace Begins

variable {tag : UInt8} {length : Option Nat} {behind input : Bytes}

theorem length_lt (h : Begins tag length behind input) : behind.length + 2 ≤ input.length := by
  cases h with
  | stated hidentifier hlength =>
    have hidentifier := hidentifier.length_pos
    have hlength := hlength.length_pos
    simp only [List.length_append]
    omega
  | opened hidentifier =>
    have hidentifier := hidentifier.length_pos
    simp only [List.length_append, List.length_cons]
    omega

theorem le {n : Nat} (h : Begins tag (some n) behind input) : n ≤ behind.length := by
  cases h
  assumption

theorem append (h : Begins tag length behind input) (more : Bytes) :
    Begins tag length (behind ++ more) (input ++ more) := by
  cases h with
  | stated hidentifier hlength hbehind hfits =>
    rw [List.append_assoc, List.append_assoc]
    refine .stated hidentifier hlength (fun h => List.append_ne_nil_of_left_ne_nil (hbehind h) more) ?_
    rw [List.length_append]
    omega
  | opened hidentifier hconstructed =>
    rw [List.append_assoc, List.cons_append]
    exact .opened hidentifier hconstructed

/-- What stands behind may be cut where the content has come to its end, if something is left. -/
theorem cut {more : Bytes} (h : Begins tag length (behind ++ more) input) (nonempty : behind ≠ [])
    (fits : ∀ n ∈ length, n ≤ behind.length) : ∃ front, input = front ++ more ∧ Begins tag length behind front := by
  cases h with
  | stated hidentifier hlength _ _ =>
    refine ⟨_, ?_, .stated hidentifier hlength (fun _ => nonempty) (fits _ rfl)⟩
    simp only [List.append_assoc]
  | opened hidentifier hconstructed =>
    refine ⟨_, ?_, .opened hidentifier hconstructed⟩
    simp only [List.append_assoc, List.cons_append]

end Begins

/-! ## Contents that are open -/

/-- An end mark stands in front. -/
def AtMark (input : Bytes) : Prop :=
  ∃ rest, input = 0 :: 0 :: rest

theorem atMark_append {input : Bytes} (h : 2 ≤ input.length) (more : Bytes) : AtMark (input ++ more) ↔ AtMark input := by
  obtain ⟨a, b, rest, rfl⟩ : ∃ a b rest, input = a :: b :: rest := by
    match input, h with
    | a :: b :: rest, _ => exact ⟨a, b, rest, rfl⟩
  simp [AtMark]

/-- The rest of contents that are open, `level` of them one inside the other: elements and end marks, each of
which closes the innermost that is open. -/
inductive Closes : (level : Nat) → Bytes → Prop
  | done : Closes 0 []
  | mark {level : Nat} {rest : Bytes} : Closes level rest → Closes (level + 1) (0 :: 0 :: rest)
  | stated {level : Nat} {tag : UInt8} {content rest input : Bytes} : ¬ AtMark input →
      Begins tag (some content.length) (content ++ rest) input → Closes (level + 1) rest → Closes (level + 1) input
  | opened {level : Nat} {tag : UInt8} {rest input : Bytes} : ¬ AtMark input →
      Begins tag none rest input → Closes (level + 2) rest → Closes (level + 1) input

theorem Closes.two_le {level : Nat} {content : Bytes} (h : Closes (level + 1) content) : 2 ≤ content.length := by
  cases h with
  | mark => simp
  | stated _ hbegins | opened _ hbegins =>
    have hlt := hbegins.length_lt
    omega

section

variable {fuel level n : Nat} {tag : UInt8} {input behind rest : Bytes}

theorem dropOpen_of_not_atMark (h : ¬ AtMark input) :
    dropOpen (fuel + 1) (level + 1) input = readHeader input >>= fun
      | (_, some length, rest) => dropOpen fuel (level + 1) (rest.drop length)
      | (_, none, rest) => dropOpen fuel (level + 2) rest :=
  dropOpen.eq_4 _ _ _ fun rest heq => h ⟨rest, heq⟩

theorem dropOpen_stated (h : ¬ AtMark input) (hbegins : Begins tag (some n) behind input) :
    dropOpen (fuel + 1) (level + 1) input = dropOpen fuel (level + 1) (behind.drop n) := by
  rw [dropOpen_of_not_atMark h, readHeader_eq_some_iff.2 hbegins]
  rfl

theorem dropOpen_opened (h : ¬ AtMark input) (hbegins : Begins tag none behind input) :
    dropOpen (fuel + 1) (level + 1) input = dropOpen fuel (level + 2) behind := by
  rw [dropOpen_of_not_atMark h, readHeader_eq_some_iff.2 hbegins]
  rfl

theorem exists_closes_of_dropOpen (h : dropOpen fuel level input = some rest) :
    ∃ content, Closes level content ∧ input = content ++ rest := by
  induction fuel generalizing level input with
  | zero =>
    cases level with
    | zero =>
      cases h
      exact ⟨[], .done, rfl⟩
    | succ level => cases h
  | succ fuel ih =>
    cases level with
    | zero =>
      cases h
      exact ⟨[], .done, rfl⟩
    | succ level =>
      by_cases hmark : AtMark input
      · obtain ⟨rest', rfl⟩ := hmark
        obtain ⟨content, hcontent, rfl⟩ := ih h
        exact ⟨_, .mark hcontent, rfl⟩
      · have hfront {front : Bytes} (heq : input = front ++ rest) : ¬ AtMark front := by
          rintro ⟨more, rfl⟩
          exact hmark ⟨more ++ rest, heq⟩
        obtain ⟨⟨tag, length, behind⟩, hheader, -⟩ :=
          Option.bind_eq_some_iff.1 ((dropOpen_of_not_atMark hmark).symm.trans h)
        have hbegins := readHeader_eq_some_iff.1 hheader
        -- the header is cut off with what the induction leaves in front of the rest
        cases length with
        | some n =>
          obtain ⟨content, hcontent, heq⟩ := ih ((dropOpen_stated hmark hbegins).symm.trans h)
          have htake : (behind.take n).length = n := List.length_take_of_le hbegins.le
          have hsplit : behind = (behind.take n ++ content) ++ rest := by
            rw [List.append_assoc, ← heq, List.take_append_drop]
          have hpos : 0 < (behind.take n ++ content).length := by
            have htwo := hcontent.two_le
            rw [List.length_append]
            omega
          rw [hsplit] at hbegins
          obtain ⟨front, hinput, hbegins⟩ := hbegins.cut (List.ne_nil_of_length_pos hpos) fun m hm => by
            cases hm
            rw [List.length_append]
            omega
          have hcontentBegins : Begins tag (some (behind.take n).length) (behind.take n ++ content) front := by
            rwa [htake]
          exact ⟨front, .stated (hfront hinput) hcontentBegins hcontent, hinput⟩
        | none =>
          obtain ⟨content, hcontent, rfl⟩ := ih ((dropOpen_opened hmark hbegins).symm.trans h)
          have hpos : 0 < content.length := Nat.lt_of_lt_of_le Nat.two_pos hcontent.two_le
          obtain ⟨front, hinput, hbegins⟩ := hbegins.cut (List.ne_nil_of_length_pos hpos) (by simp)
          exact ⟨front, .opened (hfront hinput) hbegins hcontent, hinput⟩

theorem Closes.dropOpen {content : Bytes} (h : Closes level content) (enough : (content ++ rest).length ≤ fuel) :
    dropOpen fuel level (content ++ rest) = some rest := by
  induction h generalizing fuel with
  | done => cases fuel <;> rfl
  | mark _ ih =>
    simp only [List.cons_append, List.length_cons] at enough
    obtain ⟨fuel, rfl⟩ : ∃ less, fuel = less + 1 := ⟨fuel - 1, by omega⟩
    exact ih (by omega)
  | @stated level tag content rest' input hmark hbegins _ ih =>
    have hlt := hbegins.length_lt
    simp only [List.length_append] at enough hlt
    obtain ⟨fuel, rfl⟩ : ∃ less, fuel = less + 1 := ⟨fuel - 1, by omega⟩
    have hmark' : ¬ AtMark (input ++ rest) := fun h => hmark ((atMark_append (by omega) rest).1 h)
    rw [dropOpen_stated hmark' (hbegins.append rest), List.append_assoc, List.drop_left]
    exact ih (by rw [List.length_append]; omega)
  | @opened level tag rest' input hmark hbegins _ ih =>
    have hlt := hbegins.length_lt
    simp only [List.length_append] at enough hlt
    obtain ⟨fuel, rfl⟩ : ∃ less, fuel = less + 1 := ⟨fuel - 1, by omega⟩
    have hmark' : ¬ AtMark (input ++ rest) := fun h => hmark ((atMark_append (by omega) rest).1 h)
    rw [dropOpen_opened hmark' (hbegins.append rest)]
    exact ih (by rw [List.length_append]; omega)

/-- **What is dropped are contents that are open, up to their end marks.** -/
theorem dropOpen_eq_some_iff (enough : input.length ≤ fuel) :
    dropOpen fuel level input = some rest ↔ ∃ content, Closes level content ∧ input = content ++ rest := by
  refine ⟨exists_closes_of_dropOpen, ?_⟩
  rintro ⟨content, hcontent, rfl⟩
  exact hcontent.dropOpen enough

end

/-! ## Elements -/

/-- How bytes begin with an element. -/
inductive Heads : Element → (rest input : Bytes) → Prop
  | stated {tag : UInt8} {content rest input : Bytes} : Begins tag (some content.length) (content ++ rest) input →
      Heads ⟨tag, content, false⟩ rest input
  | opened {tag : UInt8} {content rest input : Bytes} : Begins tag none (content ++ rest) input → Closes 1 content →
      Heads ⟨tag, content, true⟩ rest input

/-- **An element is read from bytes that begin with it.** -/
theorem readElement_eq_some_iff {input rest : Bytes} {e : Element} :
    readElement input = some (e, rest) ↔ Heads e rest input := by
  constructor
  · intro h
    simp only [readElement, Option.bind_eq_bind] at h
    obtain ⟨⟨tag, length, behind⟩, hheader, h⟩ := Option.bind_eq_some_iff.1 h
    have hbegins := readHeader_eq_some_iff.1 hheader
    cases length with
    | some n =>
      cases h
      refine .stated ?_
      rwa [List.length_take_of_le hbegins.le, List.take_append_drop]
    | none =>
      obtain ⟨rest', hdrop, h⟩ := Option.bind_eq_some_iff.1 h
      obtain ⟨content, hcontent, rfl⟩ := (dropOpen_eq_some_iff le_rfl).1 hdrop
      have htake : (content ++ rest').take ((content ++ rest').length - rest'.length) = content := by
        rw [List.length_append, Nat.add_sub_cancel, List.take_left]
      simp only [htake, Option.pure_def, Option.some.injEq, Prod.mk.injEq] at h
      obtain ⟨rfl, rfl⟩ := h
      exact .opened hbegins hcontent
  · rintro (@⟨tag, content, _, _, hbegins⟩ | @⟨tag, content, _, _, hbegins, hcloses⟩)
    · simp only [readElement, Option.bind_eq_bind, readHeader_eq_some_iff.2 hbegins, Option.bind_some,
        List.take_left, List.drop_left]
      rfl
    · have hdrop : dropOpen (content ++ rest).length 1 (content ++ rest) = some rest :=
        (dropOpen_eq_some_iff le_rfl).2 ⟨content, hcloses, rfl⟩
      simp only [readElement, Option.bind_eq_bind, readHeader_eq_some_iff.2 hbegins, Option.bind_some, hdrop]
      rw [List.length_append, Nat.add_sub_cancel, List.take_left]
      rfl

theorem Heads.length_lt {e : Element} {rest input : Bytes} (h : Heads e rest input) : rest.length < input.length := by
  rcases h with hbegins | ⟨hbegins, -⟩ <;>
  · have hlt := hbegins.length_lt
    rw [List.length_append] at hlt
    omega

/-- Bytes that are elements, one behind the other, with an end mark behind them if one is due. -/
inductive Encodes : (isOpen : Bool) → List Element → Bytes → Prop
  | nil : Encodes false [] []
  | mark : Encodes true [] [0, 0]
  | cons {isOpen : Bool} {e : Element} {es : List Element} {rest input : Bytes} : ¬ AtMark input → Heads e rest input →
      Encodes isOpen es rest → Encodes isOpen (e :: es) input

/-- The elements that a content consists of. -/
def Element.Contains (e : Element) (es : List Element) : Prop :=
  Encodes e.isOpen es e.content

theorem encodes_nil {isOpen : Bool} {es : List Element} : Encodes isOpen es [] ↔ isOpen = false ∧ es = [] := by
  constructor
  · rintro (_ | _ | ⟨-, hheads, -⟩)
    · exact ⟨rfl, rfl⟩
    · exact absurd hheads.length_lt (Nat.not_lt_zero _)
  · rintro ⟨rfl, rfl⟩
    exact .nil

theorem readElements_eq_some_iff {isOpen : Bool} {fuel : Nat} {content : Bytes} (enough : content.length ≤ fuel)
    {es : List Element} : readElements isOpen fuel content = some es ↔ Encodes isOpen es content := by
  induction fuel generalizing content es with
  | zero =>
    obtain rfl : content = [] := List.length_eq_zero_iff.1 (Nat.le_zero.1 enough)
    rw [encodes_nil]
    cases isOpen <;> simp [readElements, eq_comm]
  | succ fuel ih =>
    cases content with
    | nil =>
      rw [encodes_nil]
      cases isOpen <;> simp [readElements, eq_comm]
    | cons b content =>
      by_cases hmark : AtMark (b :: content)
      · obtain ⟨rest, hrest⟩ := hmark
        rw [hrest]
        simp only [readElements]
        constructor
        · intro h
          obtain ⟨hdue, h⟩ := Option.ite_none_right_eq_some.1 h
          cases h
          obtain ⟨rfl, hempty⟩ := Bool.and_eq_true_iff.1 hdue
          rw [List.isEmpty_iff.1 hempty]
          exact .mark
        · intro h
          cases h with
          | mark => rfl
          | cons hmark => exact absurd ⟨rest, rfl⟩ hmark
      · have hih {e : Element} {rest : Bytes} (hheads : Heads e rest (b :: content)) {es : List Element} :
            readElements isOpen fuel rest = some es ↔ Encodes isOpen es rest := by
          have hlt := hheads.length_lt
          exact ih (by omega)
        rw [readElements.eq_4 _ _ _ (by simp) fun rest heq => hmark ⟨rest, heq⟩]
        simp only [Option.bind_eq_bind, Option.bind_eq_some_iff, Prod.exists, readElement_eq_some_iff,
          Option.pure_def, Option.some.injEq]
        constructor
        · rintro ⟨e, rest, hheads, es, hes, rfl⟩
          exact .cons hmark hheads ((hih hheads).1 hes)
        · rintro (_ | _ | ⟨-, hheads, hes⟩)
          · exact absurd ⟨[], rfl⟩ hmark
          · exact ⟨_, _, hheads, _, (hih hheads).2 hes, rfl⟩

theorem Heads.unique {e other : Element} {rest more input : Bytes} (h : Heads e rest input)
    (hother : Heads other more input) : e = other ∧ rest = more := by
  rw [← readElement_eq_some_iff] at h hother
  exact Prod.mk.inj (Option.some.inj (h.symm.trans hother))

namespace Element

variable {e : Element} {es others : List Element}

/-- **A content is read as the elements that it consists of.** -/
theorem elements?_eq_some_iff : e.elements? = some es ↔ e.Contains es :=
  readElements_eq_some_iff le_rfl

theorem Contains.unique (h : e.Contains es) (hothers : e.Contains others) : es = others := by
  rw [← elements?_eq_some_iff] at h hothers
  exact Option.some.inj (h.symm.trans hothers)

/-- The elements inside an element of a constructed type. -/
theorem inside?_eq_some_iff {tag : UInt8} : e.inside? tag = some es ↔ e.tag = tag ∧ e.Contains es := by
  rw [inside?, Option.ite_none_right_eq_some, elements?_eq_some_iff]

theorem listOf?_eq_some_iff {tag : UInt8} :
    e.listOf? tag = some es ↔ Tag.type e.tag = Tag.type tag ∧ e.Contains es := by
  rw [listOf?, Option.ite_none_right_eq_some, elements?_eq_some_iff]

/-! ## Strings of parts -/

/-- The bytes of a string: its content, or, if it consists of parts, those of the parts one behind the other. -/
def Gathers : (nesting : Nat) → Element → Bytes → Prop
  | 0, e, bytes => Tag.isConstructed e.tag = false ∧ bytes = e.content
  | nesting + 1, e, bytes =>
    (Tag.isConstructed e.tag = false ∧ bytes = e.content) ∨
    (Tag.isConstructed e.tag = true ∧ ∃ parts pieces, e.Contains parts ∧
      List.Forall₂ (Gathers nesting) parts pieces ∧ bytes = pieces.flatten)

end Element

section

variable {α β : Type}

theorem mapM_eq_some_iff {f : α → Option β} {items : List α} {results : List β} :
    items.mapM f = some results ↔ List.Forall₂ (fun item result => f item = some result) items results := by
  induction items generalizing results with
  | nil => cases results <;> simp
  | cons item items ih =>
    simp only [List.mapM_cons, Option.bind_eq_bind, Option.bind_eq_some_iff, Option.pure_def, Option.some.injEq,
      List.forall₂_cons_left_iff, ih]
    constructor
    · rintro ⟨result, hresult, others, hothers, rfl⟩
      exact ⟨result, others, hresult, hothers, rfl⟩
    · rintro ⟨result, others, hresult, hothers, rfl⟩
      exact ⟨result, hresult, others, hothers, rfl⟩

end

namespace Element

/-- **A string is read as the bytes that it has.** -/
theorem collect_eq_some_iff {nesting : Nat} {e : Element} {bytes : Bytes} :
    e.collect nesting = some bytes ↔ e.Gathers nesting bytes := by
  induction nesting generalizing e bytes with
  | zero => cases htag : Tag.isConstructed e.tag <;> simp [collect, Gathers, htag, eq_comm]
  | succ nesting ih =>
    cases htag : Tag.isConstructed e.tag with
    | false => simp [collect, Gathers, htag, eq_comm]
    | true =>
      have hparts (parts : List Element) (pieces : List Bytes) :
          parts.mapM (collect nesting) = some pieces ↔ List.Forall₂ (Gathers nesting) parts pieces := by
        simp only [mapM_eq_some_iff, ih]
      rw [collect, if_pos htag, Gathers, htag]
      simp only [Option.bind_eq_bind, Option.bind_eq_some_iff, Option.pure_def, Option.some.injEq,
        elements?_eq_some_iff, hparts]
      constructor
      · rintro ⟨parts, hcontains, pieces, hpieces, rfl⟩
        exact .inr ⟨trivial, parts, pieces, hcontains, hpieces, rfl⟩
      · intro h
        obtain ⟨-, parts, pieces, hcontains, hpieces, rfl⟩ := h.resolve_left (by simp)
        exact ⟨parts, hcontains, pieces, hpieces, rfl⟩

theorem Gathers.unique {nesting : Nat} {e : Element} {bytes others : Bytes} (h : e.Gathers nesting bytes)
    (hothers : e.Gathers nesting others) : bytes = others := by
  rw [← collect_eq_some_iff] at h hothers
  exact Option.some.inj (h.symm.trans hothers)

end Element

end ChannelLedger.Der
