import ChannelLedger.Der.Reader
import ChannelLedger.Der.Writer
import ChannelLedger.Proofs.Bytes.BigEndian

/-!
# The strict reading of what is written

The distinguished encoding has one form for each value, and a strict reader takes no other: a length
in the fewest bytes, an integer in two's complement without a byte that only repeats the sign. The
reader here knows nothing of the writer. What it takes for a value, with any bytes behind it, is
exactly what the writer writes for that value (`Strict.readLength_iff`, `Strict.readElement_iff`,
`Strict.readInteger_iff`, `Strict.readFields_iff`).
-/
namespace ChannelLedger.Der

namespace Strict

/-- Reads a length. The short form is for lengths below 128. The long form names the number of its
digits, of which the first is not zero; no digits and 127 of them have other meanings. -/
def readLength : Bytes → Option (Nat × Bytes)
  | [] => none
  | b :: rest =>
    if b < 0x80 then some (b.toNat, rest)
    else
      let count := b.toNat - 0x80
      let digits := rest.take count
      if count = 0 ∨ count = 127 ∨ rest.length < count then none
      else if digits.head? = some 0 ∨ Bytes.toNat digits < 0x80 then none
      else some (Bytes.toNat digits, rest.drop count)

/-- Reads an element of the given type: its content, and what stands behind it. -/
def readElement (tag : UInt8) : Bytes → Option (Bytes × Bytes)
  | [] => none
  | first :: rest =>
    if first = tag then
      (readLength rest).bind fun (length, rest) =>
        if rest.length < length then none else some (rest.take length, rest.drop length)
    else none

/-- The number in two's complement. -/
def toInt : Bytes → Int
  | [] => 0
  | b :: bs =>
    if b < 0x80 then Bytes.toNat (b :: bs)
    else (Bytes.toNat (b :: bs) : Int) - 256 ^ (b :: bs).length

/-- Reads an integer of any size. -/
def readInteger (input : Bytes) : Option (Int × Bytes) :=
  (readElement Tag.integer input).bind fun (content, rest) =>
    if Element.isInteger content then some (toInt content, rest) else none

/-- Reads an integer and two octet strings, with nothing behind them. -/
def readFields (content : Bytes) : Option (Int × Bytes × Bytes) :=
  (readInteger content).bind fun (number, rest) =>
    (readElement Tag.octetString rest).bind fun (first, rest) =>
      (readElement Tag.octetString rest).bind fun (second, rest) =>
        if rest = [] then some (number, first, second) else none

/-- Reads a sequence of an integer and two octet strings, with nothing behind it. -/
def readHeader (input : Bytes) : Option (Int × Bytes × Bytes) :=
  (readElement Tag.sequence input).bind fun (content, rest) =>
    if rest = [] then readFields content else none

end Strict

/-! ## Lengths -/

theorem length_of_lt {n : Nat} (h : n < 0x80) : length n = [UInt8.ofNat n] :=
  if_pos h

theorem length_of_not_lt {n : Nat} (h : ¬ n < 0x80) :
    length n = UInt8.ofNat (0x80 + (Bytes.ofNat 8 n).trimZeros.length)
      :: (Bytes.ofNat 8 n).trimZeros :=
  if_neg h

/-- The digits of a number of 64 bits: they denote it, with no zero in front. -/
theorem digits_spec {n : Nat} (h : n < 2 ^ 64) :
    let digits := (Bytes.ofNat 8 n).trimZeros
    Bytes.toNat digits = n ∧ digits.head? ≠ some 0 ∧ digits.length ≤ 8 := by
  have hnum : Bytes.toNat (Bytes.ofNat 8 n).trimZeros = n := Bytes.toNat_trimZeros_ofNat h
  have hhead := Bytes.head?_trimZeros (Bytes.ofNat 8 n)
  exact ⟨hnum, hhead, Bytes.length_le_of_toNat_lt hhead (hnum.symm ▸ h)⟩

namespace Strict

theorem readLength_length {n : Nat} (h : n < 2 ^ 64) (rest : Bytes) :
    readLength (length n ++ rest) = some (n, rest) := by
  by_cases hshort : n < 0x80
  · have hbyte : (UInt8.ofNat n).toNat = n :=
      UInt8.toNat_ofNat_of_lt' (Nat.lt_trans hshort (by decide))
    have hlt : UInt8.ofNat n < 0x80 := by
      rw [UInt8.lt_iff_toNat_lt, hbyte]
      exact hshort
    rw [length_of_lt hshort, List.singleton_append, readLength, if_pos hlt, hbyte]
  · obtain ⟨hnum, hhead, hlen⟩ := digits_spec h
    rw [length_of_not_lt hshort]
    generalize (Bytes.ofNat 8 n).trimZeros = digits at hnum hhead hlen
    have hpos : digits.length ≠ 0 := by
      intro hzero
      rw [List.length_eq_zero_iff.1 hzero] at hnum
      exact hshort (hnum ▸ by decide)
    have hbyte : (UInt8.ofNat (0x80 + digits.length)).toNat = 0x80 + digits.length := by
      rw [UInt8.toNat_ofNat']
      omega
    have hlong : ¬ UInt8.ofNat (0x80 + digits.length) < 0x80 := by
      rw [UInt8.lt_iff_toNat_lt, hbyte]
      simp
    have hforms : ¬ (digits.length = 0 ∨ digits.length = 127
        ∨ (digits ++ rest).length < digits.length) := by
      rw [List.length_append]
      omega
    have hshortest : ¬ (digits.head? = some 0 ∨ n < 0x80) := not_or.2 ⟨hhead, hshort⟩
    simp only [List.cons_append, readLength, hlong, if_false, hbyte, Nat.add_sub_cancel_left,
      List.take_left, List.drop_left, hforms, hnum, hshortest]

/-- **A length is read from its one form.** -/
theorem readLength_iff {n : Nat} (h : n < 2 ^ 64) {input rest : Bytes} :
    readLength input = some (n, rest) ↔ input = length n ++ rest := by
  constructor
  · intro hread
    cases input with
    | nil => simp [readLength] at hread
    | cons b tail =>
      simp only [readLength] at hread
      split at hread
      case isTrue hshort =>
        obtain ⟨rfl, rfl⟩ := Prod.mk.inj (Option.some.inj hread)
        rw [length_of_lt (UInt8.lt_iff_toNat_lt.1 hshort), UInt8.ofNat_toNat]
        rfl
      case isFalse hlong =>
        split at hread
        case isTrue => cases hread
        case isFalse hforms =>
          split at hread
          case isTrue => cases hread
          case isFalse hshortest =>
            obtain ⟨rfl, rfl⟩ := Prod.mk.inj (Option.some.inj hread)
            obtain ⟨hhead, hlarge⟩ := not_or.1 hshortest
            have hb : 0x80 ≤ b.toNat := UInt8.le_iff_toNat_le.1 (UInt8.not_lt.1 hlong)
            have hcount : (tail.take (b.toNat - 0x80)).length = b.toNat - 0x80 := by
              rw [List.length_take]
              omega
            -- the digits that were read have no zero in front, so they are the ones that are written
            rw [length_of_not_lt hlarge, Bytes.trimZeros_ofNat hhead h, hcount,
              Nat.add_sub_cancel' hb, UInt8.ofNat_toNat, List.cons_append, List.take_append_drop]
  · rintro rfl
    exact readLength_length h rest

/-! ## Elements -/

/-- **An element is read from its one form.** -/
theorem readElement_iff {tag : UInt8} {content input rest : Bytes} (h : content.length < 2 ^ 64) :
    readElement tag input = some (content, rest) ↔ input = element tag content ++ rest := by
  constructor
  · intro hread
    cases input with
    | nil => simp [readElement] at hread
    | cons first tail =>
      simp only [readElement] at hread
      split at hread
      case isFalse => cases hread
      case isTrue htag =>
        obtain ⟨⟨n, behind⟩, hlen, hread⟩ := Option.bind_eq_some_iff.1 hread
        simp only at hread
        split at hread
        case isTrue => cases hread
        case isFalse henough =>
          obtain ⟨rfl, rfl⟩ := Prod.mk.inj (Option.some.inj hread)
          have hn : (behind.take n).length = n := by
            rw [List.length_take]
            omega
          rw [hn] at h
          rw [htag, (readLength_iff h).1 hlen, element, hn]
          simp
  · rintro rfl
    have hlen := readLength_length h (content ++ rest)
    simp [readElement, element, hlen]

theorem length_le_of_readLength {input rest : Bytes} {n : Nat}
    (h : readLength input = some (n, rest)) : rest.length ≤ input.length := by
  cases input with
  | nil => simp [readLength] at h
  | cons b tail =>
    simp only [readLength] at h
    split at h
    case isTrue =>
      obtain ⟨-, rfl⟩ := Prod.mk.inj (Option.some.inj h)
      exact Nat.le_succ _
    case isFalse =>
      split at h
      case isTrue => cases h
      case isFalse =>
        split at h
        case isTrue => cases h
        case isFalse =>
          obtain ⟨-, rfl⟩ := Prod.mk.inj (Option.some.inj h)
          rw [List.length_drop, List.length_cons]
          omega

/-- What is read of an element was there to be read. -/
theorem length_le_of_readElement {tag : UInt8} {input content rest : Bytes}
    (h : readElement tag input = some (content, rest)) :
    content.length + rest.length ≤ input.length := by
  cases input with
  | nil => simp [readElement] at h
  | cons first tail =>
    simp only [readElement] at h
    split at h
    case isFalse => cases h
    case isTrue =>
      obtain ⟨⟨n, behind⟩, hlen, h⟩ := Option.bind_eq_some_iff.1 h
      have hle := length_le_of_readLength hlen
      simp only at h
      split at h
      case isTrue => cases h
      case isFalse =>
        obtain ⟨rfl, rfl⟩ := Prod.mk.inj (Option.some.inj h)
        rw [List.length_take, List.length_drop, List.length_cons]
        omega

/-! ## Integers -/

/-- Digits without a zero in front are those of the number they denote. -/
theorem digits_eq {n : UInt64} {digits : Bytes} (hhead : digits.head? ≠ some 0)
    (h : Bytes.toNat digits = n.toNat) : (Bytes.ofNat 8 n.toNat).trimZeros = digits := by
  rw [← h]
  exact Bytes.trimZeros_ofNat hhead (h ▸ n.toNat_lt)

section

variable {n : UInt64} {b : UInt8} {bs : Bytes}

theorem unsigned_of_nil (h : (Bytes.ofNat 8 n.toNat).trimZeros = []) : unsigned n = [0] := by
  simp [unsigned, h]

theorem unsigned_of_low (h : (Bytes.ofNat 8 n.toNat).trimZeros = b :: bs) (hb : b < 0x80) :
    unsigned n = b :: bs := by
  simp [unsigned, h, hb]

/-- A first bit that would read as a sign gets a zero byte in front. -/
theorem unsigned_of_high (h : (Bytes.ofNat 8 n.toNat).trimZeros = b :: bs) (hb : ¬ b < 0x80) :
    unsigned n = 0 :: b :: bs := by
  simp [unsigned, h, UInt8.not_lt.1 hb]

theorem toInt_of_low (hb : b < 0x80) : toInt (b :: bs) = Bytes.toNat (b :: bs) :=
  if_pos hb

theorem isInteger_of_low (hb : b < 0x80) (hzero : b ≠ 0) : Element.isInteger (b :: bs) = true := by
  have hff : b ≠ 0xff := by
    rintro rfl
    exact absurd hb (by decide)
  cases bs <;> simp [Element.isInteger, hzero, hff]

theorem isInteger_of_high (hb : ¬ b < 0x80) : Element.isInteger (0 :: b :: bs) = true := by
  simp [Element.isInteger, UInt8.not_lt.1 hb]

/-- With its first bit set an integer is negative. -/
theorem toInt_of_high (hb : ¬ b < 0x80) : toInt (b :: bs) < 0 := by
  have hlt : (Bytes.toNat (b :: bs) : Int) < 256 ^ (b :: bs).length := by
    exact_mod_cast Bytes.toNat_lt (b :: bs)
  rw [toInt, if_neg hb]
  omega

end

/-- What is written for a number is minimal and denotes it. -/
theorem integer_unsigned (n : UInt64) :
    Element.isInteger (unsigned n) = true ∧ toInt (unsigned n) = n.toNat := by
  obtain ⟨hnum, hhead, -⟩ := digits_spec n.toNat_lt
  cases hdigits : (Bytes.ofNat 8 n.toNat).trimZeros with
  | nil =>
    rw [hdigits] at hnum
    rw [unsigned_of_nil hdigits, toInt_of_low (by decide), ← hnum]
    exact ⟨rfl, rfl⟩
  | cons b bs =>
    rw [hdigits] at hnum hhead
    have hzero : b ≠ 0 := by simpa using hhead
    by_cases hlow : b < 0x80
    · rw [unsigned_of_low hdigits hlow, toInt_of_low hlow, hnum]
      exact ⟨isInteger_of_low hlow hzero, rfl⟩
    · rw [unsigned_of_high hdigits hlow, toInt_of_low (by decide), Bytes.toNat_cons, hnum]
      exact ⟨isInteger_of_high hlow, by simp⟩

/-- **An integer of 64 bits has one content.** -/
theorem integer_iff (n : UInt64) (content : Bytes) :
    Element.isInteger content = true ∧ toInt content = n.toNat ↔ content = unsigned n := by
  constructor
  · rintro ⟨hminimal, hint⟩
    cases content with
    | nil => simp [Element.isInteger] at hminimal
    | cons b bs =>
      have hlow : b < 0x80 := by
        by_contra hhigh
        have : toInt (b :: bs) < 0 := toInt_of_high hhigh
        omega
      rw [toInt_of_low hlow] at hint
      have hnum : Bytes.toNat (b :: bs) = n.toNat := by exact_mod_cast hint
      by_cases hzero : b = 0
      · -- a zero in front is either the whole content or keeps the next byte from being a sign
        subst hzero
        rw [Bytes.toNat_cons] at hnum
        simp only [UInt8.toNat_zero, Nat.zero_mul, Nat.zero_add] at hnum
        cases bs with
        | nil => rw [unsigned_of_nil (digits_eq (by simp) hnum)]
        | cons c cs =>
          have hhigh : ¬ c < 0x80 := by simpa [Element.isInteger] using hminimal
          have hc : c ≠ 0 := by
            rintro rfl
            exact hhigh (by decide)
          rw [unsigned_of_high (digits_eq (by simpa using hc) hnum) hhigh]
      · rw [unsigned_of_low (digits_eq (by simpa using hzero) hnum) hlow]
  · rintro rfl
    exact integer_unsigned n

theorem length_unsigned_le (n : UInt64) : (unsigned n).length ≤ 9 := by
  obtain ⟨-, -, hlen⟩ := digits_spec n.toNat_lt
  cases hdigits : (Bytes.ofNat 8 n.toNat).trimZeros with
  | nil => simp [unsigned_of_nil hdigits]
  | cons b bs =>
    rw [hdigits, List.length_cons] at hlen
    by_cases hlow : b < 0x80
    · rw [unsigned_of_low hdigits hlow, List.length_cons]
      omega
    · rw [unsigned_of_high hdigits hlow, List.length_cons, List.length_cons]
      omega

/-- **An integer of 64 bits is read from its one form.** -/
theorem readInteger_iff {n : UInt64} {input rest : Bytes} :
    readInteger input = some ((n.toNat : Int), rest)
      ↔ input = element Tag.integer (unsigned n) ++ rest := by
  have hlen : (unsigned n).length < 2 ^ 64 := (length_unsigned_le n).trans_lt (by decide)
  constructor
  · intro hread
    obtain ⟨⟨content, behind⟩, helement, hread⟩ := Option.bind_eq_some_iff.1 hread
    simp only at hread
    split at hread
    case isFalse => cases hread
    case isTrue hminimal =>
      obtain ⟨hint, rfl⟩ := Prod.mk.inj (Option.some.inj hread)
      obtain rfl := (integer_iff n content).1 ⟨hminimal, hint⟩
      exact (readElement_iff hlen).1 helement
  · rintro rfl
    obtain ⟨hminimal, hint⟩ := integer_unsigned n
    simp only [readInteger, (readElement_iff hlen).2 rfl, Option.bind_some, hminimal, if_true, hint]

/-! ## Sequences -/

/-- What is read of the elements of a sequence, and what is left after each. -/
theorem readFields_eq_some {content first second : Bytes} {number : Int} :
    readFields content = some (number, first, second) ↔
      ∃ afterNumber afterFirst, readInteger content = some (number, afterNumber) ∧
        readElement Tag.octetString afterNumber = some (first, afterFirst) ∧
        readElement Tag.octetString afterFirst = some (second, []) := by
  simp only [readFields, Option.bind_eq_some_iff, Prod.exists, Option.ite_none_right_eq_some,
    Option.some.injEq, Prod.mk.injEq]
  constructor
  · rintro ⟨_, afterNumber, hnumber, _, afterFirst, hfirst, _, _, hsecond, rfl, rfl, rfl, rfl⟩
    exact ⟨afterNumber, afterFirst, hnumber, hfirst, hsecond⟩
  · rintro ⟨afterNumber, afterFirst, hnumber, hfirst, hsecond⟩
    exact ⟨_, _, hnumber, _, _, hfirst, _, _, hsecond, rfl, rfl, rfl, rfl⟩

theorem readHeader_eq_some {input : Bytes} {fields : Int × Bytes × Bytes} :
    readHeader input = some fields ↔
      ∃ content, readElement Tag.sequence input = some (content, []) ∧
        readFields content = some fields := by
  simp only [readHeader, Option.bind_eq_some_iff, Prod.exists, Option.ite_none_right_eq_some]
  constructor
  · rintro ⟨content, _, hsequence, rfl, hfields⟩
    exact ⟨content, hsequence, hfields⟩
  · rintro ⟨content, hsequence, hfields⟩
    exact ⟨content, _, hsequence, rfl, hfields⟩

theorem length_le_of_readFields {content first second : Bytes} {number : Int}
    (h : readFields content = some (number, first, second)) :
    first.length ≤ content.length ∧ second.length ≤ content.length := by
  obtain ⟨afterNumber, afterFirst, hnumber, hfirst, hsecond⟩ := readFields_eq_some.1 h
  obtain ⟨⟨bytes, behind⟩, hinteger, hnumber⟩ := Option.bind_eq_some_iff.1 hnumber
  simp only [Option.ite_none_right_eq_some, Option.some.injEq, Prod.mk.injEq] at hnumber
  obtain ⟨-, -, rfl⟩ := hnumber
  have h1 := length_le_of_readElement hinteger
  have h2 := length_le_of_readElement hfirst
  have h3 := length_le_of_readElement hsecond
  omega

/-- **An integer and two octet strings are read from their one form.** -/
theorem readFields_iff {n : UInt64} {content first second : Bytes} (hfirst : first.length < 2 ^ 64)
    (hsecond : second.length < 2 ^ 64) :
    readFields content = some ((n.toNat : Int), first, second) ↔
      content = element Tag.integer (unsigned n)
        ++ element Tag.octetString first ++ element Tag.octetString second := by
  simp only [readFields_eq_some, readInteger_iff, readElement_iff hfirst, readElement_iff hsecond,
    List.append_nil, List.append_assoc]
  constructor
  · rintro ⟨_, _, rfl, rfl, rfl⟩
    rfl
  · rintro rfl
    exact ⟨_, _, rfl, rfl, rfl⟩

end Strict

end ChannelLedger.Der
