import ChannelLedger.Certificate.Name
import ChannelLedger.Proofs.Bytes.BigEndian
import ChannelLedger.Proofs.Der.Reading
import ChannelLedger.Proofs.Text.Utf8
import Mathlib.Data.List.Basic

/-!
# The texts that values hold

A value of a name has a kind, and each kind has its own way of encoding characters: UTF-8, the big-endian numbers
of the characters in two or four bytes, or one byte for each. `Holds` says which text a value holds; it is what is
read (`AttributeValue.ofElement?_eq_text_iff`), so a value holds one text at most. The values that are read but
hold none are those of `HoldsNone` (`AttributeValue.ofElement?_eq_other_iff`).
-/
namespace ChannelLedger

/-! ## Characters and their numbers -/

theorem charOfNat?_eq_some_iff {n : Nat} {c : Char} : charOfNat? n = some c ↔ c.toNat = n := by
  unfold charOfNat?
  constructor
  · intro h
    split at h
    case isTrue hvalid => rw [← Option.some.inj h, Utf8.toNat_ofNat hvalid]
    case isFalse => cases h
  · rintro rfl
    have hvalid : c.toNat.isValidChar := c.valid
    rw [if_pos hvalid, Char.ofNat_toNat]

theorem Bytes.toNat_two (a b : UInt8) : toNat [a, b] = a.toNat * 256 + b.toNat := by
  simp [toNat]

theorem Bytes.toNat_four (a b c d : UInt8) :
    toNat [a, b, c, d] = ((a.toNat * 256 + b.toNat) * 256 + c.toNat) * 256 + d.toNat := by
  simp [toNat]

theorem Bytes.exists_ofNat_two {n : Nat} (h : n < 256 ^ 2) :
    ∃ a b, Bytes.ofNat 2 n = [a, b] ∧ a.toNat * 256 + b.toNat = n := by
  obtain ⟨a, b, hab⟩ := List.length_eq_two.1 (Bytes.length_ofNat 2 n)
  exact ⟨a, b, hab, by rw [← Bytes.toNat_two, ← hab, Bytes.toNat_ofNat h]⟩

theorem Bytes.exists_ofNat_four {n : Nat} (h : n < 256 ^ 4) :
    ∃ a b c d, Bytes.ofNat 4 n = [a, b, c, d] ∧
      ((a.toNat * 256 + b.toNat) * 256 + c.toNat) * 256 + d.toNat = n := by
  obtain ⟨a, b, c, d, habcd⟩ := List.length_eq_four.1 (Bytes.length_ofNat 4 n)
  exact ⟨a, b, c, d, habcd, by rw [← Bytes.toNat_four, ← habcd, Bytes.toNat_ofNat h]⟩

theorem Char.toNat_lt_four (c : Char) : c.toNat < 256 ^ 4 := by
  have h := Utf8.toNat_cases c
  omega

/-! ## Characters of a fixed width -/

namespace AttributeValue

theorem ofPairs_eq_some_iff {content : Bytes} {cs : List Char} :
    ofPairs content = some cs ↔
      content = cs.flatMap (Bytes.ofNat 2 ·.toNat) ∧ ∀ c ∈ cs, c.toNat < 256 ^ 2 := by
  constructor
  · intro h
    fun_induction ofPairs content generalizing cs with
    | case1 =>
      cases h
      simp
    | case2 => cases h
    | case3 a b rest ih =>
      simp only [Option.bind_eq_bind, Option.bind_eq_some_iff, Option.pure_def, Option.some.injEq,
        charOfNat?_eq_some_iff] at h
      obtain ⟨c, hc, cs, hcs, rfl⟩ := h
      obtain ⟨rfl, hall⟩ := ih hcs
      rw [← Bytes.toNat_two] at hc
      refine ⟨?_, List.forall_mem_cons.2 ⟨hc ▸ Bytes.toNat_lt [a, b], hall⟩⟩
      rw [List.flatMap_cons, hc]
      exact congrArg (· ++ _) (Bytes.ofNat_toNat [a, b]).symm
  · rintro ⟨rfl, hall⟩
    induction cs with
    | nil => rfl
    | cons c cs ih =>
      obtain ⟨hc, hcs⟩ := List.forall_mem_cons.1 hall
      obtain ⟨a, b, hab, hnumber⟩ := Bytes.exists_ofNat_two hc
      simp only [List.flatMap_cons, hab, List.cons_append, List.nil_append, ofPairs,
        charOfNat?_eq_some_iff.2 hnumber.symm, ih hcs, Option.bind_eq_bind, Option.bind_some, Option.pure_def]

theorem ofQuads_eq_some_iff {content : Bytes} {cs : List Char} :
    ofQuads content = some cs ↔ content = cs.flatMap (Bytes.ofNat 4 ·.toNat) := by
  constructor
  · intro h
    fun_induction ofQuads content generalizing cs with
    | case1 =>
      cases h
      rfl
    | case2 a b c d rest n =>
      rename_i ih
      simp only [Option.bind_eq_bind, Option.bind_eq_some_iff, Option.pure_def, Option.some.injEq,
        charOfNat?_eq_some_iff] at h
      obtain ⟨char, hchar, cs, hcs, rfl⟩ := h
      have hnumber : char.toNat = Bytes.toNat [a, b, c, d] := hchar.trans (Bytes.toNat_four a b c d).symm
      rw [List.flatMap_cons, ← ih hcs, hnumber]
      exact congrArg (· ++ _) (Bytes.ofNat_toNat [a, b, c, d]).symm
    | case3 => cases h
  · rintro rfl
    induction cs with
    | nil => rfl
    | cons char cs ih =>
      obtain ⟨a, b, c, d, habcd, hnumber⟩ := Bytes.exists_ofNat_four (Char.toNat_lt_four char)
      simp only [List.flatMap_cons, habcd, List.cons_append, List.nil_append, ofQuads,
        charOfNat?_eq_some_iff.2 hnumber.symm, ih, Option.bind_eq_bind, Option.bind_some, Option.pure_def]

theorem ofBytes_eq_iff {content : Bytes} {cs : List Char} :
    ofBytes content = cs ↔ content.map (·.toNat) = cs.map (·.toNat) := by
  constructor
  · rintro rfl
    rw [ofBytes, List.map_map]
    refine List.map_congr_left fun b _ => (Utf8.toNat_ofNat (.inl ?_)).symm
    have hb := b.toNat_lt
    omega
  · intro h
    calc ofBytes content
      _ = (content.map (·.toNat)).map Char.ofNat := by rw [ofBytes, List.map_map]; rfl
      _ = (cs.map (·.toNat)).map Char.ofNat := by rw [h]
      _ = cs.map id := by rw [List.map_map]; exact List.map_congr_left fun c _ => Char.ofNat_toNat c
      _ = cs := List.map_id cs

end AttributeValue

/-! ## Values -/

/-- The text that bytes stand for, by the type of the string. -/
inductive Der.IsText (type : UInt8) (content : Bytes) (s : String) : Prop
  | utf8 : type = Tag.utf8String → content = Bytes.ofText s → IsText type content s
  | pairs : type = Tag.bmpString → content = s.toList.flatMap (Bytes.ofNat 2 ·.toNat) →
      (∀ c ∈ s.toList, c.toNat < 256 ^ 2) → IsText type content s
  | quads : type = Tag.universalString → content = s.toList.flatMap (Bytes.ofNat 4 ·.toNat) → IsText type content s
  | bytes : type ∈ [Tag.printableString, Tag.t61String, Tag.ia5String, Tag.numericString] →
      content.map (·.toNat) = s.toList.map (·.toNat) → IsText type content s

/-- The value is the text: it is a string, maybe of parts, whose bytes stand for the text. -/
def Der.Element.Holds (e : Der.Element) (s : String) : Prop :=
  ∃ content, e.Gathers maxNesting content ∧ Der.IsText (Tag.type e.tag) content s

/-- A value of a name that is no text: a sequence, a bit string, which starts with the number of bits that its last
byte does not use, or a value of one of the types that have no use in names. -/
inductive Der.Element.HoldsNone (e : Der.Element) : Prop
  | sequence : e.tag = Tag.sequence → HoldsNone e
  | bits {unused : UInt8} {bits : Bytes} : Tag.type e.tag = Tag.bitString →
      e.Gathers maxNesting (unused :: bits) → unused ≤ 7 → HoldsNone e
  | noString {content : Bytes} : Tag.type e.tag ∈ ([0x07, 0x08, 0x09, 0x0b, 0x0d, 0x0e, 0x0f, 0x1d] : List UInt8) →
      e.Gathers maxNesting content → HoldsNone e

namespace AttributeValue

variable {e : Der.Element} {type : UInt8} {content : Bytes} {s : String}

theorem ofString?_eq_text_iff : ofString? type content = some (.text s) ↔ Der.IsText type content s := by
  unfold ofString?
  constructor
  · intro h
    split at h
    case isTrue htype =>
      obtain ⟨_, hs, ⟨⟩⟩ := Option.map_eq_some_iff.1 h
      exact .utf8 htype (Utf8.decode?_eq_some_iff.1 hs)
    split at h
    case isTrue htype =>
      obtain ⟨cs, hcs, ⟨⟩⟩ := Option.map_eq_some_iff.1 h
      obtain ⟨hcontent, hall⟩ := ofPairs_eq_some_iff.1 hcs
      exact .pairs htype (by rwa [String.toList_ofList]) (by rwa [String.toList_ofList])
    split at h
    case isTrue htype =>
      obtain ⟨cs, hcs, ⟨⟩⟩ := Option.map_eq_some_iff.1 h
      exact .quads htype (by rw [String.toList_ofList]; exact ofQuads_eq_some_iff.1 hcs)
    split at h
    case isTrue htype =>
      cases h
      exact .bytes htype (by rw [String.toList_ofList]; exact ofBytes_eq_iff.1 rfl)
    split at h <;> cases h
  · rintro (⟨rfl, hcontent⟩ | ⟨rfl, hcontent, hall⟩ | ⟨rfl, hcontent⟩ | ⟨htype, hcontent⟩)
    · rw [if_pos rfl, Utf8.decode?_eq_some_iff.2 hcontent]
      rfl
    · rw [if_neg (by decide), if_pos rfl, ofPairs_eq_some_iff.2 ⟨hcontent, hall⟩, Option.map_some,
        Function.comp_apply, String.ofList_toList]
    · rw [if_neg (by decide), if_neg (by decide), if_pos rfl, ofQuads_eq_some_iff.2 hcontent, Option.map_some,
        Function.comp_apply, String.ofList_toList]
    · have hothers : ∀ type ∈ byteStrings, type ≠ Der.Tag.utf8String ∧ type ≠ Der.Tag.bmpString ∧
          type ≠ Der.Tag.universalString := by decide +kernel
      have hbytes : type ∈ byteStrings := htype
      obtain ⟨hutf8, hpairs, hquads⟩ := hothers type hbytes
      rw [if_neg hutf8, if_neg hpairs, if_neg hquads, if_pos hbytes, ofBytes_eq_iff.2 hcontent, String.ofList_toList]

theorem ofString?_eq_other_iff : ofString? type content = some .other ↔
    (type = Der.Tag.bitString ∧ ∃ unused bits, content = unused :: bits ∧ unused ≤ 7) ∨ type ∈ otherTypes := by
  have hbits : Der.Element.isBitString content = true ↔ ∃ unused bits, content = unused :: bits ∧ unused ≤ 7 := by
    cases content <;> simp [Der.Element.isBitString]
  rw [← hbits]
  unfold ofString?
  constructor
  · intro h
    split at h
    case isTrue => simp at h
    split at h
    case isTrue => simp at h
    split at h
    case isTrue => simp at h
    split at h
    case isTrue => cases h
    split at h
    case isTrue hother => exact hother.symm
    case isFalse => cases h
  · intro hother
    have hkinds : ∀ type ∈ Der.Tag.bitString :: otherTypes, type ≠ Der.Tag.utf8String ∧ type ≠ Der.Tag.bmpString ∧
        type ≠ Der.Tag.universalString ∧ type ∉ byteStrings := by decide +kernel
    obtain ⟨hutf8, hpairs, hquads, hbytes⟩ := hkinds type (by
      rcases hother with ⟨rfl, -⟩ | htype
      · exact List.mem_cons_self
      · exact List.mem_cons_of_mem _ htype)
    rw [if_neg hutf8, if_neg hpairs, if_neg hquads, if_neg hbytes, if_pos hother.symm]

/-- What is read of a value is what its bytes are read as, unless it is a sequence. -/
theorem ofElement?_eq_some_iff {value : AttributeValue} : ofElement? e = some value ↔
    (e.tag = Der.Tag.sequence ∧ value = .other) ∨ (e.tag ≠ Der.Tag.sequence ∧
      ∃ content, e.Gathers Der.Element.maxNesting content ∧ ofString? (Der.Tag.type e.tag) content = some value) := by
  unfold ofElement?
  split
  case isTrue htag => simp [htag, eq_comm]
  case isFalse htag => simp [htag, Option.bind_eq_some_iff, Der.Element.collect_eq_some_iff]

/-- **The text that is read of a value is the one that it holds.** -/
theorem ofElement?_eq_text_iff : ofElement? e = some (.text s) ↔ e.Holds s := by
  simp only [ofElement?_eq_some_iff, ofString?_eq_text_iff]
  constructor
  · rintro (⟨-, ⟨⟩⟩ | ⟨-, h⟩)
    exact h
  · intro h
    refine .inr ⟨fun htag => ?_, h⟩
    obtain ⟨content, -, htext⟩ := h
    rw [htag] at htext
    rcases htext with ⟨htype, -⟩ | ⟨htype, -, -⟩ | ⟨htype, -⟩ | ⟨htype, -⟩ <;> revert htype <;> decide

/-- **A value that is read as no text holds none.** -/
theorem ofElement?_eq_other_iff : ofElement? e = some .other ↔ e.HoldsNone := by
  rw [ofElement?_eq_some_iff]
  constructor
  · rintro (⟨htag, -⟩ | ⟨-, content, hgathers, hother⟩)
    · exact .sequence htag
    · rcases ofString?_eq_other_iff.1 hother with ⟨htype, unused, bits, rfl, hunused⟩ | htype
      · exact .bits htype hgathers hunused
      · exact .noString htype hgathers
  · have hne {type : UInt8} (htype : Der.Tag.type e.tag = type) (hsequence : type ≠ Der.Tag.type Der.Tag.sequence) :
        e.tag ≠ Der.Tag.sequence := fun htag => hsequence (htype ▸ congrArg Der.Tag.type htag)
    rintro (htag | ⟨htype, hgathers, hunused⟩ | ⟨htype, hgathers⟩)
    · exact .inl ⟨htag, rfl⟩
    · exact .inr ⟨hne htype (by decide), _, hgathers, ofString?_eq_other_iff.2 (.inl ⟨htype, _, _, rfl, hunused⟩)⟩
    · have hothers : ∀ type ∈ otherTypes, type ≠ Der.Tag.type Der.Tag.sequence := by decide +kernel
      exact .inr ⟨hne rfl (hothers _ htype), _, hgathers, ofString?_eq_other_iff.2 (.inr htype)⟩

end AttributeValue

/-- A value holds one text at most. -/
theorem Der.Element.Holds.unique {e : Der.Element} {s other : String} (h : e.Holds s) (hother : e.Holds other) :
    s = other := by
  rw [← AttributeValue.ofElement?_eq_text_iff] at h hother
  exact AttributeValue.text.inj (Option.some.inj (h.symm.trans hother))

/-- A value that is no text holds none. -/
theorem Der.Element.HoldsNone.not_holds {e : Der.Element} (h : e.HoldsNone) (s : String) : ¬ e.Holds s := by
  intro hs
  rw [← AttributeValue.ofElement?_eq_text_iff, AttributeValue.ofElement?_eq_other_iff.2 h] at hs
  cases hs

end ChannelLedger
