import ChannelLedger.Proofs.Certificate.Forms
import Mathlib.Data.List.Flatten

/-!
# What a certificate's own bytes may be taken for

A creator's bytes are read as a text first, and only then as a certificate. A certificate holds texts that
whoever obtained it has chosen, so its bytes may hold the block of another one, and then the other one is read.
That is the only way in which a certificate is not read as itself: whatever is found in a text stands in it
(`Leads.exists_within`), from the mark that begins the block to the mark that ends it, with every character of its
base64 in between (`Within`).

Main theorem `Caller.read_der`.
-/
namespace ChannelLedger

namespace Pem

/-! ## Where lines stand in a text -/

/-- The lines stand in the text one behind the other. -/
inductive Occurs : Bytes → List Line → Prop
  | nil {text : Bytes} : Occurs text []
  | cons {front text : Bytes} {line : Line} {lines : List Line} : Occurs text lines →
      Occurs (front ++ (line.text ++ text)) (line :: lines)

namespace Occurs

theorem append_left {text : Bytes} {lines : List Line} (front : Bytes) (h : Occurs text lines) :
    Occurs (front ++ text) lines := by
  cases h with
  | nil => exact .nil
  | @cons between text line lines h =>
    rw [← List.append_assoc]
    exact .cons h

/-- The lines of a text stand in it. -/
theorem cut (fuel : Nat) (text : Bytes) : Occurs text (cut fuel text) := by
  induction fuel generalizing text with
  | zero => exact .nil
  | succ fuel ih =>
    by_cases hempty : text = []
    · rw [hempty, cut_nil]
      exact .nil
    · rw [cut_succ fuel hempty]
      generalize hraw : firstLine maxLine text = raw
      obtain ⟨rest, hrest⟩ := firstLine_prefix maxLine text
      obtain ⟨ending, hending, -⟩ := Line.exists_eq_text_append raw
      rw [hraw] at hrest
      have htext : text = [] ++ ((Line.ofRaw raw).text ++ (ending ++ rest)) := by
        rw [List.nil_append, ← List.append_assoc, ← hending, hrest]
      rw [← hrest, List.drop_left, hrest, htext]
      exact .cons ((ih rest).append_left ending)

theorem withoutMark {text : Bytes} {lines : List Line} (h : Occurs text lines) :
    Occurs text (withoutMark lines) := by
  cases h with
  | nil => exact .nil
  | @cons front text line lines h =>
    rw [Pem.withoutMark]
    split
    case isFalse => exact .cons h
    case isTrue hfrontmark =>
      obtain ⟨rest, hrest⟩ := List.isPrefixOf_iff_prefix.1 hfrontmark
      have hcons := @Occurs.cons (front ++ byteOrderMark) text { line with text := rest } lines h
      rw [← hrest, List.drop_left]
      simpa only [List.append_assoc] using hcons

theorem split {text : Bytes} {lines more : List Line} (h : Occurs text (lines ++ more)) :
    ∃ front behind, text = front ++ behind ∧ Occurs front lines ∧ Occurs behind more := by
  induction lines generalizing text with
  | nil => exact ⟨[], text, rfl, .nil, h⟩
  | cons line lines ih =>
    cases h with
    | @cons between text _ _ h =>
      obtain ⟨front, behind, rfl, hfront, hbehind⟩ := ih h
      exact ⟨between ++ (line.text ++ front), behind, by simp only [List.append_assoc], .cons hfront, hbehind⟩

theorem sublist {text : Bytes} {lines : List Line} (h : Occurs text lines) : (lines.flatMap (·.text)).Sublist text := by
  induction h with
  | nil => exact List.nil_sublist _
  | cons _ ih => exact (ih.append_left _).trans (List.sublist_append_right _ _)

end Occurs

/-! ## What a block takes from a text -/

theorem withoutBreaks_sublist (previousPartial : Bool) (lines : List Line) :
    (withoutBreaks previousPartial lines).Sublist lines := by
  fun_induction withoutBreaks previousPartial lines with
  | case1 => exact List.nil_sublist _
  | case2 _ line rest _ ih => exact ih.cons line
  | case3 _ line rest _ ih => exact ih.cons_cons line

theorem join_sublist {lines others : List Line} (h : lines.Sublist others) :
    (join lines).Sublist (others.flatMap (·.text)) :=
  (List.Sublist.flatMap_right lines fun _ _ => List.takeWhile_sublist _).trans (h.flatMap _)

/-- The data of a block is text of its lines. -/
theorem sublist_of_contents {lines : List Line} {last : Line} {headers text : Bytes}
    (h : contents lines last = some (headers, text)) : text.Sublist (lines.flatMap (·.text)) := by
  have hbreaks := withoutBreaks_sublist false lines
  simp only [contents] at h
  split at h
  case h_1 =>
    split at h
    case isTrue => cases h
    case isFalse =>
      obtain ⟨-, rfl⟩ := Prod.mk.inj (Option.some.inj h)
      exact join_sublist ((List.takeWhile_sublist _).trans hbreaks)
  case h_2 empty data hdrop =>
    split at h
    case isFalse => cases h
    case isTrue =>
      obtain ⟨-, rfl⟩ := Prod.mk.inj (Option.some.inj h)
      have hdata : data.Sublist (empty :: data) := List.sublist_cons_self empty data
      rw [← hdrop] at hdata
      exact join_sublist ((hdata.trans (List.dropWhile_sublist _)).trans hbreaks)

/-- The bytes of a block, found in a text: its marks, and between them the characters that spell the bytes. -/
def Within (label bytes block : Bytes) : Prop :=
  ∃ between unused, block = beginMark ++ label ++ between ++ (endMark ++ label ++ tailMark) ∧
    (Base64.spelling unused bytes).Sublist between

theorem Encloses.exists_within {label headers bytes text : Bytes} {block : List Line}
    (h : Encloses label headers bytes block) (hoccurs : Occurs text block) :
    ∃ front block behind, text = front ++ block ++ behind ∧ Within label bytes block := by
  obtain @⟨first, last, body, data, hfirst, -, hlast, hcontents, hdecode, -⟩ := h
  obtain ⟨hidden, htext⟩ := text_of_beginLabel? hfirst
  obtain ⟨unused, hspelling⟩ := Base64.decode?_eq_some_iff.1 hdecode
  rw [List.cons_append] at hoccurs
  cases hoccurs with
  | @cons front rest _ _ hrest =>
    obtain ⟨middle, behind, rfl, hmiddle, hbehind⟩ := hrest.split
    cases hbehind with
    | @cons between behind _ _ _ =>
      refine ⟨front, _, behind, ?_, hidden ++ tailMark ++ (middle ++ between), unused, rfl, ?_⟩
      · simp only [htext, hlast, List.append_assoc]
      · have hdata : (Base64.spelling unused bytes).Sublist data := by
          rw [← hspelling]
          exact List.filter_sublist.trans (List.takeWhile_sublist _)
        have hbetween : middle.Sublist (hidden ++ tailMark ++ (middle ++ between)) :=
          (List.sublist_append_left middle between).trans (List.sublist_append_right _ _)
        exact hdata.trans ((sublist_of_contents hcontents).trans (hmiddle.sublist.trans hbetween))

/-- Whatever is found in lines is in the text in which they stand. -/
theorem Leads.exists_within {bytes text : Bytes} {lines : List Line} (h : Leads bytes lines)
    (hoccurs : Occurs text lines) :
    ∃ label ∈ certificateLabels, ∃ front block behind, text = front ++ block ++ behind ∧ Within label bytes block := by
  induction h generalizing text with
  | @skip line _ _ _ ih =>
    cases hoccurs with
    | @cons between text _ _ hrest =>
      obtain ⟨label, hlabel, front, block, behind, rfl, hwithin⟩ := ih hrest
      exact ⟨label, hlabel, between ++ (line.text ++ front), block, behind, by simp only [List.append_assoc], hwithin⟩
  | pass _ _ _ ih =>
    obtain ⟨passed, rest, rfl, -, hrest⟩ := hoccurs.split
    obtain ⟨label, hlabel, front, block, behind, rfl, hwithin⟩ := ih hrest.withoutMark
    exact ⟨label, hlabel, passed ++ front, block, behind, by simp only [List.append_assoc], hwithin⟩
  | @here label _ _ hblock hlabel =>
    obtain ⟨text, rest, rfl, hhere, -⟩ := hoccurs.split
    obtain ⟨front, block, behind, rfl, hwithin⟩ := hblock.exists_within hhere
    exact ⟨label, hlabel, front, block, behind ++ rest, by simp only [List.append_assoc], hwithin⟩

/-- A certificate that is found in a text stands there between its marks. -/
theorem exists_within_of_certificate? {text bytes : Bytes} (h : certificate? text = some bytes) :
    ∃ label ∈ certificateLabels, ∃ front block behind, text = front ++ block ++ behind ∧ Within label bytes block :=
  (findCertificate_eq_some_iff.1 h).exists_within (Occurs.cut text.length text).withoutMark

end Pem

/-! ## The caller -/

/-- **A certificate's own bytes are read as this certificate, unless they hold the whole block of another one; then
that one is read.** -/
theorem Caller.read_der {der : Bytes} {certificate : Certificate}
    (accepted : Certificate.ofDer? der = some certificate) :
    (Caller.read der = Caller.ofSubject certificate.subject ∧ Certificate.ofPem? der = none) ∨
    ∃ label ∈ Pem.certificateLabels, ∃ front block behind bytes other, der = front ++ block ++ behind ∧
      Pem.Within label bytes block ∧ Certificate.ofDer? bytes = some other ∧
      Caller.read der = Caller.ofSubject other.subject := by
  unfold Caller.read Certificate.read
  cases hpem : Certificate.ofPem? der with
  | none =>
    rw [accepted]
    exact .inl ⟨rfl, rfl⟩
  | some other =>
    obtain ⟨bytes, hbytes, hother⟩ := Option.bind_eq_some_iff.1 hpem
    obtain ⟨label, hlabel, front, block, behind, heq, hwithin⟩ := Pem.exists_within_of_certificate? hbytes
    exact .inr ⟨label, hlabel, front, block, behind, bytes, other, heq, hwithin, hother, rfl⟩

/-! ## The certificate of a peer that an administrator's certificate describes -/

namespace SampleCertificate

def disguised : Bytes :=
  let description := Bytes.ofText "\n-----BEGIN CERTIFICATE-----\n" ++ Base64.encode admin
    ++ Bytes.ofText "\n-----END CERTIFICATE-----\n"
  ofEntries (entry SubjectEntry.commonName.type (Bytes.ofText "peer0")
    ++ entry SubjectEntry.organizationalUnit.type (Bytes.ofText "peer") ++ entry [0x55, 0x04, 0x0d] description)

/-! The lines that the certificate's bytes are read in; the length of an algorithm is a line feed, too. -/

def upToAlgorithm : Pem.Row := .ofLine (disguised.takeWhile (· ≠ Pem.lineFeed)) (by decide +kernel)

def upToBlock : Pem.Row :=
  .ofLine ((disguised.drop upToAlgorithm.raw.length).takeWhile (· ≠ Pem.lineFeed)) (by decide +kernel)

def blockBegin : Pem.Row := .ofLine (Bytes.ofText "-----BEGIN CERTIFICATE-----") (by decide +kernel)

def blockData : Pem.Row := .ofLine (Base64.encode admin) (by decide +kernel)

def behindBlock : Bytes :=
  let ending := Pem.endMark ++ Bytes.ofText "CERTIFICATE" ++ Pem.tailMark
  disguised.drop (upToAlgorithm.raw ++ upToBlock.raw ++ blockBegin.raw ++ blockData.raw ++ ending).length

theorem disguised_eq : disguised = upToAlgorithm.raw ++ (upToBlock.raw ++ (blockBegin.raw ++
    ([blockData].flatMap Pem.Row.raw ++
      (Pem.endMark ++ Bytes.ofText "CERTIFICATE" ++ Pem.tailMark ++ behindBlock)))) := by
  decide +kernel

theorem upToAlgorithm_isProse : upToAlgorithm.IsProse true := by
  refine Pem.Row.isProse_of_le ?_ ?_ ?_ <;> decide +kernel

theorem upToBlock_isProse : upToBlock.IsProse false := by
  refine Pem.Row.isProse_of_le ?_ ?_ ?_ <;> decide +kernel

theorem block_body : Pem.Body (Bytes.ofText "CERTIFICATE") admin [] [blockData] := by
  refine .plain (by decide +kernel) ?_ ⟨0, by decide +kernel⟩
  unfold Pem.Row.Shows
  decide +kernel

theorem form_disguised : Pem.Form admin true disguised := by
  rw [disguised_eq]
  refine .prose upToAlgorithm_isProse (.prose upToBlock_isProse (.certificate
    ⟨⟨[], .inl rfl, by decide +kernel⟩, by decide +kernel, by decide +kernel⟩ (by decide +kernel) block_body ?_))
  decide +kernel

theorem ofPem?_disguised : Certificate.ofPem? disguised = Certificate.ofDer? admin := by
  rw [Certificate.ofPem?, form_disguised.certificate?_eq (by decide +kernel), Option.bind_eq_bind, Option.bind_some]

theorem read_disguised : Caller.read disguised = .ok ⟨"管理员", "admin"⟩ := by
  rw [Caller.read, Certificate.read, ofPem?_disguised]
  decide +kernel

end SampleCertificate

open SampleCertificate in
theorem Caller.read_der_within :
    (Certificate.ofDer? disguised).isSome ∧
    ∃ label ∈ Pem.certificateLabels, ∃ front block behind bytes other, disguised = front ++ block ++ behind ∧
      Pem.Within label bytes block ∧ Certificate.ofDer? bytes = some other ∧
      Caller.ofSubject other.subject = .ok ⟨"管理员", "admin"⟩ := by
  have haccepted : (Certificate.ofDer? disguised).isSome := by decide +kernel
  refine ⟨haccepted, ?_⟩
  rcases Caller.read_der (Option.some_get haccepted).symm with ⟨-, hpem⟩ | ⟨label, hlabel, front, block, behind, bytes,
    other, heq, hwithin, hother, hcaller⟩
  · rw [ofPem?_disguised] at hpem
    exact absurd hpem (by decide +kernel)
  · exact ⟨label, hlabel, front, block, behind, bytes, other, heq, hwithin, hother, hcaller.symm.trans read_disguised⟩

open SampleCertificate in
/-- A certificate that names one caller and is read as another. -/
theorem Caller.read_der_disguised :
    (Certificate.ofDer? disguised).map (Caller.ofSubject ·.subject) = some (.ok ⟨"peer0", "peer"⟩) ∧
    Caller.read disguised = .ok ⟨"管理员", "admin"⟩ :=
  ⟨by decide +kernel, read_disguised⟩

end ChannelLedger
