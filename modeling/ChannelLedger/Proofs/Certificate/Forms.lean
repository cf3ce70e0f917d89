import ChannelLedger.Certificate.Caller
import ChannelLedger.Der.Writer
import ChannelLedger.Proofs.Certificate.Blocks
import ChannelLedger.Proofs.Certificate.Rows

/-!
# The forms of a certificate in a text

A certificate may be wrapped in a text in many ways: in lines of any length with any kind of line break, behind
prose and other blocks, with anything behind it. `Form` says which texts these are, byte by byte. It knows
nothing of how a text is read, but whatever the form, the bytes that are read are those that were wrapped
(`Form.certificate?_eq`), so the caller is the one that the certificate names.

Main theorem `Caller.read_form`.
-/
namespace ChannelLedger

namespace Pem

/-! ## Texts that hold a certificate -/

/-- What may stand in front of a line that begins a block: nothing, or the mark at the start of a text. The text
behind a block counts as a new one. -/
def IsMark (start : Bool) (mark : Bytes) : Prop :=
  mark = [] ∨ start = true ∧ mark = byteOrderMark

/-- Bytes that are taken for a line that begins a block. -/
def Begins (start : Bool) (piece : Bytes) : Prop :=
  ∃ mark label ending, IsMark start mark ∧ piece = mark ++ (beginMark ++ label ++ tailMark) ++ ending ∧
    ∀ b ∈ ending, isTrailing b = true

namespace Row

/-- The line begins no block. -/
def IsProse (start : Bool) (row : Row) : Prop :=
  ∀ piece ∈ pieces row.raw, ¬ Begins start piece

/-- The line begins a block. -/
structure Opens (start : Bool) (label : Bytes) (row : Row) : Prop where
  text : ∃ mark, IsMark start mark ∧ row.text = mark ++ (beginMark ++ label ++ tailMark)
  label : 0 ∉ label
  fits : row.raw.length ≤ maxLine

/-- The line ends a block. -/
structure Closes (label : Bytes) (row : Row) : Prop where
  text : row.text = endMark ++ label ++ tailMark
  fits : row.raw.length ≤ maxLine

end Row

/-- The texts in which a certificate stands: lines that begin no block and blocks of other labels, the block of
the certificate, and anything from the line feed behind its last line on. -/
inductive Form (data : Bytes) : (start : Bool) → Bytes → Prop
  | prose {start : Bool} {row : Row} {text : Bytes} : row.IsProse start → Form data false text →
      Form data start (row.raw ++ text)
  | other {start : Bool} {first last : Row} {rows headers : List Row} {label content text : Bytes} :
      first.Opens start label → label ∉ certificateLabels → Body label content headers rows → content ≠ [] →
      last.Closes label → Form data true text →
      Form data start (first.raw ++ (rows.flatMap Row.raw ++ (last.raw ++ text)))
  | certificate {start : Bool} {first : Row} {rows : List Row} {label rest : Bytes} :
      first.Opens start label → label ∈ certificateLabels → Body label data [] rows →
      (∀ b ∈ rest.takeWhile (· ≠ lineFeed), isTrailing b = true) →
      Form data start (first.raw ++ (rows.flatMap Row.raw ++ (endMark ++ label ++ tailMark ++ rest)))

/-! ## Lines that begin a block -/

/-- Lines as they count, at the start of a text or not. -/
def unmarked (start : Bool) (lines : List Line) : List Line :=
  if start then withoutMark lines else lines

theorem beginLabel?_of_text {line : Line} {label : Bytes} (h : line.text = beginMark ++ label ++ tailMark)
    (hlabel : 0 ∉ label) : beginLabel? line = some label := by
  have hfrontmark : beginMark.isPrefixOf line.text = true := by
    rw [h, List.append_assoc, List.isPrefixOf_iff_prefix]
    exact List.prefix_append ..
  have htailmark : tailMark.isSuffixOf line.text = true := by
    rw [h, List.isSuffixOf_iff_suffix]
    exact List.suffix_append ..
  have hdrop : line.text.drop beginMark.length = label ++ tailMark := by
    rw [h, List.append_assoc, List.drop_left]
  simp only [beginLabel?, hfrontmark, htailmark, and_self, if_true, hdrop, List.length_append, Nat.add_sub_cancel,
    List.take_left, visible_eq_self hlabel]

/-- The marks of a line that begins a block do not overlap: the first ends in a blank, and the second has none. -/
theorem exists_between_marks {text : Bytes} (hfrontmark : beginMark <+: text) (htailmark : tailMark <:+ text) :
    ∃ middle, text = beginMark ++ middle ++ tailMark := by
  obtain ⟨rest, hrest⟩ := hfrontmark
  obtain ⟨front, hfront⟩ := htailmark
  rcases List.append_eq_append_iff.1 (hrest.trans hfront.symm) with ⟨middle, hmiddle, -⟩ | ⟨overlap, hoverlap, htail⟩
  · exact ⟨middle, by rw [← hfront, hmiddle]⟩
  · rcases List.eq_nil_or_concat overlap with rfl | ⟨overlap, last, rfl⟩
    · exact ⟨[], by rw [← hrest, ← List.nil_append rest, ← htail, List.append_nil]⟩
    · have hlast : last = 0x20 := by
        have hblank : beginMark.getLast? = some 0x20 := by decide +kernel
        rw [hoverlap, List.concat_eq_append, ← List.append_assoc, List.getLast?_concat] at hblank
        exact Option.some.inj hblank
      have hmem : 0x20 ∈ tailMark := by
        rw [htail, hlast, List.concat_eq_append]
        simp
      exact absurd hmem (by decide +kernel)

/-- A line that begins a block has its label behind the first mark; something may hide behind a zero byte. -/
theorem text_of_beginLabel? {line : Line} {label : Bytes} (h : beginLabel? line = some label) :
    ∃ hidden, line.text = beginMark ++ (label ++ hidden) ++ tailMark := by
  rw [beginLabel?] at h
  split at h
  case isFalse => cases h
  case isTrue hmarks =>
    obtain ⟨middle, htext⟩ := exists_between_marks (List.isPrefixOf_iff_prefix.1 hmarks.1)
      (List.isSuffixOf_iff_suffix.1 hmarks.2)
    simp only [htext, List.append_assoc, List.drop_left, List.length_append, Nat.add_sub_cancel, List.take_left,
      Option.some.injEq] at h
    exact ⟨middle.dropWhile (· != 0), by rw [htext, ← h, visible, List.takeWhile_append_dropWhile]⟩

/-- The first line of a text may lose a mark. -/
theorem exists_unmarked_cons (start : Bool) (line : Line) (rest : List Line) :
    ∃ mark text, IsMark start mark ∧ line.text = mark ++ text ∧
      unmarked start (line :: rest) = { line with text := text } :: rest := by
  cases start with
  | false => exact ⟨[], line.text, .inl rfl, rfl, rfl⟩
  | true =>
    rw [unmarked, if_pos rfl, withoutMark]
    split
    case isTrue h =>
      obtain ⟨text, htext⟩ := List.isPrefixOf_iff_prefix.1 h
      exact ⟨byteOrderMark, text, .inr ⟨rfl, rfl⟩, htext.symm, by rw [← htext, List.drop_left]⟩
    case isFalse => exact ⟨[], line.text, .inl rfl, rfl, rfl⟩

/-- A line that begins a block is read without the mark in front. -/
theorem unmarked_cons {start : Bool} {mark text : Bytes} (h : IsMark start mark) {line : Line}
    (htext : line.text = mark ++ (beginMark ++ text)) (rest : List Line) :
    unmarked start (line :: rest) = { line with text := beginMark ++ text } :: rest := by
  have hstart : ∀ text, byteOrderMark.isPrefixOf (beginMark ++ text) = false := fun text => by
    have hmark : beginMark = 0x2d :: beginMark.tail := by decide +kernel
    rw [hmark]
    rfl
  rcases h with rfl | ⟨rfl, rfl⟩
  · rw [List.nil_append] at htext
    cases start with
    | false => rw [unmarked, if_neg Bool.false_ne_true, ← htext]
    | true => rw [unmarked, if_pos rfl, withoutMark, htext, hstart, if_neg Bool.false_ne_true, ← htext]
  · have hfrontmark : byteOrderMark.isPrefixOf line.text = true := by
      rw [htext, List.isPrefixOf_iff_prefix]
      exact List.prefix_append ..
    rw [unmarked, if_pos rfl, withoutMark, if_pos hfrontmark, htext, List.drop_left]

/-- A piece that is taken for the first line of a block, with or without the mark, begins one. -/
theorem begins_of_beginLabel? {start : Bool} {mark text piece : Bytes} {label : Bytes} {line : Line}
    (hmark : IsMark start mark) (htext : (Line.ofRaw piece).text = mark ++ text) (hline : line.text = text)
    (h : beginLabel? line = some label) : Begins start piece := by
  obtain ⟨hidden, hlabel⟩ := text_of_beginLabel? h
  obtain ⟨ending, hpiece, hending, -⟩ := Line.exists_eq_text_append piece
  exact ⟨mark, label ++ hidden, ending, hmark, by rw [← hlabel, hline, ← htext]; exact hpiece, hending⟩

/-- Bytes that begin a block show that by a dash. -/
theorem not_begins {start : Bool} {piece : Bytes} (h : piece.head? ≠ some 0x2d)
    (hmark : piece.take 4 ≠ byteOrderMark ++ [0x2d]) : ¬ Begins start piece := by
  have hbegin : beginMark = 0x2d :: beginMark.tail := by decide +kernel
  rintro ⟨mark, label, ending, rfl | ⟨-, rfl⟩, rfl, -⟩
  · exact h (by rw [hbegin]; rfl)
  · exact hmark (by rw [hbegin]; rfl)

theorem Row.isProse_of_le {start : Bool} {row : Row} (fits : row.raw.length ≤ maxLine) (h : row.raw.head? ≠ some 0x2d)
    (hmark : row.raw.take 4 ≠ byteOrderMark ++ [0x2d]) : row.IsProse start := by
  intro piece hpiece
  rw [pieces_of_le fits, List.mem_singleton] at hpiece
  exact hpiece ▸ not_begins h hmark

theorem Leads.skip_all {bytes : Bytes} {front rest : List Line} (h : ∀ line ∈ front, beginLabel? line = none)
    (hrest : Leads bytes rest) : Leads bytes (front ++ rest) := by
  induction front with
  | nil => exact hrest
  | cons line front ih =>
    obtain ⟨hline, hfront⟩ := List.forall_mem_cons.1 h
    exact .skip hline (ih hfront)

/-! ## Reading each part -/

/-- A line that begins no block is passed. -/
theorem Row.IsProse.leads {start : Bool} {row : Row} (h : row.IsProse start) {bytes : Bytes} {rest : List Line}
    (hrest : Leads bytes rest) : Leads bytes (unmarked start (row.lines ++ rest)) := by
  obtain ⟨others, hpieces⟩ := exists_pieces_eq_cons row.raw
  unfold Row.IsProse at h
  rw [hpieces, List.forall_mem_cons] at h
  rw [Row.lines, hpieces, List.map_cons, List.cons_append]
  obtain ⟨mark, text, hmark, htext, hcons⟩ :=
    exists_unmarked_cons start (.ofRaw (row.raw.take maxLine)) (others.map .ofRaw ++ rest)
  rw [hcons]
  refine .skip (Option.eq_none_iff_forall_ne_some.2 fun label hlabel => ?_) (.skip_all ?_ hrest)
  · exact h.1 (begins_of_beginLabel? hmark htext rfl hlabel)
  · intro line hline
    obtain ⟨piece, hpiece, rfl⟩ := List.mem_map.1 hline
    refine Option.eq_none_iff_forall_ne_some.2 fun label hlabel => ?_
    exact h.2 piece hpiece (begins_of_beginLabel? (.inl rfl) (List.nil_append _).symm rfl hlabel)

theorem Row.Opens.unmarked_lines {start : Bool} {label : Bytes} {row : Row} (h : row.Opens start label)
    (rest : List Line) :
    ∃ first, unmarked start (row.lines ++ rest) = first :: rest ∧ beginLabel? first = some label := by
  obtain ⟨mark, hmark, htext⟩ := h.text
  rw [List.append_assoc, ← row.text_ofRaw_raw] at htext
  rw [Row.lines_of_le h.fits, List.singleton_append, unmarked_cons hmark htext]
  exact ⟨_, rfl, beginLabel?_of_text (List.append_assoc ..).symm h.label⟩

/-- The last line of a block has a colon only in the label. -/
theorem hasColon_ofRaw {label ending : Bytes} (hlabel : 0x3a ∉ label) (dropped : ∀ b ∈ ending, isTrailing b = true) :
    (Line.ofRaw (endMark ++ label ++ tailMark ++ ending)).hasColon = false := by
  have hend : 0x3a ∉ endMark := by decide +kernel
  have htail : 0x3a ∉ tailMark := by decide +kernel
  have hending : 0x3a ∉ ending := fun h => absurd (dropped _ h) (by decide)
  simp [Line.ofRaw, hend, htail, hending, hlabel]

theorem Row.Closes.lines_eq {label : Bytes} {row : Row} (h : row.Closes label) :
    ∃ last, row.lines = [last] ∧ last.text = endMark ++ label ++ tailMark ∧
      (0x3a ∉ label → last.hasColon = false) := by
  refine ⟨.ofRaw row.raw, Row.lines_of_le h.fits, by rw [row.text_ofRaw_raw, h.text], fun hlabel => ?_⟩
  rw [row.raw_eq, h.text]
  exact hasColon_ofRaw hlabel row.dropped_raw

/-- The line that ends the block of a certificate, whatever stands behind it. -/
theorem exists_last {label rest : Bytes} (hlabel : label ∈ certificateLabels)
    (hrest : ∀ b ∈ rest.takeWhile (· ≠ lineFeed), isTrailing b = true) :
    ∃ last more, cutAll (endMark ++ label ++ tailMark ++ rest) = last :: more ∧
      last.text = endMark ++ label ++ tailMark ∧ last.hasColon = false := by
  obtain ⟨hbreak, hshort, hdash, hcolon⟩ : lineFeed ∉ endMark ++ label ++ tailMark ∧
      (endMark ++ label ++ tailMark).length ≤ maxLine ∧
      (∀ b, (endMark ++ label ++ tailMark).getLast? = some b → isTrailing b = false) ∧ 0x3a ∉ label := by
    revert label
    decide +kernel
  have hdropped : ∀ b ∈ firstLine (maxLine - (endMark ++ label ++ tailMark).length) rest, isTrailing b = true := by
    intro b hb
    rcases mem_firstLine hb with hb | rfl
    · exact hrest b hb
    · decide
  have hne : endMark ++ label ++ tailMark ++ rest ≠ [] := by
    rw [← List.length_pos_iff, List.length_append, List.length_append]
    exact Nat.add_pos_left (Nat.add_pos_right _ (by decide +kernel)) _
  obtain ⟨more, hcut⟩ := exists_cutAll_eq_cons hne
  rw [firstLine_append rest hbreak hshort] at hcut
  exact ⟨_, more, hcut, Line.text_ofRaw hdash hdropped, hasColon_ofRaw hcolon hdropped⟩

/-- A block whose lines are read. -/
theorem Body.encloses {label data : Bytes} {headers rows : List Row} (h : Body label data headers rows)
    (hdata : data ≠ []) {first last : Line} (hfirst : beginLabel? first = some label)
    (hlast : last.text = endMark ++ label ++ tailMark) (hcolon : 0x3a ∉ label → last.hasColon = false) :
    Encloses label (join (headers.flatMap Row.lines)) data (first :: rows.flatMap Row.lines ++ [last]) := by
  obtain ⟨text, hcontents, hdecode⟩ := h.contents_eq hcolon
  exact .intro hfirst h.isEnd_eq_false hlast hcontents hdecode hdata

/-! ## Reading the text -/

/-- **The lines of a form lead to what it wraps.** -/
theorem Form.leads {data : Bytes} (hdata : data ≠ []) {start : Bool} {text : Bytes} (h : Form data start text) :
    Leads data (unmarked start (cutAll text)) := by
  induction h with
  | @prose start row text hrow _ ih =>
    rw [Row.cutAll_raw]
    exact hrow.leads ih
  | @other start first last rows headers label content text hfirst hlabel hbody hcontent hlast _ ih =>
    rw [Row.cutAll_raw, Row.cutAll_rows, Row.cutAll_raw]
    obtain ⟨opening, hopening, hbegin⟩ := hfirst.unmarked_lines (rows.flatMap Row.lines ++ (last.lines ++ cutAll text))
    obtain ⟨closing, hlines, htext, hcolon⟩ := hlast.lines_eq
    have hpass := Leads.pass (hbody.encloses hcontent hbegin htext hcolon) hlabel ih
    rw [hopening, hlines]
    simpa only [List.cons_append, List.append_assoc] using hpass
  | @certificate start first rows label rest hfirst hlabel hbody hrest =>
    obtain ⟨closing, more, hcut, htext, hcolon⟩ := exists_last hlabel hrest
    rw [Row.cutAll_raw, Row.cutAll_rows, hcut]
    obtain ⟨opening, hopening, hbegin⟩ := hfirst.unmarked_lines (rows.flatMap Row.lines ++ closing :: more)
    have hhere : Leads data ((opening :: rows.flatMap Row.lines ++ [closing]) ++ more) :=
      .here (hbody.encloses hdata hbegin htext fun _ => hcolon) hlabel
    rw [hopening]
    simpa only [List.cons_append, List.append_assoc, List.nil_append] using hhere

/-- What is read of a form is what it wraps. -/
theorem Form.certificate?_eq {data text : Bytes} (hdata : data ≠ []) (h : Form data true text) :
    certificate? text = some data :=
  findCertificate_eq_some_iff.2 (h.leads hdata)

end Pem

/-! ## The caller -/

/-- **In whatever form a text wraps a certificate, the certificate is read from it, and the caller that the text
names is the one that the certificate's subject names.** -/
theorem Caller.read_form {der : Bytes} {certificate : Certificate}
    (accepted : Certificate.ofDer? der = some certificate) :
    (∀ text, Pem.Form der true text → Pem.certificate? text = some der) ∧
    ∀ text, Pem.certificate? text = some der → Caller.read text = Caller.ofSubject certificate.subject := by
  constructor
  · intro text form
    refine form.certificate?_eq fun hempty => ?_
    rw [hempty] at accepted
    cases accepted
  · intro text htext
    have hpem : Certificate.ofPem? text = some certificate := by
      rw [Certificate.ofPem?, htext]
      exact accepted
    rw [Caller.read, Certificate.read, hpem]
    rfl

/-! ## A certificate behind prose and another block -/

namespace SampleCertificate

/-- An attribute in a set of its own. -/
def entry (type text : Bytes) : Bytes :=
  Der.element Der.Tag.set (Der.element Der.Tag.sequence
    (Der.element Der.Tag.objectIdentifier type ++ Der.element Der.Tag.utf8String text))

/-- An object identifier without parameters. -/
def algorithm (type : Bytes) : Bytes :=
  Der.element Der.Tag.sequence (Der.element Der.Tag.objectIdentifier type)

/-- A key on the curve P-256. -/
def key : Bytes :=
  let curve := Der.element Der.Tag.objectIdentifier [0x2a, 0x86, 0x48, 0xce, 0x3d, 0x02, 0x01]
    ++ Der.element Der.Tag.objectIdentifier [0x2a, 0x86, 0x48, 0xce, 0x3d, 0x03, 0x01, 0x07]
  let point := Bytes.ofNat 32 0x6b17d1f2e12c4247f8bce6e563a440f277037d812deb33a0f4a13945d898c296
    ++ Bytes.ofNat 32 0x4fe342e2fe1a7f9b8ee7eb4a7c0f9e162bce33576b315ececbb6406837bf51f5
  Der.element Der.Tag.sequence (Der.element Der.Tag.sequence curve ++ Der.element Der.Tag.bitString (0 :: 4 :: point))

/-- A certificate of an authority for the given entries. -/
def ofEntries (entries : Bytes) : Bytes :=
  let ecdsa := algorithm [0x2a, 0x86, 0x48, 0xce, 0x3d, 0x04, 0x03, 0x02]
  let validity := Der.element Der.Tag.utcTime (Bytes.ofText "240101000000Z")
    ++ Der.element Der.Tag.utcTime (Bytes.ofText "340101000000Z")
  let signed := Der.element Certificate.versionTag (Der.element Der.Tag.integer [2]) ++ Der.element Der.Tag.integer [1]
    ++ ecdsa ++ Der.element Der.Tag.sequence (entry SubjectEntry.commonName.type (Bytes.ofText "ca"))
    ++ Der.element Der.Tag.sequence validity ++ Der.element Der.Tag.sequence entries ++ key
  let signature := Der.element Der.Tag.sequence (Der.element Der.Tag.integer [1] ++ Der.element Der.Tag.integer [1])
  Der.element Der.Tag.sequence
    (Der.element Der.Tag.sequence signed ++ ecdsa ++ Der.element Der.Tag.bitString (0 :: signature))

def admin : Bytes :=
  ofEntries (entry SubjectEntry.commonName.type (Bytes.ofText "管理员")
    ++ entry SubjectEntry.organizationalUnit.type (Bytes.ofText "admin"))

/-- A mark and a line of prose, a block with a header, and the certificate in lines of five characters and more. -/
def wrapped : Bytes :=
  Bytes.ofText "\uFEFFCertificate of an administrator\r\n"
    ++ Bytes.ofText "-----BEGIN PARAMETERS-----\nScope: none\n\nAAAA\n-----END PARAMETERS-----\n"
    ++ Bytes.ofText "-----BEGIN X509 CERTIFICATE-----\r\n" ++ (Base64.encode admin).take 5
    ++ Bytes.ofText "\r\n" ++ (Base64.encode admin).drop 5
    ++ Bytes.ofText "\r\n-----END X509 CERTIFICATE----- \r\nanything"

/-! The lines of the text. -/

def prose : Pem.Row := .ofLine (Bytes.ofText "\uFEFFCertificate of an administrator\r") (by decide +kernel)

def parametersBegin : Pem.Row := .ofLine (Bytes.ofText "-----BEGIN PARAMETERS-----") (by decide +kernel)

def scope : Pem.Row := .ofLine (Bytes.ofText "Scope: none") (by decide +kernel)

def empty : Pem.Row := .ofLine [] (by decide +kernel)

def zeros : Pem.Row := .ofLine (Bytes.ofText "AAAA") (by decide +kernel)

def parametersEnd : Pem.Row := .ofLine (Bytes.ofText "-----END PARAMETERS-----") (by decide +kernel)

def adminBegin : Pem.Row := .ofLine (Bytes.ofText "-----BEGIN X509 CERTIFICATE-----\r") (by decide +kernel)

def few : Pem.Row := .ofLine ((Base64.encode admin).take 5 ++ [0x0d]) (by decide +kernel)

def many : Pem.Row := .ofLine ((Base64.encode admin).drop 5 ++ [0x0d]) (by decide +kernel)

theorem wrapped_eq : wrapped = prose.raw ++ (parametersBegin.raw ++ ([scope, empty, zeros].flatMap Pem.Row.raw ++
    (parametersEnd.raw ++ (adminBegin.raw ++ ([few, many].flatMap Pem.Row.raw ++
      (Pem.endMark ++ Bytes.ofText "X509 CERTIFICATE" ++ Pem.tailMark ++ Bytes.ofText " \r\nanything")))))) := by
  decide +kernel

theorem prose_isProse : prose.IsProse true := by
  refine Pem.Row.isProse_of_le ?_ ?_ ?_ <;> decide +kernel

theorem parameters_body : Pem.Body (Bytes.ofText "PARAMETERS") [0, 0, 0] [scope] [scope, empty, zeros] := by
  have hshows : scope.Shows := by
    unfold Pem.Row.Shows
    decide +kernel
  have hend : ∀ line ∈ scope.lines, Pem.isEnd line = false := by
    rw [Pem.Row.lines_of_le (by decide +kernel)]
    decide +kernel
  have hzeros : Pem.Spells [zeros] [0, 0, 0] := ⟨0, by decide +kernel⟩
  exact .headed (List.forall_mem_singleton.2 hshows) (List.forall_mem_singleton.2 hend) (by decide +kernel)
    (by decide +kernel) (by decide +kernel) hzeros

theorem admin_body : Pem.Body (Bytes.ofText "X509 CERTIFICATE") admin [] [few, many] := by
  refine .plain (by decide +kernel) ?_ ⟨0, by decide +kernel⟩
  unfold Pem.Row.Shows
  decide +kernel

theorem form_wrapped : Pem.Form admin true wrapped := by
  rw [wrapped_eq]
  refine .prose prose_isProse (.other ⟨⟨[], .inl rfl, by decide +kernel⟩, by decide +kernel, by decide +kernel⟩
    (by decide +kernel) parameters_body (by decide) ⟨by decide +kernel, by decide +kernel⟩ (.certificate
      ⟨⟨[], .inl rfl, by decide +kernel⟩, by decide +kernel, by decide +kernel⟩ (by decide +kernel) admin_body ?_))
  decide +kernel

end SampleCertificate

open SampleCertificate in
theorem Caller.read_form_wrapped : Pem.Form admin true wrapped ∧ Caller.read wrapped = .ok ⟨"管理员", "admin"⟩ := by
  have haccepted : Certificate.ofDer? admin = some ((Certificate.ofDer? admin).get (by decide +kernel)) :=
    (Option.some_get _).symm
  obtain ⟨hform, hread⟩ := Caller.read_form haccepted
  refine ⟨form_wrapped, ?_⟩
  rw [hread wrapped (hform wrapped form_wrapped)]
  decide +kernel

end ChannelLedger
