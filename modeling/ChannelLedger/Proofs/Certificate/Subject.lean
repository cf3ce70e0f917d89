import ChannelLedger.Certificate.Caller
import ChannelLedger.Proofs.Certificate.Forms
import ChannelLedger.Proofs.Certificate.Values
import ChannelLedger.Proofs.Der.Reading
import Mathlib.Data.List.Forall2

/-!
# What a subject says

The subject of a certificate is a sequence of sets of attributes, and `HasSubject` says what it is in terms of the
certificate's bytes alone. Of these attributes two count: the first of each type that is looked for. `Names` says
what they amount to, failures included; the attributes behind them and those of other types do not occur in it.

A certificate that is accepted has a subject, and what is read of it are its attributes in their order
(`HasSubject.exists_reads`), so the caller is what the subject names.

Main theorem `Caller.ofSubject_names`.
-/
namespace ChannelLedger

/-! ## The subject in the bytes -/

/-- An attribute as it is encoded. -/
structure RawAttribute where
  type : Bytes
  value : Der.Element

namespace RawAttribute

/-- The element is the attribute: an object identifier and a value of any type. -/
inductive IsIn (e : Der.Element) (raw : RawAttribute) : Prop
  | intro {type : Der.Element} : e.tag = Der.Tag.sequence → e.Contains [type, raw.value] →
      type.tag = Der.Tag.objectIdentifier → type.content = raw.type → IsIn e raw

/-- The element is a set of the attributes. -/
inductive AreIn (e : Der.Element) (attributes : List RawAttribute) : Prop
  | intro {es : List Der.Element} : Der.Tag.type e.tag = Der.Tag.type Der.Tag.set → e.Contains es →
      List.Forall₂ IsIn es attributes → AreIn e attributes

/-- The element is a name: a sequence of sets. -/
inductive IsName (e : Der.Element) (sets : List (List RawAttribute)) : Prop
  | intro {es : List Der.Element} : Der.Tag.type e.tag = Der.Tag.type Der.Tag.sequence → e.Contains es →
      List.Forall₂ AreIn es sets → IsName e sets

end RawAttribute

/-- The subject of a certificate: in the first of its three parts, the fifth field behind the version, which may be
missing. -/
inductive Certificate.HasSubject (der : Bytes) (subject : List (List RawAttribute)) : Prop
  | intro {whole signed algorithm signature serial inner issuer validity name key : Der.Element} {behind : Bytes}
      {version rest : List Der.Element} :
      Der.Heads whole behind der → whole.tag = Der.Tag.sequence →
      whole.Contains [signed, algorithm, signature] → signed.tag = Der.Tag.sequence →
      signed.Contains (version ++ serial :: inner :: issuer :: validity :: name :: key :: rest) →
      version.length ≤ 1 → (∀ e ∈ version, e.tag = Certificate.versionTag) → serial.tag = Der.Tag.integer →
      RawAttribute.IsName name subject → HasSubject der subject

/-! ## What the subject names -/

namespace RawAttribute

/-- The value of the first attribute of a type, if there is one. -/
def First (type : Bytes) (attributes : List RawAttribute) : Option Der.Element → Prop
  | some value => ∃ front behind, attributes = front ++ ⟨type, value⟩ :: behind ∧ ∀ other ∈ front, other.type ≠ type
  | none => ∀ other ∈ attributes, other.type ≠ type

end RawAttribute

/-- What attributes say of an entry: nothing, a text, or something that is no text. -/
inductive SubjectEntry.Says (entry : SubjectEntry) (attributes : List RawAttribute) :
    Except IdentityFailure (Option String) → Prop
  | nothing : RawAttribute.First entry.type attributes none → Says entry attributes (.ok none)
  | text {value : Der.Element} {s : String} : RawAttribute.First entry.type attributes (some value) →
      value.Holds s → Says entry attributes (.ok (some s))
  | noText {value : Der.Element} : RawAttribute.First entry.type attributes (some value) →
      value.HoldsNone → Says entry attributes (.error (.notText entry))

/-- The caller whom attributes name. The common name may be missing; what is wrong with it comes first. -/
inductive Caller.Names (attributes : List RawAttribute) : Except IdentityFailure Caller → Prop
  | noCommonName {failure : IdentityFailure} : SubjectEntry.commonName.Says attributes (.error failure) →
      Names attributes (.error failure)
  | noUnit {commonName : Option String} : SubjectEntry.commonName.Says attributes (.ok commonName) →
      SubjectEntry.organizationalUnit.Says attributes (.ok none) → Names attributes (.error .noOrganizationalUnit)
  | unitNoText {commonName : Option String} {failure : IdentityFailure} :
      SubjectEntry.commonName.Says attributes (.ok commonName) →
      SubjectEntry.organizationalUnit.Says attributes (.error failure) → Names attributes (.error failure)
  | caller {commonName : Option String} {unit : String} : SubjectEntry.commonName.Says attributes (.ok commonName) →
      SubjectEntry.organizationalUnit.Says attributes (.ok (some unit)) →
      Names attributes (.ok ⟨commonName.getD "", unit⟩)

/-! ## A subject is one only -/

namespace RawAttribute

theorem IsIn.unique : Relator.RightUnique IsIn := by
  rintro e ⟨type, value⟩ ⟨type', value'⟩ ⟨-, hparts, -, htype⟩ ⟨-, hparts', -, htype'⟩
  cases hparts.unique hparts'
  exact congrArg (RawAttribute.mk · value) (htype.symm.trans htype')

theorem AreIn.unique : Relator.RightUnique AreIn := by
  rintro e attributes others ⟨-, hparts, hall⟩ ⟨-, hparts', hall'⟩
  cases hparts.unique hparts'
  exact List.right_unique_forall₂' IsIn.unique hall hall'

theorem IsName.unique : Relator.RightUnique IsName := by
  rintro e sets others ⟨-, hparts, hall⟩ ⟨-, hparts', hall'⟩
  cases hparts.unique hparts'
  exact List.right_unique_forall₂' AreIn.unique hall hall'

end RawAttribute

/-- The fields behind the version, whether it is there or not. -/
theorem fields_unique {version version' rest rest' : List Der.Element} {serial serial' : Der.Element}
    (h : version.length ≤ 1) (hversion : ∀ e ∈ version, e.tag = Certificate.versionTag)
    (hserial : serial.tag = Der.Tag.integer) (h' : version'.length ≤ 1)
    (hversion' : ∀ e ∈ version', e.tag = Certificate.versionTag) (hserial' : serial'.tag = Der.Tag.integer)
    (heq : version ++ serial :: rest = version' ++ serial' :: rest') : rest = rest' := by
  have htags : Der.Tag.integer ≠ Certificate.versionTag := by decide
  rcases version with _ | ⟨v, _ | ⟨w, version⟩⟩ <;> rcases version' with _ | ⟨v', _ | ⟨w', version'⟩⟩ <;>
    simp only [List.nil_append, List.cons_append, List.cons.injEq, List.length_cons] at heq h h'
  · exact heq.2
  · exact absurd (hserial.symm.trans (heq.1 ▸ hversion' v' (by simp))) htags
  · omega
  · exact absurd (hserial'.symm.trans (heq.1 ▸ hversion v (by simp))) htags
  · exact heq.2.2
  all_goals omega

theorem Certificate.HasSubject.unique {der : Bytes} {subject other : List (List RawAttribute)}
    (h : HasSubject der subject) (hother : HasSubject der other) : subject = other := by
  obtain ⟨hwhole, -, hparts, -, hfields, hlength, hversion, hserial, hname⟩ := h
  obtain ⟨hwhole', -, hparts', -, hfields', hlength', hversion', hserial', hname'⟩ := hother
  obtain ⟨rfl, -⟩ := hwhole.unique hwhole'
  cases hparts.unique hparts'
  cases fields_unique hlength hversion hserial hlength' hversion' hserial' (hfields.unique hfields')
  exact RawAttribute.IsName.unique hname hname'

/-! ## A subject names one caller only -/

theorem RawAttribute.First.eq {type : Bytes} {raws : List RawAttribute} {value : Option Der.Element}
    (h : First type raws value) : value = (raws.find? (·.type = type)).map (·.value) := by
  cases value with
  | none =>
    have hnone : raws.find? (·.type = type) = none :=
      List.find?_eq_none.2 fun other hother => by simpa using h other hother
    rw [hnone]
    rfl
  | some value =>
    obtain ⟨front, behind, rfl, hothers⟩ := h
    have hfront : front.find? (·.type = type) = none :=
      List.find?_eq_none.2 fun other hother => by simpa using hothers other hother
    rw [List.find?_append, hfront, Option.none_or, List.find?_cons_of_pos (by simp)]
    rfl

theorem RawAttribute.First.unique {type : Bytes} {raws : List RawAttribute} {value other : Option Der.Element}
    (h : First type raws value) (hother : First type raws other) : value = other :=
  h.eq.trans hother.eq.symm

theorem SubjectEntry.Says.unique {entry : SubjectEntry} {raws : List RawAttribute}
    {said other : Except IdentityFailure (Option String)} (h : entry.Says raws said) (hother : entry.Says raws other) :
    said = other := by
  cases h with
  | nothing hnone =>
    cases hother with
    | nothing => rfl
    | text hfirst => cases hnone.unique hfirst
    | noText hfirst => cases hnone.unique hfirst
  | text hfirst hs =>
    cases hother with
    | nothing hnone => cases hnone.unique hfirst
    | text hfirst' hs' =>
      cases hfirst.unique hfirst'
      rw [hs.unique hs']
    | noText hfirst' hs' =>
      cases hfirst.unique hfirst'
      exact absurd hs (hs'.not_holds _)
  | noText hfirst hs =>
    cases hother with
    | nothing hnone => cases hnone.unique hfirst
    | text hfirst' hs' =>
      cases hfirst.unique hfirst'
      exact absurd hs' (hs.not_holds _)
    | noText => rfl

theorem Caller.Names.unique {raws : List RawAttribute} {named other : Except IdentityFailure Caller}
    (h : Caller.Names raws named) (hother : Caller.Names raws other) : named = other := by
  cases h with
  | noCommonName hcn =>
    cases hother with
    | noCommonName hcn' => cases hcn.unique hcn'; rfl
    | noUnit hcn' => cases hcn.unique hcn'
    | unitNoText hcn' => cases hcn.unique hcn'
    | caller hcn' => cases hcn.unique hcn'
  | noUnit hcn hou =>
    cases hother with
    | noCommonName hcn' => cases hcn.unique hcn'
    | noUnit => rfl
    | unitNoText _ hou' => cases hou.unique hou'
    | caller _ hou' => cases hou.unique hou'
  | unitNoText hcn hou =>
    cases hother with
    | noCommonName hcn' => cases hcn.unique hcn'
    | noUnit _ hou' => cases hou.unique hou'
    | unitNoText _ hou' => cases hou.unique hou'; rfl
    | caller _ hou' => cases hou.unique hou'
  | caller hcn hou =>
    cases hother with
    | noCommonName hcn' => cases hcn.unique hcn'
    | noUnit _ hou' => cases hou.unique hou'
    | unitNoText _ hou' => cases hou.unique hou'
    | caller hcn' hou' => cases hcn.unique hcn'; cases hou.unique hou'; rfl

/-! ## Reading the subject -/

section

variable {α β γ : Type}

/-- What leads from one list to another may stop at a third in between. -/
theorem exists_between {R : α → γ → Prop} {S : α → β → Prop} {T : β → γ → Prop}
    (h : ∀ a c, R a c → ∃ b, S a b ∧ T b c) {as : List α} {cs : List γ} (hall : List.Forall₂ R as cs) :
    ∃ bs, List.Forall₂ S as bs ∧ List.Forall₂ T bs cs := by
  induction hall with
  | nil => exact ⟨[], .nil, .nil⟩
  | @cons a c as cs hac _ ih =>
    obtain ⟨b, hab, hbc⟩ := h a c hac
    obtain ⟨bs, habs, hbcs⟩ := ih
    exact ⟨b :: bs, .cons hab habs, .cons hbc hbcs⟩

end

/-- What is read of an attribute. -/
def RawAttribute.Reads (raw : RawAttribute) (read : Attribute) : Prop :=
  read.type = raw.type ∧ AttributeValue.ofElement? raw.value = some read.value

open RawAttribute

theorem Der.Element.objectIdentifier?_eq_some {e : Der.Element} {content : Bytes}
    (h : e.objectIdentifier? = some content) : e.tag = Der.Tag.objectIdentifier ∧ e.content = content := by
  obtain ⟨hcontent, -⟩ := Option.filter_eq_some_iff.1 h
  obtain ⟨htag, heq⟩ := Option.ite_none_right_eq_some.1 hcontent
  exact ⟨htag, Option.some.inj heq⟩

theorem Der.Element.tag_of_integer? {e : Der.Element} (h : ¬ e.integer?.isNone) : e.tag = Der.Tag.integer := by
  by_contra htag
  simp [integer?, contentOf?, htag] at h

theorem Attribute.ofElement?_reads {e : Der.Element} {read : Attribute} (h : Attribute.ofElement? e = some read) :
    ∃ raw, IsIn e raw ∧ raw.Reads read := by
  simp only [ofElement?, Option.bind_eq_bind, Option.bind_eq_some_iff, Der.Element.inside?_eq_some_iff] at h
  obtain ⟨parts, ⟨hsequence, hparts⟩, h⟩ := h
  split at h
  case h_1 type value =>
    simp only [Option.bind_eq_some_iff, Option.pure_def, Option.some.injEq] at h
    obtain ⟨content, hcontent, held, hheld, rfl⟩ := h
    obtain ⟨htag, heq⟩ := Der.Element.objectIdentifier?_eq_some hcontent
    exact ⟨⟨content, value⟩, ⟨hsequence, hparts, htag, heq⟩, rfl, hheld⟩
  case h_2 => cases h

/-- A name is read attribute by attribute. -/
theorem Name.ofElement?_reads {e : Der.Element} {name : Name} (h : Name.ofElement? e = some name) :
    ∃ sets, IsName e sets ∧ List.Forall₂ Reads sets.flatten name := by
  simp only [Name.ofElement?, Option.bind_eq_bind, Option.bind_eq_some_iff, Option.pure_def, Option.some.injEq] at h
  obtain ⟨es, hes, reads, hreads, rfl⟩ := h
  obtain ⟨hsequence, hes⟩ := Der.Element.listOf?_eq_some_iff.1 hes
  have hset : ∀ (set : Der.Element) (read : List Attribute),
      ((set.listOf? Der.Tag.set).bind fun attributes => attributes.mapM Attribute.ofElement?) = some read →
      ∃ raws, AreIn set raws ∧ List.Forall₂ Reads raws read := by
    intro set read h
    obtain ⟨attributes, hattributes, h⟩ := Option.bind_eq_some_iff.1 h
    obtain ⟨htag, hattributes⟩ := Der.Element.listOf?_eq_some_iff.1 hattributes
    obtain ⟨raws, hraws, hread⟩ := exists_between (fun _ _ h => Attribute.ofElement?_reads h) (Der.mapM_eq_some_iff.1 h)
    exact ⟨raws, ⟨htag, hattributes, hraws⟩, hread⟩
  obtain ⟨sets, hsets, hread⟩ := exists_between hset (Der.mapM_eq_some_iff.1 hreads)
  exact ⟨sets, ⟨hsequence, hes, hsets⟩, List.rel_flatten hread⟩

namespace Certificate

/-- A field that may be in front is there or not. -/
theorem skipOptional_eq_some {type : UInt8} {test : Der.Element → Bool} {es rest : List Der.Element}
    (h : skipOptional type test es = some rest) :
    ∃ front, es = front ++ rest ∧ front.length ≤ 1 ∧ ∀ e ∈ front, test e = true := by
  cases es with
  | nil =>
    cases h
    exact ⟨[], rfl, by simp, by simp⟩
  | cons e es =>
    rw [skipOptional] at h
    split at h
    case isTrue =>
      obtain ⟨htest, h⟩ := Option.ite_none_right_eq_some.1 h
      cases h
      exact ⟨[e], rfl, by simp, by simpa using htest⟩
    case isFalse =>
      cases h
      exact ⟨[], rfl, by simp, by simp⟩

theorem tag_of_isVersion {e : Der.Element} (h : isVersion e = true) : e.tag = versionTag := by
  unfold isVersion at h
  split at h
  case h_1 hinside => exact (Der.Element.inside?_eq_some_iff.1 hinside).1
  case h_2 => cases h

/-- The fields of the signed part, up to the name that is read as the subject. -/
theorem ofSigned?_fields {signed : Der.Element} {certificate : Certificate} (h : ofSigned? signed = some certificate) :
    ∃ version serial inner issuer validity name key rest, signed.tag = Der.Tag.sequence ∧
      signed.Contains (version ++ serial :: inner :: issuer :: validity :: name :: key :: rest) ∧
      version.length ≤ 1 ∧ (∀ e ∈ version, e.tag = versionTag) ∧ serial.tag = Der.Tag.integer ∧
      Name.ofElement? name = some certificate.subject := by
  simp only [ofSigned?, Option.bind_eq_bind, Option.bind_eq_some_iff, Der.Element.inside?_eq_some_iff] at h
  obtain ⟨fields, ⟨hsequence, hfields⟩, others, hversion, h⟩ := h
  obtain ⟨version, rfl, hlength, hversions⟩ := skipOptional_eq_some hversion
  have htags : ∀ e ∈ version, e.tag = versionTag := fun e he => tag_of_isVersion (hversions e he)
  split at h
  case h_2 => cases h
  case h_1 serial inner issuer validity name key rest =>
    simp only [Option.bind_eq_some_iff] at h
    obtain ⟨_, -, _, -, _, -, h⟩ := h
    split at h
    case isTrue => cases h
    case isFalse hchecks =>
      simp only [Option.bind_eq_some_iff, Option.pure_def, Option.some.injEq] at h
      obtain ⟨_, -, subject, hsubject, _, -, rfl⟩ := h
      have hserial : serial.tag = Der.Tag.integer :=
        Der.Element.tag_of_integer? fun hnone => hchecks (.inr (.inl hnone))
      exact ⟨version, serial, inner, issuer, validity, name, key, rest, hsequence, hfields, hlength, htags,
        hserial, hsubject⟩

/-- **An accepted certificate has a subject, and the attributes that are read of it are those that it has.** -/
theorem HasSubject.exists_reads {der : Bytes} {certificate : Certificate} (h : ofDer? der = some certificate) :
    ∃ subject, HasSubject der subject ∧ List.Forall₂ Reads subject.flatten certificate.subject := by
  simp only [ofDer?, Option.bind_eq_bind, Option.bind_eq_some_iff, Prod.exists, Der.readElement_eq_some_iff,
    Der.Element.inside?_eq_some_iff] at h
  obtain ⟨whole, behind, hwhole, parts, ⟨hsequence, hparts⟩, h⟩ := h
  split at h
  case h_2 => cases h
  case h_1 signed algorithm signature =>
    split at h
    case isTrue => cases h
    case isFalse =>
      obtain ⟨version, serial, inner, issuer, validity, name, key, rest, hsigned, hfields, hlength, htags, hserial,
        hname⟩ := ofSigned?_fields h
      obtain ⟨subject, hsubject, hreads⟩ := Name.ofElement?_reads hname
      exact ⟨subject, ⟨hwhole, hsequence, hparts, hsigned, hfields, hlength, htags, hserial, hsubject⟩, hreads⟩

end Certificate

/-! ## The caller -/

/-- What is read of the first attribute of a type. -/
theorem RawAttribute.exists_first {raws : List RawAttribute} {name : Name} (h : List.Forall₂ Reads raws name)
    (type : Bytes) :
    (First type raws none ∧ name.first? type = none) ∨
    ∃ value read, First type raws (some value) ∧ AttributeValue.ofElement? value = some read ∧
      name.first? type = some read := by
  induction h with
  | nil => exact .inl ⟨by simp [First], rfl⟩
  | @cons raw read raws name hread _ ih =>
    obtain ⟨htype, hvalue⟩ := hread
    by_cases hfirst : raw.type = type
    · refine .inr ⟨raw.value, read.value, ⟨[], raws, by rw [← hfirst]; rfl, by simp⟩, hvalue, ?_⟩
      rw [Name.first?, List.find?_cons_of_pos (by simp [htype, hfirst])]
      rfl
    · have hskip : Name.first? type (read :: name) = Name.first? type name := by
        rw [Name.first?, List.find?_cons_of_neg (by simpa [htype] using hfirst)]
        rfl
      rw [hskip]
      rcases ih with ⟨hnone, heq⟩ | ⟨value, found, ⟨front, behind, rfl, hothers⟩, hfound, heq⟩
      · exact .inl ⟨List.forall_mem_cons.2 ⟨hfirst, hnone⟩, heq⟩
      · exact .inr ⟨value, found, ⟨raw :: front, behind, rfl, List.forall_mem_cons.2 ⟨hfirst, hothers⟩⟩, hfound, heq⟩

/-- The text of an entry is what the attributes say of it. -/
theorem SubjectEntry.says_text? {raws : List RawAttribute} {name : Name} (h : List.Forall₂ Reads raws name)
    (entry : SubjectEntry) : entry.Says raws (entry.text? name) := by
  unfold text?
  rcases RawAttribute.exists_first h entry.type with ⟨hnone, heq⟩ | ⟨value, read, hfirst, hread, heq⟩
  · rw [heq]
    exact .nothing hnone
  · rw [heq]
    cases read with
    | text s => exact .text hfirst (AttributeValue.ofElement?_eq_text_iff.1 hread)
    | other => exact .noText hfirst (AttributeValue.ofElement?_eq_other_iff.1 hread)

/-- The caller is whom the attributes name. -/
theorem Caller.names_of_reads {raws : List RawAttribute} {name : Name} (h : List.Forall₂ Reads raws name) :
    Caller.Names raws (Caller.ofSubject name) := by
  have hcommonName := SubjectEntry.says_text? h .commonName
  have hunit := SubjectEntry.says_text? h .organizationalUnit
  unfold ofSubject
  cases hcn : SubjectEntry.commonName.text? name with
  | error failure =>
    rw [hcn] at hcommonName
    exact .noCommonName hcommonName
  | ok commonName =>
    rw [hcn] at hcommonName
    cases hou : SubjectEntry.organizationalUnit.text? name with
    | error failure =>
      rw [hou] at hunit
      exact .unitNoText hcommonName hunit
    | ok unit =>
      rw [hou] at hunit
      cases unit with
      | none => exact .noUnit hcommonName hunit
      | some unit => exact .caller hcommonName hunit

/-- A UTF-8 string, maybe of parts, with the bytes of the text. -/
def Der.Element.IsUtf8 (e : Der.Element) (s : String) : Prop :=
  Tag.type e.tag = Tag.utf8String ∧ e.Gathers maxNesting (Bytes.ofText s)

theorem Der.Element.IsUtf8.holds {e : Der.Element} {s : String} (h : e.IsUtf8 s) : e.Holds s :=
  ⟨_, h.2, .utf8 h.1 rfl⟩

/-- **A certificate that is accepted has one subject, and the caller is whom it names: the first common name and the
first organizational unit decide, whatever else there is. What UTF-8 encodes is returned as it is.** -/
theorem Caller.ofSubject_names {der : Bytes} {certificate : Certificate}
    (accepted : Certificate.ofDer? der = some certificate) :
    ∃ subject, Certificate.HasSubject der subject ∧ (∀ other, Certificate.HasSubject der other → other = subject) ∧
      Caller.Names subject.flatten (Caller.ofSubject certificate.subject) ∧
      ∀ (cn ou : Der.Element) (commonName unit : String),
        First SubjectEntry.commonName.type subject.flatten (some cn) → cn.IsUtf8 commonName →
        First SubjectEntry.organizationalUnit.type subject.flatten (some ou) → ou.IsUtf8 unit →
        Caller.ofSubject certificate.subject = .ok ⟨commonName, unit⟩ := by
  obtain ⟨subject, hsubject, hreads⟩ := Certificate.HasSubject.exists_reads accepted
  have hnames := Caller.names_of_reads hreads
  refine ⟨subject, hsubject, fun other hother => hother.unique hsubject, hnames, ?_⟩
  intro cn ou commonName unit hcn hcommonName hou hunit
  exact hnames.unique (.caller (.text hcn hcommonName.holds) (.text hou hunit.holds))

/-! ## A subject with several names of each kind -/

namespace SampleCertificate

/-- An attribute with a value of the given tag. -/
def part (type : Bytes) (tag : UInt8) (content : Bytes) : Bytes :=
  Der.element Der.Tag.sequence (Der.element Der.Tag.objectIdentifier type ++ Der.element tag content)

/-- A postal address, which is a sequence. -/
def address : Bytes :=
  Der.element Der.Tag.set (part [0x55, 0x04, 0x10] Der.Tag.sequence (Der.element Der.Tag.utf8String (Bytes.ofText "7")))

/-- Behind the address a unit of two parts and of open length, in one set with a common name, and behind them a
common name that is no text and another unit. -/
def several : Bytes :=
  let unit := [0x2c, 0x80] ++ Der.element Der.Tag.octetString (Bytes.ofText "cli")
    ++ Der.element Der.Tag.octetString (Bytes.ofText "ent") ++ [0, 0]
  ofEntries (address
    ++ Der.element Der.Tag.set
      (Der.element Der.Tag.sequence
          (Der.element Der.Tag.objectIdentifier SubjectEntry.organizationalUnit.type ++ unit)
        ++ part SubjectEntry.commonName.type Der.Tag.bmpString [0x7b, 0xa1, 0x74, 0x06])
    ++ Der.element Der.Tag.set (part SubjectEntry.commonName.type Der.Tag.bitString [0])
    ++ entry SubjectEntry.organizationalUnit.type (Bytes.ofText "department1"))

/-- The first common name is a sequence, the second a text. There is no unit. -/
def untitled : Bytes :=
  ofEntries (Der.element Der.Tag.set (part SubjectEntry.commonName.type Der.Tag.sequence [])
    ++ entry SubjectEntry.commonName.type (Bytes.ofText "peer0"))

end SampleCertificate

open SampleCertificate in
theorem Caller.ofSubject_names_several :
    (∃ certificate subject, Certificate.ofDer? several = some certificate ∧
      Certificate.HasSubject several subject ∧ Caller.Names subject.flatten (.ok ⟨"管理", "client"⟩)) ∧
    ∃ certificate subject, Certificate.ofDer? untitled = some certificate ∧
      Certificate.HasSubject untitled subject ∧
      Caller.Names subject.flatten (.error (.notText .commonName)) := by
  have hseveral : (Certificate.ofDer? several).map (Caller.ofSubject ·.subject) = some (.ok ⟨"管理", "client"⟩) := by
    decide +kernel
  have huntitled : (Certificate.ofDer? untitled).map (Caller.ofSubject ·.subject) =
      some (.error (.notText .commonName)) := by
    decide +kernel
  obtain ⟨certificate, haccepted, hnamed⟩ := Option.map_eq_some_iff.1 hseveral
  obtain ⟨subject, hsubject, -, hnames, -⟩ := Caller.ofSubject_names haccepted
  obtain ⟨certificate', haccepted', hnamed'⟩ := Option.map_eq_some_iff.1 huntitled
  obtain ⟨subject', hsubject', -, hnames', -⟩ := Caller.ofSubject_names haccepted'
  exact ⟨⟨certificate, subject, haccepted, hsubject, hnamed ▸ hnames⟩,
    certificate', subject', haccepted', hsubject', hnamed' ▸ hnames'⟩

end ChannelLedger
