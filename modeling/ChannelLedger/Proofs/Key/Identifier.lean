import Mathlib
import ChannelLedger.Key.Public
import ChannelLedger.Proofs.Outcome
import ChannelLedger.Proofs.Key.Point

/-!
# The identifier of a key

A key is read from what a certificate carries, and its identifier takes it up again: at once, or, if it is of the
SM2 scheme, by writing it and reading that. Both ways come to the key that was read
(`KeyHandle.ecKey_of_read`), so whichever key is accepted has an identifier
(`PublicKey.identifier?_of_ofKeyInfoAs`).

A certificate carries a point of a curve if its parameters mean the curve and its key is one of the forms of the
point (`KeyInfo.Carries`).

Main theorem `PublicKey.identifier_of_point`.
-/
namespace ChannelLedger

open Der

/-! ## What carries a point -/

/-- Parameters mean a curve: they name it, or write it out. -/
inductive Curve.IsMeantBy (c : Curve) (parameters : Element) : Prop
  | name (isName : parameters.tag = Tag.objectIdentifier) (listed : (parameters.content, c) ∈ Curve.named)
  | writtenOut (isNoName : parameters.tag ≠ Tag.objectIdentifier) (reads : Curve.explicit? parameters = some c)

/-- A key is the point of the curve, in any form. The object identifier of the SM2 scheme is for its curve only. -/
structure KeyInfo.Carries (info : KeyInfo) (c : Curve) (point : Point) : Prop where
  algorithm : info.algorithm = PublicKey.ellipticCurve ∨ info.algorithm = Curve.sm2Identifier ∧ c = Curve.sm2
  parameters : ∃ parameters, info.parameters = some parameters ∧ c.IsMeantBy parameters
  key : ∃ form, info.key = c.encodeAs form point

theorem Curve.isNamed_eq_true_iff {c : Curve} : c.isNamed = true ↔ c ∈ named.map (·.2) := by
  unfold isNamed
  rw [List.any_eq_true, List.mem_map]
  simp only [decide_eq_true_iff]

/-- The parameters that are accepted are those that mean a named curve. -/
theorem PublicKey.curve?_eq_some_iff {c : Curve} {parameters : Element} :
    curve? parameters = some (c, true) ↔ c ∈ Curve.named.map (·.2) ∧ c.IsMeantBy parameters := by
  unfold curve?
  by_cases isName : parameters.tag = Tag.objectIdentifier
  · rw [if_pos isName]
    constructor
    · intro h
      obtain ⟨curve, hlookup, heq⟩ := Option.map_eq_some_iff.1 h
      cases heq
      obtain ⟨before, after, hnamed, -⟩ := List.lookup_eq_some_iff.1 hlookup
      have listed : (parameters.content, c) ∈ Curve.named := hnamed ▸ List.mem_append_cons_self
      exact ⟨List.mem_map_of_mem listed, .name isName listed⟩
    · rintro ⟨-, h⟩
      cases h with
      | name _ listed =>
        have hlookup : ∀ entry ∈ Curve.named, Curve.named.lookup entry.1 = some entry.2 := by decide +kernel
        rw [hlookup _ listed]
        rfl
      | writtenOut isNoName => exact absurd isName isNoName
  · rw [if_neg isName]
    constructor
    · intro h
      obtain ⟨curve, hreads, heq⟩ := Option.map_eq_some_iff.1 h
      obtain ⟨rfl, hnamed⟩ := Prod.mk.injEq _ _ _ _ ▸ heq
      exact ⟨Curve.isNamed_eq_true_iff.1 hnamed, .writtenOut isName hreads⟩
    · rintro ⟨hlisted, h⟩
      cases h with
      | name isName' => exact absurd isName' isName
      | writtenOut _ reads =>
        rw [reads]
        exact congrArg (fun isNamed => some (c, isNamed)) (Curve.isNamed_eq_true_iff.2 hlisted)

/-! ## Reading and writing a key -/

namespace EcKey

variable {info : KeyInfo} {key : EcKey}

theorem ofKeyInfo?_eq_some_iff : ofKeyInfo? info = some key ↔
    info.isOnCurve = true ∧ info.parameters = some key.parameters ∧
      PublicKey.curve? key.parameters = some (key.curve, key.isNamed) ∧
      key.curve.decode? info.key = some key.point ∧ key.form = .ofBytes info.key ∧
      (info.algorithm = Curve.sm2Identifier → key.isSm2 = true) := by
  unfold ofKeyInfo?
  constructor
  · intro h
    split at h
    case isTrue honCurve =>
      obtain ⟨parameters, hparameters, h⟩ := Option.bind_eq_some_iff.1 h
      obtain ⟨⟨curve, isNamed⟩, hcurve, h⟩ := Option.bind_eq_some_iff.1 h
      obtain ⟨point, hpoint, h⟩ := Option.bind_eq_some_iff.1 h
      obtain ⟨hsm2, h⟩ := Option.ite_none_left_eq_some.1 h
      cases h
      exact ⟨honCurve, hparameters, hcurve, hpoint, rfl, fun halgorithm => by simpa [halgorithm] using hsm2⟩
    case isFalse => cases h
  · rintro ⟨honCurve, hparameters, hcurve, hpoint, hform, hsm2⟩
    obtain ⟨parameters, curve, isNamed, form, point⟩ := key
    obtain rfl : form = _ := hform
    rw [if_pos honCurve]
    refine Option.bind_eq_some_iff.2 ⟨parameters, hparameters, Option.bind_eq_some_iff.2 ⟨_, hcurve, ?_⟩⟩
    refine Option.bind_eq_some_iff.2 ⟨point, hpoint, if_neg ?_⟩
    rintro ⟨halgorithm, hnot⟩
    rw [hsm2 halgorithm] at hnot
    cases hnot

/-- **A key that has been read is read again from what it is written as.** -/
theorem ofKeyInfo?_keyInfo (h : ofKeyInfo? info = some key) (odd : key.curve.p % 2 = 1) :
    ofKeyInfo? key.keyInfo = some key := by
  obtain ⟨-, -, hcurve, hpoint, hform, -⟩ := ofKeyInfo?_eq_some_iff.1 h
  -- the point is written as it was before
  have hkey : key.keyInfo.key = info.key := by
    have hwritten := (Curve.encodeAs_of_decode? odd hpoint).1
    rwa [← hform] at hwritten
  refine ofKeyInfo?_eq_some_iff.2 ⟨rfl, rfl, hcurve, ?_, ?_, ?_⟩
  · rw [hkey, hpoint]
  · rw [hkey, hform]
  · exact fun halgorithm => absurd halgorithm (by decide : PublicKey.ellipticCurve ≠ Curve.sm2Identifier)

theorem isSm2_iff : key.isSm2 = true ↔ key.isNamed = true ∧ key.curve = Curve.sm2 := by
  simp [isSm2]

theorem kind_eq (sm2Kind : EcKind) (key : EcKey) : key.kind sm2Kind = .ec ∨ key.isSm2 = true := by
  unfold kind
  split
  case isTrue hsm2 => exact .inr hsm2
  case isFalse => exact .inl rfl

/-- What a certificate carries is read as that. -/
theorem ofKeyInfo?_of_carries {c : Curve} {point : Point} (h : info.Carries c point)
    (named : c ∈ Curve.named.map (·.2)) (prime : c.p.Prime) (contains : c.contains point = true) :
    ∃ key, ofKeyInfo? info = some key ∧ key.curve = c ∧ key.point = point ∧ key.isNamed = true := by
  obtain ⟨halgorithm, ⟨parameters, hparameters, hmeant⟩, form, hkey⟩ := h
  refine ⟨⟨parameters, c, true, .ofBytes info.key, point⟩, ?_, rfl, rfl, rfl⟩
  have hcurve := PublicKey.curve?_eq_some_iff.2 ⟨named, hmeant⟩
  refine ofKeyInfo?_eq_some_iff.2 ⟨?_, hparameters, hcurve, ?_, rfl, fun hsm2 => ?_⟩
  · unfold KeyInfo.isOnCurve
    rcases halgorithm with halgorithm | ⟨halgorithm, -⟩ <;> simp [halgorithm]
  · rw [hkey]
    exact (Curve.Rooted.of_named named prime).decode?_encodeAs contains form
  · rcases halgorithm with halgorithm | ⟨-, hcurve⟩
    · exact absurd (halgorithm.symm.trans hsm2) (by decide)
    · exact isSm2_iff.2 ⟨rfl, hcurve⟩

end EcKey

/-- A key on a curve is one that is read as such. -/
theorem KeyHandle.read_of_onCurve {sm2Kind kind : EcKind} {info : KeyInfo} {key : EcKey}
    (h : ofKeyInfo? sm2Kind info = some (.onCurve kind key)) : EcKey.ofKeyInfo? info = some key := by
  unfold ofKeyInfo? at h
  split at h
  · split at h
    case h_1 hread =>
      cases h
      exact hread
    case h_2 =>
      -- of the point at infinity no key is made
      simp only [ofInfinity?, Option.bind_eq_bind, Option.bind_eq_some_iff, Prod.exists,
        Option.ite_none_left_eq_some] at h
      obtain ⟨_, -, _, _, -, -, h⟩ := h
      cases h
  · -- the other kinds are not on a curve
    split at h
    · split at h <;> cases h
    · split at h
      · split at h <;> cases h
      · cases h

/-- **Each way that a kind needs comes to the key that was read.** -/
theorem KeyHandle.ecKey_of_read {info : KeyInfo} {key : EcKey} {kind : EcKind}
    (h : EcKey.ofKeyInfo? info = some key) (hkind : kind = .ec ∨ key.isSm2 = true) :
    (KeyHandle.onCurve kind key).ecKey = .ok key := by
  cases kind with
  | ec => rfl
  | sm2 | unregistered =>
    have hsm2 := hkind.resolve_left (by decide)
    have hodd : key.curve.p % 2 = 1 := by
      rw [(EcKey.isSm2_iff.1 hsm2).2]
      decide
    unfold ecKey
    simp only [EcKey.ofKeyInfo?_keyInfo h hodd]

/-! ## The keys that are accepted -/

namespace PublicKey

variable {sm2Kind : EcKind} {info : KeyInfo}

theorem ofKeyInfoAs_of_read (sm2Kind : EcKind) {key : EcKey} (h : EcKey.ofKeyInfo? info = some key) :
    ofKeyInfoAs sm2Kind info =
      if key.isNamed then .ok ⟨key.curve.scheme, key.kind sm2Kind, key⟩ else .error .unnamedCurve := by
  have hhandle : KeyHandle.ofKeyInfo? sm2Kind info = some (.onCurve (key.kind sm2Kind) key) := by
    unfold KeyHandle.ofKeyInfo?
    rw [if_pos (EcKey.ofKeyInfo?_eq_some_iff.1 h).1, h]
  have hread := KeyHandle.ecKey_of_read h (key.kind_eq sm2Kind)
  unfold ofKeyInfoAs
  rw [hhandle]
  cases hkind : key.kind sm2Kind with
  | sm2 =>
    have hsm2 := (key.kind_eq sm2Kind).resolve_left (by rw [hkind]; decide)
    obtain ⟨hnamed, hcurve⟩ := EcKey.isSm2_iff.1 hsm2
    rw [hnamed, Curve.scheme, if_pos hcurve]
    rfl
  | ec | unregistered =>
    rw [hkind] at hread
    simp only [hread]

/-- An accepted key is one on a curve that has been read. -/
theorem read_of_ofKeyInfoAs {key : PublicKey} (h : ofKeyInfoAs sm2Kind info = .ok key) :
    EcKey.ofKeyInfo? info = some key.key ∧ key.kind = key.key.kind sm2Kind := by
  cases hread : EcKey.ofKeyInfo? info with
  | some read =>
    rw [ofKeyInfoAs_of_read sm2Kind hread] at h
    split at h
    · cases h
      exact ⟨rfl, rfl⟩
    · cases h
  | none =>
    unfold ofKeyInfoAs at h
    split at h
    case h_1 => cases h
    case h_2 => cases h
    case h_3 heq => cases (KeyHandle.read_of_onCurve heq).symm.trans hread
    case h_4 heq => cases (KeyHandle.read_of_onCurve heq).symm.trans hread

/-- **Whichever key is accepted has an identifier.** -/
theorem identifier?_of_ofKeyInfoAs {key : PublicKey} (h : ofKeyInfoAs sm2Kind info = .ok key)
    (suite : HashSuite) : key.identifier? suite = .ok (key.identifier suite) := by
  obtain ⟨hread, hkind⟩ := read_of_ofKeyInfoAs h
  have hec : key.handle.ecKey = .ok key.key := KeyHandle.ecKey_of_read hread (hkind ▸ key.key.kind_eq sm2Kind)
  unfold identifier?
  rw [hec]
  rfl

/-- **The identifier of a key depends on the point only.** Whatever a certificate writes a point of a named curve
as, and however its curve is meant, its key is accepted, for a scheme that is told by the curve, and has the
hash of both coordinates in full length for its identifier. And whichever key is accepted has an identifier. -/
theorem identifier_of_point (suite : HashSuite) (sm2Kind : EcKind) :
    (∀ (c : Curve) (point : Point), c ∈ Curve.named.map (·.2) → c.p.Prime → c.contains point = true →
      ∃ scheme : Scheme, (scheme = .sm2 ↔ c = Curve.sm2) ∧
        ∀ certificate : Certificate, certificate.keyInfo.Carries c point →
          ∃ key, ofKeyInfoAs sm2Kind certificate.keyInfo = .ok key ∧ key.scheme = scheme ∧
            key.identifier? suite = .ok (suite.hash
              (4 :: Bytes.ofNat c.fieldSize point.x ++ Bytes.ofNat c.fieldSize point.y))) ∧
    ∀ (info : KeyInfo) (key : PublicKey), ofKeyInfoAs sm2Kind info = .ok key →
      ∃ identifier, key.identifier? suite = .ok identifier := by
  refine ⟨fun c point named prime contains => ⟨c.scheme, ?_, fun certificate carries => ?_⟩,
    fun info key h => ⟨_, identifier?_of_ofKeyInfoAs h suite⟩⟩
  · unfold Curve.scheme
    split <;> simp [*]
  · obtain ⟨key, hread, rfl, rfl, hnamed⟩ := EcKey.ofKeyInfo?_of_carries carries named prime contains
    have hkey := ofKeyInfoAs_of_read sm2Kind hread
    rw [if_pos hnamed] at hkey
    exact ⟨_, hkey, rfl, identifier?_of_ofKeyInfoAs hkey suite⟩

/-- The base point of the largest curve, on a certificate in one coordinate and on another in both with the
parity. -/
theorem identifier_of_point_p521 :
    let base : Point := ⟨Curve.p521.gx, Curve.p521.gy⟩
    let name : Element := ⟨Tag.objectIdentifier, [0x2b, 0x81, 0x04, 0x00, 0x23], false⟩
    let short : Certificate := ⟨[], [], ellipticCurve, some name, Curve.p521.encodeCompressed base⟩
    let long : Certificate := ⟨[], [], ellipticCurve, some name, Curve.p521.encodeHybrid base⟩
    short.keyInfo.key.length = 67 ∧ long.keyInfo.key.length = 133 ∧
    ∃ key key', ofKeyInfo short.keyInfo = .ok key ∧ ofKeyInfo long.keyInfo = .ok key' ∧
      key.scheme = .ecdsa ∧ key'.scheme = .ecdsa ∧ key.identifier? .sha256 = key'.identifier? .sha256 ∧
      ∃ identifier, key.identifier? .sha256 = .ok identifier := by
  intro base name short long
  have hp : mersenne 521 = Curve.p521.p := by decide +kernel
  have hprime : Curve.p521.p.Prime := hp ▸ lucas_lehmer_sufficiency 521 (by simp) (by norm_num)
  obtain ⟨hpoint, haccepted⟩ := identifier_of_point .sha256 .unregistered
  obtain ⟨scheme, hscheme, hcarries⟩ := hpoint Curve.p521 base (by decide) hprime (by decide +kernel)
  have hmeant : Curve.p521.IsMeantBy name := .name rfl (by decide)
  obtain ⟨key, hkey, hkeyScheme, hkeyIdentifier⟩ :=
    hcarries short ⟨.inl rfl, ⟨name, rfl, hmeant⟩, .compressed, rfl⟩
  obtain ⟨key', hkey', hkeyScheme', hkeyIdentifier'⟩ :=
    hcarries long ⟨.inl rfl, ⟨name, rfl, hmeant⟩, .hybrid, rfl⟩
  have hecdsa : scheme = .ecdsa := by
    cases scheme with
    | ecdsa => rfl
    | sm2 => exact absurd (hscheme.1 rfl) (by decide)
  exact ⟨by decide +kernel, by decide +kernel, key, key', hkey, hkey', hkeyScheme.trans hecdsa,
    hkeyScheme'.trans hecdsa, hkeyIdentifier.trans hkeyIdentifier'.symm, haccepted _ _ hkey⟩

end PublicKey

end ChannelLedger
