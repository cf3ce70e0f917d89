import ChannelLedger.Certificate.Basic
import ChannelLedger.Slot.Failure

/-!
# Callers

Who created a transaction, as the subject of its certificate says: the first common name, or the
empty text if there is none, and the first organizational unit, which must be there. Everything
else in the subject is without effect.
-/
namespace ChannelLedger

/-- The creator of a transaction (`CallerIdentity`). -/
structure Caller where
  commonName : String
  organizationalUnit : String
  deriving DecidableEq, Repr

/-- The object identifier of an entry's type. -/
def SubjectEntry.type : SubjectEntry → Bytes
  | .commonName => [0x55, 0x04, 0x03]
  | .organizationalUnit => [0x55, 0x04, 0x0b]

/-- The text of the first entry of a type (`first_entry`). -/
def SubjectEntry.text? (entry : SubjectEntry) (subject : Name) :
    Except IdentityFailure (Option String) :=
  match subject.first? entry.type with
  | none => .ok none
  | some (.text s) => .ok (some s)
  | some .other => .error (.notText entry)

namespace Caller

/-- The caller that a subject names (`identity_from_certificate`). The common name is looked at first. -/
def ofSubject (subject : Name) : Except IdentityFailure Caller := do
  let commonName ← SubjectEntry.commonName.text? subject
  let some unit ← SubjectEntry.organizationalUnit.text? subject | throw .noOrganizationalUnit
  return ⟨commonName.getD "", unit⟩

/-- The caller that a creator's bytes name (`extract_identity`). -/
def read (input : Bytes) : Except IdentityFailure Caller :=
  match Certificate.read input with
  | .error fault => .error (.certificate fault)
  | .ok certificate => ofSubject certificate.subject

end Caller

end ChannelLedger
