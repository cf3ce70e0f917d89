import ChannelLedger.Hash.Sha2

/-!
# Hash suites

A ledger is read with one hash function, chosen by whoever reads it and handed to everything that
hashes. Nothing in this library depends on which function it is, so a suite is just a name and a
function; the two that a user can choose are the SHA-2 members.
-/
namespace ChannelLedger

/-- A named hash function (`CryptoSuite`). -/
structure HashSuite where
  name : String
  hash : Bytes → Bytes

namespace HashSuite

def sha256 : HashSuite := ⟨"SHA2-256", Sha2.sha256⟩

def sha384 : HashSuite := ⟨"SHA2-384", Sha2.sha384⟩

/-- The suite a user names on a command line (`HashAlgorithm`). -/
def ofName? (name : String) : Option HashSuite :=
  if name = "sha256" then some sha256
  else if name = "sha384" then some sha384
  else none

end HashSuite

end ChannelLedger
