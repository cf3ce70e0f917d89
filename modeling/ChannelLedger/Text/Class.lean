/-!
# Classes of characters

A class of characters is a table of closed ranges of code points, in increasing order. This
module says what it means for a character to be in such a table; the tables themselves are
modules of their own, each named for the property it lists.
-/
namespace ChannelLedger

/-- A set of characters, as closed ranges of code points in increasing order. -/
abbrev CharClass := List (Nat × Nat)

namespace CharClass

/-- The character lies in one of the ranges. -/
def contains (table : CharClass) (c : Char) : Bool :=
  table.any fun range => range.1 ≤ c.toNat && c.toNat ≤ range.2

/-- Membership is membership in one range of the table. -/
theorem contains_iff {table : CharClass} {c : Char} :
    table.contains c = true ↔ ∃ range ∈ table, range.1 ≤ c.toNat ∧ c.toNat ≤ range.2 := by
  simp [contains]

end CharClass

end ChannelLedger
