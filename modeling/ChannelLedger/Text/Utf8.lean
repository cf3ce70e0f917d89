import ChannelLedger.Bytes.Basic

/-!
# Reading UTF-8

One scan splits a byte string into characters and maximal ill-formed pieces (a piece is the
longest prefix of a well-formed sequence, or a single byte that starts none). Strict reading
accepts the byte strings without ill-formed pieces; lossy reading writes U+FFFD for each piece.
-/
namespace ChannelLedger.Utf8

/-- A continuation byte. -/
def isContinuation (b : UInt8) : Bool :=
  0x80 ≤ b && b ≤ 0xbf

/-- For a byte that starts a sequence of several: how many bytes follow it, the bits that it
contributes, and the bounds of the byte right after it. The bounds exclude overlong forms,
surrogates and numbers beyond U+10FFFF. -/
def lead? (b : UInt8) : Option (Nat × Nat × UInt8 × UInt8) :=
  if 0xc2 ≤ b && b ≤ 0xdf then some (1, b.toNat - 0xc0, 0x80, 0xbf)
  else if b == 0xe0 then some (2, 0x0, 0xa0, 0xbf)
  else if b == 0xed then some (2, 0xd, 0x80, 0x9f)
  else if 0xe1 ≤ b && b ≤ 0xef then some (2, b.toNat - 0xe0, 0x80, 0xbf)
  else if b == 0xf0 then some (3, 0x0, 0x90, 0xbf)
  else if 0xf1 ≤ b && b ≤ 0xf3 then some (3, b.toNat - 0xf0, 0x80, 0xbf)
  else if b == 0xf4 then some (3, 0x4, 0x80, 0x8f)
  else none

/-- Reads `count` continuation bytes onto the bits so far. The first missing one ends the piece:
`none` then stands before the bytes that are left. -/
def continuation : (count bits : Nat) → Bytes → Option Nat × Bytes
  | 0, bits, rest => (some bits, rest)
  | _ + 1, _, [] => (none, [])
  | count + 1, bits, b :: rest =>
    if isContinuation b then continuation count (bits * 64 + (b.toNat - 0x80)) rest
    else (none, b :: rest)

/-- Reads what the byte `b` starts: a character, or `none` for an ill-formed piece, and the bytes
after it. -/
def first (b : UInt8) (rest : Bytes) : Option Char × Bytes :=
  if b < 0x80 then (some (Char.ofNat b.toNat), rest)
  else
    match lead? b, rest with
    | none, _ => (none, rest)
    | some _, [] => (none, [])
    | some (count, bits, low, high), next :: rest =>
      if low ≤ next && next ≤ high then
        let (number, rest) := continuation (count - 1) (bits * 64 + (next.toNat - 0x80)) rest
        (number.map Char.ofNat, rest)
      else (none, next :: rest)

theorem length_continuation_le (count bits : Nat) (rest : Bytes) :
    (continuation count bits rest).2.length ≤ rest.length := by
  induction count generalizing bits rest with
  | zero => simp [continuation]
  | succ count ih =>
    cases rest with
    | nil => simp [continuation]
    | cons b rest =>
      unfold continuation
      split
      · exact Nat.le_succ_of_le (ih _ _)
      · simp

theorem length_first_le (b : UInt8) (rest : Bytes) : (first b rest).2.length ≤ rest.length := by
  unfold first
  split
  · simp
  · split
    · simp
    · simp
    · split
      · exact Nat.le_succ_of_le (length_continuation_le _ _ _)
      · simp

/-- The characters of a byte string in order, with `none` for each ill-formed piece. -/
def scan : Bytes → List (Option Char)
  | [] => []
  | b :: rest => (first b rest).1 :: scan (first b rest).2
  termination_by bs => bs.length
  decreasing_by exact Nat.lt_succ_of_le (length_first_le b rest)

/-- The text a well-formed byte string encodes. -/
def decode? (bs : Bytes) : Option String :=
  ((scan bs).mapM id).map String.ofList

/-- The text of a byte string, with U+FFFD for each ill-formed piece. -/
def lossy (bs : Bytes) : String :=
  String.ofList ((scan bs).map (·.getD '\ufffd'))

end ChannelLedger.Utf8
