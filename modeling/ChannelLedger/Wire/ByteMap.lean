import ChannelLedger.Bytes.Basic

/-!
# Maps from text to bytes

The value of a map field. Its entries are kept in the order of their keys, each key once, so two
maps with the same entries are equal however they were built.
-/
namespace ChannelLedger.Wire

structure ByteMap where
  entries : List (String × Bytes)
  sorted : entries.Pairwise (fun a b => a.1 < b.1)
  deriving DecidableEq, Repr

namespace ByteMap

def empty : ByteMap := ⟨[], .nil⟩

instance : Inhabited ByteMap := ⟨empty⟩

/-- Puts an entry in its place, in front of the first larger key; an equal key is replaced. -/
def insertEntry (key : String) (value : Bytes) : List (String × Bytes) → List (String × Bytes)
  | [] => [(key, value)]
  | entry :: rest =>
    if key < entry.1 then (key, value) :: entry :: rest
    else if key = entry.1 then (key, value) :: rest
    else entry :: insertEntry key value rest

theorem mem_insertEntry {key : String} {value : Bytes} {entries : List (String × Bytes)}
    {e : String × Bytes} (h : e ∈ insertEntry key value entries) :
    e = (key, value) ∨ e ∈ entries := by
  induction entries with
  | nil => simpa [insertEntry] using h
  | cons entry rest ih =>
    simp only [insertEntry] at h
    split at h
    · simpa using h
    · split at h
      · rcases List.mem_cons.1 h with h | h
        · exact .inl h
        · exact .inr (List.mem_cons_of_mem _ h)
      · rcases List.mem_cons.1 h with h | h
        · exact .inr (h ▸ List.mem_cons_self)
        · rcases ih h with h | h
          · exact .inl h
          · exact .inr (List.mem_cons_of_mem _ h)

theorem sorted_insertEntry {key : String} {value : Bytes} {entries : List (String × Bytes)}
    (h : entries.Pairwise (fun a b => a.1 < b.1)) :
    (insertEntry key value entries).Pairwise (fun a b => a.1 < b.1) := by
  induction entries with
  | nil => simp [insertEntry]
  | cons entry rest ih =>
    have hrest := (List.pairwise_cons.1 h).2
    have hentry := (List.pairwise_cons.1 h).1
    simp only [insertEntry]
    split
    case isTrue hlt =>
      refine List.pairwise_cons.2 ⟨fun e he => ?_, h⟩
      rcases List.mem_cons.1 he with rfl | he
      · exact hlt
      · exact String.lt_trans hlt (hentry e he)
    case isFalse hlt =>
      split
      case isTrue heq =>
        refine List.pairwise_cons.2 ⟨fun e he => ?_, hrest⟩
        simpa [heq] using hentry e he
      case isFalse hne =>
        refine List.pairwise_cons.2 ⟨fun e he => ?_, ih hrest⟩
        rcases mem_insertEntry he with rfl | he
        · have hle : entry.1 ≤ key := String.not_lt.1 hlt
          exact Std.lt_of_le_of_ne hle (Ne.symm hne)
        · exact hentry e he

/-- The map with the entry added; an equal key is replaced. -/
def insert (map : ByteMap) (key : String) (value : Bytes) : ByteMap :=
  ⟨insertEntry key value map.entries, sorted_insertEntry map.sorted⟩

end ByteMap

end ChannelLedger.Wire
