import Mathlib.Data.List.Sort
import ChannelLedger.Wire.Schema

/-!
# What is left of a value when another is read after it

Bytes may mention a field again. A scalar, text or byte string that is not the default replaces
the earlier one, messages merge field by field, repeated fields grow, and the entries of a map
replace those of the same key (`FieldType.merge`, `Fields.merge`). Reading starts from the
defaults, which leave no trace in what is read after them (`Fields.merge_default`).

Map entries may arrive in any order. Their keys differ, so the map that they add up to is the same
(`ByteMap.insertAll_perm`).
-/
namespace ChannelLedger.Wire

/-! ## Maps -/

namespace ByteMap

theorem mem_insertEntry_iff (key : String) (value : Bytes) {entries : List (String × Bytes)}
    (h : entries.Pairwise (fun a b => a.1 < b.1)) (e : String × Bytes) :
    e ∈ insertEntry key value entries ↔ e = (key, value) ∨ e ∈ entries ∧ e.1 ≠ key := by
  induction entries with
  | nil => simp [insertEntry]
  | cons entry rest ih =>
    obtain ⟨hentry, hrest⟩ := List.pairwise_cons.1 h
    simp only [insertEntry]
    split
    case isTrue hlt =>
      have hne : ∀ f ∈ entry :: rest, f.1 ≠ key := by
        intro f hf heq
        rcases List.mem_cons.1 hf with rfl | hf
        · exact String.lt_irrefl _ (heq ▸ hlt)
        · exact String.lt_irrefl _ (String.lt_trans hlt (heq ▸ hentry f hf))
      rw [List.mem_cons]
      exact or_congr_right ⟨fun he => ⟨he, hne e he⟩, And.left⟩
    case isFalse hlt =>
      split
      case isTrue heq =>
        have hne : ∀ f ∈ rest, f.1 ≠ key := by
          intro f hf hkey
          have hlt := hentry f hf
          rw [hkey, heq] at hlt
          exact String.lt_irrefl _ hlt
        simp only [List.mem_cons]
        constructor
        · rintro (rfl | he)
          · exact .inl rfl
          · exact .inr ⟨.inr he, hne e he⟩
        · rintro (rfl | ⟨rfl | he, hkey⟩)
          · exact .inl rfl
          · exact absurd heq.symm hkey
          · exact .inr he
      case isFalse hne =>
        rw [List.mem_cons, ih hrest, List.mem_cons]
        constructor
        · rintro (rfl | rfl | ⟨he, hkey⟩)
          · exact .inr ⟨.inl rfl, fun heq => hne heq.symm⟩
          · exact .inl rfl
          · exact .inr ⟨.inr he, hkey⟩
        · rintro (rfl | ⟨rfl | he, hkey⟩)
          · exact .inr (.inl rfl)
          · exact .inl rfl
          · exact .inr (.inr ⟨he, hkey⟩)

/-- Maps with the same entries are equal. -/
theorem eq_of_mem_iff {a b : ByteMap} (h : ∀ e, e ∈ a.entries ↔ e ∈ b.entries) : a = b := by
  have hirrefl : Std.Irrefl (fun a b : String × Bytes => a.1 < b.1) :=
    ⟨fun e => String.lt_irrefl e.1⟩
  have hantisymm : Std.Antisymm (fun a b : String × Bytes => a.1 < b.1) :=
    ⟨fun e f hef hfe => absurd (String.lt_trans hef hfe) (String.lt_irrefl e.1)⟩
  have heq := a.sorted.eq_of_mem_iff b.sorted h
  cases a
  cases b
  cases heq
  rfl

/-- The map after entries that are read one after the other. -/
def insertAll (map : ByteMap) (entries : List (String × Bytes)) : ByteMap :=
  entries.foldl (fun map entry => map.insert entry.1 entry.2) map

theorem mem_insertAll {entries : List (String × Bytes)} (h : entries.Pairwise (·.1 ≠ ·.1))
    (map : ByteMap) (e : String × Bytes) :
    e ∈ (map.insertAll entries).entries
      ↔ e ∈ entries ∨ e ∈ map.entries ∧ ∀ f ∈ entries, f.1 ≠ e.1 := by
  unfold insertAll
  induction entries generalizing map with
  | nil => simp
  | cons entry rest ih =>
    obtain ⟨hentry, hrest⟩ := List.pairwise_cons.1 h
    have hinsert := mem_insertEntry_iff entry.1 entry.2 map.sorted e
    rw [List.foldl_cons, ih hrest]
    simp only [insert, hinsert, List.mem_cons, forall_eq_or_imp]
    constructor
    · rintro (he | ⟨rfl | ⟨he, hkey⟩, hfree⟩)
      · exact .inl (.inr he)
      · exact .inl (.inl rfl)
      · exact .inr ⟨he, fun heq => hkey heq.symm, hfree⟩
    · rintro ((rfl | he) | ⟨he, hkey, hfree⟩)
      · exact .inr ⟨.inl rfl, fun f hf heq => hentry f hf heq.symm⟩
      · exact .inl he
      · exact .inr ⟨.inr ⟨he, fun heq => hkey heq.symm⟩, hfree⟩

/-- The keys of a map differ. -/
theorem distinct_entries (map : ByteMap) : map.entries.Pairwise (·.1 ≠ ·.1) := by
  refine map.sorted.imp ?_
  intro a b hlt heq
  rw [heq] at hlt
  exact String.lt_irrefl _ hlt

/-- The map with the entries of another put over its own. -/
def merge (old new : ByteMap) : ByteMap :=
  old.insertAll new.entries

/-- **The entries of a map may be read in any order.** -/
theorem insertAll_perm {entries : List (String × Bytes)} {new : ByteMap}
    (h : entries.Perm new.entries) (old : ByteMap) : old.insertAll entries = old.merge new := by
  have hdistinct : entries.Pairwise (·.1 ≠ ·.1) :=
    (h.pairwise_iff fun hne => hne.symm).2 new.distinct_entries
  apply eq_of_mem_iff
  intro e
  rw [merge, mem_insertAll hdistinct, mem_insertAll new.distinct_entries]
  simp only [h.mem_iff]

@[simp] theorem empty_merge (map : ByteMap) : empty.merge map = map := by
  apply eq_of_mem_iff
  intro e
  rw [merge, mem_insertAll map.distinct_entries]
  simp [empty]

end ByteMap

/-! ## Records -/

/-- The second of two values that are read for one field, unless it is the default. -/
def override {α : Type} [DecidableEq α] (default old new : α) : α :=
  if new = default then old else new

@[simp] theorem override_default {α : Type} [DecidableEq α] (default new : α) :
    override default default new = new := by
  unfold override
  split
  · exact Eq.symm ‹_›
  · rfl

mutual

/-- The value of a field after a second value was read behind the first. -/
def FieldType.merge : (type : FieldType) → (old new : type.Value) → type.Value
  | .int32, old, new => override (0 : Int32) old new
  | .int64, old, new => override (0 : Int64) old new
  | .uint64, old, new => override (0 : UInt64) old new
  | .bool, old, new => override false old new
  | .string, old, new => override "" old new
  | .bytes, old, new => override ([] : Bytes) old new
  | .repeatedBytes, old, new => (old ++ new : List Bytes)
  | .map, old, new => ByteMap.merge old new
  | .message _ fields, old, new =>
    match new with
    | none => old
    | some new => some (fields.merge (Option.getD old fields.default) new)
  | .repeatedMessage _ fields, old, new => (old ++ new : List fields.Record)

/-- The record after a second record was read behind the first. -/
def Fields.merge : (fields : Fields) → (old new : fields.Record) → fields.Record
  | .nil, _, _ => ()
  | .cons _ _ type rest, (old, olds), (new, news) => (type.merge old new, rest.merge olds news)

end

mutual

theorem FieldType.merge_default : (type : FieldType) → (value : type.Value) →
    type.merge type.default value = value
  | .int32, value | .int64, value | .uint64, value | .bool, value | .string, value
  | .bytes, value => by
    unfold FieldType.merge FieldType.default
    exact override_default _ _
  | .repeatedBytes, value => by
    unfold FieldType.merge FieldType.default
    exact List.nil_append _
  | .map, value => by
    unfold FieldType.merge FieldType.default
    exact ByteMap.empty_merge value
  | .message _ fields, none => by
    unfold FieldType.merge FieldType.default
    rfl
  | .message _ fields, some record => by
    unfold FieldType.merge FieldType.default
    exact congrArg some (Fields.merge_default fields record)
  | .repeatedMessage _ fields, value => by
    unfold FieldType.merge FieldType.default
    exact List.nil_append _

/-- **The defaults leave no trace in what is read after them.** -/
theorem Fields.merge_default : (fields : Fields) → (record : fields.Record) →
    fields.merge fields.default record = record
  | .nil, () => rfl
  | .cons _ _ type rest, (value, others) => by
    unfold Fields.merge Fields.default
    rw [FieldType.merge_default type value, Fields.merge_default rest others]

end

end ChannelLedger.Wire
