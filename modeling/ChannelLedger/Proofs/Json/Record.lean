import ChannelLedger.Json.Record
import ChannelLedger.Proofs.Json.Text

/-!
# Records are read from loosened objects

Others write the same record with its fields in another order and with fields of their own among them, in
every object that is part of it. `Loosened` is what may stand for a value in that way; only the object that
names one of several alternatives has no room for another field. A component is found wherever it stands
(`Loosened.filter_eq`), so a record is read from whatever stands for it if each of its components is
(`Survives`), and the lemmas here say so of strings, numbers, lists and options.

Main theorem `Loosened.components?`.
-/
namespace ChannelLedger.Json

/-! ## Loosened values -/

section
variable (alternatives : List String)

mutual

/-- A value that stands for another one: objects have the same fields in any order, and among them others
with names of their own. An object with a field of one of the alternatives has no others. -/
def Loosened : (written read : Json) → Prop
  | .array items, json => ∃ items', json = .array items' ∧ LoosenedItems items items'
  | .object fields, json => ∃ known others fields', json = .object fields' ∧ fields'.Perm (known ++ others) ∧
    LoosenedFields fields known ∧ (∀ other ∈ others, other.1 ∉ fields.map (·.1)) ∧
    ((∃ field ∈ fields, field.1 ∈ alternatives) → others = [])
  | .null, json => json = .null
  | .bool b, json => json = .bool b
  | .int n, json => json = .int n
  | .real text, json => json = .real text
  | .string s, json => json = .string s

def LoosenedItems : (written read : List Json) → Prop
  | [], items' => items' = []
  | item :: items, items' => ∃ item' rest, items' = item' :: rest ∧ Loosened item item' ∧ LoosenedItems items rest

def LoosenedFields : (written read : List (String × Json)) → Prop
  | [], fields' => fields' = []
  | (name, value) :: fields, fields' => ∃ value' rest, fields' = (name, value') :: rest ∧ Loosened value value' ∧
    LoosenedFields fields rest

end

end

variable {alternatives : List String}

mutual

/-- Every value stands for itself. -/
theorem Loosened.refl : (json : Json) → Loosened alternatives json json
  | .array items => ⟨items, rfl, LoosenedItems.refl items⟩
  | .object fields => ⟨fields, [], fields, rfl, by rw [List.append_nil], LoosenedFields.refl fields, by simp,
    fun _ => rfl⟩
  | .null | .bool _ | .int _ | .real _ | .string _ => rfl

theorem LoosenedItems.refl : (items : List Json) → LoosenedItems alternatives items items
  | [] => rfl
  | item :: items => ⟨item, items, rfl, Loosened.refl item, LoosenedItems.refl items⟩

theorem LoosenedFields.refl : (fields : List (String × Json)) → LoosenedFields alternatives fields fields
  | [] => rfl
  | (_, value) :: fields => ⟨value, fields, rfl, Loosened.refl value, LoosenedFields.refl fields⟩

end

/-! ## The fields of a loosened object -/

theorem LoosenedFields.names_eq {fields known : List (String × Json)} (h : LoosenedFields alternatives fields known) :
    known.map (·.1) = fields.map (·.1) := by
  induction fields generalizing known with
  | nil => rw [h]
  | cons field fields ih =>
    obtain ⟨value', rest, rfl, -, hrest⟩ := h
    rw [List.map_cons, List.map_cons, ih hrest]

theorem filter_eq_nil {fields : List (String × Json)} {name : String} (h : name ∉ fields.map (·.1)) :
    fields.filter (·.1 = name) = [] := by
  rw [List.filter_eq_nil_iff]
  intro field hm heq
  exact h (List.mem_map.2 ⟨field, hm, of_decide_eq_true heq⟩)

/-- A field of an object whose names differ is the only one of its name among those that stand for them. -/
theorem LoosenedFields.filter_eq {fields known : List (String × Json)} (h : LoosenedFields alternatives fields known)
    (distinct : (fields.map (·.1)).Nodup) {name : String} {value : Json} (hm : (name, value) ∈ fields) :
    ∃ value', known.filter (·.1 = name) = [(name, value')] ∧ Loosened alternatives value value' := by
  induction fields generalizing known with
  | nil => cases hm
  | cons field fields ih =>
    obtain ⟨first, firstValue⟩ := field
    obtain ⟨firstValue', rest, rfl, hfirst, hrest⟩ := h
    rw [List.map_cons, List.nodup_cons] at distinct
    rcases List.mem_cons.1 hm with heq | hm
    · obtain ⟨rfl, rfl⟩ := Prod.mk.inj heq
      refine ⟨firstValue', ?_, hfirst⟩
      rw [List.filter_cons_of_pos (by simp), filter_eq_nil (by rw [hrest.names_eq]; exact distinct.1)]
    · obtain ⟨value', hfilter, hvalue⟩ := ih hrest distinct.2 hm
      have hne : first ≠ name := by
        rintro rfl
        exact distinct.1 (List.mem_map.2 ⟨_, hm, rfl⟩)
      exact ⟨value', by rw [List.filter_cons_of_neg (by simpa using hne), hfilter], hvalue⟩

/-- **A field is found in a loosened object**, wherever it stands and whatever stands beside it. -/
theorem Loosened.filter_eq {fields fields' : List (String × Json)}
    (h : Loosened alternatives (.object fields) (.object fields')) (distinct : (fields.map (·.1)).Nodup)
    {name : String} {value : Json} (hm : (name, value) ∈ fields) :
    ∃ value', fields'.filter (·.1 = name) = [(name, value')] ∧ Loosened alternatives value value' := by
  obtain ⟨known, others, _, heq, hperm, hknown, hothers, -⟩ := h
  obtain rfl := Json.object.inj heq
  obtain ⟨value', hfilter, hvalue⟩ := hknown.filter_eq distinct hm
  refine ⟨value', List.perm_singleton.1 ?_, hvalue⟩
  have hnone : others.filter (·.1 = name) = [] := by
    refine filter_eq_nil fun hname => ?_
    obtain ⟨other, hother, rfl⟩ := List.mem_map.1 hname
    exact hothers other hother (List.mem_map.2 ⟨_, hm, rfl⟩)
  have hboth := hperm.filter (·.1 = name)
  rwa [List.filter_append, hnone, List.append_nil, hfilter] at hboth

/-- Some of the fields of an object are found in a loosened one. -/
theorem Loosened.fieldsOf? {fields fields' picked : List (String × Json)}
    (h : Loosened alternatives (.object fields) (.object fields')) (distinct : (fields.map (·.1)).Nodup)
    (sub : picked ⊆ fields) : ∃ values, Json.fieldsOf? (picked.map (·.1)) fields' = some (values.map some) ∧
      LoosenedItems alternatives (picked.map (·.2)) values := by
  induction picked with
  | nil => exact ⟨[], rfl, rfl⟩
  | cons field picked ih =>
    obtain ⟨name, value⟩ := field
    obtain ⟨value', hfilter, hvalue⟩ := h.filter_eq distinct (sub List.mem_cons_self)
    obtain ⟨values, hvalues, hloosened⟩ := ih fun other hm => sub (List.mem_cons_of_mem _ hm)
    refine ⟨value' :: values, ?_, value', values, rfl, hvalue, hloosened⟩
    rw [Json.fieldsOf?] at hvalues ⊢
    simp [List.mapM_cons, hfilter, hvalues]

/-- An object stands for an object. -/
theorem Loosened.object {fields : List (String × Json)} {json : Json}
    (h : Loosened alternatives (.object fields) json) : ∃ fields', json = .object fields' := by
  obtain ⟨-, -, fields', rfl, -⟩ := h
  exact ⟨fields', rfl⟩

/-- **The components of a record are found in whatever stands for its object**, each in its place. -/
theorem Loosened.components? {fields : List (String × Json)} {json : Json}
    (h : Loosened alternatives (.object fields) json) (names : List String) (hnames : fields.map (·.1) = names)
    (distinct : names.Nodup) : ∃ values, json.components? names = some (values.map some) ∧
      LoosenedItems alternatives (fields.map (·.2)) values := by
  obtain ⟨fields', rfl⟩ := h.object
  rw [← hnames] at distinct ⊢
  exact h.fieldsOf? distinct (List.Subset.refl _)

/-! ## Components -/

/-- A value is read back from whatever stands for what is written of it. -/
def Survives {α : Type} (alternatives : List String) (write : α → Json) (read : Json → Option α) (a : α) : Prop :=
  ∀ json, Loosened alternatives (write a) json → read json = some a

theorem survives_string (s : String) : Survives alternatives .string string? s := by
  intro json h
  rw [h]
  rfl

theorem survives_bool (b : Bool) : Survives alternatives .bool bool? b := by
  intro json h
  rw [h]
  rfl

theorem natBelow?_nat {bound n : Nat} (h : n < bound) : natBelow? bound (.nat n) = some n :=
  if_pos h

theorem survives_nat64 {n : Nat} (h : n < 2 ^ 64) : Survives alternatives .nat nat64? n := by
  intro json hjson
  rw [hjson]
  exact natBelow?_nat h

theorem survives_uint64 (n : UInt64) : Survives alternatives (fun n => .nat n.toNat) uint64? n := by
  intro json h
  rw [h]
  change (nat64? (.nat n.toNat)).map UInt64.ofNat = _
  rw [nat64?, natBelow?_nat n.toNat_lt, Option.map_some, UInt64.ofNat_toNat]

theorem survives_uint8 (n : UInt8) : Survives alternatives (fun n => .nat n.toNat) uint8? n := by
  intro json h
  rw [h]
  change (natBelow? 0x100 (.nat n.toNat)).map UInt8.ofNat = _
  rw [natBelow?_nat n.toNat_lt, Option.map_some, UInt8.ofNat_toNat]

theorem survives_int32 (n : Int32) : Survives alternatives (fun n => .int n.toInt) int32? n := by
  intro json h
  rw [h]
  change (if _ then some (Int32.ofInt n.toInt) else none) = _
  rw [if_pos ⟨n.le_toInt, n.toInt_lt⟩, Int32.ofInt_toInt]

section
variable {α : Type} {write : α → Json} {read : Json → Option α}

theorem survives_list {as : List α} (h : ∀ a ∈ as, Survives alternatives write read a) :
    Survives alternatives (fun as => .array (as.map write)) (list? read) as := by
  induction as with
  | nil =>
    rintro json ⟨items, rfl, rfl⟩
    rfl
  | cons a as ih =>
    rintro json ⟨items, rfl, item, items, rfl, hitem, hitems⟩
    have hfirst := h a List.mem_cons_self item hitem
    have hrest := ih (fun other hm => h other (List.mem_cons_of_mem _ hm)) (.array items) ⟨items, rfl, hitems⟩
    rw [list?] at hrest ⊢
    simp [List.mapM_cons, hfirst, hrest]

/-- A component that has to be there. -/
theorem Survives.required {a : α} (h : Survives alternatives write read a) {json : Json}
    (hjson : Loosened alternatives (write a) json) : Json.required read (some json) = some a :=
  h json hjson

/-- A component that may be absent, and is not `null` if it is there. -/
theorem optional?_of_survives {option : Option α} (h : ∀ a, Survives alternatives write read a)
    (present : ∀ a, ¬ Loosened alternatives (write a) .null) {json : Json}
    (hjson : Loosened alternatives (.optional write option) json) : Json.optional? read (some json) = some option := by
  cases option with
  | none =>
    rw [hjson]
    rfl
  | some a =>
    have hread := h a json hjson
    cases json with
    | null => exact absurd hjson (present a)
    | _ => simp [Json.optional?, hread]

end

/-! ## What is written can be read -/

variable {depth : Nat}

theorem readable_string (s : String) : Readable depth (.string s) := by
  cases depth <;> trivial

theorem readable_nat {n : Nat} (h : n < 2 ^ 64) : Readable depth (.nat n) := by
  have hn := Int.ofNat_lt.2 h
  exact ⟨by omega, by omega⟩

theorem readable_int32 (n : Int32) : Readable depth (.int n.toInt) :=
  ⟨by have := n.le_toInt; omega, by have := n.toInt_lt; omega⟩

theorem readable_list {α : Type} {write : α → Json} {as : List α} (h : ∀ a ∈ as, Readable depth (write a)) :
    Readable (depth + 1) (.array (as.map write)) := by
  induction as with
  | nil => trivial
  | cons a as ih => exact ⟨h a List.mem_cons_self, ih fun other hm => h other (List.mem_cons_of_mem _ hm)⟩

theorem readable_optional {α : Type} {write : α → Json} (h : ∀ a, Readable depth (write a)) (option : Option α) :
    Readable depth (.optional write option) := by
  cases option with
  | none => trivial
  | some a => exact h a

end ChannelLedger.Json
