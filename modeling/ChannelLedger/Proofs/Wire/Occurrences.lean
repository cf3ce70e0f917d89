import ChannelLedger.Proofs.Wire.Undeclared

/-!
# Every value of a field

Where a field that holds a byte string occurs more than once, a message shows the last of its values and
nothing of the others. The same bytes can be read with that field repeated, and then they show every one of
them (`Schema.values`). Both ways the bytes fall into the same parts, so the value that the message shows is
the last of all (`Schema.value_eq`).

Messages that stand one behind the other are one message as well. What it shows of the field is what the last
of them shows; but its values are all of theirs, in order (`Schema.values_flatten`).
-/
namespace ChannelLedger.Wire

open Outcome

namespace Schema

variable (name : String) (number : Nat) (field : String) (rest : Fields)

/-- A message type whose first field holds a byte string. -/
def single : Schema :=
  ⟨name, .cons number field .bytes rest⟩

/-- The same message type, of which every value of the first field is kept. -/
def every : Schema :=
  ⟨name, .cons number field .repeatedBytes rest⟩

/-- The values of the first field in some bytes, none if they do not decode. -/
def values (input : Bytes) : List Bytes :=
  match (every name number field rest).decode input with
  | .ok (values, _) => values
  | .error _ => []

variable {name number field rest} {budget : Nat} {bytes : Bytes}

/-- Reading a field, the two ways take the same bytes; if it is the first one, its value is kept or replaces
the one before. -/
theorem takes_every {value next : Bytes} {others nextOthers : rest.Record}
    (h : Takes ((single name number field rest).readField budget (value, others)) bytes (next, nextOthers)) :
    ∃ new : List Bytes, next = new.getLast?.getD value ∧
      ∀ (values : List Bytes) (others : rest.Record), ∃ last : rest.Record,
        Takes ((every name number field rest).readField budget (values, others)) bytes (values ++ new, last) := by
  have hread := h []
  rw [List.append_nil] at hread
  obtain ⟨⟨key, content⟩, hkey, hfield⟩ := bind_eq_ok.1 hread
  cases hkeyRead : Key.read bytes with
  | error cause => simp [hkeyRead] at hkey
  | ok pair =>
  obtain rfl : pair = (key, content) := by simpa [hkeyRead] using hkey
  obtain ⟨head, rfl, hhead⟩ := Key.read_eq_ok.1 hkeyRead
  dsimp only [single] at hfield
  by_cases hnumber : key.number = number
  · obtain ⟨other, wireType⟩ := key
    obtain rfl : other = number := hnumber
    rw [Fields.read_cons_self, FieldType.read_bytes] at hfield
    obtain ⟨⟨read, left⟩, hbytes, heq⟩ := map_eq_ok.1 hfield
    cases heq
    cases hbytesRead : readBytes wireType content with
    | error fault => simp [hbytesRead] at hbytes
    | ok pair =>
    obtain rfl : pair = (read, []) := by simpa [hbytesRead] using hbytes
    obtain ⟨front, hfront, htakes⟩ := local_readBytes wireType hbytesRead
    rw [List.append_nil] at hfront
    subst hfront
    refine ⟨[read], rfl, fun values others => ⟨others, takes_readKeyed hhead (Fields.takes_head ?_ others)⟩⟩
    intro behind
    rw [FieldType.read_repeatedBytes, htakes behind, map_ok]
  · rw [Fields.read_cons_of_ne hnumber] at hfield
    obtain ⟨⟨read, left⟩, hrest, heq⟩ := map_eq_ok.1 hfield
    cases heq
    obtain ⟨front, hfront, hall⟩ := rest.steady_read name budget key hrest
    rw [List.append_nil] at hfront
    subst hfront
    refine ⟨[], rfl, fun values others => ?_⟩
    obtain ⟨last, htakes⟩ := hall others
    refine ⟨last, takes_readKeyed hhead ?_⟩
    rw [List.append_nil]
    change Takes ((Fields.cons number field .repeatedBytes rest).read name budget key (values, others)) content
      (values, last)
    exact Fields.takes_tail htakes hnumber _

/-- **The two ways read the same parts**, and the last of the values is the one that the message shows. -/
theorem run_every {state last : (single name number field rest).Record}
    (h : Run ((single name number field rest).readField budget) bytes state last) :
    ∃ new : List Bytes, last.1 = new.getLast?.getD state.1 ∧
      ∀ (values : List Bytes) (others : rest.Record), ∃ after : rest.Record,
        Run ((every name number field rest).readField budget) bytes (values, others) (values ++ new, after) := by
  induction h with
  | nil state =>
    refine ⟨[], rfl, fun values others => ⟨others, ?_⟩⟩
    rw [List.append_nil]
    exact .nil _
  | cons nonempty takes _ ih =>
    obtain ⟨new, hvalue, htakes⟩ := takes_every takes
    obtain ⟨later, hlast, hrun⟩ := ih
    refine ⟨new ++ later, ?_, fun values others => ?_⟩
    · rw [hlast, hvalue, List.getLast?_append]
      cases later.getLast? <;> rfl
    · obtain ⟨middle, hpart⟩ := htakes values others
      obtain ⟨after, hrest⟩ := hrun (values ++ new) middle
      rw [List.append_assoc] at hrest
      exact ⟨after, .cons nonempty hpart hrest⟩

theorem values_of_run {values : List Bytes} {after : rest.Record}
    (h : Run ((every name number field rest).readField maxNesting) bytes ([], rest.default) (values, after)) :
    Schema.values name number field rest bytes = values := by
  have hdecode : (every name number field rest).decode bytes = .ok (values, after) := decode_iff.2 h
  rw [Schema.values, hdecode]

/-- What decodes shows the last of its values, which it adds to those in front of it. -/
theorem values_of_decode {record : (single name number field rest).Record}
    (h : (single name number field rest).decode bytes = .ok record) :
    record.1 = (values name number field rest bytes).getLast?.getD [] ∧
      ∀ (earlier : List Bytes) (others : rest.Record), ∃ after : rest.Record,
        Run ((every name number field rest).readField maxNesting) bytes (earlier, others)
          (earlier ++ values name number field rest bytes, after) := by
  obtain ⟨new, hvalue, hrun⟩ := run_every (decode_iff.1 h)
  have hnew : values name number field rest bytes = new := by
    obtain ⟨after, hempty⟩ := hrun [] rest.default
    rw [List.nil_append] at hempty
    exact values_of_run hempty
  rw [hnew]
  exact ⟨hvalue, hrun⟩

/-- A message shows the last value of its field. -/
theorem value_eq {record : (single name number field rest).Record}
    (h : (single name number field rest).decode bytes = .ok record) :
    record.1 = (values name number field rest bytes).getLast?.getD [] :=
  (values_of_decode h).1

/-- **Messages one behind the other have all their values**, however the bytes are cut into messages. -/
theorem values_flatten {parts : List Bytes}
    (decodes : ∀ part ∈ parts, ∃ record, (single name number field rest).decode part = .ok record) :
    values name number field rest parts.flatten = parts.flatMap (values name number field rest) := by
  have hrun : ∀ (earlier : List Bytes) (others : rest.Record), ∃ after : rest.Record,
      Run ((every name number field rest).readField maxNesting) parts.flatten (earlier, others)
        (earlier ++ parts.flatMap (values name number field rest), after) := by
    induction parts with
    | nil =>
      intro earlier others
      rw [List.flatten_nil, List.flatMap_nil, List.append_nil]
      exact ⟨others, .nil _⟩
    | cons part parts ih =>
      intro earlier others
      obtain ⟨record, hrecord⟩ := decodes part List.mem_cons_self
      obtain ⟨middle, hpart⟩ := (values_of_decode hrecord).2 earlier others
      obtain ⟨after, hparts⟩ := ih (fun other hm => decodes other (List.mem_cons_of_mem part hm))
        (earlier ++ values name number field rest part) middle
      refine ⟨after, ?_⟩
      rw [List.flatten_cons, List.flatMap_cons, ← List.append_assoc]
      exact hpart.append hparts
  obtain ⟨after, h⟩ := hrun [] rest.default
  rw [List.nil_append] at h
  exact values_of_run h

end Schema

end ChannelLedger.Wire
