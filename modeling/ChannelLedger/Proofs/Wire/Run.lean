import ChannelLedger.Proofs.Wire.Varint
import ChannelLedger.Wire.Read

/-!
# Reading field after field

A `FieldRun` says that bytes are a sequence of fields which a reader takes one after the other,
each whatever stands behind it, and what it has read at the end. Runs are put together
(`FieldRun.append`, `FieldRun.flatMap`) and carried over to a reader of more (`FieldRun.lift`); the
two loops of the format then read such bytes to their end and no further (`FieldRun.readWhile`,
`FieldRun.readDelimited`).
-/
namespace ChannelLedger.Wire

open Outcome

/-! ## The loop, step by step -/

section

variable {ε σ : Type} {step : σ → Bytes → Except ε (σ × Bytes)} {stop fuel : Nat} {state next : σ}
  {input rest : Bytes}

theorem readWhile_of_step (hmore : stop < input.length) (hstep : step state input = .ok (next, rest)) :
    readWhile step stop (fuel + 1) state input = readWhile step stop fuel next rest := by
  rw [readWhile, if_neg (Nat.not_le.2 hmore), hstep]
  rfl

theorem readWhile_of_le (hle : input.length ≤ stop) (fuel : Nat) (state : σ) :
    readWhile step stop fuel state input = .ok (state, input) := by
  cases fuel with
  | zero => rfl
  | succ fuel => rw [readWhile, if_pos hle]

end

/-! ## Field after field -/

/-- A reader of one field, whose key has been read. -/
abbrev FieldReader (σ : Type) := σ → Key → Bytes → Except Fault (σ × Bytes)

variable {σ τ : Type} {read : FieldReader σ} {numbers : List Nat}

/-- The reader takes the bytes field by field, all under the given numbers, from one state to
another. -/
inductive FieldRun (read : FieldReader σ) (numbers : List Nat) : Bytes → σ → σ → Prop
  | nil (state : σ) : FieldRun read numbers [] state state
  | cons {number : Nat} {wireType : WireType} {content rest : Bytes} {state next last : σ}
      (known : number ∈ numbers) (isNumber : Key.IsNumber number)
      (step : ∀ behind, read state ⟨number, wireType⟩ (content ++ behind) = .ok (next, behind))
      (run : FieldRun read numbers rest next last) :
      FieldRun read numbers (Key.write number wireType ++ content ++ rest) state last

namespace FieldRun

theorem single {number : Nat} {wireType : WireType} {content : Bytes} {state next : σ}
    (known : number ∈ numbers) (isNumber : Key.IsNumber number)
    (step : ∀ behind, read state ⟨number, wireType⟩ (content ++ behind) = .ok (next, behind)) :
    FieldRun read numbers (Key.write number wireType ++ content) state next := by
  have hrun := cons known isNumber step (nil next)
  rwa [List.append_nil] at hrun

theorem append {front back : Bytes} {state middle last : σ}
    (hfront : FieldRun read numbers front state middle)
    (hback : FieldRun read numbers back middle last) :
    FieldRun read numbers (front ++ back) state last := by
  induction hfront with
  | nil state => exact hback
  | cons known isNumber step _ ih =>
    rw [List.append_assoc]
    exact cons known isNumber step (ih hback)

/-- Items that are written one after the other are read one after the other. -/
theorem flatMap {ι : Type} {write : ι → Bytes} {add : σ → ι → σ} {items : List ι}
    (h : ∀ item ∈ items, ∀ state, FieldRun read numbers (write item) state (add state item))
    (state : σ) :
    FieldRun read numbers (items.flatMap write) state (items.foldl add state) := by
  induction items generalizing state with
  | nil => exact nil state
  | cons item items ih =>
    rw [List.flatMap_cons, List.foldl_cons]
    apply append (h item List.mem_cons_self state)
    exact ih (fun other hother => h other (List.mem_cons_of_mem _ hother)) _

/-- A reader of a part is run inside a reader of the whole, which does the same under these
numbers and leaves the other parts alone. -/
theorem lift {read' : FieldReader τ} {numbers' : List Nat} {bytes : Bytes} {state last : σ}
    (put : σ → τ) (hnumbers : ∀ number ∈ numbers, number ∈ numbers')
    (hread : ∀ number ∈ numbers, ∀ wireType state input next rest,
      read state ⟨number, wireType⟩ input = .ok (next, rest) →
      read' (put state) ⟨number, wireType⟩ input = .ok (put next, rest))
    (h : FieldRun read numbers bytes state last) :
    FieldRun read' numbers' bytes (put state) (put last) := by
  induction h with
  | nil state => exact nil _
  | cons known isNumber step _ ih =>
    exact cons (hnumbers _ known) isNumber
      (fun behind => hread _ known _ _ _ _ _ (step behind)) ih

/-! ## The loops -/

/-- **A loop reads the bytes of a run and stops at what stands behind them.** -/
theorem readWhile {bytes : Bytes} {state last : σ} (h : FieldRun read numbers bytes state last)
    (behind : Bytes) {fuel : Nat} (hfuel : bytes.length ≤ fuel) :
    Wire.readWhile (fun state => readKeyed (read state)) behind.length fuel state (bytes ++ behind)
      = .ok (last, behind) := by
  induction h generalizing fuel with
  | nil state =>
    rw [List.nil_append]
    exact readWhile_of_le (Nat.le_refl _) fuel state
  | @cons number wireType content rest state next last _ isNumber step _ ih =>
    have hkey : 0 < (Key.write number wireType).length :=
      List.length_pos_iff.2 (Key.write_ne_nil number wireType)
    simp only [List.length_append] at hfuel
    obtain ⟨fuel, rfl⟩ : ∃ left, fuel = left + 1 := ⟨fuel - 1, by omega⟩
    have hmore : behind.length < (Key.write number wireType ++ content ++ rest ++ behind).length := by
      simp only [List.length_append]
      omega
    have hstep : readKeyed (read state) (Key.write number wireType ++ content ++ rest ++ behind)
        = .ok (next, rest ++ behind) := by
      simp only [readKeyed, List.append_assoc, Key.read_write isNumber, mapError_ok, ok_bind, step]
    rw [readWhile_of_step hmore hstep]
    exact ih (by omega)

/-- **A part of the given length is read to its end.** -/
theorem readDelimited {bytes : Bytes} {state last : σ}
    (h : FieldRun read numbers bytes state last) (hlength : bytes.length < 2 ^ 64)
    (behind : Bytes) :
    Wire.readDelimited (fun state => readKeyed (read state)) state
        (Varint.write (UInt64.ofNat bytes.length) ++ bytes ++ behind)
      = .ok (last, behind) := by
  have hnat := UInt64.toNat_ofNat_of_lt' hlength
  have hfits : ¬ (bytes ++ behind).length < bytes.length := by
    simp only [List.length_append]
    omega
  have hstop : (bytes ++ behind).length - bytes.length = behind.length := by
    simp only [List.length_append]
    omega
  have hfuel : bytes.length ≤ (bytes ++ behind).length := by simp
  have hloop := h.readWhile behind hfuel
  simp only [Wire.readDelimited, List.append_assoc, Varint.read_write, mapError_ok, ok_bind, hnat,
    hfits, if_false, hstop, hloop, Nat.lt_irrefl, pure_eq]

end FieldRun

/-! ## What stands behind a key -/

theorem readWord_write (word : UInt64) (behind : Bytes) :
    readWord .varint (Varint.write word ++ behind) = .ok (word, behind) := by
  simp only [readWord, expect, if_true, ok_bind, Varint.read_write, mapError_ok]

theorem readBytes_write {bytes : Bytes} (h : bytes.length < 2 ^ 64) (behind : Bytes) :
    readBytes .delimited (Varint.write (UInt64.ofNat bytes.length) ++ bytes ++ behind)
      = .ok (bytes, behind) := by
  have hnat := UInt64.toNat_ofNat_of_lt' h
  have hfits : ¬ (bytes ++ behind).length < bytes.length := by
    simp only [List.length_append]
    omega
  simp only [readBytes, expect, if_true, ok_bind, List.append_assoc, Varint.read_write,
    mapError_ok, hnat, hfits, if_false, pure_eq, List.take_left, List.drop_left]

end ChannelLedger.Wire
