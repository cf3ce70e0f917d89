import ChannelLedger.Bytes.Basic
import Mathlib.Data.List.Forall2

/-!
# Sequences of steps that may fail

Readers and decoders are sequences of steps of which the first that fails decides. These equations
take such a sequence apart: what it does after a step that succeeds, and after one that fails.
-/
namespace ChannelLedger.Outcome

variable {ε ε' α β : Type}

@[simp] theorem ok_bind (a : α) (f : α → Except ε β) : (Except.ok a >>= f) = f a := rfl

@[simp] theorem error_bind (e : ε) (f : α → Except ε β) : (Except.error e >>= f) = .error e := rfl

@[simp] theorem pure_eq (a : α) : (pure a : Except ε α) = .ok a := rfl

@[simp] theorem throw_eq (e : ε) : (throw e : Except ε α) = .error e := rfl

@[simp] theorem mapError_ok (f : ε → ε') (a : α) : (Except.ok a).mapError f = .ok a := rfl

@[simp] theorem mapError_error (f : ε → ε') (e : ε) :
    (Except.error e : Except ε α).mapError f = .error (f e) := rfl

@[simp] theorem map_ok (f : α → β) (a : α) : (Except.ok a : Except ε α).map f = .ok (f a) := rfl

@[simp] theorem map_error (f : α → β) (e : ε) : (Except.error e : Except ε α).map f = .error e := rfl

theorem bind_eq_ok {x : Except ε α} {f : α → Except ε β} {b : β} :
    (x >>= f) = .ok b ↔ ∃ a, x = .ok a ∧ f a = .ok b := by
  cases x <;> simp

theorem bind_eq_error {x : Except ε α} {f : α → Except ε β} {e : ε} :
    (x >>= f) = .error e ↔ x = .error e ∨ ∃ a, x = .ok a ∧ f a = .error e := by
  cases x <;> simp

theorem mapError_eq_error {x : Except ε α} {f : ε → ε'} {e : ε'} :
    x.mapError f = .error e ↔ ∃ cause, x = .error cause ∧ f cause = e := by
  cases x <;> simp

theorem mapError_eq_ok {x : Except ε α} {f : ε → ε'} {a : α} :
    x.mapError f = .ok a ↔ x = .ok a := by
  cases x <;> simp

theorem map_eq_ok {x : Except ε α} {f : α → β} {b : β} :
    x.map f = .ok b ↔ ∃ a, x = .ok a ∧ f a = b := by
  cases x <;> simp

/-- Where no item fails, the results are those of the items. -/
theorem mapM_ok {f : α → Except ε β} {items : List α} (h : ∀ item ∈ items, ∃ b, f item = .ok b) :
    ∃ results, items.mapM f = .ok results ∧ ∀ b, b ∈ results ↔ ∃ item ∈ items, f item = .ok b := by
  induction items with
  | nil => exact ⟨[], rfl, by simp⟩
  | cons item items ih =>
    obtain ⟨first, hfirst⟩ := h item List.mem_cons_self
    obtain ⟨rest, hrest, hmem⟩ := ih fun other hm => h other (List.mem_cons_of_mem item hm)
    refine ⟨first :: rest, by rw [List.mapM_cons, hfirst, ok_bind, hrest]; rfl, fun b => ?_⟩
    simp only [List.mem_cons, hmem, or_and_right, exists_or, exists_eq_left, hfirst, Except.ok.injEq,
      eq_comm (a := b)]

/-- Either no item fails, or the first that does decides. -/
theorem mapM_cases (f : α → Except ε β) (items : List α) :
    (∃ results, List.Forall₂ (fun item b => f item = .ok b) items results ∧ items.mapM f = .ok results) ∨
    ∃ front item behind e, items = front ++ item :: behind ∧ (∀ other ∈ front, ∃ b, f other = .ok b) ∧
      f item = .error e ∧ items.mapM f = .error e := by
  induction items with
  | nil => exact .inl ⟨[], .nil, rfl⟩
  | cons item items ih =>
    rw [List.mapM_cons]
    cases hitem : f item with
    | error e => exact .inr ⟨[], item, items, e, rfl, by simp, hitem, rfl⟩
    | ok b =>
      rcases ih with ⟨results, hall, heq⟩ | ⟨front, other, behind, e, rfl, hfront, hother, heq⟩
      · exact .inl ⟨b :: results, .cons hitem hall, by rw [ok_bind, heq]; rfl⟩
      · refine .inr ⟨item :: front, other, behind, e, rfl, ?_, hother, by rw [ok_bind, heq]; rfl⟩
        exact List.forall_mem_cons.2 ⟨⟨b, hitem⟩, hfront⟩

end ChannelLedger.Outcome
