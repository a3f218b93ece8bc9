import Mathlib.Data.List.Basic
import Mathlib.Tactic.Common

/-! Storage-mutating computations that may fail. A failed computation keeps the
writes it already made; only an explicit storage layer rolls them back. -/
namespace Frame

def Dispatch (σ ε α : Type) : Type := σ → Except ε α × σ

namespace Dispatch
variable {σ ε α β : Type}

instance : Monad (Dispatch σ ε) where
  pure a := fun s => (.ok a, s)
  bind x f := fun s =>
    match x s with
    | (.ok a, t) => f a t
    | (.error e, t) => (.error e, t)

/-- The current storage. -/
def read : Dispatch σ ε σ := fun s => (.ok s, s)

def write (f : σ → σ) : Dispatch σ ε Unit := fun s => (.ok (), f s)

def fail (e : ε) : Dispatch σ ε α := fun s => (.error e, s)

/-- `ensure!(p, e)`. -/
def ensure (p : Prop) [Decidable p] (e : ε) : Dispatch σ ε Unit :=
  if p then pure () else fail e

/-- `o.ok_or(e)?`. -/
def okOr (o : Option α) (e : ε) : Dispatch σ ε α :=
  match o with
  | some a => pure a
  | none => fail e

/-- `if p { x }`. -/
def when (p : Prop) [Decidable p] (x : Dispatch σ ε Unit) : Dispatch σ ε Unit :=
  if p then x else pure ()

/-- `#[transactional]`: an error undoes every write of the body. -/
def transactional (x : Dispatch σ ε α) : Dispatch σ ε α := fun s =>
  match x s with
  | (.ok a, t) => (.ok a, t)
  | (.error e, _) => (.error e, s)

@[simp] theorem pure_apply (a : α) (s : σ) : (pure a : Dispatch σ ε α) s = (.ok a, s) := rfl

theorem pure_ok_iff (a b : α) (s t : σ) :
    (pure a : Dispatch σ ε α) s = (.ok b, t) ↔ a = b ∧ t = s := by
  simp only [pure_apply, Prod.mk.injEq, Except.ok.injEq, eq_comm (a := s)]

/-- A sequence succeeds exactly when both halves do. -/
theorem bind_ok_iff (x : Dispatch σ ε α) (f : α → Dispatch σ ε β) (s t : σ) (b : β) :
    (x >>= f) s = (.ok b, t) ↔ ∃ a u, x s = (.ok a, u) ∧ f a u = (.ok b, t) := by
  change (match x s with
    | (.ok a, u) => f a u
    | (.error e, u) => (.error e, u)) = (.ok b, t) ↔ _
  rcases x s with ⟨_ | a, u⟩
  · simp
  · simp

theorem bind_of_ok (x : Dispatch σ ε α) (f : α → Dispatch σ ε β) (s t : σ) (a : α)
    (h : x s = (.ok a, t)) : (x >>= f) s = f a t := by
  change (match x s with
    | (.ok a, u) => f a u
    | (.error e, u) => (.error e, u)) = f a t
  rw [h]

theorem bind_of_error (x : Dispatch σ ε α) (f : α → Dispatch σ ε β) (s t : σ) (e : ε)
    (h : x s = (.error e, t)) : (x >>= f) s = (.error e, t) := by
  change (match x s with
    | (.ok a, u) => f a u
    | (.error e, u) => (.error e, u)) = (.error e, t)
  rw [h]

theorem pure_bind (a : α) (f : α → Dispatch σ ε β) : pure a >>= f = f a := rfl

theorem bind_assoc {γ : Type} (x : Dispatch σ ε α) (f : α → Dispatch σ ε β)
    (g : β → Dispatch σ ε γ) : x >>= f >>= g = x >>= fun a => f a >>= g := by
  funext s
  change (match (match x s with
      | (.ok a, t) => f a t
      | (.error e, t) => (.error e, t)) with
    | (.ok b, t) => g b t
    | (.error e, t) => (.error e, t)) =
    match x s with
    | (.ok a, t) => (f a >>= g) t
    | (.error e, t) => (.error e, t)
  rcases x s with ⟨_ | a, t⟩
  · rfl
  · rfl

theorem read_ok_iff (s t r : σ) :
    (read : Dispatch σ ε σ) s = (.ok r, t) ↔ r = s ∧ t = s := by
  simp only [read, Prod.mk.injEq, Except.ok.injEq, eq_comm (a := s)]

theorem write_ok_iff (f : σ → σ) (s t : σ) (u : Unit) :
    (write f : Dispatch σ ε Unit) s = (.ok u, t) ↔ t = f s := by
  simp only [write, Prod.mk.injEq, true_and, eq_comm (a := f s)]

theorem ensure_ok_iff (p : Prop) [Decidable p] (e : ε) (s t : σ) (u : Unit) :
    ensure p e s = (.ok u, t) ↔ p ∧ t = s := by
  by_cases h : p
  · simp [ensure, h, eq_comm]
  · simp [ensure, h, fail]

theorem okOr_ok_iff (o : Option α) (e : ε) (s t : σ) (a : α) :
    okOr o e s = (.ok a, t) ↔ o = some a ∧ t = s := by
  cases o with
  | none => simp [okOr, fail]
  | some b => simp [okOr, eq_comm]

theorem when_ok_iff (p : Prop) [Decidable p] (x : Dispatch σ ε Unit) (s t : σ) (u : Unit) :
    when p x s = (.ok u, t) ↔ (p ∧ x s = (.ok u, t)) ∨ (¬ p ∧ t = s) := by
  by_cases h : p
  · simp [when, h]
  · simp [when, h, eq_comm]

/-- A sequence fails in its first half, or in its second after a successful first. -/
theorem bind_error_iff (x : Dispatch σ ε α) (f : α → Dispatch σ ε β) (s t : σ) (e : ε) :
    (x >>= f) s = (.error e, t) ↔
      x s = (.error e, t) ∨ ∃ a u, x s = (.ok a, u) ∧ f a u = (.error e, t) := by
  change (match x s with
    | (.ok a, u) => f a u
    | (.error e, u) => (.error e, u)) = (.error e, t) ↔ _
  rcases x s with ⟨_ | a, u⟩
  · simp
  · simp

theorem ensure_error_iff (p : Prop) [Decidable p] (e e' : ε) (s t : σ) :
    ensure p e s = (.error e', t) ↔ ¬ p ∧ e = e' ∧ t = s := by
  by_cases h : p
  · simp [ensure, h]
  · simp [ensure, h, fail, eq_comm (a := s)]

theorem okOr_error_iff (o : Option α) (e e' : ε) (s t : σ) :
    okOr o e s = (.error e', t) ↔ o = none ∧ e = e' ∧ t = s := by
  cases o with
  | none => simp [okOr, fail, eq_comm (a := s)]
  | some b => simp [okOr]

theorem when_error_iff (p : Prop) [Decidable p] (x : Dispatch σ ε Unit) (s t : σ) (e : ε) :
    when p x s = (.error e, t) ↔ p ∧ x s = (.error e, t) := by
  by_cases h : p <;> simp [when, h]

theorem read_ne_error (s t : σ) (e : ε) : (read : Dispatch σ ε σ) s ≠ (.error e, t) := by
  simp [read]

theorem write_ne_error (f : σ → σ) (s t : σ) (e : ε) :
    (write f : Dispatch σ ε Unit) s ≠ (.error e, t) := by
  simp [write]

theorem pure_ne_error (a : α) (s t : σ) (e : ε) :
    (pure a : Dispatch σ ε α) s ≠ (.error e, t) := by
  simp

theorem transactional_ok_iff (x : Dispatch σ ε α) (s t : σ) (a : α) :
    transactional x s = (.ok a, t) ↔ x s = (.ok a, t) := by
  unfold transactional
  rcases x s with ⟨_ | b, u⟩ <;> simp

/-- The storage after a storage layer is the old one, or that of a successful body. -/
theorem transactional_storage (x : Dispatch σ ε α) (s : σ) :
    (transactional x s).2 = s ∨ ∃ a, x s = (.ok a, (transactional x s).2) := by
  unfold transactional
  rcases x s with ⟨_ | b, u⟩
  · exact Or.inl rfl
  · exact Or.inr ⟨b, rfl⟩

theorem transactional_error (x : Dispatch σ ε α) (s t : σ) (e : ε)
    (h : transactional x s = (.error e, t)) : t = s := by
  unfold transactional at h
  rcases hx : x s with ⟨_ | b, u⟩
  · simp only [hx, Prod.mk.injEq] at h
    exact h.2.symm
  · simp [hx] at h

theorem transactional_error_body (x : Dispatch σ ε α) (s t : σ) (e : ε)
    (h : transactional x s = (.error e, t)) : ∃ u, x s = (.error e, u) := by
  unfold transactional at h
  rcases hx : x s with ⟨e' | b, u⟩
  · simp only [hx, Prod.mk.injEq, Except.error.injEq] at h
    exact ⟨u, by rw [h.1]⟩
  · simp [hx] at h

/-- A computation that writes nothing, whether it succeeds or not. -/
def ReadOnly (x : Dispatch σ ε α) : Prop := ∀ s, (x s).2 = s

theorem readOnly_pure (a : α) : ReadOnly (pure a : Dispatch σ ε α) := fun _ => rfl

theorem readOnly_read : ReadOnly (read : Dispatch σ ε σ) := fun _ => rfl

theorem readOnly_fail (e : ε) : ReadOnly (fail e : Dispatch σ ε α) := fun _ => rfl

theorem readOnly_ensure (p : Prop) [Decidable p] (e : ε) :
    ReadOnly (ensure p e : Dispatch σ ε Unit) := by
  intro s
  by_cases h : p
  · simp [ensure, h]
  · simp [ensure, h, fail]

theorem readOnly_okOr (o : Option α) (e : ε) : ReadOnly (okOr o e : Dispatch σ ε α) := by
  cases o with
  | none => exact readOnly_fail e
  | some a => exact readOnly_pure a

theorem readOnly_bind (x : Dispatch σ ε α) (f : α → Dispatch σ ε β) (hx : ReadOnly x)
    (hf : ∀ a, ReadOnly (f a)) : ReadOnly (x >>= f) := by
  intro s
  have hs := hx s
  change (match x s with
    | (.ok a, u) => f a u
    | (.error e, u) => (.error e, u)).2 = s
  rcases h : x s with ⟨_ | a, u⟩
  · rw [h] at hs
    exact hs
  · rw [h] at hs
    subst hs
    exact hf a u

theorem ReadOnly.storage {x : Dispatch σ ε α} (hx : ReadOnly x) {s t : σ} {r : Except ε α}
    (h : x s = (r, t)) : t = s := by
  have hs := hx s
  rw [h] at hs
  exact hs

/-- Whatever `x` returns, it leaves `Inv` as it found it. -/
def Keeps (Inv : σ → Prop) (x : Dispatch σ ε α) : Prop := ∀ s, Inv s → Inv (x s).2

theorem ReadOnly.keeps {x : Dispatch σ ε α} (hx : ReadOnly x) (Inv : σ → Prop) : Keeps Inv x := by
  intro s hs
  rw [hx s]
  exact hs

theorem keeps_write (Inv : σ → Prop) (f : σ → σ) (hf : ∀ s, Inv s → Inv (f s)) :
    Keeps Inv (write f : Dispatch σ ε Unit) := hf

theorem keeps_bind (Inv : σ → Prop) (x : Dispatch σ ε α) (f : α → Dispatch σ ε β)
    (hx : Keeps Inv x) (hf : ∀ a, Keeps Inv (f a)) : Keeps Inv (x >>= f) := by
  intro s hs
  have ht := hx s hs
  change Inv (match x s with
    | (.ok a, u) => f a u
    | (.error e, u) => (.error e, u)).2
  rcases h : x s with ⟨_ | a, u⟩
  · rw [h] at ht
    exact ht
  · rw [h] at ht
    exact hf a u ht

theorem keeps_transactional (Inv : σ → Prop) (x : Dispatch σ ε α) (hx : Keeps Inv x) :
    Keeps Inv (transactional x) := by
  intro s hs
  rcases transactional_storage x s with hid | ⟨a, hok⟩
  · rw [hid]
    exact hs
  · have ht := hx s hs
    rw [hok] at ht
    exact ht

end Dispatch
end Frame
