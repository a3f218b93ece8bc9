import NuloChain.FrameDispatch

/-! One computation beside another whose storage has less in it. `view` is what the second
storage keeps of the first; the two agree if they answer alike and their storages stay related. -/
namespace Frame

variable {σ τ ε α β γ δ : Type}

/-- The same answer, up to `R` on the value, with the storages related by `view`. -/
inductive SameAnswer (view : τ → σ) (R : β → α → Prop) : Except ε β × τ → Except ε α × σ → Prop
  | ok (b : β) (a : α) (t : τ) (h : R b a) : SameAnswer view R (.ok b, t) (.ok a, view t)
  | error (e : ε) (t : τ) : SameAnswer view R (.error e, t) (.error e, view t)

theorem SameAnswer.storage {view : τ → σ} {R : β → α → Prop} {y : Except ε β × τ}
    {x : Except ε α × σ} (h : SameAnswer view R y x) : view y.2 = x.2 := by
  cases h with
  | ok b a t h => rfl
  | error e t => rfl

namespace Dispatch

def Simulates (view : τ → σ) (R : β → α → Prop) (y : Dispatch τ ε β) (x : Dispatch σ ε α) : Prop :=
  ∀ t, SameAnswer view R (y t) (x (view t))

variable (view : τ → σ)

theorem simulates_pure (R : β → α → Prop) (b : β) (a : α) (h : R b a) :
    Simulates (ε := ε) view R (pure b) (pure a) :=
  fun t => .ok b a t h

theorem simulates_bind (R : β → α → Prop) (Q : δ → γ → Prop) (y : Dispatch τ ε β)
    (x : Dispatch σ ε α) (g : β → Dispatch τ ε δ) (f : α → Dispatch σ ε γ)
    (hx : Simulates view R y x) (hf : ∀ b a, R b a → Simulates view Q (g b) (f a)) :
    Simulates view Q (y >>= g) (x >>= f) := by
  intro t
  have h := hx t
  generalize hy : y t = r at h
  generalize hview : x (view t) = q at h
  cases h with
  | ok b a u hR =>
    rw [bind_of_ok _ _ _ _ _ hy, bind_of_ok _ _ _ _ _ hview]
    exact hf b a hR u
  | error e u =>
    rw [bind_of_error _ _ _ _ _ hy, bind_of_error _ _ _ _ _ hview]
    exact .error e u

/-- Both read the storage, and what they read is related. -/
theorem simulates_read : Simulates (ε := ε) view (fun t s => s = view t) read read :=
  fun t => .ok t (view t) t rfl

theorem simulates_write (g : τ → τ) (f : σ → σ) (h : ∀ t, view (g t) = f (view t)) :
    Simulates (ε := ε) view Eq (write g) (write f) := by
  intro t
  change SameAnswer view Eq (.ok (), g t) (.ok (), f (view t))
  rw [← h t]
  exact .ok () () (g t) rfl

theorem simulates_fail (R : β → α → Prop) (e : ε) :
    Simulates view R (fail e : Dispatch τ ε β) (fail e : Dispatch σ ε α) :=
  fun t => .error e t

theorem simulates_ensure (p q : Prop) [Decidable p] [Decidable q] (e : ε) (h : p ↔ q) :
    Simulates view Eq (ensure p e) (ensure q e) := by
  unfold ensure
  by_cases hp : p
  · rw [if_pos hp, if_pos (h.mp hp)]
    exact simulates_pure view Eq () () rfl
  · rw [if_neg hp, if_neg (fun hq => hp (h.mpr hq))]
    exact simulates_fail view Eq e

theorem simulates_okOr (o : Option α) (e : ε) :
    Simulates view Eq (okOr o e : Dispatch τ ε α) (okOr o e : Dispatch σ ε α) := by
  cases o with
  | none => exact simulates_fail view Eq e
  | some a => exact simulates_pure view Eq a a rfl

theorem simulates_when (p q : Prop) [Decidable p] [Decidable q] (y : Dispatch τ ε Unit)
    (x : Dispatch σ ε Unit) (h : p ↔ q) (hx : Simulates view Eq y x) :
    Simulates view Eq (when p y) (when q x) := by
  unfold when
  by_cases hp : p
  · rw [if_pos hp, if_pos (h.mp hp)]
    exact hx
  · rw [if_neg hp, if_neg (fun hq => hp (h.mpr hq))]
    exact simulates_pure view Eq () () rfl

/-- A storage layer on both sides. -/
theorem simulates_transactional (R : β → α → Prop) (y : Dispatch τ ε β) (x : Dispatch σ ε α)
    (h : Simulates view R y x) : Simulates view R (transactional y) (transactional x) := by
  intro t
  have ht := h t
  unfold transactional
  generalize y t = r at ht
  generalize x (view t) = q at ht
  cases ht with
  | ok b a u hR => exact .ok b a u hR
  | error e u => exact .error e t

end Dispatch
end Frame
