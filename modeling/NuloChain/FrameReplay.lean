import NuloChain.FrameDispatch
import NuloChain.FrameRun

/-! A system that keeps a log, and an observer who sees only the log. `read` is what the
observer makes of one entry, and `view` what there is to know of a state; the observer keeps
up if reading the new entries always takes the one view to the other. -/
namespace Frame
variable {σ ι ε α β V E : Type}

/-- The entries added between `s` and `t` are accepted and lead from the view of `s` to that
of `t`. -/
def Replays (read : V → E → Option V) (view : σ → V) (entries : σ → List E) (s t : σ) : Prop :=
  ∃ new, entries t = entries s ++ new ∧ new.foldlM read (view s) = some (view t)

section
variable (read : V → E → Option V) (view : σ → V) (entries : σ → List E)

theorem replays_of_same (s t : σ) (hlog : entries t = entries s) (hview : view t = view s) :
    Replays read view entries s t := by
  refine ⟨[], ?_, ?_⟩
  · rw [hlog, List.append_nil]
  · rw [hview]
    rfl

theorem replays_refl (s : σ) : Replays read view entries s s :=
  replays_of_same read view entries s s rfl rfl

theorem replays_entry (s t : σ) (e : E) (hlog : entries t = entries s ++ [e])
    (hread : read (view s) e = some (view t)) : Replays read view entries s t := by
  refine ⟨[e], hlog, ?_⟩
  rw [List.foldlM_cons, hread]
  rfl

theorem replays_trans (s t u : σ) (hst : Replays read view entries s t)
    (htu : Replays read view entries t u) : Replays read view entries s u := by
  obtain ⟨first, hfirst, hreadFirst⟩ := hst
  obtain ⟨second, hsecond, hreadSecond⟩ := htu
  refine ⟨first ++ second, ?_, ?_⟩
  · rw [hsecond, hfirst, List.append_assoc]
  · rw [List.foldlM_append, hreadFirst]
    exact hreadSecond

end

/-- A relation that holds across every step, and composes, holds across runs. -/
theorem run_relation (step : σ → ι → σ) (R : σ → σ → Prop) (hrefl : ∀ s, R s s)
    (htrans : ∀ s t u, R s t → R t u → R s u) (hstep : ∀ s op, R s (step s op)) (ops : List ι)
    (s : σ) : R s (run step s ops) := by
  induction ops generalizing s with
  | nil => exact hrefl s
  | cons op ops ih => exact htrans s _ _ (hstep s op) (ih (step s op))

namespace Dispatch

/-- Whatever `x` returns, the storage before and after are related by `R`. -/
def Follows (R : σ → σ → Prop) (x : Dispatch σ ε α) : Prop := ∀ s, R s (x s).2

theorem ReadOnly.follows {x : Dispatch σ ε α} (hx : ReadOnly x) (R : σ → σ → Prop)
    (hrefl : ∀ s, R s s) : Follows R x := by
  intro s
  rw [hx s]
  exact hrefl s

theorem follows_bind (R : σ → σ → Prop) (htrans : ∀ s t u, R s t → R t u → R s u)
    (x : Dispatch σ ε α) (f : α → Dispatch σ ε β) (hx : Follows R x) (hf : ∀ a, Follows R (f a)) :
    Follows R (x >>= f) := by
  intro s
  have hfirst := hx s
  rcases h : x s with ⟨e | a, t⟩
  · rw [h] at hfirst
    rw [bind_of_error x f s t e h]
    exact hfirst
  · rw [h] at hfirst
    rw [bind_of_ok x f s t a h]
    exact htrans s t _ hfirst (hf a t)

theorem follows_transactional (R : σ → σ → Prop) (hrefl : ∀ s, R s s) (x : Dispatch σ ε α)
    (hx : ∀ s a t, x s = (.ok a, t) → R s t) : Follows R (transactional x) := by
  intro s
  rcases transactional_storage x s with hid | ⟨a, hok⟩
  · rw [hid]
    exact hrefl s
  · exact hx s a _ hok

end Dispatch
end Frame
