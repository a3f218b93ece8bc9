import Mathlib.Algebra.BigOperators.Group.List.Basic
import Mathlib.Algebra.GroupWithZero.Nat
import Mathlib.Order.Basic
import Mathlib.Order.Nat
import Mathlib.Tactic.Common

/-! A counter that is reset lazily, when it is next used in another window, against the
history of all that was charged to it. -/
namespace Frame

/-- What was spent in the window the counter was last used in. -/
structure Meter where
  window : ℕ
  spent : ℕ

def Meter.refresh (m : Meter) (now : ℕ) : Meter := if m.window ≠ now then ⟨now, 0⟩ else m

def Meter.charge (m : Meter) (n : ℕ) : Meter := { m with spent := m.spent+n }

/-- What the charges of a history, each with its window, come to in window `n`. -/
def spentIn (n : ℕ) (history : List (ℕ × ℕ)) : ℕ :=
  ((history.filter fun c => c.1 = n).map Prod.snd).sum

/-- At `now` the counter knows what the history has spent in the window that is running, and
the history has kept to the cap in every window. -/
structure Meter.Tracks (m : Meter) (now cap : ℕ) (history : List (ℕ × ℕ)) : Prop where
  window_le : m.window ≤ now
  past : ∀ c, c ∈ history → c.1 ≤ now
  spent : spentIn now history = if m.window = now then m.spent else 0
  capped : ∀ n, spentIn n history ≤ cap

theorem spentIn_append (n : ℕ) (history : List (ℕ × ℕ)) (w amount : ℕ) :
    spentIn n (history ++ [(w, amount)]) = spentIn n history+if w = n then amount else 0 := by
  unfold spentIn
  rw [List.filter_append, List.map_append, List.sum_append]
  by_cases h : w = n
  · simp [h]
  · simp [h]

/-- Nothing is spent yet in a window that no charge has reached. -/
theorem spentIn_eq_zero (n : ℕ) (history : List (ℕ × ℕ)) (h : ∀ c, c ∈ history → c.1 < n) :
    spentIn n history = 0 := by
  have hnone : (history.filter fun c => c.1 = n) = [] := by
    rw [List.filter_eq_nil_iff]
    intro c hc heq
    have hlt := h c hc
    rw [of_decide_eq_true heq] at hlt
    exact lt_irrefl n hlt
  unfold spentIn
  rw [hnone]
  rfl

namespace Meter

theorem refresh_window (m : Meter) (now : ℕ) : (m.refresh now).window = now := by
  unfold refresh
  split
  · rfl
  · rename_i h
    exact not_not.mp h

theorem refresh_spent (m : Meter) (now : ℕ) :
    (m.refresh now).spent = if m.window = now then m.spent else 0 := by
  unfold refresh
  by_cases h : m.window = now
  · simp [h]
  · simp [h]

theorem tracks_nil (cap : ℕ) : (⟨0, 0⟩ : Meter).Tracks 0 cap [] where
  window_le := le_refl 0
  past := fun _ hc => absurd hc List.not_mem_nil
  spent := rfl
  capped := fun _ => Nat.zero_le cap

/-- When a new window begins, the counter is out of date and nothing is spent. -/
theorem Tracks.advance {m : Meter} {now cap : ℕ} {history : List (ℕ × ℕ)}
    (h : m.Tracks now cap history) (next : ℕ) (hnext : now < next) :
    m.Tracks next cap history where
  window_le := h.window_le.trans hnext.le
  past := fun c hc => (h.past c hc).trans hnext.le
  spent := by
    have hwindow : m.window ≠ next := (h.window_le.trans_lt hnext).ne
    rw [if_neg hwindow]
    exact spentIn_eq_zero next history (fun c hc => (h.past c hc).trans_lt hnext)
  capped := h.capped

/-- A charge that the refreshed counter lets through. -/
theorem Tracks.charge {m : Meter} {now cap : ℕ} {history : List (ℕ × ℕ)}
    (h : m.Tracks now cap history) (amount : ℕ) (hcap : (m.refresh now).spent+amount ≤ cap) :
    ((m.refresh now).charge amount).Tracks now cap (history ++ [(now, amount)]) := by
  have hspent : spentIn now (history ++ [(now, amount)]) = (m.refresh now).spent+amount := by
    rw [spentIn_append, if_pos rfl, h.spent, refresh_spent]
  have hwindow : ((m.refresh now).charge amount).window = now := m.refresh_window now
  refine ⟨hwindow.le, ?_, ?_, ?_⟩
  · intro c hc
    rcases List.mem_append.mp hc with hold | hnew
    · exact h.past c hold
    · rw [List.mem_singleton.mp hnew]
  · rw [hspent, if_pos hwindow]
    rfl
  · intro n
    by_cases hn : now = n
    · rw [← hn, hspent]
      exact hcap
    · rw [spentIn_append, if_neg hn]
      exact h.capped n

end Meter
end Frame
