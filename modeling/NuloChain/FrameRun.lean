import Mathlib.Data.List.Basic
import Mathlib.Data.List.Infix
import Mathlib.Tactic.Common

/-! Runs of a labelled step function, and the rules that carry an invariant
from one step to every state a run reaches. -/
namespace Frame
variable {σ ι : Type}

def run (step : σ → ι → σ) (s : σ) (ops : List ι) : σ := ops.foldl step s

/-- Every step of the run meets `C` in the state it is taken from. -/
def Along (step : σ → ι → σ) (C : σ → ι → Prop) : σ → List ι → Prop
  | _, [] => True
  | s, op :: ops => C s op ∧ Along step C (step s op) ops

instance (step : σ → ι → σ) (C : σ → ι → Prop) [∀ s op, Decidable (C s op)] :
    ∀ (s : σ) (ops : List ι), Decidable (Along step C s ops)
  | _, [] => isTrue trivial
  | s, op :: ops =>
    have := instDecidableAlong step C (step s op) ops
    inferInstanceAs (Decidable (C s op ∧ Along step C (step s op) ops))

@[simp] theorem run_nil (step : σ → ι → σ) (s : σ) : run step s [] = s := rfl

@[simp] theorem run_cons (step : σ → ι → σ) (s : σ) (op : ι) (ops : List ι) :
    run step s (op :: ops) = run step (step s op) ops := rfl

theorem run_append (step : σ → ι → σ) (s : σ) (ops more : List ι) :
    run step s (ops ++ more) = run step (run step s ops) more :=
  List.foldl_append

theorem along_and (step : σ → ι → σ) (C D : σ → ι → Prop) (ops : List ι) (s : σ)
    (hC : Along step C s ops) (hD : Along step D s ops) :
    Along step (fun s op => C s op ∧ D s op) s ops := by
  induction ops generalizing s with
  | nil => trivial
  | cons op ops ih => exact ⟨⟨hC.1, hD.1⟩, ih (step s op) hC.2 hD.2⟩

theorem along_append (step : σ → ι → σ) (C : σ → ι → Prop) (ops more : List ι) (s : σ) :
    Along step C s (ops ++ more) ↔ Along step C s ops ∧ Along step C (run step s ops) more := by
  induction ops generalizing s with
  | nil => exact (true_and _).symm.to_iff
  | cons op ops ih =>
    change C s op ∧ Along step C (step s op) (ops ++ more) ↔ _
    rw [ih (step s op)]
    exact and_assoc.symm

/-- A run of which another storage shows a part meets the same conditions there. -/
theorem along_view {τ : Type} (view : τ → σ) (f : τ → ι → τ) (g : σ → ι → σ)
    (C : τ → ι → Prop) (D : σ → ι → Prop) (hstep : ∀ t op, view (f t op) = g (view t) op)
    (hC : ∀ t op, C t op ↔ D (view t) op) (ops : List ι) (t : τ) :
    Along f C t ops ↔ Along g D (view t) ops := by
  induction ops generalizing t with
  | nil => exact Iff.rfl
  | cons op ops ih =>
    change C t op ∧ Along f C (f t op) ops ↔ D (view t) op ∧ Along g D (g (view t) op) ops
    rw [ih (f t op), hstep t op, hC t op]

/-- An invariant that every admitted step keeps holds at the end of every admitted run. -/
theorem run_invariant (step : σ → ι → σ) (C : σ → ι → Prop) (Inv : σ → Prop)
    (hstep : ∀ s op, Inv s → C s op → Inv (step s op)) (ops : List ι) (s : σ)
    (hs : Inv s) (hops : Along step C s ops) : Inv (run step s ops) := by
  induction ops generalizing s with
  | nil => exact hs
  | cons op ops ih => exact ih (step s op) (hstep s op hs hops.1) hops.2

/-- An invariant that every step keeps holds at the end of every run. -/
theorem run_invariant_always (step : σ → ι → σ) (Inv : σ → Prop)
    (hstep : ∀ s op, Inv s → Inv (step s op)) (ops : List ι) (s : σ) (hs : Inv s) :
    Inv (run step s ops) := by
  induction ops generalizing s with
  | nil => exact hs
  | cons op ops ih => exact ih (step s op) (hstep s op hs)

/-- If an invariant gives a property of every next step, the property holds all along the run. -/
theorem along_of_invariant (step : σ → ι → σ) (C : σ → ι → Prop) (Inv : σ → Prop)
    (hstep : ∀ s op, Inv s → C s op ∧ Inv (step s op)) (ops : List ι) (s : σ) (hs : Inv s) :
    Along step C s ops ∧ Inv (run step s ops) := by
  induction ops generalizing s with
  | nil => exact ⟨trivial, hs⟩
  | cons op ops ih =>
    obtain ⟨hC, hnext⟩ := hstep s op hs
    obtain ⟨hrest, hend⟩ := ih (step s op) hnext
    exact ⟨⟨hC, hrest⟩, hend⟩

/-- If the side condition keeps an invariant, and is needed for what the invariant is to
give, then along whole runs it is exact for that. -/
theorem property_along_iff (step : σ → ι → σ) (C : σ → ι → Prop) (Inv Q : σ → Prop)
    (hQ : ∀ s, Inv s → Q s) (hkeeps : ∀ s op, Inv s → C s op → Inv (step s op))
    (hneeds : ∀ s op, Inv s → Q (step s op) → C s op) (ops : List ι) (s : σ) (hs : Inv s) :
    (∀ pre, pre <+: ops → Q (run step s pre)) ↔ Along step C s ops := by
  induction ops generalizing s with
  | nil =>
    refine ⟨fun _ => trivial, fun _ pre hpre => ?_⟩
    rw [List.prefix_nil.mp hpre]
    exact hQ s hs
  | cons op ops ih =>
    constructor
    · intro h
      -- the one-step prefix gives the side condition of the first step
      have hC : C s op := hneeds s op hs (h [op] ⟨ops, rfl⟩)
      refine ⟨hC, (ih (step s op) (hkeeps s op hs hC)).mp ?_⟩
      intro pre hpre
      exact h (op :: pre) (List.prefix_cons_inj op |>.mpr hpre)
    · rintro ⟨hC, hops⟩ pre hpre
      cases pre with
      | nil => exact hQ s hs
      | cons p pre =>
        obtain ⟨rfl, htail⟩ := List.cons_prefix_cons.mp hpre
        exact (ih (step s p) (hkeeps s p hs hC)).mpr hops pre htail

/-- When the side condition is exact for one step, it is exact for whole runs. -/
theorem invariant_along_iff (step : σ → ι → σ) (C : σ → ι → Prop) (Inv : σ → Prop)
    (hstep : ∀ s op, Inv s → (Inv (step s op) ↔ C s op)) (ops : List ι) (s : σ) (hs : Inv s) :
    (∀ pre, pre <+: ops → Inv (run step s pre)) ↔ Along step C s ops :=
  property_along_iff step C Inv Inv (fun _ h => h) (fun s op h => (hstep s op h).mpr)
    (fun s op h => (hstep s op h).mp) ops s hs

/-- What the steps of a run emit, one after the other. -/
def log {β : Type} (step : σ → ι → σ) (emit : σ → ι → List β) : σ → List ι → List β
  | _, [] => []
  | s, op :: ops => emit s op ++ log step emit (step s op) ops

/-- An invariant of the state and of all that was emitted so far. -/
theorem log_invariant {β : Type} (step : σ → ι → σ) (emit : σ → ι → List β)
    (C : σ → ι → Prop) (Inv : σ → List β → Prop)
    (hstep : ∀ s h op, Inv s h → C s op → Inv (step s op) (h ++ emit s op)) (ops : List ι) (s : σ)
    (h : List β) (hs : Inv s h) (hops : Along step C s ops) :
    Inv (run step s ops) (h ++ log step emit s ops) := by
  induction ops generalizing s h with
  | nil =>
    rw [log, List.append_nil]
    exact hs
  | cons op ops ih =>
    rw [log, ← List.append_assoc]
    exact ih (step s op) _ (hstep s h op hs hops.1) hops.2

/-- What holds of everything that a single step emits holds of all that a run emits. -/
theorem forall_mem_log {β : Type} (step : σ → ι → σ) (emit : σ → ι → List β) (P : β → Prop)
    (hemit : ∀ s op, ∀ b ∈ emit s op, P b) (ops : List ι) (s : σ) :
    ∀ b ∈ log step emit s ops, P b := by
  induction ops generalizing s with
  | nil => exact fun b hb => absurd hb List.not_mem_nil
  | cons op ops ih =>
    intro b hb
    rcases List.mem_append.mp hb with hfirst | hrest
    · exact hemit s op b hfirst
    · exact ih (step s op) b hrest

/-! Loops over keyed entries whose turns act on the part of the state that belongs to their
key and on nothing else. `view k` is that part, and `g` is what a turn does to it. -/
section Keyed
variable {κ ν β : Type}

theorem run_view_of_notMem (f : σ → κ × ν → σ) (view : κ → σ → β)
    (hframe : ∀ s e k, k ≠ e.1 → view k (f s e) = view k s) (es : List (κ × ν)) (s : σ) (k : κ)
    (hk : k ∉ es.map Prod.fst) : view k (run f s es) = view k s := by
  induction es generalizing s with
  | nil => rfl
  | cons e es ih =>
    rw [List.map_cons, List.mem_cons, not_or] at hk
    rw [run_cons, ih (f s e) hk.2, hframe s e k hk.1]

theorem run_view_of_mem (f : σ → κ × ν → σ) (view : κ → σ → β) (g : β → ν → β)
    (hframe : ∀ s e k, k ≠ e.1 → view k (f s e) = view k s)
    (hlocal : ∀ s e, view e.1 (f s e) = g (view e.1 s) e.2) (es : List (κ × ν)) (s : σ) (k : κ)
    (v : ν) (hnodup : (es.map Prod.fst).Nodup) (hmem : (k, v) ∈ es) :
    view k (run f s es) = g (view k s) v := by
  induction es generalizing s with
  | nil => exact absurd hmem List.not_mem_nil
  | cons e es ih =>
    rw [List.map_cons, List.nodup_cons] at hnodup
    rw [run_cons]
    rcases List.mem_cons.mp hmem with heq | htail
    · subst heq
      rw [run_view_of_notMem f view hframe es _ k hnodup.1]
      exact hlocal s (k, v)
    · have hne : k ≠ e.1 := by
        rintro rfl
        exact hnodup.1 (List.mem_map.mpr ⟨_, htail, rfl⟩)
      rw [ih (f s e) hnodup.2 htail, hframe s e k hne]

/-- A loop over bare keys may repeat them if a second turn on the same key does nothing. -/
theorem run_view_keys [DecidableEq κ] (f : σ → κ → σ) (view : κ → σ → β) (g : β → β)
    (hframe : ∀ s j k, k ≠ j → view k (f s j) = view k s)
    (hlocal : ∀ s k, view k (f s k) = g (view k s)) (hidem : ∀ b, g (g b) = g b)
    (ks : List κ) (s : σ) (k : κ) :
    view k (run f s ks) = if k ∈ ks then g (view k s) else view k s := by
  induction ks generalizing s with
  | nil => rfl
  | cons j ks ih =>
    rw [run_cons, ih (f s j)]
    by_cases hj : k = j
    · subst hj
      rw [hlocal, if_pos List.mem_cons_self, hidem, ite_self]
    · simp only [hframe s j k hj, List.mem_cons, hj, false_or]

end Keyed

end Frame
