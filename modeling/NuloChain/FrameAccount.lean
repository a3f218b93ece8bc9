import NuloChain.FrameRun

/-! Accounts along a run. A quantity of the state is compared with what the steps are booked
with: if every step changes it by no more than its booking, or by exactly that, so does the
whole run. -/
namespace Frame
variable {σ ι : Type}

/-- What the steps of a run are booked with together, each in the state it is taken from. -/
def booked (step : σ → ι → σ) (f : σ → ι → ℤ) : σ → List ι → ℤ
  | _, [] => 0
  | s, op :: ops => f s op + booked step f (step s op) ops

section
variable (step : σ → ι → σ) (C : σ → ι → Prop) (Inv : σ → Prop) (measure : σ → ℤ)
variable (f : σ → ι → ℤ)

theorem run_booked_le (hkeeps : ∀ s op, Inv s → C s op → Inv (step s op))
    (hstep : ∀ s op, Inv s → C s op → measure (step s op) ≤ measure s + f s op) (ops : List ι)
    (s : σ) (hs : Inv s) (hops : Along step C s ops) :
    measure (run step s ops) ≤ measure s + booked step f s ops := by
  induction ops generalizing s with
  | nil =>
    simp only [run_nil, booked]
    omega
  | cons op ops ih =>
    have hfirst := hstep s op hs hops.1
    have hrest := ih (step s op) (hkeeps s op hs hops.1) hops.2
    simp only [run_cons, booked]
    omega

theorem run_booked_eq (hkeeps : ∀ s op, Inv s → C s op → Inv (step s op))
    (hstep : ∀ s op, Inv s → C s op → measure (step s op) = measure s + f s op) (ops : List ι)
    (s : σ) (hs : Inv s) (hops : Along step C s ops) :
    measure (run step s ops) = measure s + booked step f s ops := by
  induction ops generalizing s with
  | nil =>
    simp only [run_nil, booked]
    omega
  | cons op ops ih =>
    have hfirst := hstep s op hs hops.1
    have hrest := ih (step s op) (hkeeps s op hs hops.1) hops.2
    simp only [run_cons, booked]
    omega

end

/-- A condition on the operations alone holds along the run if it holds of each of them. -/
theorem along_of_forall (step : σ → ι → σ) (P : ι → Prop) (ops : List ι) (s : σ)
    (h : ∀ op ∈ ops, P op) : Along step (fun _ op => P op) s ops := by
  induction ops generalizing s with
  | nil => trivial
  | cons op ops ih =>
    refine ⟨h op List.mem_cons_self, ?_⟩
    exact ih (step s op) (fun o ho => h o (List.mem_cons_of_mem op ho))

end Frame
