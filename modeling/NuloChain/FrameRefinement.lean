import NuloChain.FrameRun

/-! Runs of one transition system inside another. A step of the larger system is seen by the
smaller one as some operations of its own, with steps of its environment in between. -/
namespace Frame
variable {σ τ ι κ : Type}

/-- From `s` the operations `own`, in this order and with others in between, lead to `t`. -/
def Reaches (step : σ → ι → σ) (C : σ → ι → Prop) (isOwn : ι → Bool) (s : σ) (own : List ι)
    (t : σ) : Prop :=
  ∃ ops, Along step C s ops ∧ run step s ops = t ∧ ops.filter isOwn = own

section
variable (step : σ → ι → σ) (C : σ → ι → Prop) (isOwn : ι → Bool)

theorem reaches_refl (s : σ) : Reaches step C isOwn s [] s := ⟨[], trivial, rfl, rfl⟩

theorem reaches_step (s : σ) (op : ι) (hop : C s op) :
    Reaches step C isOwn s ([op].filter isOwn) (step s op) :=
  ⟨[op], ⟨hop, trivial⟩, rfl, rfl⟩

theorem reaches_trans (s t u : σ) (own more : List ι) (hst : Reaches step C isOwn s own t)
    (htu : Reaches step C isOwn t more u) : Reaches step C isOwn s (own ++ more) u := by
  obtain ⟨ops, hops, rfl, rfl⟩ := hst
  obtain ⟨ops', hops', rfl, rfl⟩ := htu
  refine ⟨ops ++ ops', ?_, run_append step s ops ops',
    List.filter_append ops ops'⟩
  exact (along_append step C ops ops' s).mpr ⟨hops, hops'⟩

/-- A step of the environment in between. -/
theorem reaches_other (s t : σ) (own : List ι) (op : ι) (hst : Reaches step C isOwn s own t)
    (hop : C t op) (hother : isOwn op = false) : Reaches step C isOwn s own (step t op) := by
  have hnext := reaches_trans step C isOwn s t _ own _ hst (reaches_step step C isOwn t op hop)
  rw [List.filter_cons_of_neg (by rw [hother]; exact Bool.false_ne_true), List.filter_nil,
    List.append_nil] at hnext
  exact hnext

/-- If every step of the larger system is a run of the smaller one with the operations that it
emits, then so is every run. -/
theorem run_reaches (next : τ → κ → τ) (D : τ → κ → Prop) (view : τ → σ) (emit : τ → κ → List ι)
    (hnext : ∀ t op, D t op → Reaches step C isOwn (view t) (emit t op) (view (next t op)))
    (ops : List κ) (t : τ) (hops : Along next D t ops) :
    Reaches step C isOwn (view t) (log next emit t ops) (view (run next t ops)) := by
  induction ops generalizing t with
  | nil => exact reaches_refl step C isOwn (view t)
  | cons op ops ih =>
    exact reaches_trans step C isOwn _ _ _ _ _ (hnext t op hops.1) (ih (next t op) hops.2)

end

end Frame
