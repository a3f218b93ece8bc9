import NuloChain.SponsorshipRefunds

/-! Who may end or change a sponsorship, and where its money goes. The two refunds reach the
sponsor in full; but a sponsor that is its own beneficiary may lose, with its last hold, a free
balance below the existential deposit. -/
namespace NuloChain.Sponsorship
open Frame
set_option linter.unusedSectionVars false
variable {A O R Λ : Type} [DecidableEq A] [DecidableEq R] (T : Config A O R Λ)

/-- The storages that runs pass through, those between two turns of a hook included: there a block
has begun, and a bucket or the queue has been taken out. -/
inductive Passed (L : Λ) : T.State → Prop
  | start : Passed L (emptyStorage T L)
  | step (s : T.State) (op : Op A O Λ) : Passed L s → Passed L (step T s op)
  | taken (s : T.State) (now : ℕ)
      (expirations : StorageMap ℕ (BoundedVec A T.maxQueueProcessingPerBlock))
      (queue : BoundedVec A T.maxQueueProcessingPerBlock) : Passed L s → Passed L { s with
        blockNumber := now, expirations := expirations, autoUnlockQueue := queue }
  | turn (s : T.State) (act : Action A O) : Passed L s → Passed L (actionStep T s act)

theorem passed_amountsSuffice (L : Λ) (s : T.State) (h : Passed T L s) : AmountsSuffice T s := by
  induction h with
  | start => exact emptyStorage_amountsSuffice T L
  | step s op _ ih => exact step_amountsSuffice T s op ih
  | taken s now expirations queue _ ih => exact ih
  | turn s act _ ih => exact outcome_amountsSuffice T act s _ ih (action_outcome T act s)

section
variable {totalOnHold : Λ → A → ℕ} (hF : T.currency.ExactReturns totalOnHold)
  (hS : T.system.KeepsFunds T.currency)
include hF hS

/-- After a revocation the sponsor has the amount and the recorded deposit, and unless it is its
own beneficiary and loses dust, all that it had before on top of it. -/
theorem refunded_balance (s : T.State) (b : A) (record : SponsorshipRecord A) (L : Λ)
    (hminimum : T.currency.minimumBalance ≤ record.amount) (h : Refunded T s b record L) :
    record.amount+s.storageDepositHeld.getD b 0 ≤ T.currency.balance L record.sponsor ∧
      (record.sponsor ≠ b ∨ T.currency.StaysClear totalOnHold s.runtime b record.amount →
        T.currency.balance L record.sponsor =
          T.currency.balance s.runtime record.sponsor+record.amount+
            s.storageDepositHeld.getD b 0) := by
  obtain ⟨L₁, L₂, hL₁, hdep, hL⟩ := h
  have harrives := hF.arrives _ _ _ _ _ _ hL₁
  have hdec : T.currency.balance L record.sponsor = T.currency.balance L₂ record.sponsor := by
    rw [hL]
    rcases hp : T.system.decProviders b L₂ with _ | L₃
    · rfl
    · exact hS.dec_balance _ _ _ hp record.sponsor
  -- by the time of the second refund the sponsor has the minimum
  have hsecond : T.currency.balance L₂ record.sponsor =
      T.currency.balance L₁ record.sponsor+s.storageDepositHeld.getD b 0 := by
    rcases hdep with ⟨-, hrel⟩ | ⟨hz, rfl⟩
    · have hdeposit := hF.release _ _ _ _ _ hrel record.sponsor
        (Or.inr (Or.inr (Or.inl (hminimum.trans harrives))))
      rw [if_pos rfl] at hdeposit
      exact hdeposit
    · rw [hz, add_zero]
  constructor
  · omega
  · intro hclear
    have hkeeps : record.sponsor ≠ b ∨
        T.currency.StaysClear totalOnHold s.runtime record.sponsor record.amount := by
      by_cases hself : record.sponsor = b
      · exact Or.inr (hself ▸ hclear.resolve_left (fun hne => hne hself))
      · exact Or.inl hself
    have hfirst := hF.transferOnHold _ _ _ _ _ _ hL₁ record.sponsor hkeeps
    rw [if_pos rfl] at hfirst
    omega

end

/-- A record of `b` that survives keeps its sponsor, amount and creation block, and its
policy unless the sponsor signed a `set_policy`. -/
theorem outcome_survived (act : Action A O) (s t : T.State) (h : Outcome T act s t) (b : A)
    (r r' : SponsorshipRecord A) (hb : s.sponsorships.get b = some r)
    (hb' : t.sponsorships.get b = some r') :
    r' = r ∨ (∃ origin mode lease, T.ensureSigned origin = some r.sponsor ∧
      act = .entry (.call origin (.setPolicy b mode lease)) ∧
      r' = { r with autoUnlock := mode, lease := lease }) := by
  rcases outcome_record T act s t h b r' hb' with hold |
    ⟨sponsor, amount, mode, lease, -, h, -⟩ |
    ⟨origin, caller, mode, lease, old, hsigned, hact, h, hr'⟩
  · rw [hb] at hold
    exact Or.inl (Option.some.inj hold).symm
  -- a creation never overwrites: the beneficiary had no record before
  · rw [h.fresh] at hb
    cases hb
  · have hfound := h.found
    rw [hb] at hfound
    cases hfound
    exact Or.inr ⟨origin, mode, lease, h.sponsor ▸ hsigned, hact, hr'⟩

/-- Nobody but the sponsor's own choices or the force origin ends a sponsorship, its money
returns to that sponsor in the same step, and only the sponsor changes its policy. The free balance
of the sponsor grows by what is returned, unless the sponsor is the beneficiary, has less than the
minimum but something, and nothing is on hold besides the amount. -/
theorem sponsorship_ends_only_by_right {totalOnHold : Λ → A → ℕ}
    (hF : T.currency.ExactReturns totalOnHold) (hS : T.system.KeepsFunds T.currency) (L : Λ)
    (s : T.State) (hs : Passed T L s) (act : Action A O) (b : A) (r : SponsorshipRecord A)
    (hb : s.sponsorships.get b = some r) :
    let t := actionStep T s act
    (t.sponsorships.get b = none →
      Authorised T act s b r ∧
      r.amount+s.storageDepositHeld.getD b 0 ≤ T.currency.balance t.runtime r.sponsor ∧
      (r.sponsor ≠ b ∨ T.currency.StaysClear totalOnHold s.runtime b r.amount →
        T.currency.balance t.runtime r.sponsor =
          T.currency.balance s.runtime r.sponsor+r.amount+s.storageDepositHeld.getD b 0)) ∧
    (∀ r', t.sponsorships.get b = some r' →
      r'.sponsor = r.sponsor ∧ r'.amount = r.amount ∧ r'.createdAt = r.createdAt ∧
      (r'.autoUnlock ≠ r.autoUnlock ∨ r'.lease ≠ r.lease →
        ∃ origin mode lease, T.ensureSigned origin = some r.sponsor ∧
          act = .entry (.call origin (.setPolicy b mode lease)))) := by
  intro t
  have hout : Outcome T act s t := action_outcome T act s
  have hminimum : T.currency.minimumBalance ≤ r.amount :=
    (Nat.le_max_right _ _).trans (passed_amountsSuffice T L s hs b r hb)
  constructor
  · intro hgone
    obtain ⟨hauth, hrefund⟩ := outcome_ended T act s t hout b r hb hgone
    exact ⟨hauth, refunded_balance T hF hS s b r t.runtime hminimum hrefund⟩
  · intro r' hb'
    rcases outcome_survived T act s t hout b r r' hb hb' with
      hr | ⟨origin, mode, lease, hsigned, hact, hr⟩
    · subst hr
      exact ⟨rfl, rfl, rfl, fun h => (h.elim (fun h => h rfl) (fun h => h rfl)).elim⟩
    · subst hr
      exact ⟨rfl, rfl, rfl, fun _ => ⟨origin, mode, lease, hsigned, hact⟩⟩

/-- The test runtime after one sponsorship of thirty with a deposit of five. -/
def authorityState : mock.State :=
  step mock (emptyStorage mock mockLedger)
    (.entry (.call (.signed 1) (.sponsor 2 30 .disabled (.until 9))))

theorem sponsorship_ends_only_by_right_unlock :
    mock.currency.balance authorityState.runtime 1 = 465 ∧
      mock.currency.balance
        (actionStep mock authorityState (.entry (.call (.signed 1) (.unlock 2)))).runtime 1 = 500 := by
  have hbefore : mock.currency.balance authorityState.runtime 1 = 465 := by decide +kernel
  have hrecord : authorityState.sponsorships.get 2 =
      some ⟨1, 30, .disabled, .until 9, 0⟩ := by decide +kernel
  have hgone : (actionStep mock authorityState
      (.entry (.call (.signed 1) (.unlock 2)))).sponsorships.get 2 = none := by decide +kernel
  have hdeposit : authorityState.storageDepositHeld.getD 2 0 = 5 := by decide +kernel
  have hpaid := ((sponsorship_ends_only_by_right mock (Ledger.holds_exactReturns 10)
    (Ledger.system_keepsFunds 10) mockLedger authorityState (.step _ _ .start)
    (.entry (.call (.signed 1) (.unlock 2))) 2 _ hrecord).1 hgone).2.2 (Or.inl (by decide))
  rw [hbefore, hdeposit] at hpaid
  exact ⟨hbefore, hpaid⟩

/-- The test runtime without a storage deposit. -/
def depositless : Config ℕ (RawOrigin ℕ) HoldReason (Ledger ℕ HoldReason) :=
  { mock with holdReason_injective := Function.injective_id, sponsorshipStorageDeposit := 0 }

/-- An account sponsors itself with fifty and then spends all but five of its free balance. -/
def selfSponsored : depositless.State :=
  run (step depositless) (emptyStorage depositless mockLedger)
    [.entry (.call (.signed 1) (.sponsor 1 50 .disabled .none)),
      .environment (fun L => ((Ledger.balanced 10).transfer 1 4 445 .expendable L).getD L)]

/-- When the last hold goes, the five are below the existential deposit and go with it: the fifty
that come back raise the free balance by forty-five. -/
theorem self_sponsor_loses_dust :
    let t := actionStep depositless selfSponsored (.entry (.call (.signed 1) (.unlock 1)))
    selfSponsored.sponsorships.get 1 = some ⟨1, 50, .disabled, .none, 0⟩ ∧
      t.sponsorships.get 1 = none ∧
      ¬ (depositless.currency.balance t.runtime 1 =
        depositless.currency.balance selfSponsored.runtime 1+50+
          selfSponsored.storageDepositHeld.getD 1 0) := by
  intro t
  have hbefore : depositless.currency.balance selfSponsored.runtime 1 = 5 := by decide +kernel
  have hafter : depositless.currency.balance t.runtime 1 = 50 := by decide +kernel
  refine ⟨by decide +kernel, by decide +kernel, ?_⟩
  rw [hbefore, hafter]
  omega

end NuloChain.Sponsorship
