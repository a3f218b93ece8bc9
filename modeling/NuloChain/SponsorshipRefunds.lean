import NuloChain.SponsorshipHolds

/-! A revocation that the currency has no reason to refuse. What it asks for is on hold, and
since every sponsorship is at least the existential deposit, the first refund revives the
account of the sponsor if it is gone; only then comes the storage deposit, which may be less. -/
namespace NuloChain.Sponsorship
open Frame
set_option linter.unusedSectionVars false
variable {A O R Λ : Type} [DecidableEq A] [DecidableEq R] (T : Config A O R Λ)

/-- Every recorded amount is at least the smallest one that may be sponsored. -/
def AmountsSuffice (s : T.State) : Prop :=
  ∀ b record, s.sponsorships.get b = some record → minimumSponsorship T ≤ record.amount

theorem outcome_amountsSuffice (act : Action A O) (s t : T.State) (hs : AmountsSuffice T s)
    (h : Outcome T act s t) : AmountsSuffice T t := by
  intro b record hb
  rcases outcome_record T act s t h b record hb with hold |
    ⟨sponsor, amount, mode, lease, -, h, rfl⟩ |
    ⟨origin, caller, mode, lease, old, -, -, h, rfl⟩
  · exact hs b record hold
  · exact h.minimum
  · exact hs b old h.found

theorem step_amountsSuffice (s : T.State) (op : Op A O Λ) (hs : AmountsSuffice T s) :
    AmountsSuffice T (step T s op) := by
  refine step_preserves T (AmountsSuffice T) (fun _ _ => True) (outcome_amountsSuffice T) ?_
    (fun _ _ hs _ => hs) s op hs (fun _ _ => trivial)
  intro u v hu hsame
  unfold AmountsSuffice
  rw [hsame.sponsorships]
  exact hu

theorem emptyStorage_amountsSuffice (L : Λ) : AmountsSuffice T (emptyStorage T L) := by
  intro b record hb
  simp [emptyStorage] at hb

theorem run_amountsSuffice (L : Λ) (ops : List (Op A O Λ)) :
    AmountsSuffice T (run (step T) (emptyStorage T L) ops) :=
  run_invariant_always (step T) (AmountsSuffice T) (step_amountsSuffice T) ops _
    (emptyStorage_amountsSuffice T L)

/-- What the currency's own books say of some accounts: the two holds of the pallet are part
of what is on hold, and all that the accounts own is within the balance type. -/
def InBooks (totalOnHold : Λ → A → ℕ) (L : Λ) (accounts : Finset A) : Prop :=
  (∀ a ∈ accounts, T.currency.balanceOnHold L (sponsorshipHoldReason T) a+
    T.currency.balanceOnHold L (storageDepositHoldReason T) a ≤ totalOnHold L a) ∧
  ∑ a ∈ accounts, (T.currency.balance L a+totalOnHold L a) ≤ T.balanceMax

/-- The sponsor can own both refunds on top of its free balance without an overflow. -/
theorem refunds_fit (totalOnHold : Λ → A → ℕ) (L : Λ) (beneficiary sponsor : A) (amount deposit : ℕ)
    (hbooks : InBooks T totalOnHold L {beneficiary, sponsor})
    (hamount : amount ≤ T.currency.balanceOnHold L (sponsorshipHoldReason T) beneficiary)
    (hdeposit : deposit ≤ T.currency.balanceOnHold L (storageDepositHoldReason T) sponsor) :
    T.currency.balance L sponsor+amount+deposit ≤ T.balanceMax := by
  obtain ⟨hheld, hissued⟩ := hbooks
  have hb := hheld beneficiary (Finset.mem_insert_self _ _)
  have hs := hheld sponsor (Finset.mem_insert_of_mem (Finset.mem_singleton_self _))
  by_cases heq : beneficiary = sponsor
  · -- one account: both holds are part of what it has on hold
    subst heq
    rw [Finset.pair_eq_singleton, Finset.sum_singleton] at hissued
    omega
  · rw [Finset.sum_pair heq] at hissued
    omega

/-- What is sponsored is on hold. -/
theorem amount_on_hold (s : T.State) (hmatch : HoldsMatch T s) (b : A)
    (record : SponsorshipRecord A) (hb : s.sponsorships.get b = some record) :
    T.currency.balanceOnHold s.runtime (sponsorshipHoldReason T) b = record.amount := by
  rw [hmatch.sponsorship, sponsoredHold, hb]
  rfl

/-- The deposit is one of those that the sponsor has on hold. -/
theorem deposit_on_hold (s : T.State) (hmatch : HoldsMatch T s) (b : A)
    (record : SponsorshipRecord A) (hb : s.sponsorships.get b = some record) :
    s.storageDepositHeld.getD b 0 ≤
      T.currency.balanceOnHold s.runtime (storageDepositHoldReason T) record.sponsor := by
  have hterm := StorageMap.le_sum s.sponsorships b record
    (fun c r => if r.sponsor = record.sponsor then s.storageDepositHeld.getD c 0 else 0) hb
  rw [if_pos rfl] at hterm
  rw [hmatch.deposits]
  exact hterm

/-- The freezes beyond the free balance of `b` do not reach into the amount. -/
def Thawed (frozen totalOnHold : Λ → A → ℕ) (L : Λ) (b : A) (amount : ℕ) : Prop :=
  amount ≤ totalOnHold L b-(frozen L b-T.currency.balance L b)

instance {frozen totalOnHold : Λ → A → ℕ} (L : Λ) (b : A) (amount : ℕ) :
    Decidable (Thawed T frozen totalOnHold L b amount) := Nat.decLe _ _

/-- While the records and the holds agree, a revocation is refused only for the sake of a freeze:
the two refunds, in the order in which they are made. -/
theorem refunded_of_thawed (hF : T.currency.ExactHolds) (frozen totalOnHold : Λ → A → ℕ)
    (hB : T.currency.ExactReturns totalOnHold)
    (hR : T.currency.Returnable frozen totalOnHold T.balanceMax) (s : T.State)
    (hmatch : HoldsMatch T s) (hsuffice : AmountsSuffice T s) (b : A)
    (record : SponsorshipRecord A) (hb : s.sponsorships.get b = some record)
    (hthawed : Thawed T frozen totalOnHold s.runtime b record.amount)
    (hbooks : InBooks T totalOnHold s.runtime {b, record.sponsor}) :
    ∃ L, Refunded T s b record L := by
  have hminimum : T.currency.minimumBalance ≤ record.amount :=
    (Nat.le_max_right _ _).trans (hsuffice b record hb)
  have hheld := amount_on_hold T s hmatch b record hb
  have hdeposit := deposit_on_hold T s hmatch b record hb
  have hfit := refunds_fit T totalOnHold s.runtime b record.sponsor record.amount _ hbooks
    hheld.ge hdeposit
  obtain ⟨L₁, hL₁⟩ := hR.transferOnHold (sponsorshipHoldReason T) b record.sponsor record.amount
    s.runtime hheld.ge hthawed hminimum (by omega)
  by_cases hz : s.storageDepositHeld.getD b 0 = 0
  · exact ⟨_, L₁, L₁, hL₁, Or.inr ⟨hz, rfl⟩, rfl⟩
  · -- the deposit is still on hold, so that no dust is lost even if the account sponsors itself
    have hclear : record.sponsor ≠ b ∨
        T.currency.StaysClear totalOnHold s.runtime record.sponsor record.amount := by
      by_cases hself : record.sponsor = b
      · right
        right
        right
        have hpart := hbooks.1 b (Finset.mem_insert_self _ _)
        rw [hself] at hdeposit ⊢
        omega
      · exact Or.inl hself
    have hbalance := hB.transferOnHold _ _ _ _ _ _ hL₁ record.sponsor hclear
    rw [if_pos rfl] at hbalance
    have hkept := hF.transferOnHold _ _ _ _ _ _ _ hL₁ (storageDepositHoldReason T) record.sponsor
    rw [if_neg (fun h => (sponsorship_ne_storageDeposit T) h.1.symm), add_zero] at hkept
    obtain ⟨L₂, hL₂⟩ := hR.release (storageDepositHoldReason T) record.sponsor
      (s.storageDepositHeld.getD b 0) L₁ (by omega) (by omega) (by omega)
    exact ⟨_, L₁, L₂, hL₁, Or.inl ⟨hz, hL₂⟩, rfl⟩

/-- In every state that a run reaches, a sponsorship of an account whose freezes do not go
beyond its free balance can be revoked, whatever has become of the sponsor's account. -/
theorem sponsorship_never_stuck (hF : T.currency.ExactHolds)
    (hS : T.system.KeepsFunds T.currency) (frozen totalOnHold : Λ → A → ℕ)
    (hB : T.currency.ExactReturns totalOnHold)
    (hR : T.currency.Returnable frozen totalOnHold T.balanceMax) (L : Λ)
    (hL : ∀ reason a, T.currency.balanceOnHold L (T.holdReason reason) a = 0)
    (ops : List (Op A O Λ)) (hops : Along (step T) (RespectsHolds T) (emptyStorage T L) ops)
    (b : A) (record : SponsorshipRecord A) :
    let s := run (step T) (emptyStorage T L) ops
    s.sponsorships.get b = some record →
    frozen s.runtime b ≤ T.currency.balance s.runtime b →
    InBooks T totalOnHold s.runtime {b, record.sponsor} →
    ∃ t, revokeSponsorship T b s = (.ok record, t) := by
  intro s hb hfrozen hbooks
  have hmatch : HoldsMatch T s := run_holdsMatch T hF hS L hL ops hops
  -- nothing is frozen beyond the free balance, so all that is on hold may leave
  have hthawed : Thawed T frozen totalOnHold s.runtime b record.amount := by
    have hheld := amount_on_hold T s hmatch b record hb
    have hpart := hbooks.1 b (Finset.mem_insert_self _ _)
    unfold Thawed
    omega
  obtain ⟨L', hrefunded⟩ := refunded_of_thawed T hF frozen totalOnHold hB hR s hmatch
    (run_amountsSuffice T L ops) b record hb hthawed hbooks
  exact ⟨_, (revokeSponsorship_ok_iff T b record s _).mpr ⟨hb, L', hrefunded, rfl⟩⟩

/-- The sponsor's account is emptied. The storage deposit of five that is still to come back
is below the existential deposit of ten. -/
def emptiedTrace : List (Op ℕ (RawOrigin ℕ) (Ledger ℕ HoldReason)) :=
  [.onInitialize 1,
    .entry (.call (.signed 1) (.sponsor 2 30 .disabled .none)),
    .environment (fun L => Ledger.setFree L 1 0)]

theorem emptiedTrace_respects :
    Along (step mock) (RespectsHolds mock) (emptyStorage mock mockLedger) emptiedTrace := by
  refine ⟨?_, ?_, ?_, trivial⟩
  all_goals
    intro f hf
    cases hf
  intro reason a
  exact congrFun (Ledger.setFree_held _ 1 a 0) reason

theorem sponsorship_never_stuck_emptiedTrace :
    let s := run (step mock) (emptyStorage mock mockLedger) emptiedTrace
    mock.currency.balance s.runtime 1 = 0 ∧
      ∃ t, revokeSponsorship mock 2 s = (.ok ⟨1, 30, .disabled, .none, 1⟩, t) := by
  intro s
  exact ⟨by decide +kernel, sponsorship_never_stuck mock (Ledger.holds_exactHolds 10)
    (Ledger.system_keepsFunds 10) _ _ (Ledger.holds_exactReturns 10)
    (Ledger.holds_returnable 10 mock.balanceMax) mockLedger (fun _ _ => rfl) emptiedTrace
    emptiedTrace_respects 2 ⟨1, 30, .disabled, .none, 1⟩ (by decide +kernel) (by decide +kernel)
    ⟨by decide +kernel, by decide +kernel⟩⟩

end NuloChain.Sponsorship
