import NuloChain.PrepaidCharging

/-! What becomes of a charge. The credits that `withdraw_fee` took are divided between the fee
handler and the accounts they came from; a part that cannot be given back goes to the handler
too, while the event reports the corrected fee in any case. -/
namespace NuloChain.Prepaid
open Frame
set_option linter.unusedSectionVars false
variable {A O Λ : Type} [DecidableEq A] (T : Config A O Λ)

/-- The credits of a charge together. -/
def LiquidityInfo.withdrawn : LiquidityInfo A → ℕ
  | .noCharge => 0
  | .native _ feeCredit tipCredit => feeCredit.getD 0+tipCredit.getD 0
  | .prepaid _ _ feeCredit tipCredit => feeCredit+tipCredit.getD 0

/-- A successful native credit is the amount that was asked for. -/
theorem nativeCredit_ok (hF : T.currency.ExactMoves) (who : A) (amount : ℕ) (s t : Storage A Λ)
    (credit : Option ℕ) (h : nativeCredit T who amount s = (.ok credit, t)) :
    credit.getD 0 = amount ∧ ∃ L, t = { s with runtime := L } := by
  unfold nativeCredit at h
  by_cases hz : amount = 0
  · rw [if_pos hz] at h
    obtain ⟨rfl, rfl⟩ := (Dispatch.pure_ok_iff _ _ _ _).mp h
    exact ⟨hz.symm, t.runtime, rfl⟩
  · rw [if_neg hz, Dispatch.bind_ok_iff] at h
    obtain ⟨c, u, hw, hc⟩ := h
    obtain ⟨rfl, rfl⟩ := (Dispatch.pure_ok_iff _ _ _ _).mp hc
    rcases withdrawExact_cases T who amount .preserve s with hx | ⟨c', L, hL, hx⟩
    · rw [hx] at hw
      cases hw
    · rw [hx] at hw
      cases hw
      exact ⟨(hF.withdraw _ _ _ _ _ _ _ hL).1, L, rfl⟩

/-- What a successful charge to prepaid credit returns and leaves. -/
theorem withdrawPrepaid_ok (hF : T.currency.ExactMoves) (who : A) (fee tip : ℕ)
    (s t : Storage A Λ) (info : LiquidityInfo A) (hne : fee ≠ 0)
    (hle : fee ≤ remainingCredit s who)
    (h : withdrawPrepaid T who fee tip s = (.ok info, t)) :
    ∃ tipCredit L events, info = .prepaid who fee fee tipCredit ∧ tipCredit.getD 0 = tip ∧
      t = chargedStorage who fee L events s := by
  by_cases htip : NativeCovers T s who tip
  · rcases hpot : potWithdraw T s.runtime fee with _ | ⟨feeCredit, L⟩
    · obtain ⟨events, hres⟩ := withdrawPrepaid_no_pot T who fee tip s htip hne hle hpot
      rw [hres] at h
      cases h
    · obtain ⟨events, hres⟩ := withdrawPrepaid_pot T who fee tip s htip hne hle feeCredit L hpot
      have hfee : feeCredit = fee := (hF.withdraw _ _ _ _ _ _ _ hpot).1
      rw [hres, prepaidTip] at h
      rcases hx : nativeCredit T who tip (chargedStorage who fee L events s)
        with ⟨e | tipCredit, u⟩
      · rw [hx] at h
        cases h
      · rw [hx] at h
        cases h
        obtain ⟨htaken, L', rfl⟩ := nativeCredit_ok T hF who tip _ _ _ hx
        exact ⟨tipCredit, L', events, by rw [hfee], htaken, rfl⟩
  · rw [withdrawPrepaid_no_tip T who fee tip s htip] at h
    cases h

/-- What a successful `withdraw_fee` returns. -/
theorem withdrawFee_ok (hF : T.currency.ExactMoves) (who : A) (feeWithTip tip : ℕ)
    (s t : Storage A Λ) (info : LiquidityInfo A)
    (h : withdrawFee T who feeWithTip tip s = (.ok info, t)) :
    (feeWithTip = 0 ∧ info = .noCharge) ∨
      info = .native who (some (feeWithTip-tip)) (some (min feeWithTip tip)) ∨
      (PaysFromCredit s who feeWithTip tip ∧ ∃ tipCredit L events,
        info = .prepaid who (feeWithTip-tip) (feeWithTip-tip) tipCredit ∧
        tipCredit.getD 0 = tip ∧ t = chargedStorage who (feeWithTip-tip) L events s) := by
  by_cases hfee : feeWithTip = 0
  · subst hfee
    rw [withdrawFee_zero] at h
    cases h
    exact Or.inl ⟨rfl, rfl⟩
  right
  by_cases hcredit : PaysFromCredit s who feeWithTip tip
  · rw [withdrawFee_prepaid T who feeWithTip tip s hcredit] at h
    exact Or.inr ⟨hcredit, withdrawPrepaid_ok T hF who _ tip s t info hcredit.1 hcredit.2 h⟩
  · left
    -- one withdrawal for both, split afterwards into the fee and the tip
    rw [withdrawFee_native T who feeWithTip tip s hfee hcredit] at h
    rcases withdrawExact_cases T who feeWithTip .preserve s with hx | ⟨credit, L, hL, hx⟩
    · rw [hx] at h
      cases h
    · rw [hx] at h
      cases h
      rw [(hF.withdraw _ _ _ _ _ _ _ hL).1]
      rfl

/-- From `L` to `L'` the amount `n` has been deposited on `a`. -/
def Deposited (a : A) (n : ℕ) (L L' : Λ) : Prop :=
  (n = 0 ∧ L' = L) ∨ (n ≠ 0 ∧ T.currency.resolve a n L = some L')

/-- What arrives of a deposit that may be refused. -/
def accepted (a : A) (n : ℕ) (L : Λ) : ℕ := if (T.currency.resolve a n L).isSome then n else 0

theorem accepted_le (a : A) (n : ℕ) (L : Λ) : accepted T a n L ≤ n := by
  unfold accepted
  split
  · exact le_refl n
  · exact Nat.zero_le n

/-- A deposit arrives whole if there is nothing to deposit or the account reaches the
minimum with it. -/
theorem accepted_eq_iff (hD : T.currency.DepositsAboveMinimum T.balanceMax) (a : A) (n : ℕ)
    (L : Λ) (hroom : T.currency.balance L a+n ≤ T.balanceMax) :
    accepted T a n L = n ↔ n = 0 ∨ T.currency.minimumBalance ≤ T.currency.balance L a+n := by
  rw [← hD a n L hroom, accepted]
  by_cases hsome : (T.currency.resolve a n L).isSome = true
  · rw [if_pos hsome]
    exact iff_of_true rfl (Or.inr hsome)
  · rw [if_neg hsome]
    constructor
    · intro h
      exact Or.inl h.symm
    · intro h
      exact (h.resolve_right hsome).symm

theorem deposited_balance (hF : T.currency.ExactMoves) (a : A) (n : ℕ) (L L' : Λ)
    (h : Deposited T a n L L') : T.currency.balance L' a = T.currency.balance L a+n := by
  rcases h with ⟨rfl, rfl⟩ | ⟨-, h⟩
  · rfl
  · exact hF.resolve a n L L' h

/-- The refund of a native charge: what is not deposited stays with the paid fee. -/
theorem refundNativeFee_eq (who : A) (paidFee refund : ℕ) (s : Storage A Λ) :
    ∃ back L, back ≤ refund ∧ Deposited T who back s.runtime L ∧
      refundNativeFee T who paidFee refund s = (paidFee+(refund-back), { s with runtime := L }) := by
  unfold refundNativeFee
  by_cases hz : refund = 0
  · rw [if_pos hz]
    exact ⟨0, s.runtime, Nat.zero_le _, Or.inl ⟨rfl, rfl⟩, by rw [hz]; rfl⟩
  rw [if_neg hz]
  -- nothing is deposited on an account that has gone since the charge
  by_cases hexists : T.system.accountExists s.runtime who = true
  · rw [if_pos hexists]
    rcases hr : T.currency.resolve who refund s.runtime with _ | L
    · exact ⟨0, s.runtime, Nat.zero_le _, Or.inl ⟨rfl, rfl⟩, rfl⟩
    · refine ⟨refund, L, le_refl _, Or.inr ⟨hz, hr⟩, ?_⟩
      rw [Nat.sub_self]
      rfl
  · rw [if_neg hexists]
    exact ⟨0, s.runtime, Nat.zero_le _, Or.inl ⟨rfl, rfl⟩, rfl⟩

/-- The refund of a prepaid charge: what the pallet account takes back is credited again. -/
theorem refundPrepaidFee_eq (who : A) (paidFee refund : ℕ) (s : Storage A Λ) :
    let back := accepted T T.palletAccount refund s.runtime
    ∃ t, refundPrepaidFee T who paidFee refund s = (.ok (paidFee+(refund-back)), t) ∧
      Deposited T T.palletAccount back s.runtime t.runtime ∧ t.collected = s.collected ∧
      (∀ a, a ≠ who → remainingCredit t a = remainingCredit s a) ∧
      (remainingCredit s who+back ≤ T.balanceMax →
        remainingCredit t who = remainingCredit s who+back) := by
  intro back
  unfold refundPrepaidFee
  by_cases hz : refund = 0
  · have hback : back = 0 := Nat.le_zero.mp (hz ▸ accepted_le T T.palletAccount refund s.runtime)
    rw [if_pos hz, hback, hz]
    exact ⟨s, rfl, Or.inl ⟨rfl, rfl⟩, rfl, fun _ _ => rfl, fun _ => rfl⟩
  rw [if_neg hz]
  rcases hr : T.currency.resolve T.palletAccount refund s.runtime with _ | L
  · -- refused: the credit is not touched and all of it stays with the fee
    have hback : back = 0 := by simp [back, accepted, hr]
    rw [hback]
    refine ⟨s, ?_, Or.inl ⟨rfl, rfl⟩, rfl, fun _ _ => rfl, fun _ => rfl⟩
    simp only [bind, Dispatch.read, hr]
    rfl
  · have hback : back = refund := by simp [back, accepted, hr]
    obtain ⟨events, hrefund⟩ := refundCredit_ok T who refund { s with runtime := L } hz
    rw [hback]
    refine ⟨{ setCredit who (saturatingAdd T (remainingCredit s who) refund)
      { s with runtime := L } with events := events }, ?_, Or.inr ⟨hz, hr⟩, rfl, ?_, ?_⟩
    · simp only [bind, Dispatch.read, hr, Dispatch.write, hrefund, Nat.sub_self, add_zero]
      rfl
    · intro a ha
      change remainingCredit (setCredit who _ { s with runtime := L }) a = _
      rw [remainingCredit_setCredit, if_neg ha]
      rfl
    · intro hfit
      change remainingCredit (setCredit who _ { s with runtime := L }) who = _
      rw [remainingCredit_setCredit, if_pos rfl, saturatingAdd]
      exact Nat.min_eq_left hfit

/-- How a settlement divides a charge: `toPayer` and `toPot` are deposited back on the payer
and on the pallet account, and the batches of `handed` go to the fee handler. -/
structure Settlement (payer : A) (s t : Storage A Λ) where
  toPayer : ℕ
  toPot : ℕ
  handed : List (List ℕ)
  paid : Λ
  refunded : Λ
  payer_eq : Deposited T payer toPayer s.runtime paid
  pot_eq : Deposited T T.palletAccount toPot paid refunded
  runtime_eq : t.runtime = handed.foldl (fun L credits => T.onUnbalanceds credits L) refunded
  collected_eq : t.collected = s.collected ++ handed.flatten
  credit_eq : remainingCredit s payer+toPot ≤ T.balanceMax →
    remainingCredit t payer = remainingCredit s payer+toPot
  others_eq : ∀ a, a ≠ payer → remainingCredit t a = remainingCredit s a

/-- The settlement of a native charge leaves the credits alone. -/
theorem settle_native (who : A) (feeCredit corrected tip tipCredit : ℕ) (s : Storage A Λ) :
    ∃ t, correctAndDepositFee T corrected tip (.native who (some feeCredit) (some tipCredit)) s =
        (.ok (), t) ∧ t.prepaidCredits = s.prepaidCredits ∧
      ∃ σ : Settlement T who s t, σ.toPot = 0 ∧
        σ.handed.flatten.sum+σ.toPayer = feeCredit+tipCredit ∧
        tipCredit+min (corrected-tip) feeCredit ≤ σ.handed.flatten.sum := by
  obtain ⟨back, L, hback, hdeposit, hrefund⟩ := refundNativeFee_eq T who
    (min feeCredit (corrected-tip)) (feeCredit-(corrected-tip)) s
  have hres : settleNativeFee T who (some feeCredit) (corrected-tip) (some tipCredit) s =
      onUnbalanceds T [min feeCredit (corrected-tip)+(feeCredit-(corrected-tip)-back), tipCredit]
        { s with runtime := L } := by
    simp only [settleNativeFee, split, hrefund]
    rfl
  refine ⟨_, rfl, settleNativeFee_credits T who _ _ _ s, ?_⟩
  rw [hres]
  refine ⟨{
    toPayer := back
    toPot := 0
    handed := [[min feeCredit (corrected-tip)+(feeCredit-(corrected-tip)-back), tipCredit]]
    paid := L
    refunded := L
    payer_eq := hdeposit
    pot_eq := Or.inl ⟨rfl, rfl⟩
    runtime_eq := rfl
    collected_eq := rfl
    credit_eq := fun _ => rfl
    others_eq := fun _ _ => rfl }, rfl, ?_, ?_⟩
  · change min feeCredit (corrected-tip)+(feeCredit-(corrected-tip)-back)+(tipCredit+0)+back = _
    omega
  · change _ ≤ min feeCredit (corrected-tip)+(feeCredit-(corrected-tip)-back)+(tipCredit+0)
    omega

/-- The settlement of a prepaid charge, with the event it ends with. -/
theorem settle_prepaid (who : A) (fee corrected tip : ℕ) (tipCredit : Option ℕ)
    (s : Storage A Λ) :
    ∃ t, correctAndDepositFee T corrected tip (.prepaid who fee fee tipCredit) s = (.ok (), t) ∧
      (∃ events remaining, t.events = events ++ [.prepaidFeePaid who
        (saturatedIntoU128 (corrected-tip)) (saturatedIntoU128 tip) remaining]) ∧
      ∃ σ : Settlement T who s t, σ.toPayer = 0 ∧
        σ.toPot = accepted T T.palletAccount (fee-(corrected-tip)) s.runtime ∧
        σ.handed.flatten.sum+σ.toPot = fee+tipCredit.getD 0 := by
  have hkeep : fee-min (corrected-tip) fee = fee-(corrected-tip) := by omega
  obtain ⟨u, hu, hdeposit, hcollected, hothers, hcredit⟩ := refundPrepaidFee_eq T who
    (min fee (min (corrected-tip) fee)) (fee-min (corrected-tip) fee) s
  rw [hkeep] at hu hdeposit hcredit
  have hle := accepted_le T T.palletAccount (fee-(corrected-tip)) s.runtime
  generalize accepted T T.palletAccount (fee-(corrected-tip)) s.runtime = back at *
  -- what is kept of the fee and the tip go to the handler one after the other
  have hsettle : settlePrepaidFee T who fee fee (corrected-tip) s = (.ok (), onUnbalanceds T
      [min fee (min (corrected-tip) fee)+(fee-(corrected-tip)-back)] u) := by
    simp only [settlePrepaidFee, split, hkeep, bind, hu, Dispatch.write]
  have hcorrect : ∃ remaining, correctAndDepositFee T corrected tip
      (.prepaid who fee fee tipCredit) s = (.ok (), { onUnbalanceds T tipCredit.toList
        (onUnbalanceds T [min fee (min (corrected-tip) fee)+(fee-(corrected-tip)-back)] u) with
        events := u.events ++ [.prepaidFeePaid who (saturatedIntoU128 (corrected-tip))
          (saturatedIntoU128 tip) remaining] }) := by
    refine ⟨saturatedIntoU128 (remainingCredit u who), ?_⟩
    simp only [correctAndDepositFee, bind, hsettle, Dispatch.write, Dispatch.read, depositEvent]
    rfl
  obtain ⟨remaining, hcorrect⟩ := hcorrect
  refine ⟨_, hcorrect, ⟨u.events, remaining, rfl⟩, ?_⟩
  refine ⟨{
    toPayer := 0
    toPot := back
    handed := [[min fee (min (corrected-tip) fee)+(fee-(corrected-tip)-back)], tipCredit.toList]
    paid := s.runtime
    refunded := u.runtime
    payer_eq := Or.inl ⟨rfl, rfl⟩
    pot_eq := hdeposit
    runtime_eq := rfl
    collected_eq := by simp [onUnbalanceds, hcollected]
    credit_eq := hcredit
    others_eq := hothers }, rfl, rfl, ?_⟩
  cases tipCredit with
  | none =>
    change min fee (min (corrected-tip) fee)+(fee-(corrected-tip)-back)+0+back = fee+0
    omega
  | some c =>
    change min fee (min (corrected-tip) fee)+(fee-(corrected-tip)-back)+(c+0)+back = fee+c
    omega

/-- Nothing was charged, so nothing is settled. -/
def Settlement.none (payer : A) (s : Storage A Λ) : Settlement T payer s s where
  toPayer := 0
  toPot := 0
  handed := []
  paid := s.runtime
  refunded := s.runtime
  payer_eq := Or.inl ⟨rfl, rfl⟩
  pot_eq := Or.inl ⟨rfl, rfl⟩
  runtime_eq := rfl
  collected_eq := (List.append_nil s.collected).symm
  credit_eq := fun _ => rfl
  others_eq := fun _ _ => rfl

/-- Whatever has happened since the charge, its settlement succeeds and divides exactly what
was withdrawn; the handler gets the tip and the corrected fee at least, and a native charge
does not touch the credits. -/
theorem settlement_conserves (hF : T.currency.ExactMoves) (who : A) (feeWithTip tip : ℕ)
    (htip : tip ≤ feeWithTip) (s₀ s₁ : Storage A Λ) (info : LiquidityInfo A)
    (hcharge : withdrawFee T who feeWithTip tip s₀ = (.ok info, s₁)) (s : Storage A Λ)
    (corrected : ℕ) :
    ∃ t, correctAndDepositFee T corrected tip info s = (.ok (), t) ∧
      ∃ σ : Settlement T who s t,
        σ.handed.flatten.sum+σ.toPayer+σ.toPot = info.withdrawn ∧ info.withdrawn = feeWithTip ∧
        tip+min (corrected-tip) (feeWithTip-tip) ≤ σ.handed.flatten.sum ∧
        T.currency.balance σ.paid who = T.currency.balance s.runtime who+σ.toPayer ∧
        T.currency.balance σ.refunded T.palletAccount =
          T.currency.balance σ.paid T.palletAccount+σ.toPot ∧
        (∀ w f c, info = .native w f c → σ.toPot = 0 ∧ t.prepaidCredits = s.prepaidCredits) := by
  have hback : ∀ t (σ : Settlement T who s t),
      T.currency.balance σ.paid who = T.currency.balance s.runtime who+σ.toPayer ∧
      T.currency.balance σ.refunded T.palletAccount =
        T.currency.balance σ.paid T.palletAccount+σ.toPot := fun t σ =>
    ⟨deposited_balance T hF who _ _ _ σ.payer_eq, deposited_balance T hF _ _ _ _ σ.pot_eq⟩
  rcases withdrawFee_ok T hF who feeWithTip tip s₀ s₁ info hcharge with
    ⟨hzero, rfl⟩ | rfl | ⟨hcredit, tipCredit, L, events, rfl, htaken, -⟩
  · refine ⟨s, rfl, Settlement.none T who s, rfl, hzero.symm, ?_, rfl, rfl,
      fun w f c h => by cases h⟩
    change _ ≤ 0
    omega
  · obtain ⟨t, ht, hsame, σ, hpot, hsum, hleast⟩ :=
      settle_native T who (feeWithTip-tip) corrected tip (min feeWithTip tip) s
    have hall : feeWithTip-tip+min feeWithTip tip = feeWithTip := by omega
    refine ⟨t, ht, σ, ?_, hall, ?_, (hback t σ).1, (hback t σ).2, fun _ _ _ _ => ⟨hpot, hsame⟩⟩
    · change _ = feeWithTip-tip+min feeWithTip tip
      omega
    · omega
  · obtain ⟨t, ht, -, σ, hpayer, hpot, hsum⟩ :=
      settle_prepaid T who (feeWithTip-tip) corrected tip tipCredit s
    have hle := accepted_le T T.palletAccount (feeWithTip-tip-(corrected-tip)) s.runtime
    refine ⟨t, ht, σ, ?_, ?_, ?_, (hback t σ).1, (hback t σ).2, fun w f c h => by cases h⟩
    · change _ = feeWithTip-tip+tipCredit.getD 0
      omega
    · change feeWithTip-tip+tipCredit.getD 0 = feeWithTip
      omega
    · omega

theorem settlement_conserves_soldCredit :
    ∃ t, correctAndDepositFee mock 15 5 (.prepaid 2 20 20 (some 5))
        (withdrawFee mock 2 25 5 soldCredit).2 = (.ok (), t) ∧
      ∃ σ : Settlement mock 2 (withdrawFee mock 2 25 5 soldCredit).2 t,
        σ.handed.flatten.sum+σ.toPayer+σ.toPot = 25 ∧ 15 ≤ σ.handed.flatten.sum := by
  have hcharge : (withdrawFee mock 2 25 5 soldCredit).1 = .ok (.prepaid 2 20 20 (some 5)) := by
    rfl
  obtain ⟨t, ht, σ, hsum, hall, hleast, -⟩ := settlement_conserves mock
    (Ledger.balanced_exactMoves 10) 2 25 5 (by decide) soldCredit
    (withdrawFee mock 2 25 5 soldCredit).2 _ (Prod.ext hcharge rfl)
    (withdrawFee mock 2 25 5 soldCredit).2 15
  exact ⟨t, ht, σ, hsum.trans hall, hleast⟩

/-- A charge that was taken from credit lowers the credit by the corrected fee, and reports
that, exactly if nothing is to be given back or the pallet account can take it back. -/
theorem prepaid_charge_is_exact_iff (hF : T.currency.ExactMoves)
    (hD : T.currency.DepositsAboveMinimum T.balanceMax) (hwidth : T.balanceMax < 2^128) (L : Λ)
    (ops : List (Op A O Λ)) (who : A) (feeWithTip tip : ℕ) (s₁ : Storage A Λ)
    (info : LiquidityInfo A)
    (hcharge : withdrawFee T who feeWithTip tip (run (step T) (emptyStorage L) ops) = (.ok info, s₁))
    (hprepaid : ∃ w paid f c, info = .prepaid w paid f c) (s₂ : Storage A Λ)
    (hdispatch : remainingCredit s₂ who = remainingCredit s₁ who) (corrected : ℕ)
    (hcorrected : corrected-tip ≤ feeWithTip-tip)
    (hissued : T.currency.balance s₂.runtime T.palletAccount+(feeWithTip-tip-(corrected-tip)) ≤
      T.balanceMax) :
    let s := run (step T) (emptyStorage L) ops
    let t := (correctAndDepositFee T corrected tip info s₂).2
    (remainingCredit t who+(corrected-tip) = remainingCredit s who ∧
        ∃ events tip' remaining, t.events = events ++ [.prepaidFeePaid who
          (remainingCredit s who-remainingCredit t who) tip' remaining]) ↔
      (corrected-tip = feeWithTip-tip ∨ T.currency.minimumBalance ≤
        T.currency.balance s₂.runtime T.palletAccount+(feeWithTip-tip-(corrected-tip))) := by
  intro s t
  have hfit : remainingCredit s who ≤ T.balanceMax := run_fit T L ops who
  obtain ⟨w, paid, f, c, rfl⟩ := hprepaid
  rcases withdrawFee_ok T hF who feeWithTip tip s s₁ _ hcharge with
    ⟨-, h⟩ | h | ⟨hcredit, tipCredit, L', events, hinfo, -, hs₁⟩
  · cases h
  · cases h
  cases hinfo
  obtain ⟨u, hu, ⟨events', remaining, hevents⟩, σ, -, hpot, -⟩ :=
    settle_prepaid T who (feeWithTip-tip) corrected tip c s₂
  have ht : t = u := congrArg Prod.snd hu
  -- the credit after the charge, and after what comes back of it
  have hafter : remainingCredit s₂ who = remainingCredit s who-(feeWithTip-tip) := by
    rw [hdispatch, hs₁]
    exact (remainingCredit_setCredit s who who _).trans (if_pos rfl)
  have hback := accepted_le T T.palletAccount (feeWithTip-tip-(corrected-tip)) s₂.runtime
  have hpaid := hcredit.2
  have hend : remainingCredit t who = remainingCredit s who-(feeWithTip-tip)+
      accepted T T.palletAccount (feeWithTip-tip-(corrected-tip)) s₂.runtime := by
    rw [ht, σ.credit_eq (by omega), hpot, hafter]
  have hwide : saturatedIntoU128 (corrected-tip) = corrected-tip := by
    unfold saturatedIntoU128
    omega
  -- nothing is lost exactly if the pallet account accepts what is to come back
  have hall := accepted_eq_iff T hD T.palletAccount (feeWithTip-tip-(corrected-tip)) s₂.runtime
    hissued
  have hnone : corrected-tip = feeWithTip-tip ↔ feeWithTip-tip-(corrected-tip) = 0 := by omega
  rw [hnone, ← hall]
  constructor
  · intro h
    have := h.1
    omega
  · intro h
    refine ⟨by omega, events', saturatedIntoU128 tip, remaining, ?_⟩
    have hdecrease : remainingCredit s who-remainingCredit t who = corrected-tip := by omega
    rw [hdecrease, ht, hevents, hwide]

theorem prepaid_charge_is_exact_iff_soldCredit :
    let s₁ := (withdrawFee mock 2 25 5 soldCredit).2
    let t := (correctAndDepositFee mock 15 5 (.prepaid 2 20 20 (some 5)) s₁).2
    remainingCredit t 2+10 = remainingCredit soldCredit 2 ∧
      ∃ events tip' remaining, t.events = events ++ [.prepaidFeePaid 2
        (remainingCredit soldCredit 2-remainingCredit t 2) tip' remaining] := by
  intro s₁ t
  have hcharge : (withdrawFee mock 2 25 5 soldCredit).1 = .ok (.prepaid 2 20 20 (some 5)) := by
    rfl
  exact (prepaid_charge_is_exact_iff mock (Ledger.balanced_exactMoves 10)
    (Ledger.balanced_depositsAboveMinimum 10 _) (by decide) mockLedger
    [.purchase (.signed 1) 2 40] 2 25 5 s₁ _ (Prod.ext hcharge rfl) ⟨_, _, _, _, rfl⟩ s₁ rfl 15
    (by decide) (by decide +kernel)).mpr (Or.inr (by decide +kernel))

/-- Account two has been sold twelve of credit and pays it all as a fee, of which seven are
to come back. The emptied pallet account does not take them: they are lost to the payer, and
the event reports a fee of five. -/
theorem refused_refund_is_kept :
    let s := run (step mock) (emptyStorage mockLedger) [.purchase (.signed 1) 2 12]
    let charge := withdrawFee mock 2 12 0 s
    let t := (correctAndDepositFee mock 5 0 (.prepaid 2 12 12 none) charge.2).2
    charge.1 = .ok (.prepaid 2 12 12 none) ∧ remainingCredit s 2 = 12 ∧
      ¬ (remainingCredit t 2+5 = remainingCredit s 2) ∧
      t.events.getLast? = some (.prepaidFeePaid 2 5 0 0) := by
  refine ⟨rfl, rfl, by decide +kernel, rfl⟩

end NuloChain.Prepaid
