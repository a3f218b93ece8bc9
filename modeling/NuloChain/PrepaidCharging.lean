import NuloChain.PrepaidBacking

/-! When a charge goes through. The choice between credit and native balance is made from the
credit alone, so what the other branch would have done never matters; and a charge that fails
has to take back by hand what it has already written. -/
namespace NuloChain.Prepaid
open Frame
set_option linter.unusedSectionVars false
variable {A O Λ : Type} [DecidableEq A] (T : Config A O Λ)

/-- The test on which `withdraw_fee` and `can_withdraw_fee` turn to prepaid credit. -/
def PaysFromCredit (s : Storage A Λ) (who : A) (feeWithTip tip : ℕ) : Prop :=
  feeWithTip-tip ≠ 0 ∧ feeWithTip-tip ≤ remainingCredit s who

instance (s : Storage A Λ) (who : A) (feeWithTip tip : ℕ) :
    Decidable (PaysFromCredit s who feeWithTip tip) :=
  inferInstanceAs (Decidable (_ ∧ _))

/-- What `F::withdraw` takes from the pallet account for a fee. -/
def potWithdraw (L : Λ) (fee : ℕ) : Option (ℕ × Λ) :=
  T.currency.withdraw T.palletAccount fee .exact .expendable .polite L

/-- The native check passes: nothing is asked, or the currency can pay it. -/
def NativeCovers (s : Storage A Λ) (who : A) (amount : ℕ) : Prop :=
  amount = 0 ∨ T.currency.canWithdraw s.runtime who amount = true

theorem canWithdrawNative_of_covers (who : A) (amount : ℕ) (s : Storage A Λ)
    (h : NativeCovers T s who amount) : canWithdrawNative T who amount s = (.ok (), s) := by
  unfold canWithdrawNative
  by_cases hz : amount = 0
  · rw [if_pos hz]
    rfl
  · have hcan := h.resolve_left hz
    simp [hz, bind, Dispatch.read, Dispatch.ensure, hcan]

theorem canWithdrawNative_of_not_covers (who : A) (amount : ℕ) (s : Storage A Λ)
    (h : ¬ NativeCovers T s who amount) :
    canWithdrawNative T who amount s = (.error .payment, s) := by
  obtain ⟨hz, hcan⟩ := not_or.mp h
  simp [canWithdrawNative, hz, bind, Dispatch.read, Dispatch.ensure, Dispatch.fail, hcan]

theorem canWithdrawNative_isOk (who : A) (amount : ℕ) (s : Storage A Λ) :
    (canWithdrawNative T who amount s).1.isOk = true ↔ NativeCovers T s who amount := by
  by_cases h : NativeCovers T s who amount
  · rw [canWithdrawNative_of_covers T who amount s h]
    exact iff_of_true rfl h
  · rw [canWithdrawNative_of_not_covers T who amount s h]
    exact iff_of_false Bool.false_ne_true h

theorem withdrawExact_isOk (who : A) (amount : ℕ) (p : Preservation) (s : Storage A Λ) :
    (withdrawExact T who amount p s).1.isOk = true ↔
      (T.currency.withdraw who amount .exact p .polite s.runtime).isSome = true := by
  rcases withdrawExact_cases T who amount p s with h | ⟨credit, L, hL, h⟩
  · have hnone : T.currency.withdraw who amount .exact p .polite s.runtime = none := by
      rcases hw : T.currency.withdraw who amount .exact p .polite s.runtime with _ | ⟨credit, L⟩
      · rfl
      · simp [withdrawExact, bind, Dispatch.read, Dispatch.okOr, Dispatch.write, hw] at h
    rw [h, hnone]
    exact iff_of_false Bool.false_ne_true Bool.false_ne_true
  · rw [h, hL]
    exact iff_of_true rfl rfl

theorem nativeCredit_of_some (who : A) (amount : ℕ) (s : Storage A Λ) (hne : amount ≠ 0)
    (credit : ℕ) (L : Λ)
    (h : T.currency.withdraw who amount .exact .preserve .polite s.runtime = some (credit, L)) :
    nativeCredit T who amount s = (.ok (some credit), { s with runtime := L }) := by
  have hexact : withdrawExact T who amount .preserve s = (.ok credit, { s with runtime := L }) := by
    simp [withdrawExact, bind, Dispatch.read, Dispatch.okOr, Dispatch.write, h]
  unfold nativeCredit
  rw [if_neg hne, Dispatch.bind_of_ok _ _ _ _ _ hexact, Dispatch.pure_apply]

/-- The storage of a prepaid charge whose fee the pallet account has paid. -/
def chargedStorage (who : A) (fee : ℕ) (L : Λ) (events : List (Event A)) (s : Storage A Λ) :
    Storage A Λ :=
  { setCredit who (remainingCredit s who-fee) s with events := events, runtime := L }

/-- The tip fails: nothing has been written yet. -/
theorem withdrawPrepaid_no_tip (who : A) (fee tip : ℕ) (s : Storage A Λ)
    (htip : ¬ NativeCovers T s who tip) :
    withdrawPrepaid T who fee tip s = (.error .payment, s) := by
  have hcan := canWithdrawNative_of_not_covers T who tip s htip
  simp only [withdrawPrepaid, withdrawTip, bind, hcan]

/-- The pallet account fails: the credit is taken and given back. -/
theorem withdrawPrepaid_no_pot (who : A) (fee tip : ℕ) (s : Storage A Λ)
    (htip : NativeCovers T s who tip) (hne : fee ≠ 0) (hle : fee ≤ remainingCredit s who)
    (hpot : potWithdraw T s.runtime fee = none) :
    ∃ events, withdrawPrepaid T who fee tip s = (.error .payment,
      { setCredit who (saturatingAdd T (remainingCredit s who-fee) fee)
          (setCredit who (remainingCredit s who-fee) s) with events := events }) := by
  have hcan := canWithdrawNative_of_covers T who tip s htip
  obtain ⟨taken, htaken⟩ := withdrawCredit_ok who fee s hne hle
  obtain ⟨events, hrefund⟩ := refundCredit_ok T who fee
    { setCredit who (remainingCredit s who-fee) s with events := taken } hne
  -- the refund is added to what the charge has left, not to the credit of before
  have hself : remainingCredit (setCredit who (remainingCredit s who-fee) s) who =
      remainingCredit s who-fee := by
    rw [remainingCredit_setCredit, if_pos rfl]
  refine ⟨events, ?_⟩
  change T.currency.withdraw T.palletAccount fee .exact .expendable .polite
    (setCredit who (remainingCredit s who-fee) s).runtime = none at hpot
  change remainingCredit { setCredit who (remainingCredit s who-fee) s with events := taken } who =
    remainingCredit s who-fee at hself
  rw [hself] at hrefund
  simp only [withdrawPrepaid, withdrawTip, bind, hcan, htaken, Dispatch.read, hpot, hrefund,
    Dispatch.fail]
  rfl

/-- The pallet account pays: what is left to do is the tip. -/
theorem withdrawPrepaid_pot (who : A) (fee tip : ℕ) (s : Storage A Λ)
    (htip : NativeCovers T s who tip) (hne : fee ≠ 0) (hle : fee ≤ remainingCredit s who)
    (feeCredit : ℕ) (L : Λ) (hpot : potWithdraw T s.runtime fee = some (feeCredit, L)) :
    ∃ events, withdrawPrepaid T who fee tip s =
      prepaidTip T who fee feeCredit tip (chargedStorage who fee L events s) := by
  have hcan := canWithdrawNative_of_covers T who tip s htip
  obtain ⟨events, htaken⟩ := withdrawCredit_ok who fee s hne hle
  refine ⟨events, ?_⟩
  change T.currency.withdraw T.palletAccount fee .exact .expendable .polite
    (setCredit who (remainingCredit s who-fee) s).runtime = some (feeCredit, L) at hpot
  simp only [withdrawPrepaid, withdrawTip, bind, hcan, htaken, Dispatch.read, hpot,
    Dispatch.write]
  rfl

/-- The tip, which was checked before, is still there after the pallet account has paid. -/
theorem withdrawPrepaid_paid (hF : T.currency.HonoursChecks) (who : A) (fee tip : ℕ)
    (s : Storage A Λ) (hwho : who ≠ T.palletAccount) (htip : NativeCovers T s who tip)
    (hne : fee ≠ 0) (hle : fee ≤ remainingCredit s who) (feeCredit : ℕ) (L : Λ)
    (hpot : potWithdraw T s.runtime fee = some (feeCredit, L)) :
    ∃ info t, withdrawPrepaid T who fee tip s = (.ok info, t) := by
  obtain ⟨events, hres⟩ := withdrawPrepaid_pot T who fee tip s htip hne hle feeCredit L hpot
  rw [hres]
  by_cases hz : tip = 0
  · refine ⟨.prepaid who fee feeCredit none, chargedStorage who fee L events s, ?_⟩
    simp only [prepaidTip, nativeCredit, if_pos hz, Dispatch.pure_apply]
  · -- the check was made before the pallet account paid, the withdrawal comes after
    have hsome := hF who tip s.runtime hz (htip.resolve_left hz) _ _ _ _ _ L hwho hpot
    obtain ⟨⟨c, L'⟩, hw⟩ := Option.isSome_iff_exists.mp hsome
    have hcredit := nativeCredit_of_some T who tip (chargedStorage who fee L events s) hz c L' hw
    refine ⟨.prepaid who fee feeCredit (some c), chargedStorage who fee L' events s, ?_⟩
    simp only [prepaidTip, hcredit]
    rfl

/-- When a charge to prepaid credit goes through. -/
theorem withdrawPrepaid_isOk (hF : T.currency.HonoursChecks) (who : A) (fee tip : ℕ)
    (s : Storage A Λ) (hwho : who ≠ T.palletAccount) (hne : fee ≠ 0)
    (hle : fee ≤ remainingCredit s who) :
    (withdrawPrepaid T who fee tip s).1.isOk = true ↔
      NativeCovers T s who tip ∧ (potWithdraw T s.runtime fee).isSome = true := by
  by_cases htip : NativeCovers T s who tip
  · rcases hpot : potWithdraw T s.runtime fee with _ | ⟨feeCredit, L⟩
    · obtain ⟨events, h⟩ := withdrawPrepaid_no_pot T who fee tip s htip hne hle hpot
      rw [h]
      exact iff_of_false Bool.false_ne_true (fun hboth => Bool.false_ne_true hboth.2)
    · obtain ⟨info, t, h⟩ :=
        withdrawPrepaid_paid T hF who fee tip s hwho htip hne hle feeCredit L hpot
      rw [h]
      exact iff_of_true rfl ⟨htip, rfl⟩
  · rw [withdrawPrepaid_no_tip T who fee tip s htip]
    exact iff_of_false Bool.false_ne_true (fun h => htip h.1)

theorem withdrawFee_native_isOk (who : A) (feeWithTip tip : ℕ) (s : Storage A Λ)
    (hfee : feeWithTip ≠ 0) (h : ¬ PaysFromCredit s who feeWithTip tip) :
    (withdrawFee T who feeWithTip tip s).1.isOk = true ↔
      (T.currency.withdraw who feeWithTip .exact .preserve .polite s.runtime).isSome = true := by
  rw [withdrawFee_native T who feeWithTip tip s hfee h, ← withdrawExact_isOk T who feeWithTip]
  rcases withdrawExact T who feeWithTip .preserve s with ⟨e | credit, t⟩
  · rfl
  · rfl

theorem withdrawFee_zero (who : A) (tip : ℕ) (s : Storage A Λ) :
    withdrawFee T who 0 tip s = (.ok .noCharge, s) := by
  rw [withdrawFee, if_pos rfl]
  rfl

theorem withdrawFee_isOk_of_credit (hF : T.currency.HonoursChecks) (who : A)
    (feeWithTip tip : ℕ) (s : Storage A Λ) (hwho : who ≠ T.palletAccount)
    (h : PaysFromCredit s who feeWithTip tip) :
    (withdrawFee T who feeWithTip tip s).1.isOk = true ↔ NativeCovers T s who tip ∧
      (potWithdraw T s.runtime (feeWithTip-tip)).isSome = true := by
  rw [withdrawFee_prepaid T who feeWithTip tip s h]
  exact withdrawPrepaid_isOk T hF who (feeWithTip-tip) tip s hwho h.1 h.2

/-- The check of a smaller amount passes if that of a larger one does. -/
theorem nativeCovers_mono (frozen : Λ → A → ℕ) (hF : T.currency.Liquidity frozen) (who : A)
    (m n : ℕ) (s : Storage A Λ) (hle : m ≤ n) (h : NativeCovers T s who n) :
    NativeCovers T s who m := by
  by_cases hm : m = 0
  · exact Or.inl hm
  · have hn : n ≠ 0 := by omega
    have hcan := (hF.canWithdraw s.runtime who n hn).mp (h.resolve_left hn)
    refine Or.inr ((hF.canWithdraw s.runtime who m hm).mpr ?_)
    omega

/-- If the native balance could pay the whole charge, the charge fails exactly when it is
taken from credit that the pallet account cannot pay out. -/
theorem charge_succeeds_iff_pot_pays (frozen : Λ → A → ℕ) (hF : T.currency.Liquidity frozen)
    (s : Storage A Λ) (who : A) (feeWithTip tip : ℕ) (hwho : who ≠ T.palletAccount)
    (hcan : T.currency.canWithdraw s.runtime who feeWithTip = true) :
    (withdrawFee T who feeWithTip tip s).1.isOk = true ↔
      (feeWithTip-tip ≠ 0 → feeWithTip-tip ≤ remainingCredit s who →
        feeWithTip-tip ≤
          T.currency.reducibleBalance s.runtime T.palletAccount .expendable .polite) := by
  by_cases hfee : feeWithTip = 0
  · subst hfee
    rw [withdrawFee_zero]
    exact iff_of_true rfl (fun hne _ => absurd (Nat.zero_sub tip) hne)
  by_cases hcredit : PaysFromCredit s who feeWithTip tip
  · -- the source is settled by the credit, although the native balance could pay it all
    have htip : NativeCovers T s who tip := by
      have hlt := hcredit.1
      exact nativeCovers_mono T frozen hF who tip feeWithTip s (by omega) (Or.inr hcan)
    rw [withdrawFee_isOk_of_credit T hF.honoursChecks who feeWithTip tip s hwho hcredit,
      potWithdraw, hF.expendable]
    exact ⟨fun h _ _ => h.2, fun h => ⟨htip, h hcredit.1 hcredit.2⟩⟩
  · rw [withdrawFee_native_isOk T who feeWithTip tip s hfee hcredit]
    have hpays := (hF.check_iff s.runtime who feeWithTip hfee).mp hcan
    exact iff_of_true hpays (fun hne hle => absurd ⟨hne, hle⟩ hcredit)

/-- Account two has been sold forty of credit. -/
def soldCredit : Storage ℕ (Ledger ℕ Unit) :=
  run (step mock) (emptyStorage mockLedger) [.purchase (.signed 1) 2 40]

theorem charge_succeeds_iff_pot_pays_soldCredit :
    (withdrawFee mock 2 25 5 soldCredit).1.isOk = true :=
  (charge_succeeds_iff_pot_pays mock _ (Ledger.balanced_liquidity 10) soldCredit 2 25 5
    (by decide) (by decide +kernel)).mpr (fun _ _ => by decide +kernel)

/-- The pallet account has been emptied as dust. Account two still has five of credit and a
hundred of its own, and cannot pay a fee of five. -/
def dustedPot : Storage ℕ (Ledger ℕ Unit) := run (step mock) (emptyStorage mockLedger) dustTrace

theorem dusted_pot_blocks_native_payment :
    Along (step mock) (LeavesPot mock) (emptyStorage mockLedger) dustTrace ∧
      2 ≠ mock.palletAccount ∧ mock.currency.canWithdraw dustedPot.runtime 2 5 = true ∧
      ¬ (withdrawFee mock 2 5 0 dustedPot).1.isOk = true := by
  refine ⟨⟨?_, ⟨by decide, trivial⟩, trivial⟩, by decide, by decide +kernel, by decide +kernel⟩
  change (some 1 : Option ℕ) ≠ some 0
  decide

/-- `can_withdraw_fee` turns to the same source as the charge itself. -/
theorem canWithdrawFee_isOk (who : A) (feeWithTip tip : ℕ) (s : Storage A Λ)
    (hfee : feeWithTip ≠ 0) :
    (canWithdrawFee T who feeWithTip tip s).1.isOk = true ↔
      NativeCovers T s who (if PaysFromCredit s who feeWithTip tip then tip else feeWithTip) := by
  have hres : canWithdrawFee T who feeWithTip tip s = canWithdrawNative T who
      (if PaysFromCredit s who feeWithTip tip then tip else feeWithTip) s := by
    unfold canWithdrawFee
    rw [if_neg hfee]
    change (ite _ _ _ : Pallet A Λ Unit) s = _
    by_cases h : PaysFromCredit s who feeWithTip tip
    · rw [if_pos h]
      exact congrFun (if_pos h) s
    · rw [if_neg h]
      exact congrFun (if_neg h) s
  rw [hres, canWithdrawNative_isOk]

/-- As long as the pallet account can pay out the payer's credit, the pool check and the
charge give the same answer. -/
theorem validation_agrees_with_charging (frozen : Λ → A → ℕ) (hF : T.currency.Liquidity frozen)
    (s : Storage A Λ) (who : A) (feeWithTip tip : ℕ) (hwho : who ≠ T.palletAccount)
    (hpot : remainingCredit s who ≤
      T.currency.reducibleBalance s.runtime T.palletAccount .expendable .polite) :
    (canWithdrawFee T who feeWithTip tip s).1.isOk = true ↔
      (withdrawFee T who feeWithTip tip s).1.isOk = true := by
  by_cases hfee : feeWithTip = 0
  · subst hfee
    rw [withdrawFee_zero, canWithdrawFee, if_pos rfl]
    exact Iff.rfl
  rw [canWithdrawFee_isOk T who feeWithTip tip s hfee]
  by_cases hcredit : PaysFromCredit s who feeWithTip tip
  · -- validation looks at the tip alone; that the pallet account pays is the premise
    have hsome : (potWithdraw T s.runtime (feeWithTip-tip)).isSome = true :=
      (hF.expendable _ _ _).mpr (hcredit.2.trans hpot)
    rw [if_pos hcredit,
      withdrawFee_isOk_of_credit T hF.honoursChecks who feeWithTip tip s hwho hcredit]
    exact ⟨fun h => ⟨h, hsome⟩, fun h => h.1⟩
  · rw [if_neg hcredit, withdrawFee_native_isOk T who feeWithTip tip s hfee hcredit,
      ← hF.check_iff s.runtime who feeWithTip hfee]
    exact or_iff_right hfee

theorem validation_agrees_with_charging_soldCredit :
    (canWithdrawFee mock 2 25 5 soldCredit).1.isOk = true ∧
      (withdrawFee mock 2 25 5 soldCredit).1.isOk = true := by
  have hvalid : (canWithdrawFee mock 2 25 5 soldCredit).1.isOk = true := by decide +kernel
  exact ⟨hvalid, (validation_agrees_with_charging mock _ (Ledger.balanced_liquidity 10) soldCredit
    2 25 5 (by decide) (by decide +kernel)).mp hvalid⟩

/-- Every credit is a value of the balance type. -/
def CreditsFit (s : Storage A Λ) : Prop := ∀ a, remainingCredit s a ≤ T.balanceMax

theorem creditsFit_of_same (s t : Storage A Λ) (h : t.prepaidCredits = s.prepaidCredits)
    (hs : CreditsFit T s) : CreditsFit T t := by
  intro a
  have ha := hs a
  unfold remainingCredit at ha ⊢
  rw [h]
  exact ha

theorem setCredit_fit (who : A) (n : ℕ) (s : Storage A Λ) (hn : n ≤ T.balanceMax)
    (hs : CreditsFit T s) : CreditsFit T (setCredit who n s) := by
  intro a
  rw [remainingCredit_setCredit]
  by_cases ha : a = who
  · rw [if_pos ha]
    exact hn
  · rw [if_neg ha]
    exact hs a

theorem addCredit_fit (who : A) (amount : ℕ) (s : Storage A Λ) (hs : CreditsFit T s) :
    CreditsFit T (addCredit T who amount s) :=
  setCredit_fit T who _ s (Nat.min_le_right _ _) hs

theorem depositEvent_fit (e : Event A) :
    Dispatch.Keeps (CreditsFit T) (depositEvent e : Pallet A Λ Unit) :=
  fun s hs => creditsFit_of_same T s _ rfl hs

theorem purchase_fit (origin : O) (beneficiary : A) (amount : ℕ) :
    Dispatch.Keeps (CreditsFit T) (purchase T origin beneficiary amount) := by
  refine Dispatch.keeps_transactional _ _ (Dispatch.keeps_bind _ _ _
    ((Dispatch.readOnly_okOr _ _).keeps _) (fun sponsor => ?_))
  refine Dispatch.keeps_transactional _ _ ?_
  refine Dispatch.keeps_bind _ _ _ ((Dispatch.readOnly_ensure _ _).keeps _) (fun _ => ?_)
  refine Dispatch.keeps_bind _ _ _ (Dispatch.keeps_write _ _ ?_) (fun _ => ?_)
  · intro s hs
    unfold ensurePalletAccount
    split
    · exact hs
    · exact creditsFit_of_same T s _ rfl hs
  refine Dispatch.keeps_bind _ _ _ (Dispatch.readOnly_read.keeps _) (fun s => ?_)
  refine Dispatch.keeps_bind _ _ _ ((Dispatch.readOnly_okOr _ _).keeps _) (fun L => ?_)
  refine Dispatch.keeps_bind _ _ _ (Dispatch.keeps_write _ _
    (fun s hs => creditsFit_of_same T s _ rfl hs)) (fun _ => ?_)
  refine Dispatch.keeps_bind _ _ _ (Dispatch.keeps_write _ _
    (addCredit_fit T beneficiary amount)) (fun _ => ?_)
  exact Dispatch.keeps_bind _ _ _ (Dispatch.readOnly_read.keeps _)
    (fun s => depositEvent_fit T _)

theorem withdrawCredit_fit (who : A) (amount : ℕ) :
    Dispatch.Keeps (CreditsFit T) (withdrawCredit who amount : Pallet A Λ Unit) := by
  intro s hs
  by_cases hz : amount = 0
  · rw [withdrawCredit, if_pos hz]
    exact hs
  by_cases hle : amount ≤ remainingCredit s who
  · obtain ⟨events, h⟩ := withdrawCredit_ok who amount s hz hle
    rw [h]
    exact setCredit_fit T who _ s ((Nat.sub_le _ _).trans (hs who)) hs
  · have h : withdrawCredit who amount s = (.error .payment, s) := by
      simp [withdrawCredit, hz, bind, Dispatch.read, Dispatch.ensure, hle, Dispatch.fail]
    rw [h]
    exact hs

theorem refundCredit_fit (who : A) (amount : ℕ) :
    Dispatch.Keeps (CreditsFit T) (refundCredit T who amount) := by
  intro s hs
  by_cases hz : amount = 0
  · rw [refundCredit, if_pos hz]
    exact hs
  · obtain ⟨events, h⟩ := refundCredit_ok T who amount s hz
    rw [h]
    exact setCredit_fit T who _ s (Nat.min_le_right _ _) hs

theorem withdrawExact_fit (who : A) (amount : ℕ) (p : Preservation) :
    Dispatch.Keeps (CreditsFit T) (withdrawExact T who amount p) := by
  intro s hs
  rcases withdrawExact_cases T who amount p s with h | ⟨credit, L, -, h⟩
  · rw [h]
    exact hs
  · rw [h]
    exact creditsFit_of_same T s _ rfl hs

theorem nativeCredit_fit (who : A) (amount : ℕ) :
    Dispatch.Keeps (CreditsFit T) (nativeCredit T who amount) := by
  unfold nativeCredit
  split
  · exact (Dispatch.readOnly_pure _).keeps _
  · exact Dispatch.keeps_bind _ _ _ (withdrawExact_fit T who amount _)
      (fun credit => (Dispatch.readOnly_pure _).keeps _)

theorem prepaidTip_fit (who : A) (inclusionFee feeCredit tip : ℕ) :
    Dispatch.Keeps (CreditsFit T) (prepaidTip T who inclusionFee feeCredit tip) := by
  intro s hs
  have h := nativeCredit_fit T who tip s hs
  unfold prepaidTip
  rcases hx : nativeCredit T who tip s with ⟨e | credit, t⟩
  · rw [hx] at h
    exact creditsFit_of_same T t _ rfl h
  · rw [hx] at h
    exact h

theorem withdrawFee_fit (who : A) (feeWithTip tip : ℕ) :
    Dispatch.Keeps (CreditsFit T) (withdrawFee T who feeWithTip tip) := by
  have hread : ∀ n, Dispatch.ReadOnly (canWithdrawNative T who n) := by
    intro n s
    rcases canWithdrawNative_storage T who n s with h | h
    · rw [h]
    · rw [h]
  unfold withdrawFee
  split
  · exact (Dispatch.readOnly_pure _).keeps _
  refine Dispatch.keeps_bind _ _ _ (Dispatch.readOnly_read.keeps _) (fun s => ?_)
  split
  -- from credit: taking lowers it, and giving back saturates
  · refine Dispatch.keeps_bind _ _ _ ((hread tip).keeps _) (fun _ => ?_)
    refine Dispatch.keeps_bind _ _ _ (withdrawCredit_fit T who _) (fun _ => ?_)
    refine Dispatch.keeps_bind _ _ _ (Dispatch.readOnly_read.keeps _) (fun s => ?_)
    split
    · exact Dispatch.keeps_bind _ _ _ (Dispatch.keeps_write _ _
        (fun s hs => creditsFit_of_same T s _ rfl hs)) (fun _ => prepaidTip_fit T who _ _ tip)
    · exact Dispatch.keeps_bind _ _ _ (refundCredit_fit T who _)
        (fun _ => (Dispatch.readOnly_fail _).keeps _)
  · exact Dispatch.keeps_bind _ _ _ (withdrawExact_fit T who feeWithTip _)
      (fun credit => (Dispatch.readOnly_pure _).keeps _)

theorem refundPrepaidFee_fit (who : A) (paidFee refund : ℕ) :
    Dispatch.Keeps (CreditsFit T) (refundPrepaidFee T who paidFee refund) := by
  unfold refundPrepaidFee
  split
  · exact (Dispatch.readOnly_pure _).keeps _
  refine Dispatch.keeps_bind _ _ _ (Dispatch.readOnly_read.keeps _) (fun s => ?_)
  split
  · refine Dispatch.keeps_bind _ _ _ (Dispatch.keeps_write _ _
      (fun s hs => creditsFit_of_same T s _ rfl hs)) (fun _ => ?_)
    exact Dispatch.keeps_bind _ _ _ (refundCredit_fit T who refund)
      (fun _ => (Dispatch.readOnly_pure _).keeps _)
  · exact (Dispatch.readOnly_pure _).keeps _

theorem settleNativeFee_credits (who : A) (feeCredit : Option ℕ) (correctedFee : ℕ)
    (tipCredit : Option ℕ) (s : Storage A Λ) :
    (settleNativeFee T who feeCredit correctedFee tipCredit s).prepaidCredits =
      s.prepaidCredits := by
  unfold settleNativeFee
  split
  · rename_i credit
    change (refundNativeFee T who _ _ s).2.prepaidCredits = _
    unfold refundNativeFee
    split
    · rfl
    · split
      · split <;> rfl
      · rfl
  · rfl

theorem correctAndDepositFee_fit (corrected tip : ℕ) (info : LiquidityInfo A) :
    Dispatch.Keeps (CreditsFit T) (correctAndDepositFee T corrected tip info) := by
  have hcollect : ∀ credits, Dispatch.Keeps (CreditsFit T)
      (Dispatch.write (onUnbalanceds T credits) : Pallet A Λ Unit) :=
    fun credits s hs => creditsFit_of_same T s _ rfl hs
  cases info with
  | noCharge => exact (Dispatch.readOnly_pure _).keeps _
  | native who feeCredit tipCredit =>
    exact fun s hs => creditsFit_of_same T s _ (settleNativeFee_credits T who _ _ _ s) hs
  | prepaid who paidInclusionFee feeCredit tipCredit =>
    refine Dispatch.keeps_bind _ _ _ (Dispatch.keeps_bind _ _ _
      (refundPrepaidFee_fit T who _ _) (fun paid => hcollect _)) (fun _ => ?_)
    refine Dispatch.keeps_bind _ _ _ (hcollect _) (fun _ => ?_)
    exact Dispatch.keeps_bind _ _ _ (Dispatch.readOnly_read.keeps _)
      (fun s => depositEvent_fit T _)

theorem step_fit (s : Storage A Λ) (op : Op A O Λ) (hs : CreditsFit T s) :
    CreditsFit T (step T s op) := by
  cases op with
  | purchase origin beneficiary amount => exact purchase_fit T origin beneficiary amount s hs
  | transaction who feeWithTip tip body corrected =>
    have hcharged := withdrawFee_fit T who feeWithTip tip s hs
    simp only [step]
    rcases hx : withdrawFee T who feeWithTip tip s with ⟨e | info, t⟩
    · rw [hx] at hcharged
      exact hcharged
    · rw [hx] at hcharged
      refine correctAndDepositFee_fit T corrected tip info _ ?_
      -- between the charge and its settlement the transaction may buy credit for anybody
      refine run_invariant_always (innerStep T) (CreditsFit T) ?_ body t hcharged
      intro u inner hu
      cases inner with
      | purchase origin beneficiary amount => exact purchase_fit T origin beneficiary amount u hu
      | foreign f => exact creditsFit_of_same T u _ rfl hu

theorem run_fit (L : Λ) (ops : List (Op A O Λ)) :
    CreditsFit T (run (step T) (emptyStorage L) ops) := by
  refine run_invariant_always (step T) (CreditsFit T) (step_fit T) ops _ ?_
  intro a
  change (StorageMap.empty : StorageMap A ℕ).getD a 0 ≤ _
  rw [StorageMap.getD_empty]
  exact Nat.zero_le _

/-- A charge that fails after it has taken the credit puts back what it took. -/
theorem withdrawPrepaid_error (hF : T.currency.HonoursChecks) (who : A) (fee tip : ℕ)
    (s t : Storage A Λ) (e : Error) (hwho : who ≠ T.palletAccount) (hne : fee ≠ 0)
    (hle : fee ≤ remainingCredit s who) (hfit : remainingCredit s who ≤ T.balanceMax)
    (h : withdrawPrepaid T who fee tip s = (.error e, t)) :
    t.runtime = s.runtime ∧ ∀ a, remainingCredit t a = remainingCredit s a := by
  by_cases htip : NativeCovers T s who tip
  · rcases hpot : potWithdraw T s.runtime fee with _ | ⟨feeCredit, L⟩
    · obtain ⟨events, hres⟩ := withdrawPrepaid_no_pot T who fee tip s htip hne hle hpot
      rw [hres] at h
      cases h
      refine ⟨rfl, fun a => ?_⟩
      change remainingCredit (setCredit who _ (setCredit who _ s)) a = _
      rw [remainingCredit_setCredit, remainingCredit_setCredit]
      by_cases ha : a = who
      · -- the addition cannot clamp, since the sum is the credit there was before
        have hsum : saturatingAdd T (remainingCredit s who-fee) fee = remainingCredit s who := by
          unfold saturatingAdd
          omega
        rw [if_pos ha, hsum, ha]
      · rw [if_neg ha, if_neg ha]
    · obtain ⟨info, u, hres⟩ :=
        withdrawPrepaid_paid T hF who fee tip s hwho htip hne hle feeCredit L hpot
      rw [hres] at h
      cases h
  · rw [withdrawPrepaid_no_tip T who fee tip s htip] at h
    cases h
    exact ⟨rfl, fun a => rfl⟩

/-- A failed charge leaves all credits and the whole runtime, so all balances and the total
issuance, as they were. -/
theorem failed_charge_changes_nothing (hF : T.currency.HonoursChecks) (s t : Storage A Λ)
    (who : A) (feeWithTip tip : ℕ) (e : Error) (hwho : who ≠ T.palletAccount)
    (hfit : CreditsFit T s)
    (h : withdrawFee T who feeWithTip tip s = (.error e, t)) :
    t.runtime = s.runtime ∧ ∀ a, remainingCredit t a = remainingCredit s a := by
  by_cases hfee : feeWithTip = 0
  · subst hfee
    rw [withdrawFee_zero] at h
    cases h
  by_cases hcredit : PaysFromCredit s who feeWithTip tip
  · rw [withdrawFee_prepaid T who feeWithTip tip s hcredit] at h
    exact withdrawPrepaid_error T hF who _ tip s t e hwho hcredit.1 hcredit.2 (hfit who) h
  · rw [withdrawFee_native T who feeWithTip tip s hfee hcredit] at h
    rcases withdrawExact_cases T who feeWithTip .preserve s with hx | ⟨credit, L, -, hx⟩
    · rw [hx] at h
      cases h
      exact ⟨rfl, fun a => rfl⟩
    · rw [hx] at h
      cases h

theorem failed_charge_changes_nothing_dustedPot :
    (withdrawFee mock 2 5 0 dustedPot).1 = .error .payment ∧
      remainingCredit (withdrawFee mock 2 5 0 dustedPot).2 2 = 5 := by
  have herror : (withdrawFee mock 2 5 0 dustedPot).1 = .error .payment := by rfl
  have hsame := failed_charge_changes_nothing mock (Ledger.balanced_liquidity 10).honoursChecks
    dustedPot _ 2 5 0 .payment (by decide) (run_fit mock mockLedger dustTrace)
    (Prod.ext herror rfl)
  exact ⟨herror, (hsame.2 2).trans (by decide +kernel)⟩

end NuloChain.Prepaid
