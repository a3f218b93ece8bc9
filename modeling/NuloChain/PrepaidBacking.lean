import NuloChain.PrepaidModel
import NuloChain.FrameRun
import NuloChain.FrameBalances

/-! Whether the credit that has been sold is covered by the pallet account. Every path of a
charge moves credit and balance by the same amount, except that a withdrawal which leaves
the pallet account below the existential deposit also loses the remainder as dust. -/
namespace NuloChain.Prepaid
open Frame
set_option linter.unusedSectionVars false
variable {A O Λ : Type} [DecidableEq A] (T : Config A O Λ)

/-- The credit of all accounts together. -/
def totalCredit (s : Storage A Λ) : ℕ := s.prepaidCredits.sum fun _ credit => credit

/-- The free balance of the pallet account. -/
def pot (s : Storage A Λ) : ℕ := T.currency.balance s.runtime T.palletAccount

def Backed (s : Storage A Λ) : Prop := totalCredit s ≤ pot T s

/-- What is relied on outside the two pallets: exact moves with removal of dust, and a fee
handler that takes nothing from the pallet account. -/
structure Lawful : Prop where
  moves : T.currency.ExactMoves
  inc : T.system.KeepsBalances T.currency.toInspect
  handler : ∀ credits L, T.currency.balance L T.palletAccount ≤
    T.currency.balance (T.onUnbalanceds credits L) T.palletAccount

/-- The storage with the credit of `who` set to `n`. -/
def setCredit (who : A) (n : ℕ) (s : Storage A Λ) : Storage A Λ :=
  { s with prepaidCredits := s.prepaidCredits.insert who n }

theorem totalCredit_setCredit (s : Storage A Λ) (who : A) (n : ℕ) :
    totalCredit (setCredit who n s)+remainingCredit s who = totalCredit s+n := by
  have h := StorageMap.sum_insert s.prepaidCredits who n (fun _ credit => credit)
  have hold : (s.prepaidCredits.get who).elim 0 (fun credit => credit) = remainingCredit s who := by
    unfold remainingCredit StorageMap.getD
    cases s.prepaidCredits.get who with
    | none => rfl
    | some credit => rfl
  rw [hold] at h
  exact h

theorem totalCredit_addCredit (s : Storage A Λ) (who : A) (amount : ℕ) :
    totalCredit (addCredit T who amount s) ≤ totalCredit s+amount := by
  have h := totalCredit_setCredit s who (saturatingAdd T (remainingCredit s who) amount)
  have hsat : saturatingAdd T (remainingCredit s who) amount ≤ remainingCredit s who+amount :=
    Nat.min_le_left _ _
  have heq : addCredit T who amount s =
      setCredit who (saturatingAdd T (remainingCredit s who) amount) s := rfl
  rw [heq]
  omega

theorem remainingCredit_setCredit (s : Storage A Λ) (who a : A) (n : ℕ) :
    remainingCredit (setCredit who n s) a = if a = who then n else remainingCredit s a :=
  StorageMap.getD_insert s.prepaidCredits who a n 0

/-- A refund of nothing is skipped, any other is added to the credit and logged. -/
theorem refundCredit_ok (who : A) (amount : ℕ) (s : Storage A Λ) (hne : amount ≠ 0) :
    ∃ events, refundCredit T who amount s = (.ok (),
      { setCredit who (saturatingAdd T (remainingCredit s who) amount) s with
        events := events }) := by
  unfold refundCredit
  rw [if_neg hne]
  exact ⟨_, rfl⟩

theorem refundCredit_eq (who : A) (amount : ℕ) (s : Storage A Λ) :
    ∃ t, refundCredit T who amount s = (.ok (), t) ∧ t.runtime = s.runtime ∧
      totalCredit t ≤ totalCredit s+amount := by
  unfold refundCredit
  split
  · exact ⟨s, rfl, rfl, Nat.le_add_right _ _⟩
  · exact ⟨_, rfl, rfl, totalCredit_addCredit T s who amount⟩

/-- A successful purchase pays at least what it credits. -/
theorem purchaseFor_backed (hT : Lawful T) (sponsor beneficiary : A) (amount : ℕ)
    (s : Storage A Λ) (hs : Backed T s) (hsponsor : sponsor ≠ T.palletAccount) :
    Backed T (purchaseFor T sponsor beneficiary amount s).2 := by
  rcases Dispatch.transactional_storage (purchaseForBody T sponsor beneficiary amount) s with
    hid | ⟨u, hok⟩
  · rw [purchaseFor, hid]
    exact hs
  · change _ = (_, (purchaseFor T sponsor beneficiary amount s).2) at hok
    generalize (purchaseFor T sponsor beneficiary amount s).2 = t at hok
    simp only [purchaseForBody, depositEvent, Dispatch.bind_ok_iff, Dispatch.ensure_ok_iff,
      Dispatch.write_ok_iff, Dispatch.read_ok_iff, Dispatch.okOr_ok_iff] at hok
    obtain ⟨_, s₀, ⟨-, hs₀⟩, _, s₁, hs₁, r, s₁', ⟨hr, hs₁'⟩, L, s₁'', ⟨hL, hs₁''⟩, _, s₂, hs₂, _, s₃,
      hs₃, _, s₃', ⟨-, hs₃'⟩, ht⟩ := hok
    rw [hs₀] at hs₁
    rw [hr] at hL
    rw [hs₁'', hs₁'] at hs₂
    rw [hs₃'] at ht
    -- adding the provider reference of the pallet account moves no balance
    have hinit : s₁.prepaidCredits = s.prepaidCredits ∧ pot T s₁ = pot T s := by
      rw [hs₁]
      unfold ensurePalletAccount
      split
      · exact ⟨rfl, rfl⟩
      · exact ⟨rfl, hT.inc _ _ _⟩
    have hpot : T.currency.balance L T.palletAccount = pot T s₁+amount :=
      hT.moves.transfer_dst _ _ _ _ _ _ hL hsponsor
    have hcredit := totalCredit_addCredit T s₂ beneficiary amount
    have htotal : totalCredit s₂ = totalCredit s := by
      rw [hs₂]
      unfold totalCredit
      rw [hinit.1]
    have hend : totalCredit t = totalCredit s₃ ∧ pot T t = T.currency.balance L T.palletAccount := by
      rw [ht, hs₃, hs₂]
      exact ⟨rfl, rfl⟩
    have hbacked : totalCredit s ≤ pot T s := hs
    rw [← hs₃] at hcredit
    unfold Backed
    omega

theorem withdrawExact_cases (who : A) (amount : ℕ) (p : Preservation) (s : Storage A Λ) :
    withdrawExact T who amount p s = (.error .payment, s) ∨
      ∃ credit L, T.currency.withdraw who amount .exact p .polite s.runtime = some (credit, L) ∧
        withdrawExact T who amount p s = (.ok credit, { s with runtime := L }) := by
  rcases h : T.currency.withdraw who amount .exact p .polite s.runtime with _ | ⟨credit, L⟩
  · left
    simp [withdrawExact, bind, Dispatch.read, Dispatch.okOr, Dispatch.fail, h]
  · right
    refine ⟨credit, L, rfl, ?_⟩
    simp [withdrawExact, bind, Dispatch.read, Dispatch.okOr, Dispatch.write, h]

/-- A withdrawal from another account leaves the backing as it is. -/
theorem withdrawExact_backed (hT : Lawful T) (who : A) (amount : ℕ) (p : Preservation)
    (s : Storage A Λ) (hs : Backed T s) (hwho : who ≠ T.palletAccount) :
    Backed T (withdrawExact T who amount p s).2 := by
  rcases withdrawExact_cases T who amount p s with h | ⟨credit, L, hL, h⟩
  · rw [h]
    exact hs
  · rw [h]
    have hpot := hT.moves.withdraw_other _ _ _ _ _ _ _ hL T.palletAccount hwho.symm
    exact (Nat.le_of_eq hpot.symm).trans' hs

theorem nativeCredit_backed (hT : Lawful T) (who : A) (amount : ℕ) (s : Storage A Λ)
    (hs : Backed T s) (hwho : who ≠ T.palletAccount) :
    Backed T (nativeCredit T who amount s).2 := by
  unfold nativeCredit
  split
  · exact hs
  · have h := withdrawExact_backed T hT who amount .preserve s hs hwho
    rcases hx : withdrawExact T who amount .preserve s with ⟨e | credit, t⟩
    · simp only [bind, hx] at h ⊢
      exact h
    · simp only [bind, hx, Dispatch.pure_apply] at h ⊢
      exact h

theorem prepaidTip_backed (hT : Lawful T) (who : A) (inclusionFee feeCredit tip : ℕ)
    (s : Storage A Λ) (hs : Backed T s) (hwho : who ≠ T.palletAccount) :
    Backed T (prepaidTip T who inclusionFee feeCredit tip s).2 := by
  have h := nativeCredit_backed T hT who tip s hs hwho
  unfold prepaidTip
  rcases hx : nativeCredit T who tip s with ⟨e | credit, t⟩
  · rw [hx] at h
    -- the dropped fee credit changes the issuance, not the pallet account
    exact (Nat.le_of_eq (hT.moves.dropCredit _ _ _).symm).trans' h
  · rw [hx] at h
    exact h

/-- If the charge is taken from credit, the pallet account is left with nothing, with at
least the existential deposit or with something on hold, or no credit is left. -/
def LeavesNoDust (s : Storage A Λ) (who : A) (feeWithTip tip : ℕ) : Prop :=
  let inclusionFee := feeWithTip-tip
  inclusionFee ≠ 0 → inclusionFee ≤ remainingCredit s who → inclusionFee ≤ pot T s →
    pot T s = inclusionFee ∨ T.currency.minimumBalance ≤ pot T s-inclusionFee ∨
      T.currency.totalBalanceOnHold s.runtime T.palletAccount ≠ 0 ∨ totalCredit s = inclusionFee

instance (s : Storage A Λ) (who : A) (feeWithTip tip : ℕ) :
    Decidable (LeavesNoDust T s who feeWithTip tip) := by
  unfold LeavesNoDust
  infer_instance

theorem withdrawCredit_ok (who : A) (amount : ℕ) (s : Storage A Λ) (hne : amount ≠ 0)
    (hle : amount ≤ remainingCredit s who) :
    ∃ events, withdrawCredit who amount s =
      (.ok (), { setCredit who (remainingCredit s who-amount) s with events := events }) := by
  refine ⟨s.events ++ [.prepaidFeeWithdrawn who amount (remainingCredit s who-amount)], ?_⟩
  simp [withdrawCredit, hne, bind, Dispatch.read, Dispatch.ensure, hle, Dispatch.write,
    depositEvent, setCredit]

theorem withdrawCredit_eq (who : A) (amount : ℕ) (s : Storage A Λ) (hne : amount ≠ 0)
    (hle : amount ≤ remainingCredit s who) :
    ∃ t, withdrawCredit who amount s = (.ok (), t) ∧ t.runtime = s.runtime ∧
      totalCredit t+amount = totalCredit s := by
  have h := totalCredit_setCredit s who (remainingCredit s who-amount)
  obtain ⟨events, hres⟩ := withdrawCredit_ok who amount s hne hle
  refine ⟨_, hres, rfl, ?_⟩
  change totalCredit (setCredit who (remainingCredit s who-amount) s)+amount = totalCredit s
  omega

theorem canWithdrawNative_storage (who : A) (amount : ℕ) (s : Storage A Λ) :
    canWithdrawNative T who amount s = (.ok (), s) ∨
      canWithdrawNative T who amount s = (.error .payment, s) := by
  unfold canWithdrawNative
  split
  · exact Or.inl rfl
  · by_cases h : T.currency.canWithdraw s.runtime who amount = true
    · left
      simp [bind, Dispatch.read, Dispatch.ensure, h]
    · right
      simp [bind, Dispatch.read, Dispatch.ensure, Dispatch.fail, h]

/-- The free balance of the pallet account after the fee, when no dust is at stake. -/
theorem withdrawn_pot (hT : Lawful T) (s : Storage A Λ) (inclusionFee feeCredit : ℕ) (L : Λ)
    (hL : T.currency.withdraw T.palletAccount inclusionFee .exact .expendable .polite s.runtime =
      some (feeCredit, L))
    (hdust : pot T s = inclusionFee ∨ T.currency.minimumBalance ≤ pot T s-inclusionFee ∨
      T.currency.totalBalanceOnHold s.runtime T.palletAccount ≠ 0) :
    T.currency.balance L T.palletAccount = pot T s-inclusionFee := by
  obtain ⟨-, -, hpot⟩ := hT.moves.withdraw _ _ _ _ _ _ _ hL
  rw [hpot]
  change T.currency.afterDust s.runtime T.palletAccount (pot T s-inclusionFee) = _
  unfold Balanced.afterDust
  split
  · rename_i hc
    rcases hdust with h | h | h
    · omega
    · exact absurd hc.1 (Nat.not_lt.mpr h)
    · exact absurd hc.2 h
  · rfl

theorem withdrawPrepaid_backed (hT : Lawful T) (who : A) (feeWithTip tip : ℕ) (s : Storage A Λ)
    (hs : Backed T s) (hwho : who ≠ T.palletAccount) (hne : feeWithTip-tip ≠ 0)
    (hle : feeWithTip-tip ≤ remainingCredit s who) (hdust : LeavesNoDust T s who feeWithTip tip) :
    Backed T (withdrawPrepaid T who (feeWithTip-tip) tip s).2 := by
  have hbacked : totalCredit s ≤ pot T s := hs
  rcases canWithdrawNative_storage T who tip s with hcan | hcan
  · obtain ⟨t, ht, hrun, htotal⟩ := withdrawCredit_eq who (feeWithTip-tip) s hne hle
    have hpott : pot T t = pot T s := by rw [pot, hrun, pot]
    rcases hw : T.currency.withdraw T.palletAccount (feeWithTip-tip) .exact .expendable .polite
        t.runtime with _ | ⟨feeCredit, L⟩
    · -- the compensation path: the credit just taken is put back
      obtain ⟨u, hu, hurun, hutotal⟩ := refundCredit_eq T who (feeWithTip-tip) t
      have hres : (withdrawPrepaid T who (feeWithTip-tip) tip s).2 = u := by
        simp [withdrawPrepaid, withdrawTip, bind, hcan, ht, Dispatch.read, hw, hu, Dispatch.fail]
      rw [hres]
      have hpotu : pot T u = pot T t := by rw [pot, hurun, pot]
      unfold Backed
      omega
    · have hres : (withdrawPrepaid T who (feeWithTip-tip) tip s).2 =
          (prepaidTip T who (feeWithTip-tip) feeCredit tip { t with runtime := L }).2 := by
        simp [withdrawPrepaid, withdrawTip, bind, hcan, ht, Dispatch.read, hw, Dispatch.write]
      rw [hres]
      refine prepaidTip_backed T hT who _ feeCredit tip _ ?_ hwho
      change totalCredit t ≤ T.currency.balance L T.palletAccount
      have hcovered : feeWithTip-tip ≤ pot T t := (hT.moves.withdraw _ _ _ _ _ _ _ hw).2.1
      rw [hrun] at hw
      -- credit and pot go down by the same fee unless a remainder is removed with it
      rcases hdust hne hle (hpott ▸ hcovered) with h | h | h | hlast
      · rw [withdrawn_pot T hT s _ _ _ hw (Or.inl h)]
        omega
      · rw [withdrawn_pot T hT s _ _ _ hw (Or.inr (Or.inl h))]
        omega
      · rw [withdrawn_pot T hT s _ _ _ hw (Or.inr (Or.inr h))]
        omega
      · -- dust may be lost, but there is no credit left that it would have to cover
        omega
  · have hres : (withdrawPrepaid T who (feeWithTip-tip) tip s).2 = s := by
      simp [withdrawPrepaid, withdrawTip, bind, hcan]
    rw [hres]
    exact hs

/-- The charge goes to prepaid credit exactly if that covers a nonzero inclusion fee. -/
theorem withdrawFee_prepaid (who : A) (feeWithTip tip : ℕ) (s : Storage A Λ)
    (h : feeWithTip-tip ≠ 0 ∧ feeWithTip-tip ≤ remainingCredit s who) :
    withdrawFee T who feeWithTip tip s = withdrawPrepaid T who (feeWithTip-tip) tip s := by
  have hfee : feeWithTip ≠ 0 := by
    have hne := h.1
    omega
  unfold withdrawFee
  rw [if_neg hfee]
  change (ite _ _ _ : Pallet A Λ (LiquidityInfo A)) s = _
  rw [if_pos h]

theorem withdrawFee_native (who : A) (feeWithTip tip : ℕ) (s : Storage A Λ) (hfee : feeWithTip ≠ 0)
    (h : ¬ (feeWithTip-tip ≠ 0 ∧ feeWithTip-tip ≤ remainingCredit s who)) :
    withdrawFee T who feeWithTip tip s =
      match withdrawExact T who feeWithTip .preserve s with
      | (.ok credit, t) =>
        (.ok (.native who (some (split credit tip).2) (some (split credit tip).1)), t)
      | (.error e, t) => (.error e, t) := by
  unfold withdrawFee
  rw [if_neg hfee]
  change (ite _ _ _ : Pallet A Λ (LiquidityInfo A)) s = _
  rw [if_neg h]
  simp only [bind]
  rcases withdrawExact T who feeWithTip .preserve s with ⟨e | credit, t⟩
  · rfl
  · rfl

theorem withdrawFee_backed (hT : Lawful T) (who : A) (feeWithTip tip : ℕ) (s : Storage A Λ)
    (hs : Backed T s) (hwho : who ≠ T.palletAccount) (hdust : LeavesNoDust T s who feeWithTip tip) :
    Backed T (withdrawFee T who feeWithTip tip s).2 := by
  by_cases hfee : feeWithTip = 0
  · rw [withdrawFee, if_pos hfee]
    exact hs
  by_cases hprepaid : feeWithTip-tip ≠ 0 ∧ feeWithTip-tip ≤ remainingCredit s who
  · rw [withdrawFee_prepaid T who feeWithTip tip s hprepaid]
    exact withdrawPrepaid_backed T hT who feeWithTip tip s hs hwho hprepaid.1 hprepaid.2 hdust
  · have h := withdrawExact_backed T hT who feeWithTip .preserve s hs hwho
    rw [withdrawFee_native T who feeWithTip tip s hfee hprepaid]
    rcases hx : withdrawExact T who feeWithTip .preserve s with ⟨e | credit, t⟩
    · rw [hx] at h
      exact h
    · rw [hx] at h
      exact h

theorem withdrawPrepaid_info (who : A) (inclusionFee tip : ℕ) (s t : Storage A Λ)
    (info : LiquidityInfo A) (h : withdrawPrepaid T who inclusionFee tip s = (.ok info, t)) :
    ∃ feeCredit tipCredit, info = .prepaid who inclusionFee feeCredit tipCredit := by
  simp only [withdrawPrepaid, Dispatch.bind_ok_iff, Dispatch.read_ok_iff] at h
  obtain ⟨_, s₁, -, _, s₂, -, r, s₃, ⟨hr, -⟩, h⟩ := h
  rcases hw : T.currency.withdraw T.palletAccount inclusionFee .exact .expendable .polite
      r.runtime with _ | ⟨feeCredit, L⟩
  · simp only [hw, Dispatch.bind_ok_iff, Dispatch.fail] at h
    obtain ⟨_, _, -, h⟩ := h
    cases h
  · simp only [hw, Dispatch.bind_ok_iff, prepaidTip] at h
    obtain ⟨_, s₄, -, h⟩ := h
    rcases hx : nativeCredit T who tip s₄ with ⟨e | tipCredit, u⟩
    · simp [hx] at h
    · simp only [hx, Prod.mk.injEq, Except.ok.injEq] at h
      exact ⟨feeCredit, tipCredit, h.1.symm⟩

/-- The credits of a native charge carry the payer that was charged. -/
theorem withdrawFee_native_who (who w : A) (feeWithTip tip : ℕ) (s t : Storage A Λ)
    (feeCredit tipCredit : Option ℕ)
    (h : withdrawFee T who feeWithTip tip s = (.ok (.native w feeCredit tipCredit), t)) :
    w = who := by
  by_cases hfee : feeWithTip = 0
  · rw [withdrawFee, if_pos hfee] at h
    cases h
  by_cases hprepaid : feeWithTip-tip ≠ 0 ∧ feeWithTip-tip ≤ remainingCredit s who
  · rw [withdrawFee_prepaid T who feeWithTip tip s hprepaid] at h
    obtain ⟨_, _, hinfo⟩ := withdrawPrepaid_info T who _ tip s t _ h
    cases hinfo
  · rw [withdrawFee_native T who feeWithTip tip s hfee hprepaid] at h
    split at h
    · cases h
      rfl
    · cases h

theorem onUnbalanceds_backed (hT : Lawful T) (credits : List ℕ) (s : Storage A Λ)
    (hs : Backed T s) : Backed T (onUnbalanceds T credits s) :=
  Nat.le_trans hs (hT.handler credits s.runtime)

theorem refundNativeFee_backed (hT : Lawful T) (who : A) (paidFee refund : ℕ) (s : Storage A Λ)
    (hs : Backed T s) (hwho : who ≠ T.palletAccount) :
    Backed T (refundNativeFee T who paidFee refund s).2 := by
  unfold refundNativeFee
  split
  · exact hs
  · split
    · split
      · rename_i L hL
        have hpot := hT.moves.resolve_other _ _ _ _ hL T.palletAccount hwho.symm
        exact (Nat.le_of_eq hpot.symm).trans' hs
      · exact hs
    · exact hs

/-- A refund pays the pallet account first and credits the payer by the same amount. -/
theorem refundPrepaidFee_backed (hT : Lawful T) (who : A) (paidFee refund : ℕ)
    (s : Storage A Λ) (hs : Backed T s) :
    ∃ n t, refundPrepaidFee T who paidFee refund s = (.ok n, t) ∧ Backed T t := by
  unfold refundPrepaidFee
  split
  · exact ⟨paidFee, s, rfl, hs⟩
  · rcases hr : T.currency.resolve T.palletAccount refund s.runtime with _ | L
    · exact ⟨paidFee+refund, s, by simp [bind, Dispatch.read, hr], hs⟩
    · obtain ⟨t, ht, hrun, htotal⟩ := refundCredit_eq T who refund { s with runtime := L }
      refine ⟨paidFee, t, by simp [bind, Dispatch.read, hr, Dispatch.write, ht], ?_⟩
      -- the pot is refilled before the credit is given back, by the same amount
      have hpot := hT.moves.resolve _ _ _ _ hr
      have hbacked : totalCredit s ≤ T.currency.balance s.runtime T.palletAccount := hs
      change totalCredit t ≤ T.currency.balance t.runtime T.palletAccount
      rw [hrun, hpot]
      exact Nat.le_trans htotal (Nat.add_le_add_right hbacked refund)

theorem correctAndDepositFee_backed (hT : Lawful T) (corrected tip : ℕ) (info : LiquidityInfo A)
    (s : Storage A Λ) (hs : Backed T s)
    (hwho : ∀ w feeCredit tipCredit, info = .native w feeCredit tipCredit → w ≠ T.palletAccount) :
    Backed T (correctAndDepositFee T corrected tip info s).2 := by
  cases info with
  | noCharge => exact hs
  | native who feeCredit tipCredit =>
    change Backed T (settleNativeFee T who feeCredit (corrected-tip) tipCredit s)
    unfold settleNativeFee
    split
    · exact onUnbalanceds_backed T hT _ _
        (refundNativeFee_backed T hT who _ _ s hs (hwho who _ _ rfl))
    · exact onUnbalanceds_backed T hT _ s hs
  | prepaid who paidInclusionFee feeCredit tipCredit =>
    obtain ⟨n, t, ht, htbacked⟩ := refundPrepaidFee_backed T hT who
      (split feeCredit (min (corrected-tip) paidInclusionFee)).1
      (split feeCredit (min (corrected-tip) paidInclusionFee)).2 s hs
    have hsettle : settlePrepaidFee T who feeCredit paidInclusionFee (corrected-tip) s =
        (.ok (), onUnbalanceds T [n] t) := by
      simp only [settlePrepaidFee, bind, ht, Dispatch.write]
    simp only [correctAndDepositFee, bind, hsettle, Dispatch.write, Dispatch.read, depositEvent]
    exact onUnbalanceds_backed T hT _ _ (onUnbalanceds_backed T hT _ t htbacked)

/-- What a dispatched call can do: purchase credit, or change the rest of the runtime. -/
inductive Inner (A O Λ : Type)
  | purchase (origin : O) (beneficiary : A) (amount : ℕ)
  | foreign (f : Λ → Λ)

def innerStep (s : Storage A Λ) : Inner A O Λ → Storage A Λ
  | .purchase origin beneficiary amount => (purchase T origin beneficiary amount s).2
  | .foreign f => { s with runtime := f s.runtime }

/-- The pallet account does not sign, and nothing is taken from it. -/
def TakesNothing (s : Storage A Λ) : Inner A O Λ → Prop
  | .purchase origin _ _ => T.ensureSigned origin ≠ some T.palletAccount
  | .foreign f => pot T s ≤ T.currency.balance (f s.runtime) T.palletAccount

/-- A purchase on its own, or a charged transaction: `withdraw_fee`, the dispatched call and
`correct_and_deposit_fee` with the fee that the call turned out to cost. -/
inductive Op (A O Λ : Type)
  | purchase (origin : O) (beneficiary : A) (amount : ℕ)
  | transaction (who : A) (feeWithTip tip : ℕ) (body : List (Inner A O Λ)) (corrected : ℕ)

def step (s : Storage A Λ) : Op A O Λ → Storage A Λ
  | .purchase origin beneficiary amount => (purchase T origin beneficiary amount s).2
  | .transaction who feeWithTip tip body corrected =>
    match withdrawFee T who feeWithTip tip s with
    | (.error _, t) => t
    | (.ok info, t) =>
      (correctAndDepositFee T corrected tip info (run (innerStep T) t body)).2

/-- The pallet account signs nothing, and no dispatched call takes anything from it. -/
def LeavesPot (s : Storage A Λ) : Op A O Λ → Prop
  | .purchase origin _ _ => T.ensureSigned origin ≠ some T.palletAccount
  | .transaction who feeWithTip tip body _ => who ≠ T.palletAccount ∧
    Along (innerStep T) (TakesNothing T) (withdrawFee T who feeWithTip tip s).2 body

/-- No charge leaves dust on the pallet account. -/
def ChargesWithoutDust (s : Storage A Λ) : Op A O Λ → Prop
  | .purchase _ _ _ => True
  | .transaction who feeWithTip tip _ _ => LeavesNoDust T s who feeWithTip tip

theorem purchase_backed (hT : Lawful T) (origin : O) (beneficiary : A) (amount : ℕ)
    (s : Storage A Λ) (hs : Backed T s) (horigin : T.ensureSigned origin ≠ some T.palletAccount) :
    Backed T (purchase T origin beneficiary amount s).2 := by
  rcases Dispatch.transactional_storage (do
    let sponsor ← Dispatch.okOr (T.ensureSigned origin) .badOrigin
    purchaseFor T sponsor beneficiary amount) s with hid | ⟨u, hok⟩
  · rw [purchase, hid]
    exact hs
  · change _ = (_, (purchase T origin beneficiary amount s).2) at hok
    simp only [Dispatch.bind_ok_iff, Dispatch.okOr_ok_iff] at hok
    obtain ⟨sponsor, s₁, ⟨hsigned, hs₁⟩, hfor⟩ := hok
    have hsponsor : sponsor ≠ T.palletAccount := fun he => horigin (he ▸ hsigned)
    have h := purchaseFor_backed T hT sponsor beneficiary amount s₁ (hs₁ ▸ hs) hsponsor
    rw [hfor] at h
    exact h

theorem innerStep_backed (hT : Lawful T) (s : Storage A Λ) (inner : Inner A O Λ)
    (hs : Backed T s) (h : TakesNothing T s inner) : Backed T (innerStep T s inner) := by
  cases inner with
  | purchase origin beneficiary amount =>
    exact purchase_backed T hT origin beneficiary amount s hs h
  | foreign f => exact Nat.le_trans hs h

theorem step_backed (hT : Lawful T) (s : Storage A Λ) (op : Op A O Λ) (hs : Backed T s)
    (hop : LeavesPot T s op ∧ ChargesWithoutDust T s op) : Backed T (step T s op) := by
  cases op with
  | purchase origin beneficiary amount =>
    exact purchase_backed T hT origin beneficiary amount s hs hop.1
  | transaction who feeWithTip tip body corrected =>
    obtain ⟨⟨hwho, hbody⟩, hdust⟩ := hop
    have hcharged := withdrawFee_backed T hT who feeWithTip tip s hs hwho hdust
    simp only [step]
    rcases hx : withdrawFee T who feeWithTip tip s with ⟨e | info, t⟩
    · rw [hx] at hcharged
      exact hcharged
    · rw [hx] at hcharged hbody
      have hdispatched := run_invariant (innerStep T) (TakesNothing T) (Backed T)
        (innerStep_backed T hT) body t hcharged hbody
      refine correctAndDepositFee_backed T hT corrected tip info _ hdispatched ?_
      intro w feeCredit tipCredit hinfo
      rw [hinfo] at hx
      exact (withdrawFee_native_who T who w feeWithTip tip s t feeCredit tipCredit hx).symm ▸ hwho

/-- Storage before the first purchase. -/
def emptyStorage (L : Λ) : Storage A Λ where
  prepaidCredits := StorageMap.empty
  palletAccountInitialized := false
  runtime := L
  collected := []
  events := []

/-- In every run in which no charge leaves dust on the pallet account, the credit of all
accounts together is covered by the free balance of the pallet account. -/
theorem prepaid_credit_is_backed (hT : Lawful T) (L : Λ) (ops : List (Op A O Λ))
    (hpot : Along (step T) (LeavesPot T) (emptyStorage L) ops)
    (hdust : Along (step T) (ChargesWithoutDust T) (emptyStorage L) ops) :
    let s := run (step T) (emptyStorage L) ops
    (s.prepaidCredits.sum fun _ credit => credit) ≤
      T.currency.balance s.runtime T.palletAccount := by
  have hstart : Backed T (emptyStorage L) := by
    change (StorageMap.empty : StorageMap A ℕ).sum _ ≤ _
    rw [StorageMap.sum_empty]
    exact Nat.zero_le _
  exact run_invariant (step T) _ (Backed T) (step_backed T hT) ops (emptyStorage L) hstart
    (along_and (step T) _ _ ops (emptyStorage L) hpot hdust)

/-- A runtime with an existential deposit of ten, pallet account zero and a handler that
burns the collected fees, as the runtime's own handler does. -/
def mock : Config ℕ (RawOrigin ℕ) (Ledger ℕ Unit) where
  currency := Ledger.balanced 10
  system := Ledger.system 10
  ensureSigned := RawOrigin.ensureSigned
  onUnbalanceds := fun _ L => L
  palletAccount := 0
  minPurchase := 1
  balanceMax := 2^128-1

theorem mock_lawful : Lawful mock where
  moves := Ledger.balanced_exactMoves 10
  inc := Ledger.system_keepsBalances 10
  handler := fun _ _ => Nat.le_refl _

def mockLedger : Ledger ℕ Unit := Ledger.endowed [(1, 500), (2, 100)]

/-- A purchase of forty, and a charge of twenty with a tip of five, ten of which come back
although the call itself buys more credit. -/
def chargeTrace : List (Op ℕ (RawOrigin ℕ) (Ledger ℕ Unit)) :=
  [.purchase (.signed 1) 2 40, .transaction 2 25 5 [.purchase (.signed 1) 1 15] 15]

theorem chargeTrace_leavesPot :
    Along (step mock) (LeavesPot mock) (emptyStorage mockLedger) chargeTrace := by
  refine ⟨?_, ⟨by decide, ?_, trivial⟩, trivial⟩
  · change (some 1 : Option ℕ) ≠ some 0
    decide
  · change (some 1 : Option ℕ) ≠ some 0
    decide

theorem chargeTrace_withoutDust :
    Along (step mock) (ChargesWithoutDust mock) (emptyStorage mockLedger) chargeTrace := by
  refine ⟨trivial, ?_, trivial⟩
  change LeavesNoDust mock (step mock (emptyStorage mockLedger) (.purchase (.signed 1) 2 40)) 2 25 5
  decide +kernel

theorem prepaid_credit_is_backed_chargeTrace :
    mock.currency.balance (run (step mock) (emptyStorage mockLedger) chargeTrace).runtime 0 = 45 ∧
      ((run (step mock) (emptyStorage mockLedger) chargeTrace).prepaidCredits.sum
        fun _ credit => credit) ≤
        mock.currency.balance (run (step mock) (emptyStorage mockLedger) chargeTrace).runtime 0 :=
  ⟨by decide +kernel, prepaid_credit_is_backed mock mock_lawful mockLedger chargeTrace
    chargeTrace_leavesPot chargeTrace_withoutDust⟩

/-- Fifteen are bought and a fee of ten is charged: the five that are left are dust. -/
def dustTrace : List (Op ℕ (RawOrigin ℕ) (Ledger ℕ Unit)) :=
  [.purchase (.signed 1) 2 15, .transaction 2 10 0 [] 10]

theorem dust_leaves_credit_unbacked :
    Along (step mock) (LeavesPot mock) (emptyStorage mockLedger) dustTrace ∧
      ¬ ((run (step mock) (emptyStorage mockLedger) dustTrace).prepaidCredits.sum
          (fun _ credit => credit) ≤
        mock.currency.balance (run (step mock) (emptyStorage mockLedger) dustTrace).runtime
          mock.palletAccount) := by
  refine ⟨⟨?_, ⟨by decide, trivial⟩, trivial⟩, by decide +kernel⟩
  change (some 1 : Option ℕ) ≠ some 0
  decide

end NuloChain.Prepaid
