import NuloChain.PrepaidReplay
import NuloChain.FrameAccount

/-! The credit of one account over whole runs. It comes from purchases made for that account
and goes into charges of transactions which that account pays; a refund gives back no more
than its own charge has taken. -/
namespace NuloChain.Prepaid
open Frame
set_option linter.unusedSectionVars false
variable {A O Λ : Type} [DecidableEq A] (T : Config A O Λ)

/-- What a purchase buys for `b`. -/
def boughtFor (b : A) (s : Storage A Λ) (origin : O) (beneficiary : A) (amount : ℕ) : ℤ :=
  if beneficiary = b ∧ (purchase T origin beneficiary amount s).1.isOk = true then amount else 0

def innerBought (b : A) (s : Storage A Λ) : Inner A O Λ → ℤ
  | .purchase origin beneficiary amount => boughtFor T b s origin beneficiary amount
  | .foreign _ => 0

/-- What an operation buys for `b`, on its own or in a dispatched call. -/
def bought (b : A) (s : Storage A Λ) : Op A O Λ → ℤ
  | .purchase origin beneficiary amount => boughtFor T b s origin beneficiary amount
  | .transaction who feeWithTip tip body _ =>
    match withdrawFee T who feeWithTip tip s with
    | (.ok _, t) => booked (innerStep T) (innerBought T b) t body
    | (.error _, _) => 0

/-- The inclusion fee that a transaction of `b` takes from its credit. -/
def spent (b : A) (s : Storage A Λ) : Op A O Λ → ℤ
  | .purchase _ _ _ => 0
  | .transaction who feeWithTip tip _ _ =>
    if who = b ∧ PaysFromCredit s who feeWithTip tip then (feeWithTip-tip : ℕ) else 0

/-- What a charge has taken from the credit of `b`. -/
def LiquidityInfo.takenFrom (b : A) : LiquidityInfo A → ℕ
  | .prepaid who _ feeCredit _ => if b = who then feeCredit else 0
  | .native _ _ _ => 0
  | .noCharge => 0

theorem remainingCredit_congr (s t : Storage A Λ) (h : t.prepaidCredits = s.prepaidCredits)
    (a : A) : remainingCredit t a = remainingCredit s a := by
  unfold remainingCredit
  rw [h]

/-! Purchases. -/

theorem purchase_credit (b : A) (origin : O) (beneficiary : A) (amount : ℕ) (s : Storage A Λ)
    (hs : CreditsFit T s) :
    remainingCredit s b ≤ remainingCredit (purchase T origin beneficiary amount s).2 b ∧
      (remainingCredit (purchase T origin beneficiary amount s).2 b : ℤ) ≤
        remainingCredit s b+boughtFor T b s origin beneficiary amount := by
  rcases h : purchase T origin beneficiary amount s with ⟨e | done, t⟩
  · rw [Dispatch.transactional_error _ _ _ _ h, boughtFor, h]
    simp [Except.isOk, Except.toBool]
  · obtain ⟨hcredits, -⟩ := purchase_ok T origin beneficiary amount s t h
    have hcredit : remainingCredit t b = if b = beneficiary then
        saturatingAdd T (remainingCredit s beneficiary) amount else remainingCredit s b := by
      rw [remainingCredit_congr _ t hcredits b]
      exact remainingCredit_setCredit s beneficiary b _
    dsimp only
    rw [hcredit, boughtFor, h]
    by_cases hb : b = beneficiary
    · subst hb
      have hfits := hs b
      simp only [if_true, true_and, Except.isOk, Except.toBool, saturatingAdd]
      omega
    · rw [if_neg hb, if_neg (fun hbuys => hb hbuys.1.symm)]
      omega

theorem innerStep_credit (b : A) (s : Storage A Λ) (inner : Inner A O Λ) (hs : CreditsFit T s) :
    remainingCredit s b ≤ remainingCredit (innerStep T s inner) b ∧
      (remainingCredit (innerStep T s inner) b : ℤ) ≤
        remainingCredit s b+innerBought T b s inner := by
  cases inner with
  | purchase origin beneficiary amount => exact purchase_credit T b origin beneficiary amount s hs
  | foreign f =>
    have hsame : remainingCredit (innerStep T s (.foreign f : Inner A O Λ)) b =
      remainingCredit s b := rfl
    have hnone : innerBought T b s (.foreign f : Inner A O Λ) = 0 := rfl
    omega

theorem innerStep_fit (s : Storage A Λ) (inner : Inner A O Λ) (hs : CreditsFit T s) :
    CreditsFit T (innerStep T s inner) := by
  cases inner with
  | purchase origin beneficiary amount => exact purchase_fit T origin beneficiary amount s hs
  | foreign f => exact creditsFit_of_same T s _ rfl hs

/-- A dispatched call only adds to credits, and to each what it buys for it. -/
theorem body_credit (b : A) (body : List (Inner A O Λ)) (s : Storage A Λ) (hs : CreditsFit T s) :
    remainingCredit s b ≤ remainingCredit (run (innerStep T) s body) b ∧
      (remainingCredit (run (innerStep T) s body) b : ℤ) ≤
        remainingCredit s b+booked (innerStep T) (innerBought T b) s body := by
  have halways : Along (innerStep T) (fun _ _ => True) s body :=
    along_of_forall (innerStep T) (fun _ => True) body s (fun _ _ => trivial)
  constructor
  · have hcredit := run_invariant (innerStep T) (fun _ _ => True)
      (fun u => CreditsFit T u ∧ remainingCredit s b ≤ remainingCredit u b) ?_ body s
      ⟨hs, Nat.le_refl _⟩ halways
    · exact hcredit.2
    · intro u inner hu _
      exact ⟨innerStep_fit T u inner hu.1, hu.2.trans (innerStep_credit T b u inner hu.1).1⟩
  · exact run_booked_le (innerStep T) (fun _ _ => True) (CreditsFit T)
      (fun u => (remainingCredit u b : ℤ)) (innerBought T b)
      (fun u inner hu _ => innerStep_fit T u inner hu)
      (fun u inner hu _ => (innerStep_credit T b u inner hu).2) body s hs halways

/-! Charges. -/

theorem nativeCredit_credits (who : A) (amount : ℕ) (s : Storage A Λ) :
    (nativeCredit T who amount s).2.prepaidCredits = s.prepaidCredits := by
  unfold nativeCredit
  split
  · rfl
  · rcases withdrawExact_cases T who amount .preserve s with h | ⟨credit, L, -, h⟩
    · rw [Dispatch.bind_of_error _ _ _ _ _ h]
    · rw [Dispatch.bind_of_ok _ _ _ _ _ h]
      rfl

theorem prepaidTip_credits (who : A) (inclusionFee feeCredit tip : ℕ) (s : Storage A Λ) :
    (prepaidTip T who inclusionFee feeCredit tip s).2.prepaidCredits = s.prepaidCredits := by
  have h := nativeCredit_credits T who tip s
  unfold prepaidTip
  rcases hx : nativeCredit T who tip s with ⟨e | credit, t⟩
  · rw [hx] at h
    exact h
  · rw [hx] at h
    exact h

/-- A charge to credit touches the credit of the payer only, and takes the fee or nothing. -/
theorem withdrawPrepaid_credit (who : A) (fee tip : ℕ) (s : Storage A Λ) (hs : CreditsFit T s)
    (hne : fee ≠ 0) (hle : fee ≤ remainingCredit s who) (b : A) :
    remainingCredit (withdrawPrepaid T who fee tip s).2 b = remainingCredit s b ∨
      (b = who ∧ remainingCredit (withdrawPrepaid T who fee tip s).2 b+fee =
        remainingCredit s b) := by
  by_cases htip : NativeCovers T s who tip
  · rcases hpot : potWithdraw T s.runtime fee with _ | ⟨feeCredit, L⟩
    · -- taken and given back
      obtain ⟨events, hres⟩ := withdrawPrepaid_no_pot T who fee tip s htip hne hle hpot
      left
      rw [hres]
      change remainingCredit (setCredit who _ (setCredit who _ s)) b = _
      rw [remainingCredit_setCredit, remainingCredit_setCredit]
      by_cases hb : b = who
      · have hfits := hs who
        rw [if_pos hb, hb, saturatingAdd, Nat.sub_add_cancel hle]
        omega
      · rw [if_neg hb, if_neg hb]
    · obtain ⟨events, hres⟩ := withdrawPrepaid_pot T who fee tip s htip hne hle feeCredit L hpot
      rw [hres, remainingCredit_congr _ _ (prepaidTip_credits T who fee feeCredit tip _) b]
      change remainingCredit (setCredit who _ s) b = _ ∨ (_ ∧
        remainingCredit (setCredit who _ s) b+fee = _)
      rw [remainingCredit_setCredit]
      by_cases hb : b = who
      · rw [if_pos hb, hb]
        exact Or.inr ⟨rfl, Nat.sub_add_cancel hle⟩
      · rw [if_neg hb]
        exact Or.inl rfl
  · rw [withdrawPrepaid_no_tip T who fee tip s htip]
    exact Or.inl rfl

theorem withdrawFee_credit (who : A) (feeWithTip tip : ℕ) (s : Storage A Λ) (hs : CreditsFit T s)
    (b : A) :
    remainingCredit (withdrawFee T who feeWithTip tip s).2 b = remainingCredit s b ∨
      (b = who ∧ PaysFromCredit s who feeWithTip tip ∧
        remainingCredit (withdrawFee T who feeWithTip tip s).2 b+(feeWithTip-tip) =
          remainingCredit s b) := by
  by_cases hfee : feeWithTip = 0
  · subst hfee
    rw [withdrawFee_zero]
    exact Or.inl rfl
  by_cases hcredit : PaysFromCredit s who feeWithTip tip
  · rw [withdrawFee_prepaid T who feeWithTip tip s hcredit]
    rcases withdrawPrepaid_credit T who _ tip s hs hcredit.1 hcredit.2 b with h | ⟨hb, h⟩
    · exact Or.inl h
    · exact Or.inr ⟨hb, hcredit, h⟩
  · left
    rw [withdrawFee_native T who feeWithTip tip s hfee hcredit]
    rcases withdrawExact_cases T who feeWithTip .preserve s with h | ⟨credit, L, -, h⟩
    · rw [h]
    · rw [h]
      rfl

/-- A refund adds to the credit of the payer only, and no more than the refund. -/
theorem refundPrepaidFee_credit (who : A) (paidFee refund : ℕ) (s : Storage A Λ)
    (hs : CreditsFit T s) (b : A) :
    ∃ n t, refundPrepaidFee T who paidFee refund s = (.ok n, t) ∧
      remainingCredit s b ≤ remainingCredit t b ∧
      remainingCredit t b ≤ remainingCredit s b+if b = who then refund else 0 := by
  unfold refundPrepaidFee
  by_cases hz : refund = 0
  · rw [if_pos hz]
    exact ⟨paidFee, s, rfl, Nat.le_refl _, Nat.le_add_right _ _⟩
  rw [if_neg hz]
  rcases hr : T.currency.resolve T.palletAccount refund s.runtime with _ | L
  · refine ⟨paidFee+refund, s, ?_, Nat.le_refl _, Nat.le_add_right _ _⟩
    simp only [bind, Dispatch.read, hr]
    rfl
  · obtain ⟨events, hrefund⟩ := refundCredit_ok T who refund { s with runtime := L } hz
    refine ⟨paidFee, { setCredit who (saturatingAdd T (remainingCredit s who) refund)
      { s with runtime := L } with events := events }, ?_, ?_⟩
    · simp only [bind, Dispatch.read, hr, Dispatch.write, hrefund]
      rfl
    · have hcredit : remainingCredit { setCredit who
          (saturatingAdd T (remainingCredit s who) refund) { s with runtime := L } with
          events := events } b = if b = who then saturatingAdd T (remainingCredit s who) refund
          else remainingCredit s b :=
        remainingCredit_setCredit { s with runtime := L } who b _
      rw [hcredit]
      by_cases hb : b = who
      · have hfits := hs who
        rw [if_pos hb, if_pos hb, hb, saturatingAdd]
        omega
      · rw [if_neg hb, if_neg hb]
        omega

/-- A settlement gives back to the payer no more than the charge has taken, and touches no
other credit. -/
theorem correctAndDepositFee_credit (corrected tip : ℕ) (info : LiquidityInfo A)
    (s : Storage A Λ) (hs : CreditsFit T s) (b : A) :
    remainingCredit s b ≤ remainingCredit (correctAndDepositFee T corrected tip info s).2 b ∧
      remainingCredit (correctAndDepositFee T corrected tip info s).2 b ≤
        remainingCredit s b+info.takenFrom b := by
  cases info with
  | noCharge => exact ⟨Nat.le_refl _, Nat.le_refl _⟩
  | native who feeCredit tipCredit =>
    have hsame : remainingCredit (correctAndDepositFee T corrected tip
        (.native who feeCredit tipCredit) s).2 b = remainingCredit s b :=
      remainingCredit_congr s _ (settleNativeFee_credits T who feeCredit _ tipCredit s) b
    rw [hsame]
    exact ⟨Nat.le_refl _, Nat.le_refl _⟩
  | prepaid who paidInclusionFee feeCredit tipCredit =>
    obtain ⟨n, t, ht, hless, hmore⟩ := refundPrepaidFee_credit T who
      (split feeCredit (min (corrected-tip) paidInclusionFee)).1
      (split feeCredit (min (corrected-tip) paidInclusionFee)).2 s hs b
    have hsettle : settlePrepaidFee T who feeCredit paidInclusionFee (corrected-tip) s =
        (.ok (), onUnbalanceds T [n] t) := by
      simp only [settlePrepaidFee, bind, ht, Dispatch.write]
    have hres : remainingCredit (correctAndDepositFee T corrected tip
        (.prepaid who paidInclusionFee feeCredit tipCredit) s).2 b = remainingCredit t b := by
      simp only [correctAndDepositFee, bind, hsettle, Dispatch.write, Dispatch.read, depositEvent]
      rfl
    -- what the split leaves to refund is a part of the credit taken
    have hpart : (split feeCredit (min (corrected-tip) paidInclusionFee)).2 ≤ feeCredit :=
      Nat.sub_le _ _
    rw [hres]
    refine ⟨hless, hmore.trans (Nat.add_le_add_left ?_ _)⟩
    simp only [LiquidityInfo.takenFrom]
    split
    · exact hpart
    · exact Nat.le_refl _

/-- A charge takes from the credit of its payer what the settlement may give back. -/
theorem withdrawFee_takenFrom (hF : T.currency.ExactMoves) (who : A) (feeWithTip tip : ℕ)
    (s t : Storage A Λ) (info : LiquidityInfo A) (hs : CreditsFit T s)
    (h : withdrawFee T who feeWithTip tip s = (.ok info, t)) (b : A) :
    remainingCredit t b+info.takenFrom b ≤ remainingCredit s b := by
  have hcharged := withdrawFee_credit T who feeWithTip tip s hs b
  rw [h] at hcharged
  dsimp only at hcharged
  rcases withdrawFee_ok T hF who feeWithTip tip s t info h with ⟨-, rfl⟩ | rfl |
    ⟨hcredit, tipCredit, L, events, rfl, -, rfl⟩
  · simp only [LiquidityInfo.takenFrom]
    omega
  · simp only [LiquidityInfo.takenFrom]
    omega
  · have hle := hcredit.2
    have hcredit : remainingCredit (chargedStorage who (feeWithTip-tip) L events s) b =
        if b = who then remainingCredit s who-(feeWithTip-tip) else remainingCredit s b :=
      remainingCredit_setCredit s who b _
    rw [hcredit]
    simp only [LiquidityInfo.takenFrom]
    by_cases hb : b = who
    · rw [if_pos hb, if_pos hb, hb]
      omega
    · rw [if_neg hb, if_neg hb]
      omega

/-- One operation: the credit of `b` loses what `b` spends at most, and gains what is bought for
it at most. -/
theorem step_credit (hF : T.currency.ExactMoves) (b : A) (s : Storage A Λ) (op : Op A O Λ)
    (hs : CreditsFit T s) :
    (remainingCredit s b : ℤ) ≤ remainingCredit (step T s op) b+spent b s op ∧
      (remainingCredit (step T s op) b : ℤ) ≤ remainingCredit s b+bought T b s op := by
  cases op with
  | purchase origin beneficiary amount =>
    obtain ⟨hless, hmore⟩ := purchase_credit T b origin beneficiary amount s hs
    refine ⟨?_, hmore⟩
    simp only [spent, step]
    omega
  | transaction who feeWithTip tip body corrected =>
    have hcharged := withdrawFee_credit T who feeWithTip tip s hs b
    have hfit := withdrawFee_fit T who feeWithTip tip s hs
    have hspent : (remainingCredit s b : ℤ) ≤
        remainingCredit (withdrawFee T who feeWithTip tip s).2 b+
          spent b s (.transaction who feeWithTip tip body corrected : Op A O Λ) := by
      simp only [spent]
      rcases hcharged with hsame | ⟨hb, hcredit, htaken⟩
      · split
        · omega
        · omega
      · rw [if_pos ⟨hb.symm, hcredit⟩]
        omega
    rcases hx : withdrawFee T who feeWithTip tip s with ⟨e | info, t⟩
    · rw [hx] at hcharged hspent
      have hstep : step T s (.transaction who feeWithTip tip body corrected : Op A O Λ) = t := by
        simp only [step, hx]
      have hnone : bought T b s (.transaction who feeWithTip tip body corrected : Op A O Λ) = 0 := by
        simp only [bought, hx]
      rw [hstep, hnone]
      refine ⟨hspent, ?_⟩
      dsimp only at hcharged
      rcases hcharged with hsame | ⟨-, -, htaken⟩
      · omega
      · omega
    · rw [hx] at hcharged hspent hfit
      have hstep : step T s (.transaction who feeWithTip tip body corrected : Op A O Λ) =
          (correctAndDepositFee T corrected tip info (run (innerStep T) t body)).2 := by
        simp only [step, hx]
      have hbuys : bought T b s (.transaction who feeWithTip tip body corrected : Op A O Λ) =
          booked (innerStep T) (innerBought T b) t body := by
        simp only [bought, hx]
      obtain ⟨hbodyLess, hbodyMore⟩ := body_credit T b body t hfit
      have hbodyFit := run_invariant_always (innerStep T) (CreditsFit T) (innerStep_fit T) body t
        hfit
      obtain ⟨hless, hmore⟩ := correctAndDepositFee_credit T corrected tip info _ hbodyFit b
      rw [hstep, hbuys]
      refine ⟨by dsimp only at hspent; omega, ?_⟩
      -- what a charge gives back it has taken before
      have hback := withdrawFee_takenFrom T hF who feeWithTip tip s t info hs hx b
      omega

/-- In every run the credit of an account falls by no more than the inclusion fees of the
transactions that this account pays itself, whatever others buy, pay or dispatch; and it rises
by no more than what is bought for it. -/
theorem credit_has_two_sources (hF : T.currency.ExactMoves) (s : Storage A Λ) (hs : CreditsFit T s)
    (ops : List (Op A O Λ)) (b : A) :
    (remainingCredit s b : ℤ) ≤
        remainingCredit (run (step T) s ops) b+booked (step T) (spent b) s ops ∧
      (remainingCredit (run (step T) s ops) b : ℤ) ≤
        remainingCredit s b+booked (step T) (bought T b) s ops := by
  have halways : Along (step T) (fun _ _ => True) s ops :=
    along_of_forall (step T) (fun _ => True) ops s (fun _ _ => trivial)
  constructor
  · have hless := run_booked_le (step T) (fun _ _ => True) (CreditsFit T)
      (fun u => -(remainingCredit u b : ℤ)) (spent b) (fun u op hu _ => step_fit T u op hu)
      ?_ ops s hs halways
    · omega
    · intro u op hu _
      have hstep := (step_credit T hF b u op hu).1
      omega
  · exact run_booked_le (step T) (fun _ _ => True) (CreditsFit T)
      (fun u => (remainingCredit u b : ℤ)) (bought T b) (fun u op hu _ => step_fit T u op hu)
      (fun u op hu _ => (step_credit T hF b u op hu).2) ops s hs halways

theorem credit_has_two_sources_chargeTrace :
    (remainingCredit (run (step mock) (emptyStorage mockLedger) chargeTrace) 2 : ℤ) = 30 ∧
      (30 : ℤ) ≤ 0+40 := by
  have hbought : booked (step mock) (bought mock 2) (emptyStorage mockLedger) chargeTrace = 40 := by
    decide +kernel
  have hend : remainingCredit (run (step mock) (emptyStorage mockLedger) chargeTrace) 2 = 30 := by
    decide +kernel
  have h := (credit_has_two_sources mock mock_lawful.moves (emptyStorage mockLedger)
    (run_fit mock mockLedger []) chargeTrace 2).2
  rw [hbought, hend] at h
  exact ⟨by rw [hend]; rfl, h⟩

end NuloChain.Prepaid
