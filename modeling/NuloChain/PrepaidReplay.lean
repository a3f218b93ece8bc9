import NuloChain.PrepaidSettlement
import NuloChain.FrameReplay

/-! The event log as an account book. Every change of a credit is logged with the amount and the
credit that remains, in the order in which it happens: also the taking and giving back of a
charge that fails, which is not rolled back. -/
namespace NuloChain.Prepaid
open Frame
set_option linter.unusedSectionVars false
variable {A O Λ : Type} [DecidableEq A] (T : Config A O Λ)

/-- The book with the credit of `who` set to what remains. -/
def Book.set (book : A → ℕ) (who : A) (remaining : ℕ) : A → ℕ := Function.update book who remaining

/-- What a reader of the log makes of one event; `none` if the event does not fit the book. -/
def readEvent (balanceMax : ℕ) (book : A → ℕ) : Event A → Option (A → ℕ)
  | .prepaidPurchased _ beneficiary amount remaining =>
    if remaining = min (book beneficiary+amount) balanceMax then
      some (Book.set book beneficiary remaining)
    else none
  | .prepaidFeeWithdrawn who amount remaining =>
    if amount ≠ 0 ∧ remaining+amount = book who then some (Book.set book who remaining) else none
  | .prepaidFeeRefunded who amount remaining =>
    if amount ≠ 0 ∧ remaining = min (book who+amount) balanceMax then
      some (Book.set book who remaining)
    else none
  | .prepaidFeePaid who _ _ remaining =>
    if remaining = saturatedIntoU128 (book who) then some book else none

/-- The new events of `t` lead the reader from the credits of `s` to those of `t`. -/
def Logged (s t : Storage A Λ) : Prop :=
  Replays (readEvent T.balanceMax) remainingCredit Storage.events s t

theorem logged_refl (s : Storage A Λ) : Logged T s s := replays_refl _ _ _ s

theorem logged_trans (s t u : Storage A Λ) (hst : Logged T s t) (htu : Logged T t u) :
    Logged T s u :=
  replays_trans _ _ _ s t u hst htu

theorem logged_of_same (s t : Storage A Λ) (hcredits : t.prepaidCredits = s.prepaidCredits)
    (hevents : t.events = s.events) : Logged T s t := by
  refine replays_of_same _ _ _ s t hevents ?_
  funext a
  unfold remainingCredit
  rw [hcredits]

/-- A credit that is written and logged. -/
theorem logged_entry (s t : Storage A Λ) (who : A) (n : ℕ) (e : Event A)
    (hcredits : t.prepaidCredits = (setCredit who n s).prepaidCredits)
    (hevents : t.events = s.events ++ [e])
    (hread : readEvent T.balanceMax (remainingCredit s) e =
      some (Book.set (remainingCredit s) who n)) : Logged T s t := by
  refine replays_entry _ _ _ s t e hevents ?_
  rw [hread]
  congr 1
  funext a
  have hcredit : remainingCredit t a = remainingCredit (setCredit who n s) a := by
    unfold remainingCredit
    rw [hcredits]
  rw [hcredit, remainingCredit_setCredit]
  unfold Book.set
  by_cases ha : a = who
  · rw [ha, if_pos rfl, Function.update_self]
  · rw [if_neg ha, Function.update_of_ne ha]

theorem withdrawCredit_logged (who : A) (amount : ℕ) :
    Dispatch.Follows (Logged T) (withdrawCredit who amount : Pallet A Λ Unit) := by
  intro s
  by_cases hz : amount = 0
  · rw [withdrawCredit, if_pos hz]
    exact logged_refl T s
  by_cases hle : amount ≤ remainingCredit s who
  · have h : withdrawCredit who amount s = (.ok (),
        { setCredit who (remainingCredit s who-amount) s with
          events := s.events ++
            [.prepaidFeeWithdrawn who amount (remainingCredit s who-amount)] }) := by
      simp [withdrawCredit, hz, bind, Dispatch.read, Dispatch.ensure, hle, Dispatch.write,
        depositEvent, setCredit]
    rw [h]
    refine logged_entry T s _ who _ _ rfl rfl ?_
    simp only [readEvent, if_pos (And.intro hz (Nat.sub_add_cancel hle))]
  · have h : withdrawCredit who amount s = (.error .payment, s) := by
      simp [withdrawCredit, hz, bind, Dispatch.read, Dispatch.ensure, hle, Dispatch.fail]
    rw [h]
    exact logged_refl T s

theorem remainingCredit_addCredit (who : A) (amount : ℕ) (s : Storage A Λ) :
    remainingCredit (addCredit T who amount s) who =
      saturatingAdd T (remainingCredit s who) amount := by
  change remainingCredit (setCredit who (saturatingAdd T (remainingCredit s who) amount) s) who = _
  rw [remainingCredit_setCredit, if_pos rfl]

theorem refundCredit_logged (who : A) (amount : ℕ) :
    Dispatch.Follows (Logged T) (refundCredit T who amount) := by
  intro s
  by_cases hz : amount = 0
  · rw [refundCredit, if_pos hz]
    exact logged_refl T s
  · have h : refundCredit T who amount s = (.ok (), { addCredit T who amount s with
        events := s.events ++ [.prepaidFeeRefunded who amount
          (remainingCredit (addCredit T who amount s) who)] }) := by
      rw [refundCredit, if_neg hz]
      rfl
    rw [h, remainingCredit_addCredit]
    refine logged_entry T s _ who (saturatingAdd T (remainingCredit s who) amount) _ rfl rfl ?_
    exact if_pos ⟨hz, rfl⟩

theorem purchaseFor_ok (sponsor beneficiary : A) (amount : ℕ) (s t : Storage A Λ)
    (h : purchaseFor T sponsor beneficiary amount s = (.ok (), t)) :
    t.prepaidCredits = (addCredit T beneficiary amount s).prepaidCredits ∧
      t.events = s.events ++ [.prepaidPurchased sponsor beneficiary amount
        (saturatingAdd T (remainingCredit s beneficiary) amount)] := by
  rw [purchaseFor, Dispatch.transactional_ok_iff] at h
  simp only [purchaseForBody, depositEvent, Dispatch.bind_ok_iff, Dispatch.ensure_ok_iff,
    Dispatch.write_ok_iff, Dispatch.read_ok_iff, Dispatch.okOr_ok_iff] at h
  obtain ⟨_, s₀, ⟨-, hs₀⟩, _, s₁, hs₁, _, _, ⟨rfl, rfl⟩, L, _, ⟨-, rfl⟩, _, s₂, hs₂, _, s₃,
    hs₃, r, s₃', ⟨hr, hs₃'⟩, ht⟩ := h
  rw [hs₀] at hs₁
  rw [hs₃', hr] at ht
  -- the provider reference and the transfer touch neither the credits nor the log
  have hsame : s₂.prepaidCredits = s.prepaidCredits ∧ s₂.events = s.events := by
    rw [hs₂, hs₁]
    unfold ensurePalletAccount
    split
    · exact ⟨rfl, rfl⟩
    · exact ⟨rfl, rfl⟩
  have hcredit : remainingCredit s₂ beneficiary = remainingCredit s beneficiary := by
    unfold remainingCredit
    rw [hsame.1]
  constructor
  · rw [ht, hs₃]
    simp only [addCredit, hsame.1]
  · rw [ht, hs₃, remainingCredit_addCredit, hcredit, ← hsame.2]
    rfl

/-- A purchase that succeeds adds to the credit of its beneficiary and logs what it has become. -/
theorem purchase_ok (origin : O) (beneficiary : A) (amount : ℕ) (s t : Storage A Λ)
    (h : purchase T origin beneficiary amount s = (.ok (), t)) :
    t.prepaidCredits = (addCredit T beneficiary amount s).prepaidCredits ∧
      ∃ sponsor, t.events = s.events ++ [.prepaidPurchased sponsor beneficiary amount
        (saturatingAdd T (remainingCredit s beneficiary) amount)] := by
  simp only [purchase, Dispatch.transactional_ok_iff, Dispatch.bind_ok_iff,
    Dispatch.okOr_ok_iff] at h
  obtain ⟨sponsor, u, ⟨-, hu⟩, hfor⟩ := h
  rw [hu] at hfor
  obtain ⟨hcredits, hevents⟩ := purchaseFor_ok T sponsor beneficiary amount s t hfor
  exact ⟨hcredits, sponsor, hevents⟩

theorem purchase_logged (origin : O) (beneficiary : A) (amount : ℕ) :
    Dispatch.Follows (Logged T) (purchase T origin beneficiary amount) := by
  intro s
  rcases h : purchase T origin beneficiary amount s with ⟨e | done, t⟩
  · rw [Dispatch.transactional_error _ _ _ _ h]
    exact logged_refl T s
  · obtain ⟨hcredits, sponsor, hevents⟩ := purchase_ok T origin beneficiary amount s t h
    refine logged_entry T s t beneficiary _ _ hcredits hevents ?_
    exact if_pos rfl

/-- What moves balances only leaves the book as it is. -/
theorem withdrawExact_logged (who : A) (amount : ℕ) (p : Preservation) :
    Dispatch.Follows (Logged T) (withdrawExact T who amount p) := by
  intro s
  rcases withdrawExact_cases T who amount p s with h | ⟨credit, L, -, h⟩
  · rw [h]
    exact logged_refl T s
  · rw [h]
    exact logged_of_same T s _ rfl rfl

theorem nativeCredit_logged (who : A) (amount : ℕ) :
    Dispatch.Follows (Logged T) (nativeCredit T who amount) := by
  unfold nativeCredit
  split
  · exact (Dispatch.readOnly_pure _).follows _ (logged_refl T)
  · exact Dispatch.follows_bind _ (logged_trans T) _ _ (withdrawExact_logged T who amount _)
      (fun credit => (Dispatch.readOnly_pure _).follows _ (logged_refl T))

theorem prepaidTip_logged (who : A) (inclusionFee feeCredit tip : ℕ) :
    Dispatch.Follows (Logged T) (prepaidTip T who inclusionFee feeCredit tip) := by
  intro s
  have h := nativeCredit_logged T who tip s
  unfold prepaidTip
  rcases hx : nativeCredit T who tip s with ⟨e | credit, t⟩
  · rw [hx] at h
    exact logged_trans T s t _ h (logged_of_same T t _ rfl rfl)
  · rw [hx] at h
    exact h

theorem withdrawPrepaid_logged (who : A) (inclusionFee tip : ℕ) :
    Dispatch.Follows (Logged T) (withdrawPrepaid T who inclusionFee tip) := by
  have hcheck : Dispatch.ReadOnly (withdrawTip T who tip) := by
    intro s
    rcases canWithdrawNative_storage T who tip s with h | h
    · rw [withdrawTip, h]
    · rw [withdrawTip, h]
  refine Dispatch.follows_bind _ (logged_trans T) _ _ (hcheck.follows _ (logged_refl T))
    (fun _ => ?_)
  refine Dispatch.follows_bind _ (logged_trans T) _ _ (withdrawCredit_logged T who inclusionFee)
    (fun _ => ?_)
  refine Dispatch.follows_bind _ (logged_trans T) _ _
    (Dispatch.readOnly_read.follows _ (logged_refl T)) (fun r => ?_)
  split
  · exact Dispatch.follows_bind _ (logged_trans T) _ _ (fun s => logged_of_same T s _ rfl rfl)
      (fun _ => prepaidTip_logged T who inclusionFee _ tip)
  -- both the taking and the giving back are in the log
  · exact Dispatch.follows_bind _ (logged_trans T) _ _ (refundCredit_logged T who inclusionFee)
      (fun _ => (Dispatch.readOnly_fail _).follows _ (logged_refl T))

theorem withdrawFee_logged (who : A) (feeWithTip tip : ℕ) :
    Dispatch.Follows (Logged T) (withdrawFee T who feeWithTip tip) := by
  unfold withdrawFee
  split
  · exact (Dispatch.readOnly_pure _).follows _ (logged_refl T)
  refine Dispatch.follows_bind _ (logged_trans T) _ _
    (Dispatch.readOnly_read.follows _ (logged_refl T)) (fun s => ?_)
  split
  · exact withdrawPrepaid_logged T who _ tip
  · exact Dispatch.follows_bind _ (logged_trans T) _ _ (withdrawExact_logged T who feeWithTip _)
      (fun credit => (Dispatch.readOnly_pure _).follows _ (logged_refl T))

theorem refundPrepaidFee_logged (who : A) (paidFee refund : ℕ) :
    Dispatch.Follows (Logged T) (refundPrepaidFee T who paidFee refund) := by
  unfold refundPrepaidFee
  split
  · exact (Dispatch.readOnly_pure _).follows _ (logged_refl T)
  refine Dispatch.follows_bind _ (logged_trans T) _ _
    (Dispatch.readOnly_read.follows _ (logged_refl T)) (fun s => ?_)
  split
  · refine Dispatch.follows_bind _ (logged_trans T) _ _ (fun s => logged_of_same T s _ rfl rfl)
      (fun _ => ?_)
    exact Dispatch.follows_bind _ (logged_trans T) _ _ (refundCredit_logged T who refund)
      (fun _ => (Dispatch.readOnly_pure _).follows _ (logged_refl T))
  · exact (Dispatch.readOnly_pure _).follows _ (logged_refl T)

/-- The last event of a prepaid charge reports the credit as it is. -/
theorem prepaidFeePaid_logged (who : A) (actualFee tip : ℕ) :
    Dispatch.Follows (Logged T) (do
      let s ← Dispatch.read
      depositEvent (.prepaidFeePaid who actualFee tip
        (saturatedIntoU128 (remainingCredit s who))) : Pallet A Λ Unit) := by
  intro s
  refine replays_entry _ _ _ s _ (.prepaidFeePaid who actualFee tip
    (saturatedIntoU128 (remainingCredit s who))) rfl ?_
  exact if_pos rfl

theorem settleNativeFee_events (who : A) (feeCredit : Option ℕ) (correctedFee : ℕ)
    (tipCredit : Option ℕ) (s : Storage A Λ) :
    (settleNativeFee T who feeCredit correctedFee tipCredit s).events = s.events := by
  unfold settleNativeFee
  split
  · rename_i credit
    obtain ⟨back, L, -, -, h⟩ := refundNativeFee_eq T who (min credit correctedFee)
      (credit-correctedFee) s
    change (refundNativeFee T who _ _ s).2.events = _
    rw [h]
  · rfl

theorem correctAndDepositFee_logged (corrected tip : ℕ) (info : LiquidityInfo A) :
    Dispatch.Follows (Logged T) (correctAndDepositFee T corrected tip info) := by
  have hcollect : ∀ credits, Dispatch.Follows (Logged T)
      (Dispatch.write (onUnbalanceds T credits) : Pallet A Λ Unit) :=
    fun credits s => logged_of_same T s _ rfl rfl
  cases info with
  | noCharge => exact (Dispatch.readOnly_pure _).follows _ (logged_refl T)
  | native who feeCredit tipCredit =>
    exact fun s => logged_of_same T s _ (settleNativeFee_credits T who _ _ _ s)
      (settleNativeFee_events T who _ _ _ s)
  | prepaid who paidInclusionFee feeCredit tipCredit =>
    refine Dispatch.follows_bind _ (logged_trans T) _ _ (Dispatch.follows_bind _ (logged_trans T)
      _ _ (refundPrepaidFee_logged T who _ _) (fun paid => hcollect _)) (fun _ => ?_)
    refine Dispatch.follows_bind _ (logged_trans T) _ _ (hcollect _) (fun _ => ?_)
    exact prepaidFeePaid_logged T who _ _

theorem innerStep_logged (s : Storage A Λ) (inner : Inner A O Λ) :
    Logged T s (innerStep T s inner) := by
  cases inner with
  | purchase origin beneficiary amount => exact purchase_logged T origin beneficiary amount s
  | foreign f => exact logged_of_same T s _ rfl rfl

theorem step_logged (s : Storage A Λ) (op : Op A O Λ) : Logged T s (step T s op) := by
  cases op with
  | purchase origin beneficiary amount => exact purchase_logged T origin beneficiary amount s
  | transaction who feeWithTip tip body corrected =>
    have hcharged := withdrawFee_logged T who feeWithTip tip s
    simp only [step]
    rcases hx : withdrawFee T who feeWithTip tip s with ⟨e | info, t⟩
    · rw [hx] at hcharged
      exact hcharged
    · rw [hx] at hcharged
      have hbody := run_relation (innerStep T) (Logged T) (logged_refl T) (logged_trans T)
        (innerStep_logged T) body t
      have hsettled := correctAndDepositFee_logged T corrected tip info (run (innerStep T) t body)
      exact logged_trans T s t _ hcharged (logged_trans T t _ _ hbody hsettled)

/-- From any state on, the events alone determine the credits: a reader who starts with the
credits of the first state accepts every event of the run and ends with those of the last. -/
theorem credit_log_replays (s : Storage A Λ) (ops : List (Op A O Λ)) :
    ∃ new, (run (step T) s ops).events = s.events ++ new ∧
      new.foldlM (readEvent T.balanceMax) (remainingCredit s) =
        some (remainingCredit (run (step T) s ops)) :=
  run_relation (step T) (Logged T) (logged_refl T) (logged_trans T) (step_logged T) ops s

end NuloChain.Prepaid
