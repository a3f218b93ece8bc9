import NuloChain.PrepaidBacking

/-! What the two fee pallets do to the runtime underneath. They reach it through the currency, the
provider counter and the handler of collected fees and in no other way, so what these keep is
kept by every purchase, every charge and every settlement. -/
namespace NuloChain.Prepaid
open Frame
set_option linter.unusedSectionVars false
variable {A O Λ : Type} [DecidableEq A] (T : Config A O Λ)

/-- What the pallets may ask of the runtime keeps `Inv`, where `Pays` says which accounts pay, and
`Spares` which fees the pallet account is asked for. -/
structure Confined (Inv : Λ → Prop) (Pays : A → Prop) (Spares : Λ → ℕ → Prop) : Prop where
  transfer : ∀ src n L L', Pays src → n ≠ 0 → Inv L →
    T.currency.transfer src T.palletAccount n .preserve L = some L' → Inv L'
  withdraw : ∀ who n L c L', Pays who → Inv L →
    T.currency.withdraw who n .exact .preserve .polite L = some (c, L') → Inv L'
  charge : ∀ n L c L', Spares L n → Inv L →
    T.currency.withdraw T.palletAccount n .exact .expendable .polite L = some (c, L') → Inv L'
  resolve : ∀ who n L L', n ≠ 0 → Inv L → T.currency.resolve who n L = some L' → Inv L'
  dropCredit : ∀ n L, Inv L → Inv (T.currency.dropCredit n L)
  incProviders : ∀ a L, Inv L → Inv (T.system.incProviders a L)
  onUnbalanceds : ∀ credits L, Inv L → Inv (T.onUnbalanceds credits L)

/-- If the charge is taken from credit, the fee is one that the pallet account can spare. -/
def SparesFee (Spares : Λ → ℕ → Prop) (s : Storage A Λ) (who : A) (feeWithTip tip : ℕ) : Prop :=
  feeWithTip-tip ≠ 0 → feeWithTip-tip ≤ remainingCredit s who → Spares s.runtime (feeWithTip-tip)

section
variable {T} {Inv : Λ → Prop} {Pays : A → Prop} {Spares : Λ → ℕ → Prop}
  (h : Confined T Inv Pays Spares)
include h

theorem ensurePalletAccount_confined (s : Storage A Λ) (hs : Inv s.runtime) :
    Inv (ensurePalletAccount T s).runtime := by
  unfold ensurePalletAccount
  split
  · exact hs
  · exact h.incProviders _ _ hs

theorem purchaseFor_confined (sponsor beneficiary : A) (amount : ℕ) (s : Storage A Λ)
    (hs : Inv s.runtime) (hsponsor : Pays sponsor) :
    Inv (purchaseFor T sponsor beneficiary amount s).2.runtime := by
  rcases Dispatch.transactional_storage (purchaseForBody T sponsor beneficiary amount) s with
    hid | ⟨u, hok⟩
  · rw [purchaseFor, hid]
    exact hs
  · change _ = (_, (purchaseFor T sponsor beneficiary amount s).2) at hok
    generalize (purchaseFor T sponsor beneficiary amount s).2 = t at hok
    simp only [purchaseForBody, depositEvent, Dispatch.bind_ok_iff, Dispatch.ensure_ok_iff,
      Dispatch.write_ok_iff, Dispatch.read_ok_iff, Dispatch.okOr_ok_iff] at hok
    obtain ⟨_, _, ⟨⟨hne, -⟩, rfl⟩, _, _, rfl, _, _, ⟨rfl, rfl⟩, L, _, ⟨hL, rfl⟩, _, _, rfl, _, _,
      rfl, _, _, ⟨rfl, rfl⟩, rfl⟩ := hok
    have hinit := ensurePalletAccount_confined h _ hs
    exact h.transfer sponsor amount _ L hsponsor hne hinit hL

theorem purchase_confined (origin : O) (beneficiary : A) (amount : ℕ) (s : Storage A Λ)
    (hs : Inv s.runtime) (horigin : ∀ sponsor, T.ensureSigned origin = some sponsor → Pays sponsor) :
    Inv (purchase T origin beneficiary amount s).2.runtime := by
  rcases Dispatch.transactional_storage (do
    let sponsor ← Dispatch.okOr (T.ensureSigned origin) .badOrigin
    purchaseFor T sponsor beneficiary amount) s with hid | ⟨u, hok⟩
  · rw [purchase, hid]
    exact hs
  · change _ = (_, (purchase T origin beneficiary amount s).2) at hok
    simp only [Dispatch.bind_ok_iff, Dispatch.okOr_ok_iff] at hok
    obtain ⟨sponsor, _, ⟨hsigned, rfl⟩, hfor⟩ := hok
    have hbought := purchaseFor_confined h sponsor beneficiary amount _ hs (horigin sponsor hsigned)
    rw [hfor] at hbought
    exact hbought

theorem withdrawExact_confined (who : A) (amount : ℕ) (s : Storage A Λ) (hs : Inv s.runtime)
    (hwho : Pays who) : Inv (withdrawExact T who amount .preserve s).2.runtime := by
  rcases withdrawExact_cases T who amount .preserve s with hno | ⟨credit, L, hL, hok⟩
  · rw [hno]
    exact hs
  · rw [hok]
    exact h.withdraw who amount _ credit L hwho hs hL

theorem prepaidTip_confined (who : A) (inclusionFee feeCredit tip : ℕ) (s : Storage A Λ)
    (hs : Inv s.runtime) (hwho : Pays who) :
    Inv (prepaidTip T who inclusionFee feeCredit tip s).2.runtime := by
  have htip : Inv (nativeCredit T who tip s).2.runtime := by
    unfold nativeCredit
    split
    · exact hs
    · have htaken := withdrawExact_confined h who tip s hs hwho
      rcases hx : withdrawExact T who tip .preserve s with ⟨e | credit, t⟩
      · simp only [bind, hx] at htaken ⊢
        exact htaken
      · simp only [bind, hx, Dispatch.pure_apply] at htaken ⊢
        exact htaken
  unfold prepaidTip
  rcases hx : nativeCredit T who tip s with ⟨e | credit, t⟩
  · rw [hx] at htip
    exact h.dropCredit feeCredit t.runtime htip
  · rw [hx] at htip
    exact htip

theorem withdrawPrepaid_confined (who : A) (inclusionFee tip : ℕ) (s : Storage A Λ)
    (hs : Inv s.runtime) (hwho : Pays who) (hne : inclusionFee ≠ 0)
    (hle : inclusionFee ≤ remainingCredit s who) (hspares : Spares s.runtime inclusionFee) :
    Inv (withdrawPrepaid T who inclusionFee tip s).2.runtime := by
  rcases canWithdrawNative_storage T who tip s with hcan | hcan
  · obtain ⟨t, ht, hrun, -⟩ := withdrawCredit_eq who inclusionFee s hne hle
    rcases hw : T.currency.withdraw T.palletAccount inclusionFee .exact .expendable .polite
        t.runtime with _ | ⟨feeCredit, L⟩
    · obtain ⟨u, hu, hurun, -⟩ := refundCredit_eq T who inclusionFee t
      have hres : (withdrawPrepaid T who inclusionFee tip s).2 = u := by
        simp [withdrawPrepaid, withdrawTip, bind, hcan, ht, Dispatch.read, hw, hu, Dispatch.fail]
      rw [hres, hurun, hrun]
      exact hs
    · have hres : (withdrawPrepaid T who inclusionFee tip s).2 =
          (prepaidTip T who inclusionFee feeCredit tip { t with runtime := L }).2 := by
        simp [withdrawPrepaid, withdrawTip, bind, hcan, ht, Dispatch.read, hw, Dispatch.write]
      rw [hres]
      rw [hrun] at hw
      exact prepaidTip_confined h who inclusionFee feeCredit tip _
        (h.charge inclusionFee _ feeCredit L hspares hs hw) hwho
  · have hres : (withdrawPrepaid T who inclusionFee tip s).2 = s := by
      simp [withdrawPrepaid, withdrawTip, bind, hcan]
    rw [hres]
    exact hs

theorem withdrawFee_confined (who : A) (feeWithTip tip : ℕ) (s : Storage A Λ) (hs : Inv s.runtime)
    (hwho : Pays who) (hspares : SparesFee Spares s who feeWithTip tip) :
    Inv (withdrawFee T who feeWithTip tip s).2.runtime := by
  by_cases hfee : feeWithTip = 0
  · rw [withdrawFee, if_pos hfee]
    exact hs
  by_cases hprepaid : feeWithTip-tip ≠ 0 ∧ feeWithTip-tip ≤ remainingCredit s who
  · rw [withdrawFee_prepaid T who feeWithTip tip s hprepaid]
    exact withdrawPrepaid_confined h who _ tip s hs hwho hprepaid.1 hprepaid.2
      (hspares hprepaid.1 hprepaid.2)
  · have htaken := withdrawExact_confined h who feeWithTip s hs hwho
    rw [withdrawFee_native T who feeWithTip tip s hfee hprepaid]
    rcases hx : withdrawExact T who feeWithTip .preserve s with ⟨e | credit, t⟩
    · rw [hx] at htaken
      exact htaken
    · rw [hx] at htaken
      exact htaken

theorem refundNativeFee_confined (who : A) (paidFee refund : ℕ) (s : Storage A Λ)
    (hs : Inv s.runtime) : Inv (refundNativeFee T who paidFee refund s).2.runtime := by
  unfold refundNativeFee
  split
  · exact hs
  · rename_i hne
    split
    · split
      · rename_i L hL
        exact h.resolve who refund _ L hne hs hL
      · exact hs
    · exact hs

theorem settleNativeFee_confined (who : A) (feeCredit : Option ℕ) (correctedFee : ℕ)
    (tipCredit : Option ℕ) (s : Storage A Λ) (hs : Inv s.runtime) :
    Inv (settleNativeFee T who feeCredit correctedFee tipCredit s).runtime := by
  unfold settleNativeFee
  split
  · exact h.onUnbalanceds _ _ (refundNativeFee_confined h who _ _ s hs)
  · exact h.onUnbalanceds _ _ hs

theorem settlePrepaidFee_confined (who : A) (feeCredit paidInclusionFee correctedFee : ℕ)
    (s : Storage A Λ) (hs : Inv s.runtime) :
    ∃ t, settlePrepaidFee T who feeCredit paidInclusionFee correctedFee s = (.ok (), t) ∧
      Inv t.runtime := by
  have hrefund : ∀ paidFee refund, ∃ n t, refundPrepaidFee T who paidFee refund s = (.ok n, t) ∧
      Inv t.runtime := by
    intro paidFee refund
    unfold refundPrepaidFee
    split
    · exact ⟨paidFee, s, rfl, hs⟩
    · rename_i hne
      rcases hr : T.currency.resolve T.palletAccount refund s.runtime with _ | L
      · exact ⟨paidFee+refund, s, by simp [bind, Dispatch.read, hr], hs⟩
      · obtain ⟨t, ht, hrun, -⟩ := refundCredit_eq T who refund { s with runtime := L }
        refine ⟨paidFee, t, by simp [bind, Dispatch.read, hr, Dispatch.write, ht], ?_⟩
        rw [hrun]
        exact h.resolve T.palletAccount refund _ L hne hs hr
  obtain ⟨n, t, ht, hinv⟩ := hrefund
    (split feeCredit (min correctedFee paidInclusionFee)).1
    (split feeCredit (min correctedFee paidInclusionFee)).2
  refine ⟨onUnbalanceds T [n] t, ?_, h.onUnbalanceds _ _ hinv⟩
  simp only [settlePrepaidFee, bind, ht, Dispatch.write]

theorem correctAndDepositFee_confined (corrected tip : ℕ) (info : LiquidityInfo A)
    (s : Storage A Λ) (hs : Inv s.runtime) :
    Inv (correctAndDepositFee T corrected tip info s).2.runtime := by
  cases info with
  | noCharge => exact hs
  | native who feeCredit tipCredit =>
    exact settleNativeFee_confined h who feeCredit (corrected-tip) tipCredit s hs
  | prepaid who paidInclusionFee feeCredit tipCredit =>
    obtain ⟨t, ht, hinv⟩ := settlePrepaidFee_confined h who feeCredit paidInclusionFee
      (corrected-tip) s hs
    simp only [correctAndDepositFee, bind, ht, Dispatch.write, Dispatch.read, depositEvent]
    exact h.onUnbalanceds _ _ hinv

end

end NuloChain.Prepaid
