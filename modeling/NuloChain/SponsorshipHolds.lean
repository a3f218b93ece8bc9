import NuloChain.SponsorshipRuns

/-! The two hold reasons of the pallet against its records: what is on hold is what the
records say, on every account and in every run. -/
namespace NuloChain.Sponsorship
open Frame
set_option linter.unusedSectionVars false
variable {A O R Λ : Type} [DecidableEq A] [DecidableEq R] (T : Config A O R Λ)

/-- The amount the record of `b`, if there is one, keeps on hold. -/
def sponsoredHold (m : StorageMap A (SponsorshipRecord A)) (b : A) : ℕ :=
  (m.get b).elim 0 SponsorshipRecord.amount

/-- The deposits recorded for the sponsorships that name `a` as their sponsor. -/
def depositsOf (m : StorageMap A (SponsorshipRecord A)) (deposits : StorageMap A ℕ) (a : A) : ℕ :=
  m.sum fun b record => if record.sponsor = a then deposits.getD b 0 else 0

/-- The held balances and the three maps agree. -/
structure HoldsMatch (s : T.State) : Prop where
  sponsorship : ∀ b, T.currency.balanceOnHold s.runtime (sponsorshipHoldReason T) b =
    sponsoredHold s.sponsorships b
  unsponsored : ∀ b, s.sponsorships.get b = none → s.storageDepositHeld.getD b 0 = 0
  deposits : ∀ a, T.currency.balanceOnHold s.runtime (storageDepositHoldReason T) a =
    depositsOf s.sponsorships s.storageDepositHeld a

/-- A change of the runtime that uses neither of the pallet's hold reasons. -/
def LeavesHolds (s : T.State) (f : Λ → Λ) : Prop :=
  ∀ reason a, T.currency.balanceOnHold (f s.runtime) (T.holdReason reason) a =
    T.currency.balanceOnHold s.runtime (T.holdReason reason) a

theorem sponsorship_ne_storageDeposit :
    sponsorshipHoldReason T ≠ storageDepositHoldReason T := by
  intro h
  have hr := T.holdReason_injective h
  cases hr

theorem depositsOf_congr (m : StorageMap A (SponsorshipRecord A)) (d d' : StorageMap A ℕ) (a : A)
    (h : ∀ b record, m.get b = some record → d'.getD b 0 = d.getD b 0) :
    depositsOf m d' a = depositsOf m d a := by
  apply StorageMap.sum_congr
  intro b record hb
  rw [h b record hb]

theorem depositedMap_getD (beneficiary b : A) (d : StorageMap A ℕ)
    (h : d.getD beneficiary 0 = 0) :
    (depositedMap T beneficiary d).getD b 0 =
      if b = beneficiary then T.sponsorshipStorageDeposit else d.getD b 0 := by
  unfold depositedMap
  by_cases hz : T.sponsorshipStorageDeposit = 0
  · rw [if_neg (not_not.mpr hz), hz]
    by_cases hb : b = beneficiary
    · rw [if_pos hb, hb, h]
    · rw [if_neg hb]
  · rw [if_pos hz, StorageMap.getD_insert]

/-- A creation puts the amount and the deposit on hold, and nothing else. -/
theorem funded_onHold (hF : T.currency.ExactHolds) (hS : T.system.KeepsFunds T.currency)
    (s : T.State) (sponsor beneficiary : A) (amount : ℕ) (L : Λ)
    (h : Funded T s sponsor beneficiary amount L) (r : R) (a : A) :
    T.currency.balanceOnHold L r a = T.currency.balanceOnHold s.runtime r a +
      (if r = sponsorshipHoldReason T ∧ a = beneficiary then amount else 0) +
      (if r = storageDepositHoldReason T ∧ a = sponsor then T.sponsorshipStorageDeposit else 0) := by
  obtain ⟨L₁, hL₁, hdep⟩ := h
  have h₁ := hF.transferAndHold _ _ _ _ _ _ _ _ hL₁ r a
  -- the provider reference is added before anything is put on hold
  rw [hS.inc_hold] at h₁
  rcases hdep with ⟨-, hL⟩ | ⟨hz, rfl⟩
  · rw [hF.hold _ _ _ _ _ hL r a, h₁]
  · rw [h₁, hz, ite_self, add_zero]

/-- The same, read for each of the pallet's two reasons. -/
theorem funded_holds (hF : T.currency.ExactHolds) (hS : T.system.KeepsFunds T.currency)
    (s : T.State) (sponsor beneficiary : A) (amount : ℕ) (L : Λ)
    (h : Funded T s sponsor beneficiary amount L) (a : A) :
    T.currency.balanceOnHold L (sponsorshipHoldReason T) a =
        T.currency.balanceOnHold s.runtime (sponsorshipHoldReason T) a +
          (if a = beneficiary then amount else 0) ∧
      T.currency.balanceOnHold L (storageDepositHoldReason T) a =
        T.currency.balanceOnHold s.runtime (storageDepositHoldReason T) a +
          (if a = sponsor then T.sponsorshipStorageDeposit else 0) := by
  have hne := sponsorship_ne_storageDeposit T
  have hs := funded_onHold T hF hS s sponsor beneficiary amount L h (sponsorshipHoldReason T) a
  have hd := funded_onHold T hF hS s sponsor beneficiary amount L h (storageDepositHoldReason T) a
  simp only [hne, hne.symm, true_and, false_and, if_false, add_zero] at hs hd
  exact ⟨hs, hd⟩

/-- A revocation takes the amount and the recorded deposit off hold, and nothing else. -/
theorem refunded_onHold (hF : T.currency.ExactHolds) (hS : T.system.KeepsFunds T.currency)
    (s : T.State) (beneficiary : A) (record : SponsorshipRecord A) (L : Λ)
    (h : Refunded T s beneficiary record L) (r : R) (a : A) :
    T.currency.balanceOnHold L r a +
      (if r = storageDepositHoldReason T ∧ a = record.sponsor then
        s.storageDepositHeld.getD beneficiary 0 else 0) +
      (if r = sponsorshipHoldReason T ∧ a = beneficiary then record.amount else 0) =
      T.currency.balanceOnHold s.runtime r a := by
  obtain ⟨L₁, L₂, hL₁, hdep, hL⟩ := h
  -- whether or not the provider reference could be dropped, nothing on hold changes
  have hdec : T.currency.balanceOnHold L r a = T.currency.balanceOnHold L₂ r a := by
    rw [hL]
    rcases hp : T.system.decProviders beneficiary L₂ with _ | L₃
    · rfl
    · exact hS.dec_hold _ _ _ hp r a
  have h₁ := hF.transferOnHold _ _ _ _ _ _ _ hL₁ r a
  rw [hdec]
  rcases hdep with ⟨-, hrel⟩ | ⟨hz, rfl⟩
  · rw [hF.release _ _ _ _ _ hrel r a, h₁]
  · rw [hz, ite_self, add_zero, h₁]

/-- The same, read for each of the pallet's two reasons. -/
theorem refunded_holds (hF : T.currency.ExactHolds) (hS : T.system.KeepsFunds T.currency)
    (s : T.State) (beneficiary : A) (record : SponsorshipRecord A) (L : Λ)
    (h : Refunded T s beneficiary record L) (a : A) :
    T.currency.balanceOnHold L (sponsorshipHoldReason T) a +
        (if a = beneficiary then record.amount else 0) =
        T.currency.balanceOnHold s.runtime (sponsorshipHoldReason T) a ∧
      T.currency.balanceOnHold L (storageDepositHoldReason T) a +
        (if a = record.sponsor then s.storageDepositHeld.getD beneficiary 0 else 0) =
        T.currency.balanceOnHold s.runtime (storageDepositHoldReason T) a := by
  have hne := sponsorship_ne_storageDeposit T
  have hs := refunded_onHold T hF hS s beneficiary record L h (sponsorshipHoldReason T) a
  have hd := refunded_onHold T hF hS s beneficiary record L h (storageDepositHoldReason T) a
  simp only [hne, hne.symm, true_and, false_and, if_false, add_zero] at hs hd
  exact ⟨hs, hd⟩

section
variable {frozen totalOnHold : Λ → A → ℕ} (hF : T.currency.ExactBalances totalOnHold)
  (hS : T.system.KeepsFunds T.currency)
include hF hS

/-- Both holds come out of the free balance of the sponsor. -/
theorem funded_balance_le (s : T.State) (sponsor beneficiary : A) (amount : ℕ) (L : Λ)
    (h : Funded T s sponsor beneficiary amount L) (a : A) :
    T.currency.balance L a+(if a = sponsor then amount+T.sponsorshipStorageDeposit else 0) ≤
      T.currency.balance s.runtime a := by
  obtain ⟨L₁, hL₁, hdep⟩ := h
  have h₁ := hF.transferAndHold _ _ _ _ _ _ hL₁ a
  rw [hS.inc_balance] at h₁
  rcases hdep with ⟨-, hL⟩ | ⟨hz, rfl⟩
  · have h₂ := hF.hold_le _ _ _ _ _ hL a
    by_cases ha : a = sponsor
    · rw [if_pos ha] at h₁ h₂ ⊢
      omega
    · rw [if_neg ha] at h₁ h₂ ⊢
      omega
  · rw [hz, add_zero]
    exact h₁.le

/-- The sponsor can spare the deposit after it has paid the amount. -/
theorem deposit_leaves_minimum (hR : T.currency.ReducibleAbove frozen totalOnHold) (s : T.State)
    (sponsor beneficiary : A) (amount : ℕ) (L₁ : Λ)
    (hL₁ : T.currency.transferAndHold (sponsorshipHoldReason T) sponsor beneficiary amount .exact
      .preserve .polite (T.system.incProviders beneficiary s.runtime) = some L₁)
    (hne : T.sponsorshipStorageDeposit ≠ 0)
    (hspare : amount+T.sponsorshipStorageDeposit ≤
      T.currency.reducibleBalance s.runtime sponsor .preserve .polite) :
    T.currency.minimumBalance+T.sponsorshipStorageDeposit ≤ T.currency.balance L₁ sponsor := by
  have h₁ := hF.transferAndHold _ _ _ _ _ _ hL₁ sponsor
  rw [hS.inc_balance, if_pos rfl] at h₁
  rw [hR] at hspare
  omega

/-- The amount and the deposit leave the free balance of the sponsor, and no other; nothing is lost
as dust, since the sponsor can spare both. -/
theorem funded_balance (hR : T.currency.ReducibleAbove frozen totalOnHold) (s : T.State)
    (sponsor beneficiary : A) (amount : ℕ) (L : Λ) (h : Funded T s sponsor beneficiary amount L)
    (a : A) (hspare : a ≠ sponsor ∨ amount+T.sponsorshipStorageDeposit ≤
      T.currency.reducibleBalance s.runtime sponsor .preserve .polite) :
    T.currency.balance L a+(if a = sponsor then amount+T.sponsorshipStorageDeposit else 0) =
      T.currency.balance s.runtime a := by
  obtain ⟨L₁, hL₁, hdep⟩ := h
  have h₁ := hF.transferAndHold _ _ _ _ _ _ hL₁ a
  rw [hS.inc_balance] at h₁
  rcases hdep with ⟨hne, hL⟩ | ⟨hz, rfl⟩
  · by_cases ha : a = sponsor
    · have hleft := deposit_leaves_minimum T hF hS hR s sponsor beneficiary amount L₁ hL₁ hne
        (hspare.resolve_left (fun h => h ha))
      have h₂ := hF.hold _ _ _ _ _ hL a (Or.inr (ha ▸ hleft))
      rw [if_pos ha] at h₁ h₂ ⊢
      omega
    · have h₂ := hF.hold _ _ _ _ _ hL a (Or.inl ha)
      rw [if_neg ha] at h₁ h₂ ⊢
      omega
  · rw [hz, add_zero]
    exact h₁

end

/-- The two refunds arrive on the free balance of the sponsor, and no other changes, unless the
first one leaves dust. After it the sponsor has at least the amount, so the second one does not. -/
theorem refund_balances {totalOnHold : Λ → A → ℕ} (hF : T.currency.ExactReturns totalOnHold)
    (s : T.State) (b : A) (record : SponsorshipRecord A) (L₁ L₂ : Λ)
    (hclear : T.currency.StaysClear totalOnHold s.runtime b record.amount)
    (hsponsor : T.currency.minimumBalance ≤
      T.currency.balance s.runtime record.sponsor+record.amount)
    (hL₁ : T.currency.transferOnHold (sponsorshipHoldReason T) b record.sponsor record.amount
      .exact .free .polite s.runtime = some L₁)
    (hdep : (s.storageDepositHeld.getD b 0 ≠ 0 ∧
        T.currency.release (storageDepositHoldReason T) record.sponsor
          (s.storageDepositHeld.getD b 0) .exact L₁ = some L₂) ∨
      (s.storageDepositHeld.getD b 0 = 0 ∧ L₂ = L₁)) (a : A) :
    T.currency.balance L₂ a = T.currency.balance s.runtime a+
      (if a = record.sponsor then record.amount+s.storageDepositHeld.getD b 0 else 0) := by
  have hfirst : ∀ a, T.currency.balance L₁ a =
      T.currency.balance s.runtime a+if a = record.sponsor then record.amount else 0 := by
    intro a
    apply hF.transferOnHold _ _ _ _ _ _ hL₁ a
    by_cases ha : a = b
    · exact Or.inr (ha ▸ hclear)
    · exact Or.inl ha
  have h₁ := hfirst a
  rcases hdep with ⟨-, hL₂⟩ | ⟨hz, rfl⟩
  · have hkept := hfirst record.sponsor
    rw [if_pos rfl] at hkept
    have h₂ : T.currency.balance L₂ a = T.currency.balance L₁ a+
        if a = record.sponsor then s.storageDepositHeld.getD b 0 else 0 := by
      apply hF.release _ _ _ _ _ hL₂ a
      by_cases ha : a = record.sponsor
      · exact Or.inr (Or.inr (Or.inl (by rw [ha]; omega)))
      · exact Or.inl ha
    by_cases ha : a = record.sponsor
    · rw [if_pos ha] at h₁ h₂ ⊢
      omega
    · rw [if_neg ha] at h₁ h₂ ⊢
      omega
  · rw [hz, add_zero]
    exact h₁

theorem sponsored_holdsMatch (hF : T.currency.ExactHolds) (hS : T.system.KeepsFunds T.currency)
    (sponsor beneficiary : A) (amount : ℕ) (autoUnlock : AutoUnlockMode) (lease : Lease)
    (s t : T.State) (hs : HoldsMatch T s)
    (h : Sponsored T sponsor beneficiary amount autoUnlock lease s t) : HoldsMatch T t := by
  have hzero := hs.unsponsored beneficiary h.fresh
  have hdeposit := fun b => depositedMap_getD T beneficiary b s.storageDepositHeld hzero
  constructor
  · intro b
    rw [(funded_holds T hF hS _ _ _ _ _ h.funded b).1, hs.sponsorship, h.sponsorships,
      sponsoredHold, sponsoredHold, StorageMap.get_insert]
    by_cases hb : b = beneficiary
    · simp [hb, h.fresh]
    · simp [hb]
  · intro b hb
    rw [h.sponsorships, StorageMap.get_insert] at hb
    by_cases hbb : b = beneficiary
    · simp [hbb] at hb
    · rw [if_neg hbb] at hb
      rw [h.storageDepositHeld, hdeposit, if_neg hbb]
      exact hs.unsponsored b hb
  · intro a
    -- the deposits of the old records are untouched; the new record brings its own
    have hrest : depositsOf s.sponsorships t.storageDepositHeld a =
        depositsOf s.sponsorships s.storageDepositHeld a := by
      apply depositsOf_congr
      intro b record hb
      rw [h.storageDepositHeld, hdeposit, if_neg]
      rintro rfl
      rw [h.fresh] at hb
      cases hb
    have hnew : t.storageDepositHeld.getD beneficiary 0 = T.sponsorshipStorageDeposit := by
      rw [h.storageDepositHeld, hdeposit, if_pos rfl]
    rw [(funded_holds T hF hS _ _ _ _ _ h.funded a).2, hs.deposits, ← hrest, h.sponsorships]
    simp only [depositsOf, StorageMap.sum_insert_new _ _ _ _ h.fresh, hnew, eq_comm (a := a)]

theorem revoked_holdsMatch (hF : T.currency.ExactHolds) (hS : T.system.KeepsFunds T.currency)
    (beneficiary : A) (record : SponsorshipRecord A) (L : Λ) (s t : T.State)
    (hs : HoldsMatch T s) (found : s.sponsorships.get beneficiary = some record)
    (refunded : Refunded T s beneficiary record L)
    (ht : SameFunds T (revokedStorage T beneficiary record L s) t) : HoldsMatch T t := by
  have hheld := refunded_holds T hF hS _ _ _ _ refunded
  have hmap : t.sponsorships = s.sponsorships.remove beneficiary := ht.sponsorships
  have hdep : t.storageDepositHeld = s.storageDepositHeld.remove beneficiary :=
    ht.storageDepositHeld
  have hrun : t.runtime = L := ht.runtime
  constructor
  · intro b
    have hb := (hheld b).1
    rw [hs.sponsorship, sponsoredHold] at hb
    rw [hrun, hmap, sponsoredHold, StorageMap.get_remove]
    by_cases hbb : b = beneficiary
    · subst hbb
      simp only [if_true, found, Option.elim_some, Option.elim_none] at hb ⊢
      omega
    · simpa [hbb] using hb
  · intro b hb
    rw [hdep, StorageMap.getD_remove]
    by_cases hbb : b = beneficiary
    · rw [if_pos hbb]
    · rw [hmap, StorageMap.get_remove, if_neg hbb] at hb
      rw [if_neg hbb]
      exact hs.unsponsored b hb
  · intro a
    have ha := (hheld a).2
    -- without the revoked record the deposit map may be read as it was before
    have hrest : depositsOf (s.sponsorships.remove beneficiary) t.storageDepositHeld a =
        depositsOf (s.sponsorships.remove beneficiary) s.storageDepositHeld a := by
      apply depositsOf_congr
      intro b r hb
      rw [hdep, StorageMap.getD_remove, if_neg]
      rintro rfl
      simp at hb
    have hsum := StorageMap.sum_remove s.sponsorships beneficiary record
      (fun b r => if r.sponsor = a then s.storageDepositHeld.getD b 0 else 0) found
    rw [hs.deposits] at ha
    rw [hrun, hmap, hrest]
    simp only [depositsOf, eq_comm (a := a)] at ha hsum ⊢
    omega

theorem policy_holdsMatch (caller beneficiary : A) (autoUnlock : AutoUnlockMode) (lease : Lease)
    (record : SponsorshipRecord A) (s t : T.State) (hs : HoldsMatch T s)
    (h : PolicySet T caller beneficiary autoUnlock lease record s t) : HoldsMatch T t := by
  constructor
  · intro b
    rw [h.runtime, hs.sponsorship, h.sponsorships, sponsoredHold, sponsoredHold,
      StorageMap.get_insert]
    by_cases hb : b = beneficiary
    · simp [hb, h.found]
    · simp [hb]
  · intro b hb
    rw [h.sponsorships, StorageMap.get_insert] at hb
    by_cases hbb : b = beneficiary
    · simp [hbb] at hb
    · rw [if_neg hbb] at hb
      rw [h.storageDepositHeld]
      exact hs.unsponsored b hb
  · intro a
    have hsum := StorageMap.sum_insert_over s.sponsorships beneficiary record
      { record with autoUnlock := autoUnlock, lease := lease }
      (fun b r => if r.sponsor = a then s.storageDepositHeld.getD b 0 else 0) h.found
    rw [h.runtime, hs.deposits, h.sponsorships, h.storageDepositHeld, depositsOf, depositsOf]
    -- the new policy keeps the sponsor, so both sums have the same terms
    exact (Nat.add_right_cancel hsum).symm

theorem sameFunds_holdsMatch (s t : T.State) (hs : HoldsMatch T s) (h : SameFunds T s t) :
    HoldsMatch T t := by
  constructor
  · rw [h.runtime, h.sponsorships]
    exact hs.sponsorship
  · rw [h.sponsorships, h.storageDepositHeld]
    exact hs.unsponsored
  · rw [h.runtime, h.sponsorships, h.storageDepositHeld]
    exact hs.deposits

theorem outcome_holdsMatch (hF : T.currency.ExactHolds) (hS : T.system.KeepsFunds T.currency)
    (act : Action A O) (s t : T.State) (hs : HoldsMatch T s) (h : Outcome T act s t) :
    HoldsMatch T t := by
  cases h with
  | idle => exact hs
  | sponsored sponsor beneficiary amount autoUnlock lease _ _ h =>
    exact sponsored_holdsMatch T hF hS _ _ _ _ _ s t hs h
  | revoked beneficiary record L event found refunded _ =>
    exact revoked_holdsMatch T hF hS _ _ _ s _ hs found refunded ⟨rfl, rfl, rfl, rfl⟩
  | policy origin caller beneficiary autoUnlock lease record _ _ _ h =>
    exact policy_holdsMatch T _ _ _ _ _ s t hs h

theorem environment_holdsMatch (s : T.State) (f : Λ → Λ) (hs : HoldsMatch T s)
    (h : LeavesHolds T s f) : HoldsMatch T { s with runtime := f s.runtime } := by
  constructor
  · intro b
    exact (h .sponsorship b).trans (hs.sponsorship b)
  · exact hs.unsponsored
  · intro a
    exact (h .storageDeposit a).trans (hs.deposits a)

theorem emptyStorage_holdsMatch (L : Λ)
    (hL : ∀ reason a, T.currency.balanceOnHold L (T.holdReason reason) a = 0) :
    HoldsMatch T (emptyStorage T L) := by
  constructor
  · intro b
    exact (hL .sponsorship b).trans (by simp [emptyStorage, sponsoredHold])
  · intro b _
    simp [emptyStorage]
  · intro a
    exact (hL .storageDeposit a).trans (by simp [emptyStorage, depositsOf])

/-- Operations by others leave the pallet's two hold reasons alone. -/
def RespectsHolds (s : T.State) (op : Op A O Λ) : Prop :=
  ∀ f, op = .environment f → LeavesHolds T s f

theorem run_holdsMatch (hF : T.currency.ExactHolds) (hS : T.system.KeepsFunds T.currency) (L : Λ)
    (hL : ∀ reason a, T.currency.balanceOnHold L (T.holdReason reason) a = 0)
    (ops : List (Op A O Λ)) (hops : Along (step T) (RespectsHolds T) (emptyStorage T L) ops) :
    HoldsMatch T (run (step T) (emptyStorage T L) ops) := by
  refine run_invariant (step T) (RespectsHolds T) (HoldsMatch T) ?_ ops _
    (emptyStorage_holdsMatch T L hL) hops
  intro u op hu hop
  exact step_preserves T (HoldsMatch T) (LeavesHolds T) (outcome_holdsMatch T hF hS)
    (sameFunds_holdsMatch T) (environment_holdsMatch T) u op hu hop

/-- In every run the amounts on hold under the pallet's two reasons are those of the records. -/
theorem holds_match_records (hF : T.currency.ExactHolds) (hS : T.system.KeepsFunds T.currency)
    (L : Λ) (hL : ∀ reason a, T.currency.balanceOnHold L (T.holdReason reason) a = 0)
    (ops : List (Op A O Λ)) (hops : Along (step T) (RespectsHolds T) (emptyStorage T L) ops) :
    let s := run (step T) (emptyStorage T L) ops
    (∀ b, T.currency.balanceOnHold s.runtime (sponsorshipHoldReason T) b =
        (s.sponsorships.get b).elim 0 SponsorshipRecord.amount) ∧
      (∀ b, s.sponsorships.get b = none → s.storageDepositHeld.getD b 0 = 0) ∧
      (∀ a, T.currency.balanceOnHold s.runtime (storageDepositHoldReason T) a =
        s.sponsorships.sum fun b record =>
          if record.sponsor = a then s.storageDepositHeld.getD b 0 else 0) := by
  intro s
  have hinv : HoldsMatch T s := run_holdsMatch T hF hS L hL ops hops
  exact ⟨hinv.sponsorship, hinv.unsponsored, hinv.deposits⟩

/-- One account sponsors two others and itself, and ends the first sponsorship again. -/
def holdsTrace : List (Op ℕ (RawOrigin ℕ) (Ledger ℕ HoldReason)) :=
  [.genesisBuild [⟨4, 2, 20, .disabled, .none⟩],
    .onInitialize 1,
    .entry (.call (.signed 1) (.sponsor 3 30 (.enabled .freeGeSponsored) (.until 7))),
    .environment (fun L => Ledger.setFree L 3 12),
    .entry (.call (.signed 1) (.sponsorMinimum 1 .disabled .none)),
    .entry (.call (.signed 4) (.unlock 2))]

theorem holdsTrace_respects :
    Along (step mock) (RespectsHolds mock) (emptyStorage mock mockLedger) holdsTrace := by
  refine ⟨?_, ?_, ?_, ?_, ?_, ?_, trivial⟩
  all_goals
    intro f hf
    cases hf
  -- only the change of a free balance is a step of the environment
  intro reason a
  exact congrFun (Ledger.setFree_held _ 3 a 12) reason

theorem holds_match_records_holdsTrace :
    mock.currency.balanceOnHold (run (step mock) (emptyStorage mock mockLedger) holdsTrace).runtime
        .storageDeposit 1 = 10 ∧
      ∀ b, mock.currency.balanceOnHold
          (run (step mock) (emptyStorage mock mockLedger) holdsTrace).runtime .sponsorship b =
        ((run (step mock) (emptyStorage mock mockLedger) holdsTrace).sponsorships.get b).elim 0
          SponsorshipRecord.amount :=
  ⟨by decide +kernel, (holds_match_records mock (Ledger.holds_exactHolds 10)
    (Ledger.system_keepsFunds 10) mockLedger (fun _ _ => rfl) holdsTrace holdsTrace_respects).1⟩

end NuloChain.Sponsorship
