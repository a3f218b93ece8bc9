import NuloChain.SponsorshipHolds
import NuloChain.SponsorshipLedger
import NuloChain.SponsorshipEntries
import NuloChain.FrameBooks

/-! Ending a sponsorship right after it was created. Each of the writes of the creation has its
counterpart, and what the creation finds in the storage is such that the counterpart is exact:
a fresh account is in no index and has no deposit, and a sum that stands for funds on hold does
not saturate. Only the number of active sponsorships has no funds behind it. -/
namespace NuloChain.Sponsorship
open Frame
set_option linter.unusedSectionVars false
variable {A O R Λ : Type} [DecidableEq A] [DecidableEq R] (T : Config A O R Λ)

/-! The records against the deposits and the ledger, whatever the caps are. -/

/-- Deposits are kept for sponsored accounts only, and no ledger entry says more than the
records of its account. -/
structure Accounted (s : T.State) : Prop where
  deposits : ∀ b, s.sponsorships.get b = none → s.storageDepositHeld.get b = none
  amounts : ∀ a, (s.sponsorLedger.getD a {}).activeAmount ≤ amountOf s.sponsorships a

theorem sponsored_accounted (sponsor beneficiary : A) (amount : ℕ) (autoUnlock : AutoUnlockMode)
    (lease : Lease) (s t : T.State) (hs : Accounted T s)
    (h : Sponsored T sponsor beneficiary amount autoUnlock lease s t) : Accounted T t := by
  constructor
  · intro b hb
    rw [h.sponsorships, StorageMap.get_insert] at hb
    by_cases hbb : b = beneficiary
    · rw [if_pos hbb] at hb
      cases hb
    · rw [if_neg hbb] at hb
      have hold := hs.deposits b hb
      rw [h.storageDepositHeld, depositedMap]
      split
      · rw [StorageMap.get_insert_ne _ _ _ _ hbb]
        exact hold
      · exact hold
  · intro a
    have hold := hs.amounts a
    rw [h.sponsorLedger, StorageMap.getD_insert, h.sponsorships, amountOf,
      StorageMap.sum_insert_new _ _ _ _ h.fresh]
    change (s.sponsorLedger.getD a {}).activeAmount ≤ s.sponsorships.sum _ at hold
    by_cases ha : a = sponsor
    · subst ha
      have hcharged := (chargedLedger_active T s a amount).1
      rw [if_pos rfl, if_pos rfl]
      change _ ≤ s.sponsorships.sum _+amount
      omega
    · rw [if_neg ha, if_neg (Ne.symm ha)]
      omega

theorem revoked_accounted (beneficiary : A) (record : SponsorshipRecord A) (L : Λ) (s : T.State)
    (hs : Accounted T s) (found : s.sponsorships.get beneficiary = some record) :
    Accounted T (revokedStorage T beneficiary record L s) := by
  constructor
  · intro b hb
    change (s.sponsorships.remove beneficiary).get b = none at hb
    change (s.storageDepositHeld.remove beneficiary).get b = none
    rw [StorageMap.get_remove] at hb ⊢
    by_cases hbb : b = beneficiary
    · rw [if_pos hbb]
    · rw [if_neg hbb] at hb ⊢
      exact hs.deposits b hb
  · intro a
    have hold := hs.amounts a
    have hsum := StorageMap.sum_remove s.sponsorships beneficiary record
      (fun _ r => if r.sponsor = a then r.amount else 0) found
    change ((s.sponsorLedger.mutate record.sponsor {} _).getD a {}).activeAmount ≤
      (s.sponsorships.remove beneficiary).sum _
    change (s.sponsorLedger.getD a {}).activeAmount ≤ s.sponsorships.sum _ at hold
    rw [StorageMap.getD_mutate]
    by_cases ha : a = record.sponsor
    · subst ha
      rw [if_pos rfl] at hsum ⊢
      change (s.sponsorLedger.getD record.sponsor {}).activeAmount-record.amount ≤ _
      omega
    · rw [if_neg (Ne.symm ha)] at hsum
      rw [if_neg ha]
      omega

theorem outcome_accounted (act : Action A O) (s t : T.State) (hs : Accounted T s)
    (h : Outcome T act s t) : Accounted T t := by
  cases h with
  | idle => exact hs
  | sponsored sponsor beneficiary amount autoUnlock lease _ _ h =>
    exact sponsored_accounted T _ _ _ _ _ s t hs h
  | revoked beneficiary record L event found refunded _ =>
    have hrevoked := revoked_accounted T beneficiary record L s hs found
    exact ⟨hrevoked.deposits, hrevoked.amounts⟩
  | policy origin caller beneficiary autoUnlock lease record _ _ _ h =>
    constructor
    · intro b hb
      rw [h.sponsorships] at hb
      rw [h.storageDepositHeld]
      exact hs.deposits b (StorageMap.get_none_of_insert _ _ _ _ hb)
    · intro a
      rw [h.sponsorLedger, policySet_amountOf T _ _ _ _ _ s t h a]
      exact hs.amounts a

theorem run_accounted (L : Λ) (ops : List (Op A O Λ)) :
    Accounted T (run (step T) (emptyStorage T L) ops) := by
  refine run_invariant_always (step T) (Accounted T) ?_ ops _ ?_
  · intro s op hs
    refine step_preserves T (Accounted T) (fun _ _ => True) (outcome_accounted T) ?_ ?_ s op hs
      (fun _ _ => trivial)
    · intro u v hu h
      constructor
      · rw [h.sponsorships, h.storageDepositHeld]
        exact hu.deposits
      · rw [h.sponsorships, h.sponsorLedger]
        exact hu.amounts
    · intro u f hu _
      exact ⟨hu.deposits, hu.amounts⟩
  · constructor
    · intro b _
      exact StorageMap.get_empty b
    · intro a
      have hnone : (emptyStorage T L).sponsorLedger.getD a {} = {} := StorageMap.getD_empty a _
      rw [hnone]
      exact Nat.zero_le _

/-! The funds on their way there and back. -/

/-- What the pallet relies on in the currency and the reference counter for that. -/
structure UndoLaws (frozen totalOnHold : Λ → A → ℕ) : Prop where
  exactHolds : T.currency.ExactHolds
  exactBalances : T.currency.ExactBalances totalOnHold
  exactTotals : T.currency.ExactTotals totalOnHold
  reducibleAbove : T.currency.ReducibleAbove frozen totalOnHold
  keepsFunds : T.system.KeepsFunds T.currency
  keepsTotals : ∀ b L a, totalOnHold (T.system.incProviders b L) a = totalOnHold L a

section
variable {frozen totalOnHold : Λ → A → ℕ} (laws : UndoLaws T frozen totalOnHold)
include laws

/-- The sponsored amount is on hold on top of whatever else is. -/
theorem funded_total (s : T.State) (sponsor beneficiary : A) (amount : ℕ) (L : Λ)
    (h : Funded T s sponsor beneficiary amount L) :
    totalOnHold s.runtime beneficiary+amount ≤ totalOnHold L beneficiary := by
  obtain ⟨L₁, hL₁, hdep⟩ := h
  have h₁ := laws.exactTotals.transferAndHold _ _ _ _ _ _ _ _ hL₁ beneficiary
  rw [laws.keepsTotals, if_pos rfl] at h₁
  rcases hdep with ⟨-, hL⟩ | ⟨-, rfl⟩
  · have h₂ := laws.exactTotals.hold _ _ _ _ _ hL beneficiary
    omega
  · omega

/-- Both refunds arrive on the free balance of the sponsor, and no other changes. -/
theorem refunded_balances (s : T.State) (beneficiary : A) (record : SponsorshipRecord A) (L : Λ)
    (h : Refunded T s beneficiary record L)
    (hclear : T.currency.StaysClear totalOnHold s.runtime beneficiary record.amount)
    (hsponsor : T.currency.minimumBalance ≤
      T.currency.balance s.runtime record.sponsor+record.amount) (a : A) :
    T.currency.balance L a = T.currency.balance s.runtime a+
      (if a = record.sponsor then record.amount+s.storageDepositHeld.getD beneficiary 0 else 0) := by
  obtain ⟨L₁, L₂, hL₁, hdep, rfl⟩ := h
  have hpaid := refund_balances T laws.exactBalances.toExactReturns s beneficiary record L₁ L₂ hclear hsponsor hL₁
    hdep a
  rcases hdec : T.system.decProviders beneficiary L₂ with _ | L₃
  · exact hpaid
  · rw [Option.getD_some, laws.keepsFunds.dec_balance _ _ _ hdec a]
    exact hpaid

/-- The check on what the sponsor can spare counts both holds in full, unless their sum saturates,
and then there would not be so much of the currency. -/
theorem doSponsor_spares (sponsor beneficiary : A) (amount : ℕ) (autoUnlock : AutoUnlockMode)
    (lease : Lease) (emitEvent : Bool) (s t : T.State) (u : Unit)
    (h : doSponsor T sponsor beneficiary amount autoUnlock lease emitEvent s = (.ok u, t))
    (hissued : T.currency.balance s.runtime sponsor ≤ T.balanceMax) :
    amount+T.sponsorshipStorageDeposit ≤
      T.currency.reducibleBalance s.runtime sponsor .preserve .polite := by
  have hsponsored := doSponsor_ok T _ _ _ _ _ _ _ _ _ h
  have hspare := doSponsor_spare T _ _ _ _ _ _ _ _ _ h
  have htaken := funded_balance_le T laws.exactBalances laws.keepsFunds s sponsor beneficiary amount
    _ hsponsored.funded sponsor
  rw [if_pos rfl] at htaken
  rw [Config.balanceSaturatingAdd] at hspare
  omega

/-- The free balances after a creation; the sponsor keeps the minimum. -/
theorem doSponsor_balances (sponsor beneficiary : A) (amount : ℕ) (autoUnlock : AutoUnlockMode)
    (lease : Lease) (emitEvent : Bool) (s t : T.State) (u : Unit)
    (h : doSponsor T sponsor beneficiary amount autoUnlock lease emitEvent s = (.ok u, t))
    (hissued : T.currency.balance s.runtime sponsor ≤ T.balanceMax) :
    (∀ a, T.currency.balance t.runtime a+
      (if a = sponsor then amount+T.sponsorshipStorageDeposit else 0) =
        T.currency.balance s.runtime a) ∧
      T.currency.minimumBalance ≤ T.currency.balance t.runtime sponsor := by
  have hsponsored := doSponsor_ok T _ _ _ _ _ _ _ _ _ h
  have hspare := doSponsor_spares T laws sponsor beneficiary amount autoUnlock lease emitEvent s t u
    h hissued
  have hbalance := fun a => funded_balance T laws.exactBalances laws.keepsFunds laws.reducibleAbove s
    sponsor beneficiary amount _ hsponsored.funded a (Or.inr hspare)
  refine ⟨hbalance, ?_⟩
  have hpaid := hbalance sponsor
  rw [if_pos rfl] at hpaid
  have hminimum : T.currency.minimumBalance ≤ amount :=
    (Nat.le_max_right _ _).trans hsponsored.minimum
  rw [laws.reducibleAbove] at hspare
  omega

end

/-- The records of one sponsor and its free balance are part of the issuance. -/
theorem activeAmount_fits {totalOnHold : Λ → A → ℕ} (s : T.State) (hs : Accounted T s)
    (hmatch : HoldsMatch T s)
    (hsettled : T.currency.Settled totalOnHold T.balanceMax s.runtime) (a : A) :
    (s.sponsorLedger.getD a {}).activeAmount+T.currency.balance s.runtime a ≤ T.balanceMax := by
  let held := fun b => T.currency.balanceOnHold s.runtime (sponsorshipHoldReason T) b
  -- a record of `a` is one of the amounts on hold
  have hrecords : amountOf s.sponsorships a ≤ ∑ b ∈ s.sponsorships.keys, held b := by
    apply Finset.sum_le_sum
    intro b _
    change _ ≤ T.currency.balanceOnHold s.runtime (sponsorshipHoldReason T) b
    rw [hmatch.sponsorship, sponsoredHold]
    rcases s.sponsorships.get b with _ | record
    · exact Nat.le_refl 0
    · change (if record.sponsor = a then record.amount else 0) ≤ record.amount
      split
      · exact Nat.le_refl _
      · exact Nat.zero_le _
  have hkeys : ∑ b ∈ s.sponsorships.keys, held b ≤ ∑ b ∈ insert a s.sponsorships.keys, held b :=
    Finset.sum_le_sum_of_subset (Finset.subset_insert a _)
  have hfree : T.currency.balance s.runtime a ≤
      ∑ b ∈ insert a s.sponsorships.keys, T.currency.balance s.runtime b :=
    Finset.single_le_sum (fun _ _ => Nat.zero_le _) (Finset.mem_insert_self a _)
  have hissued := hsettled.issued (sponsorshipHoldReason T) (insert a s.sponsorships.keys)
  rw [Finset.sum_add_distrib] at hissued
  have hamount := hs.amounts a
  calc (s.sponsorLedger.getD a {}).activeAmount+T.currency.balance s.runtime a
      ≤ (∑ b ∈ insert a s.sponsorships.keys, held b)+
        ∑ b ∈ insert a s.sponsorships.keys, T.currency.balance s.runtime b :=
        Nat.add_le_add (hamount.trans (hrecords.trans hkeys)) hfree
    _ ≤ T.balanceMax := by rw [Nat.add_comm]; exact hissued

/-! The indexes. -/

theorem filter_ne_of_notMem (b : A) (entries : List A) (h : b ∉ entries) :
    entries.filter (fun account => account ≠ b) = entries := by
  apply List.filter_eq_self.mpr
  intro account haccount
  exact decide_eq_true (fun he => h (he ▸ haccount))

theorem filter_ne_append (b : A) (entries : List A) (h : b ∉ entries) :
    (entries ++ [b]).filter (fun account => account ≠ b) = entries := by
  rw [List.filter_append, filter_ne_of_notMem b entries h]
  simp

theorem struckBucket_enteredBucket (b : A) (lease : Lease) (k : ℕ) (entries : List A)
    (h : b ∉ entries) : struckBucket b lease k (enteredBucket b lease k entries) = entries := by
  by_cases hlease : lease = .until k
  · rw [enteredBucket, if_pos ⟨hlease, h⟩, struckBucket, if_pos hlease]
    exact filter_ne_append b entries h
  · rw [enteredBucket, if_neg (fun hc => hlease hc.1), struckBucket, if_neg hlease]

theorem filter_enteredQueue (b : A) (mode : AutoUnlockMode) (queue : List A) (h : b ∉ queue) :
    (enteredQueue b mode queue).filter (fun account => account ≠ b) = queue := by
  by_cases hmode : mode = .disabled
  · rw [enteredQueue, if_neg (fun hc => hc.1 hmode)]
    exact filter_ne_of_notMem b queue h
  · rw [enteredQueue, if_pos ⟨hmode, h⟩]
    exact filter_ne_append b queue h

/-! The whole storage. -/

/-- The storage `v` is `s` again, apart from the log, the provider references and the per-block
figures of one sponsor; and apart from a number of sponsorships that had reached the top of its
type. -/
structure Undone (sponsor : A) (s v : T.State) : Prop where
  balances : ∀ a, T.currency.balance v.runtime a = T.currency.balance s.runtime a
  holds : ∀ r a, T.currency.balanceOnHold v.runtime r a = T.currency.balanceOnHold s.runtime r a
  sponsorships : v.sponsorships = s.sponsorships
  storageDepositHeld : v.storageDepositHeld = s.storageDepositHeld
  buckets : ∀ k, (bucket T v k).toList = (bucket T s k).toList
  queue : v.autoUnlockQueue.toList = s.autoUnlockQueue.toList
  amounts : ∀ a, (v.sponsorLedger.getD a {}).activeAmount = (s.sponsorLedger.getD a {}).activeAmount
  counts : ∀ a, (s.sponsorLedger.getD a {}).activeCount < u32Max →
    (v.sponsorLedger.getD a {}).activeCount = (s.sponsorLedger.getD a {}).activeCount
  others : ∀ a, a ≠ sponsor → v.sponsorLedger.getD a {} = s.sponsorLedger.getD a {}
  blockNumber : v.blockNumber = s.blockNumber

theorem remove_depositedMap (b : A) (deposits : StorageMap A ℕ) (h : deposits.get b = none) :
    (depositedMap T b deposits).remove b = deposits := by
  unfold depositedMap
  split
  · exact StorageMap.remove_insert_new deposits b _ h
  · exact StorageMap.remove_of_none deposits b h

/-- The free balances after the way there and back. -/
theorem undone_balances {frozen totalOnHold : Λ → A → ℕ} (laws : UndoLaws T frozen totalOnHold)
    (s t : T.State) (sponsor beneficiary : A) (amount : ℕ) (record : SponsorshipRecord A) (L : Λ)
    (hsponsor : record.sponsor = sponsor) (hamount : record.amount = amount)
    (hdeposit : t.storageDepositHeld.getD beneficiary 0 = T.sponsorshipStorageDeposit)
    (hfunded : Funded T s sponsor beneficiary amount t.runtime)
    (hthere : ∀ a, T.currency.balance t.runtime a+
      (if a = sponsor then amount+T.sponsorshipStorageDeposit else 0) =
        T.currency.balance s.runtime a)
    (hminimum : T.currency.minimumBalance ≤ T.currency.balance t.runtime sponsor)
    (hclear : T.currency.StaysClear totalOnHold s.runtime beneficiary 0)
    (hrefunded : Refunded T t beneficiary record L) (a : A) :
    T.currency.balance L a = T.currency.balance s.runtime a := by
  subst hsponsor hamount
  -- neither the beneficiary's balance nor what else it has on hold is less than before
  have hback : T.currency.StaysClear totalOnHold t.runtime beneficiary record.amount := by
    by_cases hb : beneficiary = record.sponsor
    · exact Or.inr (Or.inl (hb ▸ hminimum))
    · have hsame := hthere beneficiary
      rw [if_neg hb, add_zero] at hsame
      have htotal := funded_total T laws s record.sponsor beneficiary record.amount _ hfunded
      rcases hclear with hzero | hkept | hheld
      · exact Or.inl (hsame.trans hzero)
      · exact Or.inr (Or.inl (hsame ▸ hkept))
      · exact Or.inr (Or.inr (by omega))
  have hpaid := refunded_balances T laws t beneficiary record L hrefunded hback
    (hminimum.trans (Nat.le_add_right _ _)) a
  rw [hdeposit] at hpaid
  have htaken := hthere a
  omega

/-- One creation and the end of the same sponsorship, in a state that the pallet and the
currency keep in order. -/
theorem sponsored_undone {frozen totalOnHold : Λ → A → ℕ} (laws : UndoLaws T frozen totalOnHold)
    (s t v : T.State) (haccounted : Accounted T s) (hmatch : HoldsMatch T s)
    (hentries : EntriesExact T s)
    (hsettled : T.currency.Settled totalOnHold T.balanceMax s.runtime) (sponsor beneficiary : A)
    (amount : ℕ) (autoUnlock : AutoUnlockMode) (lease : Lease) (emitEvent : Bool) (u : Unit)
    (record : SponsorshipRecord A)
    (hdo : doSponsor T sponsor beneficiary amount autoUnlock lease emitEvent s = (.ok u, t))
    (hrevoke : revokeSponsorship T beneficiary t = (.ok record, v)) : Undone T sponsor s v := by
  have h := doSponsor_ok T _ _ _ _ _ _ _ _ _ hdo
  obtain ⟨hfound, L, hrefunded, rfl⟩ := (revokeSponsorship_ok_iff T _ _ _ _).mp hrevoke
  rw [h.sponsorships, StorageMap.get_insert_self] at hfound
  obtain rfl := Option.some.inj hfound
  -- the deposit that is given back is the one that was taken
  have hdeposit : t.storageDepositHeld.getD beneficiary 0 = T.sponsorshipStorageDeposit := by
    rw [h.storageDepositHeld, depositedMap_getD T beneficiary beneficiary s.storageDepositHeld
      (hmatch.unsponsored beneficiary h.fresh), if_pos rfl]
  have hfits := activeAmount_fits T s haccounted hmatch hsettled sponsor
  obtain ⟨hthere, hminimum⟩ := doSponsor_balances T laws _ _ _ _ _ _ _ _ _ hdo (by omega)
  have htaken := hthere sponsor
  rw [if_pos rfl] at htaken
  obtain ⟨hchargedAmount, hchargedCount⟩ := chargedLedger_active T s sponsor amount
  have hledger : ∀ a, a ≠ sponsor → (s.sponsorLedger.insert sponsor
      (chargedLedger T (openLedger T s sponsor) amount)).getD a {} = s.sponsorLedger.getD a {} := by
    intro a ha
    rw [StorageMap.getD_insert, if_neg ha]
  have hfresh : ∀ k, beneficiary ∉ (bucket T s k).toList := by
    intro k hmem
    obtain ⟨old, hold, -⟩ := hentries.leased k beneficiary hmem
    rw [h.fresh] at hold
    cases hold
  have hunqueued : beneficiary ∉ s.autoUnlockQueue.toList := by
    intro hmem
    obtain ⟨old, hold⟩ := (isSponsored_iff T beneficiary s).mp (hentries.queued beneficiary hmem)
    rw [h.fresh] at hold
    cases hold
  exact {
    balances := undone_balances T laws s t sponsor beneficiary amount _ L rfl rfl hdeposit h.funded
      hthere hminimum (hsettled.clear beneficiary) hrefunded
    holds := by
      -- what the creation adds under each reason the revocation subtracts
      intro r a
      have hthere := funded_onHold T laws.exactHolds laws.keepsFunds s sponsor beneficiary amount
        t.runtime h.funded r a
      have hback := refunded_onHold T laws.exactHolds laws.keepsFunds t beneficiary _ L hrefunded r a
      rw [hdeposit] at hback
      change T.currency.balanceOnHold L r a = _
      dsimp only at hback
      omega
    sponsorships := by
      change t.sponsorships.remove beneficiary = _
      rw [h.sponsorships]
      exact StorageMap.remove_insert_new _ _ _ h.fresh
    storageDepositHeld := by
      change t.storageDepositHeld.remove beneficiary = _
      rw [h.storageDepositHeld]
      exact remove_depositedMap T beneficiary _ (haccounted.deposits beneficiary h.fresh)
    buckets := by
      intro k
      rw [bucket_revokedStorage, h.buckets]
      exact struckBucket_enteredBucket beneficiary lease k _ (hfresh k)
    queue := by
      rw [queue_revokedStorage, h.queue]
      exact filter_enteredQueue beneficiary autoUnlock _ hunqueued
    amounts := by
      intro a
      change ((t.sponsorLedger.mutate sponsor {} _).getD a {}).activeAmount = _
      rw [StorageMap.getD_mutate, h.sponsorLedger]
      by_cases ha : a = sponsor
      · -- the sum is part of the issuance, so it has not saturated
        subst ha
        rw [if_pos rfl, StorageMap.getD_insert, if_pos rfl]
        change (chargedLedger T (openLedger T s a) amount).activeAmount-amount = _
        omega
      · rw [if_neg ha, hledger a ha]
    counts := by
      intro a hcount
      change ((t.sponsorLedger.mutate sponsor {} _).getD a {}).activeCount = _
      rw [StorageMap.getD_mutate, h.sponsorLedger]
      by_cases ha : a = sponsor
      · subst ha
        rw [if_pos rfl, StorageMap.getD_insert, if_pos rfl]
        change (chargedLedger T (openLedger T s a) amount).activeCount-1 = _
        rw [hchargedCount, Nat.min_eq_left hcount]
        exact Nat.succ_sub_one _
      · rw [if_neg ha, hledger a ha]
    others := by
      intro a ha
      change (t.sponsorLedger.mutate sponsor {} _).getD a {} = _
      rw [StorageMap.getD_mutate, if_neg ha, h.sponsorLedger, hledger a ha]
    blockNumber := (blockNumber_revokedStorage T _ _ _ t).trans h.blockNumber }

/-- In every state that a run reaches, ending a sponsorship right after its creation gives back
all that the creation took and takes back all that it wrote; only a number of sponsorships that
had reached the top of its type is one less. -/
theorem revoke_undoes_sponsor {frozen totalOnHold : Λ → A → ℕ}
    (laws : UndoLaws T frozen totalOnHold) (L : Λ)
    (hL : ∀ reason a, T.currency.balanceOnHold L (T.holdReason reason) a = 0)
    (ops : List (Op A O Λ)) (hops : Along (step T) (RespectsHolds T) (emptyStorage T L) ops) :
    let s := run (step T) (emptyStorage T L) ops
    T.currency.Settled totalOnHold T.balanceMax s.runtime →
      ∀ sponsor beneficiary amount autoUnlock lease emitEvent u t record v,
        doSponsor T sponsor beneficiary amount autoUnlock lease emitEvent s = (.ok u, t) →
        revokeSponsorship T beneficiary t = (.ok record, v) → Undone T sponsor s v := by
  intro s hsettled sponsor beneficiary amount autoUnlock lease emitEvent u t record v hdo hrevoke
  exact sponsored_undone T laws s t v (run_accounted T L ops)
    (run_holdsMatch T laws.exactHolds laws.keepsFunds L hL ops hops) (run_entriesExact T L ops)
    hsettled _ _ _ _ _ _ _ _ hdo hrevoke

/-- The test runtime's currency is one of those. -/
theorem ledger_undoLaws (T : Config ℕ (RawOrigin ℕ) HoldReason (Ledger ℕ HoldReason))
    (hcurrency : T.currency = Ledger.holds 10) (hsystem : T.system = Ledger.system 10) :
    UndoLaws T (fun L a => (L a).frozen) (fun L a => (L a).reserved) where
  exactHolds := hcurrency ▸ Ledger.holds_exactHolds 10
  exactBalances := hcurrency ▸ Ledger.holds_exactBalances 10
  exactTotals := hcurrency ▸ Ledger.holds_exactTotals 10
  reducibleAbove := by
    rw [hcurrency]
    exact Ledger.inspect_reducibleAbove 10
  keepsFunds := by
    rw [hcurrency, hsystem]
    exact Ledger.system_keepsFunds 10
  keepsTotals := by
    rw [hsystem]
    intro b L a
    by_cases h : a = b
    · subst h
      simp [Ledger.system, Ledger.incProviders]
    · simp [Ledger.system, Ledger.incProviders, h]

theorem revoke_undoes_sponsor_firstBlock :
    let s := run (step mock) (emptyStorage mock mockLedger) [.onInitialize 1]
    let t := (doSponsor mock 1 2 30 (.enabled .freeGeSponsored) (.until 7) true s).2
    let v := (revokeSponsorship mock 2 t).2
    mock.currency.balance t.runtime 1 = 465 ∧ mock.currency.balance v.runtime 1 = 500 ∧
      Undone mock 1 s v := by
  intro s t v
  have hsettled : mock.currency.Settled (fun L a => (L a).reserved) mock.balanceMax s.runtime :=
    Ledger.endowed_settled 10 (2^128-1) _ (by decide) (by decide)
  have hops : Along (step mock) (RespectsHolds mock) (emptyStorage mock mockLedger)
      [.onInitialize 1] := by
    refine ⟨?_, trivial⟩
    intro f hf
    cases hf
  have hfirst : (doSponsor mock 1 2 30 (.enabled .freeGeSponsored) (.until 7) true s).1.toBool =
      true := by decide +kernel
  have hsecond : (revokeSponsorship mock 2 t).1.toBool = true := by decide +kernel
  have hbefore : mock.currency.balance t.runtime 1 = 465 := by decide +kernel
  have hundo := revoke_undoes_sponsor mock (ledger_undoLaws mock rfl rfl) mockLedger
    (fun _ _ => rfl) [.onInitialize 1] hops hsettled 1 2 30 (.enabled .freeGeSponsored) (.until 7)
    true
  rcases hdo : doSponsor mock 1 2 30 (.enabled .freeGeSponsored) (.until 7) true s with ⟨e | u, t'⟩
  · rw [hdo] at hfirst
    cases hfirst
  obtain rfl : t = t' := congrArg Prod.snd hdo
  rcases hrevoke : revokeSponsorship mock 2 t with ⟨e | record, v'⟩
  · rw [hrevoke] at hsecond
    cases hsecond
  obtain rfl : v = v' := congrArg Prod.snd hrevoke
  have hundone := hundo u t record v hdo hrevoke
  exact ⟨hbefore, (hundone.balances 1).trans (by decide +kernel), hundone⟩

/-! The one number that is not given back. A creation without deposit, lease and auto-unlock is
run to the top of its type. -/

theorem checkSponsor_runs (sponsor beneficiary : A) (amount : ℕ) (s : T.State)
    (hfresh : s.sponsorships.get beneficiary = none) (hmin : minimumSponsorship T ≤ amount)
    (hcaps : WithinCaps T (openLedger T s sponsor) amount)
    (hspare : T.balanceSaturatingAdd amount T.sponsorshipStorageDeposit ≤
      T.currency.reducibleBalance s.runtime sponsor .preserve .polite)
    (hremaining : T.sponsorMinRemaining ≤ T.currency.balance s.runtime sponsor-
      T.balanceSaturatingAdd amount T.sponsorshipStorageDeposit) :
    checkSponsor T sponsor beneficiary amount .none s = (.ok (openLedger T s sponsor), s) := by
  have hensure : ensureCaps T (openLedger T s sponsor) amount s = (.ok (), s) := by
    simp only [ensureCaps, Dispatch.bind_ok_iff, Dispatch.ensure_ok_iff]
    exact ⟨(), s, ⟨hcaps.total, rfl⟩, (), s, ⟨hcaps.count, rfl⟩, (), s, ⟨hcaps.amountInBlock, rfl⟩,
      hcaps.countInBlock, rfl⟩
  simp only [checkSponsor, Dispatch.bind_ok_iff, Dispatch.read_ok_iff, Dispatch.ensure_ok_iff,
    Dispatch.pure_ok_iff]
  exact ⟨s, s, ⟨rfl, rfl⟩, (), s, ⟨hfresh, rfl⟩, (), s, ⟨hmin, rfl⟩, (), s, rfl, (), s, hensure,
    (), s, ⟨hspare, rfl⟩, (), s, ⟨hremaining, rfl⟩, rfl, rfl⟩

theorem placeHolds_runs (sponsor beneficiary : A) (amount : ℕ) (s : T.State) (L : Λ)
    (hdeposit : T.sponsorshipStorageDeposit = 0)
    (havailable : T.currency.holdAvailable (T.system.incProviders beneficiary s.runtime)
      (sponsorshipHoldReason T) beneficiary = true)
    (hL : T.currency.transferAndHold (sponsorshipHoldReason T) sponsor beneficiary amount .exact
      .preserve .polite (T.system.incProviders beneficiary s.runtime) = some L) :
    placeHolds T sponsor beneficiary amount s = (.ok (), { s with runtime := L }) := by
  simp only [placeHolds, Dispatch.bind_ok_iff, Dispatch.read_ok_iff, Dispatch.ensure_ok_iff,
    Dispatch.write_ok_iff, Dispatch.when_ok_iff, onRuntime_ok_iff]
  exact ⟨(), _, rfl, _, _, ⟨rfl, rfl⟩, (), _, ⟨havailable, rfl⟩, (), _,
    Or.inr ⟨not_not.mpr hdeposit, rfl⟩, (), _, ⟨L, hL, rfl⟩, Or.inr ⟨not_not.mpr hdeposit, rfl⟩⟩

/-- Without a deposit, a lease and auto-unlock a creation only needs its checks and one hold. -/
theorem doSponsor_runs (sponsor beneficiary : A) (amount : ℕ) (s : T.State) (L : Λ)
    (hcheck : checkSponsor T sponsor beneficiary amount .none s = (.ok (openLedger T s sponsor), s))
    (hplace : placeHolds T sponsor beneficiary amount s = (.ok (), { s with runtime := L })) :
    ∃ t, doSponsor T sponsor beneficiary amount .disabled .none false s = (.ok (), t) := by
  have hbody : ∃ t, doSponsorBody T sponsor beneficiary amount .disabled .none false s =
      (.ok (), t) := by
    rw [doSponsorBody, Dispatch.bind_of_ok _ _ _ _ _ hcheck, Dispatch.bind_of_ok _ _ _ _ _ hplace]
    exact ⟨_, rfl⟩
  obtain ⟨t, ht⟩ := hbody
  exact ⟨t, (Dispatch.transactional_ok_iff _ _ _ _).mpr ht⟩

theorem run_genesisBuild (initial : List (InitialSponsorship A)) (s t : T.State)
    (h : genesisBuild T initial s = some t) :
    run (step T) s [(.genesisBuild initial : Op A O Λ)] = t := by
  change (genesisBuild T initial s).getD s = t
  rw [h, Option.getD_some]

/-- The test runtime with both caps on numbers at the top of their type, and no deposit. -/
def boundless : Config ℕ (RawOrigin ℕ) HoldReason (Ledger ℕ HoldReason) :=
  { mock with
    maxTotalSponsoredPerSponsor := 2^128-1
    maxSponsoredAccountsPerSponsor := u32Max
    maxSponsoredAmountPerBlock := 2^128-1
    maxNewSponsorshipsPerBlock := u32Max
    sponsorshipStorageDeposit := 0 }

/-- Account zero has sponsored the accounts one to `n` with ten each, all in block zero. -/
structure Filled (n : ℕ) (s : boundless.State) : Prop where
  block : s.blockNumber = 0
  ledger : s.sponsorLedger.getD 0 {} = ⟨10*n, n, 0, 10*n, n⟩
  fresh : ∀ b, n < b → s.sponsorships.get b = none
  free : (s.runtime 0).free+10*n = 2^40
  thawed : ∀ a, (s.runtime a).frozen = 0
  room : ∀ a, Ledger.hasRoom s.runtime a = true

theorem filled_sponsors (n : ℕ) (hn : n ≤ u32Max) (s : boundless.State) (hs : Filled n s) :
    ∃ t, doSponsor boundless 0 (n+1) 10 .disabled .none false s = (.ok (), t) := by
  have htop : u32Max = 4294967295 := rfl
  rw [htop] at hn
  have hfree := hs.free
  have hthawed := hs.thawed 0
  have hspare : 10 ≤ (s.runtime 0).free-
      max ((s.runtime 0).frozen-(s.runtime 0).reserved) 10 := by omega
  -- both caps are the tops of their types, so no saturating sum exceeds them
  have hcheck := checkSponsor_runs boundless 0 (n+1) 10 s (hs.fresh _ (Nat.lt_succ_self n))
    (Nat.le_refl 10)
    ⟨Nat.min_le_right _ _, Nat.min_le_right _ _, Nat.min_le_right _ _, Nat.min_le_right _ _⟩ hspare
    (by change 25 ≤ (s.runtime 0).free-10; omega)
  let L := Ledger.incProviders (n+1) s.runtime
  have hzero : L 0 = s.runtime 0 := Function.update_of_ne (Nat.succ_ne_zero n).symm _ _
  have hprovided : 0 < Ledger.providers 10 L (n+1) := by
    have hothers : (L (n+1)).others = (s.runtime (n+1)).others+1 := by
      simp [L, Ledger.incProviders]
    unfold Ledger.providers
    omega
  have hhold : ∃ L', (Ledger.holds 10).transferAndHold HoldReason.sponsorship 0 (n+1) 10 .exact
      .preserve .polite L = some L' := by
    have hroom : Ledger.hasRoom L (n+1) = true :=
      ((Ledger.holds_fundable 10 (2^128-1)).inc_room (n+1) s.runtime (n+1)).trans (hs.room (n+1))
    refine ⟨_, if_pos ⟨hprovided, ?_, ?_, Or.inr hroom⟩⟩
    · change 10 ≤ (L 0).free-max ((L 0).frozen-(L 0).reserved) 10
      rw [hzero]
      exact hspare
    · rw [hzero]
      omega
  obtain ⟨L', hL'⟩ := hhold
  exact doSponsor_runs boundless 0 (n+1) 10 s L' hcheck
    (placeHolds_runs boundless 0 (n+1) 10 s L' rfl (decide_eq_true hprovided) hL')

theorem boundless_undoLaws :
    UndoLaws boundless (fun L a => (L a).frozen) (fun L a => (L a).reserved) :=
  ledger_undoLaws boundless rfl rfl

/-- A creation without deposit freezes nothing and leaves room where there was room. -/
theorem sponsored_thawed (sponsor b : ℕ) (s t : boundless.State)
    (hs : ∀ a, (s.runtime a).frozen = 0) (hroom : ∀ a, Ledger.hasRoom s.runtime a = true)
    (h : Sponsored boundless sponsor b 10 .disabled .none s t) (a : ℕ) :
    (t.runtime a).frozen = 0 ∧ Ledger.hasRoom t.runtime a = true := by
  obtain ⟨L₁, hL₁, hdep⟩ := h.funded
  have hsame : t.runtime = L₁ := hdep.elim (fun hc => absurd rfl hc.1) (fun hc => hc.2)
  have hfundable := Ledger.holds_fundable (A := ℕ) (R := HoldReason) 10 (2^128-1)
  rw [hsame, Ledger.transferAndHold_frozen 10 _ _ _ _ _ _ _ s.runtime L₁ hL₁ a]
  refine ⟨hs a, ?_⟩
  rw [hfundable.transferAndHold_room _ _ _ _ _ _ (by decide) hL₁ a]
  exact (hfundable.inc_room b s.runtime a).trans (hroom a)

/-- What account zero has left after one more creation. -/
theorem filled_balance (n : ℕ) (s t : boundless.State) (hs : Filled n s) (u : Unit)
    (h : doSponsor boundless 0 (n+1) 10 .disabled .none false s = (.ok u, t)) :
    (t.runtime 0).free+10 = (s.runtime 0).free := by
  have hfree := hs.free
  exact (doSponsor_balances boundless boundless_undoLaws _ _ _ _ _ _ _ _ _ h
    (by change (s.runtime 0).free ≤ 2^128-1; omega)).1 0

/-- The next sponsorship of account zero, as long as the number of them does not saturate. -/
theorem filled_succ (n : ℕ) (hn : n < u32Max) (s t : boundless.State) (hs : Filled n s) (u : Unit)
    (h : doSponsor boundless 0 (n+1) 10 .disabled .none false s = (.ok u, t)) :
    Filled (n+1) t := by
  have htop : u32Max = 4294967295 := rfl
  have hsponsored := doSponsor_ok boundless _ _ _ _ _ _ _ _ _ h
  have hopen : openLedger boundless s 0 = ⟨10*n, n, 0, 10*n, n⟩ := by
    rw [openLedger, hs.ledger, hs.block]
    rfl
  constructor
  · exact hsponsored.blockNumber.trans hs.block
  · rw [hsponsored.sponsorLedger, StorageMap.getD_insert, if_pos rfl, hopen]
    have hamount : min (10*n+10) (2^128-1) = 10*(n+1) := by
      rw [htop] at hn
      omega
    have hcount : min (n+1) u32Max = n+1 := Nat.min_eq_left hn
    change SponsorState.mk (min (10*n+10) (2^128-1)) (min (n+1) u32Max) 0 (min (10*n+10) (2^128-1))
      (min (n+1) u32Max) = _
    rw [hamount, hcount]
  · intro b hb
    rw [hsponsored.sponsorships, StorageMap.get_insert_ne _ _ _ _ (Nat.ne_of_gt hb)]
    exact hs.fresh b (Nat.lt_of_succ_lt hb)
  · have hbalance := filled_balance n s t hs u h
    have hfree := hs.free
    omega
  · exact fun a => (sponsored_thawed 0 (n+1) s t hs.thawed hs.room hsponsored a).1
  · exact fun a => (sponsored_thawed 0 (n+1) s t hs.thawed hs.room hsponsored a).2

/-- The initial sponsorships of the accounts `n+1` to `n+m`. -/
def everybody (n m : ℕ) : List (InitialSponsorship ℕ) :=
  (List.range' (n+1) m).map fun b => ⟨0, b, 10, .disabled, .none⟩

theorem genesisBuild_filled (n m : ℕ) (h : n+m ≤ u32Max) (s : boundless.State)
    (hs : Filled n s) :
    ∃ t, genesisBuild boundless (everybody n m) s = some t ∧ Filled (n+m) t := by
  induction m generalizing n s with
  | zero => exact ⟨s, rfl, hs⟩
  | succ m ih =>
    have hn : n < u32Max := Nat.lt_of_lt_of_le (Nat.lt_add_of_pos_right (Nat.succ_pos m)) h
    -- one account more, and the rest from there
    obtain ⟨t, ht⟩ := filled_sponsors n (Nat.le_of_lt hn) s hs
    have hnext := filled_succ n hn s t hs () ht
    have hsum : n+1+m = n+(m+1) := by rw [Nat.add_assoc, Nat.add_comm 1 m]
    obtain ⟨v, hv, hfilled⟩ := ih (n+1) (hsum ▸ h) t hnext
    refine ⟨v, ?_, hsum ▸ hfilled⟩
    have hlist : everybody n (m+1) = ⟨0, n+1, 10, .disabled, .none⟩ :: everybody (n+1) m := by
      rw [everybody, List.range'_succ, List.map_cons]
      rfl
    rw [hlist, genesisBuild, List.foldlM_cons, ht]
    exact hv

/-- What account zero has just put on hold for another account is given back. -/
theorem filled_revokes (n : ℕ) (s t : boundless.State) (hs : Filled n s)
    (hdeposits : s.storageDepositHeld.get (n+1) = none) (u : Unit)
    (h : doSponsor boundless 0 (n+1) 10 .disabled .none false s = (.ok u, t)) :
    ∃ record L, revokeSponsorship boundless (n+1) t =
      (.ok record, revokedStorage boundless (n+1) record L t) ∧ record.sponsor = 0 := by
  have hsponsored := doSponsor_ok boundless _ _ _ _ _ _ _ _ _ h
  have hfound : t.sponsorships.get (n+1) = some ⟨0, 10, .disabled, .none, s.blockNumber⟩ := by
    rw [hsponsored.sponsorships, StorageMap.get_insert_self]
  have hnone : t.storageDepositHeld.getD (n+1) 0 = 0 := by
    rw [hsponsored.storageDepositHeld, depositedMap, if_neg (fun hc => hc rfl), StorageMap.getD,
      hdeposits]
    rfl
  have hheld := (funded_holds boundless (Ledger.holds_exactHolds 10) (Ledger.system_keepsFunds 10)
    s 0 (n+1) 10 _ hsponsored.funded (n+1)).1
  rw [if_pos rfl] at hheld
  have hthawed : (t.runtime (n+1)).frozen = 0 :=
    (sponsored_thawed 0 (n+1) s t hs.thawed hs.room hsponsored (n+1)).1
  have htotal := funded_total boundless boundless_undoLaws s 0 (n+1) 10 _ hsponsored.funded
  have hbalance := filled_balance n s t hs u h
  have hfree := hs.free
  obtain ⟨L₁, hL₁⟩ := (Ledger.holds_returnable 10 (2^128-1)).transferOnHold
    HoldReason.sponsorship (n+1) 0 10 t.runtime
    (by
      change 10 ≤ boundless.currency.balanceOnHold t.runtime (sponsorshipHoldReason boundless) (n+1)
      omega)
    (by
      rw [hthawed, Nat.zero_sub, Nat.sub_zero]
      omega)
    (le_refl 10)
    (by
      change (t.runtime 0).free+10 ≤ 2^128-1
      omega)
  refine ⟨_, _, (revokeSponsorship_ok_iff boundless _ _ _ _).mpr ⟨hfound, _,
    ⟨L₁, L₁, hL₁, Or.inr ⟨hnone, rfl⟩, rfl⟩, rfl⟩, rfl⟩

/-- Account zero starts with enough for all of them. -/
def richLedger : Ledger ℕ HoldReason := Ledger.endowed [(0, 2^40)]

/-- The runtime starts with as many sponsorships of one account as a `u32` can count. The
number stays there when one more is created, and is one less when that one is ended. -/
theorem saturated_count_is_lost :
    let s := run (step boundless) (emptyStorage boundless richLedger)
      [.genesisBuild (everybody 0 u32Max)]
    ∃ t record v,
      doSponsor boundless 0 (u32Max+1) 10 .disabled .none false s = (.ok (), t) ∧
      revokeSponsorship boundless (u32Max+1) t = (.ok record, v) ∧
      (v.sponsorLedger.getD 0 {}).activeCount ≠ (s.sponsorLedger.getD 0 {}).activeCount := by
  intro s
  have hempty : Filled 0 (emptyStorage boundless richLedger) :=
    ⟨rfl, StorageMap.getD_empty 0 _, fun b _ => StorageMap.get_empty b, rfl, fun a => rfl,
      fun a => rfl⟩
  have hs : Filled u32Max s := by
    obtain ⟨t, ht, hfilled⟩ := genesisBuild_filled 0 u32Max (Nat.le_of_eq (Nat.zero_add _)) _ hempty
    have hrun : s = t := run_genesisBuild boundless _ _ t ht
    rw [hrun]
    rw [Nat.zero_add] at hfilled
    exact hfilled
  obtain ⟨t, ht⟩ := filled_sponsors u32Max (Nat.le_refl _) s hs
  have hdeposits := (run_accounted boundless richLedger _).deposits (u32Max+1)
    (hs.fresh (u32Max+1) (Nat.lt_succ_self u32Max))
  obtain ⟨record, L, hrevoke, hrecord⟩ := filled_revokes u32Max s t hs hdeposits () ht
  refine ⟨t, record, _, ht, hrevoke, ?_⟩
  -- at the top the addition has no effect, but the subtraction has
  have hcharged := (chargedLedger_active boundless s 0 10).2
  rw [hs.ledger] at hcharged
  change _ = min (u32Max+1) u32Max at hcharged
  rw [Nat.min_eq_right (Nat.le_succ u32Max)] at hcharged
  have hsponsored := doSponsor_ok boundless _ _ _ _ _ _ _ _ _ ht
  rw [hs.ledger]
  change ((t.sponsorLedger.mutate record.sponsor {} _).getD 0 {}).activeCount ≠ u32Max
  rw [hrecord, StorageMap.getD_mutate, if_pos rfl, hsponsored.sponsorLedger, StorageMap.getD_insert,
    if_pos rfl]
  change (chargedLedger boundless (openLedger boundless s 0) 10).activeCount-1 ≠ u32Max
  rw [hcharged]
  exact Nat.ne_of_lt (Nat.sub_one_lt_of_lt (Nat.zero_lt_of_ne_zero (by decide)))

end NuloChain.Sponsorship
