import NuloChain.SponsorshipModel

/-! What a successful operation of the sponsorship pallet did. Every later invariant is
derived from these statements and not from the bodies. -/
namespace NuloChain.Sponsorship
open Frame
set_option linter.unusedSectionVars false
variable {A O R Λ : Type} [DecidableEq A] (T : Config A O R Λ)

theorem onRuntime_ok_iff (f : Λ → Option Λ) (e : Error) (s t : T.State) (u : Unit) :
    onRuntime T f e s = (.ok u, t) ↔ ∃ L, f s.runtime = some L ∧ t = { s with runtime := L } := by
  simp only [onRuntime, Dispatch.bind_ok_iff, Dispatch.read_ok_iff, Dispatch.okOr_ok_iff,
    Dispatch.write_ok_iff]
  constructor
  · rintro ⟨_, _, ⟨rfl, rfl⟩, L, _, ⟨hL, rfl⟩, rfl⟩
    exact ⟨L, hL, rfl⟩
  · rintro ⟨L, hL, rfl⟩
    exact ⟨s, s, ⟨rfl, rfl⟩, L, s, ⟨hL, rfl⟩, rfl⟩

/-- An accepted lease ends no earlier than now and within the maximum duration. -/
def LeaseValid (lease : Lease) (now : ℕ) : Prop :=
  ∀ expiry, lease = .until expiry → now ≤ expiry ∧ expiry-now ≤ T.maxLeaseDuration

theorem validateLease_ok (lease : Lease) (now : ℕ) (s t : T.State) (u : Unit)
    (h : validateLease T lease now s = (.ok u, t)) : LeaseValid T lease now ∧ t = s := by
  cases lease with
  | none =>
    obtain ⟨-, rfl⟩ := (Dispatch.pure_ok_iff _ _ _ _).mp h
    exact ⟨fun _ he => (Lease.noConfusion he), rfl⟩
  | «until» expiry =>
    simp only [validateLease, Dispatch.bind_ok_iff, Dispatch.ensure_ok_iff] at h
    obtain ⟨_, _, ⟨hnow, rfl⟩, hlong, rfl⟩ := h
    refine ⟨?_, rfl⟩
    intro e he
    cases he
    exact ⟨hnow, hlong⟩

/-- The bucket of `k` after `beneficiary` is entered under `lease`. -/
def enteredBucket (beneficiary : A) (lease : Lease) (k : ℕ) (entries : List A) : List A :=
  if lease = .until k ∧ beneficiary ∉ entries then entries ++ [beneficiary] else entries

/-- The bucket of `k` after `beneficiary` is struck out of the bucket of `lease`. -/
def struckBucket (beneficiary : A) (lease : Lease) (k : ℕ) (entries : List A) : List A :=
  if lease = .until k then entries.filter (fun account => account ≠ beneficiary) else entries

/-- The auto-unlock queue after `beneficiary` is entered under `mode`. -/
def enteredQueue (beneficiary : A) (mode : AutoUnlockMode) (queue : List A) : List A :=
  if mode ≠ .disabled ∧ beneficiary ∉ queue then queue ++ [beneficiary] else queue

theorem bucket_insert (s : T.State) (expiry k : ℕ)
    (entries : BoundedVec A T.maxQueueProcessingPerBlock) :
    bucket T { s with expirations := s.expirations.insert expiry entries } k =
      if k = expiry then entries else bucket T s k :=
  StorageMap.getD_insert _ _ _ _ _

theorem insertExpiration_ok (beneficiary : A) (lease : Lease) (s t : T.State) (u : Unit)
    (h : insertExpiration T beneficiary lease s = (.ok u, t)) :
    ∃ expirations, t = { s with expirations := expirations } ∧
      ∀ k, (bucket T t k).toList = enteredBucket beneficiary lease k (bucket T s k).toList := by
  cases lease with
  | none =>
    obtain ⟨-, rfl⟩ := (Dispatch.pure_ok_iff _ _ _ _).mp h
    exact ⟨t.expirations, rfl, fun k => by simp [enteredBucket]⟩
  | «until» expiry =>
    simp only [insertExpiration, Dispatch.bind_ok_iff, Dispatch.read_ok_iff, Dispatch.when_ok_iff,
      Dispatch.okOr_ok_iff, Dispatch.write_ok_iff] at h
    obtain ⟨_, _, ⟨rfl, rfl⟩, ⟨hnew, pushed, _, ⟨hpush, rfl⟩, rfl⟩ | ⟨hold, rfl⟩⟩ := h
    -- pushed onto the bucket of `expiry`; every other bucket is read back unchanged
    · refine ⟨_, rfl, fun k => ?_⟩
      have hp := BoundedVec.tryPush_eq_some _ _ _ hpush
      by_cases hk : k = expiry
      · subst hk
        simp [bucket_insert, enteredBucket, hp, hnew]
      · simp [bucket_insert, enteredBucket, hk, Ne.symm hk]
    -- already listed there, so nothing is written
    · refine ⟨t.expirations, rfl, fun k => ?_⟩
      by_cases hk : expiry = k
      · subst hk
        simp only [enteredBucket, hold, and_false, if_false]
      · simp [enteredBucket, hk]

theorem bucket_removeExpiration (beneficiary : A) (lease : Lease) (s : T.State) (k : ℕ) :
    (bucket T (removeExpiration T beneficiary lease s) k).toList =
      struckBucket beneficiary lease k (bucket T s k).toList := by
  cases lease with
  | none => simp [removeExpiration, struckBucket]
  | «until» expiry =>
    by_cases hk : k = expiry
    · subst hk
      simp [removeExpiration, bucket, StorageMap.getD_mutate, struckBucket]
    · simp [removeExpiration, bucket, StorageMap.getD_mutate, struckBucket, hk, Ne.symm hk]

theorem removeExpiration_eq (beneficiary : A) (lease : Lease) (s : T.State) :
    ∃ expirations, removeExpiration T beneficiary lease s =
      { s with expirations := expirations } := by
  cases lease with
  | none => exact ⟨s.expirations, rfl⟩
  | «until» expiry => exact ⟨_, rfl⟩

theorem enqueueAutoUnlock_ok (beneficiary : A) (mode : AutoUnlockMode) (s t : T.State) (u : Unit)
    (h : Dispatch.when (mode ≠ .disabled) (enqueueAutoUnlock T beneficiary) s = (.ok u, t)) :
    ∃ queue, t = { s with autoUnlockQueue := queue } ∧
      queue.toList = enteredQueue beneficiary mode s.autoUnlockQueue.toList := by
  simp only [enqueueAutoUnlock, Dispatch.bind_ok_iff, Dispatch.read_ok_iff, Dispatch.when_ok_iff,
    Dispatch.okOr_ok_iff, Dispatch.write_ok_iff] at h
  rcases h with ⟨hmode, _, _, ⟨rfl, rfl⟩, ⟨hnew, queue, _, ⟨hpush, rfl⟩, rfl⟩ | ⟨hold, rfl⟩⟩ |
    ⟨hmode, rfl⟩
  · refine ⟨queue, rfl, ?_⟩
    rw [BoundedVec.tryPush_eq_some _ _ _ hpush, enteredQueue, if_pos ⟨hmode, hnew⟩]
  · exact ⟨t.autoUnlockQueue, rfl, by rw [enteredQueue, if_neg (fun h => hold h.2)]⟩
  · exact ⟨t.autoUnlockQueue, rfl, by rw [enteredQueue, if_neg (fun h => hmode h.1)]⟩

/-- The currency operations of a creation take the runtime of `s` to `L`. -/
def Funded (s : T.State) (sponsor beneficiary : A) (amount : ℕ) (L : Λ) : Prop :=
  ∃ L₁,
    T.currency.transferAndHold (sponsorshipHoldReason T) sponsor beneficiary amount .exact
      .preserve .polite (T.system.incProviders beneficiary s.runtime) = some L₁ ∧
    ((T.sponsorshipStorageDeposit ≠ 0 ∧
        T.currency.hold (storageDepositHoldReason T) sponsor T.sponsorshipStorageDeposit L₁ =
          some L) ∨
      (T.sponsorshipStorageDeposit = 0 ∧ L = L₁))

/-- The caps a creation has passed on the ledger entry it charges. -/
structure WithinCaps (ledger : SponsorState) (amount : ℕ) : Prop where
  total : T.balanceSaturatingAdd ledger.activeAmount amount ≤ T.maxTotalSponsoredPerSponsor
  count : u32SaturatingAdd ledger.activeCount 1 ≤ T.maxSponsoredAccountsPerSponsor
  amountInBlock : T.balanceSaturatingAdd ledger.sponsoredAmountInBlock amount ≤
    T.maxSponsoredAmountPerBlock
  countInBlock : u32SaturatingAdd ledger.newSponsorshipsInBlock 1 ≤ T.maxNewSponsorshipsPerBlock

/-- The refreshed ledger entry of `sponsor` that `do_sponsor` works on. -/
def openLedger (s : T.State) (sponsor : A) : SponsorState :=
  refreshPerBlockLedger (s.sponsorLedger.getD sponsor {}) s.blockNumber

/-- The deposit map after a creation for `beneficiary`. -/
def depositedMap (beneficiary : A) (deposits : StorageMap A ℕ) : StorageMap A ℕ :=
  if T.sponsorshipStorageDeposit ≠ 0 then
    deposits.insert beneficiary T.sponsorshipStorageDeposit
  else deposits

/-- Everything a successful `do_sponsor` did to the storage `s`. -/
structure Sponsored (sponsor beneficiary : A) (amount : ℕ) (autoUnlock : AutoUnlockMode)
    (lease : Lease) (s t : T.State) : Prop where
  fresh : s.sponsorships.get beneficiary = none
  minimum : minimumSponsorship T ≤ amount
  leaseValid : LeaseValid T lease s.blockNumber
  caps : WithinCaps T (openLedger T s sponsor) amount
  funded : Funded T s sponsor beneficiary amount t.runtime
  sponsorships : t.sponsorships = s.sponsorships.insert beneficiary
    { sponsor := sponsor, amount := amount, autoUnlock := autoUnlock, lease := lease,
      createdAt := s.blockNumber }
  sponsorLedger : t.sponsorLedger =
    s.sponsorLedger.insert sponsor (chargedLedger T (openLedger T s sponsor) amount)
  storageDepositHeld : t.storageDepositHeld = depositedMap T beneficiary s.storageDepositHeld
  buckets : ∀ k, (bucket T t k).toList = enteredBucket beneficiary lease k (bucket T s k).toList
  queue : t.autoUnlockQueue.toList =
    enteredQueue beneficiary autoUnlock s.autoUnlockQueue.toList
  blockNumber : t.blockNumber = s.blockNumber

theorem ensureCaps_ok (ledger : SponsorState) (amount : ℕ) (s t : T.State) (u : Unit)
    (h : ensureCaps T ledger amount s = (.ok u, t)) : WithinCaps T ledger amount ∧ t = s := by
  simp only [ensureCaps, Dispatch.bind_ok_iff, Dispatch.ensure_ok_iff] at h
  obtain ⟨_, _, ⟨h₁, rfl⟩, _, _, ⟨h₂, rfl⟩, _, _, ⟨h₃, rfl⟩, h₄, rfl⟩ := h
  exact ⟨⟨h₁, h₂, h₃, h₄⟩, rfl⟩

/-- An optional event changes nothing but the log. -/
theorem depositEvent_ok (p : Prop) [Decidable p] (e : Event A) (s t : T.State) (u : Unit)
    (h : Dispatch.when p (depositEvent T e) s = (.ok u, t)) :
    ∃ events, t = { s with events := events } := by
  simp only [depositEvent, logged, Dispatch.when_ok_iff, Dispatch.write_ok_iff] at h
  rcases h with ⟨-, rfl⟩ | ⟨-, rfl⟩
  · exact ⟨_, rfl⟩
  · exact ⟨t.events, rfl⟩

theorem checkSponsor_ok (sponsor beneficiary : A) (amount : ℕ) (lease : Lease)
    (s t : T.State) (ledger : SponsorState)
    (h : checkSponsor T sponsor beneficiary amount lease s = (.ok ledger, t)) :
    t = s ∧ s.sponsorships.get beneficiary = none ∧ minimumSponsorship T ≤ amount ∧
      LeaseValid T lease s.blockNumber ∧ ledger = openLedger T s sponsor ∧
      WithinCaps T ledger amount := by
  simp only [checkSponsor, Dispatch.bind_ok_iff, Dispatch.read_ok_iff, Dispatch.ensure_ok_iff,
    Dispatch.pure_ok_iff] at h
  obtain ⟨_, _, ⟨rfl, rfl⟩, _, _, ⟨hfresh, rfl⟩, _, _, ⟨hmin, rfl⟩, _, _, hlease, _, _, hcaps,
    _, _, ⟨-, rfl⟩, _, _, ⟨-, rfl⟩, rfl, rfl⟩ := h
  obtain ⟨hvalid, rfl⟩ := validateLease_ok T _ _ _ _ _ hlease
  obtain ⟨hwithin, rfl⟩ := ensureCaps_ok T _ _ _ _ _ hcaps
  exact ⟨rfl, hfresh, hmin, hvalid, rfl, hwithin⟩

theorem placeHolds_ok (sponsor beneficiary : A) (amount : ℕ) (s t : T.State) (u : Unit)
    (h : placeHolds T sponsor beneficiary amount s = (.ok u, t)) :
    ∃ L, Funded T s sponsor beneficiary amount L ∧
      t = { s with
        runtime := L
        storageDepositHeld := depositedMap T beneficiary s.storageDepositHeld } := by
  simp only [placeHolds, Dispatch.bind_ok_iff, Dispatch.read_ok_iff, Dispatch.ensure_ok_iff,
    Dispatch.write_ok_iff, Dispatch.when_ok_iff, onRuntime_ok_iff] at h
  obtain ⟨_, _, rfl, _, _, ⟨rfl, rfl⟩, _, _, ⟨-, rfl⟩, _, s₁, havail, _, _, ⟨L₁, hL₁, rfl⟩, hdep⟩ := h
  have hs₁ := havail.elim (fun h => h.2.2) (fun h => h.2)
  subst hs₁
  -- a deposit of zero skips the second hold and its map entry
  rcases hdep with ⟨hne, _, _, ⟨L₂, hL₂, rfl⟩, rfl⟩ | ⟨hz, rfl⟩
  · exact ⟨L₂, ⟨L₁, hL₁, Or.inl ⟨hne, hL₂⟩⟩, by rw [depositedMap, if_pos hne]⟩
  · exact ⟨L₁, ⟨L₁, hL₁, Or.inr ⟨not_not.mp hz, rfl⟩⟩, by rw [depositedMap, if_neg hz]⟩

theorem doSponsor_ok (sponsor beneficiary : A) (amount : ℕ) (autoUnlock : AutoUnlockMode)
    (lease : Lease) (emitEvent : Bool) (s t : T.State) (u : Unit)
    (h : doSponsor T sponsor beneficiary amount autoUnlock lease emitEvent s = (.ok u, t)) :
    Sponsored T sponsor beneficiary amount autoUnlock lease s t := by
  rw [doSponsor, Dispatch.transactional_ok_iff] at h
  simp only [doSponsorBody, Dispatch.bind_ok_iff, Dispatch.write_ok_iff] at h
  obtain ⟨ledger, s₀, hcheck, _, s₁, hplace, _, s₂, hs₂, _, s₃, hexp, _, s₄, hqueue, hevent⟩ := h
  obtain ⟨hs₀, hfresh, hmin, hvalid, hledger, hcaps⟩ := checkSponsor_ok T _ _ _ _ _ _ _ hcheck
  subst hs₀ hledger
  obtain ⟨L, hL, hs₁⟩ := placeHolds_ok T _ _ _ _ _ _ hplace
  obtain ⟨expirations, hs₃, hbuckets⟩ := insertExpiration_ok T _ _ _ _ _ hexp
  obtain ⟨queue, hs₄, hq⟩ := enqueueAutoUnlock_ok T _ _ _ _ _ hqueue
  obtain ⟨events, ht⟩ := depositEvent_ok T _ _ _ _ _ hevent
  -- each phase wrote fields of its own, so the final record can be read off phase by phase
  subst ht hs₄ hs₃ hs₂ hs₁
  exact {
    fresh := hfresh
    minimum := hmin
    leaseValid := hvalid
    caps := hcaps
    funded := hL
    sponsorships := rfl
    sponsorLedger := rfl
    storageDepositHeld := rfl
    buckets := hbuckets
    queue := hq
    blockNumber := rfl }

/-- A creation has checked that the sponsor can spare both holds together. -/
theorem doSponsor_spare (sponsor beneficiary : A) (amount : ℕ) (autoUnlock : AutoUnlockMode)
    (lease : Lease) (emitEvent : Bool) (s t : T.State) (u : Unit)
    (h : doSponsor T sponsor beneficiary amount autoUnlock lease emitEvent s = (.ok u, t)) :
    T.balanceSaturatingAdd amount T.sponsorshipStorageDeposit ≤
      T.currency.reducibleBalance s.runtime sponsor .preserve .polite := by
  rw [doSponsor, Dispatch.transactional_ok_iff] at h
  simp only [doSponsorBody, checkSponsor, Dispatch.bind_ok_iff, Dispatch.read_ok_iff,
    Dispatch.ensure_ok_iff, Dispatch.pure_ok_iff] at h
  obtain ⟨_, _, ⟨_, _, ⟨rfl, rfl⟩, _, _, ⟨-, rfl⟩, _, _, ⟨-, rfl⟩, _, _, hlease, _, _, hcaps,
    _, _, ⟨hspare, rfl⟩, -⟩, -⟩ := h
  obtain ⟨-, rfl⟩ := validateLease_ok T _ _ _ _ _ hlease
  obtain ⟨-, rfl⟩ := ensureCaps_ok T _ _ _ _ _ hcaps
  exact hspare

/-- The currency operations of a revocation take the runtime of `s` to `L`. -/
def Refunded (s : T.State) (beneficiary : A) (record : SponsorshipRecord A) (L : Λ) : Prop :=
  ∃ L₁ L₂,
    T.currency.transferOnHold (sponsorshipHoldReason T) beneficiary record.sponsor record.amount
      .exact .free .polite s.runtime = some L₁ ∧
    ((s.storageDepositHeld.getD beneficiary 0 ≠ 0 ∧
        T.currency.release (storageDepositHoldReason T) record.sponsor
          (s.storageDepositHeld.getD beneficiary 0) .exact L₁ = some L₂) ∨
      (s.storageDepositHeld.getD beneficiary 0 = 0 ∧ L₂ = L₁)) ∧
    L = (T.system.decProviders beneficiary L₂).getD L₂

/-- The ledger entry after `amount` is given back. -/
def relievedLedger (ledger : SponsorState) (amount : ℕ) : SponsorState :=
  { ledger with
    activeAmount := ledger.activeAmount-amount
    activeCount := ledger.activeCount-1 }

/-- The storage after the sponsorship `record` of `beneficiary` is revoked, with runtime `L`. -/
def revokedStorage (beneficiary : A) (record : SponsorshipRecord A) (L : Λ) (s : T.State) :
    T.State :=
  { dequeueAutoUnlock T beneficiary (removeExpiration T beneficiary record.lease s) with
    sponsorships := s.sponsorships.remove beneficiary
    storageDepositHeld := s.storageDepositHeld.remove beneficiary
    sponsorLedger := s.sponsorLedger.mutate record.sponsor {} (fun ledger =>
      relievedLedger ledger record.amount)
    runtime := L }

theorem returnHolds_ok_iff (beneficiary : A) (record : SponsorshipRecord A) (s t : T.State)
    (u : Unit) :
    returnHolds T beneficiary record s = (.ok u, t) ↔ ∃ L₁ L₂,
      T.currency.transferOnHold (sponsorshipHoldReason T) beneficiary record.sponsor record.amount
        .exact .free .polite s.runtime = some L₁ ∧
      ((s.storageDepositHeld.getD beneficiary 0 ≠ 0 ∧
          T.currency.release (storageDepositHoldReason T) record.sponsor
            (s.storageDepositHeld.getD beneficiary 0) .exact L₁ = some L₂) ∨
        (s.storageDepositHeld.getD beneficiary 0 = 0 ∧ L₂ = L₁)) ∧
      t = { s with
        runtime := L₂
        storageDepositHeld := s.storageDepositHeld.remove beneficiary } := by
  simp only [returnHolds, Dispatch.bind_ok_iff, Dispatch.read_ok_iff, Dispatch.write_ok_iff,
    Dispatch.when_ok_iff, onRuntime_ok_iff]
  constructor
  · rintro ⟨_, _, ⟨L₁, hL₁, rfl⟩, _, _, ⟨rfl, rfl⟩, _, _, rfl, ⟨hne, L₂, hL₂, rfl⟩ | ⟨hz, rfl⟩⟩
    · exact ⟨L₁, L₂, hL₁, Or.inl ⟨hne, hL₂⟩, rfl⟩
    · exact ⟨L₁, L₁, hL₁, Or.inr ⟨not_not.mp hz, rfl⟩, rfl⟩
  · rintro ⟨L₁, L₂, hL₁, hdep, rfl⟩
    refine ⟨(), _, ⟨L₁, hL₁, rfl⟩, _, _, ⟨rfl, rfl⟩, (), _, rfl, ?_⟩
    rcases hdep with ⟨hne, hL₂⟩ | ⟨hz, rfl⟩
    · exact Or.inl ⟨hne, L₂, hL₂, rfl⟩
    · exact Or.inr ⟨not_not.mpr hz, rfl⟩

theorem revokeSponsorship_ok_iff (beneficiary : A) (record : SponsorshipRecord A)
    (s t : T.State) :
    revokeSponsorship T beneficiary s = (.ok record, t) ↔
      s.sponsorships.get beneficiary = some record ∧
        ∃ L, Refunded T s beneficiary record L ∧ t = revokedStorage T beneficiary record L s := by
  rw [revokeSponsorship, Dispatch.transactional_ok_iff]
  simp only [revokeSponsorshipBody, Dispatch.bind_ok_iff, Dispatch.read_ok_iff,
    Dispatch.okOr_ok_iff, Dispatch.write_ok_iff, Dispatch.pure_ok_iff, returnHolds_ok_iff]
  constructor
  · rintro ⟨_, _, ⟨rfl, rfl⟩, r, _, ⟨hr, rfl⟩, _, s₁, ⟨L₁, L₂, hL₁, hL₂, hs₁⟩, _, s₂, hs₂, _, s₃,
      hs₃, _, s₄, hs₄, _, s₅, hs₅, _, s₆, hs₆, rfl, rfl⟩
    refine ⟨hr, _, ⟨L₁, L₂, hL₁, hL₂, rfl⟩, ?_⟩
    -- six writes in sequence, each to a field of its own; only the bucket depends on the lease
    rw [hs₆, hs₅, hs₄, hs₃, hs₂, hs₁]
    cases hl : r.lease <;>
      simp only [revokedStorage, relievedLedger, removeExpiration, dequeueAutoUnlock, hl]
  · rintro ⟨hr, L, ⟨L₁, L₂, hL₁, hL₂, rfl⟩, rfl⟩
    refine ⟨s, s, ⟨rfl, rfl⟩, record, s, ⟨hr, rfl⟩, (), _, ⟨L₁, L₂, hL₁, hL₂, rfl⟩, (), _, rfl, (),
      _, rfl, (), _, rfl, (), _, rfl, (), _, rfl, rfl, ?_⟩
    cases hl : record.lease <;>
      simp only [revokedStorage, relievedLedger, removeExpiration, dequeueAutoUnlock, hl]

theorem revokeSponsorship_error (beneficiary : A) (s t : T.State) (e : Error)
    (h : revokeSponsorship T beneficiary s = (.error e, t)) : t = s :=
  Dispatch.transactional_error _ _ _ _ h

theorem bucket_revokedStorage (beneficiary : A) (record : SponsorshipRecord A) (L : Λ)
    (s : T.State) (k : ℕ) :
    (bucket T (revokedStorage T beneficiary record L s) k).toList =
      struckBucket beneficiary record.lease k (bucket T s k).toList :=
  bucket_removeExpiration T beneficiary record.lease s k

theorem queue_revokedStorage (beneficiary : A) (record : SponsorshipRecord A) (L : Λ)
    (s : T.State) :
    (revokedStorage T beneficiary record L s).autoUnlockQueue.toList =
      s.autoUnlockQueue.toList.filter (fun account => account ≠ beneficiary) := by
  obtain ⟨expirations, he⟩ := removeExpiration_eq T beneficiary record.lease s
  simp only [revokedStorage, dequeueAutoUnlock, he, BoundedVec.toList_retain]

theorem blockNumber_revokedStorage (beneficiary : A) (record : SponsorshipRecord A) (L : Λ)
    (s : T.State) : (revokedStorage T beneficiary record L s).blockNumber = s.blockNumber := by
  obtain ⟨expirations, he⟩ := removeExpiration_eq T beneficiary record.lease s
  simp only [revokedStorage, dequeueAutoUnlock, he]

/-- Everything a successful `set_policy` signed by `caller` did to the storage `s`. -/
structure PolicySet (caller beneficiary : A) (autoUnlock : AutoUnlockMode) (lease : Lease)
    (record : SponsorshipRecord A) (s t : T.State) : Prop where
  found : s.sponsorships.get beneficiary = some record
  sponsor : caller = record.sponsor
  leaseValid : LeaseValid T lease s.blockNumber
  sponsorships : t.sponsorships = s.sponsorships.insert beneficiary
    { record with autoUnlock := autoUnlock, lease := lease }
  sponsorLedger : t.sponsorLedger = s.sponsorLedger
  storageDepositHeld : t.storageDepositHeld = s.storageDepositHeld
  buckets : ∀ k, (bucket T t k).toList =
    if record.lease = lease then (bucket T s k).toList
    else struckBucket beneficiary record.lease k
      (enteredBucket beneficiary lease k (bucket T s k).toList)
  queue : t.autoUnlockQueue.toList =
    enteredQueue beneficiary autoUnlock s.autoUnlockQueue.toList
  runtime : t.runtime = s.runtime
  blockNumber : t.blockNumber = s.blockNumber

theorem moveExpiration_ok (beneficiary : A) (old new : Lease) (s t : T.State) (u : Unit)
    (h : Dispatch.when (old ≠ new) (do
      insertExpiration T beneficiary new
      Dispatch.write (removeExpiration T beneficiary old)) s = (.ok u, t)) :
    ∃ expirations, t = { s with expirations := expirations } ∧
      ∀ k, (bucket T t k).toList = if old = new then (bucket T s k).toList
        else struckBucket beneficiary old k
          (enteredBucket beneficiary new k (bucket T s k).toList) := by
  simp only [Dispatch.when_ok_iff, Dispatch.bind_ok_iff, Dispatch.write_ok_iff] at h
  rcases h with ⟨hne, _, s₀, hins, rfl⟩ | ⟨heq, rfl⟩
  · obtain ⟨expirations, hs₀, hbuckets⟩ := insertExpiration_ok T _ _ _ _ _ hins
    obtain ⟨expirations', he⟩ := removeExpiration_eq T beneficiary old s₀
    refine ⟨expirations', by rw [he, hs₀], fun k => ?_⟩
    rw [bucket_removeExpiration, hbuckets, if_neg hne]
  · exact ⟨t.expirations, rfl, fun k => by rw [if_pos (not_not.mp heq)]⟩

theorem setPolicy_ok (origin : O) (beneficiary : A) (autoUnlock : AutoUnlockMode) (lease : Lease)
    (s t : T.State) (u : Unit)
    (h : setPolicy T origin beneficiary autoUnlock lease s = (.ok u, t)) :
    ∃ caller record, T.ensureSigned origin = some caller ∧
      PolicySet T caller beneficiary autoUnlock lease record s t := by
  rw [setPolicy, Dispatch.transactional_ok_iff] at h
  simp only [setPolicyBody, ensureSigned, depositEvent, logged, Dispatch.bind_ok_iff,
    Dispatch.read_ok_iff, Dispatch.ensure_ok_iff, Dispatch.okOr_ok_iff,
    Dispatch.write_ok_iff] at h
  obtain ⟨caller, _, ⟨hsigned, rfl⟩, _, _, ⟨rfl, rfl⟩, record, _, ⟨hfound, rfl⟩, _, _, ⟨hsp, rfl⟩,
    _, _, hlease, _, s₁, hmove, _, s₂, hqueue, _, _, rfl, rfl⟩ := h
  obtain ⟨hvalid, rfl⟩ := validateLease_ok T _ _ _ _ _ hlease
  obtain ⟨expirations, hs₁, hbuckets⟩ := moveExpiration_ok T _ _ _ _ _ _ hmove
  obtain ⟨queue, hs₂, hq⟩ := enqueueAutoUnlock_ok T _ _ _ _ _ hqueue
  -- the move of the bucket entry comes before the queue entry, and neither reads the other
  subst hs₂
  subst hs₁
  exact ⟨caller, record, hsigned, {
    found := hfound
    sponsor := hsp
    leaseValid := hvalid
    sponsorships := rfl
    sponsorLedger := rfl
    storageDepositHeld := rfl
    buckets := hbuckets
    queue := hq
    runtime := rfl
    blockNumber := rfl }⟩

end NuloChain.Sponsorship
