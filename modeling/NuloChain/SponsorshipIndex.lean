import NuloChain.SponsorshipRuns

/-! The expiry buckets and the auto-unlock queue as indexes of the records, through every
call and through both loops of `on_initialize`. -/
namespace NuloChain.Sponsorship
open Frame
set_option linter.unusedSectionVars false
variable {A O R Λ : Type} [DecidableEq A] (T : Config A O R Λ)

/-- Every sponsored account is in the bucket of the block its lease ends at. -/
def LeasesIndexed (s : T.State) : Prop :=
  ∀ b record e, s.sponsorships.get b = some record → record.lease = .until e →
    b ∈ (bucket T s e).toList

/-- Every account that waits for an automatic unlock is in the queue. -/
def QueueIndexed (s : T.State) : Prop :=
  ∀ b, awaitsUnlock T s b = true → b ∈ s.autoUnlockQueue.toList

theorem mem_enteredBucket (b x : A) (lease : Lease) (k : ℕ) (entries : List A) :
    x ∈ enteredBucket b lease k entries ↔ x ∈ entries ∨ (x = b ∧ lease = .until k) := by
  unfold enteredBucket
  by_cases h : lease = .until k ∧ b ∉ entries
  · rw [if_pos h, List.mem_append, List.mem_singleton, and_iff_left h.1]
  · rw [if_neg h]
    constructor
    · exact Or.inl
    · rintro (hx | ⟨rfl, hlease⟩)
      · exact hx
      · exact not_not.mp (fun hx => h ⟨hlease, hx⟩)

theorem mem_struckBucket (b x : A) (lease : Lease) (k : ℕ) (entries : List A) :
    x ∈ struckBucket b lease k entries ↔ x ∈ entries ∧ (x ≠ b ∨ lease ≠ .until k) := by
  unfold struckBucket
  by_cases h : lease = .until k
  · simp [h, List.mem_filter]
  · simp [h]

theorem mem_enteredQueue (b x : A) (mode : AutoUnlockMode) (queue : List A) :
    x ∈ enteredQueue b mode queue ↔ x ∈ queue ∨ (x = b ∧ mode ≠ .disabled) := by
  unfold enteredQueue
  by_cases h : mode ≠ .disabled ∧ b ∉ queue
  · rw [if_pos h, List.mem_append, List.mem_singleton, and_iff_left h.1]
  · rw [if_neg h]
    constructor
    · exact Or.inl
    · rintro (hx | ⟨rfl, hmode⟩)
      · exact hx
      · exact not_not.mp (fun hx => h ⟨hmode, hx⟩)

theorem outcome_leasesIndexed (act : Action A O) (s t : T.State) (hs : LeasesIndexed T s)
    (h : Outcome T act s t) : LeasesIndexed T t := by
  intro b record e hb hlease
  cases h with
  | idle => exact hs b record e hb hlease
  | sponsored sponsor beneficiary amount autoUnlock lease _ _ h =>
    rw [h.sponsorships, StorageMap.get_insert] at hb
    rw [h.buckets]
    by_cases hbb : b = beneficiary
    · subst hbb
      rw [if_pos rfl] at hb
      cases hb
      change lease = .until e at hlease
      subst hlease
      exact (mem_enteredBucket _ _ _ _ _).mpr (Or.inr ⟨rfl, rfl⟩)
    · rw [if_neg hbb] at hb
      exact (mem_enteredBucket _ _ _ _ _).mpr (Or.inl (hs b record e hb hlease))
  | revoked beneficiary old L event found refunded authorised =>
    change (s.sponsorships.remove beneficiary).get b = some record at hb
    change b ∈ (bucket T (revokedStorage T beneficiary old L s) e).toList
    rw [StorageMap.get_remove] at hb
    rw [bucket_revokedStorage]
    by_cases hbb : b = beneficiary
    · rw [if_pos hbb] at hb
      cases hb
    · rw [if_neg hbb] at hb
      exact (mem_struckBucket _ _ _ _ _).mpr ⟨hs b record e hb hlease, Or.inl hbb⟩
  | policy origin caller beneficiary autoUnlock lease old _ _ _ h =>
    rw [h.sponsorships, StorageMap.get_insert] at hb
    rw [h.buckets]
    by_cases hbb : b = beneficiary
    · subst hbb
      rw [if_pos rfl] at hb
      cases hb
      change lease = .until e at hlease
      subst hlease
      -- a policy with the same lease skips the buckets, otherwise the entry moves to the new one
      by_cases hsame : old.lease = .until e
      · rw [if_pos hsame]
        exact hs b old e h.found hsame
      · rw [if_neg hsame]
        have hmoved := (mem_enteredBucket b b (.until e) e (bucket T s e).toList).mpr (Or.inr ⟨rfl, rfl⟩)
        exact (mem_struckBucket _ _ _ _ _).mpr ⟨hmoved, Or.inr hsame⟩
    · rw [if_neg hbb] at hb
      have hmem := hs b record e hb hlease
      split
      · exact hmem
      · have hkept := (mem_enteredBucket beneficiary b lease e _).mpr (Or.inl hmem)
        exact (mem_struckBucket _ _ _ _ _).mpr ⟨hkept, Or.inl hbb⟩

theorem outcome_queueIndexed (act : Action A O) (s t : T.State) (hs : QueueIndexed T s)
    (h : Outcome T act s t) : QueueIndexed T t := by
  intro b hawaits
  obtain ⟨record, hb, hmode⟩ := (awaitsUnlock_iff T t b).mp hawaits
  -- a record that was there before was in the queue before
  have hold : s.sponsorships.get b = some record → b ∈ s.autoUnlockQueue.toList :=
    fun hget => hs b ((awaitsUnlock_iff T s b).mpr ⟨record, hget, hmode⟩)
  cases h with
  | idle => exact hold hb
  | sponsored sponsor beneficiary amount autoUnlock lease _ _ h =>
    rw [h.sponsorships, StorageMap.get_insert] at hb
    rw [h.queue]
    by_cases hbb : b = beneficiary
    · subst hbb
      rw [if_pos rfl] at hb
      cases hb
      exact (mem_enteredQueue _ _ _ _).mpr (Or.inr ⟨rfl, hmode⟩)
    · rw [if_neg hbb] at hb
      exact (mem_enteredQueue _ _ _ _).mpr (Or.inl (hold hb))
  | revoked beneficiary old L event found refunded authorised =>
    change (s.sponsorships.remove beneficiary).get b = some record at hb
    change b ∈ (revokedStorage T beneficiary old L s).autoUnlockQueue.toList
    rw [StorageMap.get_remove] at hb
    rw [queue_revokedStorage]
    by_cases hbb : b = beneficiary
    · rw [if_pos hbb] at hb
      cases hb
    · rw [if_neg hbb] at hb
      exact List.mem_filter.mpr ⟨hold hb, by simpa using hbb⟩
  | policy origin caller beneficiary autoUnlock lease old _ _ _ h =>
    rw [h.sponsorships, StorageMap.get_insert] at hb
    rw [h.queue]
    by_cases hbb : b = beneficiary
    · subst hbb
      rw [if_pos rfl] at hb
      cases hb
      exact (mem_enteredQueue _ _ _ _).mpr (Or.inr ⟨rfl, hmode⟩)
    · rw [if_neg hbb] at hb
      exact (mem_enteredQueue _ _ _ _).mpr (Or.inl (hold hb))

/-- The currency would carry out both refunds of the sponsorship `record` of `beneficiary`. -/
def refundable (s : T.State) (beneficiary : A) (record : SponsorshipRecord A) : Bool :=
  match T.currency.transferOnHold (sponsorshipHoldReason T) beneficiary record.sponsor
      record.amount .exact .free .polite s.runtime with
  | none => false
  | some L =>
    if s.storageDepositHeld.getD beneficiary 0 = 0 then true
    else (T.currency.release (storageDepositHoldReason T) record.sponsor
      (s.storageDepositHeld.getD beneficiary 0) .exact L).isSome

theorem refundable_refunded (s : T.State) (beneficiary : A) (record : SponsorshipRecord A)
    (h : refundable T s beneficiary record = true) : ∃ L, Refunded T s beneficiary record L := by
  unfold refundable at h
  split at h
  · cases h
  · rename_i L₁ hL₁
    split at h
    · rename_i hz
      exact ⟨_, L₁, L₁, hL₁, Or.inr ⟨hz, rfl⟩, rfl⟩
    · rename_i hne
      obtain ⟨L₂, hL₂⟩ := Option.isSome_iff_exists.mp h
      exact ⟨_, L₁, L₂, hL₁, Or.inl ⟨hne, hL₂⟩, rfl⟩

/-- If the lease of `beneficiary` ends at `now`, the currency does not refuse to end it. -/
def expiryAccepted (now : ℕ) (s : T.State) (beneficiary : A) : Bool :=
  match s.sponsorships.get beneficiary with
  | none => true
  | some record => record.lease ≠ .until now || refundable T s beneficiary record

/-- The currency refuses none of the revocations that `process_expirations` asks for at `now`. -/
def ExpiriesAccepted (now : ℕ) (s : T.State) : Prop :=
  Along (expireIteration T now) (fun u b => expiryAccepted T now u b = true)
    { s with expirations := s.expirations.remove now } (bucket T s now).toList

instance (now : ℕ) (s : T.State) : Decidable (ExpiriesAccepted T now s) :=
  inferInstanceAs (Decidable (Along _ _ _ _))

/-- An accepted turn leaves no record of `beneficiary` whose lease ends at `now`. -/
theorem expireIteration_ended (now : ℕ) (s : T.State) (beneficiary : A)
    (h : expiryAccepted T now s beneficiary = true) (record : SponsorshipRecord A)
    (hrecord : (expireIteration T now s beneficiary).sponsorships.get beneficiary = some record) :
    record.lease ≠ .until now := by
  intro hlease
  unfold expireIteration at hrecord
  unfold expiryAccepted at h
  rcases hold : s.sponsorships.get beneficiary with _ | old
  · simp only [hold] at hrecord
    cases hrecord
  · simp only [hold] at hrecord h
    by_cases hnow : old.lease = .until now
    · simp only [hnow, ne_eq, not_true_eq_false, decide_false, Bool.false_or, if_false] at h hrecord
      obtain ⟨L, hL⟩ := refundable_refunded T s beneficiary old h
      have hrev := (revokeSponsorship_ok_iff T beneficiary old s _).mpr ⟨hold, L, hL, rfl⟩
      rw [hrev] at hrecord
      change (s.sponsorships.remove beneficiary).get beneficiary = some record at hrecord
      rw [StorageMap.get_remove_self] at hrecord
      cases hrecord
    · simp only [ne_eq, hnow, not_false_eq_true, if_true] at hrecord
      rw [hold] at hrecord
      cases hrecord
      exact hnow hlease

/-- The index in the middle of `process_expirations`: the accounts whose lease ends at `now`
are among those still to be handled. -/
def IndexedBut (now : ℕ) (expiring : List A) (s : T.State) : Prop :=
  ∀ b record e, s.sponsorships.get b = some record → record.lease = .until e →
    if e = now then b ∈ expiring else b ∈ (bucket T s e).toList

theorem expireIteration_cases (now : ℕ) (s : T.State) (beneficiary : A) :
    expireIteration T now s beneficiary = s ∨ ∃ record L event,
      expireIteration T now s beneficiary =
        logged T event (revokedStorage T beneficiary record L s) := by
  unfold expireIteration
  rcases s.sponsorships.get beneficiary with _ | record
  · exact Or.inl rfl
  · dsimp only
    split
    · exact Or.inl rfl
    · rcases hrev : revokeSponsorship T beneficiary s with ⟨e | r, t⟩
      · exact Or.inl (revokeSponsorship_error T _ _ _ _ hrev)
      · obtain ⟨-, L, -, rfl⟩ := (revokeSponsorship_ok_iff T _ _ _ _).mp hrev
        exact Or.inr ⟨r, L, _, rfl⟩

theorem expireIteration_indexedBut (now : ℕ) (s : T.State) (beneficiary : A) (rest : List A)
    (hs : IndexedBut T now (beneficiary :: rest) s)
    (h : expiryAccepted T now s beneficiary = true) :
    IndexedBut T now rest (expireIteration T now s beneficiary) := by
  intro b record e hb hlease
  -- the turn has dealt with `beneficiary`; any other record is the one from before the turn
  by_cases hbb : b = beneficiary
  · subst hbb
    have hne : e ≠ now := fun he => expireIteration_ended T now s b h record hb (he ▸ hlease)
    rw [if_neg hne]
    rcases expireIteration_cases T now s b with hid | ⟨old, L, event, hrev⟩
    · rw [hid] at hb ⊢
      have hmem := hs b record e hb hlease
      rw [if_neg hne] at hmem
      exact hmem
    · rw [hrev] at hb
      change (s.sponsorships.remove b).get b = some record at hb
      rw [StorageMap.get_remove_self] at hb
      cases hb
  -- another account: its entry is still in the rest of the bucket or in a later bucket
  · rcases expireIteration_cases T now s beneficiary with hid | ⟨old, L, event, hrev⟩
    · rw [hid] at hb ⊢
      have hmem := hs b record e hb hlease
      simpa only [List.mem_cons, hbb, false_or] using hmem
    · rw [hrev] at hb ⊢
      change (s.sponsorships.remove beneficiary).get b = some record at hb
      change if e = now then b ∈ rest
        else b ∈ (bucket T (revokedStorage T beneficiary old L s) e).toList
      rw [StorageMap.get_remove, if_neg hbb] at hb
      have hmem := hs b record e hb hlease
      rw [bucket_revokedStorage]
      by_cases he : e = now
      · rw [if_pos he] at hmem ⊢
        exact (List.mem_cons.mp hmem).resolve_left hbb
      · rw [if_neg he] at hmem ⊢
        exact (mem_struckBucket _ _ _ _ _).mpr ⟨hmem, Or.inl hbb⟩

theorem expireLoop_indexedBut (now : ℕ) (expiring : List A) (s : T.State)
    (hs : IndexedBut T now expiring s)
    (h : Along (expireIteration T now) (fun u b => expiryAccepted T now u b = true) s expiring) :
    IndexedBut T now [] (expiring.foldl (expireIteration T now) s) := by
  induction expiring generalizing s with
  | nil => exact hs
  -- by induction on what is left of the taken bucket
  | cons b rest ih => exact ih _ (expireIteration_indexedBut T now s b rest hs h.1) h.2

/-- After accepted expiries every lease that ends at `now` is gone and the rest is indexed. -/
theorem processExpirations_indexed (now : ℕ) (s : T.State) (hs : LeasesIndexed T s)
    (h : ExpiriesAccepted T now s) : IndexedBut T now [] (processExpirations T now s).1 := by
  refine expireLoop_indexedBut T now _ _ ?_ h
  intro b record e hb hlease
  have hmem : b ∈ (bucket T s e).toList := hs b record e hb hlease
  by_cases he : e = now
  · rw [if_pos he]
    exact he ▸ hmem
  · have hbucket : bucket T { s with expirations := s.expirations.remove now } e = bucket T s e := by
      unfold bucket
      rw [StorageMap.getD_remove, if_neg he]
    rw [if_neg he, hbucket]
    exact hmem

theorem leasesIndexed_of_indexedBut (now : ℕ) (s : T.State) (h : IndexedBut T now [] s) :
    LeasesIndexed T s := by
  intro b record e hb hlease
  have hmem := h b record e hb hlease
  split at hmem
  · exact absurd hmem List.not_mem_nil
  · exact hmem

/-- What every outcome keeps, the auto-unlock loop keeps. -/
theorem autoUnlockPass_preserves (Inv : T.State → Prop)
    (hout : ∀ (beneficiary : A) (index : ℕ) s t, Inv s →
      Outcome T (.autoUnlock beneficiary index : Action A O) s t → Inv t)
    (entries : List (A × ℕ)) (pass : AutoUnlockPass A Λ T.maxQueueProcessingPerBlock)
    (h : Inv pass.storage) : Inv (entries.foldl (autoUnlockIteration T) pass).storage := by
  induction entries generalizing pass with
  | nil => exact h
  | cons entry entries ih =>
    apply ih
    rw [autoUnlockIteration_storage (O := O)]
    exact hout _ _ _ _ h (action_outcome T _ pass.storage)

/-- The middle of the auto-unlock loop: the stored queue is empty, and every account that
waits has been put back or is still to be handled. -/
structure PassQueued (pass : AutoUnlockPass A Λ T.maxQueueProcessingPerBlock)
    (rest : List A) : Prop where
  taken : pass.storage.autoUnlockQueue.toList = []
  queued : ∀ b, awaitsUnlock T pass.storage b = true →
    b ∈ pass.unprocessed ∨ b ∈ pass.requeue ∨ b ∈ rest

/-- An auto-unlock attempt starts no wait, and adds nothing to the stored queue. -/
theorem tryAutoUnlockInternal_awaits (beneficiary : A) (s : T.State) :
    (∀ b, awaitsUnlock T (tryAutoUnlockInternal T beneficiary true s).2 b = true →
      awaitsUnlock T s b = true) ∧
    (s.autoUnlockQueue.toList = [] →
      (tryAutoUnlockInternal T beneficiary true s).2.autoUnlockQueue.toList = []) := by
  rcases tryAutoUnlockInternal_cases T beneficiary s with
    hs | ⟨record, c, L, event, -, -, -, -, hs⟩
  · rw [hs]
    exact ⟨fun _ h => h, fun h => h⟩
  · rw [hs]
    constructor
    · intro b hb
      obtain ⟨r, hr, hmode⟩ := (awaitsUnlock_iff T _ b).mp hb
      change (s.sponsorships.remove beneficiary).get b = some r at hr
      rw [StorageMap.get_remove] at hr
      split at hr
      · cases hr
      · exact (awaitsUnlock_iff T s b).mpr ⟨r, hr, hmode⟩
    · intro hempty
      change (revokedStorage T beneficiary record L s).autoUnlockQueue.toList = []
      rw [queue_revokedStorage, hempty]
      rfl

theorem autoUnlockIteration_queued (pass : AutoUnlockPass A Λ T.maxQueueProcessingPerBlock)
    (beneficiary : A) (index : ℕ) (rest : List A) (h : PassQueued T pass (beneficiary :: rest)) :
    PassQueued T (autoUnlockIteration T pass (beneficiary, index)) rest := by
  by_cases hindex : index < T.maxQueueProcessingPerBlock
  · obtain ⟨hawaits, hempty⟩ := tryAutoUnlockInternal_awaits T beneficiary pass.storage
    rw [autoUnlockIteration_eq T pass beneficiary index hindex]
    refine ⟨hempty h.taken, ?_⟩
    intro b hb
    dsimp only at hb ⊢
    -- the handled account is requeued exactly if it still waits, everybody else keeps their place
    by_cases hbb : b = beneficiary
    · subst hbb
      rw [if_pos hb]
      exact Or.inr (Or.inl (List.mem_append_right _ (List.mem_singleton_self b)))
    · rcases h.queued b (hawaits b hb) with hun | hre | hrest
      · exact Or.inl hun
      · refine Or.inr (Or.inl ?_)
        split
        · exact List.mem_append_left _ hre
        · exact hre
      · exact Or.inr (Or.inr ((List.mem_cons.mp hrest).resolve_left hbb))
  · -- over the limit: the entry goes to `unprocessed` as it is
    simp only [autoUnlockIteration, if_pos (Nat.not_lt.mp hindex)]
    refine ⟨h.taken, ?_⟩
    intro b hb
    rcases h.queued b hb with hun | hre | hrest
    · exact Or.inl (List.mem_append_left _ hun)
    · exact Or.inr (Or.inl hre)
    · rcases List.mem_cons.mp hrest with hbb | hmem
      · exact Or.inl (List.mem_append_right _ (List.mem_singleton.mpr hbb))
      · exact Or.inr (Or.inr hmem)

theorem autoUnlockPass_queued (entries : List (A × ℕ))
    (pass : AutoUnlockPass A Λ T.maxQueueProcessingPerBlock)
    (h : PassQueued T pass (entries.map Prod.fst)) :
    PassQueued T (entries.foldl (autoUnlockIteration T) pass) [] := by
  induction entries generalizing pass with
  | nil => exact h
  | cons entry entries ih => exact ih _ (autoUnlockIteration_queued T pass entry.1 entry.2 _ h)

theorem processAutoUnlockQueue_indexed (s t : T.State) (processed : ℕ)
    (hs : QueueIndexed T s) (h : processAutoUnlockQueue T s = some (t, processed)) :
    QueueIndexed T t := by
  obtain ⟨next, hnext, heq⟩ := processAutoUnlockQueue_eq T s
  rw [heq] at h
  cases h
  have hstart : PassQueued T
      (⟨[], [], 0, { s with autoUnlockQueue := BoundedVec.empty }⟩ :
        AutoUnlockPass A Λ T.maxQueueProcessingPerBlock)
      (s.autoUnlockQueue.toList.zipIdx.map Prod.fst) := by
    refine ⟨rfl, ?_⟩
    intro b hb
    rw [List.zipIdx_map_fst]
    exact Or.inr (Or.inr (hs b hb))
  have hend := autoUnlockPass_queued T _ _ hstart
  intro b hb
  rw [show ({ (autoUnlockLoop T s).storage with autoUnlockQueue := next } : T.State).autoUnlockQueue =
    next from rfl, hnext]
  rcases hend.queued b hb with hun | hre | hnil
  · exact List.mem_append_left _ hun
  · exact List.mem_append_right _ hre
  · exact absurd hnil List.not_mem_nil

/-- What every outcome keeps, and does not depend on the queue, the auto-unlock pass keeps. -/
theorem processAutoUnlockQueue_preserves (Inv : T.State → Prop)
    (hout : ∀ (beneficiary : A) (index : ℕ) s t, Inv s →
      Outcome T (.autoUnlock beneficiary index : Action A O) s t → Inv t)
    (hqueue : ∀ s queue, Inv s → Inv { s with autoUnlockQueue := queue })
    (s t : T.State) (processed : ℕ) (hs : Inv s)
    (h : processAutoUnlockQueue T s = some (t, processed)) : Inv t := by
  obtain ⟨next, -, heq⟩ := processAutoUnlockQueue_eq T s
  rw [heq] at h
  cases h
  exact hqueue _ next (autoUnlockPass_preserves T Inv hout _ _ (hqueue s BoundedVec.empty hs))

/-- What every outcome keeps, the expiry loop keeps. -/
theorem expireLoop_preserves (Inv : T.State → Prop) (now : ℕ)
    (hout : ∀ b s t, Inv s → Outcome T (.expire now b : Action A O) s t → Inv t)
    (expiring : List A) (s : T.State) (hs : Inv s) :
    Inv (expiring.foldl (expireIteration T now) s) :=
  List.foldlRecOn expiring (expireIteration T now) hs
    (fun u hu b _ => hout b u _ hu (expireIteration_outcome T now b u))

/-- What the turns of both loops keep, and does not depend on the indexes, the hook keeps. -/
theorem onInitialize_preserves (Inv : T.State → Prop) (now : ℕ)
    (hout : ∀ (act : Action A O) s t, act.lease = none → Inv s → Outcome T act s t → Inv t)
    (hindexes : ∀ s expirations queue, Inv s →
      Inv { s with expirations := expirations, autoUnlockQueue := queue })
    (s : T.State) (hs : Inv { s with blockNumber := now }) :
    Inv (step T s (.onInitialize now : Op A O Λ)) := by
  obtain ⟨processed, hqueue⟩ := step_onInitialize (O := O) T now s
  refine processAutoUnlockQueue_preserves (O := O) T Inv
    (fun b i u v hu hv => hout _ u v rfl hu hv)
    (fun u queue hu => hindexes u u.expirations queue hu) _ _ _ ?_ hqueue
  refine expireLoop_preserves (O := O) T Inv now (fun b u v hu hv => hout _ u v rfl hu hv) _ _ ?_
  exact hindexes _ _ s.autoUnlockQueue hs

/-- Whenever the hook runs, the currency refuses none of the expiries. -/
def AcceptsExpiries (s : T.State) (op : Op A O Λ) : Prop :=
  ∀ now, op = .onInitialize now → ExpiriesAccepted T now { s with blockNumber := now }

theorem step_leasesIndexed (s : T.State) (op : Op A O Λ) (hs : LeasesIndexed T s)
    (hop : AcceptsExpiries T s op) : LeasesIndexed T (step T s op) := by
  cases op with
  | entry e => exact outcome_leasesIndexed T _ s _ hs (entry_outcome T e s)
  | genesisBuild initial =>
    simp only [step]
    rcases h : genesisBuild T initial s with _ | t
    · exact hs
    · exact genesisBuild_preserves T (LeasesIndexed T) initial
        (fun i _ u v hu hv => outcome_leasesIndexed T _ u v hu hv) s t hs h
  | onInitialize now =>
    obtain ⟨processed, hqueue⟩ := step_onInitialize (O := O) T now s
    have hexpired := processExpirations_indexed T now { s with blockNumber := now } hs (hop now rfl)
    exact processAutoUnlockQueue_preserves T (LeasesIndexed T)
      (fun b i u v hu hv => outcome_leasesIndexed T _ u v hu hv) (fun _ _ h => h) _ _ _
      (leasesIndexed_of_indexedBut T now _ hexpired) hqueue
  | environment f => exact hs

theorem step_queueIndexed (s : T.State) (op : Op A O Λ) (hs : QueueIndexed T s) :
    QueueIndexed T (step T s op) := by
  cases op with
  | entry e => exact outcome_queueIndexed T _ s _ hs (entry_outcome T e s)
  | genesisBuild initial =>
    simp only [step]
    rcases h : genesisBuild T initial s with _ | t
    · exact hs
    · exact genesisBuild_preserves T (QueueIndexed T) initial
        (fun i _ u v hu hv => outcome_queueIndexed T _ u v hu hv) s t hs h
  | onInitialize now =>
    obtain ⟨processed, hqueue⟩ := step_onInitialize (O := O) T now s
    have hexpired : QueueIndexed T (processExpirations T now { s with blockNumber := now }).1 :=
      expireLoop_preserves (O := O) T (QueueIndexed T) now
        (fun b u v hu hv => outcome_queueIndexed T _ u v hu hv) _ _ hs
    exact processAutoUnlockQueue_indexed T _ _ _ hexpired hqueue
  | environment f => exact hs

/-- In every run the queue holds every sponsored account with auto-unlock enabled; and if the
currency refuses no expiry in it, every sponsored account with a lease is in a bucket. -/
theorem sponsorship_stays_indexed (L : Λ) (ops : List (Op A O Λ)) :
    let s := run (step T) (emptyStorage T L) ops
    (∀ b record c, s.sponsorships.get b = some record → record.autoUnlock = .enabled c →
      b ∈ s.autoUnlockQueue.toList) ∧
    (Along (step T) (AcceptsExpiries T) (emptyStorage T L) ops → ∀ b record e,
      s.sponsorships.get b = some record → record.lease = .until e →
        ∃ k, b ∈ (bucket T s k).toList) := by
  intro s
  constructor
  · intro b record c hb hmode
    have hqueue : QueueIndexed T s := by
      refine run_invariant_always (step T) (QueueIndexed T) (step_queueIndexed T) ops _ ?_
      intro b hawaits
      simp [awaitsUnlock, emptyStorage] at hawaits
    apply hqueue b
    exact (awaitsUnlock_iff T s b).mpr ⟨record, hb, by rw [hmode]; exact AutoUnlockMode.noConfusion⟩
  · intro hops b record e hb hlease
    have hleases : LeasesIndexed T s := by
      refine run_invariant (step T) (AcceptsExpiries T) (LeasesIndexed T)
        (fun u op hu hop => step_leasesIndexed T u op hu hop) ops _ ?_ hops
      intro b record e hget
      simp [emptyStorage] at hget
    exact ⟨e, hleases b record e hb hlease⟩

/-- A lease and an automatic unlock, over two blocks. -/
def indexTrace : List (Op ℕ (RawOrigin ℕ) (Ledger ℕ HoldReason)) :=
  [.onInitialize 1,
    .entry (.call (.signed 1) (.sponsor 2 30 (.enabled .freeGeSponsored) (.until 3))),
    .entry (.call (.signed 4) (.sponsor 6 30 .disabled (.until 2))),
    .onInitialize 2]

instance (s : mock.State) (op : Op ℕ (RawOrigin ℕ) (Ledger ℕ HoldReason)) :
    Decidable (AcceptsExpiries mock s op) :=
  match op with
  | .onInitialize now => decidable_of_iff
      (ExpiriesAccepted mock now { s with blockNumber := now })
      ⟨fun h n hn => by cases hn; exact h, fun h => h now rfl⟩
  | .entry _ => isTrue (fun _ h => by cases h)
  | .genesisBuild _ => isTrue (fun _ h => by cases h)
  | .environment _ => isTrue (fun _ h => by cases h)

theorem sponsorship_stays_indexed_indexTrace :
    let s := run (step mock) (emptyStorage mock mockLedger) indexTrace
    2 ∈ s.autoUnlockQueue.toList ∧ ∃ k, 2 ∈ (bucket mock s k).toList := by
  intro s
  have hrecord : s.sponsorships.get 2 = some ⟨1, 30, .enabled .freeGeSponsored, .until 3, 1⟩ := by
    decide +kernel
  obtain ⟨hqueued, hleased⟩ := sponsorship_stays_indexed mock mockLedger indexTrace
  exact ⟨hqueued 2 _ .freeGeSponsored hrecord rfl,
    hleased (by decide +kernel) 2 _ 3 hrecord rfl⟩

/-- The beneficiary's balance is frozen when the lease ends: the currency refuses the
transfer, the entry is dropped and the sponsorship stays without a bucket. -/
def frozenTrace : List (Op ℕ (RawOrigin ℕ) (Ledger ℕ HoldReason)) :=
  [.onInitialize 1,
    .entry (.call (.signed 1) (.sponsor 2 30 .disabled (.until 2))),
    .environment (fun L => Function.update L 2 { L 2 with frozen := 30 }),
    .onInitialize 2]

theorem frozen_beneficiary_drops_out :
    ¬ (∀ b record, (run (step mock) (emptyStorage mock mockLedger) frozenTrace).sponsorships.get b =
        some record →
      (∀ e, record.lease = .until e → ∃ k, b ∈
        (bucket mock (run (step mock) (emptyStorage mock mockLedger) frozenTrace) k).toList) ∧
      (∀ c, record.autoUnlock = .enabled c → b ∈
        (run (step mock) (emptyStorage mock mockLedger) frozenTrace).autoUnlockQueue.toList)) := by
  intro h
  have hrecord : (run (step mock) (emptyStorage mock mockLedger) frozenTrace).sponsorships.get 2 =
      some ⟨1, 30, .disabled, .until 2, 1⟩ := by decide +kernel
  have hkeys : (run (step mock) (emptyStorage mock mockLedger) frozenTrace).expirations.keys = ∅ := by
    decide +kernel
  obtain ⟨k, hk⟩ := (h 2 _ hrecord).1 2 rfl
  have hnone := (StorageMap.notMem_keys _ k).mp (hkeys ▸ Finset.notMem_empty k)
  rw [bucket, StorageMap.getD, hnone] at hk
  exact absurd hk List.not_mem_nil

end NuloChain.Sponsorship
