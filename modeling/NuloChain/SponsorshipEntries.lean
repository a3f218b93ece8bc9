import NuloChain.SponsorshipIndex
import Mathlib.Data.List.Perm.Basic

/-! The indexes hold nothing but what they index. An entry that outlived its sponsorship
would later end another sponsorship of the same account; that no call and no turn of the two
loops leaves one behind is the other half of what makes the indexes exact. -/
namespace NuloChain.Sponsorship
open Frame
set_option linter.unusedSectionVars false
variable {A O R Λ : Type} [DecidableEq A] (T : Config A O R Λ)

/-- The account is sponsored with a lease that ends at block `e`. -/
def LeasedUntil (s : T.State) (e : ℕ) (b : A) : Prop :=
  ∃ record, s.sponsorships.get b = some record ∧ record.lease = .until e

/-- No bucket and no place in the queue is stale or taken twice. -/
structure EntriesExact (s : T.State) : Prop where
  leased : ∀ e b, b ∈ (bucket T s e).toList → LeasedUntil T s e b
  bucketNodup : ∀ e, (bucket T s e).toList.Nodup
  queued : ∀ b, b ∈ s.autoUnlockQueue.toList → isSponsored T b s = true
  queueNodup : s.autoUnlockQueue.toList.Nodup

theorem isSponsored_iff (b : A) (s : T.State) :
    isSponsored T b s = true ↔ ∃ record, s.sponsorships.get b = some record :=
  Option.isSome_iff_exists

theorem enteredBucket_nodup (b : A) (lease : Lease) (k : ℕ) (entries : List A)
    (h : entries.Nodup) : (enteredBucket b lease k entries).Nodup := by
  unfold enteredBucket
  split
  · rename_i hnew
    rw [← List.concat_eq_append]
    exact List.Nodup.concat hnew.2 h
  · exact h

theorem struckBucket_nodup (b : A) (lease : Lease) (k : ℕ) (entries : List A)
    (h : entries.Nodup) : (struckBucket b lease k entries).Nodup := by
  unfold struckBucket
  split
  · exact h.filter _
  · exact h

theorem enteredQueue_nodup (b : A) (mode : AutoUnlockMode) (queue : List A) (h : queue.Nodup) :
    (enteredQueue b mode queue).Nodup := by
  unfold enteredQueue
  split
  · rename_i hnew
    rw [← List.concat_eq_append]
    exact List.Nodup.concat hnew.2 h
  · exact h

/-- Whoever is in the queue after the beneficiary has been recorded and entered is sponsored. -/
theorem enteredQueue_sponsored (beneficiary : A) (autoUnlock : AutoUnlockMode)
    (record : SponsorshipRecord A) (s t : T.State) (hs : EntriesExact T s)
    (hsponsorships : t.sponsorships = s.sponsorships.insert beneficiary record)
    (hqueue : t.autoUnlockQueue.toList =
      enteredQueue beneficiary autoUnlock s.autoUnlockQueue.toList) :
    ∀ b, b ∈ t.autoUnlockQueue.toList → isSponsored T b t = true := by
  intro b hb
  rw [hqueue, mem_enteredQueue] at hb
  rw [isSponsored_iff, hsponsorships, StorageMap.get_insert]
  by_cases hbb : b = beneficiary
  · rw [if_pos hbb]
    exact ⟨record, rfl⟩
  · rw [if_neg hbb]
    exact (isSponsored_iff T b s).mp (hs.queued b (hb.resolve_right (fun hc => hbb hc.1)))

theorem sponsored_entriesExact (sponsor beneficiary : A) (amount : ℕ)
    (autoUnlock : AutoUnlockMode) (lease : Lease) (s t : T.State) (hs : EntriesExact T s)
    (h : Sponsored T sponsor beneficiary amount autoUnlock lease s t) : EntriesExact T t := by
  constructor
  · intro e b hb
    rw [h.buckets, mem_enteredBucket] at hb
    unfold LeasedUntil
    rw [h.sponsorships, StorageMap.get_insert]
    by_cases hbb : b = beneficiary
    · -- the account was not sponsored, so it was in no bucket yet
      rcases hb with hold | ⟨-, hlease⟩
      · obtain ⟨record, hget, -⟩ := hs.leased e b hold
        rw [hbb, h.fresh] at hget
        cases hget
      · rw [if_pos hbb]
        exact ⟨_, rfl, hlease⟩
    · rw [if_neg hbb]
      exact hs.leased e b (hb.resolve_right (fun hc => hbb hc.1))
  · intro e
    rw [h.buckets]
    exact enteredBucket_nodup _ _ _ _ (hs.bucketNodup e)
  · exact enteredQueue_sponsored T beneficiary autoUnlock _ s t hs h.sponsorships h.queue
  · rw [h.queue]
    exact enteredQueue_nodup _ _ _ hs.queueNodup

theorem revoked_entriesExact (beneficiary : A) (record : SponsorshipRecord A) (L : Λ)
    (event : Event A) (s : T.State) (hs : EntriesExact T s)
    (hfound : s.sponsorships.get beneficiary = some record) :
    EntriesExact T (logged T event (revokedStorage T beneficiary record L s)) := by
  constructor
  · intro e b hb
    change b ∈ (bucket T (revokedStorage T beneficiary record L s) e).toList at hb
    rw [bucket_revokedStorage, mem_struckBucket] at hb
    obtain ⟨old, hget, hlease⟩ := hs.leased e b hb.1
    -- the bucket that lists the account is the one of its lease, from which it was struck
    have hbb : b ≠ beneficiary := by
      rintro rfl
      rw [hfound] at hget
      cases hget
      exact hb.2.elim (fun h => h rfl) (fun h => h hlease)
    refine ⟨old, ?_, hlease⟩
    change (s.sponsorships.remove beneficiary).get b = some old
    rw [StorageMap.get_remove, if_neg hbb]
    exact hget
  · intro e
    change (bucket T (revokedStorage T beneficiary record L s) e).toList.Nodup
    rw [bucket_revokedStorage]
    exact struckBucket_nodup _ _ _ _ (hs.bucketNodup e)
  · intro b hb
    change b ∈ (revokedStorage T beneficiary record L s).autoUnlockQueue.toList at hb
    rw [queue_revokedStorage, List.mem_filter] at hb
    have hbb : b ≠ beneficiary := by simpa using hb.2
    change ((s.sponsorships.remove beneficiary).get b).isSome = true
    rw [StorageMap.get_remove, if_neg hbb]
    exact hs.queued b hb.1
  · change (revokedStorage T beneficiary record L s).autoUnlockQueue.toList.Nodup
    rw [queue_revokedStorage]
    exact hs.queueNodup.filter _

theorem policySet_entriesExact (caller beneficiary : A) (autoUnlock : AutoUnlockMode)
    (lease : Lease) (record : SponsorshipRecord A) (s t : T.State) (hs : EntriesExact T s)
    (h : PolicySet T caller beneficiary autoUnlock lease record s t) : EntriesExact T t := by
  constructor
  · intro e b hb
    rw [h.buckets] at hb
    unfold LeasedUntil
    rw [h.sponsorships, StorageMap.get_insert]
    by_cases hbb : b = beneficiary
    · subst hbb
      rw [if_pos rfl]
      refine ⟨_, rfl, ?_⟩
      change lease = .until e
      by_cases hsame : record.lease = lease
      · rw [if_pos hsame] at hb
        obtain ⟨old, hget, hlease⟩ := hs.leased e b hb
        rw [h.found] at hget
        cases hget
        rw [← hsame, hlease]
      · -- moved: it was only in the bucket of the old lease, and has left that
        rw [if_neg hsame, mem_struckBucket, mem_enteredBucket] at hb
        rcases hb.1 with hold | ⟨-, hlease⟩
        · obtain ⟨old, hget, hlease⟩ := hs.leased e b hold
          rw [h.found] at hget
          cases hget
          exact absurd hlease (hb.2.resolve_left (fun hc => hc rfl))
        · exact hlease
    · rw [if_neg hbb]
      refine hs.leased e b ?_
      split at hb
      · exact hb
      · rw [mem_struckBucket, mem_enteredBucket] at hb
        exact hb.1.resolve_right (fun hc => hbb hc.1)
  · intro e
    rw [h.buckets]
    split
    · exact hs.bucketNodup e
    · exact struckBucket_nodup _ _ _ _ (enteredBucket_nodup _ _ _ _ (hs.bucketNodup e))
  · exact enteredQueue_sponsored T beneficiary autoUnlock _ s t hs h.sponsorships h.queue
  · rw [h.queue]
    exact enteredQueue_nodup _ _ _ hs.queueNodup

theorem outcome_entriesExact (act : Action A O) (s t : T.State) (hs : EntriesExact T s)
    (h : Outcome T act s t) : EntriesExact T t := by
  cases h with
  | idle => exact hs
  | sponsored sponsor beneficiary amount autoUnlock lease _ _ h =>
    exact sponsored_entriesExact T _ _ _ _ _ s t hs h
  | revoked beneficiary record L event found refunded authorised =>
    exact revoked_entriesExact T beneficiary record L event s hs found
  | policy origin caller beneficiary autoUnlock lease record _ _ _ h =>
    exact policySet_entriesExact T _ _ _ _ _ s t hs h

/-- A turn of the expiry loop touches the record of nobody else. -/
theorem expireIteration_frame (now : ℕ) (s : T.State) (beneficiary b : A) (hb : b ≠ beneficiary) :
    (expireIteration T now s beneficiary).sponsorships.get b = s.sponsorships.get b := by
  rcases expireIteration_cases T now s beneficiary with hid | ⟨record, L, event, hrev⟩
  · rw [hid]
  · rw [hrev]
    change (s.sponsorships.remove beneficiary).get b = _
    rw [StorageMap.get_remove, if_neg hb]

/-- Every account of the taken bucket has, when its turn comes, a lease that ends now. -/
theorem expireLoop_leased (now : ℕ) (expiring : List A) (s : T.State) (hnodup : expiring.Nodup)
    (hs : ∀ b, b ∈ expiring → LeasedUntil T s now b) :
    Along (expireIteration T now) (fun u b => LeasedUntil T u now b) s expiring := by
  induction expiring generalizing s with
  | nil => trivial
  | cons b rest ih =>
    obtain ⟨hb, hrest⟩ := List.nodup_cons.mp hnodup
    refine ⟨hs b List.mem_cons_self, ih _ hrest ?_⟩
    intro c hc
    obtain ⟨record, hget, hlease⟩ := hs c (List.mem_cons_of_mem b hc)
    have hne : c ≠ b := fun he => hb (he ▸ hc)
    exact ⟨record, (expireIteration_frame T now s b c hne).trans hget, hlease⟩

/-- Taking a bucket out of storage leaves the other entries as they are. -/
theorem take_entriesExact (now : ℕ) (s : T.State) (hs : EntriesExact T s) :
    EntriesExact T { s with expirations := s.expirations.remove now } := by
  have hbucket : ∀ e, bucket T { s with expirations := s.expirations.remove now } e =
      if e = now then BoundedVec.empty else bucket T s e :=
    fun e => StorageMap.getD_remove _ _ _ _
  constructor
  · intro e b hb
    rw [hbucket] at hb
    split at hb
    · exact absurd hb List.not_mem_nil
    · exact hs.leased e b hb
  · intro e
    rw [hbucket]
    split
    · exact List.nodup_nil
    · exact hs.bucketNodup e
  · exact hs.queued
  · exact hs.queueNodup

theorem processExpirations_entriesExact (now : ℕ) (s : T.State) (hs : EntriesExact T s) :
    EntriesExact T (processExpirations T now s).1 :=
  expireLoop_preserves (O := O) T (EntriesExact T) now
    (fun _ u v hu hv => outcome_entriesExact T _ u v hu hv) _ _ (take_entriesExact T now s hs)

/-- The middle of the auto-unlock loop: those put back and those still to be handled are
sponsored and all different. -/
structure PassExact (pass : AutoUnlockPass A Λ T.maxQueueProcessingPerBlock) (rest : List A) :
    Prop where
  entries : EntriesExact T pass.storage
  sponsored : ∀ b, b ∈ pass.unprocessed ++ pass.requeue ++ rest →
    isSponsored T b pass.storage = true
  nodup : (pass.unprocessed ++ pass.requeue ++ rest).Nodup

/-- An auto-unlock attempt touches the record of nobody else. -/
theorem tryAutoUnlockInternal_frame (beneficiary b : A) (s : T.State) (hb : b ≠ beneficiary) :
    (tryAutoUnlockInternal T beneficiary true s).2.sponsorships.get b = s.sponsorships.get b := by
  rcases tryAutoUnlockInternal_cases T beneficiary s with
    hs | ⟨record, c, L, event, -, -, -, -, hs⟩
  · rw [hs]
  · rw [hs]
    change (s.sponsorships.remove beneficiary).get b = _
    rw [StorageMap.get_remove, if_neg hb]

theorem autoUnlockIteration_exact (pass : AutoUnlockPass A Λ T.maxQueueProcessingPerBlock)
    (beneficiary : A) (index : ℕ) (rest : List A) (h : PassExact T pass (beneficiary :: rest)) :
    PassExact T (autoUnlockIteration T pass (beneficiary, index)) rest := by
  have hperm : (pass.unprocessed ++ pass.requeue ++ (beneficiary :: rest)).Perm
      (beneficiary :: (pass.unprocessed ++ pass.requeue ++ rest)) := List.perm_middle
  obtain ⟨hnot, hnodup⟩ := List.nodup_cons.mp (hperm.nodup_iff.mp h.nodup)
  have hothers : ∀ b, b ∈ pass.unprocessed ++ pass.requeue ++ rest → b ≠ beneficiary ∧
      isSponsored T b pass.storage = true := by
    intro b hb
    exact ⟨fun he => hnot (he ▸ hb),
      h.sponsored b (hperm.mem_iff.mpr (List.mem_cons_of_mem beneficiary hb))⟩
  by_cases hindex : index < T.maxQueueProcessingPerBlock
  · have hstorage := outcome_entriesExact T _ _ _ h.entries
      (autoUnlock_outcome T (.autoUnlock beneficiary index : Action A O) beneficiary pass.storage)
    have hkept : ∀ b, b ∈ pass.unprocessed ++ pass.requeue ++ rest → isSponsored T b
        (tryAutoUnlockInternal T beneficiary true pass.storage).2 = true := by
      intro b hb
      unfold isSponsored
      rw [tryAutoUnlockInternal_frame T beneficiary b _ (hothers b hb).1]
      exact (hothers b hb).2
    rw [autoUnlockIteration_eq T pass beneficiary index hindex]
    by_cases hawaits : awaitsUnlock T (tryAutoUnlockInternal T beneficiary true pass.storage).2
        beneficiary = true
    · -- put back: it is still sponsored, and nobody else has its place
      obtain ⟨record, hget, -⟩ := (awaitsUnlock_iff T _ beneficiary).mp hawaits
      have hput : (pass.unprocessed ++ (pass.requeue ++ [beneficiary]) ++ rest).Perm
          (beneficiary :: (pass.unprocessed ++ pass.requeue ++ rest)) := by
        rw [← List.append_assoc, List.append_assoc]
        exact List.perm_middle
      simp only [hawaits, if_true]
      refine ⟨hstorage, ?_, hput.nodup_iff.mpr (List.nodup_cons.mpr ⟨hnot, hnodup⟩)⟩
      intro b hb
      rcases List.mem_cons.mp (hput.mem_iff.mp hb) with rfl | hrest
      · exact (isSponsored_iff T b _).mpr ⟨record, hget⟩
      · exact hkept b hrest
    · simp only [hawaits, Bool.false_eq_true, if_false]
      exact ⟨hstorage, hkept, hnodup⟩
  · -- over the limit: the entry only moves to `unprocessed`
    have hput : (pass.unprocessed ++ [beneficiary] ++ pass.requeue ++ rest).Perm
        (pass.unprocessed ++ pass.requeue ++ (beneficiary :: rest)) := by
      rw [List.append_assoc, List.append_assoc, List.append_assoc, List.singleton_append]
      exact List.Perm.append_left _ List.perm_middle.symm
    simp only [autoUnlockIteration, if_pos (Nat.not_lt.mp hindex)]
    exact ⟨h.entries, fun b hb => h.sponsored b (hput.mem_iff.mp hb), hput.nodup_iff.mpr h.nodup⟩

/-- The loop from any of its turns on: every account is still sponsored when its turn comes. -/
theorem autoUnlockPass_exact (entries : List (A × ℕ))
    (pass : AutoUnlockPass A Λ T.maxQueueProcessingPerBlock)
    (h : PassExact T pass (entries.map Prod.fst)) :
    Along (autoUnlockIteration T) (fun p entry => isSponsored T entry.1 p.storage = true) pass
        entries ∧
      PassExact T (entries.foldl (autoUnlockIteration T) pass) [] := by
  induction entries generalizing pass with
  | nil => exact ⟨trivial, h⟩
  | cons entry entries ih =>
    have hnext := autoUnlockIteration_exact (O := O) T pass entry.1 entry.2 _ h
    obtain ⟨halong, hend⟩ := ih _ hnext
    have hhead : entry.1 ∈ pass.unprocessed ++ pass.requeue ++ (entry :: entries).map Prod.fst :=
      List.mem_append_right _ List.mem_cons_self
    exact ⟨⟨h.sponsored entry.1 hhead, halong⟩, hend⟩

/-- The loop of `process_auto_unlock_queue` starts with all of the queue to be handled. -/
theorem passExact_start (s : T.State) (hs : EntriesExact T s) :
    PassExact T (⟨[], [], 0, { s with autoUnlockQueue := BoundedVec.empty }⟩ :
      AutoUnlockPass A Λ T.maxQueueProcessingPerBlock)
      (s.autoUnlockQueue.toList.zipIdx.map Prod.fst) := by
  rw [List.zipIdx_map_fst]
  refine ⟨⟨hs.leased, hs.bucketNodup, ?_, List.nodup_nil⟩, hs.queued, hs.queueNodup⟩
  intro b hb
  exact absurd hb List.not_mem_nil

theorem processAutoUnlockQueue_entriesExact (s t : T.State) (processed : ℕ)
    (hs : EntriesExact T s) (h : processAutoUnlockQueue T s = some (t, processed)) :
    EntriesExact T t := by
  obtain ⟨next, hnext, heq⟩ := processAutoUnlockQueue_eq T s
  rw [heq] at h
  cases h
  have hend := (autoUnlockPass_exact (O := O) T _ _ (passExact_start T s hs)).2
  have hsponsored := hend.sponsored
  have hnodup := hend.nodup
  rw [List.append_nil] at hsponsored hnodup
  refine ⟨hend.entries.leased, hend.entries.bucketNodup, ?_, ?_⟩
  · intro b hb
    change b ∈ next.toList at hb
    rw [hnext] at hb
    exact hsponsored b hb
  · change next.toList.Nodup
    rw [hnext]
    exact hnodup

theorem step_entriesExact (s : T.State) (op : Op A O Λ) (hs : EntriesExact T s) :
    EntriesExact T (step T s op) := by
  cases op with
  | entry e => exact outcome_entriesExact T _ s _ hs (entry_outcome T e s)
  | genesisBuild initial =>
    simp only [step]
    rcases h : genesisBuild T initial s with _ | t
    · exact hs
    · exact genesisBuild_preserves T (EntriesExact T) initial
        (fun i _ u v hu hv => outcome_entriesExact T _ u v hu hv) s t hs h
  | onInitialize now =>
    obtain ⟨processed, hqueue⟩ := step_onInitialize (O := O) T now s
    have hblock : EntriesExact T { s with blockNumber := now } :=
      ⟨hs.leased, hs.bucketNodup, hs.queued, hs.queueNodup⟩
    have hexpired := processExpirations_entriesExact (O := O) T now _ hblock
    exact processAutoUnlockQueue_entriesExact (O := O) T _ _ _ hexpired hqueue
  | environment f => exact ⟨hs.leased, hs.bucketNodup, hs.queued, hs.queueNodup⟩

theorem run_entriesExact (L : Λ) (ops : List (Op A O Λ)) :
    EntriesExact T (run (step T) (emptyStorage T L) ops) := by
  refine run_invariant_always (step T) (EntriesExact T) (step_entriesExact T) ops _ ?_
  have hbucket : ∀ e, bucket T (emptyStorage T L) e = BoundedVec.empty :=
    fun e => StorageMap.getD_empty e _
  constructor
  · intro e b hb
    rw [hbucket] at hb
    exact absurd hb List.not_mem_nil
  · intro e
    rw [hbucket]
    exact List.nodup_nil
  · intro b hb
    exact absurd hb List.not_mem_nil
  · exact List.nodup_nil

/-- In every state that a run reaches, an account in the bucket of block `e` is sponsored with
a lease until `e`, is there once and in no other bucket; an account in the queue is sponsored
and there once; and both are as short as the hook needs. So when the hook of the next block
runs, neither loop comes across an entry that it would have to skip. -/
theorem indexes_hold_no_stale_entry (L : Λ) (ops : List (Op A O Λ)) :
    let s := run (step T) (emptyStorage T L) ops
    (∀ e b, b ∈ (bucket T s e).toList → LeasedUntil T s e b ∧
      (bucket T s e).toList.count b = 1 ∧ ∀ k, k ≠ e → b ∉ (bucket T s k).toList) ∧
    (∀ b, b ∈ s.autoUnlockQueue.toList → isSponsored T b s = true) ∧
    s.autoUnlockQueue.toList.Nodup ∧
    (∀ e, (bucket T s e).toList.length ≤ T.maxQueueProcessingPerBlock) ∧
    s.autoUnlockQueue.toList.length ≤ T.maxQueueProcessingPerBlock ∧
    ∀ now, Along (expireIteration T now) (fun u b => LeasedUntil T u now b)
        { s with blockNumber := now, expirations := s.expirations.remove now }
        (bucket T s now).toList ∧
      let u := (processExpirations T now { s with blockNumber := now }).1
      Along (autoUnlockIteration T) (fun p entry => isSponsored T entry.1 p.storage = true)
        ⟨[], [], 0, { u with autoUnlockQueue := BoundedVec.empty }⟩
        u.autoUnlockQueue.toList.zipIdx := by
  intro s
  have hs : EntriesExact T s := run_entriesExact T L ops
  refine ⟨?_, hs.queued, hs.queueNodup, fun e => (bucket T s e).bounded,
    s.autoUnlockQueue.bounded, ?_⟩
  · intro e b hb
    refine ⟨hs.leased e b hb, List.count_eq_one_of_mem (hs.bucketNodup e) hb, ?_⟩
    intro k hk hbk
    obtain ⟨record, hget, hlease⟩ := hs.leased e b hb
    obtain ⟨record', hget', hlease'⟩ := hs.leased k b hbk
    rw [hget] at hget'
    cases hget'
    rw [hlease] at hlease'
    cases hlease'
    exact hk rfl
  · intro now
    have hblock : EntriesExact T { s with blockNumber := now } :=
      ⟨hs.leased, hs.bucketNodup, hs.queued, hs.queueNodup⟩
    constructor
    · exact expireLoop_leased T now _ _ (hs.bucketNodup now) (hs.leased now)
    · intro u
      have hu : EntriesExact T u := processExpirations_entriesExact (O := O) T now _ hblock
      exact (autoUnlockPass_exact (O := O) T _ _ (passExact_start T u hu)).1

end NuloChain.Sponsorship
