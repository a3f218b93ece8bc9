import NuloChain.SponsorshipEntries

/-! The auto-unlock pass against the call it repeats. The pass works on a queue it has taken
out of the storage, with the body of `refresh` written out; nothing of what `refresh` does
depends on the queue, so the two agree on everything but that. -/
namespace NuloChain.Sponsorship
open Frame
set_option linter.unusedSectionVars false
variable {A O R Λ : Type} [DecidableEq A] (T : Config A O R Λ)

/-- One `refresh` of each account in turn, whatever the calls return. -/
def refreshEach (origin : O) (s : T.State) (accounts : List A) : T.State :=
  run (fun s b => (dispatch T origin (.refresh b) s).2) s accounts

/-- The storages agree but for the queue. -/
def SameButQueue (s t : T.State) : Prop :=
  { s with autoUnlockQueue := t.autoUnlockQueue } = t

/-- A refund does not look at the queue. -/
theorem SameButQueue.refunded {s t : T.State} (h : SameButQueue T s t) (beneficiary : A)
    (record : SponsorshipRecord A) (L : Λ) (hL : Refunded T s beneficiary record L) :
    Refunded T t beneficiary record L := by
  rw [← h]
  exact hL

theorem SameButQueue.symm {s t : T.State} (h : SameButQueue T s t) : SameButQueue T t s := by
  rw [← h]
  rfl

/-- The same revocations succeed, to the same effect. -/
theorem SameButQueue.revoked {s t : T.State} (h : SameButQueue T s t) (beneficiary : A)
    (record : SponsorshipRecord A) (u : T.State)
    (hu : revokeSponsorship T beneficiary s = (.ok record, u)) :
    ∃ v, revokeSponsorship T beneficiary t = (.ok record, v) ∧ SameButQueue T u v := by
  obtain ⟨hfound, L, hL, rfl⟩ := (revokeSponsorship_ok_iff T beneficiary record s u).mp hu
  refine ⟨revokedStorage T beneficiary record L t, ?_, ?_⟩
  · rw [revokeSponsorship_ok_iff]
    refine ⟨?_, L, h.refunded T beneficiary record L hL, rfl⟩
    rw [← h]
    exact hfound
  · rw [← h]
    obtain ⟨sponsor, amount, autoUnlock, lease, createdAt⟩ := record
    cases lease with
    | none => rfl
    | «until» expiry => rfl

/-- The same auto-unlock attempts revoke, to the same effect. -/
theorem SameButQueue.tryAutoUnlock {s t : T.State} (h : SameButQueue T s t) (beneficiary : A) :
    SameButQueue T (tryAutoUnlockInternal T beneficiary true s).2
      (tryAutoUnlockInternal T beneficiary true t).2 := by
  have hfound : t.sponsorships.get beneficiary = s.sponsorships.get beneficiary := by
    rw [← h]
  rw [tryAutoUnlockInternal_storage, tryAutoUnlockInternal_storage, hfound]
  rcases s.sponsorships.get beneficiary with _ | record
  · exact h
  rcases hmode : record.autoUnlock with _ | c
  · simp only [hmode]
    exact h
  have hmet : autoUnlockConditionMet T beneficiary record.amount c t =
      autoUnlockConditionMet T beneficiary record.amount c s := by
    rw [← h]
    rfl
  simp only [hmode, hmet]
  split
  · rcases hrevoke : revokeSponsorship T beneficiary s with ⟨e | r, u⟩
    · rcases hrevoke' : revokeSponsorship T beneficiary t with ⟨e' | r', v⟩
      · rw [revokeSponsorship_error T _ _ _ _ hrevoke, revokeSponsorship_error T _ _ _ _ hrevoke']
        exact h
      -- refused in one and granted in the other is impossible
      · obtain ⟨w, hw, -⟩ := (h.symm T).revoked T beneficiary r' v hrevoke'
        rw [hrevoke] at hw
        cases hw
    · obtain ⟨v, hv, huv⟩ := h.revoked T beneficiary r u hrevoke
      rw [hv]
      unfold SameButQueue logged
      rw [← huv]
  · exact h

/-- An auto-unlock attempt that fails has written nothing. -/
theorem tryAutoUnlockInternal_error (beneficiary : A) (s t : T.State) (e : Error)
    (h : tryAutoUnlockInternal T beneficiary true s = (.error e, t)) : t = s := by
  simp only [tryAutoUnlockInternal, Dispatch.bind_error_iff, Dispatch.read_ne_error, false_or,
    Dispatch.read_ok_iff, Dispatch.okOr_error_iff, Dispatch.okOr_ok_iff] at h
  obtain ⟨_, _, ⟨rfl, rfl⟩, ⟨-, -, rfl⟩ | ⟨record, _, ⟨-, rfl⟩, h⟩⟩ := h
  · rfl
  · rcases hmode : record.autoUnlock with _ | c
    · rw [hmode] at h
      exact absurd h (Dispatch.pure_ne_error _ _ _ _)
    · simp only [hmode] at h
      split at h
      · simp only [Dispatch.bind_error_iff, Dispatch.when_error_iff, depositEvent,
          Dispatch.write_ne_error, Dispatch.pure_ne_error, and_false, exists_false, or_false] at h
        exact revokeSponsorship_error T _ _ _ _ h
      · exact absurd h (Dispatch.pure_ne_error _ _ _ _)

/-- A `refresh` of a signed origin is an auto-unlock attempt. -/
theorem refresh_storage (origin : O) (caller beneficiary : A) (s : T.State)
    (hsigned : T.ensureSigned origin = some caller) :
    (dispatch T origin (.refresh beneficiary) s).2 =
      (tryAutoUnlockInternal T beneficiary true s).2 := by
  change (Dispatch.transactional (refresh T origin beneficiary) s).2 = _
  rcases htry : tryAutoUnlockInternal T beneficiary true s with ⟨e | done, t⟩
  · have hbody : refresh T origin beneficiary s = (.error e, t) := by
      simp [refresh, ensureSigned, Dispatch.okOr, hsigned, bind, htry]
    rw [Dispatch.transactional, hbody, tryAutoUnlockInternal_error T beneficiary s t e htry]
  · have hbody : refresh T origin beneficiary s = (.ok (), t) := by
      simp [refresh, ensureSigned, Dispatch.okOr, hsigned, bind, htry]
    rw [Dispatch.transactional, hbody]

/-- The middle of the pass: its storage is that of the calls made so far but for the queue, and
of those handled it puts back the ones that still wait, in their order. -/
structure PassRefreshes (pass : AutoUnlockPass A Λ T.maxQueueProcessingPerBlock) (u : T.State)
    (handled : List A) : Prop where
  storage : SameButQueue T u pass.storage
  unprocessed : pass.unprocessed = []
  requeue : pass.requeue = handled.filter (awaitsUnlock T pass.storage)

theorem autoUnlockIteration_refreshes (origin : O) (caller : A)
    (hsigned : T.ensureSigned origin = some caller)
    (pass : AutoUnlockPass A Λ T.maxQueueProcessingPerBlock) (u : T.State) (handled : List A)
    (beneficiary : A) (index : ℕ) (hindex : index < T.maxQueueProcessingPerBlock)
    (hnew : beneficiary ∉ handled) (h : PassRefreshes T pass u handled) :
    PassRefreshes T (autoUnlockIteration T pass (beneficiary, index))
      (dispatch T origin (.refresh beneficiary) u).2 (handled ++ [beneficiary]) := by
  rw [refresh_storage T origin caller beneficiary u hsigned,
    autoUnlockIteration_eq T pass beneficiary index hindex]
  refine ⟨h.storage.tryAutoUnlock T beneficiary, h.unprocessed, ?_⟩
  -- the attempt touches no record but that of the account whose turn it is
  have hkept : handled.filter
      (awaitsUnlock T (tryAutoUnlockInternal T beneficiary true pass.storage).2) =
        handled.filter (awaitsUnlock T pass.storage) := by
    apply List.filter_congr
    intro b hb
    have hne : b ≠ beneficiary := fun he => hnew (he ▸ hb)
    unfold awaitsUnlock
    rw [tryAutoUnlockInternal_frame T beneficiary b pass.storage hne]
  rw [List.filter_append, hkept, h.requeue]
  by_cases hawaits : awaitsUnlock T (tryAutoUnlockInternal T beneficiary true pass.storage).2
      beneficiary = true
  · rw [if_pos hawaits, List.filter_cons_of_pos hawaits, List.filter_nil]
  · rw [if_neg hawaits, List.filter_cons_of_neg hawaits, List.filter_nil, List.append_nil]

/-- The loop from any of its turns on. -/
theorem autoUnlockPass_refreshes (origin : O) (caller : A)
    (hsigned : T.ensureSigned origin = some caller) (rest handled : List A)
    (pass : AutoUnlockPass A Λ T.maxQueueProcessingPerBlock) (u : T.State)
    (hlimit : handled.length+rest.length ≤ T.maxQueueProcessingPerBlock)
    (hnodup : (handled ++ rest).Nodup) (h : PassRefreshes T pass u handled) :
    PassRefreshes T ((rest.zipIdx handled.length).foldl (autoUnlockIteration T) pass)
      (refreshEach T origin u rest) (handled ++ rest) := by
  induction rest generalizing handled pass u with
  | nil =>
    rw [List.append_nil]
    exact h
  | cons b rest ih =>
    have hsplit : handled ++ b :: rest = (handled ++ [b]) ++ rest := by simp
    have hnew : b ∉ handled := by
      intro hb
      exact (List.nodup_append.mp hnodup).2.2 b hb b List.mem_cons_self rfl
    rw [List.length_cons] at hlimit
    have hstep := autoUnlockIteration_refreshes T origin caller hsigned pass u handled b
      handled.length (by omega) hnew h
    have hlength : (handled ++ [b]).length = handled.length+1 := by simp
    have hrest := ih (handled ++ [b]) _ _ (by omega) (hsplit ▸ hnodup) hstep
    rw [hlength] at hrest
    rw [hsplit]
    exact hrest

/-- The pass over a queue without repetitions is one `refresh` for each account of it, and it
leaves the accounts that are still waiting in the queue. -/
theorem processAutoUnlockQueue_refreshes (origin : O) (caller : A)
    (hsigned : T.ensureSigned origin = some caller) (s : T.State)
    (hnodup : s.autoUnlockQueue.toList.Nodup) :
    ∃ next processed, processAutoUnlockQueue T s =
        some ({ refreshEach T origin s s.autoUnlockQueue.toList with autoUnlockQueue := next },
          processed) ∧
      next.toList = s.autoUnlockQueue.toList.filter
        (awaitsUnlock T (refreshEach T origin s s.autoUnlockQueue.toList)) := by
  obtain ⟨next, hnext, heq⟩ := processAutoUnlockQueue_eq T s
  have hbound := s.autoUnlockQueue.bounded
  have hstart : PassRefreshes T
      ⟨[], [], 0, { s with autoUnlockQueue := BoundedVec.empty }⟩ s [] :=
    ⟨rfl, rfl, rfl⟩
  have hpass := autoUnlockPass_refreshes T origin caller hsigned s.autoUnlockQueue.toList [] _ s
    (by simpa using hbound) hnodup hstart
  change PassRefreshes T (autoUnlockLoop T s) _ _ at hpass
  have hstorage := hpass.storage
  unfold SameButQueue at hstorage
  refine ⟨next, (autoUnlockLoop T s).processed, ?_, ?_⟩
  · rw [heq, ← hstorage]
  · have hawaits : awaitsUnlock T (autoUnlockLoop T s).storage =
        awaitsUnlock T (refreshEach T origin s s.autoUnlockQueue.toList) := by
      rw [← hstorage]
      rfl
    rw [hnext, hpass.unprocessed, hpass.requeue, hawaits]
    rfl

/-- In every state that a run reaches, and after the expiries of any block, the auto-unlock
pass does what one `refresh` for each queued account does, in their order, and leaves those of
them in the queue that are still sponsored with auto-unlock enabled. So the hook returns. -/
theorem auto_unlock_pass_refreshes (origin : O) (caller : A)
    (hsigned : T.ensureSigned origin = some caller) (L : Λ) (ops : List (Op A O Λ)) (now : ℕ) :
    let s := run (step T) (emptyStorage T L) ops
    let expired := (processExpirations T now { s with blockNumber := now }).1
    (∀ u, u = s ∨ u = expired → ∃ next processed, processAutoUnlockQueue T u =
        some ({ refreshEach T origin u u.autoUnlockQueue.toList with autoUnlockQueue := next },
          processed) ∧
      next.toList = u.autoUnlockQueue.toList.filter
        (awaitsUnlock T (refreshEach T origin u u.autoUnlockQueue.toList))) ∧
    (onInitialize T now { s with blockNumber := now }).isSome = true := by
  intro s expired
  have hs : EntriesExact T s := run_entriesExact T L ops
  have hblock : EntriesExact T { s with blockNumber := now } :=
    ⟨hs.leased, hs.bucketNodup, hs.queued, hs.queueNodup⟩
  have hexpired : EntriesExact T expired := processExpirations_entriesExact (O := O) T now _ hblock
  refine ⟨?_, ?_⟩
  · rintro u (rfl | rfl)
    · exact processAutoUnlockQueue_refreshes T origin caller hsigned s hs.queueNodup
    · exact processAutoUnlockQueue_refreshes T origin caller hsigned expired hexpired.queueNodup
  · obtain ⟨next, processed, hqueue, -⟩ :=
      processAutoUnlockQueue_refreshes T origin caller hsigned expired hexpired.queueNodup
    change (Option.map _ (processAutoUnlockQueue T expired)).isSome = true
    rw [hqueue]
    rfl

/-- Two accounts are queued, and the first of them is paid enough to do without its sponsor. -/
def batchTrace : List (Op ℕ (RawOrigin ℕ) (Ledger ℕ HoldReason)) :=
  [.onInitialize 1,
    .entry (.call (.signed 1) (.sponsor 2 30 (.enabled .freeGeSponsored) .none)),
    .entry (.call (.signed 4) (.sponsor 6 30 (.enabled .spendableGeSponsored) .none)),
    .environment (fun L => Ledger.setFree L 2 30)]

theorem auto_unlock_pass_refreshes_batchTrace :
    let s := run (step mock) (emptyStorage mock mockLedger) batchTrace
    s.autoUnlockQueue.toList = [2, 6] ∧
    (∃ next processed, processAutoUnlockQueue mock s =
      some ({ refreshEach mock (.signed 1) s [2, 6] with autoUnlockQueue := next }, processed)) ∧
    (onInitialize mock 2 { s with blockNumber := 2 }).isSome = true := by
  intro s
  have hqueue : s.autoUnlockQueue.toList = [2, 6] := by decide +kernel
  obtain ⟨hpass, hhook⟩ := auto_unlock_pass_refreshes mock (.signed 1) 1 rfl mockLedger batchTrace 2
  obtain ⟨next, processed, hnext, -⟩ := hpass s (Or.inl rfl)
  rw [hqueue] at hnext
  exact ⟨hqueue, ⟨next, processed, hnext⟩, hhook⟩

end NuloChain.Sponsorship
