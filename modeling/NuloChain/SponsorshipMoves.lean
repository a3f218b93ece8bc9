import NuloChain.SponsorshipRuns
import NuloChain.FrameReplay

/-! A run taken apart into moves. A move is one creation, one revocation or one change of
policy that went through, with the call it came from and the event it left; between them there
is only bookkeeping in the indexes. -/
namespace NuloChain.Sponsorship
open Frame
set_option linter.unusedSectionVars false
variable {A O R Λ : Type} [DecidableEq A] (T : Config A O R Λ)

/-- The events with which the sponsorship `record` of `b` may end. -/
inductive Closes (b : A) (record : SponsorshipRecord A) : Event A → Prop
  | unlocked (reason : UnlockReason) :
      Closes b record (.unlocked record.sponsor b record.amount reason)
  | expired (h : record.lease ≠ .none) : Closes b record (.expired record.sponsor b record.amount)
  | autoUnlocked (c : AutoUnlockCondition) (h : record.autoUnlock = .enabled c) :
      Closes b record (.autoUnlocked record.sponsor b record.amount c)

/-- One move. A creation leaves an event if `emitEvent` says so: the genesis build is silent. -/
inductive Move (emitEvent : Bool) (s t : T.State) : Prop
  | bookkeeping (funds : SameFunds T s t) (events : t.events = s.events)
  | sponsored (sponsor b : A) (amount : ℕ) (autoUnlock : AutoUnlockMode) (lease : Lease) (u : Unit)
      (h : doSponsor T sponsor b amount autoUnlock lease emitEvent s = (.ok u, t))
  | revoked (b : A) (record : SponsorshipRecord A) (L : Λ) (event : Event A)
      (found : s.sponsorships.get b = some record) (refunded : Refunded T s b record L)
      (closes : Closes b record event)
      (result : t = logged T event (revokedStorage T b record L s))
  | policy (origin : O) (b : A) (autoUnlock : AutoUnlockMode) (lease : Lease) (u : Unit)
      (h : setPolicy T origin b autoUnlock lease s = (.ok u, t))

theorem move_refl (emitEvent : Bool) (s : T.State) : Move T emitEvent s s :=
  .bookkeeping ⟨rfl, rfl, rfl, rfl⟩ rfl

theorem events_revokedStorage (b : A) (record : SponsorshipRecord A) (L : Λ) (s : T.State) :
    (revokedStorage T b record L s).events = s.events := by
  obtain ⟨expirations, he⟩ := removeExpiration_eq T b record.lease s
  simp only [revokedStorage, dequeueAutoUnlock, he]

/-- A revocation that goes through is a move, under any event that its record allows. -/
theorem revokeSponsorship_move (emitEvent : Bool) (b : A) (record : SponsorshipRecord A)
    (event : Event A) (s t : T.State) (h : revokeSponsorship T b s = (.ok record, t))
    (closes : Closes b record event) : Move T emitEvent s (logged T event t) := by
  obtain ⟨hfound, L, hL, rfl⟩ := (revokeSponsorship_ok_iff T b record s t).mp h
  exact .revoked b record L event hfound hL closes rfl

theorem unlockAs_move (caller b : A) (s : T.State) : Move T true s (unlockAs T caller b s).2 := by
  rcases hx : unlockAs T caller b s with ⟨e | u, t⟩
  -- every way to fail comes before the revocation has written anything
  · simp only [unlockAs, depositEvent, Dispatch.bind_error_iff, Dispatch.read_ne_error, false_or,
      Dispatch.read_ok_iff, Dispatch.okOr_error_iff, Dispatch.okOr_ok_iff,
      Dispatch.ensure_error_iff, Dispatch.ensure_ok_iff, Dispatch.write_ne_error, and_false,
      exists_false, or_false] at hx
    obtain ⟨_, _, ⟨rfl, rfl⟩, ⟨-, -, rfl⟩ | ⟨_, _, ⟨-, rfl⟩, ⟨-, -, rfl⟩ | ⟨_, _, ⟨-, rfl⟩, h⟩⟩⟩ := hx
    · exact move_refl T true _
    · exact move_refl T true _
    · rw [revokeSponsorship_error T _ _ _ _ h]
      exact move_refl T true _
  · simp only [unlockAs, depositEvent, Dispatch.bind_ok_iff, Dispatch.read_ok_iff,
      Dispatch.okOr_ok_iff, Dispatch.ensure_ok_iff, Dispatch.write_ok_iff] at hx
    obtain ⟨_, _, ⟨rfl, rfl⟩, _, _, ⟨-, rfl⟩, _, _, ⟨-, rfl⟩, record, _, hrevoke, rfl⟩ := hx
    exact revokeSponsorship_move T true b record _ _ _ hrevoke (.unlocked .manual)

/-- An auto-unlock attempt changes nothing, or revokes and says under which condition. -/
theorem tryAutoUnlockInternal_turn (b : A) (s : T.State) :
    (tryAutoUnlockInternal T b true s).2 = s ∨ ∃ record c t,
      revokeSponsorship T b s = (.ok record, t) ∧ record.autoUnlock = .enabled c ∧
      (tryAutoUnlockInternal T b true s).2 =
        logged T (.autoUnlocked record.sponsor b record.amount c) t := by
  rw [tryAutoUnlockInternal_storage]
  rcases hr : s.sponsorships.get b with _ | record
  · exact Or.inl rfl
  rcases hmode : record.autoUnlock with _ | c
  · left
    simp only [hmode]
  by_cases hmet : autoUnlockConditionMet T b record.amount c s = true
  · simp only [hmode, hmet, if_true]
    rcases hrev : revokeSponsorship T b s with ⟨e | r, t⟩
    · exact Or.inl (revokeSponsorship_error T _ _ _ _ hrev)
    · obtain ⟨hfound, -⟩ := (revokeSponsorship_ok_iff T _ _ _ _).mp hrev
      rw [hr] at hfound
      cases hfound
      exact Or.inr ⟨record, c, t, rfl, hmode, rfl⟩
  · left
    simp only [hmode, hmet, Bool.false_eq_true, if_false]

theorem tryAutoUnlockInternal_move (b : A) (s : T.State) :
    Move T true s (tryAutoUnlockInternal T b true s).2 := by
  rcases tryAutoUnlockInternal_turn T b s with hsame | ⟨record, c, t, hrevoke, hmode, hturn⟩
  · rw [hsame]
    exact move_refl T true s
  · rw [hturn]
    exact revokeSponsorship_move T true b record _ s t hrevoke (.autoUnlocked c hmode)

theorem forceUnlock_move (origin : O) (b : A) (s t : T.State) (u : Unit)
    (h : forceUnlock T origin b s = (.ok u, t)) : Move T true s t := by
  simp only [forceUnlock, depositEvent, Dispatch.bind_ok_iff, Dispatch.ensure_ok_iff,
    Dispatch.write_ok_iff] at h
  obtain ⟨_, _, ⟨-, rfl⟩, record, _, hrevoke, rfl⟩ := h
  exact revokeSponsorship_move T true b record _ _ _ hrevoke (.unlocked .force)

theorem call_move (origin : O) (call : Call A) (s : T.State) :
    Move T true s (dispatch T origin call s).2 := by
  refine Dispatch.follows_transactional (Move T true) (move_refl T true) _ ?_ s
  intro s u t hok
  cases call with
  | sponsor b amount autoUnlock lease =>
    obtain ⟨who, -, h⟩ := signed_ok T _ _ _ _ _ hok
    exact .sponsored who b amount autoUnlock lease u h
  | sponsorMinimum b autoUnlock lease =>
    obtain ⟨who, -, h⟩ := signed_ok T _ _ _ _ _ hok
    exact .sponsored who b _ autoUnlock lease u h
  | unlock b =>
    obtain ⟨who, -, h⟩ := signed_ok T _ _ _ _ _ hok
    have hmove := unlockAs_move T who b s
    rw [h] at hmove
    exact hmove
  | setPolicy b autoUnlock lease => exact .policy origin b autoUnlock lease u hok
  | forceUnlock b => exact forceUnlock_move T origin b s t u hok
  | refresh b =>
    obtain ⟨who, -, h⟩ := signed_ok T _ _ _ _ _ hok
    simp only [Dispatch.bind_ok_iff, Dispatch.pure_ok_iff] at h
    obtain ⟨a, _, h, -, rfl⟩ := h
    have hmove := tryAutoUnlockInternal_move T b s
    rw [h] at hmove
    exact hmove

theorem doSponsor_move (sponsor b : A) (amount : ℕ) (autoUnlock : AutoUnlockMode) (lease : Lease)
    (emitEvent : Bool) (s : T.State) :
    Move T emitEvent s (doSponsor T sponsor b amount autoUnlock lease emitEvent s).2 := by
  refine Dispatch.follows_transactional (Move T emitEvent) (move_refl T emitEvent) _ ?_ s
  intro s u t hok
  exact .sponsored sponsor b amount autoUnlock lease u
    ((Dispatch.transactional_ok_iff _ _ _ _).mpr hok)

theorem entry_move (e : Entry A O) (s : T.State) : Move T true s (entryStep T s e) := by
  cases e with
  | call origin call => exact call_move T origin call s
  | createSponsorship sponsor b amount autoUnlock lease =>
    exact doSponsor_move T sponsor b amount autoUnlock lease true s
  | unlockSponsorship sponsor b => exact unlockAs_move T sponsor b s
  | tryAutoUnlock b =>
    rw [entryStep, tryAutoUnlock_storage]
    exact tryAutoUnlockInternal_move T b s

/-- A turn of the expiry loop changes nothing, or revokes a sponsorship that ends now. -/
theorem expireIteration_turn (now : ℕ) (b : A) (s : T.State) :
    expireIteration T now s b = s ∨ ∃ record t,
      revokeSponsorship T b s = (.ok record, t) ∧ record.lease = .until now ∧
      expireIteration T now s b = logged T (.expired record.sponsor b record.amount) t := by
  unfold expireIteration
  rcases hr : s.sponsorships.get b with _ | record
  · exact Or.inl rfl
  by_cases hlease : record.lease = .until now
  · simp only [hlease, ne_eq, not_true_eq_false, if_false]
    rcases hrev : revokeSponsorship T b s with ⟨e | r, t⟩
    · exact Or.inl (revokeSponsorship_error T _ _ _ _ hrev)
    · obtain ⟨hfound, -⟩ := (revokeSponsorship_ok_iff T _ _ _ _).mp hrev
      rw [hr] at hfound
      cases hfound
      exact Or.inr ⟨record, t, rfl, hlease, rfl⟩
  · left
    simp only [hlease, ne_eq, not_false_eq_true, if_true]

theorem expireIteration_move (now : ℕ) (b : A) (s : T.State) :
    Move T true s (expireIteration T now s b) := by
  rcases expireIteration_turn T now b s with hsame | ⟨record, t, hrevoke, hlease, hturn⟩
  · rw [hsame]
    exact move_refl T true s
  · have hends : record.lease ≠ .none := by
      rw [hlease]
      exact Lease.noConfusion
    rw [hturn]
    exact revokeSponsorship_move T true b record _ s t hrevoke (.expired hends)

theorem autoUnlockIteration_move (pass : AutoUnlockPass A Λ T.maxQueueProcessingPerBlock)
    (entry : A × ℕ) : Move T true pass.storage (autoUnlockIteration T pass entry).storage := by
  obtain ⟨b, index⟩ := entry
  by_cases hindex : index < T.maxQueueProcessingPerBlock
  · simp only [autoUnlockIteration_eq T _ _ _ hindex]
    exact tryAutoUnlockInternal_move T b pass.storage
  · simp only [autoUnlockIteration, if_pos (Nat.not_lt.mp hindex)]
    exact move_refl T true pass.storage

/-- A sequence of moves. -/
abbrev Moves (emitEvent : Bool) : T.State → T.State → Prop :=
  Relation.ReflTransGen (Move T emitEvent)

theorem expireLoop_moves (now : ℕ) (expiring : List A) (s : T.State) :
    Moves T true s (expiring.foldl (expireIteration T now) s) := by
  induction expiring generalizing s with
  | nil => exact .refl
  | cons b expiring ih =>
    exact .head (expireIteration_move T now b s) (ih (expireIteration T now s b))

theorem autoUnlockPass_moves (entries : List (A × ℕ))
    (pass : AutoUnlockPass A Λ T.maxQueueProcessingPerBlock) :
    Moves T true pass.storage (entries.foldl (autoUnlockIteration T) pass).storage := by
  induction entries generalizing pass with
  | nil => exact .refl
  | cons entry entries ih =>
    exact .head (autoUnlockIteration_move T pass entry) (ih (autoUnlockIteration T pass entry))

/-- The hook makes the moves of its two loops, one after the other. -/
theorem onInitialize_moves (now : ℕ) (s : T.State) :
    Moves T true s (step T s (.onInitialize now : Op A O Λ)) := by
  obtain ⟨queue, hqueue⟩ := step_onInitialize_loop (O := O) T now s
  rw [hqueue]
  let taken := { s with blockNumber := now, expirations := s.expirations.remove now }
  let middle := (processExpirations T now { s with blockNumber := now }).1
  -- taking the bucket and the queue, and putting the queue back, is bookkeeping
  have htaken : Move T true s taken := .bookkeeping ⟨rfl, rfl, rfl, rfl⟩ rfl
  have hexpired := expireLoop_moves T now (bucket T { s with blockNumber := now } now).toList taken
  have hemptied : Move T true middle { middle with autoUnlockQueue := BoundedVec.empty } :=
    .bookkeeping ⟨rfl, rfl, rfl, rfl⟩ rfl
  have hunlocked := autoUnlockPass_moves T middle.autoUnlockQueue.toList.zipIdx
    ⟨[], [], 0, { middle with autoUnlockQueue := BoundedVec.empty }⟩
  have hput : Move T true (autoUnlockLoop T middle).storage
      { (autoUnlockLoop T middle).storage with autoUnlockQueue := queue } :=
    .bookkeeping ⟨rfl, rfl, rfl, rfl⟩ rfl
  exact .head htaken (hexpired.trans (.head hemptied (hunlocked.tail hput)))

theorem genesisBuild_moves (initial : List (InitialSponsorship A)) (s t : T.State)
    (h : genesisBuild T initial s = some t) : Moves T false s t := by
  refine genesisBuild_doSponsor T (Moves T false s) initial ?_ s t .refl h
  intro i _ u v done hu hv
  exact hu.tail (.sponsored i.sponsor i.beneficiary i.amount i.autoUnlock i.lease done hv)

/-- Every step that is not a change of the runtime underneath is a sequence of moves. -/
theorem step_moves (s : T.State) (op : Op A O Λ) (hop : ∀ f, op ≠ .environment f) :
    ∃ emitEvent, Moves T emitEvent s (step T s op) ∧
      ((∀ initial, op ≠ .genesisBuild initial) → emitEvent = true) := by
  cases op with
  | entry e => exact ⟨true, .single (entry_move T e s), fun _ => rfl⟩
  | genesisBuild initial =>
    refine ⟨false, ?_, fun hno => absurd rfl (hno initial)⟩
    simp only [step]
    rcases h : genesisBuild T initial s with _ | t
    · exact .refl
    · exact genesisBuild_moves T initial s t h
  | onInitialize now => exact ⟨true, onInitialize_moves T now s, fun _ => rfl⟩
  | environment f => exact absurd rfl (hop f)

end NuloChain.Sponsorship
