import NuloChain.SponsorshipSpecs
import NuloChain.FrameRun
import NuloChain.FrameBalances
import Mathlib.Logic.Relation

/-! The sponsorship pallet as a transition system. An action is one call, one function of
the provider trait, one genesis entry or one turn of a loop of `on_initialize`; a run mixes
them with whole hooks and with arbitrary changes of the runtime underneath. -/
namespace NuloChain.Sponsorship
open Frame
set_option linter.unusedSectionVars false
variable {A O R Λ : Type} [DecidableEq A] (T : Config A O R Λ)

inductive Call (A : Type)
  | sponsor (beneficiary : A) (amount : ℕ) (autoUnlock : AutoUnlockMode) (lease : Lease)
  | sponsorMinimum (beneficiary : A) (autoUnlock : AutoUnlockMode) (lease : Lease)
  | unlock (beneficiary : A)
  | setPolicy (beneficiary : A) (autoUnlock : AutoUnlockMode) (lease : Lease)
  | forceUnlock (beneficiary : A)
  | refresh (beneficiary : A)

/-- A dispatched call runs inside a storage layer of its own. -/
def dispatch (origin : O) (call : Call A) : T.Pallet Unit :=
  Dispatch.transactional (match call with
    | .sponsor beneficiary amount autoUnlock lease =>
      sponsor T origin beneficiary amount autoUnlock lease
    | .sponsorMinimum beneficiary autoUnlock lease =>
      sponsorMinimum T origin beneficiary autoUnlock lease
    | .unlock beneficiary => unlock T origin beneficiary
    | .setPolicy beneficiary autoUnlock lease => setPolicy T origin beneficiary autoUnlock lease
    | .forceUnlock beneficiary => forceUnlock T origin beneficiary
    | .refresh beneficiary => refresh T origin beneficiary)

/-- The ways into the pallet: a dispatched call, or a function of the provider trait. -/
inductive Entry (A O : Type)
  | call (origin : O) (call : Call A)
  | createSponsorship (sponsor beneficiary : A) (amount : ℕ) (autoUnlock : AutoUnlockMode)
      (lease : Lease)
  | unlockSponsorship (sponsor beneficiary : A)
  | tryAutoUnlock (beneficiary : A)

inductive Action (A O : Type)
  | entry (e : Entry A O)
  | initial (i : InitialSponsorship A)
  | expire (now : ℕ) (beneficiary : A)
  | autoUnlock (beneficiary : A) (index : ℕ)

/-- The storage an entry leaves, whether it succeeds or fails. -/
def entryStep (s : T.State) : Entry A O → T.State
  | .call origin call => (dispatch T origin call s).2
  | .createSponsorship sponsor beneficiary amount autoUnlock lease =>
    (createSponsorship T sponsor beneficiary amount autoUnlock lease s).2
  | .unlockSponsorship sponsor beneficiary => (unlockSponsorship T sponsor beneficiary s).2
  | .tryAutoUnlock beneficiary => (tryAutoUnlock T beneficiary s).2

def actionStep (s : T.State) : Action A O → T.State
  | .entry e => entryStep T s e
  | .initial i =>
    (doSponsor T i.sponsor i.beneficiary i.amount i.autoUnlock i.lease false s).2
  | .expire now beneficiary => expireIteration T now s beneficiary
  | .autoUnlock beneficiary index =>
    (autoUnlockIteration T ⟨[], [], 0, s⟩ (beneficiary, index)).storage

def Entry.lease : Entry A O → Option Lease
  | .call _ (.sponsor _ _ _ lease) => some lease
  | .call _ (.sponsorMinimum _ _ lease) => some lease
  | .call _ (.setPolicy _ _ lease) => some lease
  | .createSponsorship _ _ _ _ lease => some lease
  | _ => none

/-- The lease an action asks for. -/
def Action.lease : Action A O → Option Lease
  | .entry e => e.lease
  | .initial i => some i.lease
  | _ => none

/-- The grounds on which an action may end the sponsorship `record` of `beneficiary`. -/
inductive Authorised (act : Action A O) (s : T.State) (beneficiary : A)
    (record : SponsorshipRecord A) : Prop
  | sponsor (origin : O) (signed : T.ensureSigned origin = some record.sponsor)
      (hact : act = .entry (.call origin (.unlock beneficiary)))
  | provider (hact : act = .entry (.unlockSponsorship record.sponsor beneficiary))
  | force (origin : O) (passed : T.forceOrigin origin = true)
      (hact : act = .entry (.call origin (.forceUnlock beneficiary)))
  | expiry (now : ℕ) (lease : record.lease = .until now) (hact : act = .expire now beneficiary)
  | condition (c : AutoUnlockCondition) (enabled : record.autoUnlock = .enabled c)
      (met : autoUnlockConditionMet T beneficiary record.amount c s = true)

/-- Everything an action can do to the storage. -/
inductive Outcome (act : Action A O) (s : T.State) : T.State → Prop
  | idle : Outcome act s s
  | sponsored (sponsor beneficiary : A) (amount : ℕ) (autoUnlock : AutoUnlockMode)
      (lease : Lease) (t : T.State) (hact : act.lease = some lease)
      (h : Sponsored T sponsor beneficiary amount autoUnlock lease s t) : Outcome act s t
  | revoked (beneficiary : A) (record : SponsorshipRecord A) (L : Λ) (event : Event A)
      (found : s.sponsorships.get beneficiary = some record)
      (refunded : Refunded T s beneficiary record L)
      (authorised : Authorised T act s beneficiary record) :
      Outcome act s (logged T event (revokedStorage T beneficiary record L s))
  | policy (origin : O) (caller beneficiary : A) (autoUnlock : AutoUnlockMode) (lease : Lease)
      (record : SponsorshipRecord A) (t : T.State)
      (signed : T.ensureSigned origin = some caller)
      (hact : act = .entry (.call origin (.setPolicy beneficiary autoUnlock lease)))
      (h : PolicySet T caller beneficiary autoUnlock lease record s t) : Outcome act s t

/-- A record of `b` that disappears was revoked on one of the grounds. -/
theorem outcome_ended (act : Action A O) (s t : T.State) (h : Outcome T act s t) (b : A)
    (r : SponsorshipRecord A) (hb : s.sponsorships.get b = some r)
    (hgone : t.sponsorships.get b = none) :
    Authorised T act s b r ∧ Refunded T s b r t.runtime := by
  -- a record that was already missing before the action did not disappear in it
  have hthere : s.sponsorships.get b ≠ none := by
    rw [hb]
    exact Option.some_ne_none r
  cases h with
  | idle => exact absurd hgone hthere
  | sponsored sponsor beneficiary amount autoUnlock lease _ _ h =>
    rw [h.sponsorships] at hgone
    exact absurd (StorageMap.get_none_of_insert _ _ _ _ hgone) hthere
  | revoked beneficiary record L event found refunded authorised =>
    change (s.sponsorships.remove beneficiary).get b = none at hgone
    rw [StorageMap.get_remove] at hgone
    by_cases hbb : b = beneficiary
    · subst hbb
      rw [hb] at found
      cases found
      exact ⟨authorised, refunded⟩
    · rw [if_neg hbb] at hgone
      exact absurd hgone hthere
  | policy origin caller beneficiary autoUnlock lease record _ _ _ h =>
    rw [h.sponsorships] at hgone
    exact absurd (StorageMap.get_none_of_insert _ _ _ _ hgone) hthere

/-- Where a record of `b` comes from: it was there before, it has just been created, or the
sponsor has given an older one a new policy. -/
theorem outcome_record (act : Action A O) (s t : T.State) (h : Outcome T act s t) (b : A)
    (r : SponsorshipRecord A) (hb : t.sponsorships.get b = some r) :
    s.sponsorships.get b = some r ∨
    (∃ sponsor amount mode lease, act.lease = some lease ∧
      Sponsored T sponsor b amount mode lease s t ∧
      r = ⟨sponsor, amount, mode, lease, s.blockNumber⟩) ∨
    (∃ origin caller mode lease old, T.ensureSigned origin = some caller ∧
      act = .entry (.call origin (.setPolicy b mode lease)) ∧
      PolicySet T caller b mode lease old s t ∧
      r = { old with autoUnlock := mode, lease := lease }) := by
  cases h with
  | idle => exact Or.inl hb
  | sponsored sponsor beneficiary amount autoUnlock lease _ hask h =>
    rw [h.sponsorships, StorageMap.get_insert] at hb
    by_cases hbb : b = beneficiary
    · subst hbb
      rw [if_pos rfl] at hb
      exact Or.inr (Or.inl ⟨sponsor, amount, autoUnlock, lease, hask, h, (Option.some.inj hb).symm⟩)
    · rw [if_neg hbb] at hb
      exact Or.inl hb
  | revoked beneficiary old L event found refunded authorised =>
    change (s.sponsorships.remove beneficiary).get b = some r at hb
    rw [StorageMap.get_remove] at hb
    split at hb
    · cases hb
    · exact Or.inl hb
  | policy origin caller beneficiary autoUnlock lease old _ signed hact h =>
    rw [h.sponsorships, StorageMap.get_insert] at hb
    by_cases hbb : b = beneficiary
    · subst hbb
      rw [if_pos rfl] at hb
      exact Or.inr (Or.inr ⟨origin, caller, autoUnlock, lease, old, signed, hact, h,
        (Option.some.inj hb).symm⟩)
    · rw [if_neg hbb] at hb
      exact Or.inl hb

theorem unlockAs_cases (caller beneficiary : A) (s : T.State) :
    (unlockAs T caller beneficiary s).2 = s ∨ ∃ record L event,
      s.sponsorships.get beneficiary = some record ∧ caller = record.sponsor ∧
      Refunded T s beneficiary record L ∧
      (unlockAs T caller beneficiary s).2 =
        logged T event (revokedStorage T beneficiary record L s) := by
  rcases hx : unlockAs T caller beneficiary s with ⟨e | u, t⟩
  -- every way to fail comes before the revocation has written anything
  · left
    simp only [unlockAs, depositEvent, Dispatch.bind_error_iff, Dispatch.read_ne_error, false_or,
      Dispatch.read_ok_iff, Dispatch.okOr_error_iff, Dispatch.okOr_ok_iff,
      Dispatch.ensure_error_iff, Dispatch.ensure_ok_iff, Dispatch.write_ne_error] at hx
    obtain ⟨_, _, ⟨rfl, rfl⟩, ⟨-, -, h⟩ | ⟨_, _, ⟨-, rfl⟩, ⟨-, -, h⟩ |
      ⟨_, _, ⟨-, rfl⟩, h | ⟨_, _, _, h⟩⟩⟩⟩ := hx
    · exact h
    · exact h
    · exact revokeSponsorship_error T _ _ _ _ h
    · exact h.elim
  · right
    simp only [unlockAs, depositEvent, Dispatch.bind_ok_iff, Dispatch.read_ok_iff,
      Dispatch.okOr_ok_iff, Dispatch.ensure_ok_iff, Dispatch.write_ok_iff,
      revokeSponsorship_ok_iff] at hx
    obtain ⟨_, _, ⟨rfl, rfl⟩, r, _, ⟨hr, rfl⟩, _, _, ⟨hsp, rfl⟩, r', _, ⟨hr', L, hL, rfl⟩, rfl⟩ := hx
    rw [hr] at hr'
    cases hr'
    exact ⟨r, L, _, hr, hsp, hL, rfl⟩

/-- The storage after an auto-unlock attempt, read off the record. -/
theorem tryAutoUnlockInternal_storage (beneficiary : A) (s : T.State) :
    (tryAutoUnlockInternal T beneficiary true s).2 =
      match s.sponsorships.get beneficiary with
      | none => s
      | some record =>
        match record.autoUnlock with
        | .disabled => s
        | .enabled c =>
          if autoUnlockConditionMet T beneficiary record.amount c s then
            match revokeSponsorship T beneficiary s with
            | (.ok record, t) =>
              logged T (.autoUnlocked record.sponsor beneficiary record.amount c) t
            | (.error _, t) => t
          else s := by
  -- the cases follow the branches of the source: no record, mode disabled, condition not met
  rcases hr : s.sponsorships.get beneficiary with _ | record
  · simp [tryAutoUnlockInternal, bind, Dispatch.read, Dispatch.okOr, Dispatch.fail, hr]
  rcases hmode : record.autoUnlock with _ | c
  · simp [tryAutoUnlockInternal, bind, Dispatch.read, Dispatch.okOr, hr, hmode]
  by_cases hmet : autoUnlockConditionMet T beneficiary record.amount c s = true
  · rcases hrev : revokeSponsorship T beneficiary s with ⟨e | r, t⟩ <;>
      simp [tryAutoUnlockInternal, bind, Dispatch.read, Dispatch.okOr, Dispatch.when, depositEvent,
        Dispatch.write, hr, hmode, hmet, hrev]
  · simp [tryAutoUnlockInternal, bind, Dispatch.read, Dispatch.okOr, hr, hmode, hmet]

/-- An auto-unlock attempt changes nothing, or revokes because its condition is met. -/
theorem tryAutoUnlockInternal_cases (beneficiary : A) (s : T.State) :
    (tryAutoUnlockInternal T beneficiary true s).2 = s ∨ ∃ record c L event,
      s.sponsorships.get beneficiary = some record ∧ record.autoUnlock = .enabled c ∧
      autoUnlockConditionMet T beneficiary record.amount c s = true ∧
      Refunded T s beneficiary record L ∧
      (tryAutoUnlockInternal T beneficiary true s).2 =
        logged T event (revokedStorage T beneficiary record L s) := by
  rw [tryAutoUnlockInternal_storage]
  rcases hr : s.sponsorships.get beneficiary with _ | record
  · exact Or.inl rfl
  rcases hmode : record.autoUnlock with _ | c
  · left
    simp only [hmode]
  by_cases hmet : autoUnlockConditionMet T beneficiary record.amount c s = true
  · simp only [hmode, hmet, if_true]
    rcases hrev : revokeSponsorship T beneficiary s with ⟨e | r, t⟩
    · exact Or.inl (revokeSponsorship_error T _ _ _ _ hrev)
    · obtain ⟨hfound, L, hL, rfl⟩ := (revokeSponsorship_ok_iff T _ _ _ _).mp hrev
      rw [hr] at hfound
      cases hfound
      exact Or.inr ⟨record, c, L, .autoUnlocked record.sponsor beneficiary record.amount c, rfl,
        hmode, hmet, hL, rfl⟩
  · left
    simp only [hmode, hmet, Bool.false_eq_true, if_false]

theorem autoUnlock_outcome (act : Action A O) (beneficiary : A) (s : T.State) :
    Outcome T act s (tryAutoUnlockInternal T beneficiary true s).2 := by
  rcases tryAutoUnlockInternal_cases T beneficiary s with
    hs | ⟨record, c, L, event, hr, hmode, hmet, hL, hs⟩
  · exact hs.symm ▸ Outcome.idle
  · rw [hs]
    exact .revoked beneficiary record L event hr hL (.condition c hmode hmet)

theorem forceUnlock_ok (origin : O) (beneficiary : A) (s t : T.State) (u : Unit)
    (h : forceUnlock T origin beneficiary s = (.ok u, t)) :
    ∃ record L event, s.sponsorships.get beneficiary = some record ∧
      T.forceOrigin origin = true ∧ Refunded T s beneficiary record L ∧
      t = logged T event (revokedStorage T beneficiary record L s) := by
  simp only [forceUnlock, depositEvent, Dispatch.bind_ok_iff, Dispatch.ensure_ok_iff,
    Dispatch.write_ok_iff, revokeSponsorship_ok_iff] at h
  obtain ⟨_, _, ⟨hforce, rfl⟩, record, _, ⟨hr, L, hL, rfl⟩, rfl⟩ := h
  exact ⟨record, L, _, hr, hforce, hL, rfl⟩

/-- A signed call that ends in `f caller` succeeds exactly when the origin is signed. -/
theorem signed_ok (origin : O) (f : A → T.Pallet Unit) (s t : T.State) (u : Unit)
    (h : (ensureSigned T origin >>= f) s = (.ok u, t)) :
    ∃ caller, T.ensureSigned origin = some caller ∧ f caller s = (.ok u, t) := by
  simp only [ensureSigned, Dispatch.bind_ok_iff, Dispatch.okOr_ok_iff] at h
  obtain ⟨caller, _, ⟨hsigned, rfl⟩, hf⟩ := h
  exact ⟨caller, hsigned, hf⟩

theorem call_outcome (origin : O) (call : Call A) (s : T.State) :
    Outcome T (.entry (.call origin call)) s (dispatch T origin call s).2 := by
  rcases Dispatch.transactional_storage (match call with
    | .sponsor beneficiary amount autoUnlock lease =>
      sponsor T origin beneficiary amount autoUnlock lease
    | .sponsorMinimum beneficiary autoUnlock lease =>
      sponsorMinimum T origin beneficiary autoUnlock lease
    | .unlock beneficiary => unlock T origin beneficiary
    | .setPolicy beneficiary autoUnlock lease => setPolicy T origin beneficiary autoUnlock lease
    | .forceUnlock beneficiary => forceUnlock T origin beneficiary
    | .refresh beneficiary => refresh T origin beneficiary) s with hs | ⟨u, hok⟩
  · exact hs.symm ▸ Outcome.idle
  -- a call that fails leaves the storage alone; from here on the body has succeeded
  change _ = (_, (dispatch T origin call s).2) at hok
  generalize (dispatch T origin call s).2 = t at hok
  cases call with
  | sponsor beneficiary amount autoUnlock lease =>
    obtain ⟨who, -, h⟩ := signed_ok T _ _ _ _ _ hok
    exact .sponsored who beneficiary amount autoUnlock lease t rfl (doSponsor_ok T _ _ _ _ _ _ _ _ _ h)
  | sponsorMinimum beneficiary autoUnlock lease =>
    obtain ⟨who, -, h⟩ := signed_ok T _ _ _ _ _ hok
    exact .sponsored who beneficiary _ autoUnlock lease t rfl (doSponsor_ok T _ _ _ _ _ _ _ _ _ h)
  | unlock beneficiary =>
    obtain ⟨who, hsigned, h⟩ := signed_ok T _ _ _ _ _ hok
    have ht : (unlockAs T who beneficiary s).2 = t := congrArg Prod.snd h
    rw [← ht]
    rcases unlockAs_cases T who beneficiary s with hs | ⟨record, L, event, hr, rfl, hL, hs⟩
    · exact hs.symm ▸ Outcome.idle
    · rw [hs]
      exact .revoked beneficiary record L event hr hL (.sponsor origin hsigned rfl)
  | setPolicy beneficiary autoUnlock lease =>
    obtain ⟨caller, record, hsigned, h⟩ := setPolicy_ok T _ _ _ _ _ _ _ hok
    exact .policy origin caller beneficiary autoUnlock lease record t hsigned rfl h
  | forceUnlock beneficiary =>
    obtain ⟨record, L, event, hr, hforce, hL, rfl⟩ := forceUnlock_ok T _ _ _ _ _ hok
    exact .revoked beneficiary record L event hr hL (.force origin hforce rfl)
  | refresh beneficiary =>
    obtain ⟨who, -, h⟩ := signed_ok T _ _ _ _ _ hok
    simp only [Dispatch.bind_ok_iff, Dispatch.pure_ok_iff] at h
    obtain ⟨a, _, h, -, rfl⟩ := h
    have ht : (tryAutoUnlockInternal T beneficiary true s).2 = t := congrArg Prod.snd h
    rw [← ht]
    exact autoUnlock_outcome T _ beneficiary s

theorem doSponsor_outcome (act : Action A O) (sponsor beneficiary : A) (amount : ℕ)
    (autoUnlock : AutoUnlockMode) (lease : Lease) (emitEvent : Bool) (s : T.State)
    (hact : act.lease = some lease) :
    Outcome T act s (doSponsor T sponsor beneficiary amount autoUnlock lease emitEvent s).2 := by
  rcases Dispatch.transactional_storage
    (doSponsorBody T sponsor beneficiary amount autoUnlock lease emitEvent) s with hs | ⟨u, hok⟩
  · exact hs.symm ▸ Outcome.idle
  · have h := (Dispatch.transactional_ok_iff _ _ _ _).mpr hok
    exact .sponsored sponsor beneficiary amount autoUnlock lease _ hact (doSponsor_ok T _ _ _ _ _ _ _ _ _ h)

theorem expireIteration_outcome (now : ℕ) (beneficiary : A) (s : T.State) :
    Outcome T (.expire now beneficiary : Action A O) s (expireIteration T now s beneficiary) := by
  unfold expireIteration
  rcases hr : s.sponsorships.get beneficiary with _ | record
  · exact .idle
  by_cases hlease : record.lease = .until now
  · simp only [hlease, ne_eq, not_true_eq_false, if_false]
    rcases hrev : revokeSponsorship T beneficiary s with ⟨e | r, t⟩
    · exact (revokeSponsorship_error T _ _ _ _ hrev) ▸ Outcome.idle
    · obtain ⟨hfound, L, hL, rfl⟩ := (revokeSponsorship_ok_iff T _ _ _ _).mp hrev
      rw [hr] at hfound
      cases hfound
      exact .revoked beneficiary record L _ hr hL (.expiry now hlease rfl)
  · simp only [hlease, ne_eq, not_false_eq_true, if_true]
    exact .idle

/-- The sponsorship of `beneficiary` is active and auto-unlock is enabled on it. -/
def awaitsUnlock (s : T.State) (beneficiary : A) : Bool :=
  match s.sponsorships.get beneficiary with
  | none => false
  | some record => record.autoUnlock ≠ .disabled

theorem awaitsUnlock_iff (s : T.State) (beneficiary : A) :
    awaitsUnlock T s beneficiary = true ↔
      ∃ record, s.sponsorships.get beneficiary = some record ∧ record.autoUnlock ≠ .disabled := by
  unfold awaitsUnlock
  rcases s.sponsorships.get beneficiary with _ | record <;> simp

/-- One turn of the auto-unlock loop is one auto-unlock attempt; the account is queued
again exactly when it is still waiting afterwards. -/
theorem autoUnlockIteration_eq (pass : AutoUnlockPass A Λ T.maxQueueProcessingPerBlock)
    (beneficiary : A) (index : ℕ) (hindex : index < T.maxQueueProcessingPerBlock) :
    let t := (tryAutoUnlockInternal T beneficiary true pass.storage).2
    autoUnlockIteration T pass (beneficiary, index) =
      { unprocessed := pass.unprocessed
        requeue := if awaitsUnlock T t beneficiary then pass.requeue ++ [beneficiary]
          else pass.requeue
        processed := u32SaturatingAdd pass.processed 1
        storage := t } := by
  intro t
  have ht : t = (tryAutoUnlockInternal T beneficiary true pass.storage).2 := rfl
  rw [tryAutoUnlockInternal_storage] at ht
  unfold autoUnlockIteration
  rw [if_neg (Nat.not_le.mpr hindex)]
  rcases hr : pass.storage.sponsorships.get beneficiary with _ | record
  · simp only [hr] at ht ⊢
    simp [ht, awaitsUnlock, hr]
  rcases hmode : record.autoUnlock with _ | c
  · simp only [hr, hmode] at ht ⊢
    simp [ht, awaitsUnlock, hr, hmode]
  by_cases hmet : autoUnlockConditionMet T beneficiary record.amount c pass.storage = true
  · rcases hrev : revokeSponsorship T beneficiary pass.storage with ⟨e | r, u⟩
    -- refused: the record is still there, so the account goes back to the queue
    · have hu := revokeSponsorship_error T _ _ _ _ hrev
      simp only [hr, hmode, hmet, if_true, hrev] at ht ⊢
      simp [ht, hu, awaitsUnlock, hr, hmode]
    -- revoked: no record is left that could wait
    · obtain ⟨-, L, -, rfl⟩ := (revokeSponsorship_ok_iff T _ _ _ _).mp hrev
      simp only [hr, hmode, hmet, if_true, hrev] at ht ⊢
      simp [ht, awaitsUnlock, logged, revokedStorage]
  · simp only [hr, hmode, hmet, Bool.false_eq_true, if_false] at ht ⊢
    simp [ht, awaitsUnlock, hr, hmode]

theorem tryAutoUnlock_storage (beneficiary : A) (s : T.State) :
    (tryAutoUnlock T beneficiary s).2 = (tryAutoUnlockInternal T beneficiary true s).2 := by
  simp only [tryAutoUnlock, bind]
  rcases tryAutoUnlockInternal T beneficiary true s with ⟨_ | _, _⟩ <;> rfl

theorem entry_outcome (e : Entry A O) (s : T.State) :
    Outcome T (.entry e) s (entryStep T s e) := by
  cases e with
  | call origin call => exact call_outcome T origin call s
  | createSponsorship sponsor beneficiary amount autoUnlock lease =>
    exact doSponsor_outcome T _ _ _ _ _ _ _ s rfl
  | unlockSponsorship sponsor beneficiary =>
    change Outcome T _ s (unlockAs T sponsor beneficiary s).2
    rcases unlockAs_cases T sponsor beneficiary s with hs | ⟨record, L, event, hr, rfl, hL, hs⟩
    · exact hs.symm ▸ Outcome.idle
    · rw [hs]
      exact .revoked beneficiary record L event hr hL (.provider rfl)
  | tryAutoUnlock beneficiary =>
    rw [entryStep, tryAutoUnlock_storage]
    exact autoUnlock_outcome T _ beneficiary s

/-- What a turn of the auto-unlock loop does to the storage does not depend on the vectors
the loop has built so far. -/
theorem autoUnlockIteration_storage (pass : AutoUnlockPass A Λ T.maxQueueProcessingPerBlock)
    (entry : A × ℕ) :
    (autoUnlockIteration T pass entry).storage =
      actionStep T pass.storage (.autoUnlock entry.1 entry.2 : Action A O) := by
  obtain ⟨beneficiary, index⟩ := entry
  by_cases hindex : index < T.maxQueueProcessingPerBlock
  · simp only [actionStep, autoUnlockIteration_eq T _ _ _ hindex]
  · simp only [actionStep, autoUnlockIteration, if_pos (Nat.not_lt.mp hindex)]

theorem action_outcome (act : Action A O) (s : T.State) : Outcome T act s (actionStep T s act) := by
  cases act with
  | entry e => exact entry_outcome T e s
  | initial i => exact doSponsor_outcome T _ _ _ _ _ _ _ s rfl
  | expire now beneficiary => exact expireIteration_outcome T now beneficiary s
  | autoUnlock beneficiary index =>
    by_cases hindex : index < T.maxQueueProcessingPerBlock
    · simp only [actionStep, autoUnlockIteration_eq T _ _ _ hindex]
      exact autoUnlock_outcome T _ beneficiary s
    · simp only [actionStep, autoUnlockIteration, if_pos (Nat.not_lt.mp hindex)]
      exact .idle

inductive Op (A O Λ : Type)
  | entry (e : Entry A O)
  | genesisBuild (initial : List (InitialSponsorship A))
  | onInitialize (now : ℕ)
  | environment (f : Λ → Λ)

/-- One step of a run. A panicking genesis build or hook leaves the storage it started from. -/
def step (s : T.State) : Op A O Λ → T.State
  | .entry e => entryStep T s e
  | .genesisBuild initial => (genesisBuild T initial s).getD s
  | .onInitialize now => ((onInitialize T now { s with blockNumber := now }).map Prod.fst).getD s
  | .environment f => { s with runtime := f s.runtime }

/-- Empty pallet storage at block zero over the runtime `L`. -/
def emptyStorage (L : Λ) : T.State where
  sponsorships := StorageMap.empty
  sponsorLedger := StorageMap.empty
  storageDepositHeld := StorageMap.empty
  expirations := StorageMap.empty
  autoUnlockQueue := BoundedVec.empty
  runtime := L
  blockNumber := 0
  events := []

/-- `t` differs from `s` at most in the two indexes, the block number and the log. -/
structure SameFunds (s t : T.State) : Prop where
  sponsorships : t.sponsorships = s.sponsorships
  sponsorLedger : t.sponsorLedger = s.sponsorLedger
  storageDepositHeld : t.storageDepositHeld = s.storageDepositHeld
  runtime : t.runtime = s.runtime

/-- An action, or bookkeeping between two actions of a hook. -/
def Turn (s t : T.State) : Prop := (∃ act : Action A O, Outcome T act s t) ∨ SameFunds T s t

theorem foldl_turns {α : Type} (f : T.State → α → T.State) (hf : ∀ s x, Turn T s (f s x))
    (xs : List α) (s : T.State) : Relation.ReflTransGen (Turn T) s (xs.foldl f s) := by
  induction xs generalizing s with
  | nil => exact .refl
  | cons x xs ih => exact .head (hf s x) (ih (f s x))

theorem processExpirations_turns (now : ℕ) (s : T.State) :
    Relation.ReflTransGen (Turn T) s (processExpirations T now s).1 := by
  have htake : Turn T s { s with expirations := s.expirations.remove now } :=
    Or.inr ⟨rfl, rfl, rfl, rfl⟩
  refine .head htake (foldl_turns T _ (fun u b => Or.inl ?_) _ _)
  exact ⟨.expire now b, expireIteration_outcome T now b u⟩

/-- The length of what the loop puts back grows by at most one a turn. -/
theorem autoUnlockIteration_length (pass : AutoUnlockPass A Λ T.maxQueueProcessingPerBlock)
    (entry : A × ℕ) :
    ((autoUnlockIteration T pass entry).unprocessed ++
      (autoUnlockIteration T pass entry).requeue).length ≤
        (pass.unprocessed ++ pass.requeue).length+1 := by
  obtain ⟨beneficiary, index⟩ := entry
  by_cases hindex : index < T.maxQueueProcessingPerBlock
  · simp only [autoUnlockIteration_eq T _ _ _ hindex]
    split <;> simp only [List.length_append, List.length_singleton] <;> omega
  · simp only [autoUnlockIteration, if_pos (Nat.not_lt.mp hindex), List.length_append,
      List.length_singleton]
    omega

theorem autoUnlockPass_length (entries : List (A × ℕ))
    (pass : AutoUnlockPass A Λ T.maxQueueProcessingPerBlock) :
    ((entries.foldl (autoUnlockIteration T) pass).unprocessed ++
      (entries.foldl (autoUnlockIteration T) pass).requeue).length ≤
        (pass.unprocessed ++ pass.requeue).length+entries.length := by
  induction entries generalizing pass with
  | nil => simp
  | cons entry entries ih =>
    have h := autoUnlockIteration_length T pass entry
    have hrest := ih (autoUnlockIteration T pass entry)
    simp only [List.foldl_cons, List.length_cons]
    omega

/-- The loop of `process_auto_unlock_queue` run over the queue of `s`. -/
def autoUnlockLoop (s : T.State) : AutoUnlockPass A Λ T.maxQueueProcessingPerBlock :=
  s.autoUnlockQueue.toList.zipIdx.foldl (autoUnlockIteration T)
    ⟨[], [], 0, { s with autoUnlockQueue := BoundedVec.empty }⟩

/-- The rebuilt queue always fits, so the `expect` of the hook is never hit. -/
theorem processAutoUnlockQueue_eq (s : T.State) :
    ∃ next : BoundedVec A T.maxQueueProcessingPerBlock,
      next.toList = (autoUnlockLoop T s).unprocessed ++ (autoUnlockLoop T s).requeue ∧
      processAutoUnlockQueue T s =
        some ({ (autoUnlockLoop T s).storage with autoUnlockQueue := next },
          (autoUnlockLoop T s).processed) := by
  have hlen := autoUnlockPass_length T s.autoUnlockQueue.toList.zipIdx
    ⟨[], [], 0, { s with autoUnlockQueue := BoundedVec.empty }⟩
  have hfit : ((autoUnlockLoop T s).unprocessed ++ (autoUnlockLoop T s).requeue).length ≤
      T.maxQueueProcessingPerBlock := by
    -- nothing is put back that was not in the stored queue, which carries its own bound
    refine hlen.trans ?_
    simpa using s.autoUnlockQueue.bounded
  refine ⟨⟨_, hfit⟩, rfl, ?_⟩
  have hnext := BoundedVec.tryFrom_isSome _ hfit
  change Option.map _ (BoundedVec.tryFrom
    ((autoUnlockLoop T s).unprocessed ++ (autoUnlockLoop T s).requeue)) = _
  rw [hnext]
  rfl

theorem autoUnlockPass_turns (entries : List (A × ℕ))
    (pass : AutoUnlockPass A Λ T.maxQueueProcessingPerBlock) :
    Relation.ReflTransGen (Turn T) pass.storage
      (entries.foldl (autoUnlockIteration T) pass).storage := by
  induction entries generalizing pass with
  | nil => exact .refl
  | cons entry entries ih =>
    have hturn : Turn T pass.storage (autoUnlockIteration T pass entry).storage := by
      rw [autoUnlockIteration_storage (O := O)]
      exact Or.inl ⟨_, action_outcome T _ pass.storage⟩
    exact .head hturn (ih (autoUnlockIteration T pass entry))

theorem processAutoUnlockQueue_turns (s t : T.State) (processed : ℕ)
    (h : processAutoUnlockQueue T s = some (t, processed)) :
    Relation.ReflTransGen (Turn T) s t := by
  obtain ⟨next, -, hnext⟩ := processAutoUnlockQueue_eq T s
  rw [hnext] at h
  cases h
  have htake : Turn T s { s with autoUnlockQueue := BoundedVec.empty } :=
    Or.inr ⟨rfl, rfl, rfl, rfl⟩
  have hput : Turn T (autoUnlockLoop T s).storage
      { (autoUnlockLoop T s).storage with autoUnlockQueue := next } :=
    Or.inr ⟨rfl, rfl, rfl, rfl⟩
  exact .head htake ((autoUnlockPass_turns T _ _).tail hput)

/-- `on_initialize` never panics: it is the expiry pass and then the auto-unlock pass. -/
theorem step_onInitialize (now : ℕ) (s : T.State) :
    ∃ processed, processAutoUnlockQueue T
        (processExpirations T now { s with blockNumber := now }).1 =
      some (step T s (.onInitialize now : Op A O Λ), processed) := by
  obtain ⟨next, -, hnext⟩ :=
    processAutoUnlockQueue_eq T (processExpirations T now { s with blockNumber := now }).1
  refine ⟨(autoUnlockLoop T (processExpirations T now { s with blockNumber := now }).1).processed,
    hnext.trans ?_⟩
  simp only [step, onInitialize, hnext, Option.map_some, Option.getD_some]

/-- The storage that the hook leaves is that of its second loop, apart from the queue. -/
theorem step_onInitialize_loop (now : ℕ) (s : T.State) :
    ∃ queue, step T s (.onInitialize now : Op A O Λ) =
      { (autoUnlockLoop T (processExpirations T now { s with blockNumber := now }).1).storage with
        autoUnlockQueue := queue } := by
  obtain ⟨processed, hstep⟩ := step_onInitialize (O := O) T now s
  obtain ⟨next, -, hnext⟩ :=
    processAutoUnlockQueue_eq T (processExpirations T now { s with blockNumber := now }).1
  rw [hnext] at hstep
  exact ⟨next, (congrArg Prod.fst (Option.some.inj hstep)).symm⟩

/-- What every successful call of the genesis build keeps, the build keeps. -/
theorem genesisBuild_doSponsor (Inv : T.State → Prop) (initial : List (InitialSponsorship A))
    (hinv : ∀ i ∈ initial, ∀ s t u, Inv s →
      doSponsor T i.sponsor i.beneficiary i.amount i.autoUnlock i.lease false s = (.ok u, t) → Inv t)
    (s t : T.State) (hs : Inv s) (h : genesisBuild T initial s = some t) : Inv t := by
  induction initial generalizing s with
  | nil =>
    cases h
    exact hs
  | cons i initial ih =>
    simp only [genesisBuild, List.foldlM_cons, Option.bind_eq_bind, Option.bind_eq_some_iff] at h
    obtain ⟨u, hu, hrest⟩ := h
    rcases hi : doSponsor T i.sponsor i.beneficiary i.amount i.autoUnlock i.lease false s
      with ⟨_ | done, v⟩
    · simp [hi] at hu
    · simp only [hi, Option.some.injEq] at hu
      subst hu
      exact ih (fun j hj => hinv j (List.mem_cons_of_mem i hj)) v
        (hinv i List.mem_cons_self s v done hs hi) hrest

/-- What the creation of every initial sponsorship keeps, the genesis build keeps. -/
theorem genesisBuild_sponsored (Inv : T.State → Prop) (initial : List (InitialSponsorship A))
    (hinv : ∀ i ∈ initial, ∀ s t, Inv s →
      Sponsored T i.sponsor i.beneficiary i.amount i.autoUnlock i.lease s t → Inv t)
    (s t : T.State) (hs : Inv s) (h : genesisBuild T initial s = some t) : Inv t :=
  genesisBuild_doSponsor T Inv initial
    (fun i hi u v _ hu hv => hinv i hi u v hu (doSponsor_ok T _ _ _ _ _ _ _ _ _ hv)) s t hs h

/-- What the outcome of every initial sponsorship keeps, the genesis build keeps. -/
theorem genesisBuild_preserves (Inv : T.State → Prop) (initial : List (InitialSponsorship A))
    (hout : ∀ i ∈ initial, ∀ s t, Inv s → Outcome T (.initial i : Action A O) s t → Inv t)
    (s t : T.State) (hs : Inv s) (h : genesisBuild T initial s = some t) : Inv t := by
  refine genesisBuild_sponsored T Inv initial ?_ s t hs h
  intro i hi u v hu hv
  exact hout i hi u v hu (.sponsored i.sponsor i.beneficiary i.amount i.autoUnlock i.lease v rfl hv)

theorem genesisBuild_turns (initial : List (InitialSponsorship A)) (s t : T.State)
    (h : genesisBuild T initial s = some t) : Relation.ReflTransGen (Turn T) s t := by
  refine genesisBuild_preserves T (Relation.ReflTransGen (Turn T) s) initial ?_ s t .refl h
  intro i _ u v hu hv
  exact hu.tail (Or.inl ⟨_, hv⟩)

/-- Every step that is not a change of the runtime underneath is a sequence of turns. -/
theorem step_turns (s : T.State) (op : Op A O Λ) (hop : ∀ f, op ≠ .environment f) :
    Relation.ReflTransGen (Turn T) s (step T s op) := by
  cases op with
  | entry e => exact .single (Or.inl ⟨.entry e, entry_outcome T e s⟩)
  | genesisBuild initial =>
    simp only [step]
    rcases h : genesisBuild T initial s with _ | t
    · exact .refl
    · exact genesisBuild_turns T initial s t h
  | onInitialize now =>
    obtain ⟨processed, hqueue⟩ := step_onInitialize (O := O) T now s
    have hblock : Turn T s { s with blockNumber := now } := Or.inr ⟨rfl, rfl, rfl, rfl⟩
    exact .head hblock ((processExpirations_turns T now _).trans
      (processAutoUnlockQueue_turns T _ _ _ hqueue))
  | environment f => exact absurd rfl (hop f)

/-- An invariant of the funds that every outcome keeps, and that the admitted changes of
the runtime keep, is kept by every admitted step. -/
theorem step_preserves (Inv : T.State → Prop) (Env : T.State → (Λ → Λ) → Prop)
    (houtcome : ∀ (act : Action A O) s t, Inv s → Outcome T act s t → Inv t)
    (hsame : ∀ s t, Inv s → SameFunds T s t → Inv t)
    (henv : ∀ s f, Inv s → Env s f → Inv { s with runtime := f s.runtime })
    (s : T.State) (op : Op A O Λ) (hs : Inv s) (hop : ∀ f, op = .environment f → Env s f) :
    Inv (step T s op) := by
  by_cases hf : ∃ f, op = .environment f
  · obtain ⟨f, rfl⟩ := hf
    exact henv s f hs (hop f rfl)
  · have hturns := step_turns T s op (fun f h => hf ⟨f, h⟩)
    -- the hook is a chain of turns; the invariant is carried along the chain
    generalize step T s op = t at hturns
    induction hturns with
    | refl => exact hs
    | tail _ hturn ih =>
      rcases hturn with ⟨act, hact⟩ | hsf
      · exact houtcome act _ _ ih hact
      · exact hsame _ _ ih hsf

/-- The configuration of the pallet's own test runtime. -/
def mock : Config ℕ (RawOrigin ℕ) HoldReason (Ledger ℕ HoldReason) where
  currency := Ledger.holds 10
  system := Ledger.system 10
  holdReason := id
  holdReason_injective := Function.injective_id
  ensureSigned := RawOrigin.ensureSigned
  forceOrigin := RawOrigin.isRoot
  balanceMax := 2^128-1
  minSponsorship := 10
  sponsorMinRemaining := 25
  maxTotalSponsoredPerSponsor := 1000
  maxSponsoredAccountsPerSponsor := 8
  maxSponsoredAmountPerBlock := 500
  maxNewSponsorshipsPerBlock := 2
  maxLeaseDuration := 100
  maxQueueProcessingPerBlock := 8
  sponsorshipStorageDeposit := 5

/-- The balances the test runtime starts with. -/
def mockLedger : Ledger ℕ HoldReason := Ledger.endowed [(1, 500), (3, 100), (4, 500), (5, 140)]

end NuloChain.Sponsorship
