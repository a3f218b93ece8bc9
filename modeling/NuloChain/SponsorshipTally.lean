import NuloChain.SponsorshipRates
import NuloChain.FrameSimulation

/-! The pallet over a runtime that also keeps a tally of the provider references which the
pallet itself adds and removes. The tally is part of the storage, so a call that fails takes
its entries back with everything else. -/
namespace NuloChain.Sponsorship
open Frame
set_option linter.unusedSectionVars false
variable {A O R Λ : Type} [DecidableEq A]

structure Tallied (A Λ : Type) where
  runtime : Λ
  added : A → ℕ
  removed : A → ℕ

/-- An operation on the runtime that leaves the tally alone. -/
def Tallied.on (f : Λ → Option Λ) (w : Tallied A Λ) : Option (Tallied A Λ) :=
  (f w.runtime).map fun L => { w with runtime := L }

/-- The same currency; the references it takes for itself are not the pallet's. -/
def talliedCurrency (F : MutateHold A R Λ) : MutateHold A R (Tallied A Λ) where
  minimumBalance := F.minimumBalance
  balance w := F.balance w.runtime
  reducibleBalance w := F.reducibleBalance w.runtime
  balanceOnHold w := F.balanceOnHold w.runtime
  holdAvailable w := F.holdAvailable w.runtime
  transferAndHold r src dst n p q f := Tallied.on (F.transferAndHold r src dst n p q f)
  hold r who n := Tallied.on (F.hold r who n)
  transferOnHold r src dst n p m f := Tallied.on (F.transferOnHold r src dst n p m f)
  release r who n p := Tallied.on (F.release r who n p)

/-- The reference counter as the pallet uses it, with what it does noted. -/
def talliedSystem (S : FrameSystem A Λ) : FrameSystem A (Tallied A Λ) where
  accountExists w := S.accountExists w.runtime
  providers w := S.providers w.runtime
  incProviders b w :=
    { w with
      runtime := S.incProviders b w.runtime
      added := Function.update w.added b (w.added b+1) }
  decProviders b w := (S.decProviders b w.runtime).map fun L =>
    { w with runtime := L, removed := Function.update w.removed b (w.removed b+1) }

variable (T : Config A O R Λ)

def tallied : Config A O R (Tallied A Λ) :=
  { T with currency := talliedCurrency T.currency, system := talliedSystem T.system }

/-- The other pallets do not touch the tally. -/
def Op.tallied : Op A O Λ → Op A O (Tallied A Λ)
  | .entry e => .entry e
  | .genesisBuild initial => .genesisBuild initial
  | .onInitialize now => .onInitialize now
  | .environment f => .environment fun w => { w with runtime := f w.runtime }

def talliedStep (s : (tallied T).State) (op : Op A O Λ) : (tallied T).State :=
  step (tallied T) s op.tallied

/-- Empty storage, with nothing added and nothing removed. -/
def talliedStart (L : Λ) : (tallied T).State := emptyStorage (tallied T) ⟨L, fun _ => 0, fun _ => 0⟩

/-- The storage without the tally. -/
def forget (s : (tallied T).State) : T.State where
  sponsorships := s.sponsorships
  sponsorLedger := s.sponsorLedger
  storageDepositHeld := s.storageDepositHeld
  expirations := s.expirations
  autoUnlockQueue := s.autoUnlockQueue
  runtime := s.runtime.runtime
  blockNumber := s.blockNumber
  events := s.events

/-- With and without the tally the same is answered and the same is stored. -/
abbrev Agrees {α : Type} (y : (tallied T).Pallet α) (x : T.Pallet α) : Prop :=
  Dispatch.Simulates (forget T) Eq y x

theorem read_agrees {α : Type} (g : (tallied T).State → (tallied T).Pallet α)
    (f : T.State → T.Pallet α) (h : ∀ s, Agrees T (g s) (f (forget T s))) :
    Agrees T (Dispatch.read >>= g) (Dispatch.read >>= f) := by
  refine Dispatch.simulates_bind (forget T) _ Eq _ _ g f (Dispatch.simulates_read (forget T)) ?_
  rintro s _ rfl
  exact h s

theorem bind_agrees {α β : Type} (y : (tallied T).Pallet α) (x : T.Pallet α)
    (g : α → (tallied T).Pallet β) (f : α → T.Pallet β) (hx : Agrees T y x)
    (hf : ∀ a, Agrees T (g a) (f a)) : Agrees T (y >>= g) (x >>= f) := by
  refine Dispatch.simulates_bind (forget T) Eq Eq y x g f hx ?_
  rintro a _ rfl
  exact hf a

theorem write_agrees (g : (tallied T).State → (tallied T).State) (f : T.State → T.State)
    (h : ∀ s, forget T (g s) = f (forget T s)) :
    Agrees T (Dispatch.write g) (Dispatch.write f) :=
  Dispatch.simulates_write (forget T) g f h

theorem onRuntime_agrees (f : Λ → Option Λ) (e : Error) :
    Agrees T (onRuntime (tallied T) (Tallied.on f) e) (onRuntime T f e) := by
  refine read_agrees T _ _ (fun s => ?_)
  rcases h : f s.runtime.runtime with _ | L
  · have hon : Tallied.on f s.runtime = none := by
      rw [Tallied.on, h]
      rfl
    simp only [hon]
    change Agrees T _ (Dispatch.okOr (f s.runtime.runtime) e >>= _)
    rw [h]
    exact fun t => .error e t
  · have hon : Tallied.on f s.runtime = some { s.runtime with runtime := L } := by
      rw [Tallied.on, h]
      rfl
    simp only [hon]
    change Agrees T _ (Dispatch.okOr (f s.runtime.runtime) e >>= _)
    rw [h]
    exact write_agrees T _ _ (fun _ => rfl)

theorem validateLease_agrees (lease : Lease) (now : ℕ) :
    Agrees T (validateLease (tallied T) lease now) (validateLease T lease now) := by
  cases lease with
  | none => exact Dispatch.simulates_pure (forget T) Eq () () rfl
  | «until» expiry =>
    exact bind_agrees T _ _ _ _ (Dispatch.simulates_ensure (forget T) _ _ _ Iff.rfl)
      (fun _ => Dispatch.simulates_ensure (forget T) _ _ _ Iff.rfl)

theorem insertExpiration_agrees (beneficiary : A) (lease : Lease) :
    Agrees T (insertExpiration (tallied T) beneficiary lease)
      (insertExpiration T beneficiary lease) := by
  cases lease with
  | none => exact Dispatch.simulates_pure (forget T) Eq () () rfl
  | «until» expiry =>
    refine read_agrees T _ _ (fun s => Dispatch.simulates_when (forget T) _ _ _ _ Iff.rfl ?_)
    exact bind_agrees T _ _ _ _ (Dispatch.simulates_okOr (forget T) _ _)
      (fun _ => write_agrees T _ _ (fun _ => rfl))

theorem enqueueAutoUnlock_agrees (beneficiary : A) :
    Agrees T (enqueueAutoUnlock (tallied T) beneficiary) (enqueueAutoUnlock T beneficiary) := by
  refine read_agrees T _ _ (fun s => Dispatch.simulates_when (forget T) _ _ _ _ Iff.rfl ?_)
  exact bind_agrees T _ _ _ _ (Dispatch.simulates_okOr (forget T) _ _)
    (fun _ => write_agrees T _ _ (fun _ => rfl))

theorem depositEvent_agrees (e : Event A) :
    Agrees T (depositEvent (tallied T) e) (depositEvent T e) :=
  write_agrees T _ _ (fun _ => rfl)

theorem ensureCaps_agrees (ledger : SponsorState) (amount : ℕ) :
    Agrees T (ensureCaps (tallied T) ledger amount) (ensureCaps T ledger amount) := by
  refine bind_agrees T _ _ _ _ (Dispatch.simulates_ensure (forget T) _ _ _ Iff.rfl) (fun _ => ?_)
  refine bind_agrees T _ _ _ _ (Dispatch.simulates_ensure (forget T) _ _ _ Iff.rfl) (fun _ => ?_)
  refine bind_agrees T _ _ _ _ (Dispatch.simulates_ensure (forget T) _ _ _ Iff.rfl) (fun _ => ?_)
  exact Dispatch.simulates_ensure (forget T) _ _ _ Iff.rfl

theorem checkSponsor_agrees (sponsor beneficiary : A) (amount : ℕ) (lease : Lease) :
    Agrees T (checkSponsor (tallied T) sponsor beneficiary amount lease)
      (checkSponsor T sponsor beneficiary amount lease) := by
  refine read_agrees T _ _ (fun s => ?_)
  refine bind_agrees T _ _ _ _ (Dispatch.simulates_ensure (forget T) _ _ _ Iff.rfl) (fun _ => ?_)
  refine bind_agrees T _ _ _ _ (Dispatch.simulates_ensure (forget T) _ _ _ Iff.rfl) (fun _ => ?_)
  refine bind_agrees T _ _ _ _ (validateLease_agrees T lease _) (fun _ => ?_)
  refine bind_agrees T _ _ _ _ (ensureCaps_agrees T _ amount) (fun _ => ?_)
  refine bind_agrees T _ _ _ _ (Dispatch.simulates_ensure (forget T) _ _ _ Iff.rfl) (fun _ => ?_)
  refine bind_agrees T _ _ _ _ (Dispatch.simulates_ensure (forget T) _ _ _ Iff.rfl) (fun _ => ?_)
  exact Dispatch.simulates_pure (forget T) Eq _ _ rfl

theorem placeHolds_agrees (sponsor beneficiary : A) (amount : ℕ) :
    Agrees T (placeHolds (tallied T) sponsor beneficiary amount)
      (placeHolds T sponsor beneficiary amount) := by
  refine bind_agrees T _ _ _ _ (write_agrees T _ _ (fun _ => rfl)) (fun _ => ?_)
  refine read_agrees T _ _ (fun s => ?_)
  refine bind_agrees T _ _ _ _ (Dispatch.simulates_ensure (forget T) _ _ _ Iff.rfl) (fun _ => ?_)
  refine bind_agrees T _ _ _ _ (Dispatch.simulates_when (forget T) _ _ _ _ Iff.rfl
    (Dispatch.simulates_ensure (forget T) _ _ _ Iff.rfl)) (fun _ => ?_)
  refine bind_agrees T _ _ _ _ (onRuntime_agrees T _ _) (fun _ => ?_)
  refine Dispatch.simulates_when (forget T) _ _ _ _ Iff.rfl ?_
  exact bind_agrees T _ _ _ _ (onRuntime_agrees T _ _)
    (fun _ => write_agrees T _ _ (fun _ => rfl))

theorem doSponsor_agrees (sponsor beneficiary : A) (amount : ℕ) (autoUnlock : AutoUnlockMode)
    (lease : Lease) (emitEvent : Bool) :
    Agrees T (doSponsor (tallied T) sponsor beneficiary amount autoUnlock lease emitEvent)
      (doSponsor T sponsor beneficiary amount autoUnlock lease emitEvent) := by
  refine Dispatch.simulates_transactional (forget T) Eq _ _ ?_
  refine bind_agrees T _ _ _ _ (checkSponsor_agrees T sponsor beneficiary amount lease)
    (fun ledger => ?_)
  refine bind_agrees T _ _ _ _ (placeHolds_agrees T sponsor beneficiary amount) (fun _ => ?_)
  refine bind_agrees T _ _ _ _ (write_agrees T _ _ (fun _ => rfl)) (fun _ => ?_)
  refine bind_agrees T _ _ _ _ (insertExpiration_agrees T beneficiary lease) (fun _ => ?_)
  refine bind_agrees T _ _ _ _ (Dispatch.simulates_when (forget T) _ _ _ _ Iff.rfl
    (enqueueAutoUnlock_agrees T beneficiary)) (fun _ => ?_)
  exact Dispatch.simulates_when (forget T) _ _ _ _ Iff.rfl (depositEvent_agrees T _)

theorem returnHolds_agrees (beneficiary : A) (record : SponsorshipRecord A) :
    Agrees T (returnHolds (tallied T) beneficiary record) (returnHolds T beneficiary record) := by
  refine bind_agrees T _ _ _ _ (onRuntime_agrees T _ _) (fun _ => ?_)
  refine read_agrees T _ _ (fun s => ?_)
  refine bind_agrees T _ _ _ _ (write_agrees T _ _ (fun _ => rfl)) (fun _ => ?_)
  exact Dispatch.simulates_when (forget T) _ _ _ _ Iff.rfl (onRuntime_agrees T _ _)

/-- The reference is taken back, or not, whether or not it is counted. -/
theorem forget_decProviders (beneficiary : A) (w : Tallied A Λ) :
    (((tallied T).system.decProviders beneficiary w).getD w).runtime =
      (T.system.decProviders beneficiary w.runtime).getD w.runtime := by
  change ((Option.map _ (T.system.decProviders beneficiary w.runtime)).getD w).runtime = _
  rcases T.system.decProviders beneficiary w.runtime with _ | L
  · rfl
  · rfl

theorem forget_removeExpiration (beneficiary : A) (lease : Lease) (s : (tallied T).State) :
    forget T (removeExpiration (tallied T) beneficiary lease s) =
      removeExpiration T beneficiary lease (forget T s) := by
  cases lease with
  | none => rfl
  | «until» expiry => rfl

theorem revokeSponsorship_agrees (beneficiary : A) :
    Agrees T (revokeSponsorship (tallied T) beneficiary) (revokeSponsorship T beneficiary) := by
  refine Dispatch.simulates_transactional (forget T) Eq _ _ ?_
  refine read_agrees T _ _ (fun s => ?_)
  refine bind_agrees T _ _ _ _ (Dispatch.simulates_okOr (forget T) _ _) (fun record => ?_)
  refine bind_agrees T _ _ _ _ (returnHolds_agrees T beneficiary record) (fun _ => ?_)
  refine bind_agrees T _ _ _ _ (write_agrees T _ _ (fun _ => rfl)) (fun _ => ?_)
  refine bind_agrees T _ _ _ _ (write_agrees T _ _
    (forget_removeExpiration T beneficiary record.lease)) (fun _ => ?_)
  refine bind_agrees T _ _ _ _ (write_agrees T _ _ (fun _ => rfl)) (fun _ => ?_)
  refine bind_agrees T _ _ _ _ (write_agrees T _ _ (fun u => ?_)) (fun _ => ?_)
  · simp only [forget, forget_decProviders]
  refine bind_agrees T _ _ _ _ (write_agrees T _ _ (fun _ => rfl)) (fun _ => ?_)
  exact Dispatch.simulates_pure (forget T) Eq record record rfl

theorem tryAutoUnlockInternal_agrees (beneficiary : A) (emitEvent : Bool) :
    Agrees T (tryAutoUnlockInternal (tallied T) beneficiary emitEvent)
      (tryAutoUnlockInternal T beneficiary emitEvent) := by
  refine read_agrees T _ _ (fun s => ?_)
  refine bind_agrees T _ _ _ _ (Dispatch.simulates_okOr (forget T) _ _) (fun record => ?_)
  rcases record.autoUnlock with _ | condition
  · exact Dispatch.simulates_pure (forget T) Eq false false rfl
  -- the condition reads the balances, which are those of the runtime underneath
  have hmet : autoUnlockConditionMet (tallied T) beneficiary record.amount condition s =
      autoUnlockConditionMet T beneficiary record.amount condition (forget T s) := by
    cases condition with
    | spendableGeSponsored => rfl
    | freeGeSponsored => rfl
  simp only [hmet]
  split
  · refine bind_agrees T _ _ _ _ (revokeSponsorship_agrees T beneficiary) (fun record => ?_)
    refine bind_agrees T _ _ _ _ (Dispatch.simulates_when (forget T) _ _ _ _ Iff.rfl
      (depositEvent_agrees T _)) (fun _ => ?_)
    exact Dispatch.simulates_pure (forget T) Eq true true rfl
  · exact Dispatch.simulates_pure (forget T) Eq false false rfl

theorem unlockAs_agrees (caller beneficiary : A) :
    Agrees T (unlockAs (tallied T) caller beneficiary) (unlockAs T caller beneficiary) := by
  refine read_agrees T _ _ (fun s => ?_)
  refine bind_agrees T _ _ _ _ (Dispatch.simulates_okOr (forget T) _ _) (fun record => ?_)
  refine bind_agrees T _ _ _ _ (Dispatch.simulates_ensure (forget T) _ _ _ Iff.rfl) (fun _ => ?_)
  exact bind_agrees T _ _ _ _ (revokeSponsorship_agrees T beneficiary)
    (fun record => depositEvent_agrees T _)

theorem setPolicy_agrees (origin : O) (beneficiary : A) (autoUnlock : AutoUnlockMode)
    (lease : Lease) :
    Agrees T (setPolicy (tallied T) origin beneficiary autoUnlock lease)
      (setPolicy T origin beneficiary autoUnlock lease) := by
  refine Dispatch.simulates_transactional (forget T) Eq _ _ ?_
  refine bind_agrees T _ _ _ _ (Dispatch.simulates_okOr (forget T) _ _) (fun caller => ?_)
  refine read_agrees T _ _ (fun s => ?_)
  refine bind_agrees T _ _ _ _ (Dispatch.simulates_okOr (forget T) _ _) (fun record => ?_)
  refine bind_agrees T _ _ _ _ (Dispatch.simulates_ensure (forget T) _ _ _ Iff.rfl) (fun _ => ?_)
  refine bind_agrees T _ _ _ _ (validateLease_agrees T lease _) (fun _ => ?_)
  refine bind_agrees T _ _ _ _ (Dispatch.simulates_when (forget T) _ _ _ _ Iff.rfl ?_) (fun _ => ?_)
  · refine bind_agrees T _ _ _ _ (insertExpiration_agrees T beneficiary lease) (fun _ => ?_)
    exact write_agrees T _ _ (forget_removeExpiration T beneficiary record.lease)
  refine bind_agrees T _ _ _ _ (Dispatch.simulates_when (forget T) _ _ _ _ Iff.rfl
    (enqueueAutoUnlock_agrees T beneficiary)) (fun _ => ?_)
  refine bind_agrees T _ _ _ _ (write_agrees T _ _ (fun _ => rfl)) (fun _ => ?_)
  exact depositEvent_agrees T _

theorem dispatch_agrees (origin : O) (call : Call A) :
    Agrees T (dispatch (tallied T) origin call) (dispatch T origin call) := by
  refine Dispatch.simulates_transactional (forget T) Eq _ _ ?_
  have hsigned : Agrees T (ensureSigned (tallied T) origin) (ensureSigned T origin) :=
    Dispatch.simulates_okOr (forget T) _ _
  cases call with
  | sponsor beneficiary amount autoUnlock lease =>
    exact bind_agrees T _ _ _ _ hsigned
      (fun who => doSponsor_agrees T who beneficiary amount autoUnlock lease true)
  | sponsorMinimum beneficiary autoUnlock lease =>
    exact bind_agrees T _ _ _ _ hsigned
      (fun who => doSponsor_agrees T who beneficiary _ autoUnlock lease true)
  | unlock beneficiary =>
    exact bind_agrees T _ _ _ _ hsigned (fun who => unlockAs_agrees T who beneficiary)
  | setPolicy beneficiary autoUnlock lease => exact setPolicy_agrees T origin beneficiary autoUnlock lease
  | forceUnlock beneficiary =>
    refine bind_agrees T _ _ _ _ (Dispatch.simulates_ensure (forget T) _ _ _ Iff.rfl) (fun _ => ?_)
    exact bind_agrees T _ _ _ _ (revokeSponsorship_agrees T beneficiary)
      (fun record => depositEvent_agrees T _)
  | refresh beneficiary =>
    refine bind_agrees T _ _ _ _ hsigned (fun _ => ?_)
    exact bind_agrees T _ _ _ _ (tryAutoUnlockInternal_agrees T beneficiary true)
      (fun _ => Dispatch.simulates_pure (forget T) Eq () () rfl)

theorem forget_entryStep (s : (tallied T).State) (e : Entry A O) :
    forget T (entryStep (tallied T) s e) = entryStep T (forget T s) e := by
  cases e with
  | call origin call => exact (dispatch_agrees T origin call s).storage
  | createSponsorship sponsor beneficiary amount autoUnlock lease =>
    exact (doSponsor_agrees T sponsor beneficiary amount autoUnlock lease true s).storage
  | unlockSponsorship sponsor beneficiary => exact (unlockAs_agrees T sponsor beneficiary s).storage
  | tryAutoUnlock beneficiary =>
    have h : Agrees T (tryAutoUnlock (tallied T) beneficiary) (tryAutoUnlock T beneficiary) :=
      bind_agrees T _ _ _ _ (tryAutoUnlockInternal_agrees T beneficiary true)
        (fun _ => Dispatch.simulates_pure (forget T) Eq () () rfl)
    exact (h s).storage

theorem forget_expireIteration (now : ℕ) (s : (tallied T).State) (beneficiary : A) :
    forget T (expireIteration (tallied T) now s beneficiary) =
      expireIteration T now (forget T s) beneficiary := by
  have hrevoke := revokeSponsorship_agrees T beneficiary s
  rcases hget : s.sponsorships.get beneficiary with _ | record
  · have hforget : (forget T s).sponsorships.get beneficiary = none := hget
    simp only [expireIteration, hget, hforget]
  have hforget : (forget T s).sponsorships.get beneficiary = some record := hget
  by_cases hlease : record.lease ≠ .until now
  · simp only [expireIteration, hget, hforget, if_pos hlease]
  · simp only [expireIteration, hget, hforget, if_neg hlease]
    -- only the revocation reaches the runtime, and there both sides answer alike
    generalize revokeSponsorship (tallied T) beneficiary s = y at hrevoke
    generalize revokeSponsorship T beneficiary (forget T s) = x at hrevoke
    cases hrevoke with
    | ok b a t h =>
      subst h
      rfl
    | error e t => rfl

theorem forget_processExpirations (now : ℕ) (s : (tallied T).State) :
    forget T (processExpirations (tallied T) now s).1 = (processExpirations T now (forget T s)).1 :=
  (List.foldl_hom (forget T) (fun u b => (forget_expireIteration T now u b).symm)).symm

/-- The locals of the auto-unlock loop, over the storage without the tally. -/
def forgetPass (p : AutoUnlockPass A (Tallied A Λ) (tallied T).maxQueueProcessingPerBlock) :
    AutoUnlockPass A Λ T.maxQueueProcessingPerBlock :=
  ⟨p.unprocessed, p.requeue, p.processed, forget T p.storage⟩

theorem forget_autoUnlockIteration
    (p : AutoUnlockPass A (Tallied A Λ) (tallied T).maxQueueProcessingPerBlock) (entry : A × ℕ) :
    forgetPass T (autoUnlockIteration (tallied T) p entry) =
      autoUnlockIteration T (forgetPass T p) entry := by
  obtain ⟨beneficiary, index⟩ := entry
  by_cases hindex : index < T.maxQueueProcessingPerBlock
  · have hstorage := (tryAutoUnlockInternal_agrees T beneficiary true p.storage).storage
    -- whether the account is put back is read off the storage after the attempt
    have hawaits : awaitsUnlock (tallied T)
        (tryAutoUnlockInternal (tallied T) beneficiary true p.storage).2 beneficiary =
        awaitsUnlock T (tryAutoUnlockInternal T beneficiary true (forget T p.storage)).2
          beneficiary := by
      rw [← hstorage]
      rfl
    rw [autoUnlockIteration_eq (tallied T) p beneficiary index hindex,
      autoUnlockIteration_eq T (forgetPass T p) beneficiary index hindex]
    simp only [forgetPass, hawaits, hstorage]
    rfl
  · have hle : (tallied T).maxQueueProcessingPerBlock ≤ index := Nat.not_lt.mp hindex
    simp only [autoUnlockIteration, if_pos hle, if_pos (Nat.not_lt.mp hindex)]
    rfl

theorem forget_processAutoUnlockQueue (s : (tallied T).State) :
    (processAutoUnlockQueue (tallied T) s).map (fun r => (forget T r.1, r.2)) =
      processAutoUnlockQueue T (forget T s) := by
  have hloop : forgetPass T (autoUnlockLoop (tallied T) s) = autoUnlockLoop T (forget T s) :=
    (List.foldl_hom (forgetPass T) (fun p e => (forget_autoUnlockIteration T p e).symm)).symm
  have hplain : processAutoUnlockQueue T (forget T s) = (BoundedVec.tryFrom
      ((autoUnlockLoop T (forget T s)).unprocessed ++ (autoUnlockLoop T (forget T s)).requeue)).map
        fun next => ({ (autoUnlockLoop T (forget T s)).storage with autoUnlockQueue := next },
          (autoUnlockLoop T (forget T s)).processed) := rfl
  rw [hplain, ← hloop]
  exact Option.map_map _ _ _

theorem forget_genesisBuild (initial : List (InitialSponsorship A)) (s : (tallied T).State) :
    (genesisBuild (tallied T) initial s).map (forget T) = genesisBuild T initial (forget T s) := by
  induction initial generalizing s with
  | nil => rfl
  | cons i initial ih =>
    have hi := doSponsor_agrees T i.sponsor i.beneficiary i.amount i.autoUnlock i.lease false s
    simp only [genesisBuild, List.foldlM_cons]
    generalize doSponsor (tallied T) i.sponsor i.beneficiary i.amount i.autoUnlock i.lease false s =
      y at hi
    generalize doSponsor T i.sponsor i.beneficiary i.amount i.autoUnlock i.lease false (forget T s) =
      x at hi
    cases hi with
    | ok b a t h => exact ih t
    | error e t => rfl

theorem forget_talliedStep (s : (tallied T).State) (op : Op A O Λ) :
    forget T (talliedStep T s op) = step T (forget T s) op := by
  cases op with
  | entry e => exact forget_entryStep T s e
  | genesisBuild initial =>
    have h := forget_genesisBuild T initial s
    change forget T ((genesisBuild (tallied T) initial s).getD s) =
      (genesisBuild T initial (forget T s)).getD (forget T s)
    rw [← h]
    rcases genesisBuild (tallied T) initial s with _ | t
    · rfl
    · rfl
  | onInitialize now =>
    obtain ⟨processed, hstep⟩ := step_onInitialize (O := O) (tallied T) now s
    obtain ⟨processed', hstep'⟩ := step_onInitialize (O := O) T now (forget T s)
    have hexpired := forget_processExpirations T now { s with blockNumber := now }
    have hqueue := forget_processAutoUnlockQueue T
      (processExpirations (tallied T) now { s with blockNumber := now }).1
    rw [hstep, hexpired] at hqueue
    exact congrArg Prod.fst (Option.some.inj (hqueue.trans hstep'))
  | environment f => rfl

/-- The tally of the references that the pallet has added and removed in a run. -/
def tallyOf (L : Λ) (ops : List (Op A O Λ)) : Tallied A Λ :=
  (run (talliedStep T) (talliedStart T L) ops).runtime

/-- A run with the tally is a run of the pallet, with the tally beside it. -/
theorem forget_run (L : Λ) (ops : List (Op A O Λ)) :
    forget T (run (talliedStep T) (talliedStart T L) ops) = run (step T) (emptyStorage T L) ops :=
  (List.foldl_hom (forget T) (fun s op => (forget_talliedStep T s op).symm)).symm

end NuloChain.Sponsorship
