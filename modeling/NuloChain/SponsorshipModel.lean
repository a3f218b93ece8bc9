import NuloChain.FrameDispatch
import NuloChain.FrameStorage
import NuloChain.FrameCurrency

/-! The existential sponsorship pallet: its storage, its six calls, the provider trait
and the two passes of `on_initialize`. Balances and block numbers are natural numbers;
`balanceMax` and `u32Max` are where the source's saturating arithmetic clamps. -/
namespace NuloChain.Sponsorship
open Frame

inductive AutoUnlockCondition | spendableGeSponsored | freeGeSponsored
  deriving DecidableEq, Repr

inductive AutoUnlockMode | disabled | enabled (condition : AutoUnlockCondition)
  deriving DecidableEq, Repr

inductive Lease | none | until (expiry : ℕ)
  deriving DecidableEq, Repr

inductive UnlockReason | manual | force
  deriving DecidableEq, Repr

inductive HoldReason | sponsorship | storageDeposit
  deriving DecidableEq, Repr

structure SponsorState where
  activeAmount : ℕ := 0
  activeCount : ℕ := 0
  lastBlock : ℕ := 0
  sponsoredAmountInBlock : ℕ := 0
  newSponsorshipsInBlock : ℕ := 0
  deriving DecidableEq, Repr

structure SponsorshipRecord (A : Type) where
  sponsor : A
  amount : ℕ
  autoUnlock : AutoUnlockMode
  lease : Lease
  createdAt : ℕ
  deriving DecidableEq, Repr

inductive Event (A : Type)
  | sponsored (sponsor beneficiary : A) (amount : ℕ) (autoUnlock : AutoUnlockMode) (lease : Lease)
  | unlocked (sponsor beneficiary : A) (amount : ℕ) (reason : UnlockReason)
  | policyUpdated (sponsor beneficiary : A) (autoUnlock : AutoUnlockMode) (lease : Lease)
  | expired (sponsor beneficiary : A) (amount : ℕ)
  | autoUnlocked (sponsor beneficiary : A) (amount : ℕ) (condition : AutoUnlockCondition)
  deriving DecidableEq, Repr

/-- The pallet's errors, and the `BadOrigin` of a failed origin check. -/
inductive Error
  | alreadySponsored | notSponsored | notSponsor | amountTooLow | leaseTooLong | leaseInPast
  | sponsorCapExceeded | sponsorCountCapExceeded | sponsorPerBlockCapExceeded
  | sponsorPerBlockCountExceeded | sponsorMinRemainingViolation | holdUnavailable
  | cannotTransferAndHold | cannotTransferOnHold | storageDepositFailed | queueFull
  | badOrigin
  deriving DecidableEq, Repr

def u32Max : ℕ := 2^32-1

/-- `pallet::Config`. `O` is the runtime's origin type and `R` its hold reasons, into which
the pallet's two reasons are embedded. -/
structure Config (A O R Λ : Type) where
  currency : MutateHold A R Λ
  system : FrameSystem A Λ
  holdReason : HoldReason → R
  holdReason_injective : Function.Injective holdReason
  ensureSigned : O → Option A
  forceOrigin : O → Bool
  balanceMax : ℕ
  minSponsorship : ℕ
  sponsorMinRemaining : ℕ
  maxTotalSponsoredPerSponsor : ℕ
  maxSponsoredAccountsPerSponsor : ℕ
  maxSponsoredAmountPerBlock : ℕ
  maxNewSponsorshipsPerBlock : ℕ
  maxLeaseDuration : ℕ
  maxQueueProcessingPerBlock : ℕ
  sponsorshipStorageDeposit : ℕ

/-- The pallet's storage, over the storage `runtime` of the system and balances pallets. -/
structure Storage (A Λ : Type) (limit : ℕ) where
  sponsorships : StorageMap A (SponsorshipRecord A)
  sponsorLedger : StorageMap A SponsorState
  storageDepositHeld : StorageMap A ℕ
  expirations : StorageMap ℕ (BoundedVec A limit)
  autoUnlockQueue : BoundedVec A limit
  runtime : Λ
  blockNumber : ℕ
  events : List (Event A)

variable {A O R Λ : Type} [DecidableEq A]

namespace Config

abbrev State (T : Config A O R Λ) : Type := Storage A Λ T.maxQueueProcessingPerBlock

abbrev Pallet (T : Config A O R Λ) (α : Type) : Type := Dispatch T.State Error α

def balanceSaturatingAdd (T : Config A O R Λ) (a b : ℕ) : ℕ := min (a+b) T.balanceMax

end Config

def u32SaturatingAdd (a b : ℕ) : ℕ := min (a+b) u32Max

variable (T : Config A O R Λ)

def minimumSponsorship : ℕ := max T.minSponsorship T.currency.minimumBalance

def sponsorshipHoldReason : R := T.holdReason .sponsorship

def storageDepositHoldReason : R := T.holdReason .storageDeposit

/-- The storage with one more event in its log. -/
def logged (e : Event A) (s : T.State) : T.State := { s with events := s.events ++ [e] }

def depositEvent (e : Event A) : T.Pallet Unit := Dispatch.write (logged T e)

/-- Run a currency operation on the runtime's storage, mapping its failure to `e`. -/
def onRuntime (f : Λ → Option Λ) (e : Error) : T.Pallet Unit := do
  let s ← Dispatch.read
  let L ← Dispatch.okOr (f s.runtime) e
  Dispatch.write fun s => { s with runtime := L }

def validateLease (lease : Lease) (now : ℕ) : T.Pallet Unit :=
  match lease with
  | .none => pure ()
  | .until expiry => do
    Dispatch.ensure (now ≤ expiry) .leaseInPast
    Dispatch.ensure (expiry-now ≤ T.maxLeaseDuration) .leaseTooLong

def refreshPerBlockLedger (ledger : SponsorState) (now : ℕ) : SponsorState :=
  if ledger.lastBlock ≠ now then
    { ledger with lastBlock := now, sponsoredAmountInBlock := 0, newSponsorshipsInBlock := 0 }
  else ledger

/-- `Expirations::get(expiry)`. -/
def bucket (s : T.State) (expiry : ℕ) : BoundedVec A T.maxQueueProcessingPerBlock :=
  s.expirations.getD expiry BoundedVec.empty

def insertExpiration (beneficiary : A) (lease : Lease) : T.Pallet Unit :=
  match lease with
  | .none => pure ()
  | .until expiry => do
    let s ← Dispatch.read
    Dispatch.when (beneficiary ∉ (bucket T s expiry).toList) do
      let pushed ← Dispatch.okOr ((bucket T s expiry).tryPush beneficiary) .queueFull
      Dispatch.write fun s => { s with expirations := s.expirations.insert expiry pushed }

def removeExpiration (beneficiary : A) (lease : Lease) (s : T.State) : T.State :=
  match lease with
  | .none => s
  | .until expiry =>
    { s with expirations := s.expirations.mutate expiry BoundedVec.empty (fun entries =>
        entries.retain fun account => account ≠ beneficiary) }

def enqueueAutoUnlock (beneficiary : A) : T.Pallet Unit := do
  let s ← Dispatch.read
  Dispatch.when (beneficiary ∉ s.autoUnlockQueue.toList) do
    let queue ← Dispatch.okOr (s.autoUnlockQueue.tryPush beneficiary) .queueFull
    Dispatch.write fun s => { s with autoUnlockQueue := queue }

def dequeueAutoUnlock (beneficiary : A) (s : T.State) : T.State :=
  { s with autoUnlockQueue := s.autoUnlockQueue.retain fun account => account ≠ beneficiary }

def autoUnlockConditionMet (beneficiary : A) (amount : ℕ) (condition : AutoUnlockCondition)
    (s : T.State) : Bool :=
  match condition with
  | .spendableGeSponsored =>
    amount ≤ T.currency.reducibleBalance s.runtime beneficiary .preserve .polite
  | .freeGeSponsored => amount ≤ T.currency.balance s.runtime beneficiary

/-- The four ledger caps, checked on the refreshed local copy. -/
def ensureCaps (ledger : SponsorState) (amount : ℕ) : T.Pallet Unit := do
  Dispatch.ensure (T.balanceSaturatingAdd ledger.activeAmount amount ≤
    T.maxTotalSponsoredPerSponsor) .sponsorCapExceeded
  Dispatch.ensure (u32SaturatingAdd ledger.activeCount 1 ≤
    T.maxSponsoredAccountsPerSponsor) .sponsorCountCapExceeded
  Dispatch.ensure (T.balanceSaturatingAdd ledger.sponsoredAmountInBlock amount ≤
    T.maxSponsoredAmountPerBlock) .sponsorPerBlockCapExceeded
  Dispatch.ensure (u32SaturatingAdd ledger.newSponsorshipsInBlock 1 ≤
    T.maxNewSponsorshipsPerBlock) .sponsorPerBlockCountExceeded

/-- The ledger entry `do_sponsor` writes back. -/
def chargedLedger (ledger : SponsorState) (amount : ℕ) : SponsorState :=
  { ledger with
    activeAmount := T.balanceSaturatingAdd ledger.activeAmount amount
    activeCount := u32SaturatingAdd ledger.activeCount 1
    sponsoredAmountInBlock := T.balanceSaturatingAdd ledger.sponsoredAmountInBlock amount
    newSponsorshipsInBlock := u32SaturatingAdd ledger.newSponsorshipsInBlock 1 }

/-- The checks of `do_sponsor`, which write nothing; they return the refreshed local copy of
the sponsor's ledger entry. -/
def checkSponsor (sponsor beneficiary : A) (amount : ℕ) (lease : Lease) :
    T.Pallet SponsorState := do
  let s ← Dispatch.read
  Dispatch.ensure (s.sponsorships.get beneficiary = none) .alreadySponsored
  Dispatch.ensure (minimumSponsorship T ≤ amount) .amountTooLow
  let now := s.blockNumber
  validateLease T lease now
  let ledger := refreshPerBlockLedger (s.sponsorLedger.getD sponsor {}) now
  ensureCaps T ledger amount
  let totalDeduction := T.balanceSaturatingAdd amount T.sponsorshipStorageDeposit
  Dispatch.ensure (totalDeduction ≤
    T.currency.reducibleBalance s.runtime sponsor .preserve .polite) .sponsorMinRemainingViolation
  Dispatch.ensure (T.sponsorMinRemaining ≤
    T.currency.balance s.runtime sponsor-totalDeduction) .sponsorMinRemainingViolation
  pure ledger

/-- The provider reference and the two holds of `do_sponsor`. -/
def placeHolds (sponsor beneficiary : A) (amount : ℕ) : T.Pallet Unit := do
  let storageDeposit := T.sponsorshipStorageDeposit
  Dispatch.write fun s => { s with runtime := T.system.incProviders beneficiary s.runtime }
  -- the provider reference just added is what makes the hold available on a new account
  let s ← Dispatch.read
  Dispatch.ensure (T.currency.holdAvailable s.runtime (sponsorshipHoldReason T) beneficiary = true)
    .holdUnavailable
  Dispatch.when (storageDeposit ≠ 0)
    (Dispatch.ensure (T.currency.holdAvailable s.runtime (storageDepositHoldReason T) sponsor = true)
      .holdUnavailable)
  onRuntime T (T.currency.transferAndHold (sponsorshipHoldReason T) sponsor beneficiary amount
    .exact .preserve .polite) .cannotTransferAndHold
  Dispatch.when (storageDeposit ≠ 0) do
    onRuntime T (T.currency.hold (storageDepositHoldReason T) sponsor storageDeposit)
      .storageDepositFailed
    Dispatch.write fun s =>
      { s with storageDepositHeld := s.storageDepositHeld.insert beneficiary storageDeposit }

/-- The body of `do_sponsor`, inside its storage layer. -/
def doSponsorBody (sponsor beneficiary : A) (amount : ℕ) (autoUnlock : AutoUnlockMode)
    (lease : Lease) (emitEvent : Bool) : T.Pallet Unit := do
  let ledger ← checkSponsor T sponsor beneficiary amount lease
  placeHolds T sponsor beneficiary amount
  Dispatch.write fun s => { s with
    sponsorships := s.sponsorships.insert beneficiary
      { sponsor := sponsor, amount := amount, autoUnlock := autoUnlock, lease := lease,
        createdAt := s.blockNumber }
    sponsorLedger := s.sponsorLedger.insert sponsor (chargedLedger T ledger amount) }
  insertExpiration T beneficiary lease
  Dispatch.when (autoUnlock ≠ .disabled) (enqueueAutoUnlock T beneficiary)
  Dispatch.when (emitEvent = true)
    (depositEvent T (.sponsored sponsor beneficiary amount autoUnlock lease))

def doSponsor (sponsor beneficiary : A) (amount : ℕ) (autoUnlock : AutoUnlockMode)
    (lease : Lease) (emitEvent : Bool) : T.Pallet Unit :=
  Dispatch.transactional (doSponsorBody T sponsor beneficiary amount autoUnlock lease emitEvent)

/-- The two refunds of `revoke_sponsorship`. -/
def returnHolds (beneficiary : A) (record : SponsorshipRecord A) : T.Pallet Unit := do
  onRuntime T (T.currency.transferOnHold (sponsorshipHoldReason T) beneficiary record.sponsor
    record.amount .exact .free .polite) .cannotTransferOnHold
  let s ← Dispatch.read
  -- `StorageDepositHeld::take`
  let storageDeposit := s.storageDepositHeld.getD beneficiary 0
  Dispatch.write fun s =>
    { s with storageDepositHeld := s.storageDepositHeld.remove beneficiary }
  Dispatch.when (storageDeposit ≠ 0)
    (onRuntime T (T.currency.release (storageDepositHoldReason T) record.sponsor storageDeposit
      .exact) .storageDepositFailed)

/-- The body of `revoke_sponsorship`, inside its storage layer. -/
def revokeSponsorshipBody (beneficiary : A) : T.Pallet (SponsorshipRecord A) := do
  let s ← Dispatch.read
  let record ← Dispatch.okOr (s.sponsorships.get beneficiary) .notSponsored
  returnHolds T beneficiary record
  Dispatch.write fun s => { s with sponsorships := s.sponsorships.remove beneficiary }
  Dispatch.write (removeExpiration T beneficiary record.lease)
  Dispatch.write (dequeueAutoUnlock T beneficiary)
  -- `let _ = dec_providers(..)`: a refusal keeps the reference and is not reported
  Dispatch.write fun s =>
    { s with runtime := (T.system.decProviders beneficiary s.runtime).getD s.runtime }
  Dispatch.write fun s => { s with
    sponsorLedger := s.sponsorLedger.mutate record.sponsor {} (fun ledger =>
      { ledger with
        activeAmount := ledger.activeAmount-record.amount
        activeCount := ledger.activeCount-1 }) }
  pure record

def revokeSponsorship (beneficiary : A) : T.Pallet (SponsorshipRecord A) :=
  Dispatch.transactional (revokeSponsorshipBody T beneficiary)

def tryAutoUnlockInternal (beneficiary : A) (emitEvent : Bool) : T.Pallet Bool := do
  let s ← Dispatch.read
  let record ← Dispatch.okOr (s.sponsorships.get beneficiary) .notSponsored
  match record.autoUnlock with
  | .disabled => pure false
  | .enabled condition =>
    if autoUnlockConditionMet T beneficiary record.amount condition s then do
      let record ← revokeSponsorship T beneficiary
      Dispatch.when (emitEvent = true)
        (depositEvent T (.autoUnlocked record.sponsor beneficiary record.amount condition))
      pure true
    else pure false

def ensureSigned (origin : O) : T.Pallet A := Dispatch.okOr (T.ensureSigned origin) .badOrigin

def sponsor (origin : O) (beneficiary : A) (amount : ℕ) (autoUnlock : AutoUnlockMode)
    (lease : Lease) : T.Pallet Unit := do
  let sponsor ← ensureSigned T origin
  doSponsor T sponsor beneficiary amount autoUnlock lease true

def sponsorMinimum (origin : O) (beneficiary : A) (autoUnlock : AutoUnlockMode)
    (lease : Lease) : T.Pallet Unit := do
  let sponsor ← ensureSigned T origin
  doSponsor T sponsor beneficiary (minimumSponsorship T) autoUnlock lease true

/-- The part `unlock` and the trait's `unlock_sponsorship` share. -/
def unlockAs (caller beneficiary : A) : T.Pallet Unit := do
  let s ← Dispatch.read
  let record ← Dispatch.okOr (s.sponsorships.get beneficiary) .notSponsored
  Dispatch.ensure (caller = record.sponsor) .notSponsor
  let record ← revokeSponsorship T beneficiary
  depositEvent T (.unlocked record.sponsor beneficiary record.amount .manual)

def unlock (origin : O) (beneficiary : A) : T.Pallet Unit := do
  let caller ← ensureSigned T origin
  unlockAs T caller beneficiary

def setPolicyBody (origin : O) (beneficiary : A) (autoUnlock : AutoUnlockMode)
    (lease : Lease) : T.Pallet Unit := do
  let caller ← ensureSigned T origin
  let s ← Dispatch.read
  let record ← Dispatch.okOr (s.sponsorships.get beneficiary) .notSponsored
  Dispatch.ensure (caller = record.sponsor) .notSponsor
  validateLease T lease s.blockNumber
  Dispatch.when (record.lease ≠ lease) do
    insertExpiration T beneficiary lease
    Dispatch.write (removeExpiration T beneficiary record.lease)
  Dispatch.when (autoUnlock ≠ .disabled) (enqueueAutoUnlock T beneficiary)
  Dispatch.write fun s => { s with
    sponsorships := s.sponsorships.insert beneficiary
      { record with autoUnlock := autoUnlock, lease := lease } }
  depositEvent T (.policyUpdated caller beneficiary autoUnlock lease)

def setPolicy (origin : O) (beneficiary : A) (autoUnlock : AutoUnlockMode)
    (lease : Lease) : T.Pallet Unit :=
  Dispatch.transactional (setPolicyBody T origin beneficiary autoUnlock lease)

def forceUnlock (origin : O) (beneficiary : A) : T.Pallet Unit := do
  Dispatch.ensure (T.forceOrigin origin = true) .badOrigin
  let record ← revokeSponsorship T beneficiary
  depositEvent T (.unlocked record.sponsor beneficiary record.amount .force)

def refresh (origin : O) (beneficiary : A) : T.Pallet Unit := do
  let _ ← ensureSigned T origin
  let _ ← tryAutoUnlockInternal T beneficiary true

def createSponsorship (sponsor beneficiary : A) (amount : ℕ) (autoUnlock : AutoUnlockMode)
    (lease : Lease) : T.Pallet Unit :=
  doSponsor T sponsor beneficiary amount autoUnlock lease true

def unlockSponsorship (sponsor beneficiary : A) : T.Pallet Unit := unlockAs T sponsor beneficiary

def tryAutoUnlock (beneficiary : A) : T.Pallet Unit := do
  let _ ← tryAutoUnlockInternal T beneficiary true

structure SponsorshipView (A : Type) where
  sponsor : A
  beneficiary : A
  amount : ℕ
  autoUnlock : AutoUnlockMode
  lease : Lease
  createdAt : ℕ
  deriving DecidableEq, Repr

def sponsorshipOf (beneficiary : A) (s : T.State) : Option (SponsorshipView A) :=
  (s.sponsorships.get beneficiary).map fun record =>
    { sponsor := record.sponsor, beneficiary := beneficiary, amount := record.amount,
      autoUnlock := record.autoUnlock, lease := record.lease, createdAt := record.createdAt }

def isSponsored (beneficiary : A) (s : T.State) : Bool := (s.sponsorships.get beneficiary).isSome

def sponsoredAmount (beneficiary : A) (s : T.State) : ℕ :=
  ((s.sponsorships.get beneficiary).map fun record => record.amount).getD 0

/-- One turn of the loop of `process_expirations`. -/
def expireIteration (now : ℕ) (s : T.State) (beneficiary : A) : T.State :=
  match s.sponsorships.get beneficiary with
  | none => s
  | some record =>
    if record.lease ≠ .until now then s
    else
      match revokeSponsorship T beneficiary s with
      | (.ok record, t) => logged T (.expired record.sponsor beneficiary record.amount) t
      | (.error _, t) => t

def processExpirations (now : ℕ) (s : T.State) : T.State × ℕ :=
  let expiring := bucket T s now
  let taken := { s with expirations := s.expirations.remove now }
  (expiring.toList.foldl (expireIteration T now) taken, expiring.toList.length)

/-- The local variables of `process_auto_unlock_queue`, with the storage. -/
structure AutoUnlockPass (A Λ : Type) (limit : ℕ) where
  unprocessed : List A
  requeue : List A
  processed : ℕ
  storage : Storage A Λ limit

/-- One turn of the loop of `process_auto_unlock_queue`. -/
def autoUnlockIteration (pass : AutoUnlockPass A Λ T.maxQueueProcessingPerBlock)
    (entry : A × ℕ) : AutoUnlockPass A Λ T.maxQueueProcessingPerBlock :=
  let beneficiary := entry.1
  if T.maxQueueProcessingPerBlock ≤ entry.2 then
    { pass with unprocessed := pass.unprocessed ++ [beneficiary] }
  else
    let pass := { pass with processed := u32SaturatingAdd pass.processed 1 }
    match pass.storage.sponsorships.get beneficiary with
    | none => pass
    | some record =>
      match record.autoUnlock with
      | .disabled => pass
      | .enabled condition =>
        if autoUnlockConditionMet T beneficiary record.amount condition pass.storage then
          match revokeSponsorship T beneficiary pass.storage with
          | (.ok record, t) =>
            let event := .autoUnlocked record.sponsor beneficiary record.amount condition
            { pass with storage := logged T event t }
          | (.error _, t) =>
            { pass with requeue := pass.requeue ++ [beneficiary], storage := t }
        else { pass with requeue := pass.requeue ++ [beneficiary] }

/-- `None` stands for the panic of the `expect` on the rebuilt queue. -/
def processAutoUnlockQueue (s : T.State) : Option (T.State × ℕ) :=
  let queue := s.autoUnlockQueue.toList
  let taken := { s with autoUnlockQueue := BoundedVec.empty }
  let pass := queue.zipIdx.foldl (autoUnlockIteration T)
    { unprocessed := [], requeue := [], processed := 0, storage := taken }
  (BoundedVec.tryFrom (pass.unprocessed ++ pass.requeue)).map fun next =>
    ({ pass.storage with autoUnlockQueue := next }, pass.processed)

/-- `on_initialize`, with the two counts its weight is computed from. -/
def onInitialize (now : ℕ) (s : T.State) : Option (T.State × ℕ × ℕ) :=
  let (s, expiries) := processExpirations T now s
  (processAutoUnlockQueue T s).map fun (s, autoUnlocks) => (s, expiries, autoUnlocks)

/-- An entry of `initial_sponsorships`. -/
structure InitialSponsorship (A : Type) where
  sponsor : A
  beneficiary : A
  amount : ℕ
  autoUnlock : AutoUnlockMode
  lease : Lease

/-- `BuildGenesisConfig::build`; `None` stands for the panic of its `expect`. -/
def genesisBuild (initial : List (InitialSponsorship A)) (s : T.State) : Option T.State :=
  initial.foldlM (fun s i =>
    match doSponsor T i.sponsor i.beneficiary i.amount i.autoUnlock i.lease false s with
    | (.ok _, t) => some t
    | (.error _, _) => none) s

end NuloChain.Sponsorship
