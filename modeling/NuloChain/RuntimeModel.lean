import NuloChain.FrameShared
import NuloChain.FrameRefinement
import NuloChain.PrepaidConfined
import NuloChain.SponsorshipHolds

/-! The runtime, as far as the pallets meet in it. There is one currency. Sponsors put it on hold,
purchases of credit and fees move it, and every extrinsic is charged by the prepaid fee adapter
around whatever it dispatches. The fee pallets see the sponsorship storage as a part of the
runtime underneath them. -/
namespace NuloChain.Runtime
open Frame
set_option linter.unusedSectionVars false
variable {A O R Λ : Type} [DecidableEq A] [DecidableEq R]

/-- The pallets' configurations over one currency and one system. -/
structure Config (A O R Λ : Type) where
  sponsorship : Sponsorship.Config A O R Λ
  prepaid : Prepaid.Config A O Λ
  currency : prepaid.currency.toInspect = sponsorship.currency.toInspect
  system : prepaid.system = sponsorship.system
  signed : prepaid.ensureSigned = sponsorship.ensureSigned

variable (T : Config A O R Λ)

/-- The balances and accounts underneath the sponsorship storage. -/
def balances : Lens T.sponsorship.State Λ where
  get s := s.runtime
  set L s := { s with runtime := L }
  get_set _ _ := rfl

/-- The fee pallets over a runtime that holds the sponsorship storage. -/
def fees : Prepaid.Config A O T.sponsorship.State where
  currency := T.prepaid.currency.within (balances T)
  system := T.prepaid.system.within (balances T)
  ensureSigned := T.prepaid.ensureSigned
  onUnbalanceds credits s := (balances T).set (T.prepaid.onUnbalanceds credits s.runtime) s
  palletAccount := T.prepaid.palletAccount
  minPurchase := T.prepaid.minPurchase
  balanceMax := T.prepaid.balanceMax

abbrev Config.State (T : Config A O R Λ) : Type := Prepaid.Storage A T.sponsorship.State

/-- A dispatched call: of one of the two pallets with calls, or of another pallet, which may
change the balances. -/
inductive Call (A O Λ : Type)
  | sponsorship (origin : O) (call : Sponsorship.Call A)
  | purchase (origin : O) (beneficiary : A) (amount : ℕ)
  | other (f : Λ → Λ)

/-- What the sponsorship pallet sees of a call. -/
def Call.seen : Call A O Λ → List (Sponsorship.Op A O Λ)
  | .sponsorship origin call => [.entry (.call origin call)]
  | .purchase _ _ _ => []
  | .other _ => []

/-- What the fee adapter sees of a call. -/
def Call.inner : Call A O Λ → Prepaid.Inner A O T.sponsorship.State
  | .sponsorship origin call =>
    .foreign fun s => Sponsorship.step T.sponsorship s (.entry (.call origin call))
  | .purchase origin beneficiary amount => .purchase origin beneficiary amount
  | .other f => .foreign fun s => Sponsorship.step T.sponsorship s (.environment f)

inductive Op (A O Λ : Type)
  | genesisBuild (initial : List (Sponsorship.InitialSponsorship A))
  | onInitialize (now : ℕ)
  | extrinsic (who : A) (feeWithTip tip : ℕ) (calls : List (Call A O Λ)) (corrected : ℕ)
  | other (f : Λ → Λ)

/-- A step of the sponsorship pallet that is not charged for. -/
def onSponsorship (s : T.State) (op : Sponsorship.Op A O Λ) : T.State :=
  { s with runtime := Sponsorship.step T.sponsorship s.runtime op }

def callStep (s : T.State) (call : Call A O Λ) : T.State :=
  Prepaid.innerStep (fees T) s (call.inner T)

def step (s : T.State) : Op A O Λ → T.State
  | .genesisBuild initial => onSponsorship T s (.genesisBuild initial)
  | .onInitialize now => onSponsorship T s (.onInitialize now)
  | .extrinsic who feeWithTip tip calls corrected =>
    -- an extrinsic that cannot pay is not applied
    match Prepaid.withdrawFee (fees T) who feeWithTip tip s with
    | (.error _, t) => t
    | (.ok info, t) =>
      (Prepaid.correctAndDepositFee (fees T) corrected tip info (run (callStep T) t calls)).2
  | .other f => onSponsorship T s (.environment f)

def emptyStorage (L : Λ) : T.State :=
  Prepaid.emptyStorage (Sponsorship.emptyStorage T.sponsorship L)

/-- The operations of the sponsorship pallet that a step admits: none if the fee is not paid. -/
def admitted (s : T.State) : Op A O Λ → List (Sponsorship.Op A O Λ)
  | .genesisBuild initial => [.genesisBuild initial]
  | .onInitialize now => [.onInitialize now]
  | .extrinsic who feeWithTip tip calls _ =>
    match Prepaid.withdrawFee (fees T) who feeWithTip tip s with
    | (.error _, _) => []
    | (.ok _, _) => calls.flatMap Call.seen
  | .other _ => []

/-- A step of the pallet itself, as opposed to one of the runtime around it. -/
def isOwn : Sponsorship.Op A O Λ → Bool
  | .environment _ => false
  | _ => true

/-- A call of another pallet uses neither of the sponsorship pallet's hold reasons. -/
def CallLeavesHolds (s : T.State) : Call A O Λ → Prop
  | .other f => Sponsorship.LeavesHolds T.sponsorship s.runtime f
  | _ => True

/-- The other pallets use neither of the sponsorship pallet's hold reasons. -/
def LeavesHolds (s : T.State) : Op A O Λ → Prop
  | .other f => Sponsorship.LeavesHolds T.sponsorship s.runtime f
  | .extrinsic who feeWithTip tip calls _ =>
    Along (callStep T) (CallLeavesHolds T) (Prepaid.withdrawFee (fees T) who feeWithTip tip s).2 calls
  | _ => True

/-- What the fee pallets leave alone: the holds. -/
structure HoldLaws : Prop where
  moves : T.prepaid.currency.KeepsHolds T.sponsorship.currency.balanceOnHold
  counter : T.sponsorship.system.KeepsFunds T.sponsorship.currency
  handler : ∀ credits L, T.sponsorship.currency.balanceOnHold (T.prepaid.onUnbalanceds credits L) =
    T.sponsorship.currency.balanceOnHold L

abbrev SponsorshipReaches (s : T.sponsorship.State) (own : List (Sponsorship.Op A O Λ))
    (t : T.sponsorship.State) : Prop :=
  Reaches (Sponsorship.step T.sponsorship) (Sponsorship.RespectsHolds T.sponsorship) isOwn s own t

/-- Replacing the balances by some with the same holds is a step of the environment. -/
theorem reaches_balances (s t : T.sponsorship.State) (own : List (Sponsorship.Op A O Λ)) (L : Λ)
    (hst : SponsorshipReaches T s own t)
    (hL : T.sponsorship.currency.balanceOnHold L = T.sponsorship.currency.balanceOnHold t.runtime) :
    SponsorshipReaches T s own ((balances T).set L t) := by
  refine reaches_other (Sponsorship.step T.sponsorship) _ isOwn s t own (.environment fun _ => L)
    hst ?_ rfl
  intro f hf reason a
  cases hf
  rw [hL]

/-- Whatever the fee pallets do between two sponsorship steps is the environment's. -/
theorem fees_confined (laws : HoldLaws T) (s : T.sponsorship.State)
    (own : List (Sponsorship.Op A O Λ)) :
    Prepaid.Confined (fees T) (SponsorshipReaches T s own) (fun _ => True) (fun _ _ => True) where
  transfer src n t u _ _ ht hu := by
    obtain ⟨L, hL, rfl⟩ := ((balances T).update_eq_some _ t u).mp hu
    exact reaches_balances T s t own L ht (laws.moves.transfer _ _ _ _ _ _ hL)
  withdraw who n t c u _ ht hu := by
    obtain ⟨L, hL, rfl⟩ := T.prepaid.currency.within_withdraw (balances T) who n c _ _ _ t u hu
    exact reaches_balances T s t own L ht (laws.moves.withdraw _ _ _ _ _ _ _ _ hL)
  charge n t c u _ ht hu := by
    obtain ⟨L, hL, rfl⟩ := T.prepaid.currency.within_withdraw (balances T) _ n c _ _ _ t u hu
    exact reaches_balances T s t own L ht (laws.moves.withdraw _ _ _ _ _ _ _ _ hL)
  resolve who n t u _ ht hu := by
    obtain ⟨L, hL, rfl⟩ := ((balances T).update_eq_some _ t u).mp hu
    exact reaches_balances T s t own L ht (laws.moves.resolve _ _ _ _ hL)
  dropCredit n t ht := reaches_balances T s t own _ ht (laws.moves.dropCredit _ _)
  incProviders a t ht := by
    refine reaches_balances T s t own _ ht ?_
    funext r b
    rw [T.system]
    exact laws.counter.inc_hold _ _ _ _
  onUnbalanceds credits t ht := reaches_balances T s t own _ ht (laws.handler _ _)

theorem callStep_reaches (laws : HoldLaws T) (s : T.State) (call : Call A O Λ)
    (hcall : CallLeavesHolds T s call) :
    SponsorshipReaches T s.runtime call.seen (callStep T s call).runtime := by
  cases call with
  | sponsorship origin call =>
    refine reaches_step (Sponsorship.step T.sponsorship) _ isOwn s.runtime
      (.entry (.call origin call)) ?_
    intro f hf
    cases hf
  | purchase origin beneficiary amount =>
    exact Prepaid.purchase_confined (fees_confined T laws s.runtime []) origin beneficiary amount s
      (reaches_refl _ _ _ _) (fun _ _ => trivial)
  | other f =>
    refine reaches_step (Sponsorship.step T.sponsorship) _ isOwn s.runtime (.environment f) ?_
    intro g hg
    cases hg
    exact hcall

theorem log_seen (calls : List (Call A O Λ)) (s : T.State) :
    log (callStep T) (fun _ call => call.seen) s calls = calls.flatMap Call.seen := by
  induction calls generalizing s with
  | nil => rfl
  | cons call calls ih =>
    change call.seen ++ log (callStep T) _ (callStep T s call) calls = _
    rw [ih (callStep T s call), List.flatMap_cons]

/-- One step of the runtime, as the sponsorship pallet sees it. -/
theorem step_reaches (laws : HoldLaws T) (s : T.State) (op : Op A O Λ) (hop : LeavesHolds T s op) :
    SponsorshipReaches T s.runtime (admitted T s op) (step T s op).runtime := by
  cases op with
  | genesisBuild initial =>
    refine reaches_step (Sponsorship.step T.sponsorship) _ isOwn s.runtime (.genesisBuild initial) ?_
    intro f hf
    cases hf
  | onInitialize now =>
    refine reaches_step (Sponsorship.step T.sponsorship) _ isOwn s.runtime (.onInitialize now) ?_
    intro f hf
    cases hf
  | other f =>
    refine reaches_step (Sponsorship.step T.sponsorship) _ isOwn s.runtime (.environment f) ?_
    intro g hg
    cases hg
    exact hop
  | extrinsic who feeWithTip tip calls corrected =>
    have hcharged := Prepaid.withdrawFee_confined (fees_confined T laws s.runtime []) who feeWithTip
      tip s (reaches_refl _ _ _ _) trivial (fun _ _ => trivial)
    change Along (callStep T) (CallLeavesHolds T)
      (Prepaid.withdrawFee (fees T) who feeWithTip tip s).2 calls at hop
    simp only [step, admitted]
    rcases hx : Prepaid.withdrawFee (fees T) who feeWithTip tip s with ⟨e | info, t⟩
    · rw [hx] at hcharged
      exact hcharged
    · rw [hx] at hcharged hop
      have hcalls := run_reaches _ _ isOwn (callStep T) (CallLeavesHolds T) (fun u => u.runtime)
        (fun _ call => call.seen) (callStep_reaches T laws) calls t hop
      rw [log_seen] at hcalls
      have hdone := reaches_trans _ _ isOwn _ _ _ _ _ hcharged hcalls
      exact Prepaid.correctAndDepositFee_confined
        (fees_confined T laws s.runtime (calls.flatMap Call.seen)) corrected tip info _ hdone

/-- The runtime refines the sponsorship pallet: whatever fees are charged, refunded and prepaid
around its calls, its storage is that of a run of the pallet alone, over an environment that
respects its holds, with the calls and hooks that the runtime admitted, in their order. -/
theorem runtime_refines_sponsorship (laws : HoldLaws T) (s : T.State) (ops : List (Op A O Λ))
    (hops : Along (step T) (LeavesHolds T) s ops) :
    ∃ ops', Along (Sponsorship.step T.sponsorship) (Sponsorship.RespectsHolds T.sponsorship)
        s.runtime ops' ∧
      run (Sponsorship.step T.sponsorship) s.runtime ops' = (run (step T) s ops).runtime ∧
      ops'.filter isOwn = log (step T) (admitted T) s ops :=
  run_reaches _ _ isOwn (step T) (LeavesHolds T) (fun u => u.runtime) (admitted T)
    (step_reaches T laws) ops s hops

/-- `EXISTENTIAL_DEPOSIT`, a thousandth of a unit. -/
def existentialDeposit : ℕ := 1000000000

/-- `DAYS`, in blocks of six seconds. -/
def days : ℕ := 14400

/-- The constants of the runtime, over a ledger of numbered accounts. Collected fees are burnt. -/
def runtime : Config ℕ (RawOrigin ℕ) Sponsorship.HoldReason (Ledger ℕ Sponsorship.HoldReason) where
  sponsorship :=
    { currency := Ledger.holds existentialDeposit
      system := Ledger.system existentialDeposit
      holdReason := id
      holdReason_injective := Function.injective_id
      ensureSigned := RawOrigin.ensureSigned
      forceOrigin := RawOrigin.isRoot
      balanceMax := 2^128-1
      minSponsorship := existentialDeposit
      sponsorMinRemaining := 5*existentialDeposit
      maxTotalSponsoredPerSponsor := 1000*existentialDeposit
      maxSponsoredAccountsPerSponsor := 64
      maxSponsoredAmountPerBlock := 100*existentialDeposit
      maxNewSponsorshipsPerBlock := 16
      maxLeaseDuration := 7*days
      maxQueueProcessingPerBlock := 64
      sponsorshipStorageDeposit := existentialDeposit }
  prepaid :=
    { currency := Ledger.balanced existentialDeposit
      system := Ledger.system existentialDeposit
      ensureSigned := RawOrigin.ensureSigned
      onUnbalanceds := fun _ L => L
      palletAccount := 0
      minPurchase := 1
      balanceMax := 2^128-1 }
  currency := rfl
  system := rfl
  signed := rfl

theorem runtime_holdLaws : HoldLaws runtime where
  moves := Ledger.balanced_keepsHolds existentialDeposit
  counter := Ledger.system_keepsFunds existentialDeposit
  handler _ _ := rfl

/-- Two accounts with a hundred deposits each. -/
def richLedger : Ledger ℕ Sponsorship.HoldReason :=
  Ledger.endowed [(1, 100*existentialDeposit), (2, 100*existentialDeposit)]

/-- The first account buys credit for the second and sponsors the account that covers it; the
second pays a fee out of the credit, and part of it comes back; the sponsorship ends. -/
def sponsoredPotTrace : List (Op ℕ (RawOrigin ℕ) (Ledger ℕ Sponsorship.HoldReason)) :=
  [.onInitialize 1,
    .extrinsic 1 10 0 [.purchase (.signed 1) 2 (4*existentialDeposit),
      .sponsorship (.signed 1) (.sponsor 0 (2*existentialDeposit) .disabled .none)] 10,
    .extrinsic 2 (2*existentialDeposit) 0
      [.sponsorship (.signed 2) (.sponsorMinimum 3 .disabled (.until 9))] existentialDeposit,
    .extrinsic 1 10 0 [.sponsorship (.signed 1) (.unlock 0)] 10]

theorem runtime_refines_sponsorship_sponsoredPotTrace :
    (log (step runtime) (admitted runtime) (emptyStorage runtime richLedger)
        sponsoredPotTrace).length = 4 ∧
      ∃ ops', Along (Sponsorship.step runtime.sponsorship)
          (Sponsorship.RespectsHolds runtime.sponsorship) (emptyStorage runtime richLedger).runtime
          ops' ∧
        run (Sponsorship.step runtime.sponsorship) (emptyStorage runtime richLedger).runtime ops' =
          (run (step runtime) (emptyStorage runtime richLedger) sponsoredPotTrace).runtime ∧
        ops'.filter isOwn =
          log (step runtime) (admitted runtime) (emptyStorage runtime richLedger) sponsoredPotTrace :=
  ⟨by decide +kernel, runtime_refines_sponsorship runtime runtime_holdLaws _ sponsoredPotTrace
    ⟨trivial, ⟨trivial, trivial, trivial⟩, ⟨trivial, trivial⟩, ⟨trivial, trivial⟩, trivial⟩⟩

end NuloChain.Runtime
