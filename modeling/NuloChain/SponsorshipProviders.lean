import NuloChain.SponsorshipRuns

/-! Provider references of sponsored accounts. The counter of `frame_system` is shared by
this pallet, the currency and everybody else; `others` is the part the rest of the runtime
has added and not yet removed. -/
namespace NuloChain.Sponsorship
open Frame
set_option linter.unusedSectionVars false
variable {A O R Λ : Type} [DecidableEq A] [DecidableEq R] (T : Config A O R Λ)

structure Shared (A Λ : Type) (limit : ℕ) where
  storage : Storage A Λ limit
  others : A → ℕ

inductive SharedOp (A O Λ : Type)
  | pallet (op : Op A O Λ)
  | foreign (f : Λ → Λ) (others : A → ℕ)

def sharedStep (w : Shared A Λ T.maxQueueProcessingPerBlock) :
    SharedOp A O Λ → Shared A Λ T.maxQueueProcessingPerBlock
  | .pallet op => { w with storage := step T w.storage op }
  | .foreign f others =>
    { storage := { w.storage with runtime := f w.storage.runtime }, others := others }

/-- The currency's own reference on `a`, held while the free balance is at least the minimum. -/
def ownShare (L : Λ) (a : A) : ℕ := one (T.currency.minimumBalance ≤ T.currency.balance L a)

/-- A foreign operation moves the counter by the references it added or removed itself, and
by the currency's own one. -/
def KeepsCount (w : Shared A Λ T.maxQueueProcessingPerBlock) : SharedOp A O Λ → Prop
  | .pallet op => ∀ f, op ≠ .environment f
  | .foreign f others => ∀ a,
    T.system.providers (f w.storage.runtime) a+ownShare T w.storage.runtime a+w.others a =
      T.system.providers w.storage.runtime a+ownShare T (f w.storage.runtime) a+others a

/-- The counter of every account splits into the pallet's share, the currency's and the
others', and the pallet has a share in every sponsored account. -/
def Kept (others : A → ℕ) (s : T.State) : Prop :=
  ∀ a, ∃ own, T.system.providers s.runtime a = own+ownShare T s.runtime a+others a ∧
    one ((s.sponsorships.get a).isSome = true) ≤ own

theorem ownReference_split (L L' : Λ) (h : OwnReference T.system T.currency L L') (a : A)
    (own n : ℕ) (hL : T.system.providers L a = own+ownShare T L a+n) :
    T.system.providers L' a = own+ownShare T L' a+n := by
  have ha := h a
  unfold ownShare at hL ⊢
  omega

/-- A creation adds one reference of the pallet's on the beneficiary. -/
theorem funded_providers (hC : T.system.Counts) (hS : T.system.KeepsFunds T.currency)
    (hF : T.currency.OwnReferences T.system) (s : T.State) (sponsor beneficiary : A) (amount : ℕ)
    (L : Λ) (h : Funded T s sponsor beneficiary amount L) (a : A) (own n : ℕ)
    (hs : T.system.providers s.runtime a = own+ownShare T s.runtime a+n) :
    T.system.providers L a = own+one (a = beneficiary)+ownShare T L a+n := by
  obtain ⟨L₁, hL₁, hdep⟩ := h
  have hinc : T.system.providers (T.system.incProviders beneficiary s.runtime) a =
      own+one (a = beneficiary)+ownShare T (T.system.incProviders beneficiary s.runtime) a+n := by
    have hshare : ownShare T (T.system.incProviders beneficiary s.runtime) a =
        ownShare T s.runtime a := by
      unfold ownShare
      rw [hS.inc_balance]
    rw [hC.inc, hshare, hs]
    omega
  -- moving the funds can only make the currency add or drop its own reference
  have h₁ := ownReference_split T _ _ (hF.transferAndHold _ _ _ _ _ _ _ _ _ hL₁) a _ n hinc
  rcases hdep with ⟨-, hL⟩ | ⟨-, rfl⟩
  · exact ownReference_split T _ _ (hF.hold _ _ _ _ _ hL) a _ n h₁
  · exact h₁

/-- A revocation gives back at most one reference of the pallet's, on the beneficiary. -/
theorem refunded_providers (hC : T.system.Counts) (hS : T.system.KeepsFunds T.currency)
    (hF : T.currency.OwnReferences T.system) (s : T.State) (beneficiary : A)
    (record : SponsorshipRecord A) (L : Λ) (h : Refunded T s beneficiary record L) (a : A)
    (own n : ℕ) (hs : T.system.providers s.runtime a = own+ownShare T s.runtime a+n)
    (hown : one (a = beneficiary) ≤ own) :
    ∃ own', T.system.providers L a = own'+ownShare T L a+n ∧ own ≤ own'+one (a = beneficiary) := by
  obtain ⟨L₁, L₂, hL₁, hdep, hL⟩ := h
  have h₁ := ownReference_split T _ _ (hF.transferOnHold _ _ _ _ _ _ _ _ _ hL₁) a own n hs
  have h₂ : T.system.providers L₂ a = own+ownShare T L₂ a+n := by
    rcases hdep with ⟨-, hrel⟩ | ⟨-, rfl⟩
    · exact ownReference_split T _ _ (hF.release _ _ _ _ _ _ hrel) a own n h₁
    · exact h₁
  rcases hp : T.system.decProviders beneficiary L₂ with _ | L₃
  · -- refused: the reference stays, so the share of the pallet only gets larger
    rw [hp, Option.getD_none] at hL
    exact ⟨own, hL ▸ h₂, Nat.le_add_right own _⟩
  · rw [hp, Option.getD_some] at hL
    subst hL
    have hshare : ownShare T L a = ownShare T L₂ a := by
      unfold ownShare
      rw [hS.dec_balance _ _ _ hp]
    refine ⟨own-one (a = beneficiary), ?_, ?_⟩
    · rw [hC.dec _ _ _ hp, hshare, h₂]
      omega
    · omega

theorem outcome_kept (hC : T.system.Counts) (hS : T.system.KeepsFunds T.currency)
    (hF : T.currency.OwnReferences T.system) (others : A → ℕ) (act : Action A O) (s t : T.State)
    (hs : Kept T others s) (h : Outcome T act s t) : Kept T others t := by
  intro a
  obtain ⟨own, hcount, hown⟩ := hs a
  cases h with
  | idle => exact ⟨own, hcount, hown⟩
  | sponsored sponsor beneficiary amount autoUnlock lease _ _ h =>
    have hnew := funded_providers T hC hS hF _ _ _ _ _ h.funded a own _ hcount
    -- the share of the pallet grows by one exactly where a record appears
    refine ⟨own+one (a = beneficiary), hnew, ?_⟩
    rw [h.sponsorships, StorageMap.get_insert]
    by_cases ha : a = beneficiary
    · simp [ha, one]
    · simpa [ha, one] using hown
  | revoked beneficiary record L event found refunded authorised =>
    have hshare : one (a = beneficiary) ≤ own := by
      by_cases ha : a = beneficiary
      · subst ha
        simpa [one, found] using hown
      · simp [one, ha]
    obtain ⟨own', hcount', hle⟩ :=
      refunded_providers T hC hS hF _ _ _ _ refunded a own _ hcount hshare
    refine ⟨own', hcount', ?_⟩
    change one (((s.sponsorships.remove beneficiary).get a).isSome = true) ≤ own'
    rw [StorageMap.get_remove]
    by_cases ha : a = beneficiary
    · simp [ha, one]
    · simp only [one, ha, if_false, add_zero] at hle hown ⊢
      omega
  | policy origin caller beneficiary autoUnlock lease record _ _ _ h =>
    refine ⟨own, h.runtime ▸ hcount, ?_⟩
    rw [h.sponsorships, StorageMap.get_insert]
    by_cases ha : a = beneficiary
    · subst ha
      simpa [h.found] using hown
    · simpa [ha] using hown

theorem sameFunds_kept (others : A → ℕ) (s t : T.State) (hs : Kept T others s)
    (h : SameFunds T s t) : Kept T others t := by
  intro a
  rw [h.runtime, h.sponsorships]
  exact hs a

theorem sharedStep_kept (hC : T.system.Counts) (hS : T.system.KeepsFunds T.currency)
    (hF : T.currency.OwnReferences T.system) (w : Shared A Λ T.maxQueueProcessingPerBlock)
    (op : SharedOp A O Λ) (hw : Kept T w.others w.storage) (hop : KeepsCount T w op) :
    Kept T (sharedStep T w op).others (sharedStep T w op).storage := by
  cases op with
  | pallet op =>
    exact step_preserves T (Kept T w.others) (fun _ _ => False) (outcome_kept T hC hS hF w.others)
      (sameFunds_kept T w.others) (fun _ _ _ h => h.elim) w.storage op hw (fun f h => hop f h)
  | foreign f others =>
    intro a
    obtain ⟨own, hcount, hown⟩ := hw a
    have ha := hop a
    refine ⟨own, ?_, hown⟩
    change T.system.providers (f w.storage.runtime) a =
      own+ownShare T (f w.storage.runtime) a+others a
    omega

/-- The counter splits in every state of a run that is shared with foreign uses of it. -/
theorem run_kept (hC : T.system.Counts) (hS : T.system.KeepsFunds T.currency)
    (hF : T.currency.OwnReferences T.system) (L : Λ) (others : A → ℕ)
    (hL : ∀ a, T.system.providers L a = ownShare T L a+others a) (ops : List (SharedOp A O Λ))
    (hops : Along (sharedStep T) (KeepsCount T) ⟨emptyStorage T L, others⟩ ops) :
    Kept T (run (sharedStep T) ⟨emptyStorage T L, others⟩ ops).others
      (run (sharedStep T) ⟨emptyStorage T L, others⟩ ops).storage := by
  have hstart : Kept T others (emptyStorage T L) := by
    intro a
    refine ⟨0, ?_, by simp [emptyStorage, one]⟩
    rw [zero_add]
    exact hL a
  exact run_invariant (sharedStep T) (KeepsCount T) (fun w => Kept T w.others w.storage)
    (sharedStep_kept T hC hS hF) ops ⟨emptyStorage T L, others⟩ hstart hops

/-- In every run, shared with any foreign use of the counter, a sponsored account has a
provider reference, and two of them if its own free balance is at least the minimum. -/
theorem sponsored_account_is_provided (hC : T.system.Counts)
    (hS : T.system.KeepsFunds T.currency) (hF : T.currency.OwnReferences T.system) (L : Λ)
    (others : A → ℕ) (hL : ∀ a, T.system.providers L a = ownShare T L a+others a)
    (ops : List (SharedOp A O Λ))
    (hops : Along (sharedStep T) (KeepsCount T) ⟨emptyStorage T L, others⟩ ops) (b : A)
    (record : SponsorshipRecord A)
    (hb : (run (sharedStep T) ⟨emptyStorage T L, others⟩ ops).storage.sponsorships.get b =
      some record) :
    let runtime := (run (sharedStep T) ⟨emptyStorage T L, others⟩ ops).storage.runtime
    1 ≤ T.system.providers runtime b ∧
      (T.currency.minimumBalance ≤ T.currency.balance runtime b →
        2 ≤ T.system.providers runtime b) := by
  intro runtime
  have hinv := run_kept T hC hS hF L others hL ops hops
  -- the share of the pallet is at least one, and the currency has its own on top
  obtain ⟨own, hcount, hown⟩ := hinv b
  rw [hb, one, if_pos Option.isSome_some] at hown
  change T.system.providers runtime b = own+ownShare T runtime b+_ at hcount
  constructor
  · omega
  · intro hfree
    have hshare : ownShare T runtime b = 1 := if_pos hfree
    omega

/-- A beneficiary without funds of its own, a foreign reference that comes and goes, and a
payment that makes the currency add its own reference. -/
def providersTrace : List (SharedOp ℕ (RawOrigin ℕ) (Ledger ℕ HoldReason)) :=
  [.pallet (.entry (.call (.signed 1) (.sponsor 2 30 .disabled .none))),
    .foreign (Ledger.incProviders 2) (fun a => one (a = 2)),
    .foreign (fun L => Ledger.setFree L 2 15) (fun a => one (a = 2)),
    .foreign (fun L => Function.update L 2 { L 2 with others := (L 2).others-1 }) (fun _ => 0)]

/-- On the ledger it is enough to count the references of others. -/
theorem mock_keepsCount (w : Shared ℕ (Ledger ℕ HoldReason) mock.maxQueueProcessingPerBlock)
    (f : Ledger ℕ HoldReason → Ledger ℕ HoldReason) (others : ℕ → ℕ)
    (h : ∀ a, (f w.storage.runtime a).others+w.others a =
      (w.storage.runtime a).others+others a) :
    KeepsCount mock w (.foreign f others : SharedOp ℕ (RawOrigin ℕ) (Ledger ℕ HoldReason)) := by
  intro a
  have ha := h a
  change (f w.storage.runtime a).others+ownShare mock (f w.storage.runtime) a+
      ownShare mock w.storage.runtime a+w.others a =
    (w.storage.runtime a).others+ownShare mock w.storage.runtime a+
      ownShare mock (f w.storage.runtime) a+others a
  omega

theorem providersTrace_keepsCount :
    Along (sharedStep mock) (KeepsCount mock) ⟨emptyStorage mock mockLedger, fun _ => 0⟩
      providersTrace := by
  refine ⟨(fun f h => by cases h), mock_keepsCount _ _ _ ?_, mock_keepsCount _ _ _ ?_,
    mock_keepsCount _ _ _ ?_, trivial⟩
  · intro a
    by_cases ha : a = 2
    · subst ha
      decide +kernel
    · simp [Ledger.incProviders, sharedStep, one, ha]
  · intro a
    by_cases ha : a = 2
    · subst ha
      decide +kernel
    · simp [sharedStep]
  · intro a
    by_cases ha : a = 2
    · subst ha
      decide +kernel
    · simp [sharedStep, one, ha]

theorem sponsored_account_is_provided_providersTrace :
    2 ≤ mock.system.providers (run (sharedStep mock) ⟨emptyStorage mock mockLedger, fun _ => 0⟩
      providersTrace).storage.runtime 2 := by
  have hrecord : (run (sharedStep mock) ⟨emptyStorage mock mockLedger, fun _ => 0⟩
      providersTrace).storage.sponsorships.get 2 = some ⟨1, 30, .disabled, .none, 0⟩ := by
    decide +kernel
  exact (sponsored_account_is_provided mock (Ledger.system_counts 10) (Ledger.system_keepsFunds 10)
    (Ledger.holds_ownReferences 10) mockLedger (fun _ => 0) (fun _ => Nat.zero_add _)
    providersTrace providersTrace_keepsCount 2 _ hrecord).2 (by decide +kernel)

end NuloChain.Sponsorship
