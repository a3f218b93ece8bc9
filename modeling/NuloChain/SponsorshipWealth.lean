import NuloChain.SponsorshipMoves
import NuloChain.FrameAccount
import NuloChain.SponsorshipRefunds
import NuloChain.SponsorshipUndo

/-! What an account owns, wherever it is: its free balance, the storage deposits it has put up,
and the amounts it sponsors others with. The pallet moves funds between the three and never
from one account to another; what an account owns changes from outside only. -/
namespace NuloChain.Sponsorship
open Frame
set_option linter.unusedSectionVars false
variable {A O R Λ : Type} [DecidableEq A] [DecidableEq R] (T : Config A O R Λ)

/-- What `a` owns: free, as deposits, and as the amounts of its sponsorships. -/
def wealth (s : T.State) (a : A) : ℕ :=
  T.currency.balance s.runtime a+
    T.currency.balanceOnHold s.runtime (storageDepositHoldReason T) a+amountOf s.sponsorships a

/-- The free balance of `a` is not in the reach of the dust rule. -/
def Clear (L : Λ) (a : A) : Prop :=
  T.currency.balance L a = 0 ∨ T.currency.minimumBalance ≤ T.currency.balance L a

/-- The state in which the accounts of `a` are exact. -/
structure Orderly (a : A) (s : T.State) : Prop where
  clear : Clear T s.runtime a
  issued : wealth T s a ≤ T.balanceMax
  suffice : AmountsSuffice T s

/-- The least that the pallet leaves to an account that sponsors others. -/
def reserve : ℕ := max T.sponsorMinRemaining T.currency.minimumBalance

/-- Between `s` and `t` nothing that `a` owns is gone, and it has no less than the reserve to
spend if it had as much before. -/
structure Keeps (a : A) (s t : T.State) : Prop where
  wealth : wealth T t a = wealth T s a
  free : min (T.currency.balance s.runtime a) (reserve T) ≤ T.currency.balance t.runtime a

theorem keeps_trans (a : A) (s t u : T.State) (hst : Keeps T a s t) (htu : Keeps T a t u) :
    Keeps T a s u := by
  obtain ⟨hwealth, hfree⟩ := hst
  obtain ⟨hwealth', hfree'⟩ := htu
  refine ⟨hwealth'.trans hwealth, ?_⟩
  omega

theorem keeps_of_sameFunds (a : A) (s t : T.State) (h : SameFunds T s t) : Keeps T a s t := by
  constructor
  · unfold wealth
    rw [h.runtime, h.sponsorships]
  · rw [h.runtime]
    exact Nat.min_le_left _ _

/-- A creation has checked that enough is left to the sponsor after both holds. -/
theorem doSponsor_remaining (sponsor b : A) (amount : ℕ) (autoUnlock : AutoUnlockMode)
    (lease : Lease) (emitEvent : Bool) (s t : T.State) (u : Unit)
    (h : doSponsor T sponsor b amount autoUnlock lease emitEvent s = (.ok u, t)) :
    T.sponsorMinRemaining ≤ T.currency.balance s.runtime sponsor-
      T.balanceSaturatingAdd amount T.sponsorshipStorageDeposit := by
  rw [doSponsor, Dispatch.transactional_ok_iff] at h
  simp only [doSponsorBody, checkSponsor, Dispatch.bind_ok_iff, Dispatch.read_ok_iff,
    Dispatch.ensure_ok_iff, Dispatch.pure_ok_iff] at h
  obtain ⟨_, _, ⟨_, _, ⟨rfl, rfl⟩, _, _, ⟨-, rfl⟩, _, _, ⟨-, rfl⟩, _, _, hlease, _, _, hcaps,
    _, _, ⟨-, rfl⟩, _, _, ⟨hremaining, rfl⟩, -⟩, -⟩ := h
  obtain ⟨-, rfl⟩ := validateLease_ok T _ _ _ _ _ hlease
  obtain ⟨-, rfl⟩ := ensureCaps_ok T _ _ _ _ _ hcaps
  exact hremaining

section
variable {frozen totalOnHold : Λ → A → ℕ} (laws : UndoLaws T frozen totalOnHold)
include laws

theorem sponsored_keeps (a sponsor b : A) (amount : ℕ) (autoUnlock : AutoUnlockMode)
    (lease : Lease) (emitEvent : Bool) (s t : T.State) (u : Unit) (hs : Orderly T a s)
    (h : doSponsor T sponsor b amount autoUnlock lease emitEvent s = (.ok u, t)) :
    Keeps T a s t ∧ Clear T t.runtime a := by
  have hsponsored := doSponsor_ok T _ _ _ _ _ _ _ _ _ h
  have hdeposit := (funded_holds T laws.exactHolds laws.keepsFunds s sponsor b amount _
    hsponsored.funded a).2
  have hamount : amountOf t.sponsorships a =
      amountOf s.sponsorships a+if sponsor = a then amount else 0 := by
    unfold amountOf
    rw [hsponsored.sponsorships, StorageMap.sum_insert_new _ _ _ _ hsponsored.fresh]
  by_cases ha : a = sponsor
  · subst ha
    rw [if_pos rfl] at hdeposit hamount
    have hissued : T.currency.balance s.runtime a ≤ T.balanceMax := by
      have hwealth := hs.issued
      unfold wealth at hwealth
      omega
    obtain ⟨hthere, hminimum⟩ := doSponsor_balances T laws a b amount autoUnlock lease emitEvent s t
      u h hissued
    have hbalance := hthere a
    rw [if_pos rfl] at hbalance
    have hremaining := doSponsor_remaining T a b amount autoUnlock lease emitEvent s t u h
    -- both holds came out of the free balance, so their sum has not saturated
    have hsum : T.balanceSaturatingAdd amount T.sponsorshipStorageDeposit =
        amount+T.sponsorshipStorageDeposit := by
      unfold Config.balanceSaturatingAdd
      omega
    rw [hsum] at hremaining
    refine ⟨⟨?_, ?_⟩, Or.inr hminimum⟩
    · unfold wealth
      omega
    · unfold reserve
      omega
  · have hbalance := funded_balance T laws.exactBalances laws.keepsFunds laws.reducibleAbove s sponsor
      b amount _ hsponsored.funded a (Or.inl ha)
    rw [if_neg ha] at hbalance hdeposit
    rw [if_neg (Ne.symm ha)] at hamount
    have hsame : T.currency.balance t.runtime a = T.currency.balance s.runtime a := by omega
    refine ⟨⟨?_, ?_⟩, ?_⟩
    · unfold wealth
      omega
    · rw [hsame]
      exact Nat.min_le_left _ _
    · unfold Clear
      rw [hsame]
      exact hs.clear

/-- A refund reaches the sponsor in full; dust can only be lost by the beneficiary. -/
theorem refunded_shares (a b : A) (record : SponsorshipRecord A) (L : Λ) (s : T.State)
    (hclear : Clear T s.runtime a) (hminimum : T.currency.minimumBalance ≤ record.amount)
    (h : Refunded T s b record L) :
    T.currency.balance L a = T.currency.balance s.runtime a+
      if a = record.sponsor then record.amount+s.storageDepositHeld.getD b 0 else 0 := by
  obtain ⟨L₁, L₂, hL₁, hdep, hL⟩ := h
  have hreach : ∀ n, T.currency.StaysClear totalOnHold s.runtime a n := by
    intro n
    rcases hclear with hzero | hmin
    · exact Or.inl hzero
    · exact Or.inr (Or.inl hmin)
  have hfirst := laws.exactBalances.transferOnHold _ _ _ _ _ _ hL₁ a (Or.inr (hreach _))
  have hsecond : T.currency.balance L₂ a = T.currency.balance L₁ a+
      if a = record.sponsor then s.storageDepositHeld.getD b 0 else 0 := by
    rcases hdep with ⟨-, hrelease⟩ | ⟨hz, rfl⟩
    · apply laws.exactBalances.release _ _ _ _ _ hrelease a
      by_cases ha : a = record.sponsor
      -- by now the sponsor has at least the amount
      · rw [if_pos ha] at hfirst
        exact Or.inr (Or.inr (Or.inl (by omega)))
      · exact Or.inl ha
    · rw [hz, ite_self, add_zero]
  have hdec : T.currency.balance L a = T.currency.balance L₂ a := by
    rw [hL]
    rcases hp : T.system.decProviders b L₂ with _ | L₃
    · rfl
    · exact laws.keepsFunds.dec_balance _ _ _ hp a
  rw [hdec, hsecond, hfirst]
  split
  · omega
  · omega

theorem revoked_keeps (a b : A) (record : SponsorshipRecord A) (L : Λ) (event : Event A)
    (s : T.State) (hs : Orderly T a s) (found : s.sponsorships.get b = some record)
    (refunded : Refunded T s b record L) :
    let t := logged T event (revokedStorage T b record L s)
    Keeps T a s t ∧ Clear T t.runtime a := by
  intro t
  have hminimum : T.currency.minimumBalance ≤ record.amount :=
    (Nat.le_max_right _ _).trans (hs.suffice b record found)
  have hbalance := refunded_shares T laws a b record L s hs.clear hminimum refunded
  have hdeposit := (refunded_holds T laws.exactHolds laws.keepsFunds s b record L refunded a).2
  have hamount := StorageMap.sum_remove s.sponsorships b record
    (fun _ r => if r.sponsor = a then r.amount else 0) found
  have hruntime : t.runtime = L := rfl
  have hrecords : t.sponsorships = s.sponsorships.remove b := rfl
  refine ⟨⟨?_, ?_⟩, ?_⟩
  · unfold wealth amountOf
    rw [hruntime, hrecords]
    by_cases ha : a = record.sponsor
    · rw [if_pos ha] at hbalance hdeposit
      rw [if_pos ha.symm] at hamount
      omega
    · rw [if_neg ha] at hbalance hdeposit
      rw [if_neg (Ne.symm ha)] at hamount
      omega
  · rw [hruntime, hbalance]
    omega
  · unfold Clear
    rw [hruntime, hbalance]
    by_cases ha : a = record.sponsor
    · rw [if_pos ha]
      exact Or.inr (by omega)
    · rw [if_neg ha]
      exact hs.clear

/-- A move of the pallet keeps what `a` owns, and its accounts stay in order. -/
theorem move_keeps (a : A) (emitEvent : Bool) (s t : T.State) (hs : Orderly T a s)
    (h : Move T emitEvent s t) : Keeps T a s t ∧ Clear T t.runtime a := by
  cases h with
  | bookkeeping funds events =>
    refine ⟨keeps_of_sameFunds T a s t funds, ?_⟩
    rw [funds.runtime]
    exact hs.clear
  | sponsored sponsor b amount autoUnlock lease u h =>
    exact sponsored_keeps T laws a sponsor b amount autoUnlock lease emitEvent s t u hs h
  | revoked b record L event found refunded closes result =>
    subst result
    exact revoked_keeps T laws a b record L event s hs found refunded
  | policy origin b autoUnlock lease u h =>
    obtain ⟨caller, record, -, hset⟩ := setPolicy_ok T origin b autoUnlock lease s t u h
    have hamount := policySet_amountOf T _ _ _ _ _ s t hset a
    refine ⟨⟨?_, ?_⟩, ?_⟩
    · unfold wealth
      rw [hset.runtime, hamount]
    · rw [hset.runtime]
      exact Nat.min_le_left _ _
    · rw [hset.runtime]
      exact hs.clear

end

theorem move_amountsSuffice (emitEvent : Bool) (s t : T.State) (hs : AmountsSuffice T s)
    (h : Move T emitEvent s t) : AmountsSuffice T t := by
  intro c r hc
  cases h with
  | bookkeeping funds events =>
    rw [funds.sponsorships] at hc
    exact hs c r hc
  | sponsored sponsor b amount autoUnlock lease u h =>
    have hsponsored := doSponsor_ok T _ _ _ _ _ _ _ _ _ h
    rw [hsponsored.sponsorships, StorageMap.get_insert] at hc
    split at hc
    · cases hc
      exact hsponsored.minimum
    · exact hs c r hc
  | revoked b record L event found refunded closes result =>
    subst result
    change (s.sponsorships.remove b).get c = some r at hc
    rw [StorageMap.get_remove] at hc
    split at hc
    · cases hc
    · exact hs c r hc
  | policy origin b autoUnlock lease u h =>
    obtain ⟨caller, record, -, hset⟩ := setPolicy_ok T origin b autoUnlock lease s t u h
    rw [hset.sponsorships, StorageMap.get_insert] at hc
    split at hc
    · cases hc
      exact hs b record hset.found
    · exact hs c r hc

section
variable {frozen totalOnHold : Λ → A → ℕ} (laws : UndoLaws T frozen totalOnHold)
include laws

theorem moves_keep (a : A) (emitEvent : Bool) (s t : T.State) (hs : Orderly T a s)
    (h : Moves T emitEvent s t) : Keeps T a s t ∧ Orderly T a t := by
  induction h with
  | refl => exact ⟨keeps_of_sameFunds T a s s ⟨rfl, rfl, rfl, rfl⟩, hs⟩
  | tail _ hmove ih =>
    obtain ⟨hkeeps, horderly⟩ := ih
    obtain ⟨hnext, hclear⟩ := move_keeps T laws a emitEvent _ _ horderly hmove
    refine ⟨keeps_trans T a _ _ _ hkeeps hnext, hclear, ?_, ?_⟩
    · rw [hnext.wealth]
      exact horderly.issued
    · exact move_amountsSuffice T emitEvent _ _ horderly.suffice hmove

theorem step_keeps (a : A) (s : T.State) (op : Op A O Λ) (hs : Orderly T a s)
    (hop : ∀ f, op ≠ .environment f) : Keeps T a s (step T s op) ∧ Orderly T a (step T s op) := by
  obtain ⟨emitEvent, hmoves, -⟩ := step_moves T s op hop
  exact moves_keep T laws a emitEvent s _ hs hmoves

end

/-- What the rest of the runtime has to respect: the pallet's holds, and for `a` that its free
balance is no dust and that all it owns fits the balance type. -/
def LeavesOrder (a : A) (s : T.State) (op : Op A O Λ) : Prop :=
  ∀ f, op = .environment f → LeavesHolds T s f ∧ Clear T (f s.runtime) a ∧
    wealth T { s with runtime := f s.runtime } a ≤ T.balanceMax

/-- What an operation brings to `a` from outside, or takes from it. -/
def gain (a : A) (s : T.State) : Op A O Λ → ℤ
  | .environment f => (T.currency.balance (f s.runtime) a : ℤ)-T.currency.balance s.runtime a
  | _ => 0

theorem emptyStorage_orderly (a : A) (L : Λ) (hclear : Clear T L a)
    (hissued : wealth T (emptyStorage T L) a ≤ T.balanceMax) : Orderly T a (emptyStorage T L) :=
  ⟨hclear, hissued, emptyStorage_amountsSuffice T L⟩

section
variable {frozen totalOnHold : Λ → A → ℕ} (laws : UndoLaws T frozen totalOnHold)
include laws

/-- A step of the pallet leaves what `a` owns as it is; one of the environment adds its gain. -/
theorem step_wealth (a : A) (s : T.State) (op : Op A O Λ) (hs : Orderly T a s)
    (hop : LeavesOrder T a s op) :
    (wealth T (step T s op) a : ℤ) = wealth T s a+gain T a s op ∧ Orderly T a (step T s op) := by
  by_cases henv : ∃ f, op = .environment f
  · obtain ⟨f, rfl⟩ := henv
    obtain ⟨hholds, hclear, hissued⟩ := hop f rfl
    refine ⟨?_, hclear, hissued, hs.suffice⟩
    have hdeposit : T.currency.balanceOnHold (f s.runtime) (storageDepositHoldReason T) a =
        T.currency.balanceOnHold s.runtime (storageDepositHoldReason T) a := hholds .storageDeposit a
    have hafter : wealth T (step T s (.environment f : Op A O Λ)) a =
        T.currency.balance (f s.runtime) a+
          T.currency.balanceOnHold (f s.runtime) (storageDepositHoldReason T) a+
            amountOf s.sponsorships a := rfl
    have hgain : gain T a s (.environment f : Op A O Λ) =
        (T.currency.balance (f s.runtime) a : ℤ)-T.currency.balance s.runtime a := rfl
    rw [hafter, hdeposit, hgain]
    unfold wealth
    omega
  · have hpallet : ∀ f, op ≠ .environment f := fun f hf => henv ⟨f, hf⟩
    obtain ⟨hkeeps, horderly⟩ := step_keeps T laws a s op hs hpallet
    have hnone : gain T a s op = 0 := by
      cases op with
      | environment f => exact absurd rfl (hpallet f)
      | entry e => rfl
      | genesisBuild initial => rfl
      | onInitialize now => rfl
    rw [hkeeps.wealth, hnone, add_zero]
    exact ⟨rfl, horderly⟩

theorem run_orderly (a : A) (ops : List (Op A O Λ)) (s : T.State) (hs : Orderly T a s)
    (hops : Along (step T) (LeavesOrder T a) s ops) : Orderly T a (run (step T) s ops) :=
  run_invariant (step T) (LeavesOrder T a) (Orderly T a)
    (fun s op hs hop => (step_wealth T laws a s op hs hop).2) ops s hs hops

/-- The pallet moves no wealth: in every run, whoever sponsors whom and however sponsorships
end, what an account owns (free, as storage deposits, as amounts it sponsors) is what it owned
at the start and what the rest of the runtime has given to it or taken from it since. -/
theorem wealth_changes_only_outside (a : A) (L : Λ) (hclear : Clear T L a)
    (hissued : wealth T (emptyStorage T L) a ≤ T.balanceMax) (ops : List (Op A O Λ))
    (hops : Along (step T) (LeavesOrder T a) (emptyStorage T L) ops) :
    (wealth T (run (step T) (emptyStorage T L) ops) a : ℤ) =
      wealth T (emptyStorage T L) a+booked (step T) (gain T a) (emptyStorage T L) ops :=
  run_booked_eq (step T) (LeavesOrder T a) (Orderly T a) (fun s => (wealth T s a : ℤ)) (gain T a)
    (fun s op hs hop => (step_wealth T laws a s op hs hop).2)
    (fun s op hs hop => (step_wealth T laws a s op hs hop).1) ops _
    (emptyStorage_orderly T a L hclear hissued) hops

/-- The pallet drains nobody: from any state of a run, as long as the rest of the runtime keeps
still, the free balance of an account stays at what it was or at the larger of
`SponsorMinRemaining` and the existential deposit, whichever is less. -/
theorem pallet_leaves_reserve (a : A) (L : Λ) (hclear : Clear T L a)
    (hissued : wealth T (emptyStorage T L) a ≤ T.balanceMax) (pre ops : List (Op A O Λ))
    (hpre : Along (step T) (LeavesOrder T a) (emptyStorage T L) pre)
    (hops : ∀ f, .environment f ∉ ops) :
    let s := run (step T) (emptyStorage T L) pre
    let t := run (step T) s ops
    min (T.currency.balance s.runtime a) (max T.sponsorMinRemaining T.currency.minimumBalance) ≤
      T.currency.balance t.runtime a := by
  intro s t
  have hs : Orderly T a s :=
    run_orderly T laws a pre _ (emptyStorage_orderly T a L hclear hissued) hpre
  have hrun : ∀ (ops : List (Op A O Λ)) (u : T.State), Orderly T a u →
      (∀ f, .environment f ∉ ops) → Keeps T a u (run (step T) u ops) := by
    intro ops
    induction ops with
    | nil => exact fun u _ _ => keeps_of_sameFunds T a u u ⟨rfl, rfl, rfl, rfl⟩
    | cons op ops ih =>
      intro u hu hno
      obtain ⟨hkeeps, horderly⟩ := step_keeps T laws a u op hu
        (fun f hf => hno f (hf ▸ List.mem_cons_self))
      have hrest := ih (step T u op) horderly (fun f hf => hno f (List.mem_cons_of_mem op hf))
      exact keeps_trans T a _ _ _ hkeeps hrest
  exact (hrun ops s hs hops).free

end

/-- Two sponsorships by account 1; account 2 is paid twenty, and the hook ends both. -/
def wealthTrace : List (Op ℕ (RawOrigin ℕ) (Ledger ℕ HoldReason)) :=
  [.onInitialize 1,
    .entry (.call (.signed 1) (.sponsor 2 20 (.enabled .freeGeSponsored) .none)),
    .entry (.call (.signed 1) (.sponsor 3 30 .disabled (.until 2))),
    .environment (fun L => Ledger.setFree L 2 20),
    .onInitialize 2]

theorem wealthTrace_leavesOrder (a : ℕ) (ha : a = 1 ∨ a = 2) :
    Along (step mock) (LeavesOrder mock a) (emptyStorage mock mockLedger) wealthTrace := by
  have hpayment : ∀ s : mock.State, LeavesHolds mock s (fun L => Ledger.setFree L 2 20) :=
    fun s reason b => congrFun (Ledger.setFree_held s.runtime 2 b 20) reason
  refine ⟨?_, ?_, ?_, ?_, ?_, trivial⟩
  all_goals
    intro f hf
    cases hf
  refine ⟨hpayment _, ?_, ?_⟩
  · unfold Clear
    rcases ha with rfl | rfl <;> decide +kernel
  · rcases ha with rfl | rfl <;> decide +kernel

theorem wealth_changes_only_outside_wealthTrace :
    (wealth mock (run (step mock) (emptyStorage mock mockLedger) wealthTrace) 2 : ℤ) = 0+20 := by
  have hstart : wealth mock (emptyStorage mock mockLedger) 2 = 0 := by decide +kernel
  have hgains : booked (step mock) (gain mock 2) (emptyStorage mock mockLedger) wealthTrace = 20 := by
    decide +kernel
  have h := wealth_changes_only_outside mock (ledger_undoLaws mock rfl rfl) 2 mockLedger
    (Or.inl (by decide +kernel)) (by decide +kernel) wealthTrace
    (wealthTrace_leavesOrder 2 (Or.inr rfl))
  rw [hstart, hgains] at h
  exact h

theorem pallet_leaves_reserve_wealthTrace :
    let s := emptyStorage mock mockLedger
    let t := run (step mock) s (wealthTrace.take 3)
    mock.currency.balance t.runtime 1 = 440 ∧
      min (mock.currency.balance s.runtime 1) (max 25 10) ≤ mock.currency.balance t.runtime 1 := by
  refine ⟨by decide +kernel, ?_⟩
  exact pallet_leaves_reserve mock (ledger_undoLaws mock rfl rfl) 1 mockLedger
    (Or.inr (by decide +kernel)) (by decide +kernel) [] (wealthTrace.take 3) trivial
    (by simp [wealthTrace])

end NuloChain.Sponsorship
