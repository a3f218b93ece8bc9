import NuloChain.SponsorshipBatch
import NuloChain.SponsorshipProviders
import NuloChain.SponsorshipRefunds

/-! An auto-unlock takes the support away from an account that can stand on its own. Both
conditions compare with the sponsored amount, and no amount below the existential deposit is
ever sponsored: so the free balance alone gives the account a provider reference, and the one
of the pallet is a spare. -/
namespace NuloChain.Sponsorship
open Frame
set_option linter.unusedSectionVars false
variable {A O R Λ : Type} [DecidableEq A] [DecidableEq R] (T : Config A O R Λ)

/-- What the pallet relies on in the runtime when it lets an account go. -/
structure SurvivalLaws (frozen totalOnHold : Λ → A → ℕ) : Prop where
  counts : T.system.Counts
  keepsFunds : T.system.KeepsFunds T.currency
  releasesSpare : T.system.ReleasesSpare
  ownReferences : T.currency.OwnReferences T.system
  exactReturns : T.currency.ExactReturns totalOnHold
  reducibleAbove : T.currency.ReducibleAbove frozen totalOnHold

/-- The answer that a revocation of the sponsorship `record` gets from `frame_system` after its two
refunds, and does not look at: whether the reference on `beneficiary` was let go. -/
def letsGo (s : T.State) (beneficiary : A) (record : SponsorshipRecord A) : Bool :=
  match T.currency.transferOnHold (sponsorshipHoldReason T) beneficiary record.sponsor
      record.amount .exact .free .polite s.runtime with
  | none => true
  | some L₁ =>
    if s.storageDepositHeld.getD beneficiary 0 = 0 then
      (T.system.decProviders beneficiary L₁).isSome
    else
      match T.currency.release (storageDepositHoldReason T) record.sponsor
          (s.storageDepositHeld.getD beneficiary 0) .exact L₁ with
      | none => true
      | some L₂ => (T.system.decProviders beneficiary L₂).isSome

/-- After the two refunds it is the last call that decides. -/
theorem letsGo_eq (s : T.State) (beneficiary : A) (record : SponsorshipRecord A) (L₁ L₂ : Λ)
    (hL₁ : T.currency.transferOnHold (sponsorshipHoldReason T) beneficiary record.sponsor
      record.amount .exact .free .polite s.runtime = some L₁)
    (hdep : (s.storageDepositHeld.getD beneficiary 0 ≠ 0 ∧
        T.currency.release (storageDepositHoldReason T) record.sponsor
          (s.storageDepositHeld.getD beneficiary 0) .exact L₁ = some L₂) ∨
      (s.storageDepositHeld.getD beneficiary 0 = 0 ∧ L₂ = L₁)) :
    letsGo T s beneficiary record = (T.system.decProviders beneficiary L₂).isSome := by
  unfold letsGo
  rw [hL₁]
  rcases hdep with ⟨hne, hL₂⟩ | ⟨hz, rfl⟩
  · simp only [if_neg hne, hL₂]
  · simp only [if_pos hz]

/-- The reference of every sponsorship that ends between `s` and `t` is let go. -/
def EndsCleanly (s t : T.State) : Prop :=
  ∀ b record, s.sponsorships.get b = some record → t.sponsorships.get b = none →
    letsGo T s b record = true

/-- No free balance is lower in `t`, and every account whose sponsorship ended on the way has
at least the existential deposit. -/
structure Spares (s t : T.State) : Prop where
  balances : ∀ a, T.currency.balance s.runtime a ≤ T.currency.balance t.runtime a
  ended : ∀ b record, s.sponsorships.get b = some record → t.sponsorships.get b = none →
    T.currency.minimumBalance ≤ T.currency.balance t.runtime b

theorem spares_of_sameFunds (s t : T.State) (h : SameFunds T s t) : Spares T s t := by
  constructor
  · intro a
    rw [h.runtime]
  · intro b record hb hgone
    rw [h.sponsorships, hb] at hgone
    cases hgone

theorem spares_refl (s : T.State) : Spares T s s := spares_of_sameFunds T s s ⟨rfl, rfl, rfl, rfl⟩

theorem endsCleanly_refl (s : T.State) : EndsCleanly T s s := by
  intro b record hb hgone
  rw [hb] at hgone
  cases hgone

theorem Spares.trans {s t u : T.State} (hst : Spares T s t) (htu : Spares T t u) :
    Spares T s u := by
  refine ⟨fun a => (hst.balances a).trans (htu.balances a), ?_⟩
  intro b record hb hgone
  rcases ht : t.sponsorships.get b with _ | record'
  · exact (hst.ended b record hb ht).trans (htu.balances b)
  · exact htu.ended b record' ht hgone

/-- Either condition says that the free balance covers the sponsored amount. -/
theorem autoUnlockConditionMet_free {frozen totalOnHold : Λ → A → ℕ}
    (laws : SurvivalLaws T frozen totalOnHold) (s : T.State) (b : A) (amount : ℕ)
    (c : AutoUnlockCondition) (h : autoUnlockConditionMet T b amount c s = true) :
    amount ≤ T.currency.balance s.runtime b := by
  cases c with
  | spendableGeSponsored =>
    have hspendable := of_decide_eq_true h
    rw [laws.reducibleAbove] at hspendable
    omega
  | freeGeSponsored => exact of_decide_eq_true h

/-- A refund after a met condition spares the account, and its reference is let go. -/
theorem refund_spares {frozen totalOnHold : Λ → A → ℕ} (laws : SurvivalLaws T frozen totalOnHold)
    (others : A → ℕ) (s : T.State) (hkept : Kept T others s) (hsuffice : AmountsSuffice T s) (b : A)
    (record : SponsorshipRecord A) (L : Λ) (hb : s.sponsorships.get b = some record)
    (hfree : record.amount ≤ T.currency.balance s.runtime b) (h : Refunded T s b record L) :
    (∀ a, T.currency.balance s.runtime a ≤ T.currency.balance L a) ∧ letsGo T s b record = true := by
  obtain ⟨L₁, L₂, hL₁, hdep, rfl⟩ := h
  have hminimum : T.currency.minimumBalance ≤ record.amount :=
    (Nat.le_max_right _ _).trans (hsuffice b record hb)
  have hbalances : ∀ a, T.currency.balance s.runtime a ≤ T.currency.balance L₂ a := by
    intro a
    have hclear : T.currency.StaysClear totalOnHold s.runtime b record.amount :=
      Or.inr (Or.inl (hminimum.trans hfree))
    have hpaid := refund_balances T laws.exactReturns s b record L₁ L₂ hclear (by omega) hL₁ hdep a
    omega
  have halive : T.currency.minimumBalance ≤ T.currency.balance L₂ b := by
    have hgrown := hbalances b
    omega
  -- one reference is the pallet's, and another one the currency's own
  obtain ⟨own, hcount, hown⟩ := hkept b
  rw [hb, one, if_pos Option.isSome_some] at hown
  have h₁ := ownReference_split T _ _
    (laws.ownReferences.transferOnHold _ _ _ _ _ _ _ _ _ hL₁) b own _ hcount
  have h₂ : T.system.providers L₂ b = own+ownShare T L₂ b+others b := by
    rcases hdep with ⟨-, hrelease⟩ | ⟨-, rfl⟩
    · exact ownReference_split T _ _ (laws.ownReferences.release _ _ _ _ _ _ hrelease) b own _ h₁
    · exact h₁
  have hshare : ownShare T L₂ b = 1 := if_pos halive
  have hgo := laws.releasesSpare b L₂ (by omega)
  rw [letsGo_eq T s b record L₁ L₂ hL₁ hdep]
  refine ⟨?_, hgo⟩
  intro a
  obtain ⟨L₃, hL₃⟩ := Option.isSome_iff_exists.mp hgo
  rw [hL₃, Option.getD_some, laws.keepsFunds.dec_balance b L₂ L₃ hL₃ a]
  exact hbalances a

/-- An auto-unlock attempt spares everybody. -/
theorem tryAutoUnlockInternal_spares {frozen totalOnHold : Λ → A → ℕ}
    (laws : SurvivalLaws T frozen totalOnHold) (others : A → ℕ) (s : T.State)
    (hkept : Kept T others s) (hsuffice : AmountsSuffice T s) (b : A) :
    Spares T s (tryAutoUnlockInternal T b true s).2 ∧
      EndsCleanly T s (tryAutoUnlockInternal T b true s).2 := by
  rcases tryAutoUnlockInternal_cases T b s with
    hs | ⟨record, c, L, event, hb, -, hmet, hL, hs⟩
  · rw [hs]
    exact ⟨spares_refl T s, endsCleanly_refl T s⟩
  · have hfree := autoUnlockConditionMet_free T laws s b record.amount c hmet
    have hminimum : T.currency.minimumBalance ≤ record.amount :=
      (Nat.le_max_right _ _).trans (hsuffice b record hb)
    obtain ⟨hbalances, hgo⟩ := refund_spares T laws others s hkept hsuffice b record L hb hfree hL
    -- only the sponsorship of `b` ends
    have honly : ∀ a r, s.sponsorships.get a = some r →
        (s.sponsorships.remove b).get a = none → a = b := by
      intro a r ha hgone
      by_contra hne
      rw [StorageMap.get_remove_ne _ _ _ hne, ha] at hgone
      cases hgone
    rw [hs]
    refine ⟨⟨hbalances, ?_⟩, ?_⟩
    · intro a r ha hgone
      obtain rfl := honly a r ha hgone
      exact hminimum.trans (hfree.trans (hbalances a))
    · intro a r ha hgone
      obtain rfl := honly a r ha hgone
      obtain rfl := Option.some.inj (hb.symm.trans ha)
      exact hgo

/-- One turn of the auto-unlock loop. -/
theorem autoUnlockIteration_spares {frozen totalOnHold : Λ → A → ℕ}
    (laws : SurvivalLaws T frozen totalOnHold) (others : A → ℕ)
    (p : AutoUnlockPass A Λ T.maxQueueProcessingPerBlock) (entry : A × ℕ)
    (hkept : Kept T others p.storage) (hsuffice : AmountsSuffice T p.storage) :
    Spares T p.storage (autoUnlockIteration T p entry).storage ∧
      EndsCleanly T p.storage (autoUnlockIteration T p entry).storage := by
  obtain ⟨b, index⟩ := entry
  by_cases hindex : index < T.maxQueueProcessingPerBlock
  · rw [autoUnlockIteration_eq T p b index hindex]
    exact tryAutoUnlockInternal_spares T laws others p.storage hkept hsuffice b
  · rw [autoUnlockIteration, if_pos (Nat.not_lt.mp hindex)]
    exact ⟨spares_refl T p.storage, endsCleanly_refl T p.storage⟩

/-- The pass over the queue of `u`, turn by turn and as a whole. -/
theorem autoUnlockLoop_spares {frozen totalOnHold : Λ → A → ℕ}
    (laws : SurvivalLaws T frozen totalOnHold) (others : A → ℕ) (u : T.State)
    (hkept : Kept T others u) (hsuffice : AmountsSuffice T u) :
    Along (autoUnlockIteration T)
        (fun p entry => EndsCleanly T p.storage (autoUnlockIteration T p entry).storage)
        ⟨[], [], 0, { u with autoUnlockQueue := BoundedVec.empty }⟩
        u.autoUnlockQueue.toList.zipIdx ∧
      Spares T u (autoUnlockLoop T u).storage ∧ Kept T others (autoUnlockLoop T u).storage := by
  obtain ⟨halong, hkept', -, hspares⟩ := along_of_invariant (autoUnlockIteration T)
    (fun p entry => EndsCleanly T p.storage (autoUnlockIteration T p entry).storage)
    (fun p => Kept T others p.storage ∧ AmountsSuffice T p.storage ∧ Spares T u p.storage)
    (by
      rintro p entry ⟨hk, hm, hs⟩
      obtain ⟨hturn, hclean⟩ := autoUnlockIteration_spares T laws others p entry hk hm
      have hout : Outcome T (.autoUnlock entry.1 entry.2 : Action A O) p.storage
          (autoUnlockIteration T p entry).storage := by
        rw [autoUnlockIteration_storage (O := O)]
        exact action_outcome T _ p.storage
      exact ⟨hclean, outcome_kept T laws.counts laws.keepsFunds laws.ownReferences others _ _ _ hk
        hout, outcome_amountsSuffice T _ _ _ hm hout, hs.trans T hturn⟩)
    u.autoUnlockQueue.toList.zipIdx ⟨[], [], 0, { u with autoUnlockQueue := BoundedVec.empty }⟩
    ⟨hkept, hsuffice, spares_of_sameFunds T u _ ⟨rfl, rfl, rfl, rfl⟩⟩
  exact ⟨halong, hspares, hkept'⟩

/-- The entries that try to auto-unlock. -/
def Entry.AutoUnlocks : Entry A O → Prop
  | .call _ (.refresh _) => True
  | .tryAutoUnlock _ => True
  | _ => False

/-- Such an entry does nothing, or what one attempt does. -/
theorem entryStep_autoUnlocks (s : T.State) (e : Entry A O) (he : e.AutoUnlocks) :
    ∃ b, entryStep T s e = s ∨ entryStep T s e = (tryAutoUnlockInternal T b true s).2 := by
  cases e with
  | call origin call =>
    cases call with
    | refresh b =>
      refine ⟨b, ?_⟩
      rcases hsigned : T.ensureSigned origin with _ | caller
      · left
        change (Dispatch.transactional (refresh T origin b) s).2 = s
        simp [Dispatch.transactional, refresh, ensureSigned, Dispatch.okOr, Dispatch.fail, bind,
          hsigned]
      · exact Or.inr (refresh_storage T origin caller b s hsigned)
    | sponsor => exact he.elim
    | sponsorMinimum => exact he.elim
    | unlock => exact he.elim
    | setPolicy => exact he.elim
    | forceUnlock => exact he.elim
  | tryAutoUnlock b => exact ⟨b, Or.inr (tryAutoUnlock_storage T b s)⟩
  | createSponsorship => exact he.elim
  | unlockSponsorship => exact he.elim

theorem sharedStep_amountsSuffice (w : Shared A Λ T.maxQueueProcessingPerBlock)
    (op : SharedOp A O Λ) (hw : AmountsSuffice T w.storage) :
    AmountsSuffice T (sharedStep T w op).storage := by
  cases op with
  | pallet op => exact step_amountsSuffice T w.storage op hw
  | foreign f others => exact hw

/-- What is left of the account of `b` in `t`. -/
structure Survives (s t : T.State) (b : A) : Prop where
  kept : T.currency.balance s.runtime b ≤ T.currency.balance t.runtime b
  minimum : T.currency.minimumBalance ≤ T.currency.balance t.runtime b
  provided : 1 ≤ T.system.providers t.runtime b

/-- An account at the minimum has the currency's own reference, whatever else there is. -/
theorem Spares.survives {s t : T.State} (h : Spares T s t) (others : A → ℕ) (ht : Kept T others t)
    (b : A) (record : SponsorshipRecord A) (hb : s.sponsorships.get b = some record)
    (hgone : t.sponsorships.get b = none) : Survives T s t b := by
  have hminimum := h.ended b record hb hgone
  obtain ⟨own, hcount, -⟩ := ht b
  have hshare : ownShare T t.runtime b = 1 := if_pos hminimum
  exact ⟨h.balances b, hminimum, by omega⟩

/-- In every state that a run reaches, shared with foreign uses of the provider counter, an
account that a call or the auto-unlock pass lets go has not less than before, at least the
existential deposit and a provider reference; and the pallet gets its own reference back. -/
theorem auto_unlock_spares_account {frozen totalOnHold : Λ → A → ℕ}
    (laws : SurvivalLaws T frozen totalOnHold) (L : Λ) (others : A → ℕ)
    (hL : ∀ a, T.system.providers L a = ownShare T L a+others a) (ops : List (SharedOp A O Λ))
    (hops : Along (sharedStep T) (KeepsCount T) ⟨emptyStorage T L, others⟩ ops) (now : ℕ) :
    let s := (run (sharedStep T) ⟨emptyStorage T L, others⟩ ops).storage
    let expired := (processExpirations T now { s with blockNumber := now }).1
    (∀ e : Entry A O, e.AutoUnlocks → ∀ b record, s.sponsorships.get b = some record →
      (entryStep T s e).sponsorships.get b = none →
        Survives T s (entryStep T s e) b ∧ letsGo T s b record = true) ∧
    ∀ u, u = s ∨ u = expired → ∀ t processed, processAutoUnlockQueue T u = some (t, processed) →
      (∀ b record, u.sponsorships.get b = some record → t.sponsorships.get b = none →
        Survives T u t b) ∧
      Along (autoUnlockIteration T)
        (fun p entry => EndsCleanly T p.storage (autoUnlockIteration T p entry).storage)
        ⟨[], [], 0, { u with autoUnlockQueue := BoundedVec.empty }⟩
        u.autoUnlockQueue.toList.zipIdx := by
  intro s expired
  let shares := (run (sharedStep T) ⟨emptyStorage T L, others⟩ ops).others
  have hkept : Kept T shares s := run_kept T laws.counts laws.keepsFunds laws.ownReferences L others
    hL ops hops
  have hsuffice : AmountsSuffice T s := run_invariant_always (sharedStep T)
    (fun w => AmountsSuffice T w.storage) (sharedStep_amountsSuffice T) ops
    ⟨emptyStorage T L, others⟩ (emptyStorage_amountsSuffice T L)
  -- the same two facts after the expiries of a block
  have hkept' : Kept T shares expired := expireLoop_preserves (O := O) T (Kept T shares) now
    (fun b u v hu hv => outcome_kept T laws.counts laws.keepsFunds laws.ownReferences _ _ u v hu hv)
    _ _ hkept
  have hsuffice' : AmountsSuffice T expired := expireLoop_preserves (O := O) T (AmountsSuffice T)
    now (fun b u v hu hv => outcome_amountsSuffice T _ u v hu hv) _ _ hsuffice
  refine ⟨?_, ?_⟩
  · intro e he b record hb hgone
    have hturn : Spares T s (entryStep T s e) ∧ EndsCleanly T s (entryStep T s e) := by
      obtain ⟨a, hidle | hattempt⟩ := entryStep_autoUnlocks T s e he
      · rw [hidle]
        exact ⟨spares_refl T s, endsCleanly_refl T s⟩
      · rw [hattempt]
        exact tryAutoUnlockInternal_spares T laws shares s hkept hsuffice a
    have hnext := outcome_kept T laws.counts laws.keepsFunds laws.ownReferences _ _ _ _ hkept
      (entry_outcome T e s)
    exact ⟨hturn.1.survives T _ hnext b record hb hgone, hturn.2 b record hb hgone⟩
  · intro u hu t processed hpass
    have hboth : Kept T shares u ∧ AmountsSuffice T u := by
      rcases hu with rfl | rfl
      · exact ⟨hkept, hsuffice⟩
      · exact ⟨hkept', hsuffice'⟩
    obtain ⟨halong, hspares, hend⟩ := autoUnlockLoop_spares (O := O) T laws _ u hboth.1 hboth.2
    obtain ⟨next, -, heq⟩ := processAutoUnlockQueue_eq T u
    rw [heq] at hpass
    cases hpass
    refine ⟨?_, halong⟩
    intro b record hb hgone
    obtain ⟨hle, hminimum, hprovided⟩ := hspares.survives T _ hend b record hb hgone
    exact ⟨hle, hminimum, hprovided⟩

theorem mock_survivalLaws :
    SurvivalLaws mock (fun L a => (L a).frozen) (fun L a => (L a).reserved) where
  counts := Ledger.system_counts 10
  keepsFunds := Ledger.system_keepsFunds 10
  releasesSpare := Ledger.system_releasesSpare 10
  ownReferences := Ledger.holds_ownReferences 10
  exactReturns := Ledger.holds_exactReturns 10
  reducibleAbove := Ledger.inspect_reducibleAbove 10

/-- A beneficiary that waits for a balance of its own is paid thirty. -/
def survivalTrace : List (SharedOp ℕ (RawOrigin ℕ) (Ledger ℕ HoldReason)) :=
  [.pallet (.entry (.call (.signed 1) (.sponsor 2 30 (.enabled .freeGeSponsored) .none))),
    .foreign (fun L => Ledger.setFree L 2 30) (fun _ => 0)]

theorem auto_unlock_spares_account_survivalTrace :
    let s := (run (sharedStep mock) ⟨emptyStorage mock mockLedger, fun _ => 0⟩
      survivalTrace).storage
    Survives mock s (entryStep mock s (.call (.signed 4) (.refresh 2))) 2 := by
  intro s
  have hops : Along (sharedStep mock) (KeepsCount mock)
      ⟨emptyStorage mock mockLedger, fun _ => 0⟩ survivalTrace := by
    refine ⟨(fun f h => by cases h), mock_keepsCount _ _ _ ?_, trivial⟩
    intro a
    simp [sharedStep]
  have hrecord : s.sponsorships.get 2 =
      some ⟨1, 30, .enabled .freeGeSponsored, .none, 0⟩ := by decide +kernel
  have hgone : (entryStep mock s (.call (.signed 4) (.refresh 2))).sponsorships.get 2 = none := by
    decide +kernel
  exact ((auto_unlock_spares_account mock mock_survivalLaws mockLedger (fun _ => 0)
    (fun _ => Nat.zero_add _) survivalTrace hops 1).1 (.call (.signed 4) (.refresh 2)) trivial 2 _
    hrecord hgone).1

end NuloChain.Sponsorship
