import NuloChain.SponsorshipBatch
import NuloChain.SponsorshipBooks
import NuloChain.SponsorshipIndex

/-! The auto-unlock of the hook does not keep anybody waiting. What other accounts get back
before its turn comes can only help an account that meets its condition, and the queue is as
long as what the hook handles in a block: so nobody who is due at the start of a block is still
sponsored when the hook is done. -/
namespace NuloChain.Sponsorship
open Frame
set_option linter.unusedSectionVars false
variable {A O R Λ : Type} [DecidableEq A] [DecidableEq R] (T : Config A O R Λ)

/-- What a revocation relies on in the runtime, and what the revocations before it keep. -/
structure PromptLaws (frozen totalOnHold : Λ → A → ℕ) : Prop
    extends BookLaws T frozen totalOnHold where
  returnable : T.currency.Returnable frozen totalOnHold T.balanceMax
  reducibleAbove : T.currency.ReducibleAbove frozen totalOnHold

/-- The account is sponsored, its auto-unlock condition is met, and no freeze stands in the way. -/
def Due (frozen totalOnHold : Λ → A → ℕ) (b : A) (s : T.State) : Prop :=
  ∃ record c, s.sponsorships.get b = some record ∧ record.autoUnlock = .enabled c ∧
    autoUnlockConditionMet T b record.amount c s = true ∧
    Thawed T frozen totalOnHold s.runtime b record.amount

/-- What every turn of the hook keeps about one account: it is due, or no longer sponsored. -/
structure Pending (frozen totalOnHold : Λ → A → ℕ) (b : A) (s : T.State) : Prop where
  holds : HoldsMatch T s
  amounts : AmountsSuffice T s
  books : InOrder T totalOnHold s.runtime
  due : s.sponsorships.get b = none ∨ Due T frozen totalOnHold b s

variable {frozen totalOnHold : Λ → A → ℕ}

/-- What comes off the holds of an account other than the one revoked arrives on its free
balance at least, and its freezes do not grow. -/
theorem refunded_raises (laws : PromptLaws T frozen totalOnHold) (s : T.State) (b a : A)
    (record : SponsorshipRecord A) (L : Λ) (hne : a ≠ b)
    (hminimum : T.currency.minimumBalance ≤ record.amount) (h : Refunded T s b record L) :
    ∃ n, T.currency.balance s.runtime a+n ≤ T.currency.balance L a ∧
      totalOnHold L a = totalOnHold s.runtime a-n ∧ frozen L a ≤ frozen s.runtime a := by
  obtain ⟨L₁, L₂, hL₁, hdep, rfl⟩ := h
  obtain ⟨hbalance, htotal, hfrozen, -⟩ := dec_keeps_books T laws.toBookLaws b L₂ a
  have hfirst := laws.exactBalances.transferOnHold _ _ _ _ _ _ hL₁ a (Or.inl hne)
  obtain ⟨-, htotal₁, hfrozen₁⟩ := laws.returnsKeepBooks.transferOnHold _ _ _ _ _ _ hL₁ a
  rw [if_neg hne, Nat.sub_zero] at htotal₁
  rw [hbalance, htotal, hfrozen]
  rcases hdep with ⟨-, hL₂⟩ | ⟨-, rfl⟩
  · obtain ⟨-, htotal₂, hfrozen₂⟩ := laws.returnsKeepBooks.release _ _ _ _ _ hL₂ a
    refine ⟨if a = record.sponsor then s.storageDepositHeld.getD b 0 else 0, ?_, ?_, ?_⟩
    · have hclear : a ≠ record.sponsor ∨
          T.currency.StaysClear totalOnHold L₁ a (s.storageDepositHeld.getD b 0) := by
        by_cases ha : a = record.sponsor
        -- the sponsor has at least the amount by now
        · rw [if_pos ha] at hfirst
          exact Or.inr (Or.inr (Or.inl (by omega)))
        · exact Or.inl ha
      have hsecond := laws.exactBalances.release _ _ _ _ _ hL₂ a hclear
      omega
    · rw [htotal₂, htotal₁]
    · exact hfrozen₂.trans hfrozen₁
  · exact ⟨0, by omega, by omega, hfrozen₁⟩

/-- Neither condition stops being met when something comes off hold. -/
theorem autoUnlockConditionMet_raised (laws : PromptLaws T frozen totalOnHold) (s t : T.State)
    (a : A) (amount n : ℕ) (c : AutoUnlockCondition)
    (hbalance : T.currency.balance s.runtime a+n ≤ T.currency.balance t.runtime a)
    (htotal : totalOnHold t.runtime a = totalOnHold s.runtime a-n)
    (hfrozen : frozen t.runtime a ≤ frozen s.runtime a)
    (hmet : autoUnlockConditionMet T a amount c s = true) :
    autoUnlockConditionMet T a amount c t = true := by
  cases c with
  | spendableGeSponsored =>
    have hspendable := of_decide_eq_true hmet
    apply decide_eq_true
    rw [laws.reducibleAbove] at hspendable ⊢
    -- what is no longer on hold stops covering the freezes, but it is free instead
    omega
  | freeGeSponsored =>
    have hfree := of_decide_eq_true hmet
    apply decide_eq_true
    omega

/-- Whoever is due is due still, or revoked, after a revocation. -/
theorem revoked_due (laws : PromptLaws T frozen totalOnHold) (a b : A)
    (record : SponsorshipRecord A) (L : Λ) (event : Event A) (s : T.State)
    (hminimum : T.currency.minimumBalance ≤ record.amount) (hL : Refunded T s b record L)
    (hholds : HoldsMatch T (logged T event (revokedStorage T b record L s)))
    (hbooks : InOrder T totalOnHold L)
    (hdue : s.sponsorships.get a = none ∨ Due T frozen totalOnHold a s) :
    let t := logged T event (revokedStorage T b record L s)
    t.sponsorships.get a = none ∨ Due T frozen totalOnHold a t := by
  intro t
  by_cases hne : a = b
  · left
    subst hne
    exact StorageMap.get_remove_self _ _
  · have hframe : t.sponsorships.get a = s.sponsorships.get a := StorageMap.get_remove_ne _ _ _ hne
    rcases hdue with hgone | ⟨r, c, hr, hmode, hmet, hthawed⟩
    · left
      rw [hframe, hgone]
    · right
      obtain ⟨n, hbalance, htotal, hkept⟩ := refunded_raises T laws s b a record L hne hminimum hL
      refine ⟨r, c, ?_, hmode, ?_, ?_⟩
      · rw [hframe, hr]
      · exact autoUnlockConditionMet_raised T laws s t a r.amount n c hbalance htotal hkept hmet
      · -- if less is on hold, it is because it has become free; the amount itself still is
        have hheld := amount_on_hold T t hholds a r (hframe.trans hr)
        have hpart := (hbooks {a}).1 a (Finset.mem_singleton_self a)
        change T.currency.balanceOnHold L (sponsorshipHoldReason T) a = r.amount at hheld
        change r.amount ≤ totalOnHold L a-(frozen L a-T.currency.balance L a)
        unfold Thawed at hthawed
        omega

/-- The turns of the hook create no sponsorship and set no policy. -/
theorem outcome_pending (laws : PromptLaws T frozen totalOnHold) (a : A) (act : Action A O)
    (s t : T.State) (hact : act.lease = none) (hs : Pending T frozen totalOnHold a s)
    (h : Outcome T act s t) : Pending T frozen totalOnHold a t := by
  have hholds := outcome_holdsMatch T laws.exactHolds laws.keepsFunds act s t hs.holds h
  have hamounts := outcome_amountsSuffice T act s t hs.amounts h
  cases h with
  | idle => exact hs
  | sponsored sponsor beneficiary amount autoUnlock lease _ hlease _ =>
    rw [hact] at hlease
    cases hlease
  | revoked b record L event found refunded authorised =>
    have hbooks := refunded_inOrder T laws.toBookLaws s hs.books b record L refunded
    have hminimum : T.currency.minimumBalance ≤ record.amount :=
      (Nat.le_max_right _ _).trans (hs.amounts b record found)
    exact ⟨hholds, hamounts, hbooks,
      revoked_due T laws a b record L event s hminimum refunded hholds hbooks hs.due⟩
  | policy origin caller beneficiary autoUnlock lease record _ signed hpolicy _ =>
    rw [hpolicy] at hact
    cases hact

/-- When its turn comes, an account that is due is let go. -/
theorem tryAutoUnlockInternal_ends (laws : PromptLaws T frozen totalOnHold) (b : A) (s : T.State)
    (hs : Pending T frozen totalOnHold b s) :
    (tryAutoUnlockInternal T b true s).2.sponsorships.get b = none := by
  rw [tryAutoUnlockInternal_storage]
  rcases hs.due with hgone | ⟨record, c, hb, hmode, hmet, hthawed⟩
  · rw [hgone]
    exact hgone
  · obtain ⟨L, hL⟩ := refunded_of_thawed T laws.exactHolds frozen totalOnHold
      laws.exactBalances.toExactReturns laws.returnable s hs.holds hs.amounts b record hb hthawed
      (hs.books _)
    have hrevoked := (revokeSponsorship_ok_iff T b record s _).mpr ⟨hb, L, hL, rfl⟩
    simp only [hb, hmode, hmet, if_true, hrevoked]
    exact StorageMap.get_remove_self _ _

/-- After the pass over a queue that names the account, its sponsorship is gone. -/
theorem autoUnlockPass_ends (laws : PromptLaws T frozen totalOnHold) (b : A) (queue : List A)
    (index : ℕ) (pass : AutoUnlockPass A Λ T.maxQueueProcessingPerBlock)
    (hlimit : index+queue.length ≤ T.maxQueueProcessingPerBlock)
    (hpass : Pending T frozen totalOnHold b pass.storage)
    (hqueued : b ∈ queue ∨ pass.storage.sponsorships.get b = none) :
    ((queue.zipIdx index).foldl (autoUnlockIteration T) pass).storage.sponsorships.get b = none := by
  induction queue generalizing index pass with
  | nil =>
    rcases hqueued with hmem | hgone
    · exact absurd hmem List.not_mem_nil
    · exact hgone
  | cons x queue ih =>
    rw [List.length_cons] at hlimit
    have hturn := autoUnlockIteration_eq T pass x index (by omega)
    have hstorage : (autoUnlockIteration T pass (x, index)).storage =
        (tryAutoUnlockInternal T x true pass.storage).2 := by rw [hturn]
    have hnext : Pending T frozen totalOnHold b (autoUnlockIteration T pass (x, index)).storage := by
      rw [hstorage]
      exact outcome_pending T laws b (.autoUnlock x index : Action A O) _ _ rfl hpass
        (autoUnlock_outcome T _ x pass.storage)
    apply ih (index+1) (autoUnlockIteration T pass (x, index)) (by omega) hnext
    rw [hstorage]
    -- its own turn ends the sponsorship; any other leaves it queued, or gone
    by_cases hx : x = b
    · right
      rw [hx]
      exact tryAutoUnlockInternal_ends T laws b pass.storage hpass
    · rcases hqueued with hmem | hgone
      · left
        exact (List.mem_cons.mp hmem).resolve_left (fun h => hx h.symm)
      · right
        rw [tryAutoUnlockInternal_frame T x b pass.storage (fun h => hx h.symm), hgone]

/-- The hook, from a state in which the queue is complete. -/
theorem onInitialize_ends (laws : PromptLaws T frozen totalOnHold) (b : A) (now : ℕ) (s : T.State)
    (hs : Pending T frozen totalOnHold b s) (hqueue : QueueIndexed T s) :
    (step T s (.onInitialize now : Op A O Λ)).sponsorships.get b = none := by
  obtain ⟨queue, hstep⟩ := step_onInitialize_loop (O := O) T now s
  rw [hstep]
  change (autoUnlockLoop T _).storage.sponsorships.get b = none
  -- the expiry pass may end the sponsorship already; if not, the account is still queued
  have hexpired : Pending T frozen totalOnHold b
      (processExpirations T now { s with blockNumber := now }).1 := by
    refine expireLoop_preserves (O := O) T (Pending T frozen totalOnHold b) now ?_ _ _ ?_
    · intro x u v hu hv
      exact outcome_pending T laws b _ u v rfl hu hv
    · exact ⟨⟨hs.holds.sponsorship, hs.holds.unsponsored, hs.holds.deposits⟩, hs.amounts, hs.books,
        hs.due⟩
  have hindexed : QueueIndexed T (processExpirations T now { s with blockNumber := now }).1 :=
    expireLoop_preserves (O := O) T (QueueIndexed T) now
      (fun x u v hu hv => outcome_queueIndexed T _ u v hu hv) _ _ hqueue
  generalize (processExpirations T now { s with blockNumber := now }).1 = u at hexpired hindexed
  refine autoUnlockPass_ends (O := O) T laws b u.autoUnlockQueue.toList 0 _ ?_ ?_ ?_
  · rw [Nat.zero_add]
    exact u.autoUnlockQueue.bounded
  · exact ⟨⟨hexpired.holds.sponsorship, hexpired.holds.unsponsored, hexpired.holds.deposits⟩,
      hexpired.amounts, hexpired.books, hexpired.due⟩
  · rcases hexpired.due with hgone | ⟨record, c, hb, hmode, -, -⟩
    · exact Or.inr hgone
    · left
      apply hindexed b
      rw [awaitsUnlock_iff]
      refine ⟨record, hb, ?_⟩
      rw [hmode]
      exact AutoUnlockMode.noConfusion

/-- In every state that a run reaches, whoever is due is no longer sponsored after the next hook,
however many sponsorships end before its turn, nor after a `refresh` that anybody signs. -/
theorem auto_unlock_is_prompt (laws : PromptLaws T frozen totalOnHold) (L : Λ)
    (hL : ∀ reason a, T.currency.balanceOnHold L (T.holdReason reason) a = 0)
    (hbooks : InOrder T totalOnHold L) (ops : List (Op A O Λ))
    (hholds : Along (step T) (RespectsHolds T) (emptyStorage T L) ops)
    (hops : Along (step T) (LeavesBooks T totalOnHold) (emptyStorage T L) ops) (b : A) :
    let s := run (step T) (emptyStorage T L) ops
    Due T frozen totalOnHold b s →
      (∀ now, (step T s (.onInitialize now : Op A O Λ)).sponsorships.get b = none) ∧
      ∀ origin caller, T.ensureSigned origin = some caller →
        (entryStep T s (.call origin (.refresh b))).sponsorships.get b = none := by
  intro s hdue
  have hpending : Pending T frozen totalOnHold b s :=
    ⟨run_holdsMatch T laws.exactHolds laws.keepsFunds L hL ops hholds, run_amountsSuffice T L ops,
      run_inOrder T laws.toBookLaws ops _ hbooks hops, Or.inr hdue⟩
  have hqueue : QueueIndexed T s := by
    refine run_invariant_always (step T) (QueueIndexed T) (step_queueIndexed T) ops _ ?_
    intro x hawaits
    simp [awaitsUnlock, emptyStorage] at hawaits
  constructor
  · intro now
    exact onInitialize_ends T laws b now s hpending hqueue
  · intro origin caller hsigned
    change (dispatch T origin (.refresh b) s).2.sponsorships.get b = none
    rw [refresh_storage T origin caller b s hsigned]
    exact tryAutoUnlockInternal_ends T laws b s hpending

theorem mock_promptLaws : PromptLaws mock (fun L a => (L a).frozen) (fun L a => (L a).reserved) where
  exactHolds := Ledger.holds_exactHolds 10
  exactBalances := Ledger.holds_exactBalances 10
  exactTotals := Ledger.holds_exactTotals 10
  returnsKeepBooks := Ledger.holds_returnsKeepBooks 10
  keepsFunds := Ledger.system_keepsFunds 10
  keepsBooks := Ledger.system_keepsBooks 10
  returnable := Ledger.holds_returnable 10 mock.balanceMax
  reducibleAbove := Ledger.inspect_reducibleAbove 10

/-- A payment between two accounts of the test runtime. -/
def payment (src dst n : ℕ) (L : Ledger ℕ HoldReason) : Ledger ℕ HoldReason :=
  ((Ledger.balanced 10).transfer src dst n .preserve L).getD L

/-- What a payment does to one account: it moves the amount, or nothing. -/
theorem payment_moves (src dst n : ℕ) (hne : src ≠ dst) (L : Ledger ℕ HoldReason) :
    ∃ m, ∀ a, (payment src dst n L a).free+(if a = src then m else 0) ≤
        (L a).free+(if a = dst then m else 0) ∧
      (payment src dst n L a).held = (L a).held ∧
      (payment src dst n L a).reserved = (L a).reserved := by
  unfold payment
  rcases hpaid : (Ledger.balanced 10).transfer src dst n .preserve L with _ | L'
  · refine ⟨0, fun a => ?_⟩
    simp
  · obtain ⟨hn, rfl⟩ := Ledger.balanced_transfer 10 src dst n .preserve L L' hpaid hne
    refine ⟨n, fun a => ?_⟩
    have hdust := Ledger.afterDust_le 10 L src ((L src).free-n)
    rw [Option.getD_some, Ledger.setFree_free, Ledger.setFree_free, Ledger.setFree_held,
      Ledger.setFree_held, Ledger.setFree_reserved, Ledger.setFree_reserved]
    refine ⟨?_, rfl, rfl⟩
    by_cases hdst : a = dst
    · rw [if_pos hdst, if_pos hdst, if_neg (fun h => hne (h.symm.trans hdst)), hdst, add_zero]
    · by_cases hsrc : a = src
      · rw [if_neg hdst, if_neg hdst, if_pos hsrc, if_pos hsrc, hsrc]
        omega
      · rw [if_neg hdst, if_neg hdst, if_neg hsrc, if_neg hsrc]

theorem payment_inOrder (src dst n : ℕ) (hne : src ≠ dst) (L : Ledger ℕ HoldReason)
    (hL : InOrder mock (fun L a => (L a).reserved) L) :
    InOrder mock (fun L a => (L a).reserved) (payment src dst n L) := by
  obtain ⟨m, hmoved⟩ := payment_moves src dst n hne L
  intro accounts
  constructor
  · intro a ha
    have hpart := (hL accounts).1 a ha
    change (payment src dst n L a).held _+(payment src dst n L a).held _ ≤
      (payment src dst n L a).reserved
    rw [(hmoved a).2.1, (hmoved a).2.2]
    exact hpart
  · apply sum_le_of_moved (fun a => (L a).free+(L a).reserved) _ src dst m mock.balanceMax
    · intro a
      have hfree := (hmoved a).1
      have hreserved := (hmoved a).2.2
      change (payment src dst n L a).free+(payment src dst n L a).reserved+_ ≤ _
      omega
    · intro accounts
      exact (hL accounts).2

/-- Two accounts wait for funds of their own. The second of them is itself a sponsor, and what it
sponsors ends in the next block. -/
def promptTrace : List (Op ℕ (RawOrigin ℕ) (Ledger ℕ HoldReason)) :=
  [.onInitialize 1,
    .entry (.call (.signed 1) (.sponsor 2 30 (.enabled .freeGeSponsored) .none)),
    .entry (.call (.signed 1) (.sponsor 5 60 (.enabled .spendableGeSponsored) .none)),
    .entry (.call (.signed 5) (.sponsor 6 30 (.enabled .freeGeSponsored) (.until 2)))]

theorem mockLedger_inOrder : InOrder mock (fun L a => (L a).reserved) mockLedger := by
  intro accounts
  constructor
  · intro a _
    exact le_refl 0
  · refine le_trans ?_ ((Ledger.sum_lookup_le [(1, 500), (3, 100), (4, 500), (5, 140)] accounts).trans
      (by decide))
    exact Finset.sum_le_sum fun a _ => le_refl _

/-- No step of it asks anything of the rest of the runtime. -/
theorem promptTrace_own (C : mock.State → (Ledger ℕ HoldReason → Ledger ℕ HoldReason) → Prop)
    (L : Ledger ℕ HoldReason) :
    Along (step mock) (fun u op => ∀ f, op = .environment f → C u f) (emptyStorage mock L)
      promptTrace := by
  simp [promptTrace, Along]

theorem auto_unlock_is_prompt_promptTrace :
    let s := run (step mock) (emptyStorage mock mockLedger)
      (promptTrace ++ [.environment (payment 4 2 40)])
    (s.sponsorships.get 2).isSome = true ∧ (step mock s (.onInitialize 2)).sponsorships.get 2 = none := by
  intro s
  have hrespects : Along (step mock) (RespectsHolds mock) (emptyStorage mock mockLedger)
      (promptTrace ++ [.environment (payment 4 2 40)]) := by
    refine (along_append _ _ _ _ _).mpr ⟨promptTrace_own _ _, ?_, trivial⟩
    intro f hf reason a
    cases hf
    obtain ⟨m, hmoved⟩ := payment_moves 4 2 40 (by decide)
      (run (step mock) (emptyStorage mock mockLedger) promptTrace).runtime
    exact congrFun (hmoved a).2.1 reason
  have hbooks : Along (step mock) (LeavesBooks mock (fun L a => (L a).reserved))
      (emptyStorage mock mockLedger) (promptTrace ++ [.environment (payment 4 2 40)]) := by
    refine (along_append _ _ _ _ _).mpr ⟨promptTrace_own _ _, ?_, trivial⟩
    intro f hf
    cases hf
    exact payment_inOrder 4 2 40 (by decide) _
      (run_inOrder mock mock_promptLaws.toBookLaws promptTrace _ mockLedger_inOrder (promptTrace_own _ _))
  have hdue : Due mock (fun L a => (L a).frozen) (fun L a => (L a).reserved) 2 s :=
    ⟨⟨1, 30, .enabled .freeGeSponsored, .none, 1⟩, .freeGeSponsored, by decide +kernel, rfl,
      by decide +kernel, by decide +kernel⟩
  exact ⟨by decide +kernel, (auto_unlock_is_prompt mock mock_promptLaws mockLedger (fun _ _ => rfl)
    mockLedger_inOrder _ hrespects hbooks 2 hdue).1 2⟩

end NuloChain.Sponsorship
