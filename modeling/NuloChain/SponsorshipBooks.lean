import NuloChain.SponsorshipRefunds
import NuloChain.FrameBooks

/-! The pallet keeps the books of the currency in order. It only moves funds between free
balances and holds, so what all accounts own together still fits the balance type, and its two
holds remain part of what the currency has on hold. -/
namespace NuloChain.Sponsorship
open Frame
set_option linter.unusedSectionVars false
variable {A O R Λ : Type} [DecidableEq A] [DecidableEq R] (T : Config A O R Λ)

/-- What the pallet relies on when it moves funds in and out of holds. -/
structure BookLaws (frozen totalOnHold : Λ → A → ℕ) : Prop where
  exactHolds : T.currency.ExactHolds
  exactBalances : T.currency.ExactBalances totalOnHold
  exactTotals : T.currency.ExactTotals totalOnHold
  returnsKeepBooks : T.currency.ReturnsKeepBooks frozen totalOnHold
  keepsFunds : T.system.KeepsFunds T.currency
  keepsBooks : T.system.KeepsBooks frozen totalOnHold

/-- The books are in order, whichever accounts one looks at. -/
def InOrder (totalOnHold : Λ → A → ℕ) (L : Λ) : Prop :=
  ∀ accounts, InBooks T totalOnHold L accounts

variable {frozen totalOnHold : Λ → A → ℕ}

/-- The books after `n` is taken off one of the pallet's two holds. -/
theorem returned_inOrder (reason : HoldReason) (L L' : Λ) (src dst : A) (n : ℕ)
    (hheld : ∀ r a, T.currency.balanceOnHold L' r a+
      (if r = T.holdReason reason ∧ a = src then n else 0) = T.currency.balanceOnHold L r a)
    (hfree : ∀ a, T.currency.balance L' a ≤ T.currency.balance L a+(if a = dst then n else 0))
    (htotal : ∀ a, totalOnHold L' a = totalOnHold L a-(if a = src then n else 0))
    (hbooks : InOrder T totalOnHold L) :
    InOrder T totalOnHold L' := by
  have hne := sponsorship_ne_storageDeposit T
  -- both parts of the total, and the one that is reduced, at any account
  have hparts : ∀ a, T.currency.balanceOnHold L' (sponsorshipHoldReason T) a+
      T.currency.balanceOnHold L' (storageDepositHoldReason T) a+(if a = src then n else 0) ≤
        totalOnHold L a := by
    intro a
    have hbefore := (hbooks {a}).1 a (Finset.mem_singleton_self a)
    have hs := hheld (sponsorshipHoldReason T) a
    have hd := hheld (storageDepositHoldReason T) a
    cases reason with
    | sponsorship =>
      change _+(if sponsorshipHoldReason T = sponsorshipHoldReason T ∧ a = src then n else 0) = _
        at hs
      change _+(if storageDepositHoldReason T = sponsorshipHoldReason T ∧ a = src then n else 0) = _
        at hd
      simp only [hne.symm, true_and, false_and, if_false, add_zero] at hs hd
      omega
    | storageDeposit =>
      change _+(if sponsorshipHoldReason T = storageDepositHoldReason T ∧ a = src then n else 0) = _
        at hs
      change _+(if storageDepositHoldReason T = storageDepositHoldReason T ∧ a = src then n
        else 0) = _ at hd
      simp only [hne, true_and, false_and, if_false, add_zero] at hs hd
      omega
  intro accounts
  constructor
  · intro a _
    have hpart := hparts a
    rw [htotal a]
    omega
  · apply sum_le_of_moved (fun a => T.currency.balance L a+totalOnHold L a) _ src dst n T.balanceMax
    · intro a
      have hpart := hparts a
      have hgain := hfree a
      have hloss := htotal a
      omega
    · intro accounts
      exact (hbooks accounts).2

/-- Whether or not the provider reference is let go, the currency's books stay. -/
theorem dec_keeps_books (laws : BookLaws T frozen totalOnHold) (b : A) (L : Λ) :
    let L' := (T.system.decProviders b L).getD L
    ∀ a, T.currency.balance L' a = T.currency.balance L a ∧ totalOnHold L' a = totalOnHold L a ∧
      frozen L' a = frozen L a ∧ ∀ r, T.currency.balanceOnHold L' r a = T.currency.balanceOnHold L r a := by
  intro L' a
  rcases hdec : T.system.decProviders b L with _ | L₃
  · have hL' : L' = L := by simp only [L', hdec, Option.getD_none]
    rw [hL']
    exact ⟨rfl, rfl, rfl, fun _ => rfl⟩
  · have hL' : L' = L₃ := by simp only [L', hdec, Option.getD_some]
    rw [hL']
    obtain ⟨htotal, hfrozen⟩ := laws.keepsBooks.dec b L L₃ hdec a
    exact ⟨laws.keepsFunds.dec_balance b L L₃ hdec a, htotal, hfrozen,
      fun r => laws.keepsFunds.dec_hold b L L₃ hdec r a⟩

/-- A revocation keeps the books in order. -/
theorem refunded_inOrder (laws : BookLaws T frozen totalOnHold) (s : T.State)
    (hbooks : InOrder T totalOnHold s.runtime) (b : A)
    (record : SponsorshipRecord A) (L : Λ) (h : Refunded T s b record L) :
    InOrder T totalOnHold L := by
  obtain ⟨L₁, L₂, hL₁, hdep, rfl⟩ := h
  have hfirst := laws.returnsKeepBooks.transferOnHold _ _ _ _ _ _ hL₁
  have h₁ : InOrder T totalOnHold L₁ :=
    returned_inOrder T .sponsorship s.runtime L₁ b record.sponsor record.amount
      (laws.exactHolds.transferOnHold _ _ _ _ _ _ _ hL₁) (fun a => (hfirst a).1)
      (fun a => (hfirst a).2.1) hbooks
  have h₂ : InOrder T totalOnHold L₂ := by
    rcases hdep with ⟨-, hL₂⟩ | ⟨-, rfl⟩
    · have hsecond := laws.returnsKeepBooks.release _ _ _ _ _ hL₂
      exact returned_inOrder T .storageDeposit L₁ L₂ record.sponsor record.sponsor _
        (laws.exactHolds.release _ _ _ _ _ hL₂) (fun a => (hsecond a).1)
        (fun a => (hsecond a).2.1) h₁
    · exact h₁
  have hkept := dec_keeps_books T laws b L₂
  intro accounts
  obtain ⟨hparts, hsum⟩ := h₂ accounts
  constructor
  · intro a ha
    obtain ⟨-, htotal, -, hheld⟩ := hkept a
    rw [hheld, hheld, htotal]
    exact hparts a ha
  · have hsame : ∀ a ∈ accounts, T.currency.balance ((T.system.decProviders b L₂).getD L₂) a+
        totalOnHold ((T.system.decProviders b L₂).getD L₂) a =
          T.currency.balance L₂ a+totalOnHold L₂ a := by
      intro a _
      rw [(hkept a).1, (hkept a).2.1]
    rw [Finset.sum_congr rfl hsame]
    exact hsum

/-- The books after `n` is put on one of the pallet's two holds. -/
theorem held_inOrder (reason : HoldReason) (L L' : Λ) (src dst : A) (n : ℕ)
    (hheld : ∀ r a, T.currency.balanceOnHold L' r a = T.currency.balanceOnHold L r a+
      if r = T.holdReason reason ∧ a = dst then n else 0)
    (hfree : ∀ a, T.currency.balance L' a+(if a = src then n else 0) ≤ T.currency.balance L a)
    (htotal : ∀ a, totalOnHold L' a = totalOnHold L a+if a = dst then n else 0)
    (hbooks : InOrder T totalOnHold L) : InOrder T totalOnHold L' := by
  have hne := sponsorship_ne_storageDeposit T
  intro accounts
  constructor
  · intro a _
    have hbefore := (hbooks {a}).1 a (Finset.mem_singleton_self a)
    have hs := hheld (sponsorshipHoldReason T) a
    have hd := hheld (storageDepositHoldReason T) a
    rw [htotal a]
    cases reason with
    | sponsorship =>
      change _ = _+(if sponsorshipHoldReason T = sponsorshipHoldReason T ∧ a = dst then n else 0)
        at hs
      change _ = _+(if storageDepositHoldReason T = sponsorshipHoldReason T ∧ a = dst then n else 0)
        at hd
      simp only [hne.symm, true_and, false_and, if_false, add_zero] at hs hd
      omega
    | storageDeposit =>
      change _ = _+(if sponsorshipHoldReason T = storageDepositHoldReason T ∧ a = dst then n else 0)
        at hs
      change _ = _+(if storageDepositHoldReason T = storageDepositHoldReason T ∧ a = dst then n
        else 0) at hd
      simp only [hne, true_and, false_and, if_false, add_zero] at hs hd
      omega
  · apply sum_le_of_moved (fun a => T.currency.balance L a+totalOnHold L a) _ src dst n T.balanceMax
    · intro a
      have hloss := hfree a
      have hgain := htotal a
      omega
    · intro accounts
      exact (hbooks accounts).2

/-- A provider reference more keeps the books in order. -/
theorem provided_inOrder (laws : BookLaws T frozen totalOnHold) (L : Λ)
    (hbooks : InOrder T totalOnHold L) (b : A) :
    InOrder T totalOnHold (T.system.incProviders b L) := by
  intro accounts
  obtain ⟨hparts, hsum⟩ := hbooks accounts
  constructor
  · intro a ha
    rw [laws.keepsFunds.inc_hold, laws.keepsFunds.inc_hold, (laws.keepsBooks.inc b L a).1]
    exact hparts a ha
  · have hsame : ∀ a ∈ accounts, T.currency.balance (T.system.incProviders b L) a+
        totalOnHold (T.system.incProviders b L) a = T.currency.balance L a+totalOnHold L a := by
      intro a _
      rw [laws.keepsFunds.inc_balance, (laws.keepsBooks.inc b L a).1]
    rw [Finset.sum_congr rfl hsame]
    exact hsum

/-- A creation keeps the books in order. -/
theorem funded_inOrder (laws : BookLaws T frozen totalOnHold) (s : T.State)
    (hbooks : InOrder T totalOnHold s.runtime) (sponsor b : A) (amount : ℕ) (L : Λ)
    (h : Funded T s sponsor b amount L) : InOrder T totalOnHold L := by
  obtain ⟨L₁, hL₁, hdep⟩ := h
  have h₀ := provided_inOrder T laws s.runtime hbooks b
  have h₁ : InOrder T totalOnHold L₁ :=
    held_inOrder T .sponsorship _ L₁ sponsor b amount
      (laws.exactHolds.transferAndHold _ _ _ _ _ _ _ _ hL₁)
      (fun a => (laws.exactBalances.transferAndHold _ _ _ _ _ _ hL₁ a).le)
      (laws.exactTotals.transferAndHold _ _ _ _ _ _ _ _ hL₁) h₀
  rcases hdep with ⟨-, hL⟩ | ⟨-, rfl⟩
  · exact held_inOrder T .storageDeposit L₁ L sponsor sponsor _
      (laws.exactHolds.hold _ _ _ _ _ hL) (laws.exactBalances.hold_le _ _ _ _ _ hL)
      (laws.exactTotals.hold _ _ _ _ _ hL) h₁
  · exact h₁

theorem outcome_inOrder (laws : BookLaws T frozen totalOnHold) (act : Action A O) (s t : T.State)
    (hs : InOrder T totalOnHold s.runtime) (h : Outcome T act s t) :
    InOrder T totalOnHold t.runtime := by
  cases h with
  | idle => exact hs
  | sponsored sponsor b amount autoUnlock lease _ _ h =>
    exact funded_inOrder T laws s hs sponsor b amount _ h.funded
  | revoked b record L event found refunded authorised =>
    exact refunded_inOrder T laws s hs b record L refunded
  | policy origin caller b autoUnlock lease record _ signed hact h =>
    rw [h.runtime]
    exact hs

/-- Operations by others leave the books in order. -/
def LeavesBooks (totalOnHold : Λ → A → ℕ) (s : T.State) (op : Op A O Λ) : Prop :=
  ∀ f, op = .environment f → InOrder T totalOnHold (f s.runtime)

theorem run_inOrder (laws : BookLaws T frozen totalOnHold) (ops : List (Op A O Λ)) (s : T.State)
    (hs : InOrder T totalOnHold s.runtime)
    (hops : Along (step T) (LeavesBooks T totalOnHold) s ops) :
    InOrder T totalOnHold (run (step T) s ops).runtime := by
  refine run_invariant (step T) (LeavesBooks T totalOnHold)
    (fun u => InOrder T totalOnHold u.runtime) ?_ ops s hs hops
  intro u op hu hop
  refine step_preserves T (fun v => InOrder T totalOnHold v.runtime)
    (fun v f => InOrder T totalOnHold (f v.runtime)) (outcome_inOrder T laws) ?_
    (fun _ _ _ h => h) u op hu hop
  intro v w hv hsame
  rw [hsame.runtime]
  exact hv

end NuloChain.Sponsorship
