import NuloChain.SponsorshipWealth
import NuloChain.SponsorshipIndex

/-! An account that sponsors nobody, as an account without a key does. Anybody may sponsor it and
end that again; if its free balance is no dust, none of this moves that balance. -/
namespace NuloChain.Sponsorship
open Frame
set_option linter.unusedSectionVars false
variable {A O R Λ : Type} [DecidableEq A] [DecidableEq R] (T : Config A O R Λ)

/-- `a` sponsors nobody, and its free balance is `n` and out of reach of the dust rule. -/
structure Untouched (a : A) (n : ℕ) (s : T.State) : Prop where
  records : ∀ b record, s.sponsorships.get b = some record →
    record.sponsor ≠ a ∧ minimumSponsorship T ≤ record.amount
  clear : Clear T s.runtime a
  free : T.currency.balance s.runtime a = n

/-- The operations of the pallet in which `a` creates no sponsorship. -/
def SponsorsNot (a : A) : Op A O Λ → Prop
  | .entry (.call origin _) => T.ensureSigned origin ≠ some a
  | .entry (.createSponsorship sponsor _ _ _ _) => sponsor ≠ a
  | .entry _ => True
  | .genesisBuild initial => ∀ i ∈ initial, i.sponsor ≠ a
  | .onInitialize _ => True
  | .environment _ => False

theorem untouched_of_same (a : A) (n : ℕ) (s t : T.State) (hs : Untouched T a n s)
    (hrecords : t.sponsorships = s.sponsorships)
    (hbalance : T.currency.balance t.runtime a = T.currency.balance s.runtime a) :
    Untouched T a n t where
  records b record hb := hs.records b record (hrecords ▸ hb)
  clear := by
    unfold Clear
    rw [hbalance]
    exact hs.clear
  free := hbalance.trans hs.free

/-- A new policy changes neither the sponsor nor the amount. -/
theorem policySet_untouched (a caller b : A) (n : ℕ) (autoUnlock : AutoUnlockMode) (lease : Lease)
    (record : SponsorshipRecord A) (s t : T.State) (hs : Untouched T a n s)
    (h : PolicySet T caller b autoUnlock lease record s t) : Untouched T a n t := by
  refine ⟨?_, h.runtime ▸ hs.clear, h.runtime ▸ hs.free⟩
  intro c r hc
  rw [h.sponsorships, StorageMap.get_insert] at hc
  split at hc
  · cases hc
    exact hs.records b record h.found
  · exact hs.records c r hc

section
variable {frozen totalOnHold : Λ → A → ℕ} (laws : UndoLaws T frozen totalOnHold)
include laws

theorem sponsored_untouched (a sponsor b : A) (n amount : ℕ) (autoUnlock : AutoUnlockMode)
    (lease : Lease) (s t : T.State) (hs : Untouched T a n s) (hne : sponsor ≠ a)
    (h : Sponsored T sponsor b amount autoUnlock lease s t) : Untouched T a n t := by
  have hbalance := funded_balance T laws.exactBalances laws.keepsFunds laws.reducibleAbove s sponsor b
    amount _ h.funded a (Or.inl hne.symm)
  rw [if_neg hne.symm, add_zero] at hbalance
  have hclear : Clear T t.runtime a := by
    unfold Clear
    rw [hbalance]
    exact hs.clear
  refine ⟨?_, hclear, hbalance.trans hs.free⟩
  intro c r hc
  rw [h.sponsorships, StorageMap.get_insert] at hc
  split at hc
  · cases hc
    exact ⟨hne, h.minimum⟩
  · exact hs.records c r hc

/-- A refund goes to a sponsor, and `a` is none; as the beneficiary it would lose no more than
dust, of which it has none. -/
theorem revoked_untouched (a b : A) (n : ℕ) (record : SponsorshipRecord A) (L : Λ)
    (event : Event A) (s : T.State) (hs : Untouched T a n s)
    (found : s.sponsorships.get b = some record) (refunded : Refunded T s b record L) :
    Untouched T a n (logged T event (revokedStorage T b record L s)) := by
  obtain ⟨hne, hamount⟩ := hs.records b record found
  have hminimum : T.currency.minimumBalance ≤ record.amount :=
    (Nat.le_max_right _ _).trans hamount
  have hbalance := refunded_shares T laws a b record L s hs.clear hminimum refunded
  rw [if_neg hne.symm, add_zero] at hbalance
  have hclear : Clear T L a := by
    unfold Clear
    rw [hbalance]
    exact hs.clear
  refine ⟨?_, hclear, hbalance.trans hs.free⟩
  intro c r hc
  change (s.sponsorships.remove b).get c = some r at hc
  rw [StorageMap.get_remove] at hc
  split at hc
  · cases hc
  · exact hs.records c r hc

/-- What is not a creation leaves `a` alone, whoever asked for it. -/
theorem outcome_untouched (a : A) (n : ℕ) (act : Action A O) (s t : T.State)
    (hact : act.lease = none) (hs : Untouched T a n s) (h : Outcome T act s t) :
    Untouched T a n t := by
  cases h with
  | idle => exact hs
  | sponsored sponsor b amount autoUnlock lease _ hlease _ =>
    rw [hact] at hlease
    cases hlease
  | revoked b record L event found refunded _ =>
    exact revoked_untouched T laws a b n record L event s hs found refunded
  | policy origin caller b autoUnlock lease record _ _ _ h =>
    exact policySet_untouched T a caller b n autoUnlock lease record s t hs h

theorem doSponsor_untouched (a sponsor b : A) (n amount : ℕ) (autoUnlock : AutoUnlockMode)
    (lease : Lease) (emitEvent : Bool) (s t : T.State) (u : Unit) (hs : Untouched T a n s)
    (hne : sponsor ≠ a)
    (h : doSponsor T sponsor b amount autoUnlock lease emitEvent s = (.ok u, t)) :
    Untouched T a n t :=
  sponsored_untouched T laws a sponsor b n amount autoUnlock lease s t hs hne
    (doSponsor_ok T _ _ _ _ _ _ _ _ _ h)

theorem call_untouched (a : A) (n : ℕ) (origin : O) (call : Call A) (s : T.State)
    (hs : Untouched T a n s) (horigin : T.ensureSigned origin ≠ some a) :
    Untouched T a n (dispatch T origin call s).2 := by
  have hsigner : ∀ who, T.ensureSigned origin = some who → who ≠ a := by
    intro who hwho ha
    exact horigin (ha ▸ hwho)
  have hcall := call_outcome T origin call s
  cases call with
  | sponsor b amount autoUnlock lease =>
    rcases Dispatch.transactional_storage (sponsor T origin b amount autoUnlock lease) s with
      hid | ⟨u, hok⟩
    · exact hid.symm ▸ hs
    · obtain ⟨who, hwho, h⟩ := signed_ok T _ _ _ _ _ hok
      exact doSponsor_untouched T laws a who b n amount autoUnlock lease true s _ u hs
        (hsigner who hwho) h
  | sponsorMinimum b autoUnlock lease =>
    rcases Dispatch.transactional_storage (sponsorMinimum T origin b autoUnlock lease) s with
      hid | ⟨u, hok⟩
    · exact hid.symm ▸ hs
    · obtain ⟨who, hwho, h⟩ := signed_ok T _ _ _ _ _ hok
      exact doSponsor_untouched T laws a who b n _ autoUnlock lease true s _ u hs
        (hsigner who hwho) h
  | setPolicy b autoUnlock lease =>
    rcases Dispatch.transactional_storage (setPolicy T origin b autoUnlock lease) s with
      hid | ⟨u, hok⟩
    · exact hid.symm ▸ hs
    · obtain ⟨caller, record, -, h⟩ := setPolicy_ok T origin b autoUnlock lease s _ u hok
      exact policySet_untouched T a caller b n autoUnlock lease record s _ hs h
  | unlock b => exact outcome_untouched T laws a n _ s _ rfl hs hcall
  | forceUnlock b => exact outcome_untouched T laws a n _ s _ rfl hs hcall
  | refresh b => exact outcome_untouched T laws a n _ s _ rfl hs hcall

/-- No step of the pallet that `a` does not sign moves the free balance of `a`. -/
theorem step_untouched (a : A) (n : ℕ) (s : T.State) (op : Op A O Λ) (hs : Untouched T a n s)
    (hop : SponsorsNot T a op) : Untouched T a n (step T s op) := by
  cases op with
  | entry e =>
    cases e with
    | call origin call => exact call_untouched T laws a n origin call s hs hop
    | createSponsorship sponsor b amount autoUnlock lease =>
      rcases hx : doSponsor T sponsor b amount autoUnlock lease true s with ⟨e | u, t⟩
      · have hid : (doSponsor T sponsor b amount autoUnlock lease true s).2 = s := by
          rw [hx]
          exact Dispatch.transactional_error _ _ _ _ hx
        change Untouched T a n (doSponsor T sponsor b amount autoUnlock lease true s).2
        rw [hid]
        exact hs
      · change Untouched T a n (doSponsor T sponsor b amount autoUnlock lease true s).2
        rw [hx]
        exact doSponsor_untouched T laws a sponsor b n amount autoUnlock lease true s t u hs hop hx
    | unlockSponsorship sponsor b =>
      exact outcome_untouched T laws a n _ s _ rfl hs (entry_outcome T (.unlockSponsorship sponsor b) s)
    | tryAutoUnlock b =>
      exact outcome_untouched T laws a n _ s _ rfl hs (entry_outcome T (.tryAutoUnlock b) s)
  | genesisBuild initial =>
    simp only [step]
    rcases h : genesisBuild T initial s with _ | t
    · exact hs
    · refine genesisBuild_doSponsor T (Untouched T a n) initial ?_ s t hs h
      intro i hi u v done hu hv
      exact doSponsor_untouched T laws a _ _ n _ _ _ false u v done hu (hop i hi) hv
  | onInitialize now =>
    refine onInitialize_preserves (O := O) T (Untouched T a n) now
      (fun act u v hact hu hv => outcome_untouched T laws a n act u v hact hu hv) ?_ s ?_
    · intro u expirations queue hu
      exact untouched_of_same T a n u _ hu rfl rfl
    · exact untouched_of_same T a n s _ hs rfl rfl
  | environment f => exact absurd hop id

end

end NuloChain.Sponsorship
