import NuloChain.FrameBalances

/-! The books of a currency when funds go on hold and come off again. Nobody but the receiver
gains, the totals on hold go with the holds, and freezes do not grow. So the sum of all funds, which the
balance type has room for, is not exceeded by moving them around; and the grounds on which such
a move is refused can be told beforehand. -/
namespace Frame
set_option linter.unusedSectionVars false
variable {A R Λ : Type} [DecidableEq A] [DecidableEq R]

/-- What comes off hold goes to one free balance and leaves the total of one account. -/
structure MutateHold.ReturnsKeepBooks (F : MutateHold A R Λ) (frozen totalOnHold : Λ → A → ℕ) :
    Prop where
  transferOnHold : ∀ r src dst n L L',
    F.transferOnHold r src dst n .exact .free .polite L = some L' → ∀ a,
      F.balance L' a ≤ F.balance L a + (if a = dst then n else 0) ∧
        totalOnHold L' a = totalOnHold L a - (if a = src then n else 0) ∧
        frozen L' a ≤ frozen L a
  release : ∀ r who n L L', F.release r who n .exact L = some L' → ∀ a,
    F.balance L' a ≤ F.balance L a + (if a = who then n else 0) ∧
      totalOnHold L' a = totalOnHold L a - (if a = who then n else 0) ∧
      frozen L' a ≤ frozen L a

/-- Reference counting changes neither totals on hold nor freezes. -/
structure FrameSystem.KeepsBooks (S : FrameSystem A Λ) (frozen totalOnHold : Λ → A → ℕ) :
    Prop where
  inc : ∀ b L a, totalOnHold (S.incProviders b L) a = totalOnHold L a ∧
    frozen (S.incProviders b L) a = frozen L a
  dec : ∀ b L L', S.decProviders b L = some L' → ∀ a,
    totalOnHold L' a = totalOnHold L a ∧ frozen L' a = frozen L a

/-- Funds may be put on hold for an account with a provider reference, which a free balance of the
minimum gives, as far as the source can spare them, and unless the hold would be one consumer too
many on the account: `room` says that it is not. Freezes stay. -/
structure MutateHold.Fundable (F : MutateHold A R Λ) (S : FrameSystem A Λ)
    (frozen totalOnHold : Λ → A → ℕ) (room : Λ → A → Bool) (balanceMax : ℕ) : Prop where
  available : ∀ L r a, 0 < S.providers L a → F.holdAvailable L r a = true
  alive : ∀ L a, F.minimumBalance ≤ F.balance L a → 0 < S.providers L a
  transferAndHold : ∀ r src dst n L, n ≠ 0 → F.holdAvailable L r dst = true →
    n ≤ F.reducibleBalance L src .preserve .polite → totalOnHold L dst + n ≤ balanceMax →
    (F.transferAndHold r src dst n .exact .preserve .polite L).isSome = room L dst
  hold : ∀ r who n L, n ≠ 0 → F.holdAvailable L r who = true →
    n ≤ F.reducibleBalance L who .preserve .polite → totalOnHold L who + n ≤ balanceMax →
    (F.hold r who n L).isSome = room L who
  transferAndHold_frozen : ∀ r src dst n L L',
    F.transferAndHold r src dst n .exact .preserve .polite L = some L' → ∀ a,
      frozen L' a = frozen L a
  hold_frozen : ∀ r who n L L', F.hold r who n L = some L' →
    F.minimumBalance + n ≤ F.balance L who → ∀ a, frozen L' a = frozen L a
  inc_room : ∀ b L a, room (S.incProviders b L) a = room L a
  transferAndHold_room : ∀ r src dst n L L', n ≠ 0 →
    F.transferAndHold r src dst n .exact .preserve .polite L = some L' → ∀ a,
      room L' a = room L a
  hold_room : ∀ r who n L L', n ≠ 0 → F.hold r who n L = some L' →
    F.minimumBalance + n ≤ F.balance L who → ∀ a, room L' a = room L a

/-- What the freezes beyond the free balance cover does not leave a hold politely. -/
def MutateHold.KeepsFrozen (F : MutateHold A R Λ) (frozen totalOnHold : Λ → A → ℕ) : Prop :=
  ∀ r src dst n L L', F.transferOnHold r src dst n .exact .free .polite L = some L' →
    n ≤ totalOnHold L src - (frozen L src - F.balance L src)

/-- If `n` moves from one account to another and nobody else gains, then a bound on what any
accounts have together is kept: the source is counted in, whether or not it was among them. -/
theorem sum_le_of_moved (f g : A → ℕ) (src dst : A) (n bound : ℕ)
    (hmoved : ∀ a, g a + (if a = src then n else 0) ≤ f a + (if a = dst then n else 0))
    (hf : ∀ accounts : Finset A, ∑ a ∈ accounts, f a ≤ bound) (accounts : Finset A) :
    ∑ a ∈ accounts, g a ≤ bound := by
  have hall := hf (insert src accounts)
  have hgained : ∑ a ∈ insert src accounts, (if a = dst then n else 0) ≤ n := by
    rw [Finset.sum_ite_eq']
    split
    · exact le_refl n
    · exact Nat.zero_le n
  have hlost : ∑ a ∈ insert src accounts, (if a = src then n else 0) = n := by
    rw [Finset.sum_ite_eq', if_pos (Finset.mem_insert_self src accounts)]
  have hsum := Finset.sum_le_sum fun a (_ : a ∈ insert src accounts) => hmoved a
  rw [Finset.sum_add_distrib, Finset.sum_add_distrib, hlost] at hsum
  calc ∑ a ∈ accounts, g a
      ≤ ∑ a ∈ insert src accounts, g a :=
        Finset.sum_le_sum_of_subset (Finset.subset_insert src accounts)
    _ ≤ bound := by omega

namespace Ledger

theorem setFree_frozen (L : Ledger A R) (a b : A) (n : ℕ) :
    (setFree L a n b).frozen = (L b).frozen := by
  by_cases h : b = a
  · subst h
    simp [setFree]
  · simp [setFree, h]

theorem subHeld_frozen (L : Ledger A R) (r : R) (a b : A) (n : ℕ) :
    (subHeld L r a n b).frozen = (L b).frozen := by
  by_cases h : b = a
  · subst h
    simp [subHeld]
  · simp [subHeld, h]

theorem returned_reserved (ed : ℕ) (L : Ledger A R) (r : R) (src dst : A) (n m : ℕ) (a : A) :
    (returned ed L r src dst n m a).reserved = (L a).reserved - if a = src then n else 0 := by
  unfold returned dusted
  rw [setFree_reserved, setFree_reserved, subHeld_reserved]

theorem returned_frozen (ed : ℕ) (L : Ledger A R) (r : R) (src dst : A) (n m : ℕ) (a : A) :
    (returned ed L r src dst n m a).frozen = (L a).frozen := by
  unfold returned dusted
  rw [setFree_frozen, setFree_frozen, subHeld_frozen]

/-- The storage that both operations leave, read account by account. -/
theorem returned_books (ed : ℕ) (L : Ledger A R) (r : R) (src dst : A) (n m : ℕ) (hm : m ≤ n)
    (a : A) :
    let L' := returned ed L r src dst n m
    (L' a).free ≤ (L a).free + (if a = dst then n else 0) ∧
      (L' a).reserved = (L a).reserved - (if a = src then n else 0) ∧
      (L' a).frozen ≤ (L a).frozen := by
  intro L'
  refine ⟨?_, returned_reserved ed L r src dst n m a, (returned_frozen ed L r src dst n m a).le⟩
  have hdust := dusted_free_le ed (subHeld L r src n) src a
  rw [subHeld_free] at hdust
  rw [returned_free]
  split
  · omega
  · omega

theorem holds_returnsKeepBooks (ed : ℕ) :
    (holds ed : MutateHold A R (Ledger A R)).ReturnsKeepBooks (fun L a => (L a).frozen)
      (fun L a => (L a).reserved) where
  transferOnHold r src dst n L L' h a := by
    obtain ⟨-, -, rfl⟩ := holds_transferOnHold ed _ _ _ _ _ _ _ _ _ h
    exact returned_books ed L r src dst n n (le_refl n) a
  release r who n L L' h a := by
    obtain ⟨-, -, m, hm, -, rfl⟩ := holds_release ed _ _ _ _ _ _ h
    exact returned_books ed L r who who n m hm a

theorem system_keepsBooks (ed : ℕ) :
    (system ed : FrameSystem A (Ledger A R)).KeepsBooks (fun L a => (L a).frozen)
      (fun L a => (L a).reserved) where
  inc b L a := by
    by_cases h : a = b
    · simp [system, incProviders, h]
    · simp [system, incProviders, h]
  dec b L L' hdec a := by
    obtain ⟨-, rfl⟩ := decProviders_some ed b L L' hdec
    by_cases h : a = b
    · simp [h]
    · simp [h]

theorem addHeld_frozen (L : Ledger A R) (r : R) (a b : A) (n : ℕ) :
    (addHeld L r a n b).frozen = (L b).frozen := by
  by_cases h : b = a
  · subst h
    simp [addHeld]
  · simp [addHeld, h]

theorem setFree_consumers (L : Ledger A R) (a b : A) (n : ℕ) :
    (setFree L a n b).consumers = (L b).consumers := by
  by_cases h : b = a
  · subst h
    simp [setFree]
  · simp [setFree, h]

theorem addHeld_consumers (L : Ledger A R) (r : R) (a b : A) (n : ℕ) :
    (addHeld L r a n b).consumers = (L b).consumers := by
  by_cases h : b = a
  · subst h
    simp [addHeld]
  · simp [addHeld, h]

theorem subHeld_consumers (L : Ledger A R) (r : R) (a b : A) (n : ℕ) :
    (subHeld L r a n b).consumers = (L b).consumers := by
  by_cases h : b = a
  · subst h
    simp [subHeld]
  · simp [subHeld, h]

/-- An account that has been given a hold had room for it, and has it still. -/
theorem hasRoom_held (L : Ledger A R) (r : R) (src dst : A) (n m : ℕ)
    (hroom : hasRoom L dst = true) (a : A) :
    hasRoom (addHeld (setFree L src m) r dst n) a = hasRoom L a := by
  have hreserved : (addHeld (setFree L src m) r dst n a).reserved =
      (L a).reserved + if a = dst then n else 0 := by
    rw [addHeld_reserved, setFree_reserved]
  have hfrozen : (addHeld (setFree L src m) r dst n a).frozen = (L a).frozen := by
    rw [addHeld_frozen, setFree_frozen]
  have hconsumers : (addHeld (setFree L src m) r dst n a).consumers = (L a).consumers := by
    rw [addHeld_consumers, setFree_consumers]
  by_cases ha : a = dst
  · subst ha
    rw [hroom]
    unfold hasRoom at hroom ⊢
    rw [hreserved, hfrozen, hconsumers]
    have hbefore := of_decide_eq_true hroom
    exact decide_eq_true (by omega)
  · rw [if_neg ha, add_zero] at hreserved
    unfold hasRoom
    rw [hreserved, hfrozen, hconsumers]

/-- A hold may use what is frozen, and the minimum if another provider is there. -/
theorem reducible_preserve_le_protect (ed : ℕ) (L : Ledger A R) (a : A) :
    reducibleBalance ed L a .preserve .polite ≤ reducibleBalance ed L a .protect .force := by
  change (L a).free - max ((L a).frozen - (L a).reserved) ed ≤
    (L a).free - if providers ed L a = 1 then max 0 ed else 0
  split
  · omega
  · omega

theorem holds_fundable (ed balanceMax : ℕ) :
    (holds ed : MutateHold A R (Ledger A R)).Fundable (system ed) (fun L a => (L a).frozen)
      (fun L a => (L a).reserved) hasRoom balanceMax where
  available L _ a h := decide_eq_true h
  alive L a h := by
    have hown : one (ed ≤ (L a).free) = 1 := if_pos h
    change 0 < (L a).others + one (ed ≤ (L a).free)
    omega
  transferAndHold r src dst n L hne havailable hn _ := by
    have hfree := hn.trans (reducibleBalance_le ed L src .preserve .polite)
    have hprovided := of_decide_eq_true havailable
    simp only [holds]
    by_cases hroom : hasRoom L dst = true
    · rw [if_pos ⟨hprovided, hn, hfree, Or.inr hroom⟩, hroom]
      rfl
    · rw [if_neg (fun h => h.2.2.2.elim hne hroom), Bool.eq_false_iff.mpr hroom]
      rfl
  hold r who n L hne havailable hn _ := by
    have hfree := hn.trans (reducibleBalance_le ed L who .preserve .polite)
    have hforced := hn.trans (reducible_preserve_le_protect ed L who)
    have hprovided := of_decide_eq_true havailable
    simp only [holds]
    by_cases hroom : hasRoom L who = true
    · rw [if_pos ⟨hprovided, hforced, hfree, Or.inr hroom⟩, hroom]
      rfl
    · rw [if_neg (fun h => h.2.2.2.elim hne hroom), Bool.eq_false_iff.mpr hroom]
      rfl
  transferAndHold_frozen r src dst n L L' h a := by
    obtain ⟨-, -, rfl⟩ := holds_transferAndHold ed _ _ _ _ _ _ _ _ _ h
    rw [addHeld_frozen, setFree_frozen]
  hold_frozen r who n L L' h _ a := by
    obtain ⟨-, rfl⟩ := holds_hold ed _ _ _ _ _ h
    rw [addHeld_frozen, setFree_frozen]
  inc_room b L a := by
    by_cases h : a = b
    · simp [system, incProviders, hasRoom, h]
    · simp [system, incProviders, hasRoom, h]
  transferAndHold_room r src dst n L L' hne h a := by
    have hroom : hasRoom L dst = true := by
      simp only [holds] at h
      split at h
      · rename_i hc
        exact hc.2.2.2.resolve_left hne
      · cases h
    obtain ⟨-, -, rfl⟩ := holds_transferAndHold ed _ _ _ _ _ _ _ _ _ h
    exact hasRoom_held L r src dst n _ hroom a
  hold_room r who n L L' hne h _ a := by
    have hroom : hasRoom L who = true := by
      simp only [holds] at h
      split at h
      · rename_i hc
        exact hc.2.2.2.resolve_left hne
      · cases h
    obtain ⟨-, rfl⟩ := holds_hold ed _ _ _ _ _ h
    exact hasRoom_held L r who who n _ hroom a

theorem holds_keepsFrozen (ed : ℕ) :
    (holds ed : MutateHold A R (Ledger A R)).KeepsFrozen (fun L a => (L a).frozen)
      (fun L a => (L a).reserved) := by
  intro r src dst n L L' h
  exact (holds_transferOnHold ed _ _ _ _ _ _ _ _ _ h).2.1

/-- All consumer references on an account, the one for holds and freezes included. -/
def allConsumers (L : Ledger A R) (a : A) : ℕ :=
  (L a).consumers + one (0 < (L a).reserved ∨ 0 < (L a).frozen)

theorem returned_consumers (ed : ℕ) (L : Ledger A R) (r : R) (src dst : A) (n m : ℕ) (a : A) :
    let L' := returned ed L r src dst n m
    allConsumers L' a + one (0 < (L a).reserved ∨ 0 < (L a).frozen) =
      allConsumers L a + one (0 < (L' a).reserved ∨ 0 < (L a).frozen) := by
  intro L'
  have hconsumers : (L' a).consumers = (L a).consumers := by
    change (setFree (setFree (subHeld L r src n) src _) dst _ a).consumers = _
    rw [setFree_consumers, setFree_consumers, subHeld_consumers]
  unfold allConsumers
  rw [hconsumers, returned_frozen]
  omega

theorem holds_ownConsumers (ed : ℕ) :
    (holds ed : MutateHold A R (Ledger A R)).OwnConsumers allConsumers (fun L a => (L a).frozen)
      (fun L a => (L a).reserved) where
  transferOnHold r src dst n L L' h a := by
    obtain ⟨-, -, rfl⟩ := holds_transferOnHold ed _ _ _ _ _ _ _ _ _ h
    exact returned_consumers ed L r src dst n n a
  release r who n L L' h a := by
    obtain ⟨-, -, m, -, -, rfl⟩ := holds_release ed _ _ _ _ _ _ h
    exact returned_consumers ed L r who who n m a

theorem system_refusesLast (ed : ℕ) :
    (system ed : FrameSystem A (Ledger A R)).RefusesLast (inspect ed) allConsumers := by
  intro b L hother hdec
  change one (ed ≤ (L b).free) < (L b).others + one (ed ≤ (L b).free) at hother
  change decProviders ed b L = none at hdec
  unfold decProviders at hdec
  split at hdec
  · rename_i hrefused
    obtain ⟨hlast, hconsumed⟩ := hrefused.resolve_left (by omega)
    refine ⟨hlast, ?_⟩
    unfold allConsumers
    rcases hconsumed with hconsumers | hown
    · omega
    · have hone : one (0 < (L b).reserved ∨ 0 < (L b).frozen) = 1 := if_pos hown
      omega
  · cases hdec

end Ledger
end Frame
