import NuloChain.FrameBalances

/-! A currency that pallets share. Each of them sees it as a part of a storage that holds more;
its operations act on that part, its laws hold there as well, and what one pallet moves leaves
what another has put on hold. -/
namespace Frame
set_option linter.unusedSectionVars false
variable {A R σ Λ : Type} [DecidableEq A] [DecidableEq R]

/-- A part `Λ` of the storage `σ` that can be read and replaced. -/
structure Lens (σ Λ : Type) where
  get : σ → Λ
  set : Λ → σ → σ
  get_set : ∀ L s, get (set L s) = L

/-- The storage after an operation on the part, if that succeeds. -/
def Lens.update (l : Lens σ Λ) (f : Λ → Option Λ) (s : σ) : Option σ :=
  (f (l.get s)).map fun L => l.set L s

theorem Lens.update_eq_some (l : Lens σ Λ) (f : Λ → Option Λ) (s t : σ) :
    l.update f s = some t ↔ ∃ L, f (l.get s) = some L ∧ t = l.set L s := by
  unfold update
  rw [Option.map_eq_some_iff]
  constructor
  · rintro ⟨L, hL, rfl⟩
    exact ⟨L, hL, rfl⟩
  · rintro ⟨L, hL, rfl⟩
    exact ⟨L, hL, rfl⟩

def FrameSystem.within (S : FrameSystem A Λ) (l : Lens σ Λ) : FrameSystem A σ where
  accountExists s := S.accountExists (l.get s)
  providers s := S.providers (l.get s)
  incProviders a s := l.set (S.incProviders a (l.get s)) s
  decProviders a := l.update (S.decProviders a)

def Inspect.within (F : Inspect A Λ) (l : Lens σ Λ) : Inspect A σ where
  minimumBalance := F.minimumBalance
  balance s := F.balance (l.get s)
  reducibleBalance s := F.reducibleBalance (l.get s)

def Balanced.within (F : Balanced A Λ) (l : Lens σ Λ) : Balanced A σ where
  toInspect := F.toInspect.within l
  totalBalanceOnHold s := F.totalBalanceOnHold (l.get s)
  canWithdraw s := F.canWithdraw (l.get s)
  transfer src dst n p := l.update (F.transfer src dst n p)
  withdraw a n precision p f s :=
    (F.withdraw a n precision p f (l.get s)).map fun taken => (taken.1, l.set taken.2 s)
  resolve a n := l.update (F.resolve a n)
  dropCredit n s := l.set (F.dropCredit n (l.get s)) s

theorem Balanced.within_withdraw (F : Balanced A Λ) (l : Lens σ Λ) (a : A) (n c : ℕ)
    (precision : Precision) (p : Preservation) (f : Fortitude) (s t : σ)
    (h : (F.within l).withdraw a n precision p f s = some (c, t)) :
    ∃ L, F.withdraw a n precision p f (l.get s) = some (c, L) ∧ t = l.set L s := by
  simp only [within, Option.map_eq_some_iff] at h
  obtain ⟨⟨c', L⟩, hL, heq⟩ := h
  cases heq
  exact ⟨L, hL, rfl⟩

theorem Balanced.within_exactMoves (F : Balanced A Λ) (l : Lens σ Λ) (h : F.ExactMoves) :
    (F.within l).ExactMoves where
  transfer_src src dst n p s t htransfer hne := by
    obtain ⟨L, hL, rfl⟩ := (l.update_eq_some _ s t).mp htransfer
    have hsrc := h.transfer_src src dst n p _ L hL hne
    change _ ∧ F.balance (l.get (l.set L s)) src = _
    rw [l.get_set]
    exact hsrc
  transfer_dst src dst n p s t htransfer hne := by
    obtain ⟨L, hL, rfl⟩ := (l.update_eq_some _ s t).mp htransfer
    change F.balance (l.get (l.set L s)) dst = _
    rw [l.get_set]
    exact h.transfer_dst src dst n p _ L hL hne
  transfer_other src dst n p s t htransfer a hsrc hdst := by
    obtain ⟨L, hL, rfl⟩ := (l.update_eq_some _ s t).mp htransfer
    change F.balance (l.get (l.set L s)) a = _
    rw [l.get_set]
    exact h.transfer_other src dst n p _ L hL a hsrc hdst
  withdraw a n p f s c t hwithdraw := by
    obtain ⟨L, hL, rfl⟩ := F.within_withdraw l a n c .exact p f s t hwithdraw
    have htaken := h.withdraw a n p f _ c L hL
    change _ ∧ _ ∧ F.balance (l.get (l.set L s)) a = _
    rw [l.get_set]
    exact htaken
  withdraw_other a n p f s c t hwithdraw b hb := by
    obtain ⟨L, hL, rfl⟩ := F.within_withdraw l a n c .exact p f s t hwithdraw
    change F.balance (l.get (l.set L s)) b = _
    rw [l.get_set]
    exact h.withdraw_other a n p f _ c L hL b hb
  resolve a n s t hresolve := by
    obtain ⟨L, hL, rfl⟩ := (l.update_eq_some _ s t).mp hresolve
    change F.balance (l.get (l.set L s)) a = _
    rw [l.get_set]
    exact h.resolve a n _ L hL
  resolve_other a n s t hresolve b hb := by
    obtain ⟨L, hL, rfl⟩ := (l.update_eq_some _ s t).mp hresolve
    change F.balance (l.get (l.set L s)) b = _
    rw [l.get_set]
    exact h.resolve_other a n _ L hL b hb
  dropCredit n s a := by
    change F.balance (l.get (l.set _ s)) a = _
    rw [l.get_set]
    exact h.dropCredit n _ a

theorem FrameSystem.within_keepsBalances (S : FrameSystem A Λ) (F : Inspect A Λ) (l : Lens σ Λ)
    (h : S.KeepsBalances F) : (S.within l).KeepsBalances (F.within l) := by
  intro b s a
  change F.balance (l.get (l.set _ s)) a = _
  rw [l.get_set]
  exact h b _ a

/-- Moves of free balances leave every hold as it is. -/
structure Balanced.KeepsHolds (F : Balanced A Λ) (held : Λ → R → A → ℕ) : Prop where
  transfer : ∀ src dst n p L L', F.transfer src dst n p L = some L' → held L' = held L
  withdraw : ∀ a n precision p f L c L', F.withdraw a n precision p f L = some (c, L') →
    held L' = held L
  resolve : ∀ a n L L', F.resolve a n L = some L' → held L' = held L
  dropCredit : ∀ n L, held (F.dropCredit n L) = held L

/-- A deposit that goes through does not leave the account below the minimum. -/
structure Balanced.LandsAboveMinimum (F : Balanced A Λ) : Prop where
  transfer : ∀ src dst n p L L', F.transfer src dst n p L = some L' → src ≠ dst →
    F.minimumBalance ≤ F.balance L' dst
  resolve : ∀ a n L L', F.resolve a n L = some L' → F.minimumBalance ≤ F.balance L' a

namespace Ledger

theorem balanced_keepsHolds (ed : ℕ) : (balanced ed : Balanced A (Ledger A R)).KeepsHolds
    (fun L r a => (holds ed).balanceOnHold L r a) where
  transfer src dst n p L L' h := by
    by_cases hne : src = dst
    · simp only [balanced, if_pos hne, Option.some.injEq] at h
      rw [h]
    · obtain ⟨-, rfl⟩ := balanced_transfer ed src dst n p L L' h hne
      funext r a
      exact (congrFun (setFree_held _ dst a _) r).trans (congrFun (setFree_held _ src a _) r)
  withdraw a n precision p f L c L' h := by
    simp only [balanced] at h
    split at h
    · cases h
      funext r b
      exact congrFun (setFree_held _ a b _) r
    · cases h
  resolve a n L L' h := by
    simp only [balanced] at h
    split at h
    · cases h
      funext r b
      exact congrFun (setFree_held _ a b _) r
    · cases h
  dropCredit n L := rfl

theorem balanced_landsAboveMinimum (ed : ℕ) :
    (balanced ed : Balanced A (Ledger A R)).LandsAboveMinimum where
  transfer src dst n p L L' h hne := by
    simp only [balanced, if_neg hne] at h
    split at h
    · rename_i hfits
      cases h
      change ed ≤ (setFree _ dst _ dst).free
      rw [setFree_free, if_pos rfl]
      exact hfits.2
    · cases h
  resolve a n L L' h := by
    simp only [balanced] at h
    split at h
    · rename_i hfits
      cases h
      change ed ≤ (setFree _ a _ a).free
      rw [setFree_free, if_pos rfl]
      exact hfits
    · cases h

theorem system_keepsReserved (ed : ℕ) (b : A) (L : Ledger A R) (a : A) :
    ((system ed).incProviders b L a).reserved = (L a).reserved := by
  by_cases h : a = b
  · subst h
    simp [system, incProviders]
  · simp [system, incProviders, h]

end Ledger

end Frame
