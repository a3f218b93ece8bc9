import NuloChain.FrameBalances
import Mathlib.Logic.Function.Basic
import Mathlib.Algebra.GroupWithZero.Nat

/-! The supply of a token, and the part of it that is outside one account. Tokens that go into
that account, or are burnt, leave the outside; tokens that come out of it, or are minted, enter
it. Whatever dust rule a token pallet has, no more enters than the operation says, unless the
account itself is emptied of its dust. -/
namespace Frame
set_option linter.unusedSectionVars false
variable {A I Λ : Type}

/-- `fungibles::Inspect`, as far as supplies need it. -/
structure FungiblesInspect (A I Λ : Type) where
  totalIssuance : Λ → I → ℕ
  minimumBalance : Λ → I → ℕ
  balance : Λ → I → A → ℕ

/-- `total_issuance` of a currency: a transfer moves nothing into or out of existence but the
dust that its source loses. -/
structure Currency.ExactIssuance (F : Currency A Λ) (issuance : Λ → ℕ) : Prop where
  still : ∀ src dst n r L L', F.transfer src dst n r L = some L' → n = 0 ∨ src = dst →
    issuance L' = issuance L
  moved : ∀ src dst n L L', F.transfer src dst n .allowDeath L = some L' → n ≠ 0 → src ≠ dst →
    issuance L' + F.freeBalance L src = issuance L + n + F.freeBalance L' src

/-- From `L` to `L'` only asset `i` has changed. -/
def FungiblesInspect.Only (V : FungiblesInspect A I Λ) (i : I) (L L' : Λ) : Prop :=
  ∀ j, j ≠ i → V.totalIssuance L' j = V.totalIssuance L j ∧ ∀ a, V.balance L' j a = V.balance L j a

/-- The operations on assets. A remainder below the minimum is taken along with the amount;
what is burnt leaves the issuance with it. -/
structure Fungibles.ExactSupply (F : Fungibles A I Λ) (V : FungiblesInspect A I Λ) : Prop where
  transfer_dst : ∀ i src dst n L L', F.transfer i src dst n .expendable L = some L' → src ≠ dst →
    V.balance L i dst + n ≤ V.balance L' i dst
  transfer_src : ∀ i src dst n L L', F.transfer i src dst n .expendable L = some L' → src ≠ dst →
    ∃ m, (m = n ∨ (m = V.balance L i src ∧ m < n + V.minimumBalance L i)) ∧
      V.balance L' i src + m = V.balance L i src
  transfer_self : ∀ i a n L L', F.transfer i a a n .expendable L = some L' → ∀ b,
    V.balance L' i b = V.balance L i b
  transfer_issuance : ∀ i src dst n L L', F.transfer i src dst n .expendable L = some L' →
    V.totalIssuance L' i = V.totalIssuance L i ∧ V.Only i L L'
  burn : ∀ i a n L L', F.burnFrom i a n .expendable .exact .polite L = some L' →
    (∃ m, n ≤ m ∧ V.totalIssuance L' i + m = V.totalIssuance L i) ∧
      (∀ b, b ≠ a → V.balance L' i b = V.balance L i b) ∧ V.Only i L L'
  mint : ∀ i a n L L', F.mintInto i a n L = some L' →
    V.totalIssuance L' i = V.totalIssuance L i + n ∧ V.balance L' i a = V.balance L i a + n ∧
      (∀ b, b ≠ a → V.balance L' i b = V.balance L i b) ∧ V.Only i L L'

/-- The tokens of asset `i` that are not on the account `custody`. -/
def FungiblesInspect.outside (V : FungiblesInspect A I Λ) (custody : A) (L : Λ) (i : I) : ℤ :=
  (V.totalIssuance L i : ℤ) - V.balance L i custody

/-- Taking `n` out of `custody` leaves no remainder below the minimum. -/
def FungiblesInspect.Whole (V : FungiblesInspect A I Λ) (custody : A) (L : Λ) (i : I) (n : ℕ) :
    Prop :=
  V.balance L i custody ≤ n ∨ n + V.minimumBalance L i ≤ V.balance L i custody

instance (V : FungiblesInspect A I Λ) (custody : A) (L : Λ) (i : I) (n : ℕ) :
    Decidable (V.Whole custody L i n) :=
  inferInstanceAs (Decidable (_ ∨ _))

section Currency
variable {F : Currency A Λ} {issuance : Λ → ℕ}

/-- What goes into custody is outside no more. -/
theorem Currency.ExactIssuance.into (hI : F.ExactIssuance issuance) (hT : F.ExactTransfers)
    (custody src : A) (n : ℕ) (L L' : Λ) (hsrc : src ≠ custody)
    (h : F.transfer src custody n .allowDeath L = some L') :
    (issuance L' : ℤ) - F.freeBalance L' custody + n ≤ issuance L - F.freeBalance L custody := by
  by_cases hn : n = 0
  · have hsame := hI.still _ _ _ _ _ _ h (Or.inl hn)
    have hfree := hT.still _ _ _ _ _ _ h (Or.inl hn) custody
    omega
  · have hmoved := hI.moved _ _ _ _ _ h hn hsrc
    have hdst := hT.dst _ _ _ _ _ _ h hn hsrc
    obtain ⟨hle, hrest⟩ := hT.src _ _ _ _ _ h hn hsrc
    -- the source has what is left, or nothing if that would be dust
    have hsource : F.freeBalance L' src ≤ F.freeBalance L src - n := by
      rw [hrest]
      split
      · exact Nat.zero_le _
      · exact Nat.le_refl _
    omega

/-- What comes out of custody is outside; its dust, if any, is nowhere. -/
theorem Currency.ExactIssuance.outOf (hI : F.ExactIssuance issuance) (hT : F.ExactTransfers)
    [DecidableEq A] (custody dst : A) (n : ℕ) (L L' : Λ)
    (h : F.transfer custody dst n .allowDeath L = some L') :
    (issuance L' : ℤ) - F.freeBalance L' custody ≤ issuance L - F.freeBalance L custody + n := by
  by_cases hstill : n = 0 ∨ custody = dst
  · have hsame := hI.still _ _ _ _ _ _ h hstill
    have hfree := hT.still _ _ _ _ _ _ h hstill custody
    omega
  · obtain ⟨hn, hdst⟩ := not_or.mp hstill
    have hmoved := hI.moved _ _ _ _ _ h hn hdst
    omega

end Currency

section Assets
variable {F : Fungibles A I Λ} {V : FungiblesInspect A I Λ}

theorem FungiblesInspect.outside_only (custody : A) (i j : I) (L L' : Λ) (h : V.Only i L L')
    (hj : j ≠ i) : V.outside custody L' j = V.outside custody L j := by
  obtain ⟨hissuance, hbalance⟩ := h j hj
  unfold FungiblesInspect.outside
  rw [hissuance, hbalance custody]

theorem Fungibles.ExactSupply.into (hF : F.ExactSupply V) (custody src : A) (i : I) (n : ℕ)
    (L L' : Λ) (hsrc : src ≠ custody)
    (h : F.transfer i src custody n .expendable L = some L') :
    V.outside custody L' i + n ≤ V.outside custody L i := by
  have hdst := hF.transfer_dst i src custody n L L' h hsrc
  obtain ⟨hissuance, -⟩ := hF.transfer_issuance i src custody n L L' h
  unfold FungiblesInspect.outside
  omega

theorem Fungibles.ExactSupply.outOf [DecidableEq A] (hF : F.ExactSupply V) (custody dst : A)
    (i : I) (n : ℕ) (L L' : Λ) (hwhole : V.Whole custody L i n)
    (h : F.transfer i custody dst n .expendable L = some L') :
    V.outside custody L' i ≤ V.outside custody L i + n := by
  obtain ⟨hissuance, -⟩ := hF.transfer_issuance i custody dst n L L' h
  by_cases hself : custody = dst
  · subst hself
    have hsame := hF.transfer_self i custody n L L' h custody
    unfold FungiblesInspect.outside
    omega
  · obtain ⟨m, hexact, hsrc⟩ := hF.transfer_src i custody dst n L L' h hself
    -- what is taken is the amount, or all there is, and then the condition bounds it
    have hm : m ≤ n := by
      rcases hexact with hm | ⟨hall, hlt⟩
      · exact hm.le
      · rcases hwhole with hempty | hkept
        · omega
        · omega
    unfold FungiblesInspect.outside
    omega

theorem Fungibles.ExactSupply.burnt (hF : F.ExactSupply V) (custody src : A) (i : I) (n : ℕ)
    (L L' : Λ) (hsrc : src ≠ custody)
    (h : F.burnFrom i src n .expendable .exact .polite L = some L') :
    V.outside custody L' i + n ≤ V.outside custody L i := by
  obtain ⟨⟨m, hle, hissuance⟩, hother, -⟩ := hF.burn i src n L L' h
  have hcustody := hother custody hsrc.symm
  unfold FungiblesInspect.outside
  omega

theorem Fungibles.ExactSupply.minted [DecidableEq A] (hF : F.ExactSupply V) (custody dst : A)
    (i : I) (n : ℕ) (L L' : Λ) (h : F.mintInto i dst n L = some L') :
    V.outside custody L' i ≤ V.outside custody L i + n := by
  obtain ⟨hissuance, hdst, hother, -⟩ := hF.mint i dst n L L' h
  unfold FungiblesInspect.outside
  by_cases hself : custody = dst
  · rw [hself, hissuance, hdst]
    omega
  · rw [hissuance, hother custody hself]
    omega

end Assets

/-! An executable ledger of assets with these rules. -/

structure AssetLedger (A I : Type) where
  issuance : I → ℕ
  minimum : I → ℕ
  balance : I → A → ℕ
  decimals : I → UInt8

namespace AssetLedger
variable [DecidableEq A] [DecidableEq I]

def view : FungiblesInspect A I (AssetLedger A I) where
  totalIssuance := issuance
  minimumBalance := minimum
  balance := balance

def setBalance (L : AssetLedger A I) (i : I) (a : A) (n : ℕ) : AssetLedger A I :=
  { L with balance := Function.update L.balance i (Function.update (L.balance i) a n) }

def setIssuance (L : AssetLedger A I) (i : I) (n : ℕ) : AssetLedger A I :=
  { L with issuance := Function.update L.issuance i n }

/-- What a debit of `n` takes: a remainder below the minimum goes along. -/
def debit (L : AssetLedger A I) (i : I) (a : A) (n : ℕ) : ℕ :=
  if L.balance i a - n < L.minimum i then L.balance i a else n

def transfer (i : I) (src dst : A) (n : ℕ) (L : AssetLedger A I) : Option (AssetLedger A I) :=
  if n = 0 ∨ src = dst then some L
  else if n ≤ L.balance i src ∧ L.minimum i ≤ L.balance i dst + n then
    -- the destination gets the amount, and a remainder is lost
    some (setBalance (setBalance L i src (L.balance i src - debit L i src n)) i dst
      (L.balance i dst + n))
  else none

def burn (i : I) (a : A) (n : ℕ) (L : AssetLedger A I) : Option (AssetLedger A I) :=
  if n = 0 then some L
  else if n ≤ L.balance i a ∧ L.balance i a ≤ L.issuance i then
    some (setIssuance (setBalance L i a (L.balance i a - debit L i a n)) i
      (L.issuance i - debit L i a n))
  else none

def mint (i : I) (a : A) (n : ℕ) (L : AssetLedger A I) : Option (AssetLedger A I) :=
  if n = 0 then some L
  else if L.minimum i ≤ L.balance i a + n then
    some (setIssuance (setBalance L i a (L.balance i a + n)) i (L.issuance i + n))
  else none

def fungibles : Fungibles A I (AssetLedger A I) where
  decimals := decimals
  transfer i src dst n _ L := transfer i src dst n L
  burnFrom i a n _ _ _ L := burn i a n L
  mintInto := mint

@[simp] theorem setBalance_balance (L : AssetLedger A I) (i j : I) (a b : A) (n : ℕ) :
    (setBalance L i a n).balance j b = if j = i ∧ b = a then n else L.balance j b := by
  unfold setBalance
  by_cases hj : j = i
  · subst hj
    by_cases hb : b = a
    · subst hb
      simp
    · simp [hb]
  · simp [hj]

@[simp] theorem setIssuance_issuance (L : AssetLedger A I) (i j : I) (n : ℕ) :
    (setIssuance L i n).issuance j = if j = i then n else L.issuance j := by
  unfold setIssuance
  by_cases hj : j = i
  · subst hj
    simp
  · simp [hj]

theorem debit_le (L : AssetLedger A I) (i : I) (a : A) (n : ℕ) (hn : n ≤ L.balance i a) :
    n ≤ debit L i a n ∧ debit L i a n ≤ L.balance i a ∧
      (debit L i a n = n ∨
        (debit L i a n = L.balance i a ∧ debit L i a n < n + L.minimum i)) := by
  unfold debit
  split
  · rename_i hdust
    exact ⟨hn, Nat.le_refl _, Or.inr ⟨rfl, by omega⟩⟩
  · exact ⟨Nat.le_refl _, hn, Or.inl rfl⟩

theorem transfer_some (i : I) (src dst : A) (n : ℕ) (L L' : AssetLedger A I)
    (h : transfer i src dst n L = some L') :
    ((n = 0 ∨ src = dst) ∧ L' = L) ∨ (src ≠ dst ∧ n ≤ L.balance i src ∧
      L' = setBalance (setBalance L i src (L.balance i src - debit L i src n)) i dst
        (L.balance i dst + n)) := by
  unfold transfer at h
  split at h
  · rename_i hstill
    exact Or.inl ⟨hstill, (Option.some.inj h).symm⟩
  · rename_i hmoves
    split at h
    · rename_i hfits
      exact Or.inr ⟨(not_or.mp hmoves).2, hfits.1, (Option.some.inj h).symm⟩
    · cases h

/-- Booking a balance together with the issuance of its asset touches nothing else. -/
theorem booked_frame (L : AssetLedger A I) (i : I) (a : A) (m n : ℕ) :
    (∀ b, b ≠ a → view.balance (setIssuance (setBalance L i a m) i n) i b = view.balance L i b) ∧
      view.Only i L (setIssuance (setBalance L i a m) i n) := by
  constructor
  · intro b hb
    change (setBalance L i a m).balance i b = L.balance i b
    simp [hb]
  · intro j hj
    refine ⟨?_, fun b => ?_⟩
    · simp only [view, setIssuance_issuance, hj, if_false]
      rfl
    · change (setBalance L i a m).balance j b = L.balance j b
      simp [hj]

theorem fungibles_exactSupply : (fungibles : Fungibles A I (AssetLedger A I)).ExactSupply view where
  transfer_dst i src dst n L L' h hne := by
    rcases transfer_some i src dst n L L' h with ⟨hzero | hself, rfl⟩ | ⟨-, -, rfl⟩
    · rw [hzero]
      exact Nat.le_refl _
    · exact absurd hself hne
    · simp [view]
  transfer_src i src dst n L L' h hne := by
    rcases transfer_some i src dst n L L' h with ⟨hzero | hself, rfl⟩ | ⟨-, hn, rfl⟩
    · exact ⟨0, Or.inl hzero.symm, rfl⟩
    · exact absurd hself hne
    · obtain ⟨-, hbound, hcases⟩ := debit_le L i src n hn
      refine ⟨debit L i src n, hcases, ?_⟩
      simp only [view, setBalance_balance, hne, and_false, if_false, and_self, if_true]
      omega
  transfer_self i a n L L' h b := by
    rcases transfer_some i a a n L L' h with ⟨-, rfl⟩ | ⟨hne, -⟩
    · rfl
    · exact absurd rfl hne
  transfer_issuance i src dst n L L' h := by
    rcases transfer_some i src dst n L L' h with ⟨-, rfl⟩ | ⟨-, -, rfl⟩
    · exact ⟨rfl, fun j _ => ⟨rfl, fun _ => rfl⟩⟩
    · refine ⟨rfl, fun j hj => ⟨rfl, fun a => ?_⟩⟩
      simp [view, hj]
  burn i a n L L' h := by
    change burn i a n L = some L' at h
    unfold burn at h
    split at h
    · rename_i hzero
      cases h
      exact ⟨⟨0, by omega, rfl⟩, fun _ _ => rfl, fun j _ => ⟨rfl, fun _ => rfl⟩⟩
    · split at h
      · rename_i hfits
        cases h
        obtain ⟨hle, hbound, -⟩ := debit_le L i a n hfits.1
        refine ⟨⟨debit L i a n, hle, ?_⟩, booked_frame L i a _ _⟩
        simp only [view, setIssuance_issuance, if_true]
        omega
      · cases h
  mint i a n L L' h := by
    change mint i a n L = some L' at h
    unfold mint at h
    split at h
    · rename_i hzero
      cases h
      exact ⟨by omega, by omega, fun _ _ => rfl, fun j _ => ⟨rfl, fun _ => rfl⟩⟩
    · split at h
      · cases h
        refine ⟨?_, ?_, booked_frame L i a _ _⟩
        · simp [view]
        · change (setBalance L i a _).balance i a = L.balance i a + n
          simp
      · cases h

/-- No operation touches the decimals. -/
theorem transfer_decimals (i : I) (src dst : A) (n : ℕ) (L L' : AssetLedger A I)
    (h : transfer i src dst n L = some L') : L'.decimals = L.decimals := by
  rcases transfer_some i src dst n L L' h with ⟨-, rfl⟩ | ⟨-, -, rfl⟩
  · rfl
  · rfl

theorem burn_decimals (i : I) (a : A) (n : ℕ) (L L' : AssetLedger A I)
    (h : burn i a n L = some L') : L'.decimals = L.decimals := by
  unfold burn at h
  split at h
  · cases h
    rfl
  · split at h
    · cases h
      rfl
    · cases h

theorem mint_decimals (i : I) (a : A) (n : ℕ) (L L' : AssetLedger A I)
    (h : mint i a n L = some L') : L'.decimals = L.decimals := by
  unfold mint at h
  split at h
  · cases h
    rfl
  · split at h
    · cases h
      rfl
    · cases h

end AssetLedger

/-- A runtime with both kinds of token, which keeps the issuance of its currency. -/
structure Tokens (A R I : Type) where
  ledger : Ledger A R
  issued : ℕ
  assets : AssetLedger A I

namespace Tokens
variable {R : Type} [DecidableEq A] [DecidableEq I] [DecidableEq R]

def view : FungiblesInspect A I (Tokens A R I) where
  totalIssuance L := L.assets.issuance
  minimumBalance L := L.assets.minimum
  balance L := L.assets.balance

/-- Dust that a transfer removes leaves the issuance as well. -/
def currency (ed : ℕ) : Currency A (Tokens A R I) where
  minimumBalance := ed
  freeBalance L a := (L.ledger a).free
  reservedBalance L a := (L.ledger a).reserved
  transfer src dst n requirement L :=
    ((Ledger.currency ed).transfer src dst n requirement L.ledger).bind fun ledger =>
      let dust := (L.ledger src).free - n - (ledger src).free
      if n = 0 ∨ src = dst then some { L with ledger := ledger }
      else if dust ≤ L.issued then some { L with ledger := ledger, issued := L.issued - dust }
      else none

def fungibles : Fungibles A I (Tokens A R I) where
  decimals L := L.assets.decimals
  transfer i src dst n _ L :=
    (AssetLedger.transfer i src dst n L.assets).map fun assets => { L with assets := assets }
  burnFrom i a n _ _ _ L :=
    (AssetLedger.burn i a n L.assets).map fun assets => { L with assets := assets }
  mintInto i a n L :=
    (AssetLedger.mint i a n L.assets).map fun assets => { L with assets := assets }

theorem currency_transfer (ed : ℕ) (src dst : A) (n : ℕ) (requirement : ExistenceRequirement)
    (L L' : Tokens A R I) (h : (currency ed).transfer src dst n requirement L = some L') :
    (Ledger.currency ed).transfer src dst n requirement L.ledger = some L'.ledger ∧
      L'.assets = L.assets ∧
      (if n = 0 ∨ src = dst then L'.issued = L.issued
        else L'.issued + ((L.ledger src).free - n - (L'.ledger src).free) = L.issued) := by
  obtain ⟨ledger, hledger, h⟩ := Option.bind_eq_some_iff.mp h
  dsimp only at h
  split at h
  · rename_i hstill
    cases h
    exact ⟨hledger, rfl, by rw [if_pos hstill]⟩
  · rename_i hmoves
    split at h
    · rename_i hdust
      cases h
      refine ⟨hledger, rfl, ?_⟩
      rw [if_neg hmoves]
      exact Nat.sub_add_cancel hdust
    · cases h

theorem currency_exactTransfers (ed : ℕ) :
    (currency ed : Currency A (Tokens A R I)).ExactTransfers where
  still src dst n r _ _ h hstill a :=
    (Ledger.currency_exactTransfers ed).still src dst n r _ _ (currency_transfer ed _ _ _ _ _ _ h).1
      hstill a
  src src dst n _ _ h hn hne :=
    (Ledger.currency_exactTransfers ed).src src dst n _ _ (currency_transfer ed _ _ _ _ _ _ h).1
      hn hne
  dst src dst n r _ _ h hn hne :=
    (Ledger.currency_exactTransfers ed).dst src dst n r _ _ (currency_transfer ed _ _ _ _ _ _ h).1
      hn hne

theorem currency_exactIssuance (ed : ℕ) :
    (currency ed : Currency A (Tokens A R I)).ExactIssuance issued where
  still src dst n r L L' h hstill := by
    obtain ⟨-, -, hissued⟩ := currency_transfer ed src dst n r L L' h
    rw [if_pos hstill] at hissued
    exact hissued
  moved src dst n L L' h hn hne := by
    obtain ⟨-, -, hissued⟩ := currency_transfer ed src dst n _ L L' h
    rw [if_neg (not_or.mpr ⟨hn, hne⟩)] at hissued
    obtain ⟨hle, hrest⟩ := (currency_exactTransfers ed).src src dst n L L' h hn hne
    have hkept : (currency ed).freeBalance L' src ≤ (currency ed).freeBalance L src - n := by
      rw [hrest]
      split
      · exact Nat.zero_le _
      · exact Nat.le_refl _
    change L'.issued + (L.ledger src).free = L.issued + n + (L'.ledger src).free
    change (L'.ledger src).free ≤ (L.ledger src).free - n at hkept
    change n ≤ (L.ledger src).free at hle
    omega

theorem fungibles_exactSupply : (fungibles : Fungibles A I (Tokens A R I)).ExactSupply view where
  transfer_dst i src dst n L L' h hne := by
    obtain ⟨assets, hassets, rfl⟩ := Option.map_eq_some_iff.mp h
    exact AssetLedger.fungibles_exactSupply.transfer_dst i src dst n _ _ hassets hne
  transfer_src i src dst n L L' h hne := by
    obtain ⟨assets, hassets, rfl⟩ := Option.map_eq_some_iff.mp h
    exact AssetLedger.fungibles_exactSupply.transfer_src i src dst n _ _ hassets hne
  transfer_self i a n L L' h b := by
    obtain ⟨assets, hassets, rfl⟩ := Option.map_eq_some_iff.mp h
    exact AssetLedger.fungibles_exactSupply.transfer_self i a n _ _ hassets b
  transfer_issuance i src dst n L L' h := by
    obtain ⟨assets, hassets, rfl⟩ := Option.map_eq_some_iff.mp h
    exact AssetLedger.fungibles_exactSupply.transfer_issuance i src dst n _ _ hassets
  burn i a n L L' h := by
    obtain ⟨assets, hassets, rfl⟩ := Option.map_eq_some_iff.mp h
    exact AssetLedger.fungibles_exactSupply.burn i a n _ _ hassets
  mint i a n L L' h := by
    obtain ⟨assets, hassets, rfl⟩ := Option.map_eq_some_iff.mp h
    exact AssetLedger.fungibles_exactSupply.mint i a n _ _ hassets

end Tokens
end Frame
