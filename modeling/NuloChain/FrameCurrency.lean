import Mathlib.Tactic.Common
import Mathlib.Algebra.BigOperators.Group.Finset.Basic

/-! The account and currency interfaces that pallets are generic over. `Λ` is the
storage behind them; every operation fails as a whole or returns the new `Λ`. -/
namespace Frame

inductive Precision | exact | bestEffort
  deriving DecidableEq, Repr

inductive Preservation | expendable | protect | preserve
  deriving DecidableEq, Repr

inductive Fortitude | polite | force
  deriving DecidableEq, Repr

inductive Restriction | free | onHold
  deriving DecidableEq, Repr

/-- The account records and the provider reference counter of `frame_system`. -/
structure FrameSystem (A Λ : Type) where
  accountExists : Λ → A → Bool
  providers : Λ → A → ℕ
  incProviders : A → Λ → Λ
  decProviders : A → Λ → Option Λ

/-- `fungible::Inspect`. -/
structure Inspect (A Λ : Type) where
  minimumBalance : ℕ
  balance : Λ → A → ℕ
  reducibleBalance : Λ → A → Preservation → Fortitude → ℕ

/-- `fungible::InspectHold` and `fungible::MutateHold`. -/
structure MutateHold (A R Λ : Type) extends Inspect A Λ where
  balanceOnHold : Λ → R → A → ℕ
  holdAvailable : Λ → R → A → Bool
  transferAndHold : R → A → A → ℕ → Precision → Preservation → Fortitude → Λ → Option Λ
  hold : R → A → ℕ → Λ → Option Λ
  transferOnHold : R → A → A → ℕ → Precision → Restriction → Fortitude → Λ → Option Λ
  release : R → A → ℕ → Precision → Λ → Option Λ

/-- `fungible::Mutate` and `fungible::Balanced`. A withdrawal returns the credit it took;
`resolve` deposits a credit and `dropCredit` is the drop handler of one. -/
structure Balanced (A Λ : Type) extends Inspect A Λ where
  totalBalanceOnHold : Λ → A → ℕ
  canWithdraw : Λ → A → ℕ → Bool
  transfer : A → A → ℕ → Preservation → Λ → Option Λ
  withdraw : A → ℕ → Precision → Preservation → Fortitude → Λ → Option (ℕ × Λ)
  resolve : A → ℕ → Λ → Option Λ
  dropCredit : ℕ → Λ → Λ

inductive ExistenceRequirement | keepAlive | allowDeath
  deriving DecidableEq, Repr

/-- `traits::Currency`, as far as a transfer needs it. -/
structure Currency (A Λ : Type) where
  minimumBalance : ℕ
  freeBalance : Λ → A → ℕ
  reservedBalance : Λ → A → ℕ
  transfer : A → A → ℕ → ExistenceRequirement → Λ → Option Λ

/-- `fungibles::Mutate` and `fungibles::metadata::Inspect`. -/
structure Fungibles (A I Λ : Type) where
  decimals : Λ → I → UInt8
  transfer : I → A → A → ℕ → Preservation → Λ → Option Λ
  burnFrom : I → A → ℕ → Preservation → Precision → Fortitude → Λ → Option Λ
  mintInto : I → A → ℕ → Λ → Option Λ

variable {A R Λ : Type}

section
variable [DecidableEq A] [DecidableEq R]

/-- One if `p`, else zero: the share of a counter that a condition accounts for. -/
def one (p : Prop) [Decidable p] : ℕ := if p then 1 else 0

/-- What is left of the free balance `n` of `a`: a remainder below the minimum with nothing
on hold is removed as dust. -/
def Balanced.afterDust (F : Balanced A Λ) (L : Λ) (a : A) (n : ℕ) : ℕ :=
  if n < F.minimumBalance ∧ F.totalBalanceOnHold L a = 0 then 0 else n

/-- An `Exact` hold operation moves exactly the amount on one reason of one account. -/
structure MutateHold.ExactHolds (F : MutateHold A R Λ) : Prop where
  transferAndHold : ∀ r src dst n p f L L',
    F.transferAndHold r src dst n .exact p f L = some L' → ∀ r' a,
      F.balanceOnHold L' r' a = F.balanceOnHold L r' a + if r' = r ∧ a = dst then n else 0
  hold : ∀ r who n L L', F.hold r who n L = some L' → ∀ r' a,
    F.balanceOnHold L' r' a = F.balanceOnHold L r' a + if r' = r ∧ a = who then n else 0
  transferOnHold : ∀ r src dst n f L L',
    F.transferOnHold r src dst n .exact .free f L = some L' → ∀ r' a,
      F.balanceOnHold L' r' a + (if r' = r ∧ a = src then n else 0) = F.balanceOnHold L r' a
  release : ∀ r who n L L', F.release r who n .exact L = some L' → ∀ r' a,
    F.balanceOnHold L' r' a + (if r' = r ∧ a = who then n else 0) = F.balanceOnHold L r' a

/-- Taking `n` off the holds of `a` leaves its free balance out of reach of the dust rule: there
is none, or the minimum, or still something on hold. -/
def Inspect.StaysClear (F : Inspect A Λ) (totalOnHold : Λ → A → ℕ) (L : Λ) (a : A) (n : ℕ) : Prop :=
  F.balance L a = 0 ∨ F.minimumBalance ≤ F.balance L a ∨ n < totalOnHold L a

/-- What comes off hold arrives at one free balance; but for dust, which an account can lose with
its last hold, every balance is otherwise as it was. -/
structure MutateHold.ExactReturns (F : MutateHold A R Λ) (totalOnHold : Λ → A → ℕ) : Prop where
  transferOnHold : ∀ r src dst n L L',
    F.transferOnHold r src dst n .exact .free .polite L = some L' → ∀ a,
      a ≠ src ∨ F.StaysClear totalOnHold L a n →
        F.balance L' a = F.balance L a + if a = dst then n else 0
  arrives : ∀ r src dst n L L',
    F.transferOnHold r src dst n .exact .free .polite L = some L' → n ≤ F.balance L' dst
  release : ∀ r who n L L', F.release r who n .exact L = some L' → ∀ a,
    a ≠ who ∨ F.StaysClear totalOnHold L a n →
      F.balance L' a = F.balance L a + if a = who then n else 0

/-- What goes on hold leaves one free balance. A transfer into a hold preserves the account it
comes from; a hold of one's own funds may leave dust if it leaves less than the minimum. -/
structure MutateHold.ExactBalances (F : MutateHold A R Λ) (totalOnHold : Λ → A → ℕ) : Prop
    extends F.ExactReturns totalOnHold where
  transferAndHold : ∀ r src dst n L L',
    F.transferAndHold r src dst n .exact .preserve .polite L = some L' → ∀ a,
      F.balance L' a + (if a = src then n else 0) = F.balance L a
  hold_le : ∀ r who n L L', F.hold r who n L = some L' → ∀ a,
    F.balance L' a + (if a = who then n else 0) ≤ F.balance L a
  hold : ∀ r who n L L', F.hold r who n L = some L' → ∀ a,
    a ≠ who ∨ F.minimumBalance + n ≤ F.balance L a →
      F.balance L' a + (if a = who then n else 0) = F.balance L a

/-- What goes on hold under one reason goes into the total on hold as well. -/
structure MutateHold.ExactTotals (F : MutateHold A R Λ) (totalOnHold : Λ → A → ℕ) : Prop where
  transferAndHold : ∀ r src dst n p f L L',
    F.transferAndHold r src dst n .exact p f L = some L' → ∀ a,
      totalOnHold L' a = totalOnHold L a + if a = dst then n else 0
  hold : ∀ r who n L L', F.hold r who n L = some L' → ∀ a,
    totalOnHold L' a = totalOnHold L a + if a = who then n else 0

/-- The state in which a currency keeps its accounts: there is no dust, and the free and the
held funds of all accounts together fit the balance type, as the issuance does. -/
structure MutateHold.Settled (F : MutateHold A R Λ) (totalOnHold : Λ → A → ℕ) (balanceMax : ℕ)
    (L : Λ) : Prop where
  clear : ∀ a, F.StaysClear totalOnHold L a 0
  issued : ∀ r (accounts : Finset A),
    ∑ a ∈ accounts, (F.balance L a + F.balanceOnHold L r a) ≤ balanceMax

/-- The part of a free balance that a polite withdrawal may take while it preserves the account:
all but the minimum or what is frozen beyond the holds, whichever is more. -/
def Inspect.ReducibleAbove (F : Inspect A Λ) (frozen held : Λ → A → ℕ) : Prop :=
  ∀ L a, F.reducibleBalance L a .preserve .polite =
    F.balance L a - max F.minimumBalance (frozen L a - held L a)

/-- The only grounds on which funds are kept on hold: less is held than asked for, the
freezes beyond the free balance cover it, or the destination cannot take the deposit. -/
structure MutateHold.Returnable (F : MutateHold A R Λ) (frozen totalOnHold : Λ → A → ℕ)
    (balanceMax : ℕ) : Prop where
  transferOnHold : ∀ r src dst n L, n ≤ F.balanceOnHold L r src →
    n ≤ totalOnHold L src - (frozen L src - F.balance L src) →
    F.minimumBalance ≤ n → F.balance L dst + n ≤ balanceMax →
    ∃ L', F.transferOnHold r src dst n .exact .free .polite L = some L'
  release : ∀ r who n L, n ≤ F.balanceOnHold L r who → F.minimumBalance ≤ F.balance L who + n →
    F.balance L who + n ≤ balanceMax → ∃ L', F.release r who n .exact L = some L'

/-- A transfer or withdrawal takes exactly the amount, and then the dust; a deposit adds
exactly the amount. Other accounts are left alone. -/
structure Balanced.ExactMoves (F : Balanced A Λ) : Prop where
  transfer_src : ∀ src dst n p L L', F.transfer src dst n p L = some L' → src ≠ dst →
    n ≤ F.balance L src ∧ F.balance L' src = F.afterDust L src (F.balance L src - n)
  transfer_dst : ∀ src dst n p L L', F.transfer src dst n p L = some L' → src ≠ dst →
    F.balance L' dst = F.balance L dst + n
  transfer_other : ∀ src dst n p L L', F.transfer src dst n p L = some L' →
    ∀ a, a ≠ src → a ≠ dst → F.balance L' a = F.balance L a
  withdraw : ∀ a n p f L c L', F.withdraw a n .exact p f L = some (c, L') →
    c = n ∧ n ≤ F.balance L a ∧ F.balance L' a = F.afterDust L a (F.balance L a - n)
  withdraw_other : ∀ a n p f L c L', F.withdraw a n .exact p f L = some (c, L') →
    ∀ b, b ≠ a → F.balance L' b = F.balance L b
  resolve : ∀ a n L L', F.resolve a n L = some L' → F.balance L' a = F.balance L a + n
  resolve_other : ∀ a n L L', F.resolve a n L = some L' → ∀ b, b ≠ a →
    F.balance L' b = F.balance L b
  dropCredit : ∀ n L a, F.balance (F.dropCredit n L) a = F.balance L a

/-- When a currency lets an amount go: `can_withdraw` and a preserving withdrawal leave the
minimum and what is frozen beyond the holds, an expendable one takes the reducible balance.
A withdrawal leaves the other accounts as they are. -/
structure Balanced.Liquidity (F : Balanced A Λ) (frozen : Λ → A → ℕ) : Prop where
  canWithdraw : ∀ L a n, n ≠ 0 → (F.canWithdraw L a n = true ↔ n ≤ F.balance L a ∧
    F.minimumBalance ≤ F.balance L a - n ∧
    frozen L a - F.totalBalanceOnHold L a ≤ F.balance L a - n)
  preserve : ∀ L a n, (F.withdraw a n .exact .preserve .polite L).isSome = true ↔
    n ≤ F.balance L a - max F.minimumBalance (frozen L a - F.totalBalanceOnHold L a)
  expendable : ∀ L a n, (F.withdraw a n .exact .expendable .polite L).isSome = true ↔
    n ≤ F.reducibleBalance L a .expendable .polite
  untouched : ∀ a n p f L c L', F.withdraw a n .exact p f L = some (c, L') → ∀ b, b ≠ a →
    F.balance L' b = F.balance L b ∧ frozen L' b = frozen L b ∧
      F.totalBalanceOnHold L' b = F.totalBalanceOnHold L b

/-- What `can_withdraw` promises is still there after a withdrawal from another account. -/
def Balanced.HonoursChecks (F : Balanced A Λ) : Prop :=
  ∀ who n L, n ≠ 0 → F.canWithdraw L who n = true → ∀ a m p f c L', who ≠ a →
    F.withdraw a m .exact p f L = some (c, L') →
    (F.withdraw who n .exact .preserve .polite L').isSome = true

/-- A deposit that does not overflow is refused exactly if it would leave less than the
minimum. -/
def Balanced.DepositsAboveMinimum (F : Balanced A Λ) (balanceMax : ℕ) : Prop :=
  ∀ a n L, F.balance L a + n ≤ balanceMax →
    ((F.resolve a n L).isSome = true ↔ F.minimumBalance ≤ F.balance L a + n)

/-- A transfer between two accounts moves exactly the amount; a remainder strictly between
zero and the minimum, with nothing reserved, is removed from the source as dust. A transfer
of nothing, or of an account to itself, changes no balance. -/
structure Currency.ExactTransfers (F : Currency A Λ) : Prop where
  still : ∀ src dst n r L L', F.transfer src dst n r L = some L' → n = 0 ∨ src = dst →
    ∀ a, F.freeBalance L' a = F.freeBalance L a
  src : ∀ src dst n L L', F.transfer src dst n .allowDeath L = some L' → n ≠ 0 → src ≠ dst →
    n ≤ F.freeBalance L src ∧ F.freeBalance L' src =
      if F.freeBalance L src - n < F.minimumBalance ∧ F.reservedBalance L src = 0 then 0
      else F.freeBalance L src - n
  dst : ∀ src dst n r L L', F.transfer src dst n r L = some L' → n ≠ 0 → src ≠ dst →
    F.freeBalance L' dst = F.freeBalance L dst + n

/-- Reference counting leaves free and held balances alone. -/
structure FrameSystem.KeepsFunds (S : FrameSystem A Λ) (F : MutateHold A R Λ) : Prop where
  inc_hold : ∀ b L r a, F.balanceOnHold (S.incProviders b L) r a = F.balanceOnHold L r a
  inc_balance : ∀ b L a, F.balance (S.incProviders b L) a = F.balance L a
  dec_hold : ∀ b L L', S.decProviders b L = some L' → ∀ r a,
    F.balanceOnHold L' r a = F.balanceOnHold L r a
  dec_balance : ∀ b L L', S.decProviders b L = some L' → ∀ a, F.balance L' a = F.balance L a

/-- Adding a provider reference leaves free balances alone. -/
def FrameSystem.KeepsBalances (S : FrameSystem A Λ) (F : Inspect A Λ) : Prop :=
  ∀ b L a, F.balance (S.incProviders b L) a = F.balance L a

/-- The counter moves by one on the named account only. -/
structure FrameSystem.Counts (S : FrameSystem A Λ) : Prop where
  inc : ∀ b L a, S.providers (S.incProviders b L) a = S.providers L a + one (a = b)
  dec : ∀ b L L', S.decProviders b L = some L' → ∀ a,
    S.providers L' a = S.providers L a - one (a = b)

/-- Of two provider references one is always let go. -/
def FrameSystem.ReleasesSpare (S : FrameSystem A Λ) : Prop :=
  ∀ b L, 2 ≤ S.providers L b → (S.decProviders b L).isSome = true

/-- From `L` to `L'` the provider counter of each account changed by the currency's own
reference, which it holds exactly while the free balance is at least the minimum. -/
def OwnReference (S : FrameSystem A Λ) (F : MutateHold A R Λ) (L L' : Λ) : Prop :=
  ∀ a, S.providers L' a + one (F.minimumBalance ≤ F.balance L a) =
    S.providers L a + one (F.minimumBalance ≤ F.balance L' a)

/-- Hold operations touch no provider reference but the currency's own. -/
structure MutateHold.OwnReferences (F : MutateHold A R Λ) (S : FrameSystem A Λ) : Prop where
  transferAndHold : ∀ r src dst n p q f L L',
    F.transferAndHold r src dst n p q f L = some L' → OwnReference S F L L'
  hold : ∀ r who n L L', F.hold r who n L = some L' → OwnReference S F L L'
  transferOnHold : ∀ r src dst n p m f L L',
    F.transferOnHold r src dst n p m f L = some L' → OwnReference S F L L'
  release : ∀ r who n p L L', F.release r who n p L = some L' → OwnReference S F L L'

/-- Taking funds off hold touches no consumer reference but the currency's own, which it has on an
account while something is on hold there or frozen. -/
structure MutateHold.OwnConsumers (F : MutateHold A R Λ) (consumers frozen totalOnHold : Λ → A → ℕ) :
    Prop where
  transferOnHold : ∀ r src dst n L L',
    F.transferOnHold r src dst n .exact .free .polite L = some L' → ∀ a,
      consumers L' a + one (0 < totalOnHold L a ∨ 0 < frozen L a) =
        consumers L a + one (0 < totalOnHold L' a ∨ 0 < frozen L a)
  release : ∀ r who n L L', F.release r who n .exact L = some L' → ∀ a,
    consumers L' a + one (0 < totalOnHold L a ∨ 0 < frozen L a) =
      consumers L a + one (0 < totalOnHold L' a ∨ 0 < frozen L a)

/-- A provider reference that is not the currency's own is kept back only if it is the last one
and something still consumes the account. -/
def FrameSystem.RefusesLast (S : FrameSystem A Λ) (F : Inspect A Λ) (consumers : Λ → A → ℕ) : Prop :=
  ∀ b L, one (F.minimumBalance ≤ F.balance L b) < S.providers L b → S.decProviders b L = none →
    S.providers L b = 1 ∧ 0 < consumers L b

end

/-- For a nonzero amount the check and the withdrawal it stands for agree. -/
theorem Balanced.Liquidity.check_iff {F : Balanced A Λ} {frozen : Λ → A → ℕ}
    (h : F.Liquidity frozen) (L : Λ) (a : A) (n : ℕ) (hn : n ≠ 0) :
    F.canWithdraw L a n = true ↔ (F.withdraw a n .exact .preserve .polite L).isSome = true := by
  rw [h.canWithdraw L a n hn, h.preserve L a n]
  omega

theorem Balanced.Liquidity.honoursChecks {F : Balanced A Λ} {frozen : Λ → A → ℕ}
    (h : F.Liquidity frozen) : F.HonoursChecks := by
  intro who n L hn hcan a m p f c L' hne hw
  obtain ⟨hbalance, hfrozen, hheld⟩ := h.untouched a m p f L c L' hw who hne
  have hsome := (h.preserve L who n).mp ((h.check_iff L who n hn).mp hcan)
  rw [h.preserve L' who n, hbalance, hfrozen, hheld]
  exact hsome

end Frame
