import NuloChain.FrameCurrency
import Mathlib.Logic.Function.Basic
import Mathlib.Algebra.BigOperators.Group.Finset.Piecewise
import Mathlib.Algebra.GroupWithZero.Nat
import Mathlib.Algebra.Order.BigOperators.Group.Finset

/-! A small executable ledger with the documented account rules: an existential deposit,
freezes that overlap holds, provider and consumer references and the removal of dust. It shows that the
laws assumed of a currency can be met together, and runs the concrete histories. -/
namespace Frame
set_option linter.unusedSectionVars false

/-- Account data. The provider reference that a free balance of at least the existential
deposit gives is not stored, and neither is the consumer reference that a hold or a freeze takes:
`others` and `consumers` count the references of everybody else. -/
structure Account (R : Type) where
  free : ℕ
  frozen : ℕ
  reserved : ℕ
  held : R → ℕ
  others : ℕ
  consumers : ℕ

abbrev Ledger (A R : Type) := A → Account R

/-- `frame_system::RawOrigin`. -/
inductive RawOrigin (A : Type)
  | root
  | signed (who : A)
  | none
  deriving DecidableEq, Repr

namespace RawOrigin
variable {A : Type}

def ensureSigned : RawOrigin A → Option A
  | .signed who => some who
  | _ => Option.none

def isRoot : RawOrigin A → Bool
  | .root => true
  | _ => false

end RawOrigin

namespace Ledger
variable {A R : Type} [DecidableEq A] [DecidableEq R]

def vacant : Ledger A R := fun _ => ⟨0, 0, 0, fun _ => 0, 0, 0⟩

/-- The ledger with the given free balances and nothing else. -/
def endowed (balances : List (A × ℕ)) : Ledger A R :=
  fun a => { vacant a with free := (balances.lookup a).getD 0 }

def providers (ed : ℕ) (L : Ledger A R) (a : A) : ℕ := (L a).others + one (ed ≤ (L a).free)

def incProviders (a : A) (L : Ledger A R) : Ledger A R :=
  Function.update L a { L a with others := (L a).others + 1 }

/-- The last provider stays while a hold, a freeze or another pallet still consumes it. -/
def decProviders (ed : ℕ) (a : A) (L : Ledger A R) : Option (Ledger A R) :=
  if (L a).others = 0 ∨
      (providers ed L a = 1 ∧ (0 < (L a).consumers ∨ 0 < (L a).reserved ∨ 0 < (L a).frozen)) then
    none
  else
    some (Function.update L a { L a with others := (L a).others - 1 })

def system (ed : ℕ) : FrameSystem A (Ledger A R) where
  accountExists L a := 0 < providers ed L a
  providers := providers ed
  incProviders := incProviders
  decProviders := decProviders ed

def reducibleBalance (ed : ℕ) (L : Ledger A R) (a : A) (p : Preservation) (f : Fortitude) : ℕ :=
  let untouchable := match f with
    | .polite => (L a).frozen - (L a).reserved
    | .force => 0
  match p with
  | .preserve => (L a).free - max untouchable ed
  | .protect => (L a).free - if providers ed L a = 1 then max untouchable ed else untouchable
  | .expendable => (L a).free -
      if providers ed L a ≤ 1 ∧ 0 < (L a).consumers + (L a).reserved + (L a).frozen then
        max untouchable ed
      else untouchable

def inspect (ed : ℕ) : Inspect A (Ledger A R) where
  minimumBalance := ed
  balance L a := (L a).free
  reducibleBalance := reducibleBalance ed

def setFree (L : Ledger A R) (a : A) (n : ℕ) : Ledger A R :=
  Function.update L a { L a with free := n }

def addHeld (L : Ledger A R) (r : R) (a : A) (n : ℕ) : Ledger A R :=
  Function.update L a { L a with
    reserved := (L a).reserved + n
    held := Function.update (L a).held r ((L a).held r + n) }

def subHeld (L : Ledger A R) (r : R) (a : A) (n : ℕ) : Ledger A R :=
  Function.update L a { L a with
    reserved := (L a).reserved - n
    held := Function.update (L a).held r ((L a).held r - n) }

/-- A free balance strictly between zero and the deposit, with nothing on hold, is dust. -/
def afterDust (ed : ℕ) (L : Ledger A R) (a : A) (n : ℕ) : ℕ :=
  if n < ed ∧ (L a).reserved = 0 then 0 else n

/-- What is left of the free balance of `a` after `n` is taken from it. -/
def debited (ed : ℕ) (L : Ledger A R) (a : A) (n : ℕ) : ℕ :=
  if n = 0 then (L a).free else afterDust ed L a ((L a).free - n)

/-- The dust of `a` is removed, as it is when the last hold goes. -/
def dusted (ed : ℕ) (L : Ledger A R) (a : A) : Ledger A R :=
  setFree L a (afterDust ed L a (L a).free)

/-- The storage after `n` has come off a hold of `src`, `m` of which goes to the free balance of
`dst`. -/
def returned (ed : ℕ) (L : Ledger A R) (r : R) (src dst : A) (n m : ℕ) : Ledger A R :=
  let rest := dusted ed (subHeld L r src n) src
  setFree rest dst ((rest dst).free + m)

/-- `frame_system::Config::MaxConsumers`. -/
def maxConsumers : ℕ := 16

/-- The consumer reference of a hold on `a` is there already, or there is room for it. -/
def hasRoom (L : Ledger A R) (a : A) : Bool :=
  0 < (L a).reserved ∨ 0 < (L a).frozen ∨ (L a).consumers < maxConsumers

def holds (ed : ℕ) : MutateHold A R (Ledger A R) where
  toInspect := inspect ed
  balanceOnHold L r a := (L a).held r
  holdAvailable L _ a := 0 < providers ed L a
  transferAndHold r src dst n _ p f L :=
    if 0 < providers ed L dst ∧ n ≤ reducibleBalance ed L src p f ∧ n ≤ (L src).free ∧
        (n = 0 ∨ hasRoom L dst = true) then
      some (addHeld (setFree L src (debited ed L src n)) r dst n)
    else none
  hold r who n L :=
    if 0 < providers ed L who ∧ n ≤ reducibleBalance ed L who .protect .force ∧
        n ≤ (L who).free ∧ (n = 0 ∨ hasRoom L who = true) then
      some (addHeld (setFree L who (debited ed L who n)) r who n)
    else none
  transferOnHold r src dst n _ _ _ L :=
    if n ≤ (L src).held r ∧ n ≤ (L src).reserved - ((L src).frozen - (L src).free) ∧
        ed ≤ (dusted ed (subHeld L r src n) src dst).free + n then
      some (returned ed L r src dst n n)
    else none
  release r who n _ L :=
    if n ≤ (L who).held r ∧ ed ≤ (L who).free + n then
      -- the deposit was checked before the dust went; now it is made as far as it can be
      if ed ≤ (dusted ed (subHeld L r who n) who who).free + n then
        some (returned ed L r who who n n)
      else some (returned ed L r who who n 0)
    else none

def balanced (ed : ℕ) : Balanced A (Ledger A R) where
  toInspect := inspect ed
  totalBalanceOnHold L a := (L a).reserved
  canWithdraw L a n := n ≤ (L a).free - max ed ((L a).frozen - (L a).reserved)
  transfer src dst n p L :=
    if src = dst then some L
    else if n ≤ reducibleBalance ed L src p .polite ∧ ed ≤ (L dst).free + n then
      some (setFree (setFree L src (afterDust ed L src ((L src).free - n))) dst ((L dst).free + n))
    else none
  withdraw a n _ p f L :=
    if n ≤ reducibleBalance ed L a p f then
      some (n, setFree L a (afterDust ed L a ((L a).free - n)))
    else none
  resolve a n L := if ed ≤ (L a).free + n then some (setFree L a ((L a).free + n)) else none
  dropCredit _ L := L

theorem holds_transferAndHold (ed : ℕ) (r : R) (src dst : A) (n : ℕ) (p : Precision)
    (q : Preservation) (f : Fortitude) (L L' : Ledger A R)
    (h : (holds ed).transferAndHold r src dst n p q f L = some L') :
    n ≤ reducibleBalance ed L src q f ∧ n ≤ (L src).free ∧
      L' = addHeld (setFree L src (debited ed L src n)) r dst n := by
  simp only [holds] at h
  split at h
  · rename_i hc
    exact ⟨hc.2.1, hc.2.2.1, (Option.some.inj h).symm⟩
  · cases h

theorem holds_hold (ed : ℕ) (r : R) (who : A) (n : ℕ) (L L' : Ledger A R)
    (h : (holds ed).hold r who n L = some L') :
    n ≤ (L who).free ∧ L' = addHeld (setFree L who (debited ed L who n)) r who n := by
  simp only [holds] at h
  split at h
  · rename_i hc
    exact ⟨hc.2.2.1, (Option.some.inj h).symm⟩
  · cases h

theorem holds_transferOnHold (ed : ℕ) (r : R) (src dst : A) (n : ℕ) (p : Precision)
    (m : Restriction) (f : Fortitude) (L L' : Ledger A R)
    (h : (holds ed).transferOnHold r src dst n p m f L = some L') :
    n ≤ (L src).held r ∧ n ≤ (L src).reserved - ((L src).frozen - (L src).free) ∧
      L' = returned ed L r src dst n n := by
  simp only [holds] at h
  split at h
  · rename_i hc
    exact ⟨hc.1, hc.2.1, (Option.some.inj h).symm⟩
  · cases h

theorem holds_release (ed : ℕ) (r : R) (who : A) (n : ℕ) (p : Precision) (L L' : Ledger A R)
    (h : (holds ed).release r who n p L = some L') :
    n ≤ (L who).held r ∧ ed ≤ (L who).free + n ∧ ∃ m, m ≤ n ∧
      (ed ≤ (dusted ed (subHeld L r who n) who who).free + n → m = n) ∧
      L' = returned ed L r who who n m := by
  simp only [holds] at h
  split at h
  · rename_i hc
    refine ⟨hc.1, hc.2, ?_⟩
    split at h
    · exact ⟨n, le_refl n, fun _ => rfl, (Option.some.inj h).symm⟩
    · rename_i hbelow
      exact ⟨0, Nat.zero_le n, fun h => absurd h hbelow, (Option.some.inj h).symm⟩
  · cases h

@[simp] theorem setFree_free (L : Ledger A R) (a b : A) (n : ℕ) :
    (setFree L a n b).free = if b = a then n else (L b).free := by
  by_cases h : b = a
  · subst h
    simp [setFree]
  · simp [setFree, h]

@[simp] theorem setFree_held (L : Ledger A R) (a b : A) (n : ℕ) :
    (setFree L a n b).held = (L b).held := by
  by_cases h : b = a
  · subst h
    simp [setFree]
  · simp [setFree, h]

@[simp] theorem setFree_others (L : Ledger A R) (a b : A) (n : ℕ) :
    (setFree L a n b).others = (L b).others := by
  by_cases h : b = a
  · subst h
    simp [setFree]
  · simp [setFree, h]

@[simp] theorem addHeld_others (L : Ledger A R) (r : R) (a b : A) (n : ℕ) :
    (addHeld L r a n b).others = (L b).others := by
  by_cases h : b = a
  · subst h
    simp [addHeld]
  · simp [addHeld, h]

@[simp] theorem subHeld_others (L : Ledger A R) (r : R) (a b : A) (n : ℕ) :
    (subHeld L r a n b).others = (L b).others := by
  by_cases h : b = a
  · subst h
    simp [subHeld]
  · simp [subHeld, h]

theorem addHeld_held (L : Ledger A R) (r : R) (a : A) (n : ℕ) (r' : R) (b : A) :
    (addHeld L r a n b).held r' = (L b).held r' + if r' = r ∧ b = a then n else 0 := by
  by_cases h : b = a
  · subst h
    by_cases hr : r' = r
    · subst hr
      simp [addHeld]
    · simp [addHeld, hr]
  · simp [addHeld, h]

theorem subHeld_held (L : Ledger A R) (r : R) (a : A) (n : ℕ) (hn : n ≤ (L a).held r) (r' : R)
    (b : A) :
    (subHeld L r a n b).held r' + (if r' = r ∧ b = a then n else 0) = (L b).held r' := by
  by_cases h : b = a
  · subst h
    by_cases hr : r' = r
    · subst hr
      simp [subHeld, hn]
    · simp [subHeld, hr]
  · simp [subHeld, h]

@[simp] theorem dusted_held (ed : ℕ) (L : Ledger A R) (a b : A) :
    (dusted ed L a b).held = (L b).held := setFree_held L a b _

@[simp] theorem dusted_others (ed : ℕ) (L : Ledger A R) (a b : A) :
    (dusted ed L a b).others = (L b).others := setFree_others L a b _

@[simp] theorem addHeld_free (L : Ledger A R) (r : R) (a b : A) (n : ℕ) :
    (addHeld L r a n b).free = (L b).free := by
  by_cases h : b = a
  · subst h
    simp [addHeld]
  · simp [addHeld, h]

@[simp] theorem subHeld_free (L : Ledger A R) (r : R) (a b : A) (n : ℕ) :
    (subHeld L r a n b).free = (L b).free := by
  by_cases h : b = a
  · subst h
    simp [subHeld]
  · simp [subHeld, h]

theorem addHeld_reserved (L : Ledger A R) (r : R) (a b : A) (n : ℕ) :
    (addHeld L r a n b).reserved = (L b).reserved + if b = a then n else 0 := by
  by_cases h : b = a
  · subst h
    simp [addHeld]
  · simp [addHeld, h]

theorem subHeld_reserved (L : Ledger A R) (r : R) (a b : A) (n : ℕ) :
    (subHeld L r a n b).reserved = (L b).reserved - if b = a then n else 0 := by
  by_cases h : b = a
  · subst h
    simp [subHeld]
  · simp [subHeld, h]

theorem setFree_reserved (L : Ledger A R) (a b : A) (n : ℕ) :
    (setFree L a n b).reserved = (L b).reserved := by
  by_cases h : b = a
  · subst h
    simp [setFree]
  · simp [setFree, h]

theorem holds_exactHolds (ed : ℕ) : (holds ed : MutateHold A R (Ledger A R)).ExactHolds where
  transferAndHold r src dst n p f L L' h r' a := by
    obtain ⟨-, -, rfl⟩ := holds_transferAndHold ed _ _ _ _ _ _ _ _ _ h
    change (addHeld _ r dst n a).held r' = (L a).held r' + _
    rw [addHeld_held, setFree_held]
  hold r who n L L' h r' a := by
    obtain ⟨-, rfl⟩ := holds_hold ed _ _ _ _ _ h
    change (addHeld _ r who n a).held r' = (L a).held r' + _
    rw [addHeld_held, setFree_held]
  transferOnHold r src dst n f L L' h r' a := by
    obtain ⟨hn, -, rfl⟩ := holds_transferOnHold ed _ _ _ _ _ _ _ _ _ h
    change (setFree _ dst _ a).held r' + _ = (L a).held r'
    rw [setFree_held, dusted_held, subHeld_held L r src n hn]
  release r who n L L' h r' a := by
    obtain ⟨hn, -, m, -, -, rfl⟩ := holds_release ed _ _ _ _ _ _ h
    change (setFree _ who _ a).held r' + _ = (L a).held r'
    rw [setFree_held, dusted_held, subHeld_held L r who n hn]

theorem afterDust_le (ed : ℕ) (L : Ledger A R) (a : A) (n : ℕ) : afterDust ed L a n ≤ n := by
  unfold afterDust
  split
  · exact Nat.zero_le n
  · exact le_refl n

theorem dusted_free_le (ed : ℕ) (L : Ledger A R) (a b : A) :
    (dusted ed L a b).free ≤ (L b).free := by
  unfold dusted
  rw [setFree_free]
  split
  · rename_i h
    rw [h]
    exact afterDust_le ed L a (L a).free
  · exact le_refl _

/-- Only the account whose hold goes can lose dust, and only if nothing is left on hold. -/
theorem dusted_free_eq (ed : ℕ) (L : Ledger A R) (r : R) (src a : A) (n : ℕ)
    (h : a ≠ src ∨ (inspect ed).StaysClear (fun L a => (L a).reserved) L a n) :
    (dusted ed (subHeld L r src n) src a).free = (L a).free := by
  unfold dusted
  rw [setFree_free, subHeld_free, subHeld_free]
  split
  · rename_i ha
    subst ha
    have hclear := h.resolve_left (fun hne => hne rfl)
    unfold afterDust
    rw [subHeld_reserved, if_pos rfl]
    split
    · rename_i hdust
      change (L a).free = 0 ∨ ed ≤ (L a).free ∨ n < (L a).reserved at hclear
      omega
    · rfl
  · rfl

theorem returned_free (ed : ℕ) (L : Ledger A R) (r : R) (src dst : A) (n m : ℕ) (a : A) :
    (returned ed L r src dst n m a).free =
      (dusted ed (subHeld L r src n) src a).free + if a = dst then m else 0 := by
  unfold returned
  rw [setFree_free]
  by_cases h : a = dst
  · rw [if_pos h, if_pos h, h]
  · rw [if_neg h, if_neg h, add_zero]

theorem holds_exactReturns (ed : ℕ) :
    (holds ed : MutateHold A R (Ledger A R)).ExactReturns (fun L a => (L a).reserved) where
  transferOnHold r src dst n L L' h a hclear := by
    obtain ⟨-, -, rfl⟩ := holds_transferOnHold ed _ _ _ _ _ _ _ _ _ h
    change (returned ed L r src dst n n a).free = (L a).free + _
    rw [returned_free, dusted_free_eq ed L r src a n hclear]
  arrives r src dst n L L' h := by
    obtain ⟨-, -, rfl⟩ := holds_transferOnHold ed _ _ _ _ _ _ _ _ _ h
    change n ≤ (returned ed L r src dst n n dst).free
    rw [returned_free, if_pos rfl]
    exact Nat.le_add_left n _
  release r who n L L' h a hclear := by
    obtain ⟨-, hdeposit, m, -, hm, rfl⟩ := holds_release ed _ _ _ _ _ _ h
    change (returned ed L r who who n m a).free = (L a).free + _
    rw [returned_free, dusted_free_eq ed L r who a n hclear]
    by_cases ha : a = who
    · subst ha
      rw [dusted_free_eq ed L r a a n hclear] at hm
      rw [hm hdeposit]
    · rw [if_neg ha, if_neg ha]

theorem debited_add_le (ed : ℕ) (L : Ledger A R) (a : A) (n : ℕ) (hn : n ≤ (L a).free) :
    debited ed L a n + n ≤ (L a).free := by
  unfold debited
  split
  · omega
  · have hdust := afterDust_le ed L a ((L a).free - n)
    omega

/-- Nothing is lost as dust if the minimum is left. -/
theorem debited_add (ed : ℕ) (L : Ledger A R) (a : A) (n : ℕ)
    (hn : n = 0 ∨ ed + n ≤ (L a).free) : debited ed L a n + n = (L a).free := by
  unfold debited afterDust
  split
  · omega
  · split
    · omega
    · omega

/-- The free balances after `n` of one account has been put on hold. -/
theorem held_free (L : Ledger A R) (r : R) (src dst : A) (n m : ℕ) (a : A) :
    (addHeld (setFree L src m) r dst n a).free = if a = src then m else (L a).free := by
  rw [addHeld_free, setFree_free]

theorem holds_exactBalances (ed : ℕ) :
    (holds ed : MutateHold A R (Ledger A R)).ExactBalances (fun L a => (L a).reserved) where
  toExactReturns := holds_exactReturns ed
  transferAndHold r src dst n L L' h a := by
    obtain ⟨hreducible, hn, rfl⟩ := holds_transferAndHold ed _ _ _ _ _ _ _ _ _ h
    change (addHeld _ r dst n a).free + _ = (L a).free
    rw [held_free]
    by_cases ha : a = src
    · subst ha
      rw [if_pos rfl, if_pos rfl]
      apply debited_add
      change n ≤ (L a).free - max ((L a).frozen - (L a).reserved) ed at hreducible
      omega
    · rw [if_neg ha, if_neg ha, add_zero]
  hold_le r who n L L' h a := by
    obtain ⟨hn, rfl⟩ := holds_hold ed _ _ _ _ _ h
    change (addHeld _ r who n a).free + _ ≤ (L a).free
    rw [held_free]
    by_cases ha : a = who
    · subst ha
      rw [if_pos rfl, if_pos rfl]
      exact debited_add_le ed L a n hn
    · rw [if_neg ha, if_neg ha, add_zero]
  hold r who n L L' h a hkept := by
    obtain ⟨-, rfl⟩ := holds_hold ed _ _ _ _ _ h
    change (addHeld _ r who n a).free + _ = (L a).free
    rw [held_free]
    by_cases ha : a = who
    · subst ha
      rw [if_pos rfl, if_pos rfl]
      exact debited_add ed L a n (Or.inr (hkept.resolve_left (fun hne => hne rfl)))
    · rw [if_neg ha, if_neg ha, add_zero]

/-- Neither a provider reference nor a transfer into a hold changes a freeze. -/
theorem transferAndHold_frozen (ed : ℕ) (r : R) (src dst : A) (n : ℕ) (p : Precision)
    (q : Preservation) (f : Fortitude) (L L' : Ledger A R)
    (h : (holds ed).transferAndHold r src dst n p q f (incProviders dst L) = some L') (a : A) :
    (L' a).frozen = (L a).frozen := by
  obtain ⟨-, -, rfl⟩ := holds_transferAndHold ed _ _ _ _ _ _ _ _ _ h
  by_cases hdst : a = dst
  · subst hdst
    by_cases hsrc : a = src
    · subst hsrc
      simp [addHeld, setFree, incProviders]
    · simp [addHeld, setFree, incProviders, hsrc]
  · by_cases hsrc : a = src
    · subst hsrc
      simp [addHeld, setFree, incProviders, hdst]
    · simp [addHeld, setFree, incProviders, hdst, hsrc]

theorem holds_exactTotals (ed : ℕ) :
    (holds ed : MutateHold A R (Ledger A R)).ExactTotals (fun L a => (L a).reserved) where
  transferAndHold r src dst n p f L L' h a := by
    obtain ⟨-, -, rfl⟩ := holds_transferAndHold ed _ _ _ _ _ _ _ _ _ h
    rw [addHeld_reserved, setFree_reserved]
  hold r who n L L' h a := by
    obtain ⟨-, rfl⟩ := holds_hold ed _ _ _ _ _ h
    rw [addHeld_reserved, setFree_reserved]

/-- However the accounts are chosen, they have no more than the ledger was endowed with. -/
theorem sum_lookup_le (balances : List (A × ℕ)) (accounts : Finset A) :
    ∑ a ∈ accounts, (balances.lookup a).getD 0 ≤ (balances.map Prod.snd).sum := by
  induction balances with
  | nil => simp
  | cons entry balances ih =>
    obtain ⟨k, n⟩ := entry
    have hfirst : ∀ a, (List.lookup a ((k, n) :: balances)).getD 0 ≤
        (if a = k then n else 0) + (balances.lookup a).getD 0 := by
      intro a
      by_cases h : a = k
      · simp [h]
      · have hskip : (a == k) = false := beq_false_of_ne h
        simp [List.lookup_cons, h, hskip]
    have hone : ∑ a ∈ accounts, (if a = k then n else 0) ≤ n := by
      rw [Finset.sum_ite_eq']
      split
      · exact Nat.le_refl n
      · exact Nat.zero_le n
    calc ∑ a ∈ accounts, (List.lookup a ((k, n) :: balances)).getD 0
        ≤ ∑ a ∈ accounts, ((if a = k then n else 0) + (balances.lookup a).getD 0) :=
          Finset.sum_le_sum fun a _ => hfirst a
      _ = ∑ a ∈ accounts, (if a = k then n else 0) +
          ∑ a ∈ accounts, (balances.lookup a).getD 0 := Finset.sum_add_distrib
      _ ≤ n + (balances.map Prod.snd).sum := Nat.add_le_add hone ih

/-- A ledger that starts with balances of at least the deposit is in order. -/
theorem endowed_settled (ed balanceMax : ℕ) (balances : List (A × ℕ))
    (hmin : ∀ entry ∈ balances, ed ≤ entry.2)
    (hsum : (balances.map Prod.snd).sum ≤ balanceMax) :
    (holds ed : MutateHold A R (Ledger A R)).Settled (fun L a => (L a).reserved) balanceMax
      (endowed balances) where
  clear a := by
    rcases h : balances.lookup a with _ | n
    · left
      change (balances.lookup a).getD 0 = 0
      rw [h]
      rfl
    · right
      left
      change ed ≤ (balances.lookup a).getD 0
      rw [h]
      obtain ⟨l₁, l₂, hl, -⟩ := List.lookup_eq_some_iff.mp h
      exact hmin (a, n) (by rw [hl]; simp)
  issued r accounts := (sum_lookup_le balances accounts).trans hsum

theorem inspect_reducibleAbove (ed : ℕ) :
    (inspect ed : Inspect A (Ledger A R)).ReducibleAbove (fun L a => (L a).frozen)
      (fun L a => (L a).reserved) := by
  intro L a
  change (L a).free - max ((L a).frozen - (L a).reserved) ed = _
  rw [Nat.max_comm]
  rfl

theorem holds_returnable (ed balanceMax : ℕ) :
    (holds ed : MutateHold A R (Ledger A R)).Returnable (fun L a => (L a).frozen)
      (fun L a => (L a).reserved) balanceMax where
  transferOnHold r src dst n L hheld hfrozen hmin _ := by
    simp only [holds]
    exact ⟨_, if_pos ⟨hheld, hfrozen, Nat.le_add_left_of_le hmin⟩⟩
  release r who n L hheld hmin _ := by
    simp only [holds]
    rw [if_pos ⟨hheld, hmin⟩]
    split
    · exact ⟨_, rfl⟩
    · exact ⟨_, rfl⟩

theorem decProviders_some (ed : ℕ) (a : A) (L L' : Ledger A R)
    (h : decProviders ed a L = some L') :
    0 < (L a).others ∧ L' = Function.update L a { L a with others := (L a).others - 1 } := by
  unfold decProviders at h
  split at h
  · cases h
  · rename_i hc
    exact ⟨Nat.pos_of_ne_zero (fun hz => hc (Or.inl hz)), (Option.some.inj h).symm⟩

theorem system_keepsFunds (ed : ℕ) :
    (system ed : FrameSystem A (Ledger A R)).KeepsFunds (holds ed) where
  inc_hold b L r a := by
    by_cases h : a = b <;> simp [system, incProviders, holds, h]
  inc_balance b L a := by
    by_cases h : a = b <;> simp [system, incProviders, holds, inspect, h]
  dec_hold b L L' hdec r a := by
    obtain ⟨-, rfl⟩ := decProviders_some ed b L L' hdec
    by_cases h : a = b <;> simp [holds, h]
  dec_balance b L L' hdec a := by
    obtain ⟨-, rfl⟩ := decProviders_some ed b L L' hdec
    by_cases h : a = b <;> simp [holds, inspect, h]

theorem system_keepsBalances (ed : ℕ) :
    (system ed : FrameSystem A (Ledger A R)).KeepsBalances (inspect ed) :=
  (system_keepsFunds ed).inc_balance

theorem system_counts (ed : ℕ) : (system ed : FrameSystem A (Ledger A R)).Counts where
  inc b L a := by
    by_cases h : a = b
    · subst h
      simp only [system, providers, incProviders, Function.update_self, one, if_true]
      omega
    · simp [system, providers, incProviders, h, one]
  dec b L L' hdec a := by
    obtain ⟨hpos, rfl⟩ := decProviders_some ed b L L' hdec
    by_cases h : a = b
    · subst h
      simp only [system, providers, Function.update_self, one, if_true]
      omega
    · simp [system, providers, h, one]

theorem system_releasesSpare (ed : ℕ) :
    (system ed : FrameSystem A (Ledger A R)).ReleasesSpare := by
  intro b L h
  change 2 ≤ (L b).others + one (ed ≤ (L b).free) at h
  have hown : one (ed ≤ (L b).free) ≤ 1 := by
    unfold one
    split
    · exact Nat.le_refl 1
    · exact Nat.zero_le 1
  have hrefused : ¬ ((L b).others = 0 ∨ (providers ed L b = 1 ∧
      (0 < (L b).consumers ∨ 0 < (L b).reserved ∨ 0 < (L b).frozen))) := by
    rintro (hzero | ⟨hone, -⟩)
    · omega
    · unfold providers at hone
      omega
  simp only [system, decProviders, if_neg hrefused]
  rfl

/-- Whatever leaves the references of others alone moves only the currency's own. -/
theorem ownReference_of_others (ed : ℕ) (L L' : Ledger A R)
    (h : ∀ a, (L' a).others = (L a).others) : OwnReference (system ed) (holds ed) L L' := by
  intro a
  change (L' a).others + one (ed ≤ (L' a).free) + one (ed ≤ (L a).free) =
    (L a).others + one (ed ≤ (L a).free) + one (ed ≤ (L' a).free)
  rw [h a]
  omega

theorem holds_ownReferences (ed : ℕ) :
    (holds ed : MutateHold A R (Ledger A R)).OwnReferences (system ed) where
  transferAndHold r src dst n p q f L L' h := by
    obtain ⟨-, -, rfl⟩ := holds_transferAndHold ed _ _ _ _ _ _ _ _ _ h
    exact ownReference_of_others ed _ _ (fun a => by simp)
  hold r who n L L' h := by
    obtain ⟨-, rfl⟩ := holds_hold ed _ _ _ _ _ h
    exact ownReference_of_others ed _ _ (fun a => by simp)
  transferOnHold r src dst n p m f L L' h := by
    obtain ⟨-, -, rfl⟩ := holds_transferOnHold ed _ _ _ _ _ _ _ _ _ h
    exact ownReference_of_others ed _ _ (fun a => by simp [returned])
  release r who n p L L' h := by
    obtain ⟨-, -, m, -, -, rfl⟩ := holds_release ed _ _ _ _ _ _ h
    exact ownReference_of_others ed _ _ (fun a => by simp [returned])

theorem reducibleBalance_le (ed : ℕ) (L : Ledger A R) (a : A) (p : Preservation) (f : Fortitude) :
    reducibleBalance ed L a p f ≤ (L a).free := by
  unfold reducibleBalance
  cases p with
  | expendable => exact Nat.sub_le _ _
  | protect => exact Nat.sub_le _ _
  | preserve => exact Nat.sub_le _ _

theorem balanced_transfer (ed : ℕ) (src dst : A) (n : ℕ) (p : Preservation) (L L' : Ledger A R)
    (h : (balanced ed).transfer src dst n p L = some L') (hne : src ≠ dst) :
    n ≤ (L src).free ∧
      L' = setFree (setFree L src (afterDust ed L src ((L src).free - n))) dst ((L dst).free + n) := by
  simp only [balanced, if_neg hne] at h
  split at h
  · rename_i hc
    exact ⟨Nat.le_trans hc.1 (reducibleBalance_le ed L src p .polite), (Option.some.inj h).symm⟩
  · cases h

theorem balanced_withdraw (ed : ℕ) (a : A) (n : ℕ) (p : Preservation) (f : Fortitude)
    (L L' : Ledger A R) (c : ℕ) (h : (balanced ed).withdraw a n .exact p f L = some (c, L')) :
    c = n ∧ n ≤ (L a).free ∧ L' = setFree L a (afterDust ed L a ((L a).free - n)) := by
  simp only [balanced] at h
  split at h
  · rename_i hc
    cases h
    exact ⟨rfl, Nat.le_trans hc (reducibleBalance_le ed L a p f), rfl⟩
  · cases h

theorem balanced_resolve (ed : ℕ) (a : A) (n : ℕ) (L L' : Ledger A R)
    (h : (balanced ed).resolve a n L = some L') : L' = setFree L a ((L a).free + n) := by
  simp only [balanced] at h
  split at h
  · exact (Option.some.inj h).symm
  · cases h

theorem balanced_exactMoves (ed : ℕ) : (balanced ed : Balanced A (Ledger A R)).ExactMoves where
  transfer_src src dst n p L L' h hne := by
    obtain ⟨hn, rfl⟩ := balanced_transfer ed src dst n p L L' h hne
    refine ⟨hn, ?_⟩
    change (setFree (setFree L src _) dst _ src).free = _
    rw [setFree_free, if_neg hne, setFree_free, if_pos rfl]
    rfl
  transfer_dst src dst n p L L' h hne := by
    obtain ⟨-, rfl⟩ := balanced_transfer ed src dst n p L L' h hne
    change (setFree _ dst _ dst).free = _
    rw [setFree_free, if_pos rfl]
    rfl
  transfer_other src dst n p L L' h a hsrc hdst := by
    by_cases hne : src = dst
    · simp only [balanced, if_pos hne, Option.some.injEq] at h
      rw [h]
    · obtain ⟨-, rfl⟩ := balanced_transfer ed src dst n p L L' h hne
      change (setFree (setFree L src _) dst _ a).free = _
      rw [setFree_free, if_neg hdst, setFree_free, if_neg hsrc]
      rfl
  withdraw a n p f L c L' h := by
    obtain ⟨hc, hn, rfl⟩ := balanced_withdraw ed a n p f L L' c h
    refine ⟨hc, hn, ?_⟩
    change (setFree L a _ a).free = _
    rw [setFree_free, if_pos rfl]
    rfl
  withdraw_other a n p f L c L' h b hb := by
    obtain ⟨-, -, rfl⟩ := balanced_withdraw ed a n p f L L' c h
    change (setFree L a _ b).free = _
    rw [setFree_free, if_neg hb]
    rfl
  resolve a n L L' h := by
    rw [balanced_resolve ed a n L L' h]
    change (setFree L a _ a).free = _
    rw [setFree_free, if_pos rfl]
    rfl
  resolve_other a n L L' h b hb := by
    rw [balanced_resolve ed a n L L' h]
    change (setFree L a _ b).free = _
    rw [setFree_free, if_neg hb]
    rfl
  dropCredit n L a := rfl

theorem balanced_withdraw_isSome (ed : ℕ) (a : A) (n : ℕ) (p : Preservation) (f : Fortitude)
    (L : Ledger A R) : ((balanced ed).withdraw a n .exact p f L).isSome = true ↔
      n ≤ reducibleBalance ed L a p f := by
  simp only [balanced]
  by_cases h : n ≤ reducibleBalance ed L a p f
  · simp [h]
  · simp [h]

theorem balanced_liquidity (ed : ℕ) :
    (balanced ed : Balanced A (Ledger A R)).Liquidity (fun L a => (L a).frozen) where
  canWithdraw L a n hn := by
    simp only [balanced, inspect, decide_eq_true_eq]
    omega
  preserve L a n := by
    rw [balanced_withdraw_isSome]
    simp only [balanced, inspect, reducibleBalance]
    omega
  expendable L a n := balanced_withdraw_isSome ed a n .expendable .polite L
  untouched a n p f L c L' h b hb := by
    obtain ⟨-, -, rfl⟩ := balanced_withdraw ed a n p f L L' c h
    have hrest : ∀ m, setFree L a m b = L b := fun m => Function.update_of_ne hb _ _
    simp only [balanced, inspect, hrest, and_self]

theorem balanced_depositsAboveMinimum (ed balanceMax : ℕ) :
    (balanced ed : Balanced A (Ledger A R)).DepositsAboveMinimum balanceMax := by
  intro a n L _
  simp only [balanced, inspect]
  by_cases h : ed ≤ (L a).free + n
  · simp [h]
  · simp [h]

/-- The older interface to the same transfer, which ends early when nothing moves. -/
def currency (ed : ℕ) : Currency A (Ledger A R) where
  minimumBalance := ed
  freeBalance L a := (L a).free
  reservedBalance L a := (L a).reserved
  transfer src dst n requirement L :=
    if n = 0 ∨ src = dst then some L
    else
      let preservation := match requirement with
        | .keepAlive => Preservation.preserve
        | .allowDeath => Preservation.expendable
      (balanced ed).transfer src dst n preservation L

theorem currency_transfer (ed : ℕ) (src dst : A) (n : ℕ) (requirement : ExistenceRequirement)
    (L L' : Ledger A R) (h : (currency ed).transfer src dst n requirement L = some L')
    (hn : n ≠ 0) (hne : src ≠ dst) :
    n ≤ (L src).free ∧
      L' = setFree (setFree L src (afterDust ed L src ((L src).free - n))) dst ((L dst).free + n) := by
  simp only [currency, if_neg (not_or.mpr ⟨hn, hne⟩)] at h
  exact balanced_transfer ed src dst n _ L L' h hne

theorem currency_exactTransfers (ed : ℕ) :
    (currency ed : Currency A (Ledger A R)).ExactTransfers where
  still src dst n r L L' h hstill a := by
    simp only [currency, if_pos hstill, Option.some.injEq] at h
    rw [h]
  src src dst n L L' h hn hne := by
    obtain ⟨hle, rfl⟩ := currency_transfer ed src dst n _ L L' h hn hne
    refine ⟨hle, ?_⟩
    change (setFree (setFree L src _) dst _ src).free = _
    rw [setFree_free, if_neg hne, setFree_free, if_pos rfl]
    rfl
  dst src dst n r L L' h hn hne := by
    obtain ⟨-, rfl⟩ := currency_transfer ed src dst n r L L' h hn hne
    change (setFree _ dst _ dst).free = _
    rw [setFree_free, if_pos rfl]
    rfl

end Ledger
end Frame
