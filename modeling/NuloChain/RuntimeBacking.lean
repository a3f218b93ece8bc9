import NuloChain.RuntimeModel
import NuloChain.SponsorshipBystander

/-! Whether prepaid credit stays covered in a runtime in which anybody may sponsor the account
that covers it. Sponsored funds are on hold and cover nothing. They do keep a small remainder
from being removed as dust, for as long as they stay; so it is not enough that no charge loses
dust by itself: no charge may leave a remainder that a later unlock would remove. -/
namespace NuloChain.Runtime
open Frame
set_option linter.unusedSectionVars false
variable {A O R Λ : Type} [DecidableEq A] [DecidableEq R] (T : Config A O R Λ)

/-- The free balance that covers the credit. -/
def pot (L : Λ) : ℕ := T.prepaid.currency.balance L T.prepaid.palletAccount

/-- The pot is empty, or holds at least the existential deposit. -/
def PotClear (L : Λ) : Prop := pot T L = 0 ∨ T.prepaid.currency.minimumBalance ≤ pot T L

/-- What the two sides rely on in the currency and in the handler of collected fees. -/
structure FundLaws (frozen totalOnHold : Λ → A → ℕ) : Prop where
  sponsorship : Sponsorship.UndoLaws T.sponsorship frozen totalOnHold
  moves : T.prepaid.currency.ExactMoves
  lands : T.prepaid.currency.LandsAboveMinimum
  handler : ∀ credits L, pot T (T.prepaid.onUnbalanceds credits L) = pot T L

/-- A fee that leaves nothing in the pot, or at least the existential deposit. -/
def SparesPot (s : T.sponsorship.State) (fee : ℕ) : Prop :=
  pot T s.runtime-fee = 0 ∨ T.prepaid.currency.minimumBalance ≤ pot T s.runtime-fee

/-- A change of the balances that takes nothing from the pot. -/
def SavesPot (s : T.State) (f : Λ → Λ) : Prop :=
  pot T s.runtime.runtime ≤ pot T (f s.runtime.runtime) ∧ PotClear T (f s.runtime.runtime)

/-- The account of the pot signs nothing, and other pallets take nothing from it. -/
def CallAdmits (s : T.State) : Call A O Λ → Prop
  | .sponsorship origin _ => T.prepaid.ensureSigned origin ≠ some T.prepaid.palletAccount
  | .purchase origin _ _ => T.prepaid.ensureSigned origin ≠ some T.prepaid.palletAccount
  | .other f => SavesPot T s f

/-- The same for a step, and no charge leaves a remainder below the existential deposit. -/
def Admits (s : T.State) : Op A O Λ → Prop
  | .genesisBuild initial => ∀ i ∈ initial, i.sponsor ≠ T.prepaid.palletAccount
  | .onInitialize _ => True
  | .extrinsic who feeWithTip tip calls _ => who ≠ T.prepaid.palletAccount ∧
    Prepaid.SparesFee (SparesPot T) s who feeWithTip tip ∧
    Along (callStep T) (CallAdmits T) (Prepaid.withdrawFee (fees T) who feeWithTip tip s).2 calls
  | .other f => SavesPot T s f

/-- The pot as a bystander of the sponsorship pallet. -/
def Aside (s : T.sponsorship.State) : Prop :=
  Sponsorship.Untouched T.sponsorship T.prepaid.palletAccount (pot T s.runtime) s

structure Safe (s : T.State) : Prop where
  backed : Prepaid.Backed (fees T) s
  aside : Aside T s.runtime

theorem pot_eq (L : Λ) :
    T.sponsorship.currency.balance L T.prepaid.palletAccount = pot T L := by
  unfold pot
  rw [T.currency]

theorem clear_iff (L : Λ) :
    Sponsorship.Clear T.sponsorship L T.prepaid.palletAccount ↔ PotClear T L := by
  unfold Sponsorship.Clear PotClear
  rw [pot_eq, T.currency]

/-- New balances concern the pot only. -/
theorem aside_balances (s : T.sponsorship.State) (L : Λ) (hs : Aside T s) (hL : PotClear T L) :
    Aside T ((balances T).set L s) :=
  ⟨hs.records, (clear_iff T L).mpr hL, pot_eq T L⟩

theorem aside_of_same (s : T.sponsorship.State) (L : Λ) (hs : Aside T s)
    (hL : pot T L = pot T s.runtime) : Aside T ((balances T).set L s) := by
  refine aside_balances T s L hs ?_
  unfold PotClear
  rw [hL]
  exact (clear_iff T s.runtime).mp hs.clear

theorem other_safe (s : T.State) (f : Λ → Λ) (hs : Safe T s) (hf : SavesPot T s f) :
    Safe T (onSponsorship T s (.environment f : Sponsorship.Op A O Λ)) :=
  ⟨hs.backed.trans hf.1, aside_balances T s.runtime _ hs.aside hf.2⟩

section
variable {frozen totalOnHold : Λ → A → ℕ} (laws : FundLaws T frozen totalOnHold)
include laws

theorem incProviders_pot (a : A) (L : Λ) :
    pot T (T.prepaid.system.incProviders a L) = pot T L := by
  rw [T.system, ← pot_eq, ← pot_eq]
  exact laws.sponsorship.keepsFunds.inc_balance a L _

theorem fees_lawful : Prepaid.Lawful (fees T) where
  moves := T.prepaid.currency.within_exactMoves (balances T) laws.moves
  inc := by
    refine T.prepaid.system.within_keepsBalances _ (balances T) ?_
    intro b L a
    rw [T.system, T.currency]
    exact laws.sponsorship.keepsFunds.inc_balance b L a
  handler credits s := Nat.le_of_eq (laws.handler credits s.runtime).symm

theorem charge_clear (n c : ℕ) (s : T.sponsorship.State) (L : Λ) (hspares : SparesPot T s n)
    (hL : T.prepaid.currency.withdraw T.prepaid.palletAccount n .exact .expendable .polite
      s.runtime = some (c, L)) : PotClear T L := by
  obtain ⟨-, -, hpot⟩ := laws.moves.withdraw _ _ _ _ _ _ _ hL
  change pot T L = T.prepaid.currency.afterDust s.runtime _ (pot T s.runtime-n) at hpot
  unfold PotClear
  rw [hpot]
  unfold Balanced.afterDust
  split
  · exact Or.inl rfl
  · exact hspares

/-- The fee pallets leave the pot clear if they charge it no more than it can spare. -/
theorem fees_aside : Prepaid.Confined (fees T) (Aside T) (fun who => who ≠ T.prepaid.palletAccount)
    (SparesPot T) where
  transfer src n s t hsrc _ hs ht := by
    obtain ⟨L, hL, rfl⟩ := ((balances T).update_eq_some _ s t).mp ht
    exact aside_balances T s L hs (Or.inr (laws.lands.transfer _ _ _ _ _ _ hL hsrc))
  withdraw who n s c t hwho hs ht := by
    obtain ⟨L, hL, rfl⟩ := T.prepaid.currency.within_withdraw (balances T) who n c _ _ _ s t ht
    exact aside_of_same T s L hs (laws.moves.withdraw_other _ _ _ _ _ _ _ hL _ (Ne.symm hwho))
  charge n s c t hspares hs ht := by
    obtain ⟨L, hL, rfl⟩ := T.prepaid.currency.within_withdraw (balances T) _ n c _ _ _ s t ht
    exact aside_balances T s L hs (charge_clear T laws n c s L hspares hL)
  resolve who n s t _ hs ht := by
    obtain ⟨L, hL, rfl⟩ := ((balances T).update_eq_some _ s t).mp ht
    by_cases hwho : who = T.prepaid.palletAccount
    · rw [hwho] at hL
      exact aside_balances T s L hs (Or.inr (laws.lands.resolve _ _ _ _ hL))
    · exact aside_of_same T s L hs (laws.moves.resolve_other _ _ _ _ hL _ (Ne.symm hwho))
  dropCredit n s hs := aside_of_same T s _ hs (laws.moves.dropCredit _ _ _)
  incProviders a s hs := aside_of_same T s _ hs (incProviders_pot T laws a s.runtime)
  onUnbalanceds credits s hs := aside_of_same T s _ hs (laws.handler credits s.runtime)

/-- A step of the sponsorship pallet leaves the pot as it is. -/
theorem sponsorship_aside (s : T.sponsorship.State) (op : Sponsorship.Op A O Λ) (hs : Aside T s)
    (hop : Sponsorship.SponsorsNot T.sponsorship T.prepaid.palletAccount op) :
    Aside T (Sponsorship.step T.sponsorship s op) ∧
      pot T (Sponsorship.step T.sponsorship s op).runtime = pot T s.runtime := by
  have hnext := Sponsorship.step_untouched T.sponsorship laws.sponsorship _ _ s op hs hop
  have hpot : pot T (Sponsorship.step T.sponsorship s op).runtime = pot T s.runtime := by
    rw [← pot_eq]
    exact hnext.free
  refine ⟨?_, hpot⟩
  unfold Aside
  rw [hpot]
  exact hnext

theorem onSponsorship_safe (s : T.State) (op : Sponsorship.Op A O Λ) (hs : Safe T s)
    (hop : Sponsorship.SponsorsNot T.sponsorship T.prepaid.palletAccount op) :
    Safe T (onSponsorship T s op) := by
  obtain ⟨haside, hpot⟩ := sponsorship_aside T laws s.runtime op hs.aside hop
  exact ⟨hs.backed.trans (Nat.le_of_eq hpot.symm), haside⟩

theorem callStep_safe (s : T.State) (call : Call A O Λ) (hs : Safe T s)
    (hcall : CallAdmits T s call) : Safe T (callStep T s call) := by
  cases call with
  | sponsorship origin call =>
    refine onSponsorship_safe T laws s (.entry (.call origin call)) hs ?_
    change T.sponsorship.ensureSigned origin ≠ some T.prepaid.palletAccount
    rw [← T.signed]
    exact hcall
  | purchase origin beneficiary amount =>
    refine ⟨Prepaid.purchase_backed (fees T) (fees_lawful T laws) origin beneficiary amount s
      hs.backed hcall, ?_⟩
    refine Prepaid.purchase_confined (fees_aside T laws) origin beneficiary amount s hs.aside ?_
    intro sponsor hsponsor hpot
    exact hcall (hpot ▸ hsponsor)
  | other f => exact other_safe (O := O) T s f hs hcall

theorem withdrawFee_safe (who : A) (feeWithTip tip : ℕ) (s : T.State) (hs : Safe T s)
    (hwho : who ≠ T.prepaid.palletAccount)
    (hspares : Prepaid.SparesFee (SparesPot T) s who feeWithTip tip) :
    Safe T (Prepaid.withdrawFee (fees T) who feeWithTip tip s).2 := by
  refine ⟨?_, Prepaid.withdrawFee_confined (fees_aside T laws) who feeWithTip tip s hs.aside hwho
    hspares⟩
  refine Prepaid.withdrawFee_backed (fees T) (fees_lawful T laws) who feeWithTip tip s hs.backed
    hwho ?_
  intro hne hle hcovered
  change feeWithTip-tip ≤ pot T s.runtime.runtime at hcovered
  change pot T s.runtime.runtime = feeWithTip-tip ∨
    T.prepaid.currency.minimumBalance ≤ pot T s.runtime.runtime-(feeWithTip-tip) ∨ _
  rcases hspares hne hle with hnothing | henough
  · exact Or.inl (by omega)
  · exact Or.inr (Or.inl henough)

theorem step_safe (s : T.State) (op : Op A O Λ) (hs : Safe T s) (hop : Admits T s op) :
    Safe T (step T s op) := by
  cases op with
  | genesisBuild initial => exact onSponsorship_safe T laws s (.genesisBuild initial) hs hop
  | onInitialize now => exact onSponsorship_safe T laws s (.onInitialize now) hs trivial
  | other f => exact other_safe (O := O) T s f hs hop
  | extrinsic who feeWithTip tip calls corrected =>
    obtain ⟨hwho, hspares, hcalls⟩ := hop
    have hcharged := withdrawFee_safe T laws who feeWithTip tip s hs hwho hspares
    simp only [step]
    rcases hx : Prepaid.withdrawFee (fees T) who feeWithTip tip s with ⟨e | info, t⟩
    · rw [hx] at hcharged
      exact hcharged
    · rw [hx] at hcharged hcalls
      have hdone : Safe T (run (callStep T) t calls) :=
        run_invariant (callStep T) (CallAdmits T) (Safe T) (callStep_safe T laws) calls t hcharged
          hcalls
      refine ⟨?_, Prepaid.correctAndDepositFee_confined (fees_aside T laws) corrected tip info _
        hdone.aside⟩
      refine Prepaid.correctAndDepositFee_backed (fees T) (fees_lawful T laws) corrected tip info _
        hdone.backed ?_
      -- a native charge is refunded to its payer, who is not the pot
      intro w feeCredit tipCredit hinfo
      rw [hinfo] at hx
      rw [Prepaid.withdrawFee_native_who (fees T) who w feeWithTip tip s t feeCredit tipCredit hx]
      exact hwho

/-- In every run of the runtime in which no charge leaves a remainder below the existential
deposit, the credit of all accounts together is covered by the pot, whoever sponsors the account
of the pot and however these sponsorships end. -/
theorem runtime_credit_is_backed (L : Λ) (hL : PotClear T L) (ops : List (Op A O Λ))
    (hops : Along (step T) (Admits T) (emptyStorage T L) ops) :
    let s := run (step T) (emptyStorage T L) ops
    (s.prepaidCredits.sum fun _ credit => credit) ≤
      T.prepaid.currency.balance s.runtime.runtime T.prepaid.palletAccount := by
  have hstart : Safe T (emptyStorage T L) := by
    refine ⟨?_, ?_, (clear_iff T L).mpr hL, pot_eq T L⟩
    · exact Nat.zero_le _
    · intro b record hb
      cases hb
  exact (run_invariant (step T) (Admits T) (Safe T) (step_safe T laws) ops _ hstart hops).backed

end

theorem runtime_fundLaws :
    FundLaws runtime (fun L a => (L a).frozen) (fun L a => (L a).reserved) where
  sponsorship :=
    { exactHolds := Ledger.holds_exactHolds existentialDeposit
      exactBalances := Ledger.holds_exactBalances existentialDeposit
      exactTotals := Ledger.holds_exactTotals existentialDeposit
      reducibleAbove := Ledger.inspect_reducibleAbove existentialDeposit
      keepsFunds := Ledger.system_keepsFunds existentialDeposit
      keepsTotals := Ledger.system_keepsReserved existentialDeposit }
  moves := Ledger.balanced_exactMoves existentialDeposit
  lands := Ledger.balanced_landsAboveMinimum existentialDeposit
  handler _ _ := rfl

theorem signed_ne_pot (n : ℕ) (hn : n ≠ 0) :
    runtime.prepaid.ensureSigned (.signed n) ≠ some runtime.prepaid.palletAccount := by
  intro h
  exact hn (Option.some.inj h)

theorem sponsoredPotTrace_admits :
    Along (step runtime) (Admits runtime) (emptyStorage runtime richLedger) sponsoredPotTrace := by
  have hfirst := signed_ne_pot 1 (by decide)
  have hsecond := signed_ne_pot 2 (by decide)
  refine ⟨trivial, ⟨by decide, ?_, hfirst, hfirst, trivial⟩,
    ⟨by decide, ?_, hsecond, trivial⟩, ⟨by decide, ?_, hfirst, trivial⟩, trivial⟩
  -- the first account has no credit; of the second's, half is left after its fee
  · intro _ hcredit
    exact absurd hcredit (by decide +kernel)
  · exact fun _ _ => Or.inr (by decide +kernel)
  · intro _ hcredit
    exact absurd hcredit (by decide +kernel)

theorem runtime_credit_is_backed_sponsoredPotTrace :
    let s := run (step runtime) (emptyStorage runtime richLedger) sponsoredPotTrace
    (s.prepaidCredits.sum fun _ credit => credit) = 3*existentialDeposit ∧
      (s.prepaidCredits.sum fun _ credit => credit) ≤
        runtime.prepaid.currency.balance s.runtime.runtime runtime.prepaid.palletAccount :=
  ⟨by decide +kernel, runtime_credit_is_backed runtime runtime_fundLaws richLedger (Or.inl rfl)
    sponsoredPotTrace sponsoredPotTrace_admits⟩

end NuloChain.Runtime
