import NuloChain.SponsorshipIndex
import NuloChain.SponsorshipLedger
import NuloChain.FrameMeter

/-! The two limits on what a sponsor may create in one block. The ledger entry keeps a counter
for each, which is reset when the sponsor next creates something in another block; here they
are read against the history of what was created, block by block. -/
namespace NuloChain.Sponsorship
open Frame
set_option linter.unusedSectionVars false
variable {A O R Λ : Type} [DecidableEq A] (T : Config A O R Λ)

structure Creation (A : Type) where
  block : ℕ
  sponsor : A
  amount : ℕ
  deriving DecidableEq, Repr

/-- The sponsor and the amount of the sponsorship that an entry into the pallet creates. -/
def entryCreation (s : T.State) : Entry A O → Option (A × ℕ)
  | .call origin (.sponsor beneficiary amount autoUnlock lease) =>
    if (dispatch T origin (.sponsor beneficiary amount autoUnlock lease) s).1.isOk then
      (T.ensureSigned origin).map fun who => (who, amount)
    else none
  | .call origin (.sponsorMinimum beneficiary autoUnlock lease) =>
    if (dispatch T origin (.sponsorMinimum beneficiary autoUnlock lease) s).1.isOk then
      (T.ensureSigned origin).map fun who => (who, minimumSponsorship T)
    else none
  | .createSponsorship sponsor beneficiary amount autoUnlock lease =>
    if (createSponsorship T sponsor beneficiary amount autoUnlock lease s).1.isOk then
      some (sponsor, amount)
    else none
  | _ => none

/-- The sponsorships that one step creates. -/
def created (s : T.State) : Op A O Λ → List (Creation A)
  | .entry e => (entryCreation T s e).toList.map fun c => ⟨s.blockNumber, c.1, c.2⟩
  | .genesisBuild initial =>
    if (genesisBuild T initial s).isSome then
      initial.map fun i => ⟨s.blockNumber, i.sponsor, i.amount⟩
    else []
  | .onInitialize _ => []
  | .environment _ => []

/-- The counter of the amount limit in a ledger entry. -/
def amountMeter (ledger : SponsorState) : Meter := ⟨ledger.lastBlock, ledger.sponsoredAmountInBlock⟩

/-- The counter of the number limit in a ledger entry. -/
def countMeter (ledger : SponsorState) : Meter := ⟨ledger.lastBlock, ledger.newSponsorshipsInBlock⟩

/-- What `who` has created, as charges of `weight` to the blocks they fall into. -/
def chargesBy (weight : Creation A → ℕ) (who : A) (history : List (Creation A)) : List (ℕ × ℕ) :=
  (history.filter fun c => c.sponsor = who).map fun c => (c.block, weight c)

/-- Both counters of every account know what it has created in the current block, and every
block so far was within the limits. -/
structure RatesTracked (s : T.State) (history : List (Creation A)) : Prop where
  amount : ∀ who, (amountMeter (s.sponsorLedger.getD who {})).Tracks s.blockNumber
    T.maxSponsoredAmountPerBlock (chargesBy Creation.amount who history)
  count : ∀ who, (countMeter (s.sponsorLedger.getD who {})).Tracks s.blockNumber
    T.maxNewSponsorshipsPerBlock (chargesBy (fun _ => 1) who history)

/-- The limits lie below the largest values of their integer types. -/
structure RatesBelowMax : Prop where
  amount : T.maxSponsoredAmountPerBlock < T.balanceMax
  count : T.maxNewSponsorshipsPerBlock < u32Max

theorem amountMeter_refresh (ledger : SponsorState) (now : ℕ) :
    amountMeter (refreshPerBlockLedger ledger now) = (amountMeter ledger).refresh now := by
  unfold refreshPerBlockLedger Meter.refresh
  by_cases h : ledger.lastBlock = now
  · simp [amountMeter, h]
  · simp [amountMeter, h]

theorem countMeter_refresh (ledger : SponsorState) (now : ℕ) :
    countMeter (refreshPerBlockLedger ledger now) = (countMeter ledger).refresh now := by
  unfold refreshPerBlockLedger Meter.refresh
  by_cases h : ledger.lastBlock = now
  · simp [countMeter, h]
  · simp [countMeter, h]

/-- A creation that passes the caps is charged in full to both counters. -/
theorem charge_meters (hT : RatesBelowMax T) (s : T.State) (who : A) (amount : ℕ)
    (h : WithinCaps T (openLedger T s who) amount) :
    let ledger := s.sponsorLedger.getD who {}
    let charged := chargedLedger T (openLedger T s who) amount
    ((amountMeter ledger).refresh s.blockNumber).spent+amount ≤ T.maxSponsoredAmountPerBlock ∧
      amountMeter charged = ((amountMeter ledger).refresh s.blockNumber).charge amount ∧
      ((countMeter ledger).refresh s.blockNumber).spent+1 ≤ T.maxNewSponsorshipsPerBlock ∧
      countMeter charged = ((countMeter ledger).refresh s.blockNumber).charge 1 := by
  intro ledger charged
  -- below the type's maximum a sum that passed its cap cannot have been clamped
  obtain ⟨hamount, hsum⟩ := min_eq_of_le_lt _ _ _ h.amountInBlock hT.amount
  obtain ⟨hcount, hsum'⟩ := min_eq_of_le_lt _ _ _ h.countInBlock hT.count
  rw [← amountMeter_refresh, ← countMeter_refresh]
  refine ⟨hamount, ?_, hcount, ?_⟩
  · change Meter.mk _ (T.balanceSaturatingAdd (openLedger T s who).sponsoredAmountInBlock amount) = _
    rw [Config.balanceSaturatingAdd, hsum]
    rfl
  · change Meter.mk _ (u32SaturatingAdd (openLedger T s who).newSponsorshipsInBlock 1) = _
    rw [u32SaturatingAdd, hsum']
    rfl

theorem chargesBy_append (weight : Creation A → ℕ) (who : A) (history : List (Creation A))
    (c : Creation A) :
    chargesBy weight who (history ++ [c]) =
      if c.sponsor = who then chargesBy weight who history ++ [(c.block, weight c)]
      else chargesBy weight who history := by
  unfold chargesBy
  rw [List.filter_append, List.map_append]
  by_cases h : c.sponsor = who
  · simp [h]
  · simp [h]

/-- One counter of all accounts, after the entry of the sponsor of `c` has been charged. -/
theorem tracks_insert (meter : SponsorState → Meter) (weight : Creation A → ℕ) (now cap : ℕ)
    (ledgers : StorageMap A SponsorState) (history : List (Creation A))
    (hs : ∀ who, (meter (ledgers.getD who {})).Tracks now cap (chargesBy weight who history))
    (c : Creation A) (hblock : c.block = now) (charged : SponsorState)
    (hcap : ((meter (ledgers.getD c.sponsor {})).refresh now).spent+weight c ≤ cap)
    (hcharged : meter charged = ((meter (ledgers.getD c.sponsor {})).refresh now).charge (weight c)) :
    ∀ who, (meter ((ledgers.insert c.sponsor charged).getD who {})).Tracks now cap
      (chargesBy weight who (history ++ [c])) := by
  intro who
  rw [StorageMap.getD_insert, chargesBy_append]
  by_cases hwho : who = c.sponsor
  · rw [if_pos hwho, if_pos hwho.symm, hcharged, hwho, hblock]
    exact (hs c.sponsor).charge (weight c) hcap
  · rw [if_neg hwho, if_neg (Ne.symm hwho)]
    exact hs who

theorem sponsored_ratesTracked (hT : RatesBelowMax T) (sponsor beneficiary : A) (amount : ℕ)
    (autoUnlock : AutoUnlockMode) (lease : Lease) (s t : T.State) (history : List (Creation A))
    (hs : RatesTracked T s history)
    (h : Sponsored T sponsor beneficiary amount autoUnlock lease s t) :
    RatesTracked T t (history ++ [⟨s.blockNumber, sponsor, amount⟩]) := by
  obtain ⟨hamount, hcharged, hcount, hcharged'⟩ := charge_meters T hT s sponsor amount h.caps
  constructor
  · rw [h.blockNumber, h.sponsorLedger]
    exact tracks_insert amountMeter Creation.amount _ _ _ history hs.amount
      ⟨s.blockNumber, sponsor, amount⟩ rfl _ hamount hcharged
  · rw [h.blockNumber, h.sponsorLedger]
    exact tracks_insert countMeter (fun _ => 1) _ _ _ history hs.count
      ⟨s.blockNumber, sponsor, amount⟩ rfl _ hcount hcharged'

/-- From `s` to `t` neither the block nor any of the counters has changed. -/
structure SameRates (s t : T.State) : Prop where
  blockNumber : t.blockNumber = s.blockNumber
  amount : ∀ who, amountMeter (t.sponsorLedger.getD who {}) = amountMeter (s.sponsorLedger.getD who {})
  count : ∀ who, countMeter (t.sponsorLedger.getD who {}) = countMeter (s.sponsorLedger.getD who {})

theorem SameRates.tracked {T : Config A O R Λ} {s t : T.State} (h : SameRates T s t)
    (history : List (Creation A)) (hs : RatesTracked T s history) : RatesTracked T t history := by
  constructor
  · intro who
    rw [h.blockNumber, h.amount]
    exact hs.amount who
  · intro who
    rw [h.blockNumber, h.count]
    exact hs.count who

/-- A revocation rewrites the ledger entry of the sponsor, but not its counters. -/
theorem revoked_sameRates (beneficiary : A) (record : SponsorshipRecord A) (L : Λ)
    (event : Event A) (s : T.State) :
    SameRates T s (logged T event (revokedStorage T beneficiary record L s)) := by
  have hmeter : ∀ meter : SponsorState → Meter,
      (∀ ledger amount, meter (relievedLedger ledger amount) = meter ledger) → ∀ who,
      meter ((logged T event (revokedStorage T beneficiary record L s)).sponsorLedger.getD who {}) =
        meter (s.sponsorLedger.getD who {}) := by
    intro meter hrelieved who
    have hledger := StorageMap.getD_mutate s.sponsorLedger record.sponsor who {}
      (fun ledger => relievedLedger ledger record.amount)
    refine (congrArg meter hledger).trans ?_
    by_cases hwho : who = record.sponsor
    · rw [if_pos hwho, hwho, hrelieved]
    · rw [if_neg hwho]
  exact ⟨blockNumber_revokedStorage T beneficiary record L s,
    hmeter amountMeter (fun _ _ => rfl), hmeter countMeter (fun _ _ => rfl)⟩

theorem policySet_sameRates (caller beneficiary : A) (autoUnlock : AutoUnlockMode) (lease : Lease)
    (record : SponsorshipRecord A) (s t : T.State)
    (h : PolicySet T caller beneficiary autoUnlock lease record s t) : SameRates T s t :=
  ⟨h.blockNumber, fun who => by rw [h.sponsorLedger], fun who => by rw [h.sponsorLedger]⟩

/-- An action that asks for no lease creates nothing. -/
theorem outcome_sameRates (act : Action A O) (s t : T.State) (hact : act.lease = none)
    (h : Outcome T act s t) : SameRates T s t := by
  cases h with
  | idle => exact ⟨rfl, fun _ => rfl, fun _ => rfl⟩
  | sponsored sponsor beneficiary amount autoUnlock lease _ hask _ =>
    rw [hact] at hask
    cases hask
  | revoked beneficiary record L event found refunded authorised =>
    exact revoked_sameRates T beneficiary record L event s
  | policy origin caller beneficiary autoUnlock lease record _ _ hask h =>
    exact policySet_sameRates T caller beneficiary autoUnlock lease record s t h

/-- A call that sponsors fails without a trace, or creates what its signer asked for. -/
theorem sponsor_creates (origin : O) (beneficiary : A) (amount : ℕ) (autoUnlock : AutoUnlockMode)
    (lease : Lease) (s : T.State) :
    let call := Dispatch.transactional (sponsor T origin beneficiary amount autoUnlock lease)
    (∃ e, call s = (.error e, s)) ∨ ∃ who t, T.ensureSigned origin = some who ∧
      call s = (.ok (), t) ∧ Sponsored T who beneficiary amount autoUnlock lease s t := by
  intro call
  rcases hx : call s with ⟨e | u, t⟩
  · left
    rw [Dispatch.transactional_error _ _ _ _ hx]
    exact ⟨e, rfl⟩
  · right
    obtain ⟨who, hwho, hok⟩ := signed_ok T _ _ _ _ _ ((Dispatch.transactional_ok_iff _ _ _ _).mp hx)
    exact ⟨who, t, hwho, rfl, doSponsor_ok T _ _ _ _ _ _ _ _ _ hok⟩

/-- What an entry into the pallet does to the counters: it creates what `entryCreation` says,
or leaves them alone. -/
theorem entry_creates (e : Entry A O) (s : T.State) :
    (entryCreation T s e = none ∧ SameRates T s (entryStep T s e)) ∨
      ∃ sponsor beneficiary amount autoUnlock lease,
        entryCreation T s e = some (sponsor, amount) ∧
        Sponsored T sponsor beneficiary amount autoUnlock lease s (entryStep T s e) := by
  have hsame : SameRates T s s := ⟨rfl, fun _ => rfl, fun _ => rfl⟩
  cases e with
  | call origin call =>
    cases call with
    | sponsor beneficiary amount autoUnlock lease =>
      rcases sponsor_creates T origin beneficiary amount autoUnlock lease s with
        ⟨e, hx⟩ | ⟨who, t, hwho, hx, h⟩
      · left
        simp only [entryCreation, entryStep, dispatch, hx]
        exact ⟨rfl, hsame⟩
      · right
        simp only [entryCreation, entryStep, dispatch, hx, hwho]
        exact ⟨who, beneficiary, amount, autoUnlock, lease, rfl, h⟩
    | sponsorMinimum beneficiary autoUnlock lease =>
      have hcall : sponsorMinimum T origin beneficiary autoUnlock lease =
          sponsor T origin beneficiary (minimumSponsorship T) autoUnlock lease := rfl
      rcases sponsor_creates T origin beneficiary (minimumSponsorship T) autoUnlock lease s with
        ⟨e, hx⟩ | ⟨who, t, hwho, hx, h⟩
      · left
        simp only [entryCreation, entryStep, dispatch, hcall, hx]
        exact ⟨rfl, hsame⟩
      · right
        simp only [entryCreation, entryStep, dispatch, hcall, hx, hwho]
        exact ⟨who, beneficiary, minimumSponsorship T, autoUnlock, lease, rfl, h⟩
    | unlock beneficiary => exact Or.inl ⟨rfl, outcome_sameRates T _ s _ rfl (entry_outcome T _ s)⟩
    | setPolicy beneficiary autoUnlock lease =>
      left
      -- the one call that asks for a lease and creates nothing
      refine ⟨rfl, ?_⟩
      rcases hx : dispatch T origin (.setPolicy beneficiary autoUnlock lease) s with ⟨e | u, t⟩
      · simp only [entryStep, hx, Dispatch.transactional_error _ _ _ _ hx]
        exact hsame
      · obtain ⟨caller, record, -, h⟩ :=
          setPolicy_ok T _ _ _ _ _ _ _ ((Dispatch.transactional_ok_iff _ _ _ _).mp hx)
        simp only [entryStep, hx]
        exact policySet_sameRates T caller beneficiary autoUnlock lease record s t h
    | forceUnlock beneficiary =>
      exact Or.inl ⟨rfl, outcome_sameRates T _ s _ rfl (entry_outcome T _ s)⟩
    | refresh beneficiary => exact Or.inl ⟨rfl, outcome_sameRates T _ s _ rfl (entry_outcome T _ s)⟩
  | createSponsorship sponsor beneficiary amount autoUnlock lease =>
    rcases hx : createSponsorship T sponsor beneficiary amount autoUnlock lease s with ⟨e | u, t⟩
    · left
      have ht := Dispatch.transactional_error _ _ _ _ hx
      simp only [entryCreation, entryStep, hx, ht]
      exact ⟨rfl, hsame⟩
    · right
      simp only [entryCreation, entryStep, hx]
      exact ⟨sponsor, beneficiary, amount, autoUnlock, lease, rfl, doSponsor_ok T _ _ _ _ _ _ _ _ _ hx⟩
  | unlockSponsorship sponsor beneficiary =>
    exact Or.inl ⟨rfl, outcome_sameRates T _ s _ rfl (entry_outcome T _ s)⟩
  | tryAutoUnlock beneficiary =>
    exact Or.inl ⟨rfl, outcome_sameRates T _ s _ rfl (entry_outcome T _ s)⟩

/-- A genesis build that goes through has created all of its sponsorships in one block. -/
theorem genesisBuild_ratesTracked (hT : RatesBelowMax T) (initial : List (InitialSponsorship A))
    (s t : T.State) (history : List (Creation A)) (hs : RatesTracked T s history)
    (h : genesisBuild T initial s = some t) :
    RatesTracked T t (history ++ initial.map fun i => ⟨s.blockNumber, i.sponsor, i.amount⟩) := by
  induction initial generalizing s history with
  | nil =>
    cases h
    rw [List.map_nil, List.append_nil]
    exact hs
  | cons i initial ih =>
    simp only [genesisBuild, List.foldlM_cons, Option.bind_eq_bind, Option.bind_eq_some_iff] at h
    obtain ⟨u, hu, hrest⟩ := h
    rcases hi : doSponsor T i.sponsor i.beneficiary i.amount i.autoUnlock i.lease false s
      with ⟨_ | _, v⟩
    · simp [hi] at hu
    · simp only [hi, Option.some.injEq] at hu
      subst hu
      have hsponsored := doSponsor_ok T _ _ _ _ _ _ _ _ _ hi
      -- the rest of the list finds the block number that the first creation found
      have hnext := ih v _ (sponsored_ratesTracked T hT _ _ _ _ _ s v history hs hsponsored) hrest
      rw [hsponsored.blockNumber, List.append_assoc] at hnext
      exact hnext

/-- The number of the block that a hook starts is above that of the block before. -/
def BlocksAdvance (s : T.State) : Op A O Λ → Prop
  | .onInitialize now => s.blockNumber < now
  | _ => True

theorem step_ratesTracked (hT : RatesBelowMax T) (s : T.State) (history : List (Creation A))
    (op : Op A O Λ) (hs : RatesTracked T s history) (hop : BlocksAdvance T s op) :
    RatesTracked T (step T s op) (history ++ created T s op) := by
  cases op with
  | entry e =>
    simp only [step, created]
    rcases entry_creates T e s with
      ⟨hnone, hsame⟩ | ⟨sponsor, beneficiary, amount, autoUnlock, lease, hsome, h⟩
    · rw [hnone, Option.toList_none, List.map_nil, List.append_nil]
      exact hsame.tracked history hs
    · rw [hsome]
      exact sponsored_ratesTracked T hT sponsor beneficiary amount autoUnlock lease s _ history hs h
  | genesisBuild initial =>
    simp only [step, created]
    rcases h : genesisBuild T initial s with _ | t
    · simp only [Option.isSome_none, Bool.false_eq_true, if_false, List.append_nil]
      exact hs
    · simp only [Option.isSome_some, if_true]
      exact genesisBuild_ratesTracked T hT initial s t history hs h
  | onInitialize now =>
    rw [created, List.append_nil]
    refine onInitialize_preserves T (fun u => RatesTracked T u history) now
      (fun act u v hact hu hv => (outcome_sameRates T act u v hact hv).tracked history hu)
      (fun u expirations queue hu => ⟨hu.amount, hu.count⟩) s ?_
    exact ⟨fun who => (hs.amount who).advance now hop, fun who => (hs.count who).advance now hop⟩
  | environment f =>
    rw [created, List.append_nil]
    exact ⟨hs.amount, hs.count⟩

theorem spentIn_chargesBy (weight : Creation A → ℕ) (who : A) (n : ℕ)
    (history : List (Creation A)) :
    spentIn n (chargesBy weight who history) =
      ((history.filter fun c => c.sponsor = who ∧ c.block = n).map weight).sum := by
  unfold spentIn chargesBy
  rw [List.filter_map, List.filter_filter, List.map_map]
  congr 2
  apply List.filter_congr
  intro c _
  simp [Bool.and_comm]

/-- In every run, what a sponsor has created in one block is within both limits, whether or
not it was unlocked again in between. -/
theorem creations_keep_to_rate_limits (hT : RatesBelowMax T) (L : Λ) (ops : List (Op A O Λ))
    (hops : Along (step T) (BlocksAdvance T) (emptyStorage T L) ops) (who : A) (n : ℕ) :
    let inBlock := (log (step T) (created T) (emptyStorage T L) ops).filter fun c =>
      c.sponsor = who ∧ c.block = n
    (inBlock.map Creation.amount).sum ≤ T.maxSponsoredAmountPerBlock ∧
      inBlock.length ≤ T.maxNewSponsorshipsPerBlock := by
  intro inBlock
  have hempty : RatesTracked T (emptyStorage T L) ([] : List (Creation A)) := by
    have hledger : ∀ who, (emptyStorage T L).sponsorLedger.getD who {} = {} :=
      fun who => StorageMap.getD_empty who _
    constructor
    · intro who
      rw [hledger]
      exact Meter.tracks_nil _
    · intro who
      rw [hledger]
      exact Meter.tracks_nil _
  have hrun := log_invariant (step T) (created T) (BlocksAdvance T) (RatesTracked T)
    (step_ratesTracked T hT) ops (emptyStorage T L) [] hempty hops
  rw [List.nil_append] at hrun
  have hamount := (hrun.amount who).capped n
  have hcount := (hrun.count who).capped n
  rw [spentIn_chargesBy] at hamount hcount
  refine ⟨hamount, ?_⟩
  rw [List.map_const', List.sum_replicate_nat, Nat.mul_one] at hcount
  exact hcount

/-- One sponsor creates, unlocks and creates again in block one, is refused a third time, and
creates once more in block two. -/
def rateTrace : List (Op ℕ (RawOrigin ℕ) (Ledger ℕ HoldReason)) :=
  [.onInitialize 1,
    .entry (.call (.signed 1) (.sponsor 2 30 .disabled .none)),
    .entry (.call (.signed 1) (.unlock 2)),
    .entry (.call (.signed 1) (.sponsor 2 40 .disabled .none)),
    .entry (.call (.signed 1) (.sponsor 6 30 .disabled .none)),
    .onInitialize 2,
    .entry (.call (.signed 1) (.sponsorMinimum 6 .disabled .none))]

instance (s : mock.State) (op : Op ℕ (RawOrigin ℕ) (Ledger ℕ HoldReason)) :
    Decidable (BlocksAdvance mock s op) :=
  match op with
  | .onInitialize now => inferInstanceAs (Decidable (s.blockNumber < now))
  | .entry _ => isTrue trivial
  | .genesisBuild _ => isTrue trivial
  | .environment _ => isTrue trivial

theorem creations_keep_to_rate_limits_rateTrace :
    log (step mock) (created mock) (emptyStorage mock mockLedger) rateTrace =
        [⟨1, 1, 30⟩, ⟨1, 1, 40⟩, ⟨2, 1, 10⟩] ∧
      ((log (step mock) (created mock) (emptyStorage mock mockLedger) rateTrace).filter fun c =>
        c.sponsor = 1 ∧ c.block = 1).length ≤ mock.maxNewSponsorshipsPerBlock :=
  ⟨by decide +kernel, (creations_keep_to_rate_limits mock ⟨by decide, by decide⟩ mockLedger rateTrace
    (by decide +kernel) 1 1).2⟩

end NuloChain.Sponsorship
