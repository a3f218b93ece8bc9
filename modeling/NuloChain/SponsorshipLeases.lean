import NuloChain.SponsorshipIndex

/-! When leases end. Blocks run `on_initialize` first and calls afterwards, and a lease that
is accepted in a block may already end at that block, whose expiry pass is over. -/
namespace NuloChain.Sponsorship
open Frame
set_option linter.unusedSectionVars false
variable {A O R Λ : Type} [DecidableEq A] (T : Config A O R Λ)

/-- No lease of an active sponsorship ends before block `n`. -/
def LeasesFrom (n : ℕ) (s : T.State) : Prop :=
  ∀ b record e, s.sponsorships.get b = some record → record.lease = .until e → n ≤ e

/-- An action that asks for no lease ending before `n` leaves none ending before `n`. -/
theorem outcome_leasesFrom (n : ℕ) (act : Action A O) (s t : T.State)
    (hact : ∀ e, act.lease = some (.until e) → s.blockNumber ≤ e → n ≤ e)
    (hs : LeasesFrom T n s) (h : Outcome T act s t) : LeasesFrom T n t := by
  intro b record e hb hlease
  rcases outcome_record T act s t h b record hb with hold |
    ⟨sponsor, amount, mode, lease, hask, h, rfl⟩ |
    ⟨origin, caller, mode, lease, old, -, hask, h, rfl⟩
  · exact hs b record e hold hlease
  · change lease = .until e at hlease
    subst hlease
    exact hact e hask (h.leaseValid e rfl).1
  · change lease = .until e at hlease
    subst hlease
    exact hact e (hask ▸ rfl) (h.leaseValid e rfl).1

theorem outcome_blockNumber (act : Action A O) (s t : T.State) (h : Outcome T act s t) :
    t.blockNumber = s.blockNumber := by
  cases h with
  | idle => rfl
  | sponsored sponsor beneficiary amount autoUnlock lease _ _ h => exact h.blockNumber
  | revoked beneficiary record L event found refunded authorised =>
    exact blockNumber_revokedStorage T beneficiary record L s
  | policy origin caller beneficiary autoUnlock lease record _ _ _ h => exact h.blockNumber

/-- Every lease is indexed and ends after the current block. -/
structure LeasesAhead (s : T.State) : Prop where
  indexed : LeasesIndexed T s
  ahead : LeasesFrom T (s.blockNumber+1) s

theorem outcome_leasesAhead (act : Action A O) (s t : T.State)
    (hact : act.lease ≠ some (.until s.blockNumber)) (hs : LeasesAhead T s)
    (h : Outcome T act s t) : LeasesAhead T t := by
  refine ⟨outcome_leasesIndexed T act s t hs.indexed h, ?_⟩
  rw [outcome_blockNumber T act s t h]
  refine outcome_leasesFrom T _ act s t ?_ hs.ahead h
  intro e hask hle
  -- `validate_lease` only gives `now ≤ e`; strictness is what the side condition adds
  have hne : e ≠ s.blockNumber := fun he => hact (he ▸ hask)
  omega

/-- The hook of block `n` ends every lease that runs until `n`, if the currency lets it. -/
theorem onInitialize_leasesAhead (n : ℕ) (s : T.State) (hindexed : LeasesIndexed T s)
    (hfrom : LeasesFrom T n s) (h : ExpiriesAccepted T n { s with blockNumber := n }) :
    LeasesAhead T (step T s (.onInitialize n : Op A O Λ)) ∧
      (step T s (.onInitialize n : Op A O Λ)).blockNumber = n := by
  obtain ⟨processed, hqueue⟩ := step_onInitialize (O := O) T n s
  have hbut := processExpirations_indexed T n { s with blockNumber := n } hindexed h
  have hkept : LeasesFrom T n (processExpirations T n { s with blockNumber := n }).1 ∧
      (processExpirations T n { s with blockNumber := n }).1.blockNumber = n := by
    refine expireLoop_preserves (O := O) T
      (fun u => LeasesFrom T n u ∧ u.blockNumber = n) n ?_ _ _ ⟨hfrom, rfl⟩
    intro b u v hu hv
    exact ⟨outcome_leasesFrom T n _ u v (fun e hask => by cases hask) hu.1 hv,
      (outcome_blockNumber T _ u v hv).trans hu.2⟩
  -- a lease that ends at `n` would have to be among the entries still to be handled, and none is
  have hexpired : LeasesFrom T (n+1) (processExpirations T n { s with blockNumber := n }).1 := by
    intro b record e hb hlease
    have hle := hkept.1 b record e hb hlease
    have hmem := hbut b record e hb hlease
    by_cases he : e = n
    · rw [if_pos he] at hmem
      exact absurd hmem List.not_mem_nil
    · omega
  have hend := processAutoUnlockQueue_preserves (O := O) T
    (fun u => LeasesAhead T u ∧ u.blockNumber = n) (fun b i u v hu hv =>
      ⟨outcome_leasesAhead T _ u v (fun hask => by cases hask) hu.1 hv,
        (outcome_blockNumber T _ u v hv).trans hu.2⟩)
    (fun u queue hu => ⟨⟨hu.1.indexed, hu.1.ahead⟩, hu.2⟩) _ _ _
    ⟨⟨leasesIndexed_of_indexedBut T n _ hbut, by rw [hkept.2]; exact hexpired⟩, hkept.2⟩ hqueue
  exact hend

/-- Blocks come in order, each with its hook, and the refunds of the hook succeed. -/
def InBlocks (s : T.State) : Op A O Λ → Prop
  | .entry _ => True
  | .genesisBuild _ => False
  | .onInitialize n => n = s.blockNumber+1 ∧ ExpiriesAccepted T n { s with blockNumber := n }
  | .environment _ => True

/-- The step asks for no lease that ends at the current block. -/
def AsksLater (s : T.State) : Op A O Λ → Prop
  | .entry e => e.lease ≠ some (.until s.blockNumber)
  | _ => True

theorem step_leasesAhead (s : T.State) (op : Op A O Λ) (hs : LeasesAhead T s)
    (hop : InBlocks T s op ∧ AsksLater T s op) : LeasesAhead T (step T s op) := by
  cases op with
  | entry e => exact outcome_leasesAhead T (.entry e) s _ hop.2 hs (entry_outcome T e s)
  | genesisBuild initial => exact hop.1.elim
  | onInitialize n =>
    obtain ⟨hn, haccepted⟩ := hop.1
    have hfrom : LeasesFrom T n s := hn ▸ hs.ahead
    exact (onInitialize_leasesAhead T n s hs.indexed hfrom haccepted).1
  | environment f => exact ⟨hs.indexed, hs.ahead⟩

theorem genesis_leasesAhead (initial : List (InitialSponsorship A)) (L : Λ) (s : T.State)
    (h : genesisBuild T initial (emptyStorage T L) = some s)
    (hinitial : ∀ i ∈ initial, i.lease ≠ .until 0) : LeasesAhead T s := by
  have hempty : LeasesAhead T (emptyStorage T L) := by
    constructor
    · intro b record e hget
      simp [emptyStorage] at hget
    · intro b record e hget
      simp [emptyStorage] at hget
  have hall := genesisBuild_preserves (O := O) T (fun u => LeasesAhead T u ∧ u.blockNumber = 0)
    initial ?_ (emptyStorage T L) s ⟨hempty, rfl⟩ h
  · exact hall.1
  · intro i hi u v hu hv
    refine ⟨outcome_leasesAhead T _ u v ?_ hu.1 hv, (outcome_blockNumber T _ u v hv).trans hu.2⟩
    intro hask
    rw [hu.2] at hask
    exact hinitial i hi (Option.some.inj hask)

/-- In every chain of blocks in which nobody is given a lease that ends at the block it is
asked for in, no lease that ends by block `n` is left right after the hook of block `n`. -/
theorem leases_end_on_time (L : Λ) (initial : List (InitialSponsorship A)) (s : T.State)
    (hgenesis : genesisBuild T initial (emptyStorage T L) = some s)
    (hinitial : ∀ i ∈ initial, i.lease ≠ .until 0) (ops : List (Op A O Λ)) (n : ℕ)
    (hblocks : Along (step T) (InBlocks T) s (ops ++ [.onInitialize n]))
    (hlater : Along (step T) (AsksLater T) s (ops ++ [.onInitialize n])) :
    ∀ b record e,
      (run (step T) s (ops ++ [.onInitialize n])).sponsorships.get b = some record →
        record.lease = .until e → n < e := by
  have hstart := genesis_leasesAhead (O := O) T initial L s hgenesis hinitial
  obtain ⟨hpre, hlast, -⟩ := (along_append _ _ _ _ _).mp (along_and _ _ _ _ _ hblocks hlater)
  have hinv := run_invariant (step T) _ (LeasesAhead T) (step_leasesAhead T) ops s hstart hpre
  obtain ⟨hn, haccepted⟩ := hlast.1
  have hfrom : LeasesFrom T n (run (step T) s ops) := hn ▸ hinv.ahead
  obtain ⟨hafter, hblock⟩ := onInitialize_leasesAhead (O := O) T n _ hinv.indexed hfrom haccepted
  intro b record e hb hlease
  rw [run_append] at hb
  have hle := hafter.ahead b record e hb hlease
  rw [hblock] at hle
  exact hle

instance (s : mock.State) (op : Op ℕ (RawOrigin ℕ) (Ledger ℕ HoldReason)) :
    Decidable (InBlocks mock s op) :=
  match op with
  | .entry _ => isTrue trivial
  | .genesisBuild _ => isFalse id
  | .onInitialize n => inferInstanceAs (Decidable (n = s.blockNumber+1 ∧
      ExpiriesAccepted mock n { s with blockNumber := n }))
  | .environment _ => isTrue trivial

instance (s : mock.State) (op : Op ℕ (RawOrigin ℕ) (Ledger ℕ HoldReason)) :
    Decidable (AsksLater mock s op) :=
  match op with
  | .entry e => inferInstanceAs (Decidable (e.lease ≠ some (.until s.blockNumber)))
  | .genesisBuild _ => isTrue trivial
  | .onInitialize _ => isTrue trivial
  | .environment _ => isTrue trivial

/-- The test runtime built with one initial sponsorship that ends at block two. -/
def leaseGenesis : mock.State :=
  (genesisBuild mock [⟨4, 6, 30, .disabled, .until 2⟩] (emptyStorage mock mockLedger)).getD
    (emptyStorage mock mockLedger)

/-- A second lease ends at block two, and the first is moved to block five. -/
def leaseTrace : List (Op ℕ (RawOrigin ℕ) (Ledger ℕ HoldReason)) :=
  [.onInitialize 1,
    .entry (.call (.signed 1) (.sponsor 2 30 .disabled (.until 2))),
    .entry (.call (.signed 4) (.setPolicy 6 .disabled (.until 5)))]

theorem leases_end_on_time_leaseTrace :
    (run (step mock) leaseGenesis leaseTrace).sponsorships.keys = {2, 6} ∧
      ∀ b record e, (run (step mock) leaseGenesis
        (leaseTrace ++ [.onInitialize 2])).sponsorships.get b = some record →
          record.lease = .until e → 2 < e := by
  have hsome : (genesisBuild mock [⟨4, 6, 30, .disabled, .until 2⟩]
      (emptyStorage mock mockLedger)).isSome = true := by decide +kernel
  have hgenesis : genesisBuild mock [⟨4, 6, 30, .disabled, .until 2⟩]
      (emptyStorage mock mockLedger) = some leaseGenesis := by
    obtain ⟨s, hs⟩ := Option.isSome_iff_exists.mp hsome
    rw [leaseGenesis, hs, Option.getD_some]
  exact ⟨by decide +kernel, leases_end_on_time mock mockLedger _ leaseGenesis hgenesis
    (by decide +kernel) leaseTrace 2 (by decide +kernel) (by decide +kernel)⟩

/-- In block one, after its hook, a sponsor asks for a lease that ends at block one. -/
def lateTrace : List (Op ℕ (RawOrigin ℕ) (Ledger ℕ HoldReason)) :=
  [.onInitialize 1, .entry (.call (.signed 1) (.sponsor 2 30 .disabled (.until 1)))]

theorem lease_until_current_block_never_ends :
    genesisBuild mock [] (emptyStorage mock mockLedger) = some (emptyStorage mock mockLedger) ∧
      Along (step mock) (InBlocks mock) (emptyStorage mock mockLedger)
        (lateTrace ++ [.onInitialize 2]) ∧
      ¬ (∀ b record e, (run (step mock) (emptyStorage mock mockLedger)
          (lateTrace ++ [.onInitialize 2])).sponsorships.get b = some record →
        record.lease = .until e → 2 < e) := by
  refine ⟨rfl, by decide +kernel, ?_⟩
  intro h
  have hrecord : (run (step mock) (emptyStorage mock mockLedger)
      (lateTrace ++ [.onInitialize 2])).sponsorships.get 2 =
        some ⟨1, 30, .disabled, .until 1, 1⟩ := by decide +kernel
  exact absurd (h 2 _ 1 hrecord rfl) (by decide)

end NuloChain.Sponsorship
