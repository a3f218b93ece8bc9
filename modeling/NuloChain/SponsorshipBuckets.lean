import NuloChain.SponsorshipLeases
import NuloChain.SponsorshipEntries
import Mathlib.Order.Interval.Finset.Nat

/-! The keys that the expiry buckets occupy. Taking a bucket frees its key, but striking an
account out of a bucket writes the bucket back, even an empty one and even one that has just
been taken. So a lease that ends with its block leaves the key of that block behind, and nothing
ever takes a key whose block is over. -/
namespace NuloChain.Sponsorship
open Frame
set_option linter.unusedSectionVars false
variable {A O R Λ : Type} [DecidableEq A] (T : Config A O R Λ)

/-- Every key that is new in `t` is that of a lease which some account had or has. -/
def FromLeases (s t : T.State) : Prop :=
  ∀ k ∈ t.expirations.keys, k ∈ s.expirations.keys ∨
    ∃ b, LeasedUntil T s k b ∨ LeasedUntil T t k b

/-- All keys and all leases are later than `now` and none is later than `last`. -/
structure Within (now last : ℕ) (s : T.State) : Prop where
  keys : ∀ k ∈ s.expirations.keys, now < k ∧ k ≤ last
  leases : ∀ b k, LeasedUntil T s k b → now < k ∧ k ≤ last

theorem within_of_fromLeases (now last : ℕ) (s t : T.State) (hs : Within T now last s)
    (hkeys : FromLeases T s t) (hleases : ∀ b k, LeasedUntil T t k b → now < k ∧ k ≤ last) :
    Within T now last t := by
  refine ⟨?_, hleases⟩
  intro k hk
  rcases hkeys k hk with hold | ⟨b, hbefore | hafter⟩
  · exact hs.keys k hold
  · exact hs.leases b k hbefore
  · exact hleases b k hafter

/-! The keys that one operation writes. -/

theorem insertExpiration_keys (beneficiary : A) (lease : Lease) (s t : T.State) (u : Unit)
    (h : insertExpiration T beneficiary lease s = (.ok u, t)) :
    ∀ k ∈ t.expirations.keys, k ∈ s.expirations.keys ∨ lease = .until k := by
  intro k hk
  cases lease with
  | none =>
    obtain ⟨-, rfl⟩ := (Dispatch.pure_ok_iff _ _ _ _).mp h
    exact Or.inl hk
  | «until» expiry =>
    simp only [insertExpiration, Dispatch.bind_ok_iff, Dispatch.read_ok_iff, Dispatch.when_ok_iff,
      Dispatch.okOr_ok_iff, Dispatch.write_ok_iff] at h
    obtain ⟨_, _, ⟨rfl, rfl⟩, ⟨-, pushed, _, ⟨-, rfl⟩, rfl⟩ | ⟨-, rfl⟩⟩ := h
    · change k ∈ (StorageMap.insert _ expiry pushed).keys at hk
      rw [StorageMap.keys_insert, Finset.mem_insert] at hk
      rcases hk with rfl | hold
      · exact Or.inr rfl
      · exact Or.inl hold
    · exact Or.inl hk

theorem removeExpiration_keys (beneficiary : A) (lease : Lease) (s : T.State) :
    ∀ k ∈ (removeExpiration T beneficiary lease s).expirations.keys,
      k ∈ s.expirations.keys ∨ lease = .until k := by
  intro k hk
  cases lease with
  | none => exact Or.inl hk
  | «until» expiry =>
    change k ∈ (StorageMap.insert _ expiry _).keys at hk
    rw [StorageMap.keys_insert, Finset.mem_insert] at hk
    rcases hk with rfl | hold
    · exact Or.inr rfl
    · exact Or.inl hold

theorem doSponsor_keys (sponsor beneficiary : A) (amount : ℕ) (autoUnlock : AutoUnlockMode)
    (lease : Lease) (emitEvent : Bool) (s t : T.State) (u : Unit)
    (h : doSponsor T sponsor beneficiary amount autoUnlock lease emitEvent s = (.ok u, t)) :
    ∀ k ∈ t.expirations.keys, k ∈ s.expirations.keys ∨ lease = .until k := by
  rw [doSponsor, Dispatch.transactional_ok_iff] at h
  simp only [doSponsorBody, Dispatch.bind_ok_iff, Dispatch.write_ok_iff] at h
  obtain ⟨ledger, s₀, hcheck, _, s₁, hplace, _, s₂, hs₂, _, s₃, hexp, _, s₄, hqueue, hevent⟩ := h
  obtain ⟨rfl, -⟩ := checkSponsor_ok T _ _ _ _ _ _ _ hcheck
  obtain ⟨L, -, rfl⟩ := placeHolds_ok T _ _ _ _ _ _ hplace
  subst hs₂
  have hkeys := insertExpiration_keys T _ _ _ _ _ hexp
  -- neither the queue nor the log touches a bucket
  obtain ⟨queue, rfl, -⟩ := enqueueAutoUnlock_ok T _ _ _ _ _ hqueue
  obtain ⟨events, rfl⟩ := depositEvent_ok T _ _ _ _ _ hevent
  exact hkeys

theorem setPolicy_keys (origin : O) (beneficiary : A) (autoUnlock : AutoUnlockMode) (lease : Lease)
    (record : SponsorshipRecord A) (s t : T.State) (u : Unit)
    (hfound : s.sponsorships.get beneficiary = some record)
    (h : setPolicy T origin beneficiary autoUnlock lease s = (.ok u, t)) :
    ∀ k ∈ t.expirations.keys, k ∈ s.expirations.keys ∨
      (record.lease = .until k ∨ lease = .until k) := by
  rw [setPolicy, Dispatch.transactional_ok_iff] at h
  simp only [setPolicyBody, ensureSigned, depositEvent, logged, Dispatch.bind_ok_iff,
    Dispatch.read_ok_iff, Dispatch.ensure_ok_iff, Dispatch.okOr_ok_iff,
    Dispatch.write_ok_iff] at h
  obtain ⟨caller, _, ⟨-, rfl⟩, _, _, ⟨rfl, rfl⟩, found, _, ⟨hget, rfl⟩, _, _, ⟨-, rfl⟩,
    _, _, hlease, _, s₁, hmove, _, s₂, hqueue, _, _, rfl, rfl⟩ := h
  obtain rfl := Option.some.inj (hfound.symm.trans hget)
  obtain ⟨-, rfl⟩ := validateLease_ok T _ _ _ _ _ hlease
  obtain ⟨queue, rfl, -⟩ := enqueueAutoUnlock_ok T _ _ _ _ _ hqueue
  intro k hk
  change k ∈ s₁.expirations.keys at hk
  simp only [Dispatch.when_ok_iff, Dispatch.bind_ok_iff, Dispatch.write_ok_iff] at hmove
  rcases hmove with ⟨-, _, s₀, hinsert, rfl⟩ | ⟨-, rfl⟩
  · rcases removeExpiration_keys T _ _ _ k hk with hk₀ | hold
    · rcases insertExpiration_keys T _ _ _ _ _ hinsert k hk₀ with hthere | hnew
      · exact Or.inl hthere
      · exact Or.inr (Or.inr hnew)
    · exact Or.inr (Or.inl hold)
  · exact Or.inl hk

theorem fromLeases_refl (s : T.State) : FromLeases T s s := fun _ hk => Or.inl hk

/-- A creation writes the key of the lease that it gives. -/
theorem doSponsor_fromLeases (sponsor beneficiary : A) (amount : ℕ) (autoUnlock : AutoUnlockMode)
    (lease : Lease) (emitEvent : Bool) (s t : T.State) (u : Unit)
    (h : doSponsor T sponsor beneficiary amount autoUnlock lease emitEvent s = (.ok u, t)) :
    FromLeases T s t := by
  intro k hk
  have hsponsored := doSponsor_ok T _ _ _ _ _ _ _ _ _ h
  rcases doSponsor_keys T _ _ _ _ _ _ _ _ _ h k hk with hold | hlease
  · exact Or.inl hold
  · have hget : t.sponsorships.get beneficiary =
        some ⟨sponsor, amount, autoUnlock, lease, s.blockNumber⟩ := by
      rw [hsponsored.sponsorships, StorageMap.get_insert_self]
    exact Or.inr ⟨beneficiary, Or.inr ⟨_, hget, hlease⟩⟩

/-- A new policy writes the keys of the lease that it takes and of the one that it gives. -/
theorem setPolicy_fromLeases (origin : O) (beneficiary : A) (autoUnlock : AutoUnlockMode)
    (lease : Lease) (s t : T.State) (u : Unit)
    (h : setPolicy T origin beneficiary autoUnlock lease s = (.ok u, t)) : FromLeases T s t := by
  intro k hk
  obtain ⟨caller, record, -, hpolicy⟩ := setPolicy_ok T _ _ _ _ _ _ _ h
  rcases setPolicy_keys T _ _ _ _ _ _ _ _ hpolicy.found h k hk with hold | htaken | hgiven
  · exact Or.inl hold
  · exact Or.inr ⟨beneficiary, Or.inl ⟨record, hpolicy.found, htaken⟩⟩
  · have hget : t.sponsorships.get beneficiary =
        some { record with autoUnlock := autoUnlock, lease := lease } := by
      rw [hpolicy.sponsorships, StorageMap.get_insert_self]
    exact Or.inr ⟨beneficiary, Or.inr ⟨_, hget, hgiven⟩⟩

/-- What asks for no lease writes the key of the lease of the sponsorship that it ends. -/
theorem outcome_fromLeases (act : Action A O) (s t : T.State) (hact : act.lease = none)
    (h : Outcome T act s t) : FromLeases T s t := by
  cases h with
  | idle => exact fromLeases_refl T s
  | sponsored sponsor beneficiary amount autoUnlock lease _ hask _ =>
    rw [hact] at hask
    cases hask
  | revoked beneficiary record L event found refunded authorised =>
    intro k hk
    rcases removeExpiration_keys T beneficiary record.lease s k hk with hold | hlease
    · exact Or.inl hold
    · exact Or.inr ⟨beneficiary, Or.inl ⟨record, found, hlease⟩⟩
  | policy origin caller beneficiary autoUnlock lease record _ _ hask _ =>
    rw [hask] at hact
    cases hact

theorem doSponsor_storage_fromLeases (sponsor beneficiary : A) (amount : ℕ)
    (autoUnlock : AutoUnlockMode) (lease : Lease) (emitEvent : Bool) (s : T.State) :
    FromLeases T s (doSponsor T sponsor beneficiary amount autoUnlock lease emitEvent s).2 := by
  rcases h : doSponsor T sponsor beneficiary amount autoUnlock lease emitEvent s with ⟨e | u, t⟩
  · rw [Dispatch.transactional_error _ _ _ _ h]
    exact fromLeases_refl T s
  · exact doSponsor_fromLeases T _ _ _ _ _ _ _ _ _ h

theorem call_fromLeases (origin : O) (call : Call A) (s : T.State) :
    FromLeases T s (dispatch T origin call s).2 := by
  rcases h : dispatch T origin call s with ⟨e | u, t⟩
  · rw [Dispatch.transactional_error _ _ _ _ h]
    exact fromLeases_refl T s
  have hbody := (Dispatch.transactional_ok_iff _ _ _ _).mp h
  have hout : Outcome T (.entry (.call origin call)) s t := by
    have houtcome := call_outcome T origin call s
    rw [h] at houtcome
    exact houtcome
  cases call with
  | sponsor beneficiary amount autoUnlock lease =>
    obtain ⟨who, -, hdo⟩ := signed_ok T _ _ _ _ _ hbody
    exact doSponsor_fromLeases T _ _ _ _ _ _ _ _ _ hdo
  | sponsorMinimum beneficiary autoUnlock lease =>
    obtain ⟨who, -, hdo⟩ := signed_ok T _ _ _ _ _ hbody
    exact doSponsor_fromLeases T _ _ _ _ _ _ _ _ _ hdo
  | setPolicy beneficiary autoUnlock lease => exact setPolicy_fromLeases T _ _ _ _ _ _ _ hbody
  | unlock beneficiary => exact outcome_fromLeases T _ s t rfl hout
  | forceUnlock beneficiary => exact outcome_fromLeases T _ s t rfl hout
  | refresh beneficiary => exact outcome_fromLeases T _ s t rfl hout

theorem entry_fromLeases (e : Entry A O) (s : T.State) : FromLeases T s (entryStep T s e) := by
  cases e with
  | call origin call => exact call_fromLeases T origin call s
  | createSponsorship sponsor beneficiary amount autoUnlock lease =>
    exact doSponsor_storage_fromLeases T _ _ _ _ _ _ s
  | unlockSponsorship sponsor beneficiary =>
    exact outcome_fromLeases T _ s _ rfl (entry_outcome T (.unlockSponsorship sponsor beneficiary) s)
  | tryAutoUnlock beneficiary =>
    exact outcome_fromLeases T _ s _ rfl (entry_outcome T (.tryAutoUnlock beneficiary) s)

/-- An action that asks for no lease until the current block gives one that ends later, and
none beyond the maximum duration. -/
theorem outcome_leases (now last : ℕ) (act : Action A O) (s t : T.State)
    (hnow : s.blockNumber = now) (hact : act.lease ≠ some (.until now))
    (hlast : act.lease ≠ none → now+T.maxLeaseDuration ≤ last)
    (hs : ∀ b k, LeasedUntil T s k b → now < k ∧ k ≤ last) (h : Outcome T act s t) :
    ∀ b k, LeasedUntil T t k b → now < k ∧ k ≤ last := by
  rintro b k ⟨record, hb, hlease⟩
  -- a lease that has been asked for is valid, and it is not until the current block
  have hasked : ∀ lease, act.lease = some lease → lease = .until k →
      (s.blockNumber ≤ k ∧ k-s.blockNumber ≤ T.maxLeaseDuration) → now < k ∧ k ≤ last := by
    rintro lease hask rfl hvalid
    have hbound := hlast (by rw [hask]; exact Option.some_ne_none _)
    have hne : k ≠ now := fun he => hact (he ▸ hask)
    omega
  rcases outcome_record T act s t h b record hb with hold |
    ⟨sponsor, amount, mode, lease, hask, h, rfl⟩ |
    ⟨origin, caller, mode, lease, old, -, hask, h, rfl⟩
  · exact hs b k ⟨record, hold, hlease⟩
  · exact hasked lease hask hlease (h.leaseValid k hlease)
  · exact hasked lease (hask ▸ rfl) hlease (h.leaseValid k hlease)

/-! The steps of a run. -/

/-- No lease reaches its end: no call and no initial sponsorship asks for one until the current
block, and none is until the block that begins. -/
def EndsLater (s : T.State) : Op A O Λ → Prop
  | .entry e => e.lease ≠ some (.until s.blockNumber)
  | .genesisBuild initial => ∀ i ∈ initial, i.lease ≠ .until s.blockNumber
  | .onInitialize now => ∀ b, ¬ LeasedUntil T s now b
  | .environment _ => True

/-- Blocks come one after the other. -/
def NextBlock (s : T.State) : Op A O Λ → Prop
  | .onInitialize now => now = s.blockNumber+1
  | _ => True

/-- A turn of the hook, which gives no lease. -/
theorem turn_within (now last : ℕ) (act : Action A O) (s t : T.State) (hact : act.lease = none)
    (hs : s.blockNumber = now ∧ Within T now last s) (h : Outcome T act s t) :
    t.blockNumber = now ∧ Within T now last t := by
  obtain ⟨hnow, hwithin⟩ := hs
  refine ⟨(outcome_blockNumber T act s t h).trans hnow, ?_⟩
  apply within_of_fromLeases T now last s t hwithin (outcome_fromLeases T act s t hact h)
  exact outcome_leases T now last act s t hnow (by rw [hact]; exact (Option.some_ne_none _).symm)
    (fun hne => absurd hact hne) hwithin.leases h

/-- The hook of the next block: its key is taken, and what the loops write back is later. -/
theorem onInitialize_within (s : T.State) (now last : ℕ) (hnow : now = s.blockNumber+1)
    (hs : Within T s.blockNumber last s) (hends : ∀ b, ¬ LeasedUntil T s now b) :
    (step T s (.onInitialize now : Op A O Λ)).blockNumber = now ∧
      Within T now last (step T s (.onInitialize now : Op A O Λ)) := by
  obtain ⟨processed, hqueue⟩ := step_onInitialize (O := O) T now s
  -- the key of the block is taken, and no lease is left that could write it back
  have hstart : Within T now last
      { s with blockNumber := now, expirations := s.expirations.remove now } := by
    constructor
    · intro k hk
      change k ∈ (s.expirations.remove now).keys at hk
      rw [StorageMap.keys_remove] at hk
      obtain ⟨hne, hold⟩ := Finset.mem_erase.mp hk
      have hkey := hs.keys k hold
      omega
    · intro b k hb
      have hne : k ≠ now := fun he => hends b (he ▸ hb)
      have hlease := hs.leases b k hb
      omega
  have hexpired := expireLoop_preserves (O := O) T
    (fun u => u.blockNumber = now ∧ Within T now last u) now
    (fun b u v hu hv => turn_within T now last _ u v rfl hu hv) (bucket T s now).toList _
    ⟨rfl, hstart⟩
  exact processAutoUnlockQueue_preserves (O := O) T
    (fun u => u.blockNumber = now ∧ Within T now last u)
    (fun b i u v hu hv => turn_within T now last _ u v rfl hu hv)
    (fun u queue hu => ⟨hu.1, ⟨hu.2.keys, hu.2.leases⟩⟩) _ _ _ hexpired hqueue

theorem Within.mono {now last last' : ℕ} {s : T.State} (h : Within T now last s)
    (hle : last ≤ last') : Within T now last' s :=
  ⟨fun k hk => ⟨(h.keys k hk).1, (h.keys k hk).2.trans hle⟩,
    fun b k hb => ⟨(h.leases b k hb).1, (h.leases b k hb).2.trans hle⟩⟩

/-- One step of a chain of blocks. -/
theorem step_within (s : T.State) (op : Op A O Λ)
    (hs : Within T s.blockNumber (s.blockNumber+T.maxLeaseDuration) s)
    (hop : NextBlock T s op ∧ EndsLater T s op) :
    Within T (step T s op).blockNumber ((step T s op).blockNumber+T.maxLeaseDuration)
      (step T s op) := by
  obtain ⟨hnext, hends⟩ := hop
  cases op with
  | entry e =>
    have hout := entry_outcome T e s
    have hblock : (step T s (.entry e : Op A O Λ)).blockNumber = s.blockNumber :=
      outcome_blockNumber T _ s _ hout
    rw [hblock]
    exact within_of_fromLeases T _ _ s _ hs (entry_fromLeases T e s)
      (outcome_leases T _ _ (.entry e) s _ rfl hends (fun _ => le_refl _) hs.leases hout)
  | genesisBuild initial =>
    simp only [step]
    rcases h : genesisBuild T initial s with _ | t
    · exact hs
    · -- every initial sponsorship writes a key later than the current block, if any
      have hall := genesisBuild_doSponsor T (fun u => u.blockNumber = s.blockNumber ∧
          Within T s.blockNumber (s.blockNumber+T.maxLeaseDuration) u) initial ?_ s t ⟨rfl, hs⟩ h
      · rw [Option.getD_some, hall.1]
        exact hall.2
      · rintro i hi u v done ⟨hblock, hu⟩ hdo
        have hsponsored := doSponsor_ok T _ _ _ _ _ _ _ _ _ hdo
        have hlease : Action.lease (.initial i : Action A O) ≠ some (.until s.blockNumber) :=
          fun he => hends i hi (Option.some.inj he)
        refine ⟨hsponsored.blockNumber.trans hblock, ?_⟩
        apply within_of_fromLeases T _ _ u v hu (doSponsor_fromLeases T _ _ _ _ _ _ _ _ _ hdo)
        exact outcome_leases T _ _ (.initial i : Action A O) u v hblock hlease (fun _ => le_refl _)
          hu.leases (.sponsored _ _ _ _ _ v rfl hsponsored)
  | onInitialize now =>
    obtain ⟨hblock, hafter⟩ := onInitialize_within (O := O) T s now _ hnext hs hends
    rw [hblock]
    apply hafter.mono T
    rw [hnext]
    omega
  | environment f => exact ⟨hs.keys, hs.leases⟩

/-- In every chain of blocks in which no lease reaches its end, the keys that are stored right
after the hook of block `n` lie between `n+1` and the end of the longest lease that block `n-1`
could give; so there are fewer of them than blocks in the longest lease. -/
theorem expirations_within_window (L : Λ) (ops : List (Op A O Λ)) (n : ℕ)
    (hblocks : Along (step T) (NextBlock T) (emptyStorage T L) (ops ++ [.onInitialize n]))
    (hends : Along (step T) (EndsLater T) (emptyStorage T L) (ops ++ [.onInitialize n])) :
    let s := run (step T) (emptyStorage T L) (ops ++ [.onInitialize n])
    (∀ k ∈ s.expirations.keys, n+1 ≤ k ∧ k ≤ n-1+T.maxLeaseDuration) ∧
      s.expirations.keys.card ≤ T.maxLeaseDuration-1 := by
  intro s
  have hempty : Within T 0 (0+T.maxLeaseDuration) (emptyStorage T L) := by
    have hnone : ∀ k, k ∉ (emptyStorage T L).expirations.keys := fun k =>
      (StorageMap.notMem_keys _ k).mpr (StorageMap.get_empty k)
    refine ⟨fun k hk => absurd hk (hnone k), ?_⟩
    rintro b k ⟨record, hrecord, -⟩
    rw [show (emptyStorage T L).sponsorships.get b = none from StorageMap.get_empty b] at hrecord
    cases hrecord
  -- the hook of block `n` starts from keys that block `n-1` could still write
  obtain ⟨hpre, hlast⟩ := (along_append _ _ _ _ _).mp (along_and _ _ _ _ _ hblocks hends)
  have hinv := run_invariant (step T) _
    (fun s => Within T s.blockNumber (s.blockNumber+T.maxLeaseDuration) s) (step_within T) ops
    (emptyStorage T L) hempty hpre
  obtain ⟨⟨hn, hnone⟩, -⟩ := hlast
  obtain ⟨-, hafter⟩ := onInitialize_within (O := O) T _ n _ hn hinv hnone
  have hs : s = step T (run (step T) (emptyStorage T L) ops) (.onInitialize n : Op A O Λ) :=
    run_append _ _ _ _
  change n = (run (step T) (emptyStorage T L) ops).blockNumber+1 at hn
  have hwindow : ∀ k ∈ s.expirations.keys, n+1 ≤ k ∧ k ≤ n-1+T.maxLeaseDuration := by
    intro k hk
    rw [hs] at hk
    have hkey := hafter.keys k hk
    omega
  refine ⟨hwindow, ?_⟩
  have hsubset : s.expirations.keys ⊆ Finset.Icc (n+1) (n-1+T.maxLeaseDuration) :=
    fun k hk => Finset.mem_Icc.mpr (hwindow k hk)
  have hcard := Finset.card_le_card hsubset
  rw [Nat.card_Icc] at hcard
  omega

theorem not_leasedUntil_of_keys (s : T.State) (now : ℕ)
    (h : ∀ b ∈ s.sponsorships.keys,
      (s.sponsorships.get b).map SponsorshipRecord.lease ≠ some (.until now)) :
    ∀ b, ¬ LeasedUntil T s now b := by
  rintro b ⟨record, hrecord, hlease⟩
  apply h b ((StorageMap.mem_keys _ b).mpr ⟨record, hrecord⟩)
  rw [hrecord, Option.map_some, hlease]

/-- A lease until block three that ends early, in the first block. -/
def windowTrace : List (Op ℕ (RawOrigin ℕ) (Ledger ℕ HoldReason)) :=
  [.genesisBuild [⟨1, 2, 30, .disabled, .until 3⟩], .onInitialize 1,
    .entry (.call (.signed 1) (.unlock 2))]

theorem expirations_within_window_windowTrace :
    let s := run (step mock) (emptyStorage mock mockLedger) (windowTrace ++ [.onInitialize 2])
    s.sponsorships.keys = ∅ ∧ s.expirations.keys = {3} ∧ s.expirations.keys.card ≤ 99 := by
  intro s
  have hends : Along (step mock) (EndsLater mock) (emptyStorage mock mockLedger)
      (windowTrace ++ [.onInitialize 2]) := by
    refine ⟨?_, ?_, ?_, ?_, trivial⟩
    · intro i hi
      obtain rfl := List.mem_singleton.mp hi
      decide
    · exact not_leasedUntil_of_keys mock _ 1 (by decide +kernel)
    · exact (Option.some_ne_none _).symm
    · exact not_leasedUntil_of_keys mock _ 2 (by decide +kernel)
  have hblocks : Along (step mock) (NextBlock mock) (emptyStorage mock mockLedger)
      (windowTrace ++ [.onInitialize 2]) :=
    ⟨trivial, by unfold NextBlock; decide +kernel, trivial, by unfold NextBlock; decide +kernel,
      trivial⟩
  exact ⟨by decide +kernel, by decide +kernel,
    (expirations_within_window mock mockLedger windowTrace 2 hblocks hends).2⟩

/-- A lease that ends at block two, in the block before. -/
def endedLeaseTrace : List (Op ℕ (RawOrigin ℕ) (Ledger ℕ HoldReason)) :=
  [.onInitialize 1, .entry (.call (.signed 1) (.sponsor 2 30 .disabled (.until 2)))]

/-- The hook of block two takes the bucket, ends the sponsorship and writes the bucket back. -/
theorem ended_lease_leaves_its_key :
    let s := run (step mock) (emptyStorage mock mockLedger) (endedLeaseTrace ++ [.onInitialize 2])
    Along (step mock) (NextBlock mock) (emptyStorage mock mockLedger)
      (endedLeaseTrace ++ [.onInitialize 2]) ∧
    s.sponsorships.get 2 = none ∧ s.expirations.keys = {2} ∧
    ¬ ∀ k ∈ s.expirations.keys, 2+1 ≤ k ∧ k ≤ 2-1+mock.maxLeaseDuration := by
  intro s
  have hkeys : s.expirations.keys = {2} := by decide +kernel
  refine ⟨⟨by unfold NextBlock; decide +kernel, trivial, by unfold NextBlock; decide +kernel,
    trivial⟩, by decide +kernel, hkeys, ?_⟩
  intro h
  have hwindow := h 2 (by rw [hkeys]; exact Finset.mem_singleton_self 2)
  omega

end NuloChain.Sponsorship
