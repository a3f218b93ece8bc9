import NuloChain.SponsorshipRuns

/-! The per-sponsor ledger against the records: its two totals are exact aggregates and
stay within the configured caps, so the saturating arithmetic on them never clamps. -/
namespace NuloChain.Sponsorship
open Frame
set_option linter.unusedSectionVars false
variable {A O R Λ : Type} [DecidableEq A] (T : Config A O R Λ)

/-- The total amount of the records that name `a` as their sponsor. -/
def amountOf (m : StorageMap A (SponsorshipRecord A)) (a : A) : ℕ :=
  m.sum fun _ record => if record.sponsor = a then record.amount else 0

/-- The number of records that name `a` as their sponsor. -/
def countOf (m : StorageMap A (SponsorshipRecord A)) (a : A) : ℕ :=
  m.sum fun _ record => if record.sponsor = a then 1 else 0

/-- Both ledger totals of every account are aggregates of the records, within the caps. -/
structure LedgerExact (s : T.State) : Prop where
  amount : ∀ a, (s.sponsorLedger.getD a {}).activeAmount = amountOf s.sponsorships a
  count : ∀ a, (s.sponsorLedger.getD a {}).activeCount = countOf s.sponsorships a
  amountCap : ∀ a, (s.sponsorLedger.getD a {}).activeAmount ≤ T.maxTotalSponsoredPerSponsor
  countCap : ∀ a, (s.sponsorLedger.getD a {}).activeCount ≤ T.maxSponsoredAccountsPerSponsor

/-- The caps lie below the largest values of their integer types. -/
structure CapsBelowMax : Prop where
  amount : T.maxTotalSponsoredPerSponsor < T.balanceMax
  count : T.maxSponsoredAccountsPerSponsor < u32Max

theorem refreshPerBlockLedger_active (ledger : SponsorState) (now : ℕ) :
    (refreshPerBlockLedger ledger now).activeAmount = ledger.activeAmount ∧
      (refreshPerBlockLedger ledger now).activeCount = ledger.activeCount := by
  unfold refreshPerBlockLedger
  split
  · exact ⟨rfl, rfl⟩
  · exact ⟨rfl, rfl⟩

/-- A saturating sum below the maximum is the sum. -/
theorem min_eq_of_le_lt (x cap bound : ℕ) (h : min x bound ≤ cap) (hcap : cap < bound) :
    x ≤ cap ∧ min x bound = x := by
  omega

/-- A charge is added to both totals, up to the tops of their types. -/
theorem chargedLedger_active (s : T.State) (sponsor : A) (amount : ℕ) :
    let ledger := s.sponsorLedger.getD sponsor {}
    let charged := chargedLedger T (openLedger T s sponsor) amount
    charged.activeAmount = min (ledger.activeAmount+amount) T.balanceMax ∧
      charged.activeCount = min (ledger.activeCount+1) u32Max := by
  intro ledger charged
  obtain ⟨hamount, hcount⟩ := refreshPerBlockLedger_active ledger s.blockNumber
  constructor
  · change min ((refreshPerBlockLedger ledger s.blockNumber).activeAmount+amount) _ = _
    rw [hamount]
  · change min ((refreshPerBlockLedger ledger s.blockNumber).activeCount+1) _ = _
    rw [hcount]

/-- A charge that passes the caps is added in full. -/
theorem charge_exact (hT : CapsBelowMax T) (s : T.State) (a : A) (amount : ℕ)
    (h : WithinCaps T (openLedger T s a) amount) :
    let ledger := s.sponsorLedger.getD a {}
    let charged := chargedLedger T (openLedger T s a) amount
    charged.activeAmount = ledger.activeAmount+amount ∧
      charged.activeCount = ledger.activeCount+1 ∧
      ledger.activeAmount+amount ≤ T.maxTotalSponsoredPerSponsor ∧
      ledger.activeCount+1 ≤ T.maxSponsoredAccountsPerSponsor := by
  intro ledger charged
  obtain ⟨hamount, hcount⟩ := chargedLedger_active T s a amount
  -- the checks read the same saturating sums that are written back
  have htotal : charged.activeAmount ≤ T.maxTotalSponsoredPerSponsor := h.total
  have hnumber : charged.activeCount ≤ T.maxSponsoredAccountsPerSponsor := h.count
  rw [hamount] at htotal
  rw [hcount] at hnumber
  -- below the type's maximum a sum that passed its cap cannot have been clamped
  obtain ⟨hle, hsum⟩ := min_eq_of_le_lt _ _ _ htotal hT.amount
  obtain ⟨hle', hsum'⟩ := min_eq_of_le_lt _ _ _ hnumber hT.count
  exact ⟨hamount.trans hsum, hcount.trans hsum', hle, hle'⟩

theorem sponsored_ledgerExact (hT : CapsBelowMax T) (sponsor beneficiary : A) (amount : ℕ)
    (autoUnlock : AutoUnlockMode) (lease : Lease) (s t : T.State) (hs : LedgerExact T s)
    (h : Sponsored T sponsor beneficiary amount autoUnlock lease s t) : LedgerExact T t := by
  obtain ⟨hamount, hcount, hcap, hcap'⟩ := charge_exact T hT s sponsor amount h.caps
  have hledger : ∀ a, t.sponsorLedger.getD a {} =
      if a = sponsor then chargedLedger T (openLedger T s sponsor) amount
      else s.sponsorLedger.getD a {} := by
    intro a
    rw [h.sponsorLedger, StorageMap.getD_insert]
  constructor
  · intro a
    rw [hledger, h.sponsorships, amountOf, StorageMap.sum_insert_new _ _ _ _ h.fresh]
    by_cases ha : a = sponsor
    · subst ha
      rw [if_pos rfl, if_pos rfl, hamount, hs.amount, amountOf]
    · rw [if_neg ha, if_neg (Ne.symm ha), hs.amount, amountOf, add_zero]
  · intro a
    rw [hledger, h.sponsorships, countOf, StorageMap.sum_insert_new _ _ _ _ h.fresh]
    by_cases ha : a = sponsor
    · subst ha
      rw [if_pos rfl, if_pos rfl, hcount, hs.count, countOf]
    · rw [if_neg ha, if_neg (Ne.symm ha), hs.count, countOf, add_zero]
  · intro a
    rw [hledger]
    by_cases ha : a = sponsor
    · rw [if_pos ha, hamount]
      exact hcap
    · rw [if_neg ha]
      exact hs.amountCap a
  · intro a
    rw [hledger]
    by_cases ha : a = sponsor
    · rw [if_pos ha, hcount]
      exact hcap'
    · rw [if_neg ha]
      exact hs.countCap a

/-- What a record adds to its sponsor's totals is there to be subtracted. -/
theorem record_within_ledger (s : T.State) (hs : LedgerExact T s) (b : A)
    (record : SponsorshipRecord A) (h : s.sponsorships.get b = some record) :
    record.amount ≤ (s.sponsorLedger.getD record.sponsor {}).activeAmount ∧
      1 ≤ (s.sponsorLedger.getD record.sponsor {}).activeCount := by
  have ha := StorageMap.le_sum s.sponsorships b record
    (fun _ r => if r.sponsor = record.sponsor then r.amount else 0) h
  have hc := StorageMap.le_sum s.sponsorships b record
    (fun _ r => if r.sponsor = record.sponsor then 1 else 0) h
  rw [if_pos rfl] at ha hc
  rw [hs.amount, hs.count]
  exact ⟨ha, hc⟩

theorem revoked_ledgerExact (beneficiary : A) (record : SponsorshipRecord A) (L : Λ)
    (s t : T.State) (hs : LedgerExact T s) (found : s.sponsorships.get beneficiary = some record)
    (ht : SameFunds T (revokedStorage T beneficiary record L s) t) : LedgerExact T t := by
  have hmap : t.sponsorships = s.sponsorships.remove beneficiary := ht.sponsorships
  have hledger : ∀ a, t.sponsorLedger.getD a {} =
      if a = record.sponsor then relievedLedger (s.sponsorLedger.getD a {}) record.amount
      else s.sponsorLedger.getD a {} := by
    intro a
    rw [ht.sponsorLedger]
    change (s.sponsorLedger.mutate record.sponsor {} _).getD a {} = _
    rw [StorageMap.getD_mutate]
    by_cases ha : a = record.sponsor
    · rw [if_pos ha, if_pos ha, ha]
    · rw [if_neg ha, if_neg ha]
  have hamount := fun a => StorageMap.sum_remove s.sponsorships beneficiary record
    (fun _ r => if r.sponsor = a then r.amount else 0) found
  have hcount := fun a => StorageMap.sum_remove s.sponsorships beneficiary record
    (fun _ r => if r.sponsor = a then 1 else 0) found
  constructor
  · intro a
    have hold := hs.amount a
    have hsum := hamount a
    rw [hledger, hmap]
    by_cases ha : a = record.sponsor
    · subst ha
      -- the truncated subtraction is exact: the record is one term of the sum
      simp only [if_true, relievedLedger, amountOf] at hold hsum ⊢
      omega
    · simp only [if_neg ha, if_neg (Ne.symm ha), amountOf] at hold hsum ⊢
      omega
  · intro a
    have hold := hs.count a
    have hsum := hcount a
    rw [hledger, hmap]
    by_cases ha : a = record.sponsor
    · subst ha
      simp only [if_true, relievedLedger, countOf] at hold hsum ⊢
      omega
    · simp only [if_neg ha, if_neg (Ne.symm ha), countOf] at hold hsum ⊢
      omega
  · intro a
    rw [hledger]
    split
    · exact (Nat.sub_le _ _).trans (hs.amountCap a)
    · exact hs.amountCap a
  · intro a
    rw [hledger]
    split
    · exact (Nat.sub_le _ _).trans (hs.countCap a)
    · exact hs.countCap a

/-- A new policy keeps sponsor and amount, so the sum keeps its terms. -/
theorem policySet_amountOf (caller beneficiary : A) (autoUnlock : AutoUnlockMode) (lease : Lease)
    (record : SponsorshipRecord A) (s t : T.State)
    (h : PolicySet T caller beneficiary autoUnlock lease record s t) (a : A) :
    amountOf t.sponsorships a = amountOf s.sponsorships a := by
  rw [h.sponsorships]
  exact Nat.add_right_cancel (StorageMap.sum_insert_over s.sponsorships beneficiary record _
    (fun _ r => if r.sponsor = a then r.amount else 0) h.found)

theorem policy_ledgerExact (caller beneficiary : A) (autoUnlock : AutoUnlockMode) (lease : Lease)
    (record : SponsorshipRecord A) (s t : T.State) (hs : LedgerExact T s)
    (h : PolicySet T caller beneficiary autoUnlock lease record s t) : LedgerExact T t := by
  have hamount := policySet_amountOf T _ _ _ _ _ s t h
  have hcount : ∀ a, countOf t.sponsorships a = countOf s.sponsorships a := by
    intro a
    rw [h.sponsorships]
    exact Nat.add_right_cancel (StorageMap.sum_insert_over s.sponsorships beneficiary record _
      (fun _ r => if r.sponsor = a then 1 else 0) h.found)
  constructor
  · intro a
    rw [h.sponsorLedger, hamount]
    exact hs.amount a
  · intro a
    rw [h.sponsorLedger, hcount]
    exact hs.count a
  · rw [h.sponsorLedger]
    exact hs.amountCap
  · rw [h.sponsorLedger]
    exact hs.countCap

theorem sameFunds_ledgerExact (s t : T.State) (hs : LedgerExact T s) (h : SameFunds T s t) :
    LedgerExact T t := by
  constructor
  · rw [h.sponsorLedger, h.sponsorships]
    exact hs.amount
  · rw [h.sponsorLedger, h.sponsorships]
    exact hs.count
  · rw [h.sponsorLedger]
    exact hs.amountCap
  · rw [h.sponsorLedger]
    exact hs.countCap

theorem outcome_ledgerExact (hT : CapsBelowMax T) (act : Action A O) (s t : T.State)
    (hs : LedgerExact T s) (h : Outcome T act s t) : LedgerExact T t := by
  cases h with
  | idle => exact hs
  | sponsored sponsor beneficiary amount autoUnlock lease _ _ h =>
    exact sponsored_ledgerExact T hT _ _ _ _ _ s t hs h
  | revoked beneficiary record L event found refunded _ =>
    exact revoked_ledgerExact T _ _ _ s _ hs found ⟨rfl, rfl, rfl, rfl⟩
  | policy origin caller beneficiary autoUnlock lease record _ _ _ h =>
    exact policy_ledgerExact T _ _ _ _ _ s t hs h

theorem emptyStorage_ledgerExact (L : Λ) : LedgerExact T (emptyStorage T L) := by
  constructor
  · intro a
    simp [emptyStorage, amountOf]
  · intro a
    simp [emptyStorage, countOf]
  · intro a
    simp [emptyStorage]
  · intro a
    simp [emptyStorage]

theorem run_ledgerExact (hT : CapsBelowMax T) (L : Λ) (ops : List (Op A O Λ)) :
    LedgerExact T (run (step T) (emptyStorage T L) ops) := by
  refine run_invariant_always (step T) (LedgerExact T) ?_ ops _ (emptyStorage_ledgerExact T L)
  intro s op hs
  refine step_preserves T (LedgerExact T) (fun _ _ => True) (outcome_ledgerExact T hT)
    (sameFunds_ledgerExact T) ?_ s op hs (fun _ _ => trivial)
  -- the ledger does not read the runtime underneath
  intro u f hu _
  exact ⟨hu.amount, hu.count, hu.amountCap, hu.countCap⟩

/-- In every run each sponsor's ledger entry is the exact aggregate of its records, within
the caps, and no saturating operation on the two totals clamps: neither the subtraction of a
revocation nor the addition of a creation that has passed its checks. -/
theorem sponsor_ledger_is_exact (hT : CapsBelowMax T) (L : Λ) (ops : List (Op A O Λ)) (a : A) :
    let s := run (step T) (emptyStorage T L) ops
    let ledger := s.sponsorLedger.getD a {}
    ledger.activeAmount = s.sponsorships.sum (fun _ record =>
        if record.sponsor = a then record.amount else 0) ∧
      ledger.activeCount = s.sponsorships.sum (fun _ record =>
        if record.sponsor = a then 1 else 0) ∧
      ledger.activeAmount ≤ T.maxTotalSponsoredPerSponsor ∧
      ledger.activeCount ≤ T.maxSponsoredAccountsPerSponsor ∧
      (∀ b record, s.sponsorships.get b = some record → record.sponsor = a →
        record.amount ≤ ledger.activeAmount ∧ 1 ≤ ledger.activeCount) ∧
      (∀ amount, WithinCaps T (openLedger T s a) amount →
        (chargedLedger T (openLedger T s a) amount).activeAmount = ledger.activeAmount+amount ∧
        (chargedLedger T (openLedger T s a) amount).activeCount = ledger.activeCount+1) := by
  intro s ledger
  have hinv : LedgerExact T s := run_ledgerExact T hT L ops
  refine ⟨hinv.amount a, hinv.count a, hinv.amountCap a, hinv.countCap a, ?_, ?_⟩
  · rintro b record hb rfl
    exact record_within_ledger T s hinv b record hb
  · intro amount hcaps
    obtain ⟨hamount, hcount, -, -⟩ := charge_exact T hT s a amount hcaps
    exact ⟨hamount, hcount⟩

/-- Two creations in one block, an expiry and an automatic unlock. -/
def ledgerTrace : List (Op ℕ (RawOrigin ℕ) (Ledger ℕ HoldReason)) :=
  [.onInitialize 1,
    .entry (.call (.signed 1) (.sponsor 2 40 .disabled (.until 2))),
    .entry (.call (.signed 1) (.sponsor 3 30 (.enabled .freeGeSponsored) .none)),
    .onInitialize 2,
    .entry (.call (.signed 1) (.sponsor 7 25 .disabled .none))]

theorem sponsor_ledger_is_exact_ledgerTrace :
    ((run (step mock) (emptyStorage mock mockLedger) ledgerTrace).sponsorLedger.getD 1
        {}).activeAmount = 25 ∧
      (run (step mock) (emptyStorage mock mockLedger) ledgerTrace).sponsorships.sum
        (fun _ record => if record.sponsor = 1 then record.amount else 0) = 25 := by
  have hvalue : ((run (step mock) (emptyStorage mock mockLedger) ledgerTrace).sponsorLedger.getD 1
      {}).activeAmount = 25 := by decide +kernel
  have hexact := sponsor_ledger_is_exact mock ⟨by decide, by decide⟩ mockLedger ledgerTrace 1
  exact ⟨hvalue, hexact.1.symm.trans hvalue⟩

end NuloChain.Sponsorship
