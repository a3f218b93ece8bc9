import NuloChain.SponsorshipTally
import NuloChain.SponsorshipProviders
import NuloChain.SponsorshipRefunds
import NuloChain.SponsorshipMoves
import NuloChain.FrameBooks

/-! What is left of the pallet's provider references. A revocation asks `frame_system` to take
the reference back and does not look at the answer; while somebody else still consumes the
account and nobody else provides for it, the answer is no, and the reference stays for good. -/
namespace NuloChain.Sponsorship
open Frame
set_option linter.unusedSectionVars false
variable {A O R Λ : Type} [DecidableEq A] [DecidableEq R] (T : Config A O R Λ)

/-- The record asks for auto-unlock, and its condition is met. -/
def UnlocksItself (s : T.State) (beneficiary : A) (record : SponsorshipRecord A) : Prop :=
  ∃ c, record.autoUnlock = .enabled c ∧
    autoUnlockConditionMet T beneficiary record.amount c s = true

/-- The action passes all checks on the way to a revocation of the sponsorship `record` of `b`. -/
def Revokes (s : T.State) (b : A) (record : SponsorshipRecord A) : Action A O → Prop
  | .entry (.call origin (.unlock b')) => b' = b ∧ T.ensureSigned origin = some record.sponsor
  | .entry (.call origin (.forceUnlock b')) => b' = b ∧ T.forceOrigin origin = true
  | .entry (.call origin (.refresh b')) =>
    b' = b ∧ (T.ensureSigned origin).isSome = true ∧ UnlocksItself T s b record
  | .entry (.unlockSponsorship caller b') => b' = b ∧ caller = record.sponsor
  | .entry (.tryAutoUnlock b') => b' = b ∧ UnlocksItself T s b record
  | .expire now b' => b' = b ∧ record.lease = .until now
  | .autoUnlock b' index =>
    b' = b ∧ index < T.maxQueueProcessingPerBlock ∧ UnlocksItself T s b record
  | _ => False

section
variable (consumers frozen totalOnHold : Λ → A → ℕ)

/-- The reference on the beneficiary will be let go: the beneficiary is its own sponsor, whom the
refund gives the minimum; it has another provider; or nothing but the amount is on hold there and
nobody else consumes it. -/
def Frees (L : Λ) (b : A) (record : SponsorshipRecord A) : Prop :=
  record.sponsor = b ∨ 2 ≤ T.system.providers L b ∨
    (totalOnHold L b ≤ record.amount ∧ frozen L b = 0 ∧
      consumers L b ≤ one (0 < totalOnHold L b))

/-- Whatever sponsorship the action revokes, no freeze standing in the way, its reference will be
let go. -/
def EndsFreely (s : T.State) (act : Action A O) : Prop :=
  ∀ b record, s.sponsorships.get b = some record → Revokes T s b record act →
    Thawed T frozen totalOnHold s.runtime b record.amount →
    Frees T consumers frozen totalOnHold s.runtime b record

/-- All sponsorships that a step revokes leave their references to be taken back, in the state
in which their turn comes. -/
def ReturnsReferences (s : T.State) : Op A O Λ → Prop
  | .entry e => EndsFreely T consumers frozen totalOnHold s (.entry e)
  | .genesisBuild _ => True
  | .onInitialize now =>
    let u := (processExpirations T now { s with blockNumber := now }).1
    Along (expireIteration T now)
        (fun v b => EndsFreely (O := O) T consumers frozen totalOnHold v (.expire now b))
        { s with blockNumber := now, expirations := s.expirations.remove now }
        (bucket T s now).toList ∧
      Along (autoUnlockIteration T)
        (fun p entry => EndsFreely (O := O) T consumers frozen totalOnHold p.storage
          (.autoUnlock entry.1 entry.2))
        ⟨[], [], 0, { u with autoUnlockQueue := BoundedVec.empty }⟩ u.autoUnlockQueue.toList.zipIdx
  | .environment _ => True

/-- The rest of the runtime adds and removes provider references of its own: the currency's one
stays while there is the minimum, and the pallet's one while the account is sponsored. -/
def LeavesReferences (s : T.State) : Op A O Λ → Prop
  | .environment f => ∀ a, ownShare T (f s.runtime) a+one ((s.sponsorships.get a).isSome = true) ≤
      T.system.providers (f s.runtime) a
  | _ => True

/-- How `frame_system` counts, and what the currency does to the references when funds come off
hold. -/
structure ReferenceLaws : Prop where
  counts : T.system.Counts
  keepsFunds : T.system.KeepsFunds T.currency
  refusesLast : T.system.RefusesLast T.currency.toInspect consumers
  ownReferences : T.currency.OwnReferences T.system
  ownConsumers : T.currency.OwnConsumers consumers frozen totalOnHold
  exactReturns : T.currency.ExactReturns totalOnHold
  returnsKeepBooks : T.currency.ReturnsKeepBooks frozen totalOnHold
  keepsFrozen : T.currency.KeepsFrozen frozen totalOnHold

end

variable {consumers frozen totalOnHold : Λ → A → ℕ}

theorem eq_of_revoked (s : T.State) (b beneficiary : A) (record r : SponsorshipRecord A) (L : Λ)
    (event : Event A) (hb : s.sponsorships.get b = some record)
    (hgone : (logged T event (revokedStorage T beneficiary r L s)).sponsorships.get b = none) :
    beneficiary = b := by
  change (s.sponsorships.remove beneficiary).get b = none at hgone
  rw [StorageMap.get_remove] at hgone
  by_cases hbb : b = beneficiary
  · exact hbb.symm
  · rw [if_neg hbb, hb] at hgone
    cases hgone

theorem unlocksItself_of_ended (s : T.State) (b beneficiary : A) (record : SponsorshipRecord A)
    (hb : s.sponsorships.get b = some record)
    (hgone : (tryAutoUnlockInternal T beneficiary true s).2.sponsorships.get b = none) :
    beneficiary = b ∧ UnlocksItself T s b record := by
  rcases tryAutoUnlockInternal_cases T beneficiary s with
    hs | ⟨r, c, L, event, hr, hmode, hmet, -, hs⟩
  · rw [hs, hb] at hgone
    cases hgone
  · rw [hs] at hgone
    obtain rfl := eq_of_revoked T s b beneficiary record r L event hb hgone
    rw [hb] at hr
    cases hr
    exact ⟨rfl, c, hmode, hmet⟩

theorem unlockAs_of_ended (s : T.State) (caller b beneficiary : A) (record : SponsorshipRecord A)
    (hb : s.sponsorships.get b = some record)
    (hgone : (unlockAs T caller beneficiary s).2.sponsorships.get b = none) :
    beneficiary = b ∧ caller = record.sponsor := by
  rcases unlockAs_cases T caller beneficiary s with hs | ⟨r, L, event, hr, hcaller, -, hs⟩
  · rw [hs, hb] at hgone
    cases hgone
  · rw [hs] at hgone
    obtain rfl := eq_of_revoked T s b beneficiary record r L event hb hgone
    rw [hb] at hr
    cases hr
    exact ⟨rfl, hcaller⟩

/-- A creation ends nothing. -/
theorem doSponsor_of_ended (s : T.State) (sponsor beneficiary : A) (amount : ℕ)
    (autoUnlock : AutoUnlockMode) (lease : Lease) (emitEvent : Bool) (b : A)
    (hgone : (doSponsor T sponsor beneficiary amount autoUnlock lease emitEvent s).2.sponsorships.get
      b = none) : s.sponsorships.get b = none := by
  rcases hx : doSponsor T sponsor beneficiary amount autoUnlock lease emitEvent s with ⟨e | u, t⟩
  · rw [hx, Dispatch.transactional_error _ _ _ _ hx] at hgone
    exact hgone
  · rw [hx] at hgone
    change t.sponsorships.get b = none at hgone
    rw [(doSponsor_ok T _ _ _ _ _ _ _ _ _ hx).sponsorships] at hgone
    exact StorageMap.get_none_of_insert _ _ _ _ hgone

/-- What is gone after a call was ended by it, and the call has succeeded. -/
theorem ok_of_ended {α : Type} (x : T.Pallet α) (s : T.State) (b : A)
    (hthere : s.sponsorships.get b ≠ none)
    (hgone : (Dispatch.transactional x s).2.sponsorships.get b = none) :
    ∃ u t, x s = (.ok u, t) ∧ t.sponsorships.get b = none := by
  rcases Dispatch.transactional_storage x s with hs | ⟨u, hok⟩
  · rw [hs] at hgone
    exact absurd hgone hthere
  · exact ⟨u, _, hok, hgone⟩

theorem call_revokes (origin : O) (call : Call A) (s : T.State) (b : A)
    (record : SponsorshipRecord A) (hb : s.sponsorships.get b = some record)
    (hgone : (dispatch T origin call s).2.sponsorships.get b = none) :
    Revokes T s b record (.entry (.call origin call)) := by
  have hthere : s.sponsorships.get b ≠ none := by
    rw [hb]
    exact Option.some_ne_none record
  cases call with
  | sponsor beneficiary amount autoUnlock lease =>
    obtain ⟨u, t, hok, hgone⟩ := ok_of_ended T _ s b hthere hgone
    obtain ⟨who, -, h⟩ := signed_ok T _ _ _ _ _ hok
    exact hthere (doSponsor_of_ended T s who beneficiary amount autoUnlock lease true b
      (by rw [h]; exact hgone))
  | sponsorMinimum beneficiary autoUnlock lease =>
    obtain ⟨u, t, hok, hgone⟩ := ok_of_ended T _ s b hthere hgone
    obtain ⟨who, -, h⟩ := signed_ok T _ _ _ _ _ hok
    exact hthere (doSponsor_of_ended T s who beneficiary _ autoUnlock lease true b
      (by rw [h]; exact hgone))
  | unlock beneficiary =>
    obtain ⟨u, t, hok, hgone⟩ := ok_of_ended T _ s b hthere hgone
    obtain ⟨who, hsigned, h⟩ := signed_ok T _ _ _ _ _ hok
    obtain ⟨hb', rfl⟩ := unlockAs_of_ended T s who b beneficiary record hb (by rw [h]; exact hgone)
    exact ⟨hb', hsigned⟩
  | setPolicy beneficiary autoUnlock lease =>
    obtain ⟨u, t, hok, hgone⟩ := ok_of_ended T _ s b hthere hgone
    obtain ⟨caller, old, -, h⟩ := setPolicy_ok T _ _ _ _ _ _ _ hok
    rw [h.sponsorships] at hgone
    exact hthere (StorageMap.get_none_of_insert _ _ _ _ hgone)
  | forceUnlock beneficiary =>
    obtain ⟨u, t, hok, hgone⟩ := ok_of_ended T _ s b hthere hgone
    obtain ⟨r, L, event, -, hforce, -, rfl⟩ := forceUnlock_ok T _ _ _ _ _ hok
    exact ⟨eq_of_revoked T s b beneficiary record r L event hb hgone, hforce⟩
  | refresh beneficiary =>
    obtain ⟨u, t, hok, hgone⟩ := ok_of_ended T _ s b hthere hgone
    obtain ⟨who, hsigned, h⟩ := signed_ok T _ _ _ _ _ hok
    simp only [Dispatch.bind_ok_iff, Dispatch.pure_ok_iff] at h
    obtain ⟨done, _, h, -, rfl⟩ := h
    obtain ⟨hb', hunlocks⟩ := unlocksItself_of_ended T s b beneficiary record hb
      (by rw [h]; exact hgone)
    exact ⟨hb', by rw [hsigned]; rfl, hunlocks⟩

/-- A sponsorship that is gone after an action was revoked by it. -/
theorem action_revokes (act : Action A O) (s : T.State) (b : A) (record : SponsorshipRecord A)
    (hb : s.sponsorships.get b = some record)
    (hgone : (actionStep T s act).sponsorships.get b = none) : Revokes T s b record act := by
  have hthere : s.sponsorships.get b ≠ none := by
    rw [hb]
    exact Option.some_ne_none record
  cases act with
  | entry e =>
    cases e with
    | call origin call => exact call_revokes T origin call s b record hb hgone
    | createSponsorship sponsor beneficiary amount autoUnlock lease =>
      exact hthere (doSponsor_of_ended T s sponsor beneficiary amount autoUnlock lease true b hgone)
    | unlockSponsorship caller beneficiary =>
      exact unlockAs_of_ended T s caller b beneficiary record hb hgone
    | tryAutoUnlock beneficiary =>
      rw [actionStep, entryStep, tryAutoUnlock_storage] at hgone
      exact unlocksItself_of_ended T s b beneficiary record hb hgone
  | initial i => exact hthere (doSponsor_of_ended T s _ _ _ _ _ _ b hgone)
  | expire now beneficiary =>
    rcases expireIteration_turn T now beneficiary s with hs | ⟨r, t, hrevoke, hlease, hs⟩
    · rw [actionStep, hs] at hgone
      exact absurd hgone hthere
    · obtain ⟨hfound, L, -, rfl⟩ := (revokeSponsorship_ok_iff T _ _ _ _).mp hrevoke
      rw [actionStep, hs] at hgone
      obtain rfl := eq_of_revoked T s b beneficiary record r L _ hb hgone
      rw [hb] at hfound
      cases hfound
      exact ⟨rfl, hlease⟩
  | autoUnlock beneficiary index =>
    by_cases hindex : index < T.maxQueueProcessingPerBlock
    · simp only [actionStep, autoUnlockIteration_eq T _ _ _ hindex] at hgone
      obtain ⟨hb', hunlocks⟩ := unlocksItself_of_ended T s b beneficiary record hb hgone
      exact ⟨hb', hindex, hunlocks⟩
    · simp only [actionStep, autoUnlockIteration, if_pos (Nat.not_lt.mp hindex)] at hgone
      exact absurd hgone hthere

/-- What an action ends under the condition leaves its reference to be let go: what leaves a hold
is not covered by a freeze. -/
theorem frees_of_ended (laws : ReferenceLaws T consumers frozen totalOnHold) (act : Action A O)
    (s : T.State) (hfree : EndsFreely T consumers frozen totalOnHold s act) (b : A)
    (record : SponsorshipRecord A) (hb : s.sponsorships.get b = some record)
    (hgone : (actionStep T s act).sponsorships.get b = none) :
    Frees T consumers frozen totalOnHold s.runtime b record := by
  obtain ⟨-, L₁, L₂, hL₁, -, -⟩ := outcome_ended T act s _ (action_outcome T act s) b record hb hgone
  exact hfree b record hb (action_revokes T act s b record hb hgone)
    (laws.keepsFrozen _ _ _ _ _ _ hL₁)

/-- If nothing but the amount is on hold and nobody else consumes the account, no consumer is left
after the two refunds. -/
theorem consumers_gone (laws : ReferenceLaws T consumers frozen totalOnHold) (L L₁ L₂ : Λ) (b : A)
    (record : SponsorshipRecord A) (deposit : ℕ) (hheld : totalOnHold L b ≤ record.amount)
    (hfrozen : frozen L b = 0) (hconsumers : consumers L b ≤ one (0 < totalOnHold L b))
    (hL₁ : T.currency.transferOnHold (sponsorshipHoldReason T) b record.sponsor record.amount
      .exact .free .polite L = some L₁)
    (hdep : (deposit ≠ 0 ∧ T.currency.release (storageDepositHoldReason T) record.sponsor deposit
        .exact L₁ = some L₂) ∨ (deposit = 0 ∧ L₂ = L₁)) : consumers L₂ b ≤ 0 := by
  obtain ⟨-, htotal₁, hfrozen₁⟩ := laws.returnsKeepBooks.transferOnHold _ _ _ _ _ _ hL₁ b
  rw [if_pos rfl] at htotal₁
  have hnone₁ : ¬ (0 < totalOnHold L₁ b ∨ 0 < frozen L b) := by omega
  have hstays₁ := laws.ownConsumers.transferOnHold _ _ _ _ _ _ hL₁ b
  have hheld₁ : one (0 < totalOnHold L b ∨ 0 < frozen L b) = one (0 < totalOnHold L b) := by
    unfold one
    simp [hfrozen]
  have hzero₁ : one (0 < totalOnHold L₁ b ∨ 0 < frozen L b) = 0 := if_neg hnone₁
  rcases hdep with ⟨-, hL₂⟩ | ⟨-, rfl⟩
  · obtain ⟨-, htotal₂, -⟩ := laws.returnsKeepBooks.release _ _ _ _ _ hL₂ b
    have hstays₂ := laws.ownConsumers.release _ _ _ _ _ hL₂ b
    have hbefore : one (0 < totalOnHold L₁ b ∨ 0 < frozen L₁ b) = 0 := if_neg (by omega)
    have hafter : one (0 < totalOnHold L₂ b ∨ 0 < frozen L₁ b) = 0 := if_neg (by omega)
    omega
  · omega

/-- The two refunds over, `frame_system` lets the reference go. -/
theorem decProviders_of_frees (laws : ReferenceLaws T consumers frozen totalOnHold) (L L₁ L₂ : Λ)
    (b : A) (record : SponsorshipRecord A) (deposit own : ℕ) (hown : 1 ≤ own)
    (hcount : T.system.providers L b = own+ownShare T L b+0)
    (hminimum : T.currency.minimumBalance ≤ record.amount)
    (hfrees : Frees T consumers frozen totalOnHold L b record)
    (hL₁ : T.currency.transferOnHold (sponsorshipHoldReason T) b record.sponsor record.amount
      .exact .free .polite L = some L₁)
    (hdep : (deposit ≠ 0 ∧ T.currency.release (storageDepositHoldReason T) record.sponsor deposit
        .exact L₁ = some L₂) ∨ (deposit = 0 ∧ L₂ = L₁)) :
    (T.system.decProviders b L₂).isSome = true := by
  have hcount₁ := ownReference_split T _ _ (laws.ownReferences.transferOnHold _ _ _ _ _ _ _ _ _ hL₁)
    b own 0 hcount
  have hcount₂ : T.system.providers L₂ b = own+ownShare T L₂ b+0 := by
    rcases hdep with ⟨-, hL₂⟩ | ⟨-, rfl⟩
    · exact ownReference_split T _ _ (laws.ownReferences.release _ _ _ _ _ _ hL₂) b own 0 hcount₁
    · exact hcount₁
  -- an account that has the minimum after the first refund has it after the second
  have hsecond : T.currency.minimumBalance ≤ T.currency.balance L₁ b →
      T.currency.minimumBalance ≤ T.currency.balance L₂ b := by
    intro hfree
    rcases hdep with ⟨-, hL₂⟩ | ⟨-, rfl⟩
    · have hbalance := laws.exactReturns.release _ _ _ _ _ hL₂ b (Or.inr (Or.inr (Or.inl hfree)))
      omega
    · exact hfree
  rcases hdec : T.system.decProviders b L₂ with _ | L₃
  · have hother : one (T.currency.minimumBalance ≤ T.currency.balance L₂ b) <
        T.system.providers L₂ b := by
      unfold ownShare at hcount₂
      omega
    obtain ⟨hlast, hconsumed⟩ := laws.refusesLast b L₂ hother hdec
    -- the only provider is the pallet, so the account has not got the minimum
    have hpoor : ¬ T.currency.minimumBalance ≤ T.currency.balance L₂ b := by
      intro hfree
      have hshare : ownShare T L₂ b = 1 := if_pos hfree
      omega
    exfalso
    rcases hfrees with hself | htwo | ⟨hheld, hfrozen, hconsumers⟩
    · have harrives := laws.exactReturns.arrives _ _ _ _ _ _ hL₁
      rw [hself] at harrives
      exact hpoor (hsecond (hminimum.trans harrives))
    · have hrich : T.currency.minimumBalance ≤ T.currency.balance L b := by
        by_contra hnot
        have hshare : ownShare T L b = 0 := if_neg hnot
        omega
      have hbalance := laws.exactReturns.transferOnHold _ _ _ _ _ _ hL₁ b
        (Or.inr (Or.inr (Or.inl hrich)))
      exact hpoor (hsecond (by omega))
    · exact absurd hconsumed (Nat.not_lt.mpr (consumers_gone T laws L L₁ L₂ b record deposit hheld
        hfrozen hconsumers hL₁ hdep))
  · rfl

theorem Tallied.on_eq_some (f : Λ → Option Λ) (w w' : Tallied A Λ) (h : Tallied.on f w = some w') :
    f w.runtime = some w'.runtime ∧ w'.added = w.added ∧ w'.removed = w.removed := by
  obtain ⟨L, hL, rfl⟩ := Option.map_eq_some_iff.mp h
  exact ⟨hL, rfl, rfl⟩

/-- A creation adds one reference on the beneficiary. -/
theorem funded_tally (s : (tallied T).State) (sponsor beneficiary : A) (amount : ℕ)
    (w : Tallied A Λ) (h : Funded (tallied T) s sponsor beneficiary amount w) :
    w.added = Function.update s.runtime.added beneficiary (s.runtime.added beneficiary+1) ∧
      w.removed = s.runtime.removed := by
  obtain ⟨w₁, hw₁, hdep⟩ := h
  obtain ⟨-, hadded, hremoved⟩ := Tallied.on_eq_some _ _ _ hw₁
  rcases hdep with ⟨-, hw⟩ | ⟨-, rfl⟩
  · obtain ⟨-, hadded', hremoved'⟩ := Tallied.on_eq_some _ _ _ hw
    exact ⟨hadded'.trans hadded, hremoved'.trans hremoved⟩
  · exact ⟨hadded, hremoved⟩

/-- A revocation whose reference is let go removes one reference on the beneficiary. -/
theorem refunded_tally (laws : ReferenceLaws T consumers frozen totalOnHold)
    (s : (tallied T).State) (b : A) (record : SponsorshipRecord A) (w : Tallied A Λ)
    (hfound : s.sponsorships.get b = some record) (hkept : Kept T (fun _ => 0) (forget T s))
    (hamounts : AmountsSuffice T (forget T s))
    (hfrees : Frees T consumers frozen totalOnHold s.runtime.runtime b record)
    (h : Refunded (tallied T) s b record w) :
    w.added = s.runtime.added ∧
      w.removed = Function.update s.runtime.removed b (s.runtime.removed b+1) := by
  obtain ⟨w₁, w₂, hw₁, hdep, rfl⟩ := h
  obtain ⟨hL₁, hadded, hremoved⟩ := Tallied.on_eq_some _ _ _ hw₁
  have hsame : w₂.added = s.runtime.added ∧ w₂.removed = s.runtime.removed := by
    rcases hdep with ⟨-, hw₂⟩ | ⟨-, rfl⟩
    · obtain ⟨-, hadded', hremoved'⟩ := Tallied.on_eq_some _ _ _ hw₂
      exact ⟨hadded'.trans hadded, hremoved'.trans hremoved⟩
    · exact ⟨hadded, hremoved⟩
  have hdep' : (s.storageDepositHeld.getD b 0 ≠ 0 ∧ T.currency.release (storageDepositHoldReason T)
        record.sponsor (s.storageDepositHeld.getD b 0) .exact w₁.runtime = some w₂.runtime) ∨
      (s.storageDepositHeld.getD b 0 = 0 ∧ w₂.runtime = w₁.runtime) := by
    rcases hdep with ⟨hne, hw₂⟩ | ⟨hz, rfl⟩
    · exact Or.inl ⟨hne, (Tallied.on_eq_some _ _ _ hw₂).1⟩
    · exact Or.inr ⟨hz, rfl⟩
  obtain ⟨own, hcount, hown⟩ := hkept b
  have hone : one (((forget T s).sponsorships.get b).isSome = true) = 1 :=
    if_pos (by rw [show (forget T s).sponsorships.get b = some record from hfound]; rfl)
  have hminimum : T.currency.minimumBalance ≤ record.amount :=
    (Nat.le_max_right _ _).trans (hamounts b record hfound)
  have hgo := decProviders_of_frees T laws s.runtime.runtime w₁.runtime w₂.runtime b record
    (s.storageDepositHeld.getD b 0) own (hone ▸ hown) hcount hminimum hfrees hL₁ hdep'
  obtain ⟨L, hdec⟩ := Option.isSome_iff_exists.mp hgo
  have hsome : (tallied T).system.decProviders b w₂ = some { w₂ with
      runtime := L
      removed := Function.update w₂.removed b (w₂.removed b+1) } := by
    change Option.map _ (T.system.decProviders b w₂.runtime) = _
    rw [hdec]
    rfl
  rw [hsome, ← hsame.2]
  exact ⟨hsame.1, rfl⟩

/-- The pallet has one reference on every account that is sponsored, and none on others. -/
def Settled (s : (tallied T).State) : Prop :=
  ∀ b, s.runtime.added b = s.runtime.removed b+one (isSponsored (tallied T) b s = true)

theorem one_isSponsored_some (s : (tallied T).State) (b : A) (record : SponsorshipRecord A)
    (h : s.sponsorships.get b = some record) : one (isSponsored (tallied T) b s = true) = 1 := by
  unfold one isSponsored
  rw [h]
  rfl

theorem one_isSponsored_none (s : (tallied T).State) (b : A) (h : s.sponsorships.get b = none) :
    one (isSponsored (tallied T) b s = true) = 0 := by
  unfold one isSponsored
  rw [h]
  rfl

theorem one_isSponsored_congr (s t : (tallied T).State) (b : A)
    (h : t.sponsorships.get b = s.sponsorships.get b) :
    one (isSponsored (tallied T) b t = true) = one (isSponsored (tallied T) b s = true) := by
  unfold isSponsored
  rw [h]

theorem sponsored_settled (sponsor beneficiary : A) (amount : ℕ) (autoUnlock : AutoUnlockMode)
    (lease : Lease) (s t : (tallied T).State) (hs : Settled T s)
    (h : Sponsored (tallied T) sponsor beneficiary amount autoUnlock lease s t) : Settled T t := by
  intro b
  obtain ⟨hadded, hremoved⟩ := funded_tally T s sponsor beneficiary amount t.runtime h.funded
  have hget := StorageMap.get_insert s.sponsorships beneficiary b
    { sponsor := sponsor, amount := amount, autoUnlock := autoUnlock, lease := lease,
      createdAt := s.blockNumber }
  rw [← h.sponsorships] at hget
  have hb := hs b
  rw [hadded, hremoved]
  by_cases hbb : b = beneficiary
  · subst hbb
    rw [if_pos rfl] at hget
    -- the account had no sponsorship, so the new reference is the only one
    rw [one_isSponsored_none T s b h.fresh] at hb
    rw [Function.update_self, one_isSponsored_some T t b _ hget, hb]
  · rw [if_neg hbb] at hget
    rw [Function.update_of_ne hbb, one_isSponsored_congr T s t b hget]
    exact hb

theorem policySet_settled (caller beneficiary : A) (autoUnlock : AutoUnlockMode) (lease : Lease)
    (record : SponsorshipRecord A) (s t : (tallied T).State) (hs : Settled T s)
    (h : PolicySet (tallied T) caller beneficiary autoUnlock lease record s t) : Settled T t := by
  intro b
  have hb := hs b
  rw [h.runtime]
  by_cases hbb : b = beneficiary
  · subst hbb
    rw [one_isSponsored_some T s b record h.found] at hb
    have hget : t.sponsorships.get b =
        some { record with autoUnlock := autoUnlock, lease := lease } := by
      rw [h.sponsorships, StorageMap.get_insert_self]
    rw [one_isSponsored_some T t b _ hget]
    exact hb
  · rw [one_isSponsored_congr T s t b (by rw [h.sponsorships, StorageMap.get_insert_ne _ _ _ _ hbb])]
    exact hb

/-- What every step keeps: the tally is in order, the counter holds the pallet's references and
the currency's, and no sponsorship is below the existential deposit. -/
structure Counted (s : (tallied T).State) : Prop where
  settled : Settled T s
  kept : Kept T (fun _ => 0) (forget T s)
  amounts : AmountsSuffice T (forget T s)

theorem revoked_settled (laws : ReferenceLaws T consumers frozen totalOnHold) (beneficiary : A)
    (record : SponsorshipRecord A) (w : Tallied A Λ) (event : Event A) (s : (tallied T).State)
    (hs : Counted T s) (hfound : s.sponsorships.get beneficiary = some record)
    (hfrees : Frees T consumers frozen totalOnHold s.runtime.runtime beneficiary record)
    (hrefunded : Refunded (tallied T) s beneficiary record w) :
    Settled T (logged (tallied T) event (revokedStorage (tallied T) beneficiary record w s)) := by
  intro b
  obtain ⟨hadded, hremoved⟩ := refunded_tally T laws s beneficiary record w hfound hs.kept hs.amounts
    hfrees hrefunded
  have hget : (logged (tallied T) event (revokedStorage (tallied T) beneficiary record w
      s)).sponsorships.get b = if b = beneficiary then none else s.sponsorships.get b :=
    StorageMap.get_remove s.sponsorships beneficiary b
  have hb := hs.settled b
  change w.added b = w.removed b+_
  rw [hadded, hremoved]
  by_cases hbb : b = beneficiary
  · subst hbb
    rw [if_pos rfl] at hget
    rw [one_isSponsored_some T s b record hfound] at hb
    rw [one_isSponsored_none T _ b hget, Function.update_self, hb]
  · rw [if_neg hbb] at hget
    rw [one_isSponsored_congr T s _ b hget, Function.update_of_ne hbb]
    exact hb

/-- A turn leaves the tally in order if the reference of what it ends is let go. -/
theorem outcome_settled (laws : ReferenceLaws T consumers frozen totalOnHold) (act : Action A O)
    (s t : (tallied T).State) (hs : Counted T s) (h : Outcome (tallied T) act s t)
    (hfrees : ∀ b record, s.sponsorships.get b = some record → t.sponsorships.get b = none →
      Frees T consumers frozen totalOnHold s.runtime.runtime b record) : Settled T t := by
  cases h with
  | idle => exact hs.settled
  | sponsored sponsor beneficiary amount autoUnlock lease _ _ h =>
    exact sponsored_settled T _ _ _ _ _ s t hs.settled h
  | revoked beneficiary record w event found refunded authorised =>
    refine revoked_settled T laws beneficiary record w event s hs found ?_ refunded
    exact hfrees beneficiary record found (StorageMap.get_remove_self _ _)
  | policy origin caller beneficiary autoUnlock lease record _ _ _ h =>
    exact policySet_settled T _ _ _ _ _ s t hs.settled h

theorem forget_actionStep (s : (tallied T).State) (act : Action A O) :
    forget T (actionStep (tallied T) s act) = actionStep T (forget T s) act := by
  cases act with
  | entry e => exact forget_entryStep T s e
  | initial i =>
    exact (doSponsor_agrees T i.sponsor i.beneficiary i.amount i.autoUnlock i.lease false s).storage
  | expire now b => exact forget_expireIteration T now s b
  | autoUnlock b index =>
    exact congrArg AutoUnlockPass.storage (forget_autoUnlockIteration T ⟨[], [], 0, s⟩ (b, index))

theorem action_counted (laws : ReferenceLaws T consumers frozen totalOnHold) (act : Action A O)
    (s : (tallied T).State) (hs : Counted T s)
    (hfree : EndsFreely T consumers frozen totalOnHold (forget T s) act) :
    Counted T (actionStep (tallied T) s act) := by
  have hforget := forget_actionStep T s act
  have hout := action_outcome T act (forget T s)
  constructor
  · refine outcome_settled T laws act s _ hs (action_outcome (tallied T) act s) ?_
    intro b record hb hgone
    refine frees_of_ended T laws act (forget T s) hfree b record hb ?_
    rw [← hforget]
    exact hgone
  · rw [hforget]
    exact outcome_kept T laws.counts laws.keepsFunds laws.ownReferences _ act _ _ hs.kept hout
  · rw [hforget]
    exact outcome_amountsSuffice T act _ _ hs.amounts hout

/-- A change in the indexes, or of the block number, does not touch what is counted. -/
theorem sameFunds_counted (s t : (tallied T).State) (hs : Counted T s)
    (h : SameFunds (tallied T) s t) : Counted T t := by
  obtain ⟨hsponsorships, hledger, hdeposits, hruntime⟩ := h
  constructor
  · intro b
    rw [hruntime, one_isSponsored_congr T s t b (by rw [hsponsorships])]
    exact hs.settled b
  · exact sameFunds_kept T _ (forget T s) (forget T t) hs.kept
      ⟨hsponsorships, hledger, hdeposits, congrArg Tallied.runtime hruntime⟩
  · intro b record hb
    exact hs.amounts b record (by rw [← hb]; exact congrArg (StorageMap.get · b) hsponsorships.symm)

theorem onInitialize_counted (laws : ReferenceLaws T consumers frozen totalOnHold) (now : ℕ)
    (s : (tallied T).State) (hs : Counted T s)
    (hreturns : ReturnsReferences (O := O) T consumers frozen totalOnHold (forget T s)
      (.onInitialize now)) :
    Counted T (talliedStep T s (.onInitialize now : Op A O Λ)) := by
  obtain ⟨hexpire, hunlock⟩ := hreturns
  let start : (tallied T).State :=
    { s with blockNumber := now, expirations := s.expirations.remove now }
  let u := (processExpirations (tallied T) now { s with blockNumber := now }).1
  let pass : AutoUnlockPass A (Tallied A Λ) (tallied T).maxQueueProcessingPerBlock :=
    ⟨[], [], 0, { u with autoUnlockQueue := BoundedVec.empty }⟩
  have hstart : Counted T start := sameFunds_counted T s start hs ⟨rfl, rfl, rfl, rfl⟩
  -- both loops, seen without the tally, are the loops of the pallet
  have hexpire' := (along_view (forget T) (expireIteration (tallied T) now) (expireIteration T now)
    (fun v b => EndsFreely (O := O) T consumers frozen totalOnHold (forget T v) (.expire now b)) _
    (forget_expireIteration T now) (fun _ _ => Iff.rfl) _ start).mpr hexpire
  have hu : Counted T u := run_invariant (expireIteration (tallied T) now) _ (Counted T)
    (fun v b hv hfree => action_counted (O := O) T laws (.expire now b) v hv hfree) _ start hstart
    hexpire'
  have hforget : forget T u = (processExpirations T now { forget T s with blockNumber := now }).1 :=
    forget_processExpirations T now { s with blockNumber := now }
  have hpass : forgetPass T pass = ⟨[], [], 0,
      { (processExpirations T now { forget T s with blockNumber := now }).1 with
        autoUnlockQueue := BoundedVec.empty }⟩ := by
    rw [← hforget]
    rfl
  rw [← hpass, ← hforget] at hunlock
  have hunlock' := (along_view (forgetPass T) (autoUnlockIteration (tallied T))
    (autoUnlockIteration T) (fun p entry => EndsFreely (O := O) T consumers frozen totalOnHold
      (forget T p.storage) (.autoUnlock entry.1 entry.2)) _ (forget_autoUnlockIteration T)
    (fun _ _ => Iff.rfl) _ pass).mpr hunlock
  have hend : Counted T (run (autoUnlockIteration (tallied T)) pass
      u.autoUnlockQueue.toList.zipIdx).storage := by
    refine run_invariant (autoUnlockIteration (tallied T)) _ (fun p => Counted T p.storage) ?_ _ pass
      (sameFunds_counted T u _ hu ⟨rfl, rfl, rfl, rfl⟩) hunlock'
    intro p entry hp hfree
    rw [autoUnlockIteration_storage (O := O)]
    exact action_counted T laws _ p.storage hp hfree
  have hfinal : ∃ queue, talliedStep T s (.onInitialize now : Op A O Λ) =
      { (run (autoUnlockIteration (tallied T)) pass u.autoUnlockQueue.toList.zipIdx).storage with
        autoUnlockQueue := queue } := step_onInitialize_loop (O := O) (tallied T) now s
  obtain ⟨queue, hstep⟩ := hfinal
  rw [hstep]
  exact sameFunds_counted T _ _ hend ⟨rfl, rfl, rfl, rfl⟩

/-- Beyond the currency's reference and the pallet's there may be any number of others. -/
theorem kept_of_le (s : T.State) (h : ∀ a, ownShare T s.runtime a+
    one ((s.sponsorships.get a).isSome = true) ≤ T.system.providers s.runtime a) :
    Kept T (fun _ => 0) s := by
  intro a
  have ha := h a
  refine ⟨T.system.providers s.runtime a-ownShare T s.runtime a, ?_, ?_⟩
  · change _ = T.system.providers s.runtime a-ownShare T s.runtime a+ownShare T s.runtime a+0
    omega
  · omega

/-- A step that the rest of the runtime takes, too, leaves the counter with its parts. -/
theorem step_kept (laws : ReferenceLaws T consumers frozen totalOnHold) (s : T.State)
    (op : Op A O Λ) (hs : Kept T (fun _ => 0) s) (hop : LeavesReferences T s op) :
    Kept T (fun _ => 0) (step T s op) := by
  refine step_preserves T (Kept T (fun _ => 0))
    (fun s f => LeavesReferences (O := O) T s (.environment f))
    (outcome_kept T laws.counts laws.keepsFunds laws.ownReferences (fun _ => 0))
    (sameFunds_kept T (fun _ => 0)) ?_ s op hs ?_
  · intro u f _ hf
    exact kept_of_le T { u with runtime := f u.runtime } hf
  · rintro f rfl
    exact hop

theorem talliedStep_counted (laws : ReferenceLaws T consumers frozen totalOnHold)
    (s : (tallied T).State) (op : Op A O Λ) (hs : Counted T s)
    (hop : LeavesReferences T (forget T s) op ∧
      ReturnsReferences T consumers frozen totalOnHold (forget T s) op) :
    Counted T (talliedStep T s op) := by
  obtain ⟨hleaves, hreturns⟩ := hop
  have hkept : Kept T (fun _ => 0) (forget T (talliedStep T s op)) := by
    rw [forget_talliedStep]
    exact step_kept T laws (forget T s) op hs.kept hleaves
  have hamounts : AmountsSuffice T (forget T (talliedStep T s op)) := by
    rw [forget_talliedStep]
    exact step_amountsSuffice T (forget T s) op hs.amounts
  cases op with
  | entry e => exact action_counted T laws (.entry e) s hs hreturns
  | genesisBuild initial =>
    refine ⟨?_, hkept, hamounts⟩
    change Settled T ((genesisBuild (tallied T) initial s).getD s)
    rcases h : genesisBuild (tallied T) initial s with _ | t
    · exact hs.settled
    · exact genesisBuild_sponsored (tallied T) (Settled T) initial
        (fun i _ u v hu hv => sponsored_settled T _ _ _ _ _ u v hu hv) s t hs.settled h
  | onInitialize now => exact onInitialize_counted T laws now s hs hreturns
  | environment f => exact ⟨hs.settled, hkept, hamounts⟩

/-- In every state that a run reaches the pallet has removed, from each account that is not
sponsored, as many references as it has added, if whenever a sponsorship is revoked the
beneficiary sponsors itself, has another provider or no other consumer. -/
theorem references_returned (laws : ReferenceLaws T consumers frozen totalOnHold) (L : Λ)
    (hL : ∀ a, ownShare T L a ≤ T.system.providers L a) (ops : List (Op A O Λ))
    (hforeign : Along (step T) (LeavesReferences T) (emptyStorage T L) ops)
    (hops : Along (step T) (ReturnsReferences T consumers frozen totalOnHold) (emptyStorage T L) ops)
    (pre : List (Op A O Λ)) (hpre : pre <+: ops) (b : A)
    (hb : (run (step T) (emptyStorage T L) pre).sponsorships.get b = none) :
    (tallyOf T L pre).added b = (tallyOf T L pre).removed b := by
  obtain ⟨post, rfl⟩ := hpre
  have hboth := along_and (step T) _ _ pre _ ((along_append (step T) _ pre post _).mp hforeign).1
    ((along_append (step T) _ pre post _).mp hops).1
  have halong := (along_view (forget T) (talliedStep T) (step T)
    (fun s op => LeavesReferences T (forget T s) op ∧
      ReturnsReferences T consumers frozen totalOnHold (forget T s) op) _ (forget_talliedStep T)
    (fun _ _ => Iff.rfl) pre (talliedStart T L)).mpr hboth
  have hstart : Counted T (talliedStart T L) := by
    refine ⟨?_, ?_, emptyStorage_amountsSuffice T L⟩
    · intro a
      rw [one_isSponsored_none T _ a (StorageMap.get_empty a)]
      rfl
    · refine kept_of_le T (emptyStorage T L) (fun a => ?_)
      have hnone : one (((emptyStorage T L).sponsorships.get a).isSome = true) = 0 :=
        if_neg (by simp [emptyStorage])
      rw [hnone]
      exact hL a
  have hcounted := run_invariant (talliedStep T) _ (Counted T) (talliedStep_counted T laws) pre
    (talliedStart T L) hstart halong
  -- the run with the tally and the run itself are the same run
  have hnone : (run (talliedStep T) (talliedStart T L) pre).sponsorships.get b = none := by
    rw [← hb, ← forget_run T L pre]
    rfl
  have hcount := hcounted.settled b
  rw [one_isSponsored_none T _ b hnone] at hcount
  exact hcount

/-- An account with funds and a consumer of its own is sponsored for a while. -/
def fundedLedger : Ledger ℕ HoldReason :=
  Function.update mockLedger 2 { mockLedger 2 with free := 20, consumers := 1 }

def fundedTrace : List (Op ℕ (RawOrigin ℕ) (Ledger ℕ HoldReason)) :=
  [.onInitialize 1,
    .entry (.call (.signed 1) (.sponsor 2 30 .disabled .none)),
    .entry (.call (.signed 1) (.unlock 2))]

theorem mock_referenceLaws : ReferenceLaws mock Ledger.allConsumers (fun L a => (L a).frozen)
    (fun L a => (L a).reserved) where
  counts := Ledger.system_counts 10
  keepsFunds := Ledger.system_keepsFunds 10
  refusesLast := Ledger.system_refusesLast 10
  ownReferences := Ledger.holds_ownReferences 10
  ownConsumers := Ledger.holds_ownConsumers 10
  exactReturns := Ledger.holds_exactReturns 10
  returnsKeepBooks := Ledger.holds_returnsKeepBooks 10
  keepsFrozen := Ledger.holds_keepsFrozen 10

theorem fundedTrace_returns :
    Along (step mock) (ReturnsReferences mock Ledger.allConsumers (fun L a => (L a).frozen)
      (fun L a => (L a).reserved)) (emptyStorage mock fundedLedger) fundedTrace := by
  refine ⟨⟨trivial, trivial⟩, ?_, ?_, trivial⟩
  · intro b record _ hrevokes
    exact hrevokes.elim
  · rintro b record - ⟨rfl, -⟩ -
    exact Or.inr (Or.inl (by decide +kernel))

theorem references_returned_fundedTrace :
    (run (step mock) (emptyStorage mock fundedLedger) fundedTrace).sponsorships.get 2 = none ∧
      (tallyOf mock fundedLedger fundedTrace).added 2 =
        (tallyOf mock fundedLedger fundedTrace).removed 2 := by
  have hended : (run (step mock) (emptyStorage mock fundedLedger) fundedTrace).sponsorships.get 2 =
      none := by decide +kernel
  exact ⟨hended, references_returned mock mock_referenceLaws fundedLedger
    (fun _ => Nat.le_add_left _ _) fundedTrace ⟨trivial, trivial, trivial, trivial⟩
    fundedTrace_returns fundedTrace (List.prefix_refl _) 2 hended⟩

/-- Another pallet uses the account while it is sponsored, as a session key does. When the
sponsorship ends, the pallet's reference is the last one and stays. -/
def consumerTrace : List (Op ℕ (RawOrigin ℕ) (Ledger ℕ HoldReason)) :=
  [.onInitialize 1,
    .entry (.call (.signed 1) (.sponsor 2 30 .disabled .none)),
    .environment (fun L => Function.update L 2 { L 2 with consumers := 1 }),
    .entry (.call (.signed 1) (.unlock 2))]

theorem consumed_account_keeps_reference :
    (run (step mock) (emptyStorage mock mockLedger) consumerTrace).sponsorships.get 2 = none ∧
      ¬ ((tallyOf mock mockLedger consumerTrace).added 2 =
        (tallyOf mock mockLedger consumerTrace).removed 2) := by
  have hadded : (tallyOf mock mockLedger consumerTrace).added 2 = 1 := by decide +kernel
  have hremoved : (tallyOf mock mockLedger consumerTrace).removed 2 = 0 := by decide +kernel
  refine ⟨by decide +kernel, ?_⟩
  rw [hadded, hremoved]
  decide

end NuloChain.Sponsorship
