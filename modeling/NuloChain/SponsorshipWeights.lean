import NuloChain.SponsorshipMoves
import NuloChain.FrameWeight

/-! What the hook is charged for. `on_initialize` returns a weight that it computes from two
counts; the sponsorships that it ends are never more than it has counted, and it never counts
more than the bounds of the two indexes allow. -/
namespace NuloChain.Sponsorship
open Frame
set_option linter.unusedSectionVars false
variable {A O R Λ : Type} [DecidableEq A] (T : Config A O R Λ)

/-- A weight for each item, with one read and one write. -/
def itemsWeight (item : Weight) (db : RuntimeDbWeight) (items : ℕ) : Weight :=
  (item.saturatingMul items).saturatingAdd (db.readsWrites items items)

def onInitializeProcessAutoUnlock : RuntimeDbWeight → ℕ → Weight := itemsWeight ⟨7000000, 1000⟩

def onInitializeProcessExpiries : RuntimeDbWeight → ℕ → Weight := itemsWeight ⟨6000000, 1000⟩

def hookWeight (db : RuntimeDbWeight) (expiries autoUnlocks : ℕ) : Weight :=
  (onInitializeProcessExpiries db expiries).saturatingAdd
    (onInitializeProcessAutoUnlock db autoUnlocks)

/-- The weight that `on_initialize` returns. -/
def onInitializeWeight (db : RuntimeDbWeight) (now : ℕ) (s : T.State) : Option Weight :=
  (onInitialize T now s).map fun done => hookWeight db done.2.1 done.2.2

theorem hookWeight_mono (db : RuntimeDbWeight) {m n m' n' : ℕ} (hm : m ≤ m') (hn : n ≤ n') :
    (hookWeight db m n).AllLte (hookWeight db m' n') := by
  apply Weight.saturatingAdd_mono
  · exact Weight.saturatingAdd_mono (Weight.saturatingMul_mono _ hm) (db.readsWrites_mono hm)
  · exact Weight.saturatingAdd_mono (Weight.saturatingMul_mono _ hn) (db.readsWrites_mono hn)

namespace Event

def beneficiary : Event A → A
  | .sponsored _ b _ _ _ => b
  | .unlocked _ b _ _ => b
  | .policyUpdated _ b _ _ => b
  | .expired _ b _ => b
  | .autoUnlocked _ b _ _ => b

def isExpired : Event A → Bool
  | .expired _ _ _ => true
  | _ => false

def isAutoUnlocked : Event A → Bool
  | .autoUnlocked _ _ _ _ => true
  | _ => false

end Event

/-- From `s` to `t` there are at most `n` new events, all of one kind, and every sponsorship that
is gone is named by one of them. -/
def EndsNamed (kind : Event A → Bool) (n : ℕ) (s t : T.State) : Prop :=
  ∃ new, t.events = s.events ++ new ∧ (∀ e ∈ new, kind e = true) ∧ new.length ≤ n ∧
    ∀ b, s.sponsorships.get b ≠ none → t.sponsorships.get b = none → ∃ e ∈ new, e.beneficiary = b

theorem endsNamed_of_same (kind : Event A → Bool) (n : ℕ) (s t : T.State)
    (hevents : t.events = s.events) (hrecords : t.sponsorships = s.sponsorships) :
    EndsNamed T kind n s t := by
  refine ⟨[], ?_, fun e he => absurd he List.not_mem_nil, Nat.zero_le n, ?_⟩
  · rw [hevents, List.append_nil]
  · intro b hb hgone
    rw [hrecords] at hgone
    exact absurd hgone hb

theorem endsNamed_trans (kind : Event A → Bool) (m n : ℕ) (s t u : T.State)
    (hst : EndsNamed T kind m s t) (htu : EndsNamed T kind n t u) : EndsNamed T kind (m+n) s u := by
  obtain ⟨first, hfirst, hkind, hlen, hnamed⟩ := hst
  obtain ⟨second, hsecond, hkind', hlen', hnamed'⟩ := htu
  refine ⟨first ++ second, ?_, ?_, ?_, ?_⟩
  · rw [hsecond, hfirst, List.append_assoc]
  · intro e he
    rcases List.mem_append.mp he with he | he
    · exact hkind e he
    · exact hkind' e he
  · rw [List.length_append]
    omega
  · intro b hb hgone
    by_cases hmiddle : t.sponsorships.get b = none
    · obtain ⟨e, he, hname⟩ := hnamed b hb hmiddle
      exact ⟨e, List.mem_append_left second he, hname⟩
    · obtain ⟨e, he, hname⟩ := hnamed' b hmiddle hgone
      exact ⟨e, List.mem_append_right first he, hname⟩

/-- A revocation that is logged ends one sponsorship and names it. -/
theorem revoked_endsNamed (kind : Event A → Bool) (b : A) (record : SponsorshipRecord A)
    (event : Event A) (s t : T.State) (hkind : kind event = true) (hname : event.beneficiary = b)
    (h : revokeSponsorship T b s = (.ok record, t)) : EndsNamed T kind 1 s (logged T event t) := by
  obtain ⟨-, L, -, rfl⟩ := (revokeSponsorship_ok_iff T b record s t).mp h
  refine ⟨[event], ?_, ?_, Nat.le_refl 1, ?_⟩
  · change (revokedStorage T b record L s).events ++ [event] = _
    rw [events_revokedStorage]
  · intro e he
    rw [List.mem_singleton.mp he]
    exact hkind
  · intro c hc hgone
    change (s.sponsorships.remove b).get c = none at hgone
    rw [StorageMap.get_remove] at hgone
    by_cases hcb : c = b
    · exact ⟨event, List.mem_singleton_self event, hname.trans hcb.symm⟩
    · rw [if_neg hcb] at hgone
      exact absurd hgone hc

theorem expireIteration_endsNamed (now : ℕ) (b : A) (s : T.State) :
    EndsNamed T Event.isExpired 1 s (expireIteration T now s b) := by
  rcases expireIteration_turn T now b s with hsame | ⟨record, t, hrevoke, -, hturn⟩
  · rw [hsame]
    exact endsNamed_of_same T _ 1 s s rfl rfl
  · rw [hturn]
    exact revoked_endsNamed T _ b record _ s t rfl rfl hrevoke

theorem expireLoop_endsNamed (now : ℕ) (expiring : List A) (s : T.State) :
    EndsNamed T Event.isExpired expiring.length s (expiring.foldl (expireIteration T now) s) := by
  induction expiring generalizing s with
  | nil => exact endsNamed_of_same T _ 0 s s rfl rfl
  | cons b expiring ih =>
    have hturn := endsNamed_trans T _ 1 expiring.length s _ _ (expireIteration_endsNamed T now b s)
      (ih (expireIteration T now s b))
    rw [Nat.add_comm] at hturn
    exact hturn

theorem tryAutoUnlockInternal_endsNamed (b : A) (s : T.State) :
    EndsNamed T Event.isAutoUnlocked 1 s (tryAutoUnlockInternal T b true s).2 := by
  rcases tryAutoUnlockInternal_turn T b s with hsame | ⟨record, c, t, hrevoke, -, hturn⟩
  · rw [hsame]
    exact endsNamed_of_same T _ 1 s s rfl rfl
  · rw [hturn]
    exact revoked_endsNamed T _ b record _ s t rfl rfl hrevoke

/-- Every entry within the bound is counted, and ends at most the sponsorship that it names. -/
theorem autoUnlockPass_endsNamed (entries : List (A × ℕ))
    (pass : AutoUnlockPass A Λ T.maxQueueProcessingPerBlock)
    (hindex : ∀ entry ∈ entries, entry.2 < T.maxQueueProcessingPerBlock) :
    let done := entries.foldl (autoUnlockIteration T) pass
    EndsNamed T Event.isAutoUnlocked entries.length pass.storage done.storage ∧
      (pass.processed ≤ u32Max → done.processed = min (pass.processed+entries.length) u32Max) := by
  induction entries generalizing pass with
  | nil =>
    refine ⟨endsNamed_of_same T _ 0 _ _ rfl rfl, ?_⟩
    intro hle
    exact (Nat.min_eq_left hle).symm
  | cons entry entries ih =>
    obtain ⟨b, index⟩ := entry
    have hturn := autoUnlockIteration_eq T pass b index (hindex (b, index) List.mem_cons_self)
    obtain ⟨hended, hcount⟩ := ih (autoUnlockIteration T pass (b, index))
      (fun entry he => hindex entry (List.mem_cons_of_mem _ he))
    have hone : EndsNamed T Event.isAutoUnlocked 1 pass.storage
        (autoUnlockIteration T pass (b, index)).storage := by
      rw [hturn]
      exact tryAutoUnlockInternal_endsNamed T b pass.storage
    have hnext : (autoUnlockIteration T pass (b, index)).processed =
        min (pass.processed+1) u32Max := by
      rw [hturn]
      rfl
    refine ⟨?_, ?_⟩
    · have hboth := endsNamed_trans T _ 1 entries.length _ _ _ hone hended
      rw [Nat.add_comm] at hboth
      exact hboth
    · intro hle
      have hrest := hcount (by omega)
      rw [List.length_cons]
      rw [List.foldl_cons]
      omega

theorem autoUnlockLoop_endsNamed (hlimit : T.maxQueueProcessingPerBlock ≤ u32Max) (s : T.State) :
    EndsNamed T Event.isAutoUnlocked s.autoUnlockQueue.toList.length
        { s with autoUnlockQueue := BoundedVec.empty } (autoUnlockLoop T s).storage ∧
      (autoUnlockLoop T s).processed = s.autoUnlockQueue.toList.length := by
  have hbounded := s.autoUnlockQueue.bounded
  have hindex : ∀ entry ∈ s.autoUnlockQueue.toList.zipIdx,
      entry.2 < T.maxQueueProcessingPerBlock := by
    intro entry he
    have hlt := List.snd_lt_of_mem_zipIdx he
    omega
  obtain ⟨hended, hcount⟩ := autoUnlockPass_endsNamed T s.autoUnlockQueue.toList.zipIdx
    ⟨[], [], 0, { s with autoUnlockQueue := BoundedVec.empty }⟩ hindex
  rw [List.length_zipIdx] at hended hcount
  refine ⟨hended, ?_⟩
  have hprocessed : (autoUnlockLoop T s).processed =
      min (0+s.autoUnlockQueue.toList.length) u32Max := hcount (Nat.zero_le _)
  omega

/-- In every state the weight of the hook covers its work and is bounded: it is at least that of
one item for every sponsorship that the hook ends, and at most that of two full indexes. -/
theorem hook_weight_covers_work (hlimit : T.maxQueueProcessingPerBlock ≤ u32Max)
    (db : RuntimeDbWeight) (now : ℕ) (s : T.State) :
    ∃ t weight expired unlocked, (onInitialize T now s).map Prod.fst = some t ∧
      onInitializeWeight T db now s = some weight ∧
      t.events = s.events ++ (expired ++ unlocked) ∧
      (∀ e ∈ expired, e.isExpired = true) ∧ (∀ e ∈ unlocked, e.isAutoUnlocked = true) ∧
      (∀ b, isSponsored T b s = true → isSponsored T b t = false →
        ∃ e ∈ expired ++ unlocked, e.beneficiary = b) ∧
      (hookWeight db expired.length unlocked.length).AllLte weight ∧
      weight.AllLte (hookWeight db T.maxQueueProcessingPerBlock T.maxQueueProcessingPerBlock) := by
  let middle := (processExpirations T now s).1
  have hfirst : EndsNamed T Event.isExpired (bucket T s now).toList.length s middle :=
    expireLoop_endsNamed T now (bucket T s now).toList
      { s with expirations := s.expirations.remove now }
  obtain ⟨hsecond, hcount⟩ := autoUnlockLoop_endsNamed T hlimit middle
  obtain ⟨next, -, hqueue⟩ := processAutoUnlockQueue_eq T middle
  let t : T.State := { (autoUnlockLoop T middle).storage with autoUnlockQueue := next }
  have hhook : onInitialize T now s =
      some (t, (bucket T s now).toList.length, middle.autoUnlockQueue.toList.length) := by
    rw [← hcount]
    change Option.map _ (processAutoUnlockQueue T middle) = _
    rw [hqueue]
    rfl
  obtain ⟨expired, hexpired, hkind, hlen, hnamed⟩ := hfirst
  obtain ⟨unlocked, hunlocked, hkind', hlen', hnamed'⟩ := hsecond
  have hevents : t.events = s.events ++ (expired ++ unlocked) := by
    rw [← List.append_assoc, ← hexpired]
    exact hunlocked
  refine ⟨t, _, expired, unlocked, by rw [hhook]; rfl, by rw [onInitializeWeight, hhook]; rfl,
    hevents, hkind, hkind', ?_, hookWeight_mono db hlen hlen',
    hookWeight_mono db (bucket T s now).bounded middle.autoUnlockQueue.bounded⟩
  intro b hb hgone
  have hthere : s.sponsorships.get b ≠ none := Option.isSome_iff_ne_none.mp hb
  have hnone : (autoUnlockLoop T middle).storage.sponsorships.get b = none :=
    Option.isSome_eq_false_iff.mp hgone |> Option.isNone_iff_eq_none.mp
  -- gone after the first loop, or after the second
  by_cases hmiddle : middle.sponsorships.get b = none
  · obtain ⟨e, he, hname⟩ := hnamed b hthere hmiddle
    exact ⟨e, List.mem_append_left unlocked he, hname⟩
  · obtain ⟨e, he, hname⟩ := hnamed' b hmiddle hnone
    exact ⟨e, List.mem_append_right expired he, hname⟩

/-- One sponsorship that ends with its lease and one that unlocks by itself. -/
def weightState : mock.State := run (step mock) (emptyStorage mock mockLedger)
  [.onInitialize 1, .entry (.call (.signed 1) (.sponsor 2 20 .disabled (.until 9))),
    .entry (.call (.signed 1) (.sponsor 3 20 (.enabled .freeGeSponsored) .none))]

theorem hook_weight_covers_work_weightState :
    onInitializeWeight mock ⟨25000000, 100000000⟩ 9 weightState = some ⟨263000000, 2000⟩ ∧
      ∃ t weight expired unlocked, (onInitialize mock 9 weightState).map Prod.fst = some t ∧
        onInitializeWeight mock ⟨25000000, 100000000⟩ 9 weightState = some weight ∧
        t.events = weightState.events ++ (expired ++ unlocked) ∧
        (∀ e ∈ expired, e.isExpired = true) ∧ (∀ e ∈ unlocked, e.isAutoUnlocked = true) ∧
        (∀ b, isSponsored mock b weightState = true → isSponsored mock b t = false →
          ∃ e ∈ expired ++ unlocked, e.beneficiary = b) ∧
        (hookWeight ⟨25000000, 100000000⟩ expired.length unlocked.length).AllLte weight ∧
        weight.AllLte (hookWeight ⟨25000000, 100000000⟩ 8 8) :=
  ⟨by decide +kernel, hook_weight_covers_work mock (by decide) ⟨25000000, 100000000⟩ 9 weightState⟩

end NuloChain.Sponsorship
