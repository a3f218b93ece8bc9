import NuloChain.SponsorshipLedger
import NuloChain.SponsorshipMoves

/-! The event log as a record of its own. An observer who reads nothing but the events keeps
a book of the sponsorships in force; the book is what the provider trait answers, and every
entry of the log fits the book it is read against. -/
namespace NuloChain.Sponsorship
open Frame
set_option linter.unusedSectionVars false
variable {A O R Λ : Type} [DecidableEq A] (T : Config A O R Λ)

/-- What the log says of a sponsorship. -/
structure Escrow (A : Type) where
  sponsor : A
  amount : ℕ
  autoUnlock : AutoUnlockMode
  lease : Lease
  deriving DecidableEq, Repr

abbrev Book (A : Type) : Type := A → Option (Escrow A)

namespace Book

/-- The book without `b`, provided that what it has on `b` passes `fits`. -/
def close (book : Book A) (b : A) (fits : Escrow A → Bool) : Option (Book A) :=
  match book b with
  | some e => if fits e then some (Function.update book b none) else none
  | none => none

/-- The book with a new policy for `b`, provided that the sponsor is the one it has. -/
def amend (book : Book A) (b sponsor : A) (autoUnlock : AutoUnlockMode) (lease : Lease) :
    Option (Book A) :=
  match book b with
  | some e =>
    if e.sponsor = sponsor then
      some (Function.update book b (some { e with autoUnlock := autoUnlock, lease := lease }))
    else none
  | none => none

/-- One entry of the log. A sponsorship is opened only where there is none, and closed by its
own sponsor, amount and grounds; anything else is rejected. -/
def note (book : Book A) : Event A → Option (Book A)
  | .sponsored sponsor b amount autoUnlock lease =>
    if book b = none then some (Function.update book b (some ⟨sponsor, amount, autoUnlock, lease⟩))
    else none
  | .unlocked sponsor b amount _ => book.close b fun e => e.sponsor = sponsor ∧ e.amount = amount
  | .policyUpdated sponsor b autoUnlock lease => book.amend b sponsor autoUnlock lease
  | .expired sponsor b amount =>
    book.close b fun e => e.sponsor = sponsor ∧ e.amount = amount ∧ e.lease ≠ .none
  | .autoUnlocked sponsor b amount condition =>
    book.close b fun e =>
      e.sponsor = sponsor ∧ e.amount = amount ∧ e.autoUnlock = .enabled condition

end Book

/-- The book of a storage, read through the provider trait. -/
def bookOf (s : T.State) : Book A := fun b =>
  (sponsorshipOf T b s).map fun v => ⟨v.sponsor, v.amount, v.autoUnlock, v.lease⟩

def escrowOf (record : SponsorshipRecord A) : Escrow A :=
  ⟨record.sponsor, record.amount, record.autoUnlock, record.lease⟩

theorem bookOf_apply (s : T.State) (b : A) :
    bookOf T s b = (s.sponsorships.get b).map escrowOf := by
  unfold bookOf sponsorshipOf
  rw [Option.map_map]
  rfl

theorem bookOf_insert (s t : T.State) (b : A) (record : SponsorshipRecord A)
    (h : t.sponsorships = s.sponsorships.insert b record) :
    bookOf T t = Function.update (bookOf T s) b (some (escrowOf record)) := by
  funext a
  rw [bookOf_apply, h, StorageMap.get_insert, Function.update_apply, bookOf_apply]
  split <;> rfl

theorem bookOf_remove (s t : T.State) (b : A) (h : t.sponsorships = s.sponsorships.remove b) :
    bookOf T t = Function.update (bookOf T s) b none := by
  funext a
  rw [bookOf_apply, h, StorageMap.get_remove, Function.update_apply, bookOf_apply]
  split <;> rfl

/-- What a move does to the records and to the log, together. -/
inductive Noted (s t : T.State) : Prop
  | silent (records : t.sponsorships = s.sponsorships) (events : t.events = s.events)
  | opened (b : A) (record : SponsorshipRecord A) (fresh : s.sponsorships.get b = none)
      (records : t.sponsorships = s.sponsorships.insert b record)
      (events : t.events = s.events ++
        [.sponsored record.sponsor b record.amount record.autoUnlock record.lease])
  | closed (b : A) (record : SponsorshipRecord A) (event : Event A)
      (found : s.sponsorships.get b = some record) (closes : Closes b record event)
      (records : t.sponsorships = s.sponsorships.remove b)
      (events : t.events = s.events ++ [event])
  | amended (b : A) (record : SponsorshipRecord A) (autoUnlock : AutoUnlockMode) (lease : Lease)
      (found : s.sponsorships.get b = some record)
      (records : t.sponsorships = s.sponsorships.insert b
        { record with autoUnlock := autoUnlock, lease := lease })
      (events : t.events = s.events ++ [.policyUpdated record.sponsor b autoUnlock lease])

theorem close_replays (s t : T.State) (b : A) (record : SponsorshipRecord A)
    (fits : Escrow A → Bool) (found : s.sponsorships.get b = some record)
    (hfits : fits (escrowOf record) = true) (records : t.sponsorships = s.sponsorships.remove b) :
    (bookOf T s).close b fits = some (bookOf T t) := by
  unfold Book.close
  rw [bookOf_apply, found, Option.map_some]
  simp only [hfits, if_true, bookOf_remove T s t b records]

/-- Whatever a move notes is accepted and brings the book up to date. -/
theorem noted_replays (s t : T.State) (h : Noted T s t) :
    Replays Book.note (bookOf T) Storage.events s t := by
  cases h with
  | silent records events =>
    refine replays_of_same _ _ _ s t events ?_
    funext b
    rw [bookOf_apply, bookOf_apply, records]
  | opened b record fresh records events =>
    refine replays_entry _ _ _ s t _ events ?_
    have hnone : bookOf T s b = none := by
      rw [bookOf_apply, fresh]
      rfl
    simp only [Book.note, hnone, if_true, bookOf_insert T s t b record records]
    rfl
  | closed b record event found closes records events =>
    refine replays_entry _ _ _ s t event events ?_
    cases closes with
    | unlocked reason =>
      exact close_replays T s t b record _ found (by simp [escrowOf]) records
    | expired hlease =>
      exact close_replays T s t b record _ found (by simp [escrowOf, hlease]) records
    | autoUnlocked c hmode =>
      exact close_replays T s t b record _ found (by simp [escrowOf, hmode]) records
  | amended b record autoUnlock lease found records events =>
    refine replays_entry _ _ _ s t _ events ?_
    have hsponsor : (escrowOf record).sponsor = record.sponsor := rfl
    simp only [Book.note, Book.amend, bookOf_apply, found, Option.map_some]
    rw [if_pos hsponsor, bookOf_insert T s t b _ records]
    rfl

/-- A creation notes its arguments, unless it is part of the genesis build. -/
theorem doSponsor_events (sponsor b : A) (amount : ℕ) (autoUnlock : AutoUnlockMode)
    (lease : Lease) (emitEvent : Bool) (s t : T.State) (u : Unit)
    (h : doSponsor T sponsor b amount autoUnlock lease emitEvent s = (.ok u, t)) :
    t.events = s.events ++
      if emitEvent = true then [.sponsored sponsor b amount autoUnlock lease] else [] := by
  rw [doSponsor, Dispatch.transactional_ok_iff] at h
  simp only [doSponsorBody, depositEvent, logged, Dispatch.bind_ok_iff, Dispatch.write_ok_iff,
    Dispatch.when_ok_iff] at h
  obtain ⟨ledger, s₀, hcheck, _, s₁, hplace, _, s₂, hs₂, _, s₃, hexp, _, s₄, hqueue, hevent⟩ := h
  obtain ⟨hs₀, -⟩ := checkSponsor_ok T _ _ _ _ _ _ _ hcheck
  obtain ⟨L, -, hs₁⟩ := placeHolds_ok T _ _ _ _ _ _ hplace
  obtain ⟨expirations, hs₃, -⟩ := insertExpiration_ok T _ _ _ _ _ hexp
  obtain ⟨queue, hs₄, -⟩ := enqueueAutoUnlock_ok T _ _ _ _ _
    ((Dispatch.when_ok_iff _ _ _ _ _).mpr hqueue)
  have hkept : s₄.events = s.events := by rw [hs₄, hs₃, hs₂, hs₁, hs₀]
  rcases hevent with ⟨hemit, ht⟩ | ⟨hemit, ht⟩
  · rw [ht, hkept, if_pos hemit]
  · rw [ht, hkept, if_neg hemit, List.append_nil]

theorem setPolicy_events (origin : O) (b : A) (autoUnlock : AutoUnlockMode) (lease : Lease)
    (s t : T.State) (u : Unit) (h : setPolicy T origin b autoUnlock lease s = (.ok u, t)) :
    ∃ caller, T.ensureSigned origin = some caller ∧
      t.events = s.events ++ [.policyUpdated caller b autoUnlock lease] := by
  rw [setPolicy, Dispatch.transactional_ok_iff] at h
  simp only [setPolicyBody, ensureSigned, depositEvent, logged, Dispatch.bind_ok_iff,
    Dispatch.read_ok_iff, Dispatch.ensure_ok_iff, Dispatch.okOr_ok_iff,
    Dispatch.write_ok_iff] at h
  obtain ⟨caller, _, ⟨hsigned, rfl⟩, _, _, ⟨rfl, rfl⟩, record, _, ⟨-, rfl⟩, _, _, ⟨-, rfl⟩,
    _, _, hlease, _, s₁, hmove, _, s₂, hqueue, _, _, rfl, rfl⟩ := h
  obtain ⟨-, rfl⟩ := validateLease_ok T _ _ _ _ _ hlease
  obtain ⟨expirations, hs₁, -⟩ := moveExpiration_ok T _ _ _ _ _ _ hmove
  obtain ⟨queue, hs₂, -⟩ := enqueueAutoUnlock_ok T _ _ _ _ _ hqueue
  refine ⟨caller, hsigned, ?_⟩
  rw [hs₂, hs₁]

/-- Every move after genesis notes what it does. -/
theorem move_noted (s t : T.State) (h : Move T true s t) : Noted T s t := by
  cases h with
  | bookkeeping funds events => exact .silent funds.sponsorships events
  | sponsored sponsor b amount autoUnlock lease u h =>
    have hsponsored := doSponsor_ok T sponsor b amount autoUnlock lease true s t u h
    have hevents := doSponsor_events T sponsor b amount autoUnlock lease true s t u h
    exact .opened b ⟨sponsor, amount, autoUnlock, lease, s.blockNumber⟩ hsponsored.fresh
      hsponsored.sponsorships hevents
  | revoked b record L event found refunded closes result =>
    subst result
    refine .closed b record event found closes rfl ?_
    change (revokedStorage T b record L s).events ++ [event] = _
    rw [events_revokedStorage]
  | policy origin b autoUnlock lease u h =>
    obtain ⟨caller, record, hsigned, hset⟩ := setPolicy_ok T origin b autoUnlock lease s t u h
    obtain ⟨caller', hsigned', hevents⟩ := setPolicy_events T origin b autoUnlock lease s t u h
    -- the event names the caller, who is the sponsor on record
    have hcaller : caller' = record.sponsor := by
      rw [hsigned] at hsigned'
      rw [← Option.some.inj hsigned']
      exact hset.sponsor
    rw [hcaller] at hevents
    exact .amended b record autoUnlock lease hset.found hset.sponsorships hevents

theorem run_noted (ops : List (Op A O Λ)) (s : T.State)
    (hops : ∀ initial, .genesisBuild initial ∉ ops) :
    Relation.ReflTransGen (Noted T) s (run (step T) s ops) := by
  induction ops generalizing s with
  | nil => exact .refl
  | cons op ops ih =>
    have hrest := ih (step T s op) (fun initial hmem => hops initial (List.mem_cons_of_mem op hmem))
    refine Relation.ReflTransGen.trans ?_ hrest
    by_cases henv : ∃ f, op = .environment f
    · obtain ⟨f, rfl⟩ := henv
      exact .single (.silent rfl rfl)
    · obtain ⟨emitEvent, hmoves, hloud⟩ := step_moves T s op (fun f hf => henv ⟨f, hf⟩)
      have hemit := hloud (fun initial heq => hops initial (heq ▸ List.mem_cons_self))
      rw [hemit] at hmoves
      exact hmoves.lift id (move_noted T)

/-- An observer of the events alone keeps up with the pallet: from any state, and through any
run after genesis, every new event fits the observer's book, and the book ends up as what
the provider trait answers. -/
theorem event_log_replays (s : T.State) (ops : List (Op A O Λ))
    (hops : ∀ initial, .genesisBuild initial ∉ ops) :
    ∃ new, (run (step T) s ops).events = s.events ++ new ∧
      new.foldlM Book.note (bookOf T s) = some (bookOf T (run (step T) s ops)) := by
  have hchain := run_noted T ops s hops
  change Replays Book.note (bookOf T) Storage.events s (run (step T) s ops)
  generalize run (step T) s ops = t at hchain ⊢
  induction hchain with
  | refl => exact replays_refl _ _ _ s
  | tail _ hnoted ih => exact replays_trans _ _ _ _ _ _ ih (noted_replays T _ _ hnoted)

/-- A sponsorship for each of two accounts; the one expires, the other gets a new policy and is
then unlocked by the hook. -/
def replayTrace : List (Op ℕ (RawOrigin ℕ) (Ledger ℕ HoldReason)) :=
  [.onInitialize 1,
    .entry (.call (.signed 1) (.sponsor 2 40 .disabled (.until 2))),
    .entry (.call (.signed 4) (.sponsor 3 30 .disabled .none)),
    .entry (.call (.signed 4) (.setPolicy 3 (.enabled .freeGeSponsored) (.until 9))),
    .onInitialize 2]

theorem replayTrace_no_genesis (initial : List (InitialSponsorship ℕ)) :
    .genesisBuild initial ∉ replayTrace := by
  simp [replayTrace]

theorem event_log_replays_replayTrace :
    (run (step mock) (emptyStorage mock mockLedger) replayTrace).events.length = 5 ∧
      ∃ new, (run (step mock) (emptyStorage mock mockLedger) replayTrace).events = [] ++ new ∧
        new.foldlM Book.note (bookOf mock (emptyStorage mock mockLedger)) =
          some (bookOf mock (run (step mock) (emptyStorage mock mockLedger) replayTrace)) :=
  ⟨by decide +kernel, event_log_replays mock (emptyStorage mock mockLedger) replayTrace
    replayTrace_no_genesis⟩

/-! What the log comes to for one sponsor. `weigh` counts an amount as itself, or as one. -/

def Event.opens (weigh : ℕ → ℕ) (a : A) : Event A → ℕ
  | .sponsored sponsor _ amount _ _ => if sponsor = a then weigh amount else 0
  | _ => 0

def Event.closes (weigh : ℕ → ℕ) (a : A) : Event A → ℕ
  | .unlocked sponsor _ amount _ => if sponsor = a then weigh amount else 0
  | .expired sponsor _ amount => if sponsor = a then weigh amount else 0
  | .autoUnlocked sponsor _ amount _ => if sponsor = a then weigh amount else 0
  | _ => 0

def opened (weigh : ℕ → ℕ) (a : A) (events : List (Event A)) : ℕ :=
  (events.map (Event.opens weigh a)).sum

def closed (weigh : ℕ → ℕ) (a : A) (events : List (Event A)) : ℕ :=
  (events.map (Event.closes weigh a)).sum

/-- What the records of sponsor `a` come to. -/
def weighed (weigh : ℕ → ℕ) (m : StorageMap A (SponsorshipRecord A)) (a : A) : ℕ :=
  m.sum fun _ record => if record.sponsor = a then weigh record.amount else 0

theorem closes_eq (weigh : ℕ → ℕ) (a b : A) (record : SponsorshipRecord A) (event : Event A)
    (h : Closes b record event) : event.opens weigh a = 0 ∧
      event.closes weigh a = if record.sponsor = a then weigh record.amount else 0 := by
  cases h with
  | unlocked reason => exact ⟨rfl, rfl⟩
  | expired h => exact ⟨rfl, rfl⟩
  | autoUnlocked c h => exact ⟨rfl, rfl⟩

/-- A move adds to the log what it adds to the records. -/
theorem noted_weighed (weigh : ℕ → ℕ) (a : A) (s t : T.State) (h : Noted T s t) :
    ∃ new, t.events = s.events ++ new ∧
      weighed weigh s.sponsorships a+opened weigh a new =
        weighed weigh t.sponsorships a+closed weigh a new := by
  cases h with
  | silent records events =>
    refine ⟨[], by rw [events, List.append_nil], ?_⟩
    rw [records]
    rfl
  | opened b record fresh records events =>
    refine ⟨_, events, ?_⟩
    unfold weighed
    rw [records, StorageMap.sum_insert_new _ _ _ _ fresh]
    simp [opened, closed, Event.opens, Event.closes]
  | closed b record event found closes records events =>
    obtain ⟨hopens, hcloses⟩ := closes_eq weigh a b record event closes
    refine ⟨_, events, ?_⟩
    have hsum := StorageMap.sum_remove s.sponsorships b record
      (fun _ record => if record.sponsor = a then weigh record.amount else 0) found
    unfold weighed
    simp only [opened, closed, List.map_cons, List.map_nil, List.sum_cons, List.sum_nil, hopens,
      hcloses, records]
    omega
  | amended b record autoUnlock lease found records events =>
    refine ⟨_, events, ?_⟩
    have hsum := StorageMap.sum_insert_over s.sponsorships b record
      { record with autoUnlock := autoUnlock, lease := lease }
      (fun _ record => if record.sponsor = a then weigh record.amount else 0) found
    -- a new policy keeps the sponsor and the amount
    dsimp only at hsum
    unfold weighed
    simp only [opened, closed, List.map_cons, List.map_nil, List.sum_cons, List.sum_nil,
      Event.opens, Event.closes, records]
    omega

theorem run_weighed (weigh : ℕ → ℕ) (a : A) (s t : T.State)
    (h : Relation.ReflTransGen (Noted T) s t) :
    ∃ new, t.events = s.events ++ new ∧
      weighed weigh s.sponsorships a+opened weigh a new =
        weighed weigh t.sponsorships a+closed weigh a new := by
  induction h with
  | refl => exact ⟨[], by rw [List.append_nil], rfl⟩
  | tail _ hnoted ih =>
    obtain ⟨first, hfirst, hweighed⟩ := ih
    obtain ⟨second, hsecond, hnext⟩ := noted_weighed T weigh a _ _ hnoted
    refine ⟨first ++ second, by rw [hsecond, hfirst, List.append_assoc], ?_⟩
    simp only [opened, closed, List.map_append, List.sum_append] at hweighed hnext ⊢
    omega

/-- The log accounts for the sponsor ledger: between any two states of a chain, what a sponsor's
entry gained in amount and in number is what its `Sponsored` events add up to, less what the
events that end its sponsorships do. -/
theorem log_accounts_for_ledger (hT : CapsBelowMax T) (L : Λ) (pre ops : List (Op A O Λ))
    (hops : ∀ initial, .genesisBuild initial ∉ ops) (a : A) :
    let s := run (step T) (emptyStorage T L) pre
    let t := run (step T) s ops
    ∃ new, t.events = s.events ++ new ∧
      (s.sponsorLedger.getD a {}).activeAmount+opened id a new =
        (t.sponsorLedger.getD a {}).activeAmount+closed id a new ∧
      (s.sponsorLedger.getD a {}).activeCount+opened (fun _ => 1) a new =
        (t.sponsorLedger.getD a {}).activeCount+closed (fun _ => 1) a new := by
  intro s t
  have hs : LedgerExact T s := run_ledgerExact T hT L pre
  have ht : LedgerExact T t := by
    have hrun : t = run (step T) (emptyStorage T L) (pre ++ ops) :=
      (run_append (step T) (emptyStorage T L) pre ops).symm
    rw [hrun]
    exact run_ledgerExact T hT L (pre ++ ops)
  have hchain := run_noted T ops s hops
  obtain ⟨new, hnew, hamount⟩ := run_weighed T id a s t hchain
  obtain ⟨new', hnew', hcount⟩ := run_weighed T (fun _ => 1) a s t hchain
  -- both readings are of the same new events
  have hsame : new' = new := List.append_cancel_left (hnew'.symm.trans hnew)
  rw [hsame] at hcount
  refine ⟨new, hnew, ?_, ?_⟩
  · rw [hs.amount, ht.amount]
    exact hamount
  · rw [hs.count, ht.count]
    exact hcount

theorem log_accounts_for_ledger_replayTrace :
    let s := emptyStorage mock mockLedger
    let t := run (step mock) s replayTrace
    closed id 4 t.events = 30 ∧ ∃ new, t.events = s.events ++ new ∧
      (s.sponsorLedger.getD 4 {}).activeAmount+opened id 4 new =
        (t.sponsorLedger.getD 4 {}).activeAmount+closed id 4 new ∧
      (s.sponsorLedger.getD 4 {}).activeCount+opened (fun _ => 1) 4 new =
        (t.sponsorLedger.getD 4 {}).activeCount+closed (fun _ => 1) 4 new :=
  ⟨by decide +kernel, log_accounts_for_ledger mock ⟨by decide, by decide⟩ mockLedger [] replayTrace
    replayTrace_no_genesis 4⟩

end NuloChain.Sponsorship
