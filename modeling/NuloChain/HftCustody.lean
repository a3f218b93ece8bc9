import NuloChain.HftFailures
import Mathlib.Logic.Relation

/-! Custody of the native currency. Sends bring tokens into the account of the pallet and the
two callbacks take them out again; the account has to hold what came in and has not left. -/
namespace NuloChain.Hft
open Frame
set_option linter.unusedSectionVars false
variable {A O C I K Λ : Type} [DecidableEq A] [DecidableEq C] [DecidableEq I]
variable (T : Config A O C I K Λ)

def custody (s : Storage A C I Λ) : ℕ := T.nativeCurrency.freeBalance s.runtime T.palletAccount

/-- What the sends of the native currency brought in. -/
def nativeSent (s : Storage A C I Λ) : ℕ :=
  ((s.outbox.filter fun m => m.assetId = T.nativeAssetId).map fun m => m.amount.val).sum

/-- What a successful callback releases. -/
def releasedBy (s : Storage A C I Λ) : Op O C I Λ → ℕ
  | .onAccept request =>
    match (onAccept T request s).1, (acceptCredit T request s).1 with
    | .ok _, .ok (_, credit) => credit.amount.val
    | _, _ => 0
  | .onTimeout (.post request) =>
    match (onTimeout T (.post request) s).1, (timeoutCredit T request s).1 with
    | .ok _, .ok credit => credit.amount.val
    | _, _ => 0
  | _ => 0

def released (s : Storage A C I Λ) : List (Op O C I Λ) → ℕ
  | [] => 0
  | op :: ops => releasedBy T s op+released (step T s op) ops

/-- The call that a message carries is dispatched for `who`. -/
def Signs (request : PostRequest C) (who : A) : Prop :=
  ∃ message account data, ∃ s : Storage A C I Λ, T.abiDecode request.body = some message ∧
    T.decodeCalldata message.data = some data ∧
    callOrigin T request.source message account data s = (.ok who, s)

/-- Custody never signs, neither a send nor a call carried by a message. -/
def CustodySignsNot : Op O C I Λ → Prop
  | .send origin _ => T.ensureSigned origin ≠ some T.palletAccount
  | .onAccept request => ¬ Signs T request T.palletAccount
  | _ => True

/-- The operations in question are those on the native currency; what else happens takes
nothing from custody. -/
def Admitted (s : Storage A C I Λ) : Op O C I Λ → Prop
  | .send _ params => params.assetId = T.nativeAssetId
  | .onAccept request =>
    ∀ a ∈ s.registry.contractToAsset.get (request.source, request.fromModule), a = T.nativeAssetId
  | .onTimeout (.post request) =>
    ∀ a ∈ s.registry.contractToAsset.get (request.dest, request.toModule), a = T.nativeAssetId
  | .environment f => custody T s ≤ T.nativeCurrency.freeBalance (f s.runtime) T.palletAccount
  | _ => True

/-- Releasing the credit leaves no dust behind: custody is emptied, or keeps at least the
minimum, or something is reserved; or nothing moves. -/
def NoDust (s : Storage A C I Λ) (credit : Credit I) : Prop :=
  custody T s ≤ credit.amount.val ∨
    credit.amount.val+T.nativeCurrency.minimumBalance ≤ custody T s ∨
    0 < T.nativeCurrency.reservedBalance s.runtime T.palletAccount ∨
    credit.amount.val = 0 ∨ T.fromBytes credit.account = T.palletAccount

/-- The callbacks release without dust, and no message that they have paid is refused. -/
def KeepsCustody (s : Storage A C I Λ) : Op O C I Λ → Prop
  | .onAccept request => (∀ message credit L, Credits T s request message credit →
      payment T s.registry credit.assetId (T.fromBytes credit.account) credit.amount.val s.runtime =
        some L → NoDust T s credit) ∧ ¬ PaysThenRefuses T s request
  | .onTimeout (.post request) => ∀ message credit L, Refunds T s request message credit →
      payment T s.registry credit.assetId (T.fromBytes credit.account) credit.amount.val s.runtime =
        some L → NoDust T s credit
  | _ => True

instance (s : Storage A C I Λ) (credit : Credit I) : Decidable (NoDust T s credit) :=
  inferInstanceAs (Decidable (_ ∨ _ ∨ _ ∨ _ ∨ _))

instance (s : Storage A C I Λ) (op : Op O C I Λ) : Decidable (Admitted T s op) :=
  match op with
  | .registry _ => isTrue trivial
  | .send _ params => inferInstanceAs (Decidable (params.assetId = T.nativeAssetId))
  | .onAccept _ => inferInstanceAs (Decidable (∀ a ∈ _, a = T.nativeAssetId))
  | .onTimeout (.post _) => inferInstanceAs (Decidable (∀ a ∈ _, a = T.nativeAssetId))
  | .onTimeout .get => isTrue trivial
  | .onTimeout .response => isTrue trivial
  | .environment _ => inferInstanceAs (Decidable (custody T s ≤ _))

/-- A part of what a dispatched call does: a send by somebody else, or a change that adds no
native send and takes nothing from custody. -/
def CallMove (s t : Storage A C I Λ) : Prop :=
  (∃ origin params, T.ensureSigned origin ≠ some T.palletAccount ∧
    params.assetId = T.nativeAssetId ∧ send T origin params s = (.ok (), t)) ∨
  (nativeSent T t = nativeSent T s ∧ custody T s ≤ custody T t)

/-- What the custody account relies on outside the pallet: transfers are exact, and neither
the dispatcher nor a call signed by somebody else takes anything from it. -/
structure CustodyLaws : Prop where
  transfers : T.nativeCurrency.ExactTransfers
  dispatch : ∀ post who fee L c L', who ≠ T.palletAccount →
    T.dispatchRequest post who fee L = some (c, L') →
    T.nativeCurrency.freeBalance L T.palletAccount ≤ T.nativeCurrency.freeBalance L' T.palletAccount
  nonce : ∀ who L, T.nativeCurrency.freeBalance (T.incAccountNonce who L) T.palletAccount =
    T.nativeCurrency.freeBalance L T.palletAccount
  call : ∀ call origin s t, origin ≠ T.palletAccount → T.dispatchCall call origin s = some t →
    Relation.ReflTransGen (CallMove T) s t

/-- Between `s` and `t` custody grew by the new sends, less at most `n`. -/
def Covers (s t : Storage A C I Λ) (n : ℕ) : Prop :=
  custody T s+nativeSent T t ≤ custody T t+n+nativeSent T s

theorem nativeSent_of_outbox (s t : Storage A C I Λ) (h : t.outbox = s.outbox) :
    nativeSent T t = nativeSent T s := by
  unfold nativeSent
  rw [h]

theorem custody_of_runtime (s t : Storage A C I Λ) (h : t.runtime = s.runtime) :
    custody T t = custody T s := by
  unfold custody
  rw [h]

theorem covers_refl (s : Storage A C I Λ) : Covers T s s 0 := by
  unfold Covers
  omega

theorem covers_trans (s t u : Storage A C I Λ) (m n : ℕ) (hst : Covers T s t m)
    (htu : Covers T t u n) : Covers T s u (m+n) := by
  unfold Covers at *
  omega

/-- Only the balance of custody and the sent messages matter. -/
theorem covers_of_same (s t t' : Storage A C I Λ) (n : ℕ) (h : Covers T s t n)
    (hruntime : t'.runtime = t.runtime) (houtbox : t'.outbox = t.outbox) : Covers T s t' n := by
  have hcustody := custody_of_runtime T t t' hruntime
  have hsent := nativeSent_of_outbox T t t' houtbox
  unfold Covers at *
  omega

theorem nativeSent_append (s t : Storage A C I Λ) (m : Sent A C I)
    (hnative : m.assetId = T.nativeAssetId) (h : t.outbox = s.outbox ++ [m]) :
    nativeSent T t = nativeSent T s+m.amount.val := by
  unfold nativeSent
  rw [h, List.filter_append, List.map_append, List.sum_append]
  simp [hnative]

/-- A send brings its amount into custody before the dispatcher runs. -/
theorem covers_send (h : CustodyLaws T) (origin : O) (params : SendParams C I)
    (s t : Storage A C I Λ) (hnative : params.assetId = T.nativeAssetId)
    (hsigner : T.ensureSigned origin ≠ some T.palletAccount)
    (hsend : send T origin params s = (.ok (), t)) : Covers T s t 0 := by
  obtain ⟨who, hwho, ⟨effect⟩⟩ := send_ok T origin params s t hsend
  have hne : who ≠ T.palletAccount := by
    intro heq
    apply hsigner
    rw [hwho, heq]
  obtain ⟨L, hL, htransfer⟩ := takeIn_ok T who params.assetId params.amount s _ effect.takeIn_eq
  have htaken : effect.taken = L := congrArg Storage.runtime hL
  have hmoved := htransfer hnative
  rw [← htaken] at hmoved
  -- the sender is another account, so the transfer arrives in full
  have hin : T.nativeCurrency.freeBalance effect.taken T.palletAccount =
      custody T s+params.amount.val := by
    by_cases hzero : params.amount.val = 0
    · have hstill := h.transfers.still _ _ _ _ _ _ hmoved (Or.inl hzero) T.palletAccount
      rw [hstill, hzero]
      rfl
    · exact h.transfers.dst _ _ _ _ _ _ hmoved hzero hne
  have hkept := h.dispatch _ _ _ _ _ _ hne effect.dispatch_eq
  have hsent := nativeSent_append T s t _ hnative effect.outbox_eq
  have hcustody : custody T t = T.nativeCurrency.freeBalance effect.runtime T.palletAccount := by
    unfold custody
    rw [effect.runtime_eq]
  unfold Covers
  simp only at hsent
  omega

/-- A dispatched call is covered part by part. -/
theorem covers_call (h : CustodyLaws T) (s t : Storage A C I Λ)
    (hmoves : Relation.ReflTransGen (CallMove T) s t) : Covers T s t 0 := by
  induction hmoves with
  | refl => exact covers_refl T s
  | tail _ hmove ih =>
    refine covers_trans T s _ _ 0 0 ih ?_
    rcases hmove with ⟨origin, params, hsigner, hnative, hsend⟩ | ⟨hsent, hcustody⟩
    · exact covers_send T h origin params _ _ hnative hsigner hsend
    · unfold Covers
      omega

/-- A release without dust takes no more than its amount. -/
theorem covers_payOut (h : CustodyLaws T) (s : Storage A C I Λ) (credit : Credit I) (L : Λ)
    (hnative : credit.assetId = T.nativeAssetId) (hdust : NoDust T s credit)
    (hpay : payOut T credit.assetId (T.fromBytes credit.account) credit.amount s =
      (.ok (), { s with runtime := L })) :
    Covers T s { s with runtime := L } credit.amount.val := by
  obtain ⟨L', hL', htransfer⟩ := payOut_ok T _ _ _ _ _ hpay
  obtain rfl : L = L' := congrArg Storage.runtime hL'
  have hmoved := htransfer hnative
  have hsent : nativeSent T { s with runtime := L } = nativeSent T s := rfl
  have hbalance : custody T s ≤ T.nativeCurrency.freeBalance L T.palletAccount+credit.amount.val := by
    by_cases hstill : credit.amount.val = 0 ∨ T.palletAccount = T.fromBytes credit.account
    · have hsame := h.transfers.still _ _ _ _ _ _ hmoved hstill T.palletAccount
      unfold custody
      omega
    · obtain ⟨hzero, hself⟩ := not_or.mp hstill
      obtain ⟨hle, hrest⟩ := h.transfers.src _ _ _ _ _ hmoved hzero hself
      have hfree : T.nativeCurrency.freeBalance s.runtime T.palletAccount = custody T s := rfl
      rw [hfree] at hle hrest
      -- what remains is removed only where the condition leaves nothing to remove
      rcases hdust with hall | hmin | hreserved | hnone | hown
      · omega
      · rw [if_neg (by omega)] at hrest
        omega
      · rw [if_neg (by omega)] at hrest
        omega
      · exact absurd hnone hzero
      · exact absurd hown.symm hself
  have hcustody : custody T { s with runtime := L } =
    T.nativeCurrency.freeBalance L T.palletAccount := rfl
  unfold Covers
  omega

/-- A payment that moves nothing takes nothing from custody. -/
theorem covers_still (h : CustodyLaws T) (s : Storage A C I Λ) (credit : Credit I) (L : Λ)
    (hnative : credit.assetId = T.nativeAssetId)
    (hstill : ¬ Moves T s.registry credit.assetId (T.fromBytes credit.account) credit.amount.val)
    (hpay : payOut T credit.assetId (T.fromBytes credit.account) credit.amount s =
      (.ok (), { s with runtime := L })) : Covers T s { s with runtime := L } 0 := by
  obtain ⟨L', hL', htransfer⟩ := payOut_ok T _ _ _ _ _ hpay
  obtain rfl : L = L' := congrArg Storage.runtime hL'
  have hcase : credit.amount.val = 0 ∨ T.palletAccount = T.fromBytes credit.account := by
    by_contra hne
    obtain ⟨hzero, hself⟩ := not_or.mp hne
    exact hstill ⟨hzero, fun _ => Ne.symm hself⟩
  have hsame := h.transfers.still _ _ _ _ _ _ (htransfer hnative) hcase T.palletAccount
  have hsent : nativeSent T { s with runtime := L } = nativeSent T s := rfl
  have hbefore : custody T s = T.nativeCurrency.freeBalance s.runtime T.palletAccount := rfl
  have hafter : custody T { s with runtime := L } =
    T.nativeCurrency.freeBalance L T.palletAccount := rfl
  unfold Covers
  omega

theorem covers_onTimeout (h : CustodyLaws T) (request : PostRequest C) (s t : Storage A C I Λ)
    (hadmitted : Admitted (O := O) T s (.onTimeout (.post request)))
    (hkeeps : KeepsCustody (O := O) T s (.onTimeout (.post request)))
    (htimeout : onTimeout T (.post request) s = (.ok (), t)) :
    Covers T s t (releasedBy (O := O) T s (.onTimeout (.post request))) := by
  obtain ⟨credit, L, hcredit, hpay, -, hruntime, houtbox⟩ := onTimeout_ok T request s t htimeout
  have hreleased : releasedBy (O := O) T s (.onTimeout (.post request)) = credit.amount.val := by
    simp only [releasedBy, htimeout, hcredit]
  obtain ⟨-, message, hrefunds⟩ := (timeoutCredit_iff_refunds T request s s credit).mp hcredit
  have hdust := hkeeps message credit L hrefunds (payment_of_payOut T _ _ _ _ _ hpay)
  rw [hreleased]
  exact covers_of_same T s _ t _
    (covers_payOut T h s credit L (hadmitted _ hrefunds.asset) hdust hpay) hruntime houtbox

/-- Calldata that runs through adds the sends of its call, which are covered. -/
theorem covers_processCalldata (h : CustodyLaws T) (request : PostRequest C) (message : Message)
    (account : Bytes32) (s t : Storage A C I Λ) (hdecode : T.abiDecode request.body = some message)
    (hsigner : ¬ Signs T request T.palletAccount)
    (hcall : processCalldata T request.source message account s = (.ok (), t)) :
    Covers T s t 0 := by
  obtain ⟨data, origin, call, w, hdata, horigin, -, hdispatch, rfl⟩ :=
    processCalldata_ok T request.source message account s t hcall
  have hne : origin ≠ T.palletAccount := by
    intro heq
    apply hsigner
    exact ⟨message, account, data, s, hdecode, hdata, heq ▸ horigin⟩
  have hcovers := covers_call T h s w (h.call call origin s w hne hdispatch)
  have hcustody : custody T { w with runtime := T.incAccountNonce origin w.runtime } =
    custody T w := h.nonce origin w.runtime
  have hsent : nativeSent T { w with runtime := T.incAccountNonce origin w.runtime } =
    nativeSent T w := rfl
  unfold Covers at *
  omega

theorem covers_onAccept (h : CustodyLaws T) (request : PostRequest C) (s : Storage A C I Λ)
    (hadmitted : Admitted (O := O) T s (.onAccept request))
    (hsigner : ¬ Signs T request T.palletAccount)
    (hkeeps : KeepsCustody (O := O) T s (.onAccept request)) :
    Covers T s (settle (onAccept T request) s) (releasedBy (O := O) T s (.onAccept request)) := by
  have hnone : Covers T s s (releasedBy (O := O) T s (.onAccept request)) := by
    unfold Covers
    omega
  rcases haccept : onAccept T request s with ⟨r, t⟩
  rcases onAccept_outcome T request s t r haccept with ⟨rfl, e, rfl⟩ |
    ⟨message, credit, L, hcredit, hpay, houtcome⟩
  · -- the message is refused before anything is paid
    rw [settle_same _ _ e haccept]
    exact hnone
  · obtain ⟨-, hcredits⟩ := (acceptCredit_ok_iff T request s s message credit).mp hcredit
    have hM := payment_of_payOut T _ _ _ _ _ hpay
    have hnative := hadmitted _ hcredits.asset
    have hpaid := covers_payOut T h s credit L hnative (hkeeps.1 message credit L hcredits hM) hpay
    cases r with
    | ok done =>
      have hreleased : releasedBy (O := O) T s (.onAccept request) = credit.amount.val := by
        simp only [releasedBy, haccept, hcredit]
      rw [settle_ok _ s t haccept, hreleased]
      rcases houtcome with ⟨-, -, -, hruntime, houtbox⟩ | ⟨-, v, hcall, -, hruntime, houtbox⟩
      · exact covers_of_same T s _ t _ hpaid hruntime houtbox
      · have hrest := covers_processCalldata T h request message credit.account _ v
          hcredits.decoded hsigner hcall
        exact covers_of_same T s v t _ (covers_trans T s _ v _ 0 hpaid hrest) hruntime houtbox
    | error e =>
      rcases houtcome with ⟨-, hok, -⟩ | ⟨hdata, v, hcall, -, hruntime, houtbox⟩
      · cases hok
      rcases settle_error _ s t e haccept with ⟨-, hsettle⟩ | ⟨hpanic, hsettle⟩
      · -- a panic undoes the payment
        rw [hsettle]
        exact hnone
      · -- paid and then refused: by the condition nothing has moved
        have hstill : ¬ Moves T s.registry credit.assetId (T.fromBytes credit.account)
            credit.amount.val := fun hmoves => hkeeps.2 ⟨message, credit, L, hcredits, hM, hmoves,
          hdata, (processCalldata_refused_iff T _ _ _ _).mp ⟨e, v, hpanic, hcall⟩⟩
        have hv := processCalldata_error T request.source message credit.account _ v e hcall
        have hcovers := covers_of_same T s _ t 0 (covers_still T h s credit L hnative hstill hpay)
          (by rw [hruntime, hv]) (by rw [houtbox, hv])
        rw [hsettle]
        unfold Covers at hcovers ⊢
        omega

/-- One operation: what custody loses beyond the new sends is what was released. -/
theorem step_covers (h : CustodyLaws T) (s : Storage A C I Λ) (op : Op O C I Λ)
    (hadmitted : Admitted T s op) (hsigner : CustodySignsNot T op) (hkeeps : KeepsCustody T s op) :
    Covers T s (step T s op) (releasedBy T s op) := by
  cases op with
  | registry call =>
    obtain ⟨hruntime, houtbox⟩ := registryStep_frame T s call
    exact covers_of_same T s s _ 0 (covers_refl T s) hruntime houtbox
  | send origin params =>
    simp only [step]
    rcases send_storage T origin params s with hsame | hsend
    · rw [hsame]
      exact covers_refl T s
    · exact covers_send T h origin params s _ hadmitted hsigner hsend
  | onAccept request => exact covers_onAccept T h request s hadmitted hsigner hkeeps
  | onTimeout timeout =>
    simp only [step]
    rcases htimeout : onTimeout T timeout s with ⟨e | done, t⟩
    · obtain rfl := onTimeout_error T timeout s t e htimeout
      rw [settle_same _ _ e htimeout]
      unfold Covers
      omega
    · rw [settle_ok _ s t htimeout]
      cases timeout with
      | post request => exact covers_onTimeout T h request s t hadmitted hkeeps htimeout
      | get => cases htimeout
      | response => cases htimeout
  | environment f =>
    have hsent : nativeSent T (step T s (.environment f)) = nativeSent T s := rfl
    have hcustody : custody T s ≤ custody T (step T s (.environment f)) := hadmitted
    have hnone : releasedBy T s (.environment f) = 0 := rfl
    unfold Covers
    omega

/-- In every run in which no release leaves dust and no message is paid and then refused, custody
holds at least its first balance and what was sent, less what was released. -/
theorem custody_covers_sends (h : CustodyLaws T) (s : Storage A C I Λ) (ops : List (Op O C I Λ))
    (hsigner : ∀ op ∈ ops, CustodySignsNot T op) (hadmitted : Along (step T) (Admitted T) s ops)
    (hkeeps : Along (step T) (KeepsCustody T) s ops) :
    custody T s+nativeSent T (run (step T) s ops) ≤
      custody T (run (step T) s ops)+released T s ops+nativeSent T s := by
  induction ops generalizing s with
  | nil =>
    simp only [run_nil, released]
    omega
  | cons op ops ih =>
    have hstep := step_covers T h s op hadmitted.1 (hsigner op List.mem_cons_self) hkeeps.1
    have hrest := ih (step T s op) (fun o ho => hsigner o (List.mem_cons_of_mem op ho))
      hadmitted.2 hkeeps.2
    exact covers_trans T s _ _ _ _ hstep hrest

/-- A message without calldata is never refused after its payment. -/
theorem keepsCustody_of_found (request : PostRequest C) (s : Storage A C I Λ)
    (h : ∀ found ∈ (acceptCredit T request s).1.toOption, NoDust T s found.2 ∧ found.1.data = []) :
    KeepsCustody (O := O) T s (.onAccept request) := by
  constructor
  · intro message credit L hcredits _
    exact (h _ (hcredits.found T s request message credit)).1
  · rintro ⟨message, credit, L, hcredits, -, -, hdata, -⟩
    exact hdata (h _ (hcredits.found T s request message credit)).2

theorem keepsCustody_of_refund (request : PostRequest C) (s : Storage A C I Λ)
    (h : ∀ credit ∈ (timeoutCredit T request s).1.toOption, NoDust T s credit) :
    KeepsCustody (O := O) T s (.onTimeout (.post request)) := by
  intro message credit L hrefunds _
  exact h credit (hrefunds.found T s request message credit)

theorem mock_custodyLaws : CustodyLaws Mock.config where
  transfers := Ledger.currency_exactTransfers 1000000000
  dispatch _ _ _ _ _ _ _ hdispatch := by
    cases hdispatch
    exact le_refl _
  nonce _ _ := rfl
  call call := call.elim

/-- No message carries a call there. -/
theorem mock_signs_not (request : PostRequest ℕ) (who : Bytes32) :
    ¬ Signs Mock.config request who := by
  rintro ⟨_, _, _, _, -, hdata, -⟩
  cases hdata

/-- Somebody gives five to custody. -/
def gift (L : Mock.Runtime) : Mock.Runtime :=
  Ledger.setFree L Mock.palletAccount ((L Mock.palletAccount).free+5)

/-- A send, the gift, a release of 25 units and a refund of 10. -/
def custodyTrace : List (Op (RawOrigin Bytes32) ℕ ℕ Mock.Runtime) :=
  [.send (.signed Mock.alice) Mock.hundredUnits,
    .environment gift,
    .onAccept (Mock.incoming 25000000000000000000),
    .onTimeout (.post (Mock.returned 10000000000000000000))]

theorem custody_covers_sends_custodyTrace :
    let s := Mock.funded 2000000000
    custody Mock.config s+nativeSent Mock.config (run (step Mock.config) s custodyTrace) ≤
      custody Mock.config (run (step Mock.config) s custodyTrace)+
        released Mock.config s custodyTrace+nativeSent Mock.config s := by
  have hsend : CustodySignsNot (Λ := Mock.Runtime) Mock.config
      (.send (.signed Mock.alice) Mock.hundredUnits) := by
    unfold CustodySignsNot
    decide
  have hsigner : ∀ op ∈ custodyTrace, CustodySignsNot Mock.config op := by
    simp only [custodyTrace, List.forall_mem_cons]
    exact ⟨hsend, trivial, mock_signs_not _ _, trivial,
      fun op hop => absurd hop List.not_mem_nil⟩
  have hkeeps : Along (step Mock.config) (KeepsCustody Mock.config) (Mock.funded 2000000000)
      custodyTrace :=
    ⟨trivial, trivial, keepsCustody_of_found Mock.config _ _ (by decide +kernel),
      keepsCustody_of_refund Mock.config _ _ (by decide +kernel), trivial⟩
  exact custody_covers_sends Mock.config mock_custodyLaws (Mock.funded 2000000000) custodyTrace
    hsigner (by decide +kernel) hkeeps

/-- A release of four and a half existential deposits. -/
def dustRelease : List (Op (RawOrigin Bytes32) ℕ ℕ Mock.Runtime) :=
  [.onAccept (Mock.incoming 4500000000000000)]

/-- Custody holds five deposits: what remains is below one and is removed as dust. -/
theorem release_to_dust_loses_custody :
    let s := Mock.funded 5000000000
    (∀ op ∈ dustRelease, CustodySignsNot Mock.config op) ∧
    Along (step Mock.config) (Admitted Mock.config) s dustRelease ∧
    released Mock.config s dustRelease = 4500000000 ∧
    ¬ custody Mock.config s+nativeSent Mock.config (run (step Mock.config) s dustRelease) ≤
      custody Mock.config (run (step Mock.config) s dustRelease)+
        released Mock.config s dustRelease+nativeSent Mock.config s := by
  refine ⟨?_, by decide +kernel, by decide +kernel, by decide +kernel⟩
  intro op hop
  obtain rfl := List.mem_singleton.mp hop
  exact mock_signs_not _ _

end NuloChain.Hft
