import NuloChain.HftCustody
import NuloChain.FrameSupply
import NuloChain.FrameAccount

/-! The circulation of every asset: what is issued and not in custody. A send takes its amount
out of circulation, into custody or out of existence; of the pallet itself only a payment of the
callbacks brings any back, and what calls and other pallets do is counted beside it. The registry
may change in between, and with it how an asset is taken in and paid. -/
namespace NuloChain.Hft
open Frame
set_option linter.unusedSectionVars false
variable {A O C I K Λ : Type} [DecidableEq A] [DecidableEq C] [DecidableEq I]
variable (T : Config A O C I K Λ) (issuance : Λ → ℕ) (V : FungiblesInspect A I Λ)

def circulating (L : Λ) (i : I) : ℤ :=
  if i = T.nativeAssetId then (issuance L : ℤ)-T.nativeCurrency.freeBalance L T.palletAccount
  else V.outside T.palletAccount L i

/-- What the sends of one asset took out of circulation. -/
def sentOf (i : I) (outbox : List (Sent A C I)) : ℕ :=
  ((outbox.filter fun m => m.assetId = i).map fun m => m.amount.val).sum

/-- What `on_accept` pays: the message, its credit and the state of the runtime after that. -/
def paid (s : Storage A C I Λ) (request : PostRequest C) : Option (Message × Credit I × Λ) :=
  (acceptCredit T request s).1.toOption.bind fun found =>
    (payment T s.registry found.2.assetId (T.fromBytes found.2.account) found.2.amount.val
      s.runtime).map fun L => (found.1, found.2, L)

/-- The storage in which the calldata of a paid message starts, and the one it leaves, if it runs
through. -/
def called (s : Storage A C I Λ) (request : PostRequest C) :
    Option (Storage A C I Λ × Storage A C I Λ) :=
  match paid T s request with
  | some (message, credit, L) =>
    if message.data = [] then none
    else
      match processCalldata T request.source message credit.account { s with runtime := L } with
      | (.ok _, t) => some ({ s with runtime := L }, t)
      | (.error _, _) => none
  | none => none

/-- The credit that a callback leaves paid, also if the message is refused after that. Only a
panic takes a payment back. -/
def paidCredit (s : Storage A C I Λ) : Op O C I Λ → Option (Credit I)
  | .onAccept request =>
    match paid T s request, (onAccept T request s).1 with
    | none, _ => none
    | some _, .error .panic => none
    | some (_, credit, _), _ => some credit
  | .onTimeout (.post request) =>
    match (timeoutCredit T request s).1, (onTimeout T (.post request) s).1 with
    | .ok credit, .ok _ => some credit
    | _, _ => none
  | _ => none

/-- The share of asset `i` in a credit. -/
def Credit.of (i : I) (credit : Credit I) : ℕ := if credit.assetId = i then credit.amount.val else 0

/-- By how much the circulation and the sends of an asset together have grown. -/
def brought (i : I) (s t : Storage A C I Λ) : ℤ :=
  circulating T issuance V t.runtime i+sentOf i t.outbox-
    (circulating T issuance V s.runtime i+sentOf i s.outbox)

/-- What an operation brings into circulation: the credit that it pays. What calls do, and what
happens outside the pallet, is counted as it is. -/
def entered (i : I) (s : Storage A C I Λ) : Op O C I Λ → ℤ
  | .onAccept request =>
    ((paidCredit (O := O) T s (.onAccept request)).map (Credit.of i)).getD 0+
      ((called T s request).map fun c => brought T issuance V i c.1 c.2).getD 0
  | .environment f => circulating T issuance V (f s.runtime) i-circulating T issuance V s.runtime i
  | op => ((paidCredit T s op).map (Credit.of i)).getD 0

/-- Custody signs no send. -/
def CustodySendsNot : Op O C I Λ → Prop
  | .send origin _ => T.ensureSigned origin ≠ some T.palletAccount
  | _ => True

/-- Paying the credit from the custody of an asset leaves no remainder to be lost. -/
def PaysWhole (s : Storage A C I Λ) (credit : Credit I) : Prop :=
  credit.assetId ≠ T.nativeAssetId → s.registry.nativeAssets.getD credit.assetId false = true →
    V.Whole T.palletAccount s.runtime credit.assetId credit.amount.val

def KeepsWhole (s : Storage A C I Λ) : Op O C I Λ → Prop
  | .onAccept request => ∀ found ∈ (acceptCredit T request s).1.toOption, PaysWhole T V s found.2
  | .onTimeout (.post request) =>
    ∀ credit ∈ (timeoutCredit T request s).1.toOption, PaysWhole T V s credit
  | _ => True

instance (s : Storage A C I Λ) (credit : Credit I) : Decidable (PaysWhole T V s credit) :=
  inferInstanceAs (Decidable (_ → _ → _))

instance (s : Storage A C I Λ) (op : Op O C I Λ) : Decidable (KeepsWhole T V s op) :=
  match op with
  | .registry _ => isTrue trivial
  | .send _ _ => isTrue trivial
  | .onAccept _ => inferInstanceAs (Decidable (∀ found ∈ _, PaysWhole T V s (Prod.snd found)))
  | .onTimeout (.post _) => inferInstanceAs (Decidable (∀ credit ∈ _, PaysWhole T V s credit))
  | .onTimeout .get => isTrue trivial
  | .onTimeout .response => isTrue trivial
  | .environment _ => isTrue trivial

/-- The two token pallets account for what they move and leave each other alone, and the
dispatcher brings no tokens into circulation. -/
structure TokenLaws : Prop where
  transfers : T.nativeCurrency.ExactTransfers
  native : T.nativeCurrency.ExactIssuance issuance
  assets : T.assets.ExactSupply V
  native_only : ∀ src dst n r L L', T.nativeCurrency.transfer src dst n r L = some L' →
    ∀ i, V.outside T.palletAccount L' i = V.outside T.palletAccount L i
  assets_only : ∀ i L L', (∃ src dst n r, T.assets.transfer i src dst n r L = some L') ∨
    (∃ a n r p f, T.assets.burnFrom i a n r p f L = some L') ∨
    (∃ a n, T.assets.mintInto i a n L = some L') →
    issuance L' = issuance L ∧ T.nativeCurrency.freeBalance L' T.palletAccount =
      T.nativeCurrency.freeBalance L T.palletAccount
  dispatch : ∀ post who fee L c L', who ≠ T.palletAccount →
    T.dispatchRequest post who fee L = some (c, L') →
    ∀ i, circulating T issuance V L' i ≤ circulating T issuance V L i

/-- From `s` to `t` no more than `n` of asset `i` came into circulation, and what was sent
left it. -/
def Backs (i : I) (n : ℤ) (s t : Storage A C I Λ) : Prop :=
  circulating T issuance V t.runtime i+sentOf i t.outbox ≤
    circulating T issuance V s.runtime i+sentOf i s.outbox+n

variable {T issuance V}

theorem backs_refl (i : I) (s : Storage A C I Λ) : Backs T issuance V i 0 s s := by
  unfold Backs
  omega

theorem backs_trans (i : I) (m n : ℤ) (s t u : Storage A C I Λ) (hst : Backs T issuance V i m s t)
    (htu : Backs T issuance V i n t u) : Backs T issuance V i (m+n) s u := by
  unfold Backs at *
  omega

/-- Only the runtime and the sent messages matter. -/
theorem backs_of_same (i : I) (n : ℤ) (s t t' : Storage A C I Λ) (h : Backs T issuance V i n s t)
    (hruntime : t'.runtime = t.runtime) (houtbox : t'.outbox = t.outbox) :
    Backs T issuance V i n s t' := by
  unfold Backs at *
  rw [hruntime, houtbox]
  exact h

theorem sentOf_append (i : I) (outbox more : List (Sent A C I)) :
    sentOf i (outbox ++ more) = sentOf i outbox+sentOf i more := by
  unfold sentOf
  rw [List.filter_append, List.map_append, List.sum_append]

theorem sentOf_cons (i : I) (m : Sent A C I) (outbox : List (Sent A C I)) :
    sentOf i (m :: outbox) = (if m.assetId = i then m.amount.val else 0)+sentOf i outbox := by
  unfold sentOf
  by_cases h : m.assetId = i
  · simp [h]
  · simp [h]

theorem circulating_native (L : Λ) : circulating T issuance V L T.nativeAssetId =
    (issuance L : ℤ)-T.nativeCurrency.freeBalance L T.palletAccount :=
  if_pos rfl

theorem circulating_asset (L : Λ) (i : I) (h : i ≠ T.nativeAssetId) :
    circulating T issuance V L i = V.outside T.palletAccount L i :=
  if_neg h

/-- A transfer of the native currency leaves the circulation of the assets alone. -/
theorem TokenLaws.circulating_of_native (h : TokenLaws T issuance V) (src dst : A) (n : ℕ)
    (r : ExistenceRequirement) (L L' : Λ)
    (hmoved : T.nativeCurrency.transfer src dst n r L = some L') (i : I)
    (hi : i ≠ T.nativeAssetId) :
    circulating T issuance V L' i = circulating T issuance V L i := by
  rw [circulating_asset L' i hi, circulating_asset L i hi]
  exact h.native_only src dst n r L L' hmoved i

/-- An operation on one asset leaves the circulation of everything else alone. -/
theorem circulating_of_asset (j : I) (L L' : Λ)
    (hnative : issuance L' = issuance L ∧ T.nativeCurrency.freeBalance L' T.palletAccount =
      T.nativeCurrency.freeBalance L T.palletAccount)
    (honly : V.Only j L L') (i : I) (hi : i ≠ j) :
    circulating T issuance V L' i = circulating T issuance V L i := by
  by_cases hid : i = T.nativeAssetId
  · subst hid
    rw [circulating_native, circulating_native, hnative.1, hnative.2]
  · rw [circulating_asset L' i hid, circulating_asset L i hid]
    exact FungiblesInspect.outside_only T.palletAccount j i L L' honly hi

/-- Tokens are taken in by one of three operations. -/
theorem takeIn_cases (who : A) (assetId : I) (amount : U128) (s t : Storage A C I Λ)
    (h : takeIn T who assetId amount s = (.ok (), t)) :
    ∃ L, t = { s with runtime := L } ∧
      ((assetId = T.nativeAssetId ∧
        T.nativeCurrency.transfer who T.palletAccount amount.val .allowDeath s.runtime = some L) ∨
      (assetId ≠ T.nativeAssetId ∧
        T.assets.transfer assetId who T.palletAccount amount.val .expendable s.runtime = some L) ∨
      (assetId ≠ T.nativeAssetId ∧
        T.assets.burnFrom assetId who amount.val .expendable .exact .polite s.runtime =
          some L)) := by
  unfold takeIn at h
  split at h
  · rename_i hnative
    obtain ⟨L, hL, rfl⟩ := (onRuntime_ok_iff _ _ _ _ _).mp h
    exact ⟨L, rfl, Or.inl ⟨hnative, hL⟩⟩
  · rename_i hasset
    rw [Dispatch.bind_ok_iff] at h
    obtain ⟨_, _, hread, h⟩ := h
    obtain ⟨rfl, rfl⟩ := (Dispatch.read_ok_iff _ _ _).mp hread
    split at h
    · obtain ⟨L, hL, rfl⟩ := (onRuntime_ok_iff _ _ _ _ _).mp h
      exact ⟨L, rfl, Or.inr (Or.inl ⟨hasset, hL⟩)⟩
    · obtain ⟨L, hL, rfl⟩ := (onRuntime_ok_iff _ _ _ _ _).mp h
      exact ⟨L, rfl, Or.inr (Or.inr ⟨hasset, hL⟩)⟩

/-- Tokens are paid by one of three operations. -/
theorem payOut_cases (assetId : I) (beneficiary : A) (amount : U128) (s t : Storage A C I Λ)
    (h : payOut T assetId beneficiary amount s = (.ok (), t)) :
    ∃ L, t = { s with runtime := L } ∧
      ((assetId = T.nativeAssetId ∧
        T.nativeCurrency.transfer T.palletAccount beneficiary amount.val .allowDeath s.runtime =
          some L) ∨
      (assetId ≠ T.nativeAssetId ∧ s.registry.nativeAssets.getD assetId false = true ∧
        T.assets.transfer assetId T.palletAccount beneficiary amount.val .expendable s.runtime =
          some L) ∨
      (assetId ≠ T.nativeAssetId ∧
        T.assets.mintInto assetId beneficiary amount.val s.runtime = some L)) := by
  unfold payOut at h
  split at h
  · rename_i hnative
    obtain ⟨L, hL, rfl⟩ := (onRuntime_ok_iff _ _ _ _ _).mp h
    exact ⟨L, rfl, Or.inl ⟨hnative, hL⟩⟩
  · rename_i hasset
    rw [Dispatch.bind_ok_iff] at h
    obtain ⟨_, _, hread, h⟩ := h
    obtain ⟨rfl, rfl⟩ := (Dispatch.read_ok_iff _ _ _).mp hread
    split at h
    · rename_i hflag
      obtain ⟨L, hL, rfl⟩ := (onRuntime_ok_iff _ _ _ _ _).mp h
      exact ⟨L, rfl, Or.inr (Or.inl ⟨hasset, hflag, hL⟩)⟩
    · obtain ⟨L, hL, rfl⟩ := (onRuntime_ok_iff _ _ _ _ _).mp h
      exact ⟨L, rfl, Or.inr (Or.inr ⟨hasset, hL⟩)⟩

/-- What is taken in leaves circulation, however the asset is registered. -/
theorem takeIn_circulating (h : TokenLaws T issuance V) (who : A) (assetId : I) (amount : U128)
    (s : Storage A C I Λ) (L : Λ) (hwho : who ≠ T.palletAccount)
    (htake : takeIn T who assetId amount s = (.ok (), { s with runtime := L })) (i : I) :
    circulating T issuance V L i+(if assetId = i then amount.val else 0 : ℕ) ≤
      circulating T issuance V s.runtime i := by
  obtain ⟨L', hL', hcases⟩ := takeIn_cases who assetId amount s _ htake
  obtain rfl : L = L' := congrArg Storage.runtime hL'
  by_cases hi : assetId = i
  · subst hi
    rw [if_pos rfl]
    rcases hcases with ⟨rfl, hmoved⟩ | ⟨hasset, hmoved⟩ | ⟨hasset, hburnt⟩
    · rw [circulating_native, circulating_native]
      exact h.native.into h.transfers T.palletAccount who amount.val s.runtime L hwho hmoved
    · rw [circulating_asset _ _ hasset, circulating_asset _ _ hasset]
      exact h.assets.into T.palletAccount who assetId amount.val s.runtime L hwho hmoved
    · rw [circulating_asset _ _ hasset, circulating_asset _ _ hasset]
      exact h.assets.burnt T.palletAccount who assetId amount.val s.runtime L hwho hburnt
  -- every other asset is as it was
  · rw [if_neg hi]
    have hsame : circulating T issuance V L i = circulating T issuance V s.runtime i := by
      rcases hcases with ⟨rfl, hmoved⟩ | ⟨-, hmoved⟩ | ⟨-, hburnt⟩
      · exact h.circulating_of_native _ _ _ _ _ _ hmoved i (Ne.symm hi)
      · exact circulating_of_asset assetId _ _
          (h.assets_only assetId _ _ (Or.inl ⟨_, _, _, _, hmoved⟩))
          (h.assets.transfer_issuance _ _ _ _ _ _ hmoved).2 i (Ne.symm hi)
      · exact circulating_of_asset assetId _ _
          (h.assets_only assetId _ _ (Or.inr (Or.inl ⟨_, _, _, _, _, hburnt⟩)))
          (h.assets.burn _ _ _ _ _ hburnt).2.2 i (Ne.symm hi)
    omega

/-- What is paid enters circulation, and no more than that. -/
theorem payOut_circulating (h : TokenLaws T issuance V) (credit : Credit I) (s : Storage A C I Λ)
    (L : Λ) (hwhole : PaysWhole T V s credit)
    (hpay : payOut T credit.assetId (T.fromBytes credit.account) credit.amount s =
      (.ok (), { s with runtime := L })) (i : I) :
    circulating T issuance V L i ≤ circulating T issuance V s.runtime i+credit.of i := by
  obtain ⟨L', hL', hcases⟩ := payOut_cases _ _ _ s _ hpay
  obtain rfl : L = L' := congrArg Storage.runtime hL'
  unfold Credit.of
  by_cases hi : credit.assetId = i
  · subst hi
    rw [if_pos rfl]
    rcases hcases with ⟨hnative, hmoved⟩ | ⟨hasset, hflag, hmoved⟩ | ⟨hasset, hminted⟩
    · rw [hnative, circulating_native, circulating_native]
      exact h.native.outOf h.transfers T.palletAccount _ _ _ _ hmoved
    · rw [circulating_asset _ _ hasset, circulating_asset _ _ hasset]
      exact h.assets.outOf T.palletAccount _ _ _ _ _ (hwhole hasset hflag) hmoved
    · rw [circulating_asset _ _ hasset, circulating_asset _ _ hasset]
      exact h.assets.minted T.palletAccount _ _ _ _ _ hminted
  · rw [if_neg hi]
    have hsame : circulating T issuance V L i = circulating T issuance V s.runtime i := by
      rcases hcases with ⟨hnative, hmoved⟩ | ⟨-, -, hmoved⟩ | ⟨-, hminted⟩
      · exact h.circulating_of_native _ _ _ _ _ _ hmoved i (fun hid => hi (hnative.trans hid.symm))
      · exact circulating_of_asset credit.assetId _ _
          (h.assets_only _ _ _ (Or.inl ⟨_, _, _, _, hmoved⟩))
          (h.assets.transfer_issuance _ _ _ _ _ _ hmoved).2 i (Ne.symm hi)
      · exact circulating_of_asset credit.assetId _ _
          (h.assets_only _ _ _ (Or.inr (Or.inr ⟨_, _, hminted⟩)))
          (h.assets.mint _ _ _ _ _ hminted).2.2.2 i (Ne.symm hi)
    omega

/-- A send: its amount has left circulation before the dispatcher runs. -/
theorem backs_send (h : TokenLaws T issuance V) (origin : O) (params : SendParams C I)
    (s t : Storage A C I Λ) (hsigner : T.ensureSigned origin ≠ some T.palletAccount)
    (hsend : send T origin params s = (.ok (), t)) (i : I) : Backs T issuance V i 0 s t := by
  obtain ⟨who, hwho, ⟨effect⟩⟩ := send_ok T origin params s t hsend
  have hne : who ≠ T.palletAccount := by
    intro heq
    apply hsigner
    rw [hwho, heq]
  have htaken := takeIn_circulating h who _ _ s effect.taken hne effect.takeIn_eq i
  have hdispatch := h.dispatch _ _ _ _ _ _ hne effect.dispatch_eq i
  have hsent : sentOf i t.outbox = sentOf i s.outbox+
      if params.assetId = i then params.amount.val else 0 := by
    rw [effect.outbox_eq, sentOf_append, sentOf_cons]
    rfl
  unfold Backs
  rw [effect.runtime_eq, hsent]
  omega

theorem backs_payOut (h : TokenLaws T issuance V) (credit : Credit I) (s : Storage A C I Λ) (L : Λ)
    (hwhole : PaysWhole T V s credit)
    (hpay : payOut T credit.assetId (T.fromBytes credit.account) credit.amount s =
      (.ok (), { s with runtime := L })) (i : I) :
    Backs T issuance V i (credit.of i) s { s with runtime := L } := by
  have hpaid := payOut_circulating h credit s L hwhole hpay i
  unfold Backs
  change circulating T issuance V L i+sentOf i s.outbox ≤ _
  omega

theorem paid_eq_some_iff (s : Storage A C I Λ) (request : PostRequest C) (message : Message)
    (credit : Credit I) (L : Λ) :
    paid T s request = some (message, credit, L) ↔ Credits T s request message credit ∧
      payment T s.registry credit.assetId (T.fromBytes credit.account) credit.amount.val
        s.runtime = some L := by
  have hfound : (acceptCredit T request s).1.toOption = some (message, credit) ↔
      Credits T s request message credit := by
    constructor
    · intro h
      rcases hcredit : acceptCredit T request s with ⟨e | found, t⟩
      · rw [hcredit] at h
        cases h
      · rw [hcredit] at h
        cases h
        exact ((acceptCredit_ok_iff T request s t message credit).mp hcredit).2
    · exact fun h => h.found T s request message credit
  rw [← hfound]
  unfold paid
  constructor
  · intro h
    obtain ⟨found, hcredit, h⟩ := Option.bind_eq_some_iff.mp h
    obtain ⟨M, hM, h⟩ := Option.map_eq_some_iff.mp h
    cases h
    exact ⟨hcredit, hM⟩
  · rintro ⟨hcredit, hL⟩
    rw [hcredit, Option.bind_some, hL]
    rfl

/-- What `on_accept` leaves: nothing is paid and nothing has changed, or the credit is paid and
the calldata has run through on top of that, or there is none or it was refused. -/
theorem settle_onAccept_cases (request : PostRequest C) (s : Storage A C I Λ) :
    (settle (onAccept T request) s = s ∧ paidCredit (O := O) T s (.onAccept request) = none ∧
      called T s request = none) ∨
    ∃ message credit L t, Credits T s request message credit ∧
      payment T s.registry credit.assetId (T.fromBytes credit.account) credit.amount.val
        s.runtime = some L ∧
      paidCredit (O := O) T s (.onAccept request) = some credit ∧
      ((called T s request = none ∧ t = { s with runtime := L }) ∨
        called T s request = some ({ s with runtime := L }, t)) ∧
      (settle (onAccept T request) s).registry = t.registry ∧
      (settle (onAccept T request) s).runtime = t.runtime ∧
      (settle (onAccept T request) s).outbox = t.outbox := by
  rcases hpaid : paid T s request with _ | ⟨message, credit, L⟩
  · obtain ⟨e, haccept⟩ := onAccept_of_unpaid T request s (fun message credit hcredits => by
      rcases hL : payment T s.registry credit.assetId (T.fromBytes credit.account)
        credit.amount.val s.runtime with _ | L
      · rfl
      · have hsome := (paid_eq_some_iff s request message credit L).mpr ⟨hcredits, hL⟩
        rw [hpaid] at hsome
        cases hsome)
    refine Or.inl ⟨settle_same _ _ e haccept, ?_, ?_⟩
    · simp only [paidCredit, hpaid]
    · simp only [called, hpaid]
  obtain ⟨hcredits, hL⟩ := (paid_eq_some_iff s request message credit L).mp hpaid
  have haccept := onAccept_of_paid T request s message credit L hcredits hL
  by_cases hdata : message.data = []
  · -- without calldata the payment is announced at once
    rw [Dispatch.when, if_neg (not_not.mpr hdata)] at haccept
    refine Or.inr ⟨message, credit, L, { s with runtime := L }, hcredits, hL, ?_, Or.inl ⟨?_, rfl⟩, ?_⟩
    · simp only [paidCredit, hpaid, haccept]
      rfl
    · simp only [called, hpaid, if_pos hdata]
    · rw [settle_ok _ _ _ haccept]
      exact ⟨rfl, rfl, rfl⟩
  rw [Dispatch.when, if_pos hdata] at haccept
  rcases hcall : processCalldata T request.source message credit.account { s with runtime := L } with
    ⟨e | done, t⟩
  · have ht := processCalldata_error T request.source message credit.account _ t e hcall
    rw [Dispatch.bind_of_error _ _ _ _ e hcall] at haccept
    have hnone : called T s request = none := by
      simp only [called, hpaid, if_neg hdata, hcall]
    rcases settle_error _ s _ e haccept with ⟨rfl, hsettle⟩ | ⟨hpanic, hsettle⟩
    · refine Or.inl ⟨hsettle, ?_, hnone⟩
      simp only [paidCredit, hpaid, haccept]
    · refine Or.inr ⟨message, credit, L, t, hcredits, hL, ?_, Or.inl ⟨hnone, ht⟩, ?_⟩
      · simp only [paidCredit, hpaid, haccept]
        cases e with
        | panic => exact absurd rfl hpanic
        | pallet _ => rfl
        | token => rfl
        | badOrigin => rfl
        | module _ => rfl
      · rw [hsettle]
        exact ⟨rfl, rfl, rfl⟩
  · rw [Dispatch.bind_of_ok _ _ _ _ _ hcall] at haccept
    refine Or.inr ⟨message, credit, L, t, hcredits, hL, ?_, Or.inr ?_, ?_⟩
    · simp only [paidCredit, hpaid, haccept]
      rfl
    · simp only [called, hpaid, if_neg hdata, hcall]
    · rw [settle_ok _ _ _ haccept]
      exact ⟨rfl, rfl, rfl⟩

/-- A message is paid before its calldata runs, and what it pays is counted either way. -/
theorem backs_onAccept (h : TokenLaws T issuance V) (request : PostRequest C)
    (s : Storage A C I Λ) (hwhole : KeepsWhole (O := O) T V s (.onAccept request)) (i : I) :
    Backs T issuance V i (entered (O := O) T issuance V i s (.onAccept request)) s
      (settle (onAccept T request) s) := by
  rcases settle_onAccept_cases (O := O) (T := T) request s with ⟨hsettle, hcredit, hcalled⟩ |
    ⟨message, credit, L, t, hcredits, hL, hcredit, hrest, -, hruntime, houtbox⟩
  · rw [hsettle, entered, hcredit, hcalled]
    exact backs_refl i s
  have hpay := (payOut_ok_iff T _ _ _ _ _).mpr ⟨L, hL, rfl⟩
  have hpaid := backs_payOut h credit s L
    (hwhole _ (hcredits.found T s request message credit)) hpay i
  refine backs_of_same i _ s t _ ?_ hruntime houtbox
  rcases hrest with ⟨hcalled, rfl⟩ | hcalled
  · rw [entered, hcredit, hcalled]
    simpa only [Option.map_some, Option.getD_some, Option.map_none, Option.getD_none, add_zero]
      using hpaid
  · have hcall : Backs T issuance V i (brought T issuance V i { s with runtime := L } t)
        { s with runtime := L } t := by
      unfold Backs brought
      omega
    rw [entered, hcredit, hcalled]
    exact backs_trans i _ _ s _ t hpaid hcall

theorem backs_onTimeout (h : TokenLaws T issuance V) (request : PostRequest C)
    (s t : Storage A C I Λ) (hwhole : KeepsWhole (O := O) T V s (.onTimeout (.post request)))
    (htimeout : onTimeout T (.post request) s = (.ok (), t)) (i : I) :
    Backs T issuance V i (entered (O := O) T issuance V i s (.onTimeout (.post request))) s t := by
  obtain ⟨credit, L, hcredit, hpay, -, hruntime, houtbox⟩ := onTimeout_ok T request s t htimeout
  have hentered : entered (O := O) T issuance V i s (.onTimeout (.post request)) = credit.of i := by
    simp only [entered, paidCredit, htimeout, hcredit, Option.map_some, Option.getD_some]
  have hpaid := backs_payOut h credit s L (hwhole credit (by rw [hcredit]; rfl)) hpay i
  rw [hentered]
  exact backs_of_same i _ s _ t hpaid hruntime houtbox

theorem step_backs (h : TokenLaws T issuance V) (s : Storage A C I Λ) (op : Op O C I Λ)
    (hsigner : CustodySendsNot T op) (hwhole : KeepsWhole T V s op) (i : I) :
    Backs T issuance V i (entered T issuance V i s op) s (step T s op) := by
  cases op with
  | registry call =>
    obtain ⟨hruntime, houtbox⟩ := registryStep_frame T s call
    exact backs_of_same i _ s s _ (backs_refl i s) hruntime houtbox
  | send origin params =>
    simp only [step]
    rcases send_storage T origin params s with hsame | hsend
    · rw [hsame]
      exact backs_refl i s
    · exact backs_send h origin params s _ hsigner hsend i
  | onAccept request => exact backs_onAccept h request s hwhole i
  | onTimeout timeout =>
    simp only [step]
    rcases htimeout : onTimeout T timeout s with ⟨e | done, t⟩
    · obtain rfl := onTimeout_error T timeout s t e htimeout
      rw [settle_same _ _ e htimeout]
      unfold Backs
      simp only [entered]
      omega
    · rw [settle_ok _ s t htimeout]
      cases timeout with
      | post request => exact backs_onTimeout h request s t hwhole htimeout i
      | get => cases htimeout
      | response => cases htimeout
  | environment f =>
    unfold Backs
    simp only [entered, step]
    omega

/-- In every run, and for every asset, what circulates at the end and what was sent are no more
than what circulated at first and what entered since: the credits that the callbacks paid, and
whatever the calls of messages and the rest of the runtime brought. Registering, updating and
turning the native flag of an asset make no difference. -/
theorem circulation_is_accounted_for (h : TokenLaws T issuance V) (s : Storage A C I Λ)
    (ops : List (Op O C I Λ)) (hsigner : ∀ op ∈ ops, CustodySendsNot T op)
    (hwhole : Along (step T) (KeepsWhole T V) s ops) (i : I) :
    circulating T issuance V (run (step T) s ops).runtime i+sentOf i (run (step T) s ops).outbox ≤
      circulating T issuance V s.runtime i+sentOf i s.outbox+
        booked (step T) (entered T issuance V i) s ops := by
  have hboth := along_and (step T) _ _ ops s
    (along_of_forall (step T) (CustodySendsNot T) ops s hsigner) hwhole
  exact run_booked_le (step T) _ (fun _ => True)
    (fun u => circulating T issuance V u.runtime i+sentOf i u.outbox) (entered T issuance V i)
    (fun _ _ _ _ => trivial) (fun u op _ hop => step_backs h u op hop.1 hop.2 i) ops s trivial hboth

namespace Mock

abbrev TokenRuntime : Type := Tokens Bytes32 Empty ℕ

theorem balance_lt (n : ℕ) : n%2^128 < 2^128 := Nat.mod_lt n (Nat.two_pow_pos 128)

def balance (n : ℕ) : U128 := ⟨n%2^128, balance_lt n⟩

/-- Fifteen units of the native currency, sent on by a call that a message carries. -/
def onward : SendParams ℕ ℕ := { hundredUnits with amount := balance 15000000000000 }

/-- The same chain with assets besides the native currency, with the given decimals and encoding.
The one call it knows is `onward`, in a message without a signature. -/
def tokenConfig (decimals : UInt8) (encode : Message → Bytes) (decode : Bytes → Option Message) :
    Config Bytes32 (RawOrigin Bytes32) ℕ ℕ (SendParams ℕ ℕ) TokenRuntime where
  intoBytes := id
  fromBytes := id
  ensureSigned := RawOrigin.ensureSigned
  createOrigin := RawOrigin.isRoot
  nativeCurrency := Tokens.currency 1000000000
  assets := Tokens.fungibles
  nativeAssetId := 0
  decimals := decimals
  evmToSubstrate := config.evmToSubstrate
  isEvm _ := true
  palletAccount := palletAccount
  palletId := [112, 97, 108, 108, 95, 104, 102, 116]
  dispatchRequest _ _ _ L := some (List.replicate 32 42, L)
  abiEncode := encode
  abiDecode := decode
  decodeCalldata b := some ⟨none, b⟩
  decodeSignature _ := none
  decodeCall b := if b = [1] then some onward else none
  encodePayload _ call := call
  keccak256 _ := account 0
  ed25519Verify _ _ _ := false
  sr25519Verify _ _ _ := false
  ecdsaRecover _ _ := none
  accountNonce _ _ := 0
  incAccountNonce _ L := L
  dispatchCall _ _ _ := none
  overflowChecks := false

def carrying (decimals : UInt8) (encode : Message → Bytes) (decode : Bytes → Option Message) :
    Config Bytes32 (RawOrigin Bytes32) ℕ ℕ (SendParams ℕ ℕ) TokenRuntime :=
  { tokenConfig decimals encode decode with
    dispatchCall := fun params who s =>
      match send (tokenConfig decimals encode decode) (.signed who) params s with
      | (.ok _, t) => some t
      | (.error _, _) => none }

section
variable (decimals : UInt8) (encode : Message → Bytes) (decode : Bytes → Option Message)

theorem carrying_tokenLaws :
    TokenLaws (carrying decimals encode decode) Tokens.issued Tokens.view where
  transfers := Tokens.currency_exactTransfers 1000000000
  native := Tokens.currency_exactIssuance 1000000000
  assets := Tokens.fungibles_exactSupply
  native_only src dst n r L L' h i := by
    obtain ⟨-, hassets, -⟩ := Tokens.currency_transfer 1000000000 src dst n r L L' h
    unfold FungiblesInspect.outside
    change (L'.assets.issuance i : ℤ)-L'.assets.balance i _ = _
    rw [hassets]
    rfl
  assets_only i L L' h := by
    rcases h with ⟨src, dst, n, r, h⟩ | ⟨a, n, r, p, f, h⟩ | ⟨a, n, h⟩
    · obtain ⟨assets, -, rfl⟩ := Option.map_eq_some_iff.mp h
      exact ⟨rfl, rfl⟩
    · obtain ⟨assets, -, rfl⟩ := Option.map_eq_some_iff.mp h
      exact ⟨rfl, rfl⟩
    · obtain ⟨assets, -, rfl⟩ := Option.map_eq_some_iff.mp h
      exact ⟨rfl, rfl⟩
  dispatch _ _ _ _ _ _ _ hdispatch i := by
    cases hdispatch
    exact le_refl _

/-- A dispatched call is a send by its origin. -/
theorem carrying_call (params : SendParams ℕ ℕ) (who : Bytes32)
    (s t : Storage Bytes32 ℕ ℕ TokenRuntime)
    (hcall : (carrying decimals encode decode).dispatchCall params who s = some t) :
    send (carrying decimals encode decode) (.signed who) params s = (.ok (), t) := by
  change (match send (tokenConfig decimals encode decode) (.signed who) params s with
    | (.ok _, t) => some t
    | (.error _, _) => none) = some t at hcall
  change send (tokenConfig decimals encode decode) (.signed who) params s = (.ok (), t)
  rcases hsend : send (tokenConfig decimals encode decode) (.signed who) params s with ⟨e | done, u⟩
  · rw [hsend] at hcall
    cases hcall
  · rw [hsend] at hcall
    cases hcall
    rfl

/-- And so is what the calldata of a message does. -/
theorem carrying_called (request : PostRequest ℕ) (s : Storage Bytes32 ℕ ℕ TokenRuntime)
    (c : Storage Bytes32 ℕ ℕ TokenRuntime × Storage Bytes32 ℕ ℕ TokenRuntime)
    (hc : c ∈ called (carrying decimals encode decode) s request) :
    ∃ who params, who ≠ palletAccount ∧
      send (carrying decimals encode decode) (.signed who) params c.1 = (.ok (), c.2) := by
  unfold called at hc
  split at hc
  · rename_i message credit L hpaid
    split at hc
    · cases hc
    · split at hc
      · rename_i t hcall
        obtain rfl := Option.some.inj hc
        obtain ⟨data, origin, call, w, hdata, horigin, -, hdispatch, rfl⟩ :=
          processCalldata_ok _ _ _ _ _ _ hcall
        refine ⟨origin, call, ?_, carrying_call decimals encode decode call origin _ w hdispatch⟩
        -- a call without a signature is made by a padded address, and custody is none
        cases hdata
        change unsignedOrigin (carrying decimals encode decode) request.source message.sender _ = _
          at horigin
        unfold unsignedOrigin at horigin
        split at horigin
        · split at horigin
          · have hwho := Except.ok.inj (congrArg Prod.fst horigin)
            intro heq
            have hfirst : (some 0 : Option UInt8) = some 109 :=
              congrArg (fun b : Bytes32 => b.val.head?) (hwho.trans heq)
            exact absurd hfirst (by decide)
          · cases horigin
        · rename_i hevm
          exact absurd rfl hevm
      · cases hc
  · cases hc

end

/-- Seventy units of asset 5. -/
def seventyFives : SendParams ℕ ℕ :=
  { hundredUnits with assetId := 5, amount := balance 70000000000000 }

def assetContract : Bytes := [114, 101, 109, 111, 116, 101, 95, 102, 105, 118, 101]

/-- A message about asset 5. -/
def incomingFive (amount : U256) : PostRequest ℕ :=
  { incoming amount with fromModule := assetContract }

/-- The remote side sends thirty units to an address, which sends fifteen of them on. -/
def incomingCall : PostRequest ℕ :=
  { incoming 0 with
    body := abiEncode ⟨List.replicate 20 7, List.replicate 20 7, 30000000000000000000, [1]⟩ }

def plain : Config Bytes32 (RawOrigin Bytes32) ℕ ℕ (SendParams ℕ ℕ) TokenRuntime :=
  carrying 12 abiEncode abiDecode

/-- Custody holds eighty units of the native currency and twenty of asset 5. -/
def circulation : Storage Bytes32 ℕ ℕ TokenRuntime :=
  registryStep plain
    (registryStep plain
      (emptyStorage
        { ledger := Ledger.endowed [(alice, 1000000000000000), (palletAccount, 80000000000000)]
          issued := 1080000000000000
          assets :=
            { issuance := fun _ => 320000000000000
              minimum := fun _ => 1
              balance := fun i a =>
                if i = 5 ∧ a = alice then 300000000000000
                else if i = 5 ∧ a = palletAccount then 20000000000000
                else 0
              decimals := fun _ => 12 } })
      (.registerToken .root ⟨0, true, oneChain 1 remoteContract 18⟩))
    (.registerToken .root ⟨5, false, oneChain 1 assetContract 18⟩)

/-- Asset 5 is burnt while it is foreign and paid from custody after it has become native; in
between a message sends some of what it brings on. -/
def circulationTrace : List (Op (RawOrigin Bytes32) ℕ ℕ TokenRuntime) :=
  [.send (.signed alice) seventyFives,
    .onAccept incomingCall,
    .registry (.registerToken .root ⟨5, true, oneChain 1 assetContract 18⟩),
    .onAccept (incomingFive 12000000000000000000),
    .onTimeout (.post (returned 10000000000000000000))]

theorem circulation_is_accounted_for_circulationTrace :
    let t := run (step plain) circulation circulationTrace
    circulating plain Tokens.issued Tokens.view t.runtime 5+sentOf 5 t.outbox ≤
      circulating plain Tokens.issued Tokens.view circulation.runtime 5+
        sentOf 5 circulation.outbox+
        booked (step plain) (entered plain Tokens.issued Tokens.view 5) circulation
          circulationTrace := by
  have hsigner : ∀ op ∈ circulationTrace, CustodySendsNot plain op := by
    simp only [circulationTrace, List.forall_mem_cons]
    refine ⟨?_, trivial, trivial, trivial, trivial, fun op hop => absurd hop List.not_mem_nil⟩
    unfold CustodySendsNot
    decide
  exact circulation_is_accounted_for (carrying_tokenLaws _ _ _) circulation circulationTrace hsigner
    (by decide +kernel) 5

end Mock

end NuloChain.Hft
