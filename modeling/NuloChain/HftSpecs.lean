import NuloChain.HftModel

/-! What each operation of the pallet does when it returns. Later modules use these
statements and never unfold the operations again. -/
namespace NuloChain.Hft
open Frame
set_option linter.unusedSectionVars false
variable {A O C I K Λ : Type} [DecidableEq A] [DecidableEq C] [DecidableEq I]
variable (T : Config A O C I K Λ)

theorem registerToken_accepted (origin : O) (registration : TokenRegistration C I)
    (s : Storage A C I Λ) (h : T.createOrigin origin = true) :
    ∃ e, registerToken T origin registration s = (.ok (),
      { s with registry := registered s.registry registration, events := s.events ++ [e] }) := by
  refine ⟨.tokenRegistered registration.localId registration.native registration.chains.keys, ?_⟩
  unfold registerToken Dispatch.ensure
  rw [if_pos h]
  rfl

theorem registerToken_refused (origin : O) (registration : TokenRegistration C I)
    (s : Storage A C I Λ) (h : ¬ T.createOrigin origin = true) :
    registerToken T origin registration s = (.error .badOrigin, s) := by
  unfold registerToken Dispatch.ensure
  rw [if_neg h]
  rfl

theorem updateToken_accepted (origin : O) (update : TokenUpdate C I) (s : Storage A C I Λ)
    (h : T.createOrigin origin = true) :
    updateToken T origin update s = (.ok (), { s with registry := updated s.registry update }) := by
  unfold updateToken Dispatch.ensure
  rw [if_pos h]
  rfl

theorem updateToken_refused (origin : O) (update : TokenUpdate C I) (s : Storage A C I Λ)
    (h : ¬ T.createOrigin origin = true) :
    updateToken T origin update s = (.error .badOrigin, s) := by
  unfold updateToken Dispatch.ensure
  rw [if_neg h]
  rfl

theorem onRuntime_ok_iff (f : Λ → Option Λ) (e : Failure C) (s t : Storage A C I Λ) (u : Unit) :
    onRuntime f e s = (.ok u, t) ↔ ∃ L, f s.runtime = some L ∧ t = { s with runtime := L } := by
  unfold onRuntime
  rw [Dispatch.bind_ok_iff]
  simp only [Dispatch.read_ok_iff, Dispatch.bind_ok_iff, Dispatch.okOr_ok_iff, Dispatch.write_ok_iff]
  constructor
  · rintro ⟨_, _, ⟨rfl, rfl⟩, L, _, ⟨hf, rfl⟩, rfl⟩
    exact ⟨L, hf, rfl⟩
  · rintro ⟨L, hf, rfl⟩
    exact ⟨_, _, ⟨rfl, rfl⟩, L, _, ⟨hf, rfl⟩, rfl⟩

/-- A refused operation of a token pallet changes nothing. -/
theorem onRuntime_error (f : Λ → Option Λ) (e e' : Failure C) (s t : Storage A C I Λ)
    (h : onRuntime f e s = (.error e', t)) : t = s := by
  unfold onRuntime at h
  simp only [Dispatch.bind_error_iff, Dispatch.read_ne_error, Dispatch.read_ok_iff,
    Dispatch.okOr_error_iff, Dispatch.write_ne_error, and_false, exists_false, or_false,
    false_or] at h
  obtain ⟨_, _, ⟨rfl, rfl⟩, -, -, rfl⟩ := h
  rfl

theorem onRuntime_error_eq (f : Λ → Option Λ) (e e' : Failure C) (s t : Storage A C I Λ)
    (h : onRuntime f e s = (.error e', t)) : e' = e := by
  unfold onRuntime at h
  simp only [Dispatch.bind_error_iff, Dispatch.read_ne_error, Dispatch.read_ok_iff,
    Dispatch.okOr_error_iff, Dispatch.write_ne_error, and_false, exists_false, or_false,
    false_or] at h
  obtain ⟨_, _, ⟨rfl, rfl⟩, -, he, -⟩ := h
  exact he.symm

/-- The choice between the native currency, a native asset and any other asset comes down to
one operation of the token pallets. -/
theorem onRuntime_choice (p : Prop) [Decidable p] (flag : Storage A C I Λ → Bool)
    (f g h : Λ → Option Λ) (e e' e'' : Failure C) (s : Storage A C I Λ) :
    ∃ op failure, (if p then onRuntime f e else do
        let s ← Dispatch.read
        if flag s then onRuntime g e' else onRuntime h e'' : Pallet A C I Λ Unit) s =
      onRuntime op failure s ∧ (p → op = f) := by
  by_cases hp : p
  · rw [if_pos hp]
    exact ⟨f, e, rfl, fun _ => rfl⟩
  · rw [if_neg hp]
    by_cases hflag : flag s = true
    · refine ⟨g, e', ?_, fun h => absurd h hp⟩
      simp [bind, Dispatch.read, hflag]
    · refine ⟨h, e'', ?_, fun h => absurd h hp⟩
      simp [bind, Dispatch.read, hflag]

/-- Taking tokens in is one operation of the token pallets; for the native currency it is the
transfer into custody. -/
theorem takeIn_eq (who : A) (assetId : I) (amount : U128) (s : Storage A C I Λ) :
    ∃ f e, takeIn T who assetId amount s = onRuntime f e s ∧ (assetId = T.nativeAssetId →
      f = T.nativeCurrency.transfer who T.palletAccount amount.val .allowDeath) :=
  onRuntime_choice (assetId = T.nativeAssetId)
    (fun s => s.registry.nativeAssets.getD assetId false) _ _ _ _ _ _ s

/-- Paying out is one operation of the token pallets; for the native currency it is the
transfer out of custody. -/
theorem payOut_eq (assetId : I) (beneficiary : A) (amount : U128) (s : Storage A C I Λ) :
    ∃ f e, payOut T assetId beneficiary amount s = onRuntime f e s ∧ (assetId = T.nativeAssetId →
      f = T.nativeCurrency.transfer T.palletAccount beneficiary amount.val .allowDeath) :=
  onRuntime_choice (assetId = T.nativeAssetId)
    (fun s => s.registry.nativeAssets.getD assetId false) _ _ _ _ _ _ s

/-- Such an operation writes the runtime and nothing else. -/
theorem tokenOperation_ok (x : Pallet A C I Λ Unit) (p : Prop) (g : Λ → Option Λ)
    (s t : Storage A C I Λ) (hx : ∃ f e, x s = onRuntime f e s ∧ (p → f = g))
    (h : x s = (.ok (), t)) :
    ∃ L, t = { s with runtime := L } ∧ (p → g s.runtime = some L) := by
  obtain ⟨f, e, heq, hnative⟩ := hx
  rw [heq] at h
  obtain ⟨L, hL, rfl⟩ := (onRuntime_ok_iff _ _ _ _ _).mp h
  exact ⟨L, rfl, fun hp => hnative hp ▸ hL⟩

theorem takeIn_ok (who : A) (assetId : I) (amount : U128) (s t : Storage A C I Λ)
    (h : takeIn T who assetId amount s = (.ok (), t)) :
    ∃ L, t = { s with runtime := L } ∧ (assetId = T.nativeAssetId →
      T.nativeCurrency.transfer who T.palletAccount amount.val .allowDeath s.runtime = some L) :=
  tokenOperation_ok _ _ _ s t (takeIn_eq T who assetId amount s) h

theorem payOut_ok (assetId : I) (beneficiary : A) (amount : U128) (s t : Storage A C I Λ)
    (h : payOut T assetId beneficiary amount s = (.ok (), t)) :
    ∃ L, t = { s with runtime := L } ∧ (assetId = T.nativeAssetId →
      T.nativeCurrency.transfer T.palletAccount beneficiary amount.val .allowDeath s.runtime =
        some L) :=
  tokenOperation_ok _ _ _ s t (payOut_eq T assetId beneficiary amount s) h

theorem payOut_error (assetId : I) (beneficiary : A) (amount : U128) (s t : Storage A C I Λ)
    (e : Failure C) (h : payOut T assetId beneficiary amount s = (.error e, t)) : t = s := by
  obtain ⟨f, e', heq, -⟩ := payOut_eq T assetId beneficiary amount s
  rw [heq] at h
  exact onRuntime_error f e' e s t h

theorem localAmount_ok_iff (assetId : I) (chain : C) (value : U256) (s t : Storage A C I Λ)
    (amount : U128) :
    localAmount T assetId chain value s = (.ok amount, t) ↔ t = s ∧
      ∃ e, s.registry.precisions.get (assetId, chain) = some e ∧
        convertToBalance T.overflowChecks value e (localDecimals T s.runtime assetId) =
          some (some amount) := by
  unfold localAmount
  simp only [Dispatch.bind_ok_iff, Dispatch.read_ok_iff, Dispatch.okOr_ok_iff]
  constructor
  · rintro ⟨_, _, ⟨rfl, rfl⟩, e, _, ⟨he, rfl⟩, parsed, _, ⟨hparsed, rfl⟩, rfl, rfl⟩
    exact ⟨rfl, e, he, hparsed⟩
  · rintro ⟨rfl, e, he, hparsed⟩
    exact ⟨_, _, ⟨rfl, rfl⟩, e, _, ⟨he, rfl⟩, _, _, ⟨hparsed, rfl⟩, rfl, rfl⟩

/-- What a successful `send` found, did and dispatched. -/
structure SendEffect (who : A) (params : SendParams C I) (s t : Storage A C I Λ) where
  contract : Bytes
  decimals : UInt8
  taken : Λ
  erc20Amount : U256
  commitment : Bytes
  runtime : Λ
  contract_get : s.registry.tokenContracts.get (params.destination, params.assetId) = some contract
  decimals_get : s.registry.precisions.get (params.assetId, params.destination) = some decimals
  takeIn_eq : takeIn T who params.assetId params.amount s = (.ok (), { s with runtime := taken })
  convert_eq : convertToErc20 T.overflowChecks params.amount decimals
    (localDecimals T taken params.assetId) = some erc20Amount
  dispatch_eq : T.dispatchRequest (sendPost T who params contract erc20Amount) who params.relayerFee
    taken = some (commitment, runtime)
  registry_eq : t.registry = s.registry
  runtime_eq : t.runtime = runtime
  outbox_eq : t.outbox = s.outbox ++
    [⟨who, params.assetId, params.amount, sendPost T who params contract erc20Amount⟩]

theorem send_ok (origin : O) (params : SendParams C I) (s t : Storage A C I Λ)
    (h : send T origin params s = (.ok (), t)) :
    ∃ who, T.ensureSigned origin = some who ∧ Nonempty (SendEffect T who params s t) := by
  unfold send sendBody at h
  rw [Dispatch.transactional_ok_iff, Dispatch.bind_ok_iff] at h
  obtain ⟨who, u, hsigned, h⟩ := h
  obtain ⟨hwho, rfl⟩ := (Dispatch.okOr_ok_iff _ _ _ _ _).mp hsigned
  -- the lookups precede the transfer, so they were made in the storage before the call
  simp only [Dispatch.bind_ok_iff, Dispatch.read_ok_iff, Dispatch.okOr_ok_iff] at h
  obtain ⟨_, _, ⟨rfl, rfl⟩, contract, _, ⟨hcontract, rfl⟩, decimals, _, ⟨hdecimals, rfl⟩, _, v,
    htake, h⟩ := h
  obtain ⟨L, rfl, -⟩ := takeIn_ok T who params.assetId params.amount _ _ htake
  obtain ⟨_, _, ⟨rfl, rfl⟩, erc20Amount, _, ⟨hconvert, rfl⟩, sent, _, ⟨hdispatch, rfl⟩, h⟩ := h
  simp only [depositEvent, Dispatch.write_ok_iff] at h
  obtain ⟨_, _, rfl, rfl⟩ := h
  exact ⟨who, hwho, ⟨⟨contract, decimals, L, erc20Amount, sent.1, sent.2, hcontract, hdecimals,
    htake, hconvert, hdispatch, rfl, rfl, rfl⟩⟩⟩

theorem takeIn_error (who : A) (assetId : I) (amount : U128) (s t : Storage A C I Λ)
    (e : Failure C) (h : takeIn T who assetId amount s = (.error e, t)) : e = .token := by
  unfold takeIn at h
  split at h
  · exact onRuntime_error_eq _ _ _ _ _ h
  · rcases (Dispatch.bind_error_iff _ _ _ _ _).mp h with hread | ⟨_, u, -, h⟩
    · exact absurd hread (Dispatch.read_ne_error _ _ _)
    · split at h
      · exact onRuntime_error_eq _ _ _ _ _ h
      · exact onRuntime_error_eq _ _ _ _ _ h

/-- A `send` misses the decimals only of a token contract that it found. -/
theorem send_decimalsNotFound (origin : O) (params : SendParams C I) (s t : Storage A C I Λ)
    (h : send T origin params s = (.error (.pallet .decimalsNotFound), t)) :
    (∃ contract, s.registry.tokenContracts.get (params.destination, params.assetId) =
      some contract) ∧ s.registry.precisions.get (params.assetId, params.destination) = none := by
  obtain ⟨u, h⟩ := Dispatch.transactional_error_body _ _ _ _ h
  unfold sendBody at h
  simp only [Dispatch.bind_error_iff, Dispatch.read_ne_error, Dispatch.read_ok_iff,
    Dispatch.okOr_error_iff, Dispatch.okOr_ok_iff, Dispatch.write_ne_error, depositEvent,
    Failure.pallet.injEq, reduceCtorEq, and_false, false_and, exists_false, or_false,
    false_or] at h
  obtain ⟨who, _, ⟨-, rfl⟩, _, _, ⟨rfl, rfl⟩, contract, _, ⟨hcontract, rfl⟩, hdecimals | hrest⟩ := h
  · exact ⟨⟨contract, hcontract⟩, hdecimals.1⟩
  -- everything after the two lookups fails with another error
  · obtain ⟨e, _, -, htake⟩ := hrest
    cases takeIn_error T _ _ _ _ _ _ htake

/-- A call that fails leaves the storage as it was. -/
theorem send_storage (origin : O) (params : SendParams C I) (s : Storage A C I Λ) :
    (send T origin params s).2 = s ∨ send T origin params s = (.ok (), (send T origin params s).2) := by
  rcases h : send T origin params s with ⟨_ | u, t⟩
  · exact Or.inl (Dispatch.transactional_error _ _ _ _ h)
  · exact Or.inr rfl

theorem timeoutCredit_ok_iff (request : PostRequest C) (s t : Storage A C I Λ) (credit : Credit I) :
    timeoutCredit T request s = (.ok credit, t) ↔ t = s ∧
      ∃ message, T.abiDecode request.body = some message ∧
        accountBytes message.sender = some credit.account ∧
        s.registry.contractToAsset.get (request.dest, request.toModule) = some credit.assetId ∧
        localAmount T credit.assetId request.dest message.amount s = (.ok credit.amount, s) := by
  unfold timeoutCredit
  simp only [Dispatch.bind_ok_iff, Dispatch.read_ok_iff, Dispatch.okOr_ok_iff, Dispatch.pure_ok_iff]
  constructor
  · rintro ⟨message, _, ⟨hdecode, rfl⟩, account, _, ⟨haccount, rfl⟩, _, _, ⟨rfl, rfl⟩, assetId, _,
      ⟨hasset, rfl⟩, amount, u, hamount, rfl, rfl⟩
    obtain ⟨rfl, -⟩ := (localAmount_ok_iff T _ _ _ _ _ _).mp hamount
    exact ⟨rfl, message, hdecode, haccount, hasset, hamount⟩
  · rintro ⟨rfl, message, hdecode, haccount, hasset, hamount⟩
    exact ⟨message, _, ⟨hdecode, rfl⟩, _, _, ⟨haccount, rfl⟩, _, _, ⟨rfl, rfl⟩, _, _,
      ⟨hasset, rfl⟩, _, _, hamount, rfl, rfl⟩

/-- The lookups of `on_accept` name the asset of the source contract and the decoded message. -/
theorem acceptCredit_ok (request : PostRequest C) (s t : Storage A C I Λ) (message : Message)
    (credit : Credit I) (h : acceptCredit T request s = (.ok (message, credit), t)) :
    s.registry.contractToAsset.get (request.source, request.fromModule) = some credit.assetId ∧
      T.abiDecode request.body = some message ∧
      accountBytes message.recipient = some credit.account := by
  unfold acceptCredit at h
  simp only [Dispatch.bind_ok_iff, Dispatch.read_ok_iff, Dispatch.okOr_ok_iff,
    Dispatch.pure_ok_iff, Prod.mk.injEq] at h
  obtain ⟨_, _, ⟨rfl, rfl⟩, assetId, _, ⟨hasset, rfl⟩, _, _, ⟨hdecode, rfl⟩, account, _,
    ⟨haccount, rfl⟩, amount, u, -, ⟨rfl, rfl⟩, -⟩ := h
  exact ⟨hasset, hdecode, haccount⟩

theorem localAmount_readOnly (assetId : I) (chain : C) (value : U256) :
    Dispatch.ReadOnly (localAmount T assetId chain value : Pallet A C I Λ U128) := by
  refine Dispatch.readOnly_bind _ _ Dispatch.readOnly_read (fun s => ?_)
  refine Dispatch.readOnly_bind _ _ (Dispatch.readOnly_okOr _ _) (fun e => ?_)
  refine Dispatch.readOnly_bind _ _ (Dispatch.readOnly_okOr _ _) (fun parsed => ?_)
  exact Dispatch.readOnly_okOr _ _

theorem timeoutCredit_readOnly (request : PostRequest C) :
    Dispatch.ReadOnly (timeoutCredit T request : Pallet A C I Λ (Credit I)) := by
  refine Dispatch.readOnly_bind _ _ (Dispatch.readOnly_okOr _ _) (fun message => ?_)
  refine Dispatch.readOnly_bind _ _ (Dispatch.readOnly_okOr _ _) (fun account => ?_)
  refine Dispatch.readOnly_bind _ _ Dispatch.readOnly_read (fun s => ?_)
  refine Dispatch.readOnly_bind _ _ (Dispatch.readOnly_okOr _ _) (fun assetId => ?_)
  exact Dispatch.readOnly_bind _ _ (localAmount_readOnly T _ _ _)
    (fun amount => Dispatch.readOnly_pure _)

theorem acceptCredit_readOnly (request : PostRequest C) :
    Dispatch.ReadOnly (acceptCredit T request : Pallet A C I Λ (Message × Credit I)) := by
  refine Dispatch.readOnly_bind _ _ Dispatch.readOnly_read (fun s => ?_)
  refine Dispatch.readOnly_bind _ _ (Dispatch.readOnly_okOr _ _) (fun assetId => ?_)
  refine Dispatch.readOnly_bind _ _ (Dispatch.readOnly_okOr _ _) (fun message => ?_)
  refine Dispatch.readOnly_bind _ _ (Dispatch.readOnly_okOr _ _) (fun account => ?_)
  exact Dispatch.readOnly_bind _ _ (localAmount_readOnly T _ _ _)
    (fun amount => Dispatch.readOnly_pure _)

theorem checkSignature_readOnly (account : Bytes32) (runtimeCall : Bytes)
    (signature : MultiSignature) :
    Dispatch.ReadOnly (checkSignature T account runtimeCall signature : Pallet A C I Λ Unit) := by
  refine Dispatch.readOnly_bind _ _ Dispatch.readOnly_read (fun s => ?_)
  cases signature with
  | ed25519 sig => exact Dispatch.readOnly_ensure _ _
  | sr25519 sig => exact Dispatch.readOnly_ensure _ _
  | ecdsa sig =>
    exact Dispatch.readOnly_bind _ _ (Dispatch.readOnly_okOr _ _)
      (fun pubKey => Dispatch.readOnly_ensure _ _)
  | eth sig => exact Dispatch.readOnly_fail _

theorem callOrigin_readOnly (source : C) (message : Message) (account : Bytes32)
    (data : SubstrateCalldata) :
    Dispatch.ReadOnly (callOrigin T source message account data : Pallet A C I Λ A) := by
  unfold callOrigin
  cases data.signature with
  | some signature =>
    refine Dispatch.readOnly_bind _ _ (Dispatch.readOnly_okOr _ _) (fun multiSignature => ?_)
    exact Dispatch.readOnly_bind _ _ (checkSignature_readOnly T _ _ _)
      (fun _ => Dispatch.readOnly_pure _)
  -- without a signature the origin is computed from the message alone
  | none =>
    change Dispatch.ReadOnly (unsignedOrigin T source message.sender)
    unfold unsignedOrigin
    split
    · split
      · exact Dispatch.readOnly_pure _
      · exact Dispatch.readOnly_fail _
    · split
      · exact Dispatch.readOnly_pure _
      · exact Dispatch.readOnly_fail _

/-- The calldata branch succeeds by dispatching one call of an authorised origin. -/
theorem processCalldata_ok (source : C) (message : Message) (account : Bytes32)
    (s t : Storage A C I Λ) (h : processCalldata T source message account s = (.ok (), t)) :
    ∃ data origin call w, T.decodeCalldata message.data = some data ∧
      callOrigin T source message account data s = (.ok origin, s) ∧
      T.decodeCall data.runtimeCall = some call ∧ T.dispatchCall call origin s = some w ∧
      t = { w with runtime := T.incAccountNonce origin w.runtime } := by
  unfold processCalldata at h
  simp only [Dispatch.bind_ok_iff, Dispatch.okOr_ok_iff, Dispatch.read_ok_iff,
    Dispatch.write_ok_iff] at h
  obtain ⟨data, _, ⟨hdata, rfl⟩, origin, u, horigin, call, _, ⟨hcall, rfl⟩, _, _, ⟨rfl, rfl⟩, w, _,
    ⟨hdispatch, rfl⟩, rfl⟩ := h
  have hu := (callOrigin_readOnly T source message account data).storage horigin
  subst hu
  exact ⟨data, origin, call, w, hdata, horigin, hcall, hdispatch, rfl⟩

theorem processCalldata_error (source : C) (message : Message) (account : Bytes32)
    (s t : Storage A C I Λ) (e : Failure C)
    (h : processCalldata T source message account s = (.error e, t)) : t = s := by
  unfold processCalldata at h
  simp only [Dispatch.bind_error_iff, Dispatch.okOr_error_iff, Dispatch.okOr_ok_iff,
    Dispatch.read_ne_error, Dispatch.read_ok_iff, Dispatch.write_ne_error, and_false, exists_false,
    or_false, false_or] at h
  obtain ⟨-, -, rfl⟩ | ⟨data, _, ⟨-, rfl⟩, horigin | ⟨origin, u, horigin, h⟩⟩ := h
  · rfl
  · exact (callOrigin_readOnly T source message account data).storage horigin
  · have hu := (callOrigin_readOnly T source message account data).storage horigin
    subst hu
    obtain ⟨-, -, rfl⟩ | ⟨call, _, ⟨-, rfl⟩, _, _, ⟨rfl, rfl⟩, -, -, rfl⟩ := h
    · rfl
    · rfl

theorem onTimeout_ok (request : PostRequest C) (s t : Storage A C I Λ)
    (h : onTimeout T (.post request) s = (.ok (), t)) :
    ∃ credit L, timeoutCredit T request s = (.ok credit, s) ∧
      payOut T credit.assetId (T.fromBytes credit.account) credit.amount s =
        (.ok (), { s with runtime := L }) ∧
      t.registry = s.registry ∧ t.runtime = L ∧ t.outbox = s.outbox := by
  simp only [onTimeout, Dispatch.bind_ok_iff, depositEvent, Dispatch.write_ok_iff] at h
  obtain ⟨credit, u, hcredit, _, v, hpay, rfl⟩ := h
  have hu := (timeoutCredit_readOnly T request).storage hcredit
  subst hu
  obtain ⟨L, rfl, -⟩ := payOut_ok T _ _ _ _ _ hpay
  exact ⟨credit, L, hcredit, hpay, rfl, rfl, rfl⟩

/-- A timeout that fails pays nothing. -/
theorem onTimeout_error (timeout : Timeout C) (s t : Storage A C I Λ) (e : Failure C)
    (h : onTimeout T timeout s = (.error e, t)) : t = s := by
  cases timeout with
  | get => exact (Prod.mk.inj h).2.symm
  | response => exact (Prod.mk.inj h).2.symm
  | post request =>
    simp only [onTimeout, Dispatch.bind_error_iff, depositEvent, Dispatch.write_ne_error, and_false,
      exists_false, or_false] at h
    rcases h with hcredit | ⟨credit, u, hcredit, hpay⟩
    · exact (timeoutCredit_readOnly T request).storage hcredit
    · rw [payOut_error T _ _ _ _ _ _ hpay]
      exact (timeoutCredit_readOnly T request).storage hcredit

/-- Whatever `on_accept` returns, it found a credit, paid it and then ran the calldata, if
there is any; or it changed nothing. -/
theorem onAccept_outcome (request : PostRequest C) (s t : Storage A C I Λ)
    (r : Except (Failure C) Unit) (h : onAccept T request s = (r, t)) :
    (t = s ∧ ∃ e, r = .error e) ∨
    ∃ message credit L, acceptCredit T request s = (.ok (message, credit), s) ∧
      payOut T credit.assetId (T.fromBytes credit.account) credit.amount s =
        (.ok (), { s with runtime := L }) ∧
      ((message.data = [] ∧ r = .ok () ∧ t.registry = s.registry ∧ t.runtime = L ∧
          t.outbox = s.outbox) ∨
        (message.data ≠ [] ∧ ∃ v, processCalldata T request.source message credit.account
          { s with runtime := L } = (r, v) ∧
          t.registry = v.registry ∧ t.runtime = v.runtime ∧ t.outbox = v.outbox)) := by
  have hread := acceptCredit_readOnly T request
  cases r with
  | ok done =>
    simp only [onAccept, Dispatch.bind_ok_iff, depositEvent, Dispatch.write_ok_iff,
      Dispatch.when_ok_iff] at h
    obtain ⟨⟨message, credit⟩, u, hcredit, _, v, hpay, _, w, hdata, rfl⟩ := h
    have hu := hread.storage hcredit
    subst hu
    obtain ⟨L, rfl, -⟩ := payOut_ok T _ _ _ _ _ hpay
    refine Or.inr ⟨message, credit, L, hcredit, hpay, ?_⟩
    rcases hdata with ⟨hne, hcall⟩ | ⟨hempty, rfl⟩
    · exact Or.inr ⟨hne, w, hcall, rfl, rfl, rfl⟩
    · exact Or.inl ⟨not_not.mp hempty, rfl, rfl, rfl, rfl⟩
  | error e =>
    simp only [onAccept, Dispatch.bind_error_iff, depositEvent, Dispatch.write_ne_error,
      Dispatch.when_error_iff, and_false, exists_false, or_false] at h
    obtain hcredit | ⟨⟨message, credit⟩, u, hcredit, hpay | ⟨_, v, hpay, hne, hcall⟩⟩ := h
    · exact Or.inl ⟨hread.storage hcredit, e, rfl⟩
    · have hu := hread.storage hcredit
      subst hu
      exact Or.inl ⟨payOut_error T _ _ _ _ _ _ hpay, e, rfl⟩
    · have hu := hread.storage hcredit
      subst hu
      obtain ⟨L, rfl, -⟩ := payOut_ok T _ _ _ _ _ hpay
      exact Or.inr ⟨message, credit, L, hcredit, hpay, Or.inr ⟨hne, t, hcall, rfl, rfl, rfl⟩⟩

end NuloChain.Hft
