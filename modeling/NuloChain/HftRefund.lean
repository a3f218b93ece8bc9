import NuloChain.HftRuns

/-! What a timeout pays back. A request in flight carries the destination contract and the
amount in the decimals of the destination; the asset and the local amount are looked up again
when the timeout arrives, in whatever the registry holds by then. -/
namespace NuloChain.Hft
open Frame
set_option linter.unusedSectionVars false
variable {A O C I K Λ : Type} [DecidableEq A] [DecidableEq C] [DecidableEq I]
variable (T : Config A O C I K Λ)

/-- The request that the host `source` makes of what it was handed. -/
def requestOf (source : C) (post : DispatchPost C) : PostRequest C where
  source := source
  dest := post.dest
  fromModule := post.fromModule
  toModule := post.toModule
  body := post.body

/-- `decimals` can be converted to and from `localDecimals` without overflow. -/
def Convertible (decimals localDecimals : UInt8) : Prop :=
  localDecimals.toNat ≤ decimals.toNat ∧ decimals.toNat ≤ localDecimals.toNat+38

instance (decimals localDecimals : UInt8) : Decidable (Convertible decimals localDecimals) :=
  inferInstanceAs (Decidable (_ ∧ _))

/-- The contract still belongs to the asset, and the decimals of the asset are still those of
the time of sending; decimals do not matter to a transfer of nothing. -/
def Routed (s : Storage A C I Λ) (assetId : I) (dest : C) (contract : Bytes) (decimals : UInt8)
    (amount : U128) : Prop :=
  s.registry.contractToAsset.get (dest, contract) = some assetId ∧
    ∃ e, s.registry.precisions.get (assetId, dest) = some e ∧ (e = decimals ∨ amount.val = 0)

theorem scale_le_of_convertible (e l : UInt8) (h : Convertible e l) : scale e l ≤ 38 := by
  have := h.2
  unfold scale
  omega

theorem scale_eq_iff (e e' l : UInt8) (h : Convertible e l) (h' : Convertible e' l) :
    scale e l = scale e' l ↔ e' = e := by
  obtain ⟨hle, -⟩ := h
  obtain ⟨hle', -⟩ := h'
  unfold scale
  constructor
  · intro heq
    apply UInt8.toNat_inj.mp
    omega
  · rintro rfl
    rfl

/-- An amount that was scaled with the decimals `e` comes back from the decimals `e'` as
itself exactly when these are the same, unless it is zero. -/
theorem convert_back_iff (checks : Bool) (v : U128) (e e' l : UInt8) (x : U256)
    (h : Convertible e l) (h' : Convertible e' l) (hx : convertToErc20 checks v e l = some x) :
    convertToBalance checks x e' l = some (some v) ↔ e' = e ∨ v.val = 0 := by
  obtain ⟨y, hy, hval⟩ := convertToErc20_eq checks v e l (scale_le_of_convertible e l h)
  rw [hx] at hy
  obtain rfl := Option.some.inj hy
  rw [convertToBalance_eq checks x e' l (scale_le_of_convertible e' l h'), Option.some.injEq, hval,
    ← scale_eq_iff e e' l h h', ← scaled_div_eq_iff v.val (scale e l) (scale e' l)]
  constructor
  · intro heq
    split at heq
    · exact congrArg Fin.val (Option.some.inj heq)
    · cases heq
  · intro heq
    have hfit : v.val*10^scale e l/10^scale e' l < 2^128 := by
      rw [heq]
      exact v.isLt
    rw [dif_pos hfit]
    exact congrArg some (Fin.ext heq)

theorem accountBytes_of_length (b : Bytes32) : accountBytes b.val = some b := by
  unfold accountBytes
  rw [dif_pos b.property]

/-- The lookups of a timeout find the asset, the sender and the amount of the transfer
exactly while the transfer is routed. -/
theorem timeoutCredit_iff_routed (source : C) (who : A) (params : SendParams C I)
    (contract : Bytes) (e l : UInt8) (x : U256) (u : Storage A C I Λ)
    (hlocal : localDecimals T u.runtime params.assetId = l)
    (hx : convertToErc20 T.overflowChecks params.amount e l = some x)
    (habi : T.abiDecode (sendPost T who params contract x).body = some (sendMessage T who params x))
    (he : Convertible e l)
    (hu : ∀ e', u.registry.precisions.get (params.assetId, params.destination) = some e' →
      Convertible e' l) :
    timeoutCredit T (requestOf source (sendPost T who params contract x)) u =
        (.ok ⟨params.assetId, T.intoBytes who, params.amount⟩, u) ↔
      Routed u params.assetId params.destination contract e params.amount := by
  have hsender : accountBytes (sendMessage T who params x).sender = some (T.intoBytes who) :=
    accountBytes_of_length (T.intoBytes who)
  rw [timeoutCredit_ok_iff]
  constructor
  -- the body can only be decoded as the message that was sent
  · rintro ⟨-, message, hdecode, -, hasset, hamount⟩
    have hmessage : message = sendMessage T who params x :=
      Option.some.inj (hdecode.symm.trans habi)
    obtain ⟨-, e', he', hback⟩ := (localAmount_ok_iff T _ _ _ _ _ _).mp hamount
    rw [hmessage, hlocal] at hback
    exact ⟨hasset, e', he', (convert_back_iff _ params.amount e e' l x he (hu e' he') hx).mp hback⟩
  · rintro ⟨hasset, e', he', hsame⟩
    refine ⟨rfl, _, habi, hsender, hasset, ?_⟩
    refine (localAmount_ok_iff T _ _ _ _ _ _).mpr ⟨rfl, e', he', ?_⟩
    rw [hlocal]
    exact (convert_back_iff _ params.amount e e' l x he (hu e' he') hx).mpr hsame

/-- In every state that a run reaches after a successful send, the timeout of the dispatched
request credits the sender with exactly what was sent if and only if the transfer is still
routed there; what it then does is that credit and the event. -/
theorem timeout_refunds_iff (source : C) (origin : O) (who : A) (params : SendParams C I)
    (contract : Bytes) (e l : UInt8) (x : U256) (s t : Storage A C I Λ) (ops : List (Op O C I Λ))
    (hsend : send T origin params s = (.ok (), t)) (hwho : T.ensureSigned origin = some who)
    (hcontract : s.registry.tokenContracts.get (params.destination, params.assetId) = some contract)
    (hdecimals : s.registry.precisions.get (params.assetId, params.destination) = some e)
    (hlocal : ∀ L, takeIn T who params.assetId params.amount s = (.ok (), { s with runtime := L }) →
      localDecimals T L params.assetId = l)
    (hx : convertToErc20 T.overflowChecks params.amount e l = some x)
    (haccount : T.fromBytes (T.intoBytes who) = who)
    (habi : T.abiDecode (sendPost T who params contract x).body = some (sendMessage T who params x))
    (he : Convertible e l)
    (hstays : localDecimals T (run (step T) t ops).runtime params.assetId = l)
    (hrun : ∀ e', (run (step T) t ops).registry.precisions.get (params.assetId, params.destination) =
      some e' → Convertible e' l) :
    let u := run (step T) t ops
    let post := sendPost T who params contract x
    t.outbox = s.outbox ++ [⟨who, params.assetId, params.amount, post⟩] ∧
    (timeoutCredit T (requestOf source post) u =
        (.ok ⟨params.assetId, T.intoBytes who, params.amount⟩, u) ↔
      Routed u params.assetId params.destination contract e params.amount) ∧
    (Routed u params.assetId params.destination contract e params.amount →
      onTimeout T (.post (requestOf source post)) u =
        (payOut T params.assetId who params.amount >>= fun _ =>
          depositEvent (.tokenRefunded who params.amount params.destination)) u) := by
  intro u post
  have hcredit := timeoutCredit_iff_routed T source who params contract e l x u hstays hx habi
    he hrun
  refine ⟨?_, hcredit, ?_⟩
  · obtain ⟨sender, hsender, ⟨effect⟩⟩ := send_ok T origin params s t hsend
    obtain rfl : who = sender := Option.some.inj (hwho.symm.trans hsender)
    -- what the send looked up is what the hypotheses name
    obtain rfl : contract = effect.contract :=
      Option.some.inj (hcontract.symm.trans effect.contract_get)
    obtain rfl : e = effect.decimals := Option.some.inj (hdecimals.symm.trans effect.decimals_get)
    have hamount := effect.convert_eq
    rw [hlocal _ effect.takeIn_eq, hx] at hamount
    rw [effect.outbox_eq, ← Option.some.inj hamount]
  · intro hrouted
    simp only [onTimeout]
    rw [Dispatch.bind_of_ok _ _ _ _ _ (hcredit.mpr hrouted), haccount]
    rfl

def afterSend : Storage Bytes32 ℕ ℕ Mock.Runtime :=
  (send Mock.config (.signed Mock.alice) Mock.hundredUnits (Mock.funded 0)).2

def hundredUnitsPost : DispatchPost ℕ :=
  sendPost Mock.config Mock.alice Mock.hundredUnits Mock.remoteContract 100000000000000000000

/-- Another asset comes to the same chain, and the same account sends once more. -/
def quietFlight : List (Op (RawOrigin Bytes32) ℕ ℕ Mock.Runtime) :=
  [.registry (.registerToken .root ⟨5, false, Mock.oneChain 1 [9] 6⟩),
    .send (.signed Mock.alice) Mock.hundredUnits]

theorem timeout_refunds_iff_quietFlight :
    let u := run (step Mock.config) afterSend quietFlight
    timeoutCredit Mock.config (requestOf 2 hundredUnitsPost) u =
      (.ok ⟨0, Mock.alice, Mock.hundredUnits.amount⟩, u) := by
  have hsend : send Mock.config (.signed Mock.alice) Mock.hundredUnits (Mock.funded 0) =
      (.ok (), afterSend) := Prod.ext (by decide +kernel) rfl
  have hnow : (run (step Mock.config) afterSend quietFlight).registry.precisions.get (0, 1) =
      some 18 := by decide +kernel
  have hrun : ∀ e', (run (step Mock.config) afterSend quietFlight).registry.precisions.get (0, 1) =
      some e' → Convertible e' 12 := by
    intro e' he'
    rw [hnow] at he'
    cases he'
    decide
  exact (timeout_refunds_iff Mock.config 2 (.signed Mock.alice) Mock.alice Mock.hundredUnits
    Mock.remoteContract 18 12 100000000000000000000 (Mock.funded 0) afterSend quietFlight hsend rfl
    (by decide +kernel) (by decide +kernel) (fun _ _ => rfl) (by decide +kernel) rfl
    (by decide +kernel) (by decide) rfl hrun).2.1.mpr
      ⟨by decide +kernel, 18, hnow, Or.inl rfl⟩

/-- The chain is removed while the transfer is in flight. -/
def removedInFlight : List (Op (RawOrigin Bytes32) ℕ ℕ Mock.Runtime) :=
  [.registry (.updateToken .root ⟨0, ∅, [1]⟩)]

/-- The credit itself would succeed, but the timeout no longer finds the asset. -/
theorem removedInFlight_refuses_refund :
    let u := run (step Mock.config) afterSend removedInFlight
    (send Mock.config (.signed Mock.alice) Mock.hundredUnits (Mock.funded 0)).1 = .ok () ∧
    (payOut Mock.config 0 Mock.alice Mock.hundredUnits.amount u).1 = .ok () ∧
    (onTimeout Mock.config (.post (requestOf 2 hundredUnitsPost)) u).1 =
      .error (.module .unknownContractOnTimeout) ∧
    ¬ timeoutCredit Mock.config (requestOf 2 hundredUnitsPost) u =
      (.ok ⟨0, Mock.alice, Mock.hundredUnits.amount⟩, u) := by
  intro u
  have hlost : (timeoutCredit Mock.config (requestOf 2 hundredUnitsPost) u).1.isOk = false := by
    decide +kernel
  refine ⟨by decide +kernel, by decide +kernel, by decide +kernel, ?_⟩
  intro hcredit
  rw [hcredit] at hlost
  cases hlost

end NuloChain.Hft
