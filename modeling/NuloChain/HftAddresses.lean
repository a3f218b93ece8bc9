import NuloChain.HftAuthority

/-! Which account an EVM address owns. The callbacks pad the address themselves when they pay,
and ask the configured conversion when they look for the owner of a signature or of a call. -/
namespace NuloChain.Hft
open Frame
set_option linter.unusedSectionVars false
variable {A O C I K Λ : Type} [DecidableEq A] [DecidableEq C] [DecidableEq I]
variable (T : Config A O C I K Λ)

theorem length_padded (address : H160) : (List.replicate 12 0 ++ address.val).length = 32 := by
  simp [address.property]

/-- The account whose bytes are the address behind twelve zeros. -/
def paddedAccount (address : H160) : A :=
  T.fromBytes ⟨List.replicate 12 0 ++ address.val, length_padded address⟩

/-- The address whose key made an ECDSA signature over the nonce of `account` and the call. -/
def ecdsaSigner (s : Storage A C I Λ) (account : Bytes32) (runtimeCall sig : Bytes) :
    Option H160 :=
  let payload := T.encodePayload (T.accountNonce s.runtime (T.fromBytes account)) runtimeCall
  let preimage := (ethereumMessagePrefix ++ toString payload.length).toUTF8.toList ++ payload
  (T.ecdsaRecover sig (T.keccak256 preimage)).map fun pubKey => lastTwenty (T.keccak256 pubKey)

theorem accountBytes_of_address (address : H160) :
    accountBytes address.val =
      some ⟨List.replicate 12 0 ++ address.val, length_padded address⟩ := by
  have hlength : address.val.length ≠ 32 := by
    rw [address.property]
    decide
  rw [accountBytes, dif_neg hlength, dif_pos address.property]

/-- An accepted transfer pays the account that its event names. -/
theorem onAccept_credits (request : PostRequest C) (s t : Storage A C I Λ)
    (h : onAccept T request s = (.ok (), t)) :
    ∃ message credit L, acceptCredit T request s = (.ok (message, credit), s) ∧
      payOut T credit.assetId (T.fromBytes credit.account) credit.amount s =
        (.ok (), { s with runtime := L }) ∧
      t.events.getLast? =
        some (.tokenReceived (T.fromBytes credit.account) credit.amount request.source) := by
  simp only [onAccept, Dispatch.bind_ok_iff, depositEvent, Dispatch.write_ok_iff] at h
  obtain ⟨⟨message, credit⟩, u, hcredit, _, v, hpay, _, w, -, rfl⟩ := h
  have hu := (acceptCredit_readOnly T request).storage hcredit
  subst hu
  obtain ⟨L, rfl, -⟩ := payOut_ok T _ _ _ _ _ hpay
  exact ⟨message, credit, L, hcredit, hpay, List.getLast?_concat⟩

/-- A refund pays the account that its event names. -/
theorem onTimeout_credits (request : PostRequest C) (s t : Storage A C I Λ)
    (h : onTimeout T (.post request) s = (.ok (), t)) :
    ∃ credit L, timeoutCredit T request s = (.ok credit, s) ∧
      payOut T credit.assetId (T.fromBytes credit.account) credit.amount s =
        (.ok (), { s with runtime := L }) ∧
      t.events.getLast? =
        some (.tokenRefunded (T.fromBytes credit.account) credit.amount request.dest) := by
  simp only [onTimeout, Dispatch.bind_ok_iff, depositEvent, Dispatch.write_ok_iff] at h
  obtain ⟨credit, u, hcredit, _, v, hpay, rfl⟩ := h
  have hu := (timeoutCredit_readOnly T request).storage hcredit
  subst hu
  obtain ⟨L, rfl, -⟩ := payOut_ok T _ _ _ _ _ hpay
  exact ⟨credit, L, hcredit, hpay, List.getLast?_concat⟩

/-- The check accepts an ECDSA signature exactly for the account that the conversion gives to
the signer. -/
theorem checkSignature_ecdsa_iff (account : Bytes32) (runtimeCall sig : Bytes)
    (s : Storage A C I Λ) (address : H160)
    (hsigner : ecdsaSigner T s account runtimeCall sig = some address) :
    checkSignature T account runtimeCall (.ecdsa sig) s = (.ok (), s) ↔
      T.fromBytes account = T.evmToSubstrate address := by
  unfold ecdsaSigner at hsigner
  obtain ⟨pubKey, hrecovered, rfl⟩ := Option.map_eq_some_iff.mp hsigner
  unfold checkSignature
  simp only [Dispatch.bind_ok_iff, Dispatch.read_ok_iff, Dispatch.okOr_ok_iff,
    Dispatch.ensure_ok_iff]
  constructor
  · rintro ⟨_, _, ⟨rfl, rfl⟩, key, _, ⟨hkey, -⟩, haddress, -⟩
    obtain rfl := Option.some.inj (hrecovered.symm.trans hkey)
    exact haddress.symm
  · intro haddress
    exact ⟨s, s, ⟨rfl, rfl⟩, pubKey, s, ⟨hrecovered, rfl⟩, haddress.symm, rfl⟩

theorem callOrigin_of_address (source : C) (message : Message) (account : Bytes32)
    (data : SubstrateCalldata) (s : Storage A C I Λ) (address : H160)
    (hunsigned : data.signature = none) (hevm : T.isEvm source = true)
    (hsender : message.sender = address.val) :
    callOrigin T source message account data s = (.ok (T.evmToSubstrate address), s) := by
  have hlength : address.val.length = 20 := address.property
  simp only [callOrigin, hunsigned, unsignedOrigin, hevm, hsender, hlength, if_true, Nat.le_refl,
    dif_pos, Nat.sub_self, List.drop_zero]
  rfl

/-- The account that a transfer to an EVM address credits, and the one that a refund to it
does, are the account the conversion gives to the address exactly when the conversion pads it.
Signatures and calls always go by the conversion. -/
theorem evm_address_owner_iff (address : H160) :
    (∀ request message s t, T.abiDecode request.body = some message →
      message.recipient = address.val → onAccept T request s = (.ok (), t) →
        ∃ credit L, acceptCredit T request s = (.ok (message, credit), s) ∧
          payOut T credit.assetId (T.fromBytes credit.account) credit.amount s =
            (.ok (), { s with runtime := L }) ∧
          t.events.getLast? =
            some (.tokenReceived (T.fromBytes credit.account) credit.amount request.source) ∧
          (T.fromBytes credit.account = T.evmToSubstrate address ↔
            T.evmToSubstrate address = paddedAccount T address)) ∧
    (∀ request message s t, T.abiDecode request.body = some message →
      message.sender = address.val → onTimeout T (.post request) s = (.ok (), t) →
        ∃ credit L, timeoutCredit T request s = (.ok credit, s) ∧
          payOut T credit.assetId (T.fromBytes credit.account) credit.amount s =
            (.ok (), { s with runtime := L }) ∧
          t.events.getLast? =
            some (.tokenRefunded (T.fromBytes credit.account) credit.amount request.dest) ∧
          (T.fromBytes credit.account = T.evmToSubstrate address ↔
            T.evmToSubstrate address = paddedAccount T address)) ∧
    (∀ account runtimeCall sig s, ecdsaSigner T s account runtimeCall sig = some address →
      (checkSignature T account runtimeCall (.ecdsa sig) s = (.ok (), s) ↔
        T.fromBytes account = T.evmToSubstrate address)) ∧
    ∀ source message account data s, data.signature = none → T.isEvm source = true →
      message.sender = address.val →
        callOrigin T source message account data s = (.ok (T.evmToSubstrate address), s) := by
  -- both paying paths take the account from the bytes, and these are padded
  have hpadded : ∀ account, accountBytes address.val = some account →
      (T.fromBytes account = T.evmToSubstrate address ↔
        T.evmToSubstrate address = paddedAccount T address) := by
    intro account haccount
    obtain rfl := Option.some.inj ((accountBytes_of_address address).symm.trans haccount)
    exact eq_comm
  refine ⟨?_, ?_, ?_, ?_⟩
  · intro request message s t hdecode hrecipient haccept
    obtain ⟨message', credit, L, hcredit, hpay, hevent⟩ := onAccept_credits T request s t haccept
    obtain ⟨-, hdecode', haccount⟩ := acceptCredit_ok T request s s message' credit hcredit
    obtain rfl := Option.some.inj (hdecode.symm.trans hdecode')
    rw [hrecipient] at haccount
    exact ⟨credit, L, hcredit, hpay, hevent, hpadded _ haccount⟩
  · intro request message s t hdecode hsender htimeout
    obtain ⟨credit, L, hcredit, hpay, hevent⟩ := onTimeout_credits T request s t htimeout
    obtain ⟨-, message', hdecode', haccount, -⟩ := (timeoutCredit_ok_iff T request s s credit).mp hcredit
    obtain rfl := Option.some.inj (hdecode.symm.trans hdecode')
    rw [hsender] at haccount
    exact ⟨credit, L, hcredit, hpay, hevent, hpadded _ haccount⟩
  · intro account runtimeCall sig s hsigner
    exact checkSignature_ecdsa_iff T account runtimeCall sig s address hsigner
  · intro source message account data s hunsigned hevm hsender
    exact callOrigin_of_address T source message account data s address hunsigned hevm hsender

namespace Mock

/-- The address whose bytes are all three. -/
def evmAddress : H160 := ⟨List.replicate 20 3, by decide⟩

/-- The test runtime with the conversion that appends twelve bytes to an address. -/
def suffixConfig : Config Bytes32 (RawOrigin Bytes32) ℕ ℕ Empty Runtime :=
  { config with
    evmToSubstrate := fun h => ⟨h.val ++ List.replicate 12 0xEE, by simp [h.property]⟩ }

/-- Five units for the address. -/
def toAddress : PostRequest ℕ where
  source := 1
  dest := 2
  fromModule := remoteContract
  toModule := config.palletId
  body := abiEncode ⟨alice.val, evmAddress.val, 5000000000000000000, []⟩

end Mock

theorem evm_address_owner_toAddress :
    let s := Mock.funded 10000000000000
    ∃ message credit L, acceptCredit Mock.config Mock.toAddress s = (.ok (message, credit), s) ∧
      payOut Mock.config credit.assetId (Mock.config.fromBytes credit.account) credit.amount s =
        (.ok (), { s with runtime := L }) ∧
      (Mock.config.fromBytes credit.account = Mock.config.evmToSubstrate Mock.evmAddress ↔
        Mock.config.evmToSubstrate Mock.evmAddress = paddedAccount Mock.config Mock.evmAddress) := by
  intro s
  have haccept : (onAccept Mock.config Mock.toAddress (Mock.funded 10000000000000)).1 = .ok () := by
    decide +kernel
  have hdecode : Mock.config.abiDecode Mock.toAddress.body =
      some ⟨Mock.alice.val, Mock.evmAddress.val, 5000000000000000000, []⟩ := by
    decide +kernel
  generalize hresult : onAccept Mock.config Mock.toAddress (Mock.funded 10000000000000) = result
    at haccept
  obtain ⟨outcome, t⟩ := result
  cases haccept
  obtain ⟨credit, L, hcredit, hpay, -, hiff⟩ :=
    (evm_address_owner_iff Mock.config Mock.evmAddress).1 Mock.toAddress _ _ t hdecode rfl hresult
  exact ⟨_, credit, L, hcredit, hpay, hiff⟩

/-- Under that conversion the payment lands on an account that is not the one it gives to the
address. -/
theorem suffixConfig_pays_another_account :
    let s := Mock.funded 10000000000000
    let t := (onAccept Mock.suffixConfig Mock.toAddress s).2
    let balance := Mock.suffixConfig.nativeCurrency.freeBalance t.runtime
    (onAccept Mock.suffixConfig Mock.toAddress s).1 = .ok () ∧
    balance (paddedAccount Mock.suffixConfig Mock.evmAddress) = 5000000000000 ∧
    balance (Mock.suffixConfig.evmToSubstrate Mock.evmAddress) = 0 ∧
    paddedAccount Mock.suffixConfig Mock.evmAddress ≠
      Mock.suffixConfig.evmToSubstrate Mock.evmAddress := by
  decide +kernel

end NuloChain.Hft
