import NuloChain.FrameDispatch
import NuloChain.FrameStorage
import NuloChain.FrameCurrency
import NuloChain.HftConversion
import Mathlib.Data.List.AList

/-! The hyper-fungible-token pallet: its token registry, the call that sends tokens to
another chain, and the ISMP callbacks that accept tokens from there or take them back on a
timeout. Encodings, cryptography, the dispatcher and the two token pallets are parameters. -/
namespace NuloChain.Hft
open Frame

abbrev Bytes : Type := List UInt8

abbrev Bytes32 : Type := { b : Bytes // b.length = 32 }

abbrev H160 : Type := { b : Bytes // b.length = 20 }

/-- A map with distinct keys, iterated entry by entry. -/
abbrev BTreeMap (K V : Type) : Type := AList fun _ : K => V

structure Message where
  sender : Bytes
  recipient : Bytes
  amount : U256
  data : Bytes
  deriving DecidableEq

structure SendParams (C I : Type) where
  assetId : I
  destination : C
  recipient : BoundedVec UInt8 32
  amount : U128
  timeout : ℕ
  relayerFee : U128
  callData : Option Bytes

structure ChainConfig where
  tokenContract : Bytes
  decimals : UInt8
  deriving DecidableEq

structure TokenRegistration (C I : Type) where
  localId : I
  native : Bool
  chains : BTreeMap C ChainConfig

structure TokenUpdate (C I : Type) where
  assetId : I
  addChains : BTreeMap C ChainConfig
  removeChains : List C

structure SubstrateCalldata where
  signature : Option Bytes
  runtimeCall : Bytes

inductive MultiSignature
  | ed25519 (sig : Bytes)
  | sr25519 (sig : Bytes)
  | ecdsa (sig : Bytes)
  | eth (sig : Bytes)
  deriving DecidableEq

/-- The request handed to the dispatcher. -/
structure DispatchPost (C : Type) where
  dest : C
  fromModule : Bytes
  toModule : Bytes
  timeout : ℕ
  body : Bytes
  deriving DecidableEq

/-- The fields of `PostRequest` that the callbacks read. -/
structure PostRequest (C : Type) where
  source : C
  dest : C
  fromModule : Bytes
  toModule : Bytes
  body : Bytes

inductive Timeout (C : Type)
  | post (request : PostRequest C)
  | get
  | response

inductive Event (A C I : Type)
  | tokenSent (sender : A) (recipient : Bytes) (amount : U128) (dest : C) (commitment : Bytes)
  | tokenReceived (beneficiary : A) (amount : U128) (source : C)
  | tokenRefunded (beneficiary : A) (amount : U128) (dest : C)
  | tokenRegistered (assetId : I) (native : Bool) (chains : List C)

inductive Error | tokenContractNotFound | decimalsNotFound | dispatchError
  deriving DecidableEq, Repr

inductive HftError (C : Type)
  | unknownSourceContract (source : C)
  | decodeError
  | invalidRecipientLength (length : ℕ)
  | decimalsNotConfigured (chain : C)
  | invalidAmountConversion
  | transferFailed
  | mintFailed
  | calldataDecodeError
  | signatureDecodeError
  | signatureVerificationFailed
  | ecdsaRecoveryFailed
  | ethSignatureUnsupported
  | runtimeCallDecodeError
  | callDispatchError
  | responsesNotSupported
  | unknownContractOnTimeout
  | invalidSenderLength (length : ℕ)
  | unsupportedTimeoutType
  deriving DecidableEq, Repr

/-- Why a call or a callback did not succeed: an error of the pallet, one passed on from the
token pallets, a failed origin check, an error of the ISMP module, or a panic. -/
inductive Failure (C : Type)
  | pallet (e : Error)
  | token
  | badOrigin
  | module (e : HftError C)
  | panic
  deriving DecidableEq, Repr

structure Registry (C I : Type) where
  tokenContracts : StorageMap (C × I) Bytes
  contractToAsset : StorageMap (C × Bytes) I
  nativeAssets : StorageMap I Bool
  precisions : StorageMap (I × C) UInt8

/-- A transfer that has been handed to the dispatcher. -/
structure Sent (A C I : Type) where
  who : A
  assetId : I
  amount : U128
  post : DispatchPost C

structure Storage (A C I Λ : Type) where
  registry : Registry C I
  runtime : Λ
  outbox : List (Sent A C I)
  events : List (Event A C I)

/-- The pallet's configuration, and what it calls outside its own code. `dispatchCall` runs a
decoded runtime call, which undoes its own writes if it fails; `overflowChecks` is a setting of
the build profile. -/
structure Config (A O C I K Λ : Type) where
  intoBytes : A → Bytes32
  fromBytes : Bytes32 → A
  ensureSigned : O → Option A
  createOrigin : O → Bool
  nativeCurrency : Currency A Λ
  assets : Fungibles A I Λ
  nativeAssetId : I
  decimals : UInt8
  evmToSubstrate : H160 → A
  isEvm : C → Bool
  palletAccount : A
  palletId : Bytes
  dispatchRequest : DispatchPost C → A → U128 → Λ → Option (Bytes × Λ)
  abiEncode : Message → Bytes
  abiDecode : Bytes → Option Message
  decodeCalldata : Bytes → Option SubstrateCalldata
  decodeSignature : Bytes → Option MultiSignature
  decodeCall : Bytes → Option K
  encodePayload : ℕ → Bytes → Bytes
  keccak256 : Bytes → Bytes32
  ed25519Verify : Bytes → Bytes32 → Bytes32 → Bool
  sr25519Verify : Bytes → Bytes32 → Bytes32 → Bool
  ecdsaRecover : Bytes → Bytes32 → Option Bytes
  accountNonce : Λ → A → ℕ
  incAccountNonce : A → Λ → Λ
  dispatchCall : K → A → Storage A C I Λ → Option (Storage A C I Λ)
  overflowChecks : Bool

variable {A O C I K Λ : Type} [DecidableEq A] [DecidableEq C] [DecidableEq I]

abbrev Pallet (A C I Λ α : Type) : Type := Dispatch (Storage A C I Λ) (Failure C) α

variable (T : Config A O C I K Λ)

def depositEvent (e : Event A C I) : Pallet A C I Λ Unit :=
  Dispatch.write fun s => { s with events := s.events ++ [e] }

/-- An operation of the token pallets, with the failure it is reported as. -/
def onRuntime (f : Λ → Option Λ) (e : Failure C) : Pallet A C I Λ Unit := do
  let s ← Dispatch.read
  let L ← Dispatch.okOr (f s.runtime) e
  Dispatch.write fun s => { s with runtime := L }

/-! The registry. -/

/-- One turn of the loop of `register_token`. -/
def registerChain (localId : I) (r : Registry C I) (entry : C × ChainConfig) : Registry C I :=
  { r with
    tokenContracts := r.tokenContracts.insert (entry.1, localId) entry.2.tokenContract
    contractToAsset := r.contractToAsset.insert (entry.1, entry.2.tokenContract) localId
    precisions := r.precisions.insert (localId, entry.1) entry.2.decimals }

def entries (m : BTreeMap C ChainConfig) : List (C × ChainConfig) :=
  m.entries.map fun entry => (entry.1, entry.2)

def registered (r : Registry C I) (registration : TokenRegistration C I) : Registry C I :=
  -- no turn looks for an earlier contract of the asset on its chain
  (entries registration.chains).foldl (registerChain registration.localId)
    { r with nativeAssets := r.nativeAssets.insert registration.localId registration.native }

def registerToken (origin : O) (registration : TokenRegistration C I) : Pallet A C I Λ Unit := do
  Dispatch.ensure (T.createOrigin origin = true) .badOrigin
  Dispatch.write fun s => { s with registry := registered s.registry registration }
  depositEvent (.tokenRegistered registration.localId registration.native registration.chains.keys)

/-- `if let Some(old) = TokenContracts::get(..) { ContractToAsset::remove(..) }`. -/
def forgetContract (assetId : I) (chain : C) (r : Registry C I) : Registry C I :=
  match r.tokenContracts.get (chain, assetId) with
  | some old => { r with contractToAsset := r.contractToAsset.remove (chain, old) }
  | none => r

/-- One turn of the first loop of `update_token`. -/
def addChain (assetId : I) (r : Registry C I) (entry : C × ChainConfig) : Registry C I :=
  registerChain assetId (forgetContract assetId entry.1 r) entry

/-- One turn of the second loop of `update_token`. -/
def removeChain (assetId : I) (r : Registry C I) (chain : C) : Registry C I :=
  let r := forgetContract assetId chain r
  { r with
    tokenContracts := r.tokenContracts.remove (chain, assetId)
    precisions := r.precisions.remove (assetId, chain) }

def updated (r : Registry C I) (update : TokenUpdate C I) : Registry C I :=
  -- the additions come first, so a chain in both lists ends up removed
  update.removeChains.foldl (removeChain update.assetId)
    ((entries update.addChains).foldl (addChain update.assetId) r)

def updateToken (origin : O) (update : TokenUpdate C I) : Pallet A C I Λ Unit := do
  Dispatch.ensure (T.createOrigin origin = true) .badOrigin
  Dispatch.write fun s => { s with registry := updated s.registry update }

/-! Sending. -/

def localDecimals (L : Λ) (assetId : I) : UInt8 :=
  if assetId = T.nativeAssetId then T.decimals else T.assets.decimals L assetId

/-- The tokens that leave `who`: into custody, or burnt. -/
def takeIn (who : A) (assetId : I) (amount : U128) : Pallet A C I Λ Unit :=
  if assetId = T.nativeAssetId then
    onRuntime (T.nativeCurrency.transfer who T.palletAccount amount.val .allowDeath) .token
  else do
    let s ← Dispatch.read
    if s.registry.nativeAssets.getD assetId false then
      onRuntime (T.assets.transfer assetId who T.palletAccount amount.val .expendable) .token
    else
      onRuntime (T.assets.burnFrom assetId who amount.val .expendable .exact .polite) .token

/-- The message that carries the amount in the decimals of the destination. -/
def sendMessage (who : A) (params : SendParams C I) (erc20Amount : U256) : Message where
  sender := (T.intoBytes who).val
  recipient := params.recipient.toList
  amount := erc20Amount
  data := params.callData.getD []

def sendPost (who : A) (params : SendParams C I) (tokenContract : Bytes) (erc20Amount : U256) :
    DispatchPost C where
  dest := params.destination
  fromModule := T.palletId
  toModule := tokenContract
  timeout := params.timeout
  body := T.abiEncode (sendMessage T who params erc20Amount)

def sendBody (origin : O) (params : SendParams C I) : Pallet A C I Λ Unit := do
  let who ← Dispatch.okOr (T.ensureSigned origin) .badOrigin
  let s ← Dispatch.read
  let tokenContract ← Dispatch.okOr
    (s.registry.tokenContracts.get (params.destination, params.assetId))
    (.pallet .tokenContractNotFound)
  let ercDecimals ← Dispatch.okOr (s.registry.precisions.get (params.assetId, params.destination))
    (.pallet .decimalsNotFound)
  takeIn T who params.assetId params.amount
  -- the decimals of the asset are read after it was taken in
  let s ← Dispatch.read
  let erc20Amount ← Dispatch.okOr (convertToErc20 T.overflowChecks params.amount ercDecimals
    (localDecimals T s.runtime params.assetId)) .panic
  let post := sendPost T who params tokenContract erc20Amount
  let sent ← Dispatch.okOr (T.dispatchRequest post who params.relayerFee s.runtime)
    (.pallet .dispatchError)
  Dispatch.write fun s =>
    { s with runtime := sent.2, outbox := s.outbox ++ [⟨who, params.assetId, params.amount, post⟩] }
  depositEvent (.tokenSent who params.recipient.toList params.amount params.destination sent.1)

/-- A call runs inside a storage layer of its own. -/
def send (origin : O) (params : SendParams C I) : Pallet A C I Λ Unit :=
  Dispatch.transactional (sendBody T origin params)

/-! The ISMP module. Its callbacks are not transactional. -/

/-- A 32-byte account, or a 20-byte address padded on the left. -/
def accountBytes (b : Bytes) : Option Bytes32 :=
  if h : b.length = 32 then some ⟨b, h⟩
  else if h : b.length = 20 then some ⟨List.replicate 12 0 ++ b, by simp [h]⟩
  else none

/-- The local amount of a message, in the decimals configured for `chain`. -/
def localAmount (assetId : I) (chain : C) (value : U256) : Pallet A C I Λ U128 := do
  let s ← Dispatch.read
  let ercDecimals ← Dispatch.okOr (s.registry.precisions.get (assetId, chain))
    (.module (.decimalsNotConfigured chain))
  -- a failure of the power or the division is a panic, a quotient that does not fit an error
  let parsed ← Dispatch.okOr (convertToBalance T.overflowChecks value ercDecimals
    (localDecimals T s.runtime assetId)) .panic
  Dispatch.okOr parsed (.module .invalidAmountConversion)

/-- The tokens that reach `beneficiary`: out of custody, or minted. -/
def payOut (assetId : I) (beneficiary : A) (amount : U128) : Pallet A C I Λ Unit :=
  if assetId = T.nativeAssetId then
    onRuntime (T.nativeCurrency.transfer T.palletAccount beneficiary amount.val .allowDeath)
      (.module .transferFailed)
  else do
    let s ← Dispatch.read
    if s.registry.nativeAssets.getD assetId false then
      onRuntime (T.assets.transfer assetId T.palletAccount beneficiary amount.val .expendable)
        (.module .transferFailed)
    else
      onRuntime (T.assets.mintInto assetId beneficiary amount.val) (.module .mintFailed)

/-- What a message pays: the asset, the receiving account and the amount. -/
structure Credit (I : Type) where
  assetId : I
  account : Bytes32
  amount : U128
  deriving DecidableEq

/-- The lookups of `on_accept`, with the decoded message. -/
def acceptCredit (request : PostRequest C) : Pallet A C I Λ (Message × Credit I) := do
  let s ← Dispatch.read
  let assetId ← Dispatch.okOr (s.registry.contractToAsset.get (request.source, request.fromModule))
    (.module (.unknownSourceContract request.source))
  let message ← Dispatch.okOr (T.abiDecode request.body) (.module .decodeError)
  let account ← Dispatch.okOr (accountBytes message.recipient)
    (.module (.invalidRecipientLength message.recipient.length))
  let amount ← localAmount T assetId request.source message.amount
  pure (message, ⟨assetId, account, amount⟩)

def ethereumMessagePrefix : String := "\x19Ethereum Signed Message:\n"

/-- `H160::from_slice` of the last twenty bytes of a 32-byte hash. -/
def lastTwenty (b : Bytes32) : H160 := ⟨b.val.drop 12, by simp [b.property]⟩

/-- The signature check of `on_accept`: the payload is the beneficiary's nonce and the call. -/
def checkSignature (account : Bytes32) (runtimeCall : Bytes) (signature : MultiSignature) :
    Pallet A C I Λ Unit := do
  let s ← Dispatch.read
  let beneficiary := T.fromBytes account
  let payload := T.encodePayload (T.accountNonce s.runtime beneficiary) runtimeCall
  match signature with
  | .ed25519 sig =>
    Dispatch.ensure (T.ed25519Verify sig (T.keccak256 payload) account = true)
      (.module .signatureVerificationFailed)
  | .sr25519 sig =>
    Dispatch.ensure (T.sr25519Verify sig (T.keccak256 payload) account = true)
      (.module .signatureVerificationFailed)
  | .ecdsa sig =>
    -- the recovered address is compared through the configured conversion, not byte by byte
    let preimage := (ethereumMessagePrefix ++ toString payload.length).toUTF8.toList ++ payload
    let pubKey ← Dispatch.okOr (T.ecdsaRecover sig (T.keccak256 preimage))
      (.module .ecdsaRecoveryFailed)
    Dispatch.ensure (T.evmToSubstrate (lastTwenty (T.keccak256 pubKey)) = beneficiary)
      (.module .signatureVerificationFailed)
  | .eth _ => Dispatch.fail (.module .ethSignatureUnsupported)

/-- The origin of an unsigned call. A slice out of range and a length mismatch panic. -/
def unsignedOrigin (source : C) (sender : Bytes) : Pallet A C I Λ A :=
  if T.isEvm source then
    if h : 20 ≤ sender.length then
      pure (T.evmToSubstrate ⟨sender.drop (sender.length-20), by simp; omega⟩)
    else Dispatch.fail .panic
  else
    if h : sender.length = 32 then pure (T.fromBytes ⟨sender, h⟩)
    else Dispatch.fail .panic

def callOrigin (source : C) (message : Message) (account : Bytes32) (data : SubstrateCalldata) :
    Pallet A C I Λ A :=
  match data.signature with
  | some signature => do
    let multiSignature ← Dispatch.okOr (T.decodeSignature signature)
      (.module .signatureDecodeError)
    checkSignature T account data.runtimeCall multiSignature
    pure (T.fromBytes account)
  | none => unsignedOrigin T source message.sender

/-- The calldata branch of `on_accept`. -/
def processCalldata (source : C) (message : Message) (account : Bytes32) :
    Pallet A C I Λ Unit := do
  let data ← Dispatch.okOr (T.decodeCalldata message.data) (.module .calldataDecodeError)
  let origin ← callOrigin T source message account data
  let call ← Dispatch.okOr (T.decodeCall data.runtimeCall) (.module .runtimeCallDecodeError)
  let s ← Dispatch.read
  let t ← Dispatch.okOr (T.dispatchCall call origin s) (.module .callDispatchError)
  -- only a call that succeeded uses up a nonce
  Dispatch.write fun _ => { t with runtime := T.incAccountNonce origin t.runtime }

def onAccept (request : PostRequest C) : Pallet A C I Λ Unit := do
  let (message, credit) ← acceptCredit T request
  -- the payment comes first and stays even if the calldata is refused
  payOut T credit.assetId (T.fromBytes credit.account) credit.amount
  Dispatch.when (message.data ≠ []) (processCalldata T request.source message credit.account)
  depositEvent (.tokenReceived (T.fromBytes credit.account) credit.amount request.source)

def onResponse : Pallet A C I Λ Unit := Dispatch.fail (.module .responsesNotSupported)

/-- The lookups of `on_timeout`. -/
def timeoutCredit (request : PostRequest C) : Pallet A C I Λ (Credit I) := do
  let message ← Dispatch.okOr (T.abiDecode request.body) (.module .decodeError)
  let account ← Dispatch.okOr (accountBytes message.sender)
    (.module (.invalidSenderLength message.sender.length))
  let s ← Dispatch.read
  -- the request is our own: its destination is the chain that did not answer
  let assetId ← Dispatch.okOr (s.registry.contractToAsset.get (request.dest, request.toModule))
    (.module .unknownContractOnTimeout)
  let amount ← localAmount T assetId request.dest message.amount
  pure ⟨assetId, account, amount⟩

def onTimeout (timeout : Timeout C) : Pallet A C I Λ Unit :=
  match timeout with
  | .post request => do
    let credit ← timeoutCredit T request
    payOut T credit.assetId (T.fromBytes credit.account) credit.amount
    depositEvent (.tokenRefunded (T.fromBytes credit.account) credit.amount request.dest)
  | .get => Dispatch.fail (.module .unsupportedTimeoutType)
  | .response => Dispatch.fail (.module .unsupportedTimeoutType)

end NuloChain.Hft
