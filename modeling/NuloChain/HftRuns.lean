import NuloChain.HftSpecs
import NuloChain.FrameRun
import NuloChain.FrameBalances

/-! Histories of the pallet: the calls, the callbacks in any order, and whatever else moves
balances. The last part is a concrete runtime on which such histories can be computed. -/
namespace NuloChain.Hft
open Frame
set_option linter.unusedSectionVars false
variable {A O C I K Λ : Type} [DecidableEq A] [DecidableEq C] [DecidableEq I]
variable (T : Config A O C I K Λ)

/-- A call on the registry. -/
inductive RegistryCall (O C I : Type)
  | registerToken (origin : O) (registration : TokenRegistration C I)
  | updateToken (origin : O) (update : TokenUpdate C I)

inductive Op (O C I Λ : Type)
  | registry (call : RegistryCall O C I)
  | send (origin : O) (params : SendParams C I)
  | onAccept (request : PostRequest C)
  | onTimeout (timeout : Timeout C)
  | environment (f : Λ → Λ)

def registryStep (s : Storage A C I Λ) : RegistryCall O C I → Storage A C I Λ
  | .registerToken origin registration =>
    (Dispatch.transactional (registerToken T origin registration) s).2
  | .updateToken origin update => (Dispatch.transactional (updateToken T origin update) s).2

/-- The storage a callback leaves. A panic takes its whole block with it; any other failure
keeps what was written before it. -/
def settle (callback : Pallet A C I Λ Unit) (s : Storage A C I Λ) : Storage A C I Λ :=
  match callback s with
  | (.error .panic, _) => s
  | (_, t) => t

def step (s : Storage A C I Λ) : Op O C I Λ → Storage A C I Λ
  | .registry call => registryStep T s call
  | .send origin params => (send T origin params s).2
  | .onAccept request => settle (onAccept T request) s
  | .onTimeout timeout => settle (onTimeout T timeout) s
  | .environment f => { s with runtime := f s.runtime }

def emptyRegistry : Registry C I := ⟨.empty, .empty, .empty, .empty⟩

def emptyStorage (L : Λ) : Storage A C I Λ := ⟨emptyRegistry, L, [], []⟩

/-- A callback that panicked leaves the storage it was given, and one that failed otherwise the
one it had reached. -/
theorem settle_error (callback : Pallet A C I Λ Unit) (s t : Storage A C I Λ) (e : Failure C)
    (h : callback s = (.error e, t)) :
    (e = .panic ∧ settle callback s = s) ∨ (e ≠ .panic ∧ settle callback s = t) := by
  unfold settle
  rw [h]
  cases e with
  | panic => exact Or.inl ⟨rfl, rfl⟩
  | pallet _ => exact Or.inr ⟨fun h => (by cases h), rfl⟩
  | token => exact Or.inr ⟨fun h => (by cases h), rfl⟩
  | badOrigin => exact Or.inr ⟨fun h => (by cases h), rfl⟩
  | module _ => exact Or.inr ⟨fun h => (by cases h), rfl⟩

theorem settle_same (callback : Pallet A C I Λ Unit) (s : Storage A C I Λ) (e : Failure C)
    (h : callback s = (.error e, s)) : settle callback s = s :=
  (settle_error callback s s e h).elim And.right And.right

theorem settle_ok (callback : Pallet A C I Λ Unit) (s t : Storage A C I Λ)
    (h : callback s = (.ok (), t)) : settle callback s = t := by
  unfold settle
  rw [h]

/-- A call on the registry moves no tokens and sends nothing. -/
theorem registryStep_frame (s : Storage A C I Λ) (op : RegistryCall O C I) :
    (registryStep T s op).runtime = s.runtime ∧ (registryStep T s op).outbox = s.outbox := by
  cases op with
  | registerToken origin registration =>
    simp only [registryStep, Dispatch.transactional]
    by_cases h : T.createOrigin origin = true
    · obtain ⟨e, he⟩ := registerToken_accepted T origin registration s h
      rw [he]
      exact ⟨rfl, rfl⟩
    · rw [registerToken_refused T origin registration s h]
      exact ⟨rfl, rfl⟩
  | updateToken origin update =>
    simp only [registryStep, Dispatch.transactional]
    by_cases h : T.createOrigin origin = true
    · rw [updateToken_accepted T origin update s h]
      exact ⟨rfl, rfl⟩
    · rw [updateToken_refused T origin update s h]
      exact ⟨rfl, rfl⟩

/-! A runtime with the accounts and the constants of the pallet's tests and the existential
deposit of the chain. Chains are numbered EVM chains, and messages have the Solidity layout. -/
namespace Mock

/-- A big-endian 32-byte word. -/
def word (n : ℕ) : Bytes := (List.range 32).map fun i => UInt8.ofNat (n/256^(31-i))

/-- A dynamic `bytes` value: its length, its content and the padding to whole words. -/
def dynamicBytes (b : Bytes) : Bytes :=
  word b.length ++ b ++ List.replicate ((32-b.length%32)%32) 0

def abiEncode (m : Message) : Bytes :=
  let sender := dynamicBytes m.sender
  let recipient := dynamicBytes m.recipient
  word 32 ++ word 128 ++ word (128+sender.length) ++ word m.amount.val ++
    word (128+sender.length+recipient.length) ++ sender ++ recipient ++ dynamicBytes m.data

def readWord (b : Bytes) (offset : ℕ) : Option ℕ :=
  if offset+32 ≤ b.length then
    some (((b.drop offset).take 32).foldl (fun n digit => 256*n+digit.toNat) 0)
  else none

def readBytes (b : Bytes) (offset : ℕ) : Option Bytes := do
  let length ← readWord b offset
  if offset+32+length ≤ b.length then some ((b.drop (offset+32)).take length) else none

def abiDecode (b : Bytes) : Option Message := do
  let start ← readWord b 0
  let fields := b.drop start
  let sender ← readBytes fields (← readWord fields 0)
  let recipient ← readBytes fields (← readWord fields 32)
  let amount ← readWord fields 64
  let data ← readBytes fields (← readWord fields 96)
  if h : amount < 2^256 then some ⟨sender, recipient, ⟨amount, h⟩, data⟩ else none

/-- The account whose bytes are all `n`. -/
def account (n : UInt8) : Bytes32 := ⟨List.replicate 32 n, by simp⟩

/-- The account of the pallet id `hft__acc`. -/
def palletAccount : Bytes32 :=
  ⟨[109, 111, 100, 108, 104, 102, 116, 95, 95, 97, 99, 99] ++ List.replicate 20 0, by decide⟩

abbrev Runtime : Type := Ledger Bytes32 Empty

/-- No call and no signature decodes, and no asset exists but the native one. -/
def config : Config Bytes32 (RawOrigin Bytes32) ℕ ℕ Empty Runtime where
  intoBytes := id
  fromBytes := id
  ensureSigned := RawOrigin.ensureSigned
  createOrigin := RawOrigin.isRoot
  nativeCurrency := Ledger.currency 1000000000
  assets :=
    { decimals := fun _ _ => 0
      transfer := fun _ _ _ _ _ _ => none
      burnFrom := fun _ _ _ _ _ _ _ => none
      mintInto := fun _ _ _ _ => none }
  nativeAssetId := 0
  decimals := 12
  evmToSubstrate h := ⟨List.replicate 12 0 ++ h.val, by simp [h.property]⟩
  isEvm _ := true
  palletAccount := palletAccount
  palletId := [112, 97, 108, 108, 95, 104, 102, 116]
  dispatchRequest _ _ _ L := some (List.replicate 32 42, L)
  abiEncode := abiEncode
  abiDecode := abiDecode
  decodeCalldata _ := none
  decodeSignature _ := none
  decodeCall _ := none
  encodePayload _ call := call
  keccak256 _ := account 0
  ed25519Verify _ _ _ := false
  sr25519Verify _ _ _ := false
  ecdsaRecover _ _ := none
  accountNonce _ _ := 0
  incAccountNonce _ L := L
  dispatchCall call := call.elim
  overflowChecks := true

def alice : Bytes32 := account 1

def beneficiary : Bytes32 := account 2

def remoteContract : Bytes := [114, 101, 109, 111, 116, 101, 95, 104, 102, 116]

/-- One chain with the given contract and decimals. -/
def oneChain (chain : ℕ) (contract : Bytes) (decimals : UInt8) : BTreeMap ℕ ChainConfig :=
  AList.singleton chain ⟨contract, decimals⟩

/-- A hundred units of the native currency. -/
def hundredUnits : SendParams ℕ ℕ where
  assetId := 0
  destination := 1
  recipient := ⟨beneficiary.val, by decide⟩
  amount := 100000000000000
  timeout := 1000
  relayerFee := 7
  callData := none

/-- The native currency is registered, and the sender has a thousand units. -/
def funded (custody : ℕ) : Storage Bytes32 ℕ ℕ Runtime :=
  registryStep config
    (emptyStorage (Ledger.endowed [(alice, 1000000000000000), (palletAccount, custody)]))
    (.registerToken .root ⟨0, true, oneChain 1 remoteContract 18⟩)

/-- A message between the two test accounts without calldata. -/
def plainMessage (amount : U256) : Message := ⟨alice.val, beneficiary.val, amount, []⟩

/-- A message that arrives from the remote contract. -/
def incoming (amount : U256) : PostRequest ℕ where
  source := 1
  dest := 2
  fromModule := remoteContract
  toModule := config.palletId
  body := abiEncode (plainMessage amount)

/-- A message to the remote contract that comes back. -/
def returned (amount : U256) : PostRequest ℕ where
  source := 2
  dest := 1
  fromModule := config.palletId
  toModule := remoteContract
  body := abiEncode (plainMessage amount)

end Mock

end NuloChain.Hft
