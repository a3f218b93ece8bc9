import NuloChain.HftRuns

/-! Who a bridged call runs as. Every call that `on_accept` dispatches is authorised by the
message that carries it, and a signature is good for one message. -/
namespace NuloChain.Hft
open Frame
set_option linter.unusedSectionVars false
variable {A O C I K Λ : Type} [DecidableEq A] [DecidableEq C] [DecidableEq I]
variable (T : Config A O C I K Λ)

/-- `signature` is one of `account` over `payload`. -/
def Verifies (signature : MultiSignature) (account : Bytes32) (payload : Bytes) : Prop :=
  match signature with
  | .ed25519 sig => T.ed25519Verify sig (T.keccak256 payload) account = true
  | .sr25519 sig => T.sr25519Verify sig (T.keccak256 payload) account = true
  | .ecdsa sig =>
    ∃ pubKey, T.ecdsaRecover sig (T.keccak256
      ((ethereumMessagePrefix ++ toString payload.length).toUTF8.toList ++ payload)) = some pubKey ∧
      T.evmToSubstrate (lastTwenty (T.keccak256 pubKey)) = T.fromBytes account
  | .eth _ => False

/-- A call handed to the runtime: the message and the calldata it comes from, the account it
runs as, and the storage it starts in. -/
structure CallMade (A C I K Λ : Type) where
  request : PostRequest C
  message : Message
  data : SubstrateCalldata
  origin : A
  call : K
  storage : Storage A C I Λ

/-- The calldata branch up to the dispatch. -/
def callMade (request : PostRequest C) (message : Message) (account : Bytes32) :
    Pallet A C I Λ (Option (CallMade A C I K Λ)) :=
  if message.data = [] then pure none
  else do
    let data ← Dispatch.okOr (T.decodeCalldata message.data) (.module .calldataDecodeError)
    let origin ← callOrigin T request.source message account data
    let call ← Dispatch.okOr (T.decodeCall data.runtimeCall) (.module .runtimeCallDecodeError)
    let storage ← Dispatch.read
    pure (some ⟨request, message, data, origin, call, storage⟩)

/-- `on_accept` up to the dispatch. -/
def beforeDispatch (request : PostRequest C) :
    Pallet A C I Λ (Credit I × Option (CallMade A C I K Λ)) := do
  let (message, credit) ← acceptCredit T request
  payOut T credit.assetId (T.fromBytes credit.account) credit.amount
  let made ← callMade T request message credit.account
  pure (credit, made)

/-- The dispatch and the increment of the nonce. -/
def dispatchMade : Option (CallMade A C I K Λ) → Pallet A C I Λ Unit
  | none => pure ()
  | some made => do
    let t ← Dispatch.okOr (T.dispatchCall made.call made.origin made.storage)
      (.module .callDispatchError)
    Dispatch.write fun _ => { t with runtime := T.incAccountNonce made.origin t.runtime }

/-- The grounds on which a call may run as its origin. -/
inductive Grounds (made : CallMade A C I K Λ) : Prop
  | evmSender (front : Bytes) (address : H160) (unsigned : made.data.signature = none)
      (evm : T.isEvm made.request.source = true) (sender : made.message.sender = front ++ address.val)
      (origin : made.origin = T.evmToSubstrate address)
  | substrateSender (account : Bytes32) (unsigned : made.data.signature = none)
      (substrate : T.isEvm made.request.source = false) (sender : made.message.sender = account.val)
      (origin : made.origin = T.fromBytes account)
  | signature (bytes : Bytes) (signature : MultiSignature) (account : Bytes32)
      (carried : made.data.signature = some bytes)
      (decoded : T.decodeSignature bytes = some signature)
      (beneficiary : accountBytes made.message.recipient = some account)
      (origin : made.origin = T.fromBytes account)
      (verifies : Verifies T signature account
        (T.encodePayload (T.accountNonce made.storage.runtime made.origin) made.data.runtimeCall))

/-- The call is the one the message carries, and there are grounds for its origin. -/
structure Authorised (made : CallMade A C I K Λ) : Prop where
  message : T.abiDecode made.request.body = some made.message
  data : T.decodeCalldata made.message.data = some made.data
  call : T.decodeCall made.data.runtimeCall = some made.call
  grounds : Grounds T made

/-- The calls that an operation hands to the runtime. -/
def callsMade (s : Storage A C I Λ) : Op O C I Λ → List (CallMade A C I K Λ)
  | .onAccept request =>
    match beforeDispatch T request s with
    | (.ok (_, made), _) => made.toList
    | (.error _, _) => []
  | _ => []

/-- The signatures of the messages that were accepted on the strength of one. -/
def signaturesAccepted (s : Storage A C I Λ) : Op O C I Λ → List MultiSignature
  | .onAccept request =>
    match (onAccept T request s).1 with
    | .ok _ => (callsMade T s (.onAccept request)).filterMap fun made =>
      made.data.signature.bind T.decodeSignature
    | .error _ => []
  | _ => []

/-- No account has a lower nonce than before. -/
def LowersNoNonce (L M : Λ) : Prop := ∀ who, T.accountNonce L who ≤ T.accountNonce M who

/-- Neither a payment nor a dispatched call nor any other operation lowers a nonce, and no
nonce that is about to be incremented is at the maximum. -/
def KeepsNonces (nonceMax : ℕ) (s : Storage A C I Λ) : Op O C I Λ → Prop
  | .onAccept request =>
    LowersNoNonce T s.runtime (beforeDispatch T request s).2.runtime ∧
      ∀ made ∈ callsMade T s (.onAccept request), ∀ w,
        T.dispatchCall made.call made.origin made.storage = some w →
          LowersNoNonce T made.storage.runtime w.runtime ∧
            T.accountNonce w.runtime made.origin < nonceMax
  | op => LowersNoNonce T s.runtime (step T s op).runtime

/-- `inc_account_nonce`, and the encoding of a nonce followed by a call. -/
structure NonceLaws (nonceMax : ℕ) : Prop where
  inc_self : ∀ L who, T.accountNonce L who < nonceMax →
    T.accountNonce (T.incAccountNonce who L) who = T.accountNonce L who + 1
  inc_other : ∀ L who other, other ≠ who →
    T.accountNonce (T.incAccountNonce who L) other = T.accountNonce L other
  payload : ∀ n m call call', n ≤ nonceMax → m ≤ nonceMax →
    T.encodePayload n call = T.encodePayload m call' → n = m ∧ call = call'

/-- The signature verifies for at most one account and payload. -/
def SignsOnce (signature : MultiSignature) : Prop :=
  ∀ account payload account' payload', Verifies T signature account payload →
    Verifies T signature account' payload' →
      T.fromBytes account = T.fromBytes account' ∧ payload = payload'

/-! The dispatch in its place: `on_accept` is what precedes it, the dispatch, and the event. -/

theorem processCalldata_eq (request : PostRequest C) (message : Message) (account : Bytes32) :
    Dispatch.when (message.data ≠ []) (processCalldata T request.source message account) =
      callMade T request message account >>= dispatchMade T := by
  by_cases hempty : message.data = []
  · simp only [Dispatch.when, callMade, hempty, ne_eq, not_true_eq_false, if_false, if_true]
    rfl
  · simp only [Dispatch.when, callMade, ne_eq, hempty, not_false_eq_true, if_true, if_false,
      Dispatch.bind_assoc, Dispatch.pure_bind]
    rfl

theorem onAccept_eq (request : PostRequest C) :
    onAccept T request = beforeDispatch T request >>= fun p => dispatchMade T p.2 >>= fun _ =>
      depositEvent (.tokenReceived (T.fromBytes p.1.account) p.1.amount request.source) := by
  simp only [onAccept, beforeDispatch, processCalldata_eq, Dispatch.bind_assoc,
    Dispatch.pure_bind]

theorem mem_callsMade (s : Storage A C I Λ) (op : Op O C I Λ) (made : CallMade A C I K Λ) :
    made ∈ callsMade T s op ↔ ∃ request credit t, op = .onAccept request ∧
      beforeDispatch T request s = (.ok (credit, some made), t) := by
  cases op with
  | onAccept request =>
    rcases hbefore : beforeDispatch T request s with ⟨e | ⟨credit, found⟩, t⟩
    · simp [callsMade, hbefore]
    · simp [callsMade, hbefore]
  | registry call => simp [callsMade]
  | send origin params => simp [callsMade]
  | onTimeout timeout => simp [callsMade]
  | environment f => simp [callsMade]

/-- What a signature check establishes. -/
theorem checkSignature_ok (account : Bytes32) (runtimeCall : Bytes) (signature : MultiSignature)
    (s t : Storage A C I Λ)
    (h : checkSignature T account runtimeCall signature s = (.ok (), t)) :
    Verifies T signature account
      (T.encodePayload (T.accountNonce s.runtime (T.fromBytes account)) runtimeCall) := by
  unfold checkSignature at h
  rw [Dispatch.bind_ok_iff] at h
  obtain ⟨_, _, hread, h⟩ := h
  obtain ⟨rfl, rfl⟩ := (Dispatch.read_ok_iff _ _ _).mp hread
  cases signature with
  | ed25519 sig => exact ((Dispatch.ensure_ok_iff _ _ _ _ _).mp h).1
  | sr25519 sig => exact ((Dispatch.ensure_ok_iff _ _ _ _ _).mp h).1
  | ecdsa sig =>
    simp only [Dispatch.bind_ok_iff, Dispatch.okOr_ok_iff, Dispatch.ensure_ok_iff] at h
    obtain ⟨pubKey, _, ⟨hrecovered, -⟩, haddress, -⟩ := h
    exact ⟨pubKey, hrecovered, haddress⟩
  | eth sig => cases h

/-- The origin that `on_accept` derives, on the grounds it derives it from. -/
theorem callOrigin_grounds (made : CallMade A C I K Λ) (account : Bytes32) (t : Storage A C I Λ)
    (hrecipient : accountBytes made.message.recipient = some account)
    (h : callOrigin T made.request.source made.message account made.data made.storage =
      (.ok made.origin, t)) : Grounds T made := by
  unfold callOrigin at h
  cases hsignature : made.data.signature with
  | some bytes =>
    simp only [hsignature, Dispatch.bind_ok_iff, Dispatch.okOr_ok_iff, Dispatch.pure_ok_iff] at h
    obtain ⟨signature, _, ⟨hdecoded, rfl⟩, _, _, hcheck, horigin, -⟩ := h
    have hverifies := checkSignature_ok T account made.data.runtimeCall signature _ _ hcheck
    rw [horigin] at hverifies
    exact .signature bytes signature account hsignature hdecoded hrecipient horigin.symm hverifies
  | none =>
    simp only [hsignature, unsignedOrigin] at h
    split_ifs at h with hevm hlength hlength
    · -- the address is the end of the sender, whatever stands before it
      have hsender := List.take_append_drop (made.message.sender.length-20) made.message.sender
      exact .evmSender _ ⟨_, _⟩ hsignature hevm hsender.symm
        ((Dispatch.pure_ok_iff _ _ _ _).mp h).1.symm
    · cases h
    · have hsubstrate : T.isEvm made.request.source = false := Bool.eq_false_iff.mpr hevm
      exact .substrateSender ⟨_, hlength⟩ hsignature hsubstrate rfl
        ((Dispatch.pure_ok_iff _ _ _ _).mp h).1.symm
    · cases h

/-- What precedes a dispatch: the call was prepared for this request, in the storage that the
payment left. -/
theorem beforeDispatch_made (request : PostRequest C) (s t : Storage A C I Λ) (credit : Credit I)
    (made : CallMade A C I K Λ)
    (h : beforeDispatch T request s = (.ok (credit, some made), t)) :
    made.storage = t ∧ made.request = request ∧ Authorised T made := by
  simp only [beforeDispatch, Dispatch.bind_ok_iff, Dispatch.pure_ok_iff, Prod.mk.injEq] at h
  obtain ⟨⟨message, paid⟩, _, hcredit, _, u, -, _, _, hmade, ⟨-, rfl⟩, rfl⟩ := h
  obtain ⟨-, hmessage, hrecipient⟩ := acceptCredit_ok T request s _ message paid hcredit
  unfold callMade at hmade
  split_ifs at hmade with hempty
  · cases hmade
  · simp only [Dispatch.bind_ok_iff, Dispatch.okOr_ok_iff, Dispatch.read_ok_iff,
      Dispatch.pure_ok_iff, Option.some.injEq] at hmade
    obtain ⟨data, _, ⟨hdata, rfl⟩, origin, v, horigin, call, _, ⟨hcall, rfl⟩, _, _, ⟨rfl, rfl⟩,
      rfl, rfl⟩ := hmade
    have hv := (callOrigin_readOnly T request.source message paid.account data).storage horigin
    subst hv
    exact ⟨rfl, rfl, hmessage, hdata, hcall, callOrigin_grounds T _ paid.account _ hrecipient horigin⟩

theorem callsMade_authorised (s : Storage A C I Λ) (op : Op O C I Λ) :
    ∀ made ∈ callsMade T s op, Authorised T made := by
  intro made hmade
  obtain ⟨request, credit, t, -, hbefore⟩ := (mem_callsMade T s op made).mp hmade
  exact (beforeDispatch_made T request s t credit made hbefore).2.2

/-! Replay. -/

/-- What `on_accept` comes to, in terms of what precedes the dispatch. -/
theorem onAccept_of_before (request : PostRequest C) (s : Storage A C I Λ) :
    (∃ e t, beforeDispatch T request s = (.error e, t) ∧ onAccept T request s = (.error e, t)) ∨
    (∃ credit t e, beforeDispatch T request s = (.ok (credit, none), t) ∧
      onAccept T request s = (.ok (), { t with events := t.events ++ [e] })) ∨
    (∃ credit made t, beforeDispatch T request s = (.ok (credit, some made), t) ∧
      ((T.dispatchCall made.call made.origin made.storage = none ∧
          onAccept T request s = (.error (.module .callDispatchError), t)) ∨
        ∃ w e, T.dispatchCall made.call made.origin made.storage = some w ∧
          onAccept T request s = (.ok (), { w with
            runtime := T.incAccountNonce made.origin w.runtime
            events := w.events ++ [e] }))) := by
  have heq := congrFun (onAccept_eq T request) s
  rcases hbefore : beforeDispatch T request s with ⟨e | ⟨credit, _ | made⟩, t⟩
  · refine Or.inl ⟨e, t, rfl, ?_⟩
    rw [heq, Dispatch.bind_error_iff]
    exact Or.inl hbefore
  · rw [Dispatch.bind_of_ok _ _ s t _ hbefore] at heq
    exact Or.inr (Or.inl ⟨credit, t, _, rfl, heq⟩)
  · rw [Dispatch.bind_of_ok _ _ s t _ hbefore] at heq
    refine Or.inr (Or.inr ⟨credit, made, t, rfl, ?_⟩)
    cases hcall : T.dispatchCall made.call made.origin made.storage with
    | none =>
      rw [dispatchMade, hcall] at heq
      exact Or.inl ⟨rfl, heq⟩
    | some w =>
      rw [dispatchMade, hcall] at heq
      exact Or.inr ⟨w, _, rfl, heq⟩

theorem LowersNoNonce.trans {L M N : Λ} (h : LowersNoNonce T L M) (h' : LowersNoNonce T M N) :
    LowersNoNonce T L N := fun who => (h who).trans (h' who)

theorem NonceLaws.inc_lowersNoNonce {nonceMax : ℕ} (laws : NonceLaws T nonceMax) (L : Λ) (who : A)
    (h : T.accountNonce L who < nonceMax) : LowersNoNonce T L (T.incAccountNonce who L) := by
  intro other
  by_cases hother : other = who
  · rw [hother, laws.inc_self L who h]
    exact Nat.le_succ _
  · rw [laws.inc_other L who other hother]

/-- A message that is accepted with a call raises the nonce of its origin above the one the
call was prepared with. -/
theorem onAccept_raisesNonce {nonceMax : ℕ} (laws : NonceLaws T nonceMax) (request : PostRequest C)
    (s t : Storage A C I Λ) (credit : Credit I) (made : CallMade A C I K Λ)
    (hkeeps : KeepsNonces T nonceMax s (.onAccept request))
    (hbefore : beforeDispatch T request s = (.ok (credit, some made), t)) (v : Storage A C I Λ)
    (haccept : onAccept T request s = (.ok (), v)) :
    LowersNoNonce T made.storage.runtime v.runtime ∧
      T.accountNonce made.storage.runtime made.origin < nonceMax ∧
      T.accountNonce made.storage.runtime made.origin < T.accountNonce v.runtime made.origin := by
  have hmade : made ∈ callsMade T s (.onAccept request : Op O C I Λ) :=
    (mem_callsMade T s _ made).mpr ⟨request, credit, t, rfl, hbefore⟩
  rcases onAccept_of_before T request s with
    ⟨e, u, -, hresult⟩ | ⟨_, _, _, hnone, -⟩ | ⟨_, found, u, hsome, hcase⟩
  · rw [haccept] at hresult
    cases hresult
  · rw [hbefore] at hnone
    cases hnone
  -- a success with a call: the call was made, and the nonce raised after it
  · obtain rfl : made = found := by
      rw [hbefore] at hsome
      cases hsome
      rfl
    rcases hcase with ⟨-, hresult⟩ | ⟨w, e, hcall, hresult⟩
    · rw [haccept] at hresult
      cases hresult
    · rw [haccept] at hresult
      obtain rfl := (Prod.mk.inj hresult).2
      obtain ⟨hlower, hmax⟩ := hkeeps.2 made hmade w hcall
      have hself := laws.inc_self w.runtime made.origin hmax
      have horigin := hlower made.origin
      refine ⟨hlower.trans T (laws.inc_lowersNoNonce T _ _ hmax), ?_, ?_⟩
      · omega
      · change _ < T.accountNonce (T.incAccountNonce made.origin w.runtime) made.origin
        omega

/-- Whatever becomes of a callback, it lowers no nonce if its own writes do not. -/
theorem settle_lowersNoNonce (callback : Pallet A C I Λ Unit) (s t : Storage A C I Λ)
    (r : Except (Failure C) Unit) (h : callback s = (r, t))
    (ht : LowersNoNonce T s.runtime t.runtime) :
    LowersNoNonce T s.runtime (settle callback s).runtime := by
  cases r with
  | ok done =>
    rw [settle_ok callback s t h]
    exact ht
  | error e =>
    rcases settle_error callback s t e h with ⟨-, hs⟩ | ⟨-, hs⟩
    · rw [hs]
      exact fun _ => le_refl _
    · rw [hs]
      exact ht

/-- One operation lowers no nonce. -/
theorem step_lowersNoNonce {nonceMax : ℕ} (laws : NonceLaws T nonceMax) (s : Storage A C I Λ)
    (op : Op O C I Λ) (hkeeps : KeepsNonces T nonceMax s op) :
    LowersNoNonce T s.runtime (step T s op).runtime := by
  cases op with
  | registry call => exact hkeeps
  | send origin params => exact hkeeps
  | onTimeout timeout => exact hkeeps
  | environment f => exact hkeeps
  | onAccept request =>
    have hpaid := hkeeps.1
    rcases onAccept_of_before T request s with
      ⟨e, t, hbefore, hresult⟩ | ⟨credit, t, e, hbefore, hresult⟩ |
      ⟨credit, made, t, hbefore, ⟨hcall, hresult⟩ | ⟨w, e, hcall, hresult⟩⟩
    · rw [hbefore] at hpaid
      exact settle_lowersNoNonce T _ s _ _ hresult hpaid
    · rw [hbefore] at hpaid
      exact settle_lowersNoNonce T _ s _ _ hresult hpaid
    · rw [hbefore] at hpaid
      exact settle_lowersNoNonce T _ s _ _ hresult hpaid
    · have hstorage := (beforeDispatch_made T request s t credit made hbefore).1
      rw [hbefore, ← hstorage] at hpaid
      exact settle_lowersNoNonce T _ s _ _ hresult (hpaid.trans T
        (onAccept_raisesNonce T laws request s t credit made hkeeps hbefore _ hresult).1)

/-- The signature was made with a nonce that its account has left behind. -/
def Spent (nonceMax : ℕ) (signature : MultiSignature) (s : Storage A C I Λ) : Prop :=
  ∃ account n call, Verifies T signature account (T.encodePayload n call) ∧ n < nonceMax ∧
    n < T.accountNonce s.runtime (T.fromBytes account)

theorem Spent.mono {nonceMax : ℕ} {signature : MultiSignature} {s t : Storage A C I Λ}
    (h : Spent T nonceMax signature s) (hst : LowersNoNonce T s.runtime t.runtime) :
    Spent T nonceMax signature t := by
  obtain ⟨account, n, call, hverifies, hmax, hleft⟩ := h
  exact ⟨account, n, call, hverifies, hmax, lt_of_lt_of_le hleft (hst _)⟩

/-- A signature on which a message is accepted was not spent before and is spent after. -/
theorem accepted_spent {nonceMax : ℕ} (laws : NonceLaws T nonceMax) (s : Storage A C I Λ)
    (op : Op O C I Λ) (signature : MultiSignature) (honce : SignsOnce T signature)
    (hkeeps : KeepsNonces T nonceMax s op) (h : signature ∈ signaturesAccepted T s op) :
    ¬ Spent T nonceMax signature s ∧ Spent T nonceMax signature (step T s op) := by
  cases op with
  | onAccept request =>
    simp only [signaturesAccepted] at h
    rcases haccept : onAccept T request s with ⟨e | done, v⟩
    · simp [haccept] at h
    · simp only [haccept, List.mem_filterMap] at h
      obtain ⟨made, hmade, hsignature⟩ := h
      obtain ⟨request', credit, t, hop, hbefore⟩ := (mem_callsMade T s _ made).mp hmade
      cases hop
      obtain ⟨hstorage, -, hauthorised⟩ := beforeDispatch_made T request s t credit made hbefore
      have hpaid := hkeeps.1
      rw [hbefore, ← hstorage] at hpaid
      obtain ⟨-, hmax, hraised⟩ :=
        onAccept_raisesNonce T laws request s t credit made hkeeps hbefore v haccept
      have hstep : step T s (.onAccept request : Op O C I Λ) = v := settle_ok _ s v haccept
      -- only a message with a signature counts, so the grounds are that signature
      cases hauthorised.grounds with
      | evmSender _ _ unsigned => simp [unsigned] at hsignature
      | substrateSender _ unsigned => simp [unsigned] at hsignature
      | signature bytes σ account carried decoded beneficiary origin verifies =>
        obtain rfl : σ = signature := by
          simpa [carried, decoded] using hsignature
        rw [origin] at verifies hmax hraised
        refine ⟨?_, account, _, _, verifies, hmax, hstep ▸ hraised⟩
        -- were it spent before, the same nonce would be both left behind and current
        rintro ⟨account', n, call, hverifies, hn, hleft⟩
        obtain ⟨haccount, hpayload⟩ := honce _ _ _ _ hverifies verifies
        obtain ⟨hnonce, -⟩ := laws.payload _ _ _ _ hn.le hmax.le hpayload
        rw [haccount] at hleft
        have hlow : T.accountNonce s.runtime (T.fromBytes account) ≤
            T.accountNonce made.storage.runtime (T.fromBytes account) := hpaid _
        omega
  | registry call => simp [signaturesAccepted] at h
  | send origin params => simp [signaturesAccepted] at h
  | onTimeout timeout => simp [signaturesAccepted] at h
  | environment f => simp [signaturesAccepted] at h

theorem signaturesAccepted_length (s : Storage A C I Λ) (op : Op O C I Λ) :
    (signaturesAccepted T s op).length ≤ 1 := by
  cases op with
  | onAccept request =>
    have hcalls : (callsMade T s (.onAccept request : Op O C I Λ)).length ≤ 1 := by
      simp only [callsMade]
      rcases beforeDispatch T request s with ⟨e | ⟨credit, _ | made⟩, t⟩ <;> simp
    simp only [signaturesAccepted]
    rcases (onAccept T request s).1 with e | done
    · exact Nat.zero_le 1
    · exact (List.length_filterMap_le _ _).trans hcalls
  | registry call => exact Nat.zero_le 1
  | send origin params => exact Nat.zero_le 1
  | onTimeout timeout => exact Nat.zero_le 1
  | environment f => exact Nat.zero_le 1

/-- At most one message was accepted on the signature, and if one was, it is spent. -/
structure AcceptedOnce (nonceMax : ℕ) (signature : MultiSignature) (s : Storage A C I Λ)
    (accepted : List MultiSignature) : Prop where
  once : accepted.count signature ≤ 1
  spent : signature ∈ accepted → Spent T nonceMax signature s

theorem step_acceptedOnce {nonceMax : ℕ} (laws : NonceLaws T nonceMax)
    (signature : MultiSignature) (honce : SignsOnce T signature) (s : Storage A C I Λ)
    (accepted : List MultiSignature) (op : Op O C I Λ)
    (hs : AcceptedOnce T nonceMax signature s accepted) (hkeeps : KeepsNonces T nonceMax s op) :
    AcceptedOnce T nonceMax signature (step T s op) (accepted ++ signaturesAccepted T s op) := by
  by_cases hnow : signature ∈ signaturesAccepted T s op
  -- accepted now: then it cannot have been accepted before
  · obtain ⟨hfresh, hspent⟩ := accepted_spent T laws s op signature honce hkeeps hnow
    have hbefore : accepted.count signature = 0 :=
      List.count_eq_zero.mpr fun hmem => hfresh (hs.spent hmem)
    have hlength := signaturesAccepted_length T s op
    have hcount : (signaturesAccepted T s op).count signature ≤ _ := List.count_le_length
    refine ⟨?_, fun _ => hspent⟩
    rw [List.count_append]
    omega
  · refine ⟨?_, fun hmem => ?_⟩
    · rw [List.count_append, List.count_eq_zero.mpr hnow]
      exact hs.once
    · rcases List.mem_append.mp hmem with hold | hnew
      · exact (hs.spent hold).mono T (step_lowersNoNonce T laws s op hkeeps)
      · exact absurd hnew hnow

/-- In every run, a bridged call runs as the sender of its message or as the beneficiary who
signed it under the nonce of the moment, and no signature is accepted twice. -/
theorem bridged_calls_authorised_once {nonceMax : ℕ} (laws : NonceLaws T nonceMax)
    (s : Storage A C I Λ) (ops : List (Op O C I Λ))
    (hkeeps : Along (step T) (KeepsNonces T nonceMax) s ops) :
    (∀ made ∈ log (step T) (callsMade T) s ops, Authorised T made) ∧
      ∀ signature, SignsOnce T signature →
        (log (step T) (signaturesAccepted T) s ops).count signature ≤ 1 := by
  refine ⟨forall_mem_log (step T) (callsMade T) _ (callsMade_authorised T) ops s, ?_⟩
  intro signature honce
  have hstart : AcceptedOnce T nonceMax signature s [] :=
    ⟨Nat.zero_le 1, fun hmem => absurd hmem List.not_mem_nil⟩
  have hrun := log_invariant (step T) (signaturesAccepted T) (KeepsNonces T nonceMax)
    (AcceptedOnce T nonceMax signature) (step_acceptedOnce T laws signature honce) ops s [] hstart
    hkeeps
  rw [List.nil_append] at hrun
  exact hrun.once

/-! The test runtime with nonces, a call and the values of the cryptographic functions on one
signed message. -/
namespace Mock

/-- The balances, and an account for each time its nonce was incremented. -/
abbrev SigningRuntime : Type := Runtime × List Bytes32

/-- The Ed25519 key of the seed whose bytes are all seven. -/
def signer : Bytes32 :=
  ⟨[234, 74, 108, 99, 226, 156, 82, 10, 190, 245, 80, 123, 19, 46, 197, 249, 149, 71, 118, 174,
    190, 190, 123, 146, 66, 30, 234, 105, 20, 70, 210, 44], by decide⟩

/-- The runtime's `System::remark` of no bytes. -/
def remark : Bytes := [0, 0, 0]

/-- A four-byte nonce and a call of at most 63 bytes behind its compact length. -/
def encodePayload (nonce : ℕ) (call : Bytes) : Bytes :=
  ((List.range 4).map fun i => UInt8.ofNat (nonce/256^i)) ++ UInt8.ofNat (4*call.length) :: call

def firstHash : Bytes32 :=
  ⟨[255, 20, 14, 242, 200, 107, 211, 180, 169, 133, 148, 72, 37, 46, 55, 145, 220, 67, 237, 228,
    154, 45, 42, 66, 166, 203, 89, 37, 6, 6, 53, 100], by decide⟩

def secondHash : Bytes32 :=
  ⟨[114, 233, 150, 106, 105, 38, 171, 117, 105, 150, 244, 196, 89, 222, 254, 188, 208, 39, 145,
    116, 55, 105, 68, 40, 166, 159, 10, 142, 26, 137, 80, 111], by decide⟩

/-- The signer's signature of the first hash. -/
def firstSignature : Bytes :=
  [42, 12, 147, 90, 25, 117, 47, 91, 167, 28, 31, 136, 34, 204, 122, 1, 88, 147, 43, 60, 242, 95,
    80, 133, 190, 15, 216, 14, 142, 45, 249, 86, 8, 183, 131, 108, 90, 50, 241, 206, 17, 24, 154,
    80, 78, 250, 204, 63, 221, 251, 111, 114, 3, 150, 57, 199, 125, 56, 231, 242, 112, 103, 56, 7]

/-- The calldata that carries the signature and the call. -/
def signedCalldata : Bytes := [1, 5, 1, 0] ++ firstSignature ++ [12, 0, 0, 0]

def signingConfig : Config Bytes32 (RawOrigin Bytes32) ℕ ℕ Unit SigningRuntime where
  intoBytes := id
  fromBytes := id
  ensureSigned := RawOrigin.ensureSigned
  createOrigin := RawOrigin.isRoot
  nativeCurrency :=
    { minimumBalance := config.nativeCurrency.minimumBalance
      freeBalance := fun L => config.nativeCurrency.freeBalance L.1
      reservedBalance := fun L => config.nativeCurrency.reservedBalance L.1
      transfer := fun src dst n requirement L =>
        (config.nativeCurrency.transfer src dst n requirement L.1).map fun M => (M, L.2) }
  assets :=
    { decimals := fun _ _ => 0
      transfer := fun _ _ _ _ _ _ => none
      burnFrom := fun _ _ _ _ _ _ _ => none
      mintInto := fun _ _ _ _ => none }
  nativeAssetId := 0
  decimals := 12
  evmToSubstrate := config.evmToSubstrate
  isEvm _ := true
  palletAccount := palletAccount
  palletId := config.palletId
  dispatchRequest _ _ _ L := some (List.replicate 32 42, L)
  abiEncode := abiEncode
  abiDecode := abiDecode
  decodeCalldata b := if b = signedCalldata then some ⟨some (0 :: firstSignature), remark⟩ else none
  decodeSignature b := if b = 0 :: firstSignature then some (.ed25519 firstSignature) else none
  decodeCall b := if b = remark then some () else none
  encodePayload := encodePayload
  keccak256 b :=
    if b = encodePayload 0 remark then firstHash
    else if b = encodePayload 1 remark then secondHash
    else account 0
  ed25519Verify sig hash key := sig = firstSignature ∧ hash = firstHash ∧ key = signer
  sr25519Verify _ _ _ := false
  ecdsaRecover _ _ := none
  accountNonce L who := L.2.count who
  incAccountNonce who L := (L.1, who :: L.2)
  dispatchCall _ _ s := some s
  overflowChecks := false

/-- The native currency is registered, and custody holds enough for several messages. -/
def signingStorage : Storage Bytes32 ℕ ℕ SigningRuntime :=
  registryStep signingConfig (emptyStorage (Ledger.endowed [(palletAccount, 1000000000000000)], []))
    (.registerToken .root ⟨0, true, oneChain 1 remoteContract 18⟩)

/-- Five units for the signer, with the signed remark. -/
def signedRequest : PostRequest ℕ where
  source := 1
  dest := 2
  fromModule := remoteContract
  toModule := config.palletId
  body := abiEncode ⟨alice.val, signer.val, 5000000000000000000, signedCalldata⟩

end Mock

theorem encodePayload_injective (n m : ℕ) (call call' : Bytes) (hn : n < 2^32) (hm : m < 2^32)
    (h : Mock.encodePayload n call = Mock.encodePayload m call') : n = m ∧ call = call' := by
  obtain ⟨hnonce, hcall⟩ := List.append_inj h (by simp)
  refine ⟨?_, (List.cons.inj hcall).2⟩
  have hdigit : ∀ i < 4, n/256^i%256 = m/256^i%256 := by
    intro i hi
    have hi' := List.map_inj_left.mp hnonce i (List.mem_range.mpr hi)
    exact congrArg UInt8.toNat hi'
  have h0 := hdigit 0 (by decide)
  have h1 := hdigit 1 (by decide)
  have h2 := hdigit 2 (by decide)
  have h3 := hdigit 3 (by decide)
  omega

theorem signing_nonceLaws : NonceLaws Mock.signingConfig (2^32-1) where
  inc_self L who _ := List.count_cons_self
  inc_other L who other hother := List.count_cons_of_ne (Ne.symm hother)
  payload n m call call' hn hm h := encodePayload_injective n m call call' (by omega) (by omega) h

/-- Nothing there but the increment itself touches a nonce. -/
theorem signing_keepsNonces (s : Storage Bytes32 ℕ ℕ Mock.SigningRuntime)
    (request : PostRequest ℕ)
    (hsame : (beforeDispatch Mock.signingConfig request s).2.runtime.2 = s.runtime.2)
    (hshort : s.runtime.2.length < 2^32-1) :
    KeepsNonces Mock.signingConfig (2^32-1) s (.onAccept request) := by
  refine ⟨fun who => le_of_eq (congrArg (List.count who) hsame.symm), ?_⟩
  intro made hmade w hcall
  obtain ⟨request', credit, t, hop, hbefore⟩ := (mem_callsMade _ s _ made).mp hmade
  cases hop
  cases hcall
  have hstorage := (beforeDispatch_made _ request s t credit made hbefore).1
  rw [hbefore, ← hstorage] at hsame
  refine ⟨fun _ => le_refl _, ?_⟩
  have hcount : made.storage.runtime.2.count made.origin ≤ made.storage.runtime.2.length :=
    List.count_le_length
  have hlength : made.storage.runtime.2.length = s.runtime.2.length := congrArg List.length hsame
  change made.storage.runtime.2.count made.origin < 2^32-1
  omega

theorem firstSignature_signsOnce : SignsOnce Mock.signingConfig (.ed25519 Mock.firstSignature) := by
  have hpayload : ∀ account payload,
      Verifies Mock.signingConfig (.ed25519 Mock.firstSignature) account payload →
        account = Mock.signer ∧ payload = Mock.encodePayload 0 Mock.remark := by
    intro account payload h
    obtain ⟨-, hhash, hkey⟩ := of_decide_eq_true h
    refine ⟨hkey, ?_⟩
    simp only [Mock.signingConfig] at hhash
    split_ifs at hhash with hfirst hsecond
    · exact hfirst
    · exact absurd hhash (by decide)
    · exact absurd hhash (by decide)
  intro account payload account' payload' h h'
  obtain ⟨rfl, rfl⟩ := hpayload account payload h
  obtain ⟨rfl, rfl⟩ := hpayload account' payload' h'
  exact ⟨rfl, rfl⟩

/-- The same message arrives twice. -/
def replayTrace : List (Op (RawOrigin Bytes32) ℕ ℕ Mock.SigningRuntime) :=
  [.onAccept Mock.signedRequest, .onAccept Mock.signedRequest]

theorem bridged_calls_authorised_once_replayTrace :
    log (step Mock.signingConfig) (signaturesAccepted Mock.signingConfig) Mock.signingStorage
        replayTrace = [.ed25519 Mock.firstSignature] ∧
      (∀ made ∈ log (step Mock.signingConfig) (callsMade Mock.signingConfig) Mock.signingStorage
        replayTrace, Authorised Mock.signingConfig made) ∧
      (log (step Mock.signingConfig) (signaturesAccepted Mock.signingConfig) Mock.signingStorage
        replayTrace).count (.ed25519 Mock.firstSignature) ≤ 1 := by
  have hkeeps : Along (step Mock.signingConfig) (KeepsNonces Mock.signingConfig (2^32-1))
      Mock.signingStorage replayTrace :=
    ⟨signing_keepsNonces _ _ (by decide +kernel) (by decide +kernel),
      signing_keepsNonces _ _ (by decide +kernel) (by decide +kernel), trivial⟩
  have hrun := bridged_calls_authorised_once Mock.signingConfig signing_nonceLaws
    Mock.signingStorage replayTrace hkeeps
  exact ⟨by decide +kernel, hrun.1, hrun.2 _ firstSignature_signsOnce⟩

end NuloChain.Hft
