import NuloChain.HftAddresses

/-! How the callbacks fail. Each of their exits is read off the registry and the message: the
ones that panic, and the ones that come after the payment was made. -/
namespace NuloChain.Hft
open Frame
set_option linter.unusedSectionVars false
variable {A O C I K Λ : Type} [DecidableEq A] [DecidableEq C] [DecidableEq I]
variable (T : Config A O C I K Λ)

/-- The operation of the token pallets that pays `beneficiary`. -/
def payment (r : Registry C I) (assetId : I) (beneficiary : A) (amount : ℕ) (L : Λ) : Option Λ :=
  if assetId = T.nativeAssetId then
    T.nativeCurrency.transfer T.palletAccount beneficiary amount .allowDeath L
  else if r.nativeAssets.getD assetId false then
    T.assets.transfer assetId T.palletAccount beneficiary amount .expendable L
  else T.assets.mintInto assetId beneficiary amount L

/-- The local amount that `value` comes to, by the power of ten as the build computes it. -/
def Converts (s : Storage A C I Λ) (assetId : I) (chain : C) (value : U256) (amount : U128) : Prop :=
  ∃ e factor, s.registry.precisions.get (assetId, chain) = some e ∧
    pow10 T.overflowChecks (scale e (localDecimals T s.runtime assetId)) = some factor ∧
    factor ≠ 0 ∧ value.val/factor = amount.val

/-- The registry has everything to work out what `request` credits. -/
structure Credits (s : Storage A C I Λ) (request : PostRequest C) (message : Message)
    (credit : Credit I) : Prop where
  asset : s.registry.contractToAsset.get (request.source, request.fromModule) = some credit.assetId
  decoded : T.abiDecode request.body = some message
  recipient : accountBytes message.recipient = some credit.account
  converted : Converts T s credit.assetId request.source message.amount credit.amount

/-- The same for what the timeout of `request` pays back. -/
structure Refunds (s : Storage A C I Λ) (request : PostRequest C) (message : Message)
    (credit : Credit I) : Prop where
  asset : s.registry.contractToAsset.get (request.dest, request.toModule) = some credit.assetId
  decoded : T.abiDecode request.body = some message
  sender : accountBytes message.sender = some credit.account
  converted : Converts T s credit.assetId request.dest message.amount credit.amount

/-- The sender has a length from which the origin of an unsigned call can be taken. -/
def SenderFits (source : C) (sender : Bytes) : Prop :=
  if T.isEvm source = true then 20 ≤ sender.length else sender.length = 32

/-- The account that the calldata of a paid message may call as. -/
inductive RunsAs (s : Storage A C I Λ) (source : C) (message : Message) (account : Bytes32)
    (data : SubstrateCalldata) : A → Prop
  | signed (bytes : Bytes) (signature : MultiSignature) (carried : data.signature = some bytes)
      (decoded : T.decodeSignature bytes = some signature)
      (verifies : Verifies T signature account
        (T.encodePayload (T.accountNonce s.runtime (T.fromBytes account)) data.runtimeCall)) :
      RunsAs s source message account data (T.fromBytes account)
  | evm (front : Bytes) (address : H160) (unsigned : data.signature = none)
      (evm : T.isEvm source = true) (sender : message.sender = front ++ address.val) :
      RunsAs s source message account data (T.evmToSubstrate address)
  | substrate (sender : Bytes32) (unsigned : data.signature = none)
      (substrate : T.isEvm source = false) (carried : message.sender = sender.val) :
      RunsAs s source message account data (T.fromBytes sender)

/-- The grounds on which the calldata of a paid message is refused. -/
inductive Refused (s : Storage A C I Λ) (source : C) (message : Message) (account : Bytes32) : Prop
  | calldata (undecodable : T.decodeCalldata message.data = none)
  | signature (data : SubstrateCalldata) (bytes : Bytes)
      (calldata : T.decodeCalldata message.data = some data)
      (carried : data.signature = some bytes) (undecodable : T.decodeSignature bytes = none)
  | verification (data : SubstrateCalldata) (bytes : Bytes) (signature : MultiSignature)
      (calldata : T.decodeCalldata message.data = some data)
      (carried : data.signature = some bytes) (decoded : T.decodeSignature bytes = some signature)
      (unverified : ¬ Verifies T signature account
        (T.encodePayload (T.accountNonce s.runtime (T.fromBytes account)) data.runtimeCall))
  | call (data : SubstrateCalldata) (origin : A)
      (calldata : T.decodeCalldata message.data = some data)
      (runsAs : RunsAs T s source message account data origin)
      (undecodable : T.decodeCall data.runtimeCall = none)
  | dispatch (data : SubstrateCalldata) (origin : A) (call : K)
      (calldata : T.decodeCalldata message.data = some data)
      (runsAs : RunsAs T s source message account data origin)
      (decoded : T.decodeCall data.runtimeCall = some call)
      (failed : T.dispatchCall call origin s = none)

/-! The lookups and the payment. -/

/-- The largest exponent that does not end in a panic: beyond 38 the power overflows, and where
this is not checked it becomes zero, and the division panics, from 128 on. -/
def panicLimit (checks : Bool) : ℕ := if checks then 38 else 127

theorem pow10_eq_none_iff (checks : Bool) (n : ℕ) :
    pow10 checks n = none ↔ checks = true ∧ 38 < n := by
  by_cases h : n ≤ 38
  · rw [pow10_eq checks n h]
    exact iff_of_false (by simp) (fun hn => absurd h (Nat.not_le.mpr hn.2))
  · have hpow : 10^39 ≤ 10^n := Nat.pow_le_pow_right (by decide) (Nat.not_le.mp h)
    have hbound : 2^128 ≤ 10^39 := by decide
    rw [pow10, if_neg (Nat.not_lt.mpr (Nat.le_trans hbound hpow))]
    cases checks with
    | true => simp [Nat.not_le.mp h]
    | false => simp

theorem pow10_eq_zero_iff (checks : Bool) (n : ℕ) :
    pow10 checks n = some 0 ↔ checks = false ∧ 128 ≤ n := by
  have hdvd : 10^n%2^128 = 0 ↔ 128 ≤ n := by
    -- of the two factors of ten only the one counts
    have hsplit : 10^n = 2^n*5^n := by rw [← Nat.mul_pow]
    rw [← Nat.dvd_iff_mod_eq_zero, hsplit]
    constructor
    · intro h
      have hcoprime : Nat.Coprime (2^128) (5^n) := Nat.Coprime.pow 128 n (by decide)
      exact (Nat.pow_dvd_pow_iff_le_right (by decide)).mp (hcoprime.dvd_of_dvd_mul_right h)
    · exact fun h => Dvd.dvd.mul_right (pow_dvd_pow 2 h) _
  by_cases h : 10^n < 2^128
  · have hsmall : n < 128 := by
      by_contra hn
      have hle := Nat.pow_le_pow_right (show 0 < 10 by decide) (Nat.not_lt.mp hn)
      have hbound : 2^128 ≤ 10^128 := by decide
      omega
    rw [pow10, if_pos h, Option.some.injEq]
    exact iff_of_false (pow10_pos n).ne' (fun hn => absurd hn.2 (Nat.not_le.mpr hsmall))
  · rw [pow10, if_neg h]
    cases checks with
    | true => simp
    | false =>
      rw [if_neg Bool.false_ne_true, Option.some.injEq, hdvd]
      exact (and_iff_right rfl).symm

theorem convertToBalance_eq_none_iff (checks : Bool) (value : U256) (e l : UInt8) :
    convertToBalance checks value e l = none ↔ panicLimit checks < scale e l := by
  have hcases : convertToBalance checks value e l = none ↔
      pow10 checks (scale e l) = none ∨ pow10 checks (scale e l) = some 0 := by
    unfold convertToBalance
    rcases pow10 checks (scale e l) with _ | factor
    · simp
    · by_cases hzero : factor = 0
      · simp [hzero]
      · simp [hzero]
  rw [hcases, pow10_eq_none_iff, pow10_eq_zero_iff]
  cases checks with
  | true => simp [panicLimit]
  | false =>
    simp only [panicLimit, Bool.false_eq_true, false_and, false_or, true_and, if_false]
    omega

theorem convertToBalance_some_iff (checks : Bool) (value : U256) (e l : UInt8) (amount : U128) :
    convertToBalance checks value e l = some (some amount) ↔
      ∃ factor, pow10 checks (scale e l) = some factor ∧ factor ≠ 0 ∧
        value.val/factor = amount.val := by
  unfold convertToBalance
  rcases pow10 checks (scale e l) with _ | factor
  · simp
  · by_cases hzero : factor = 0
    · simp [hzero]
    · change (if factor = 0 then none
        else some (parseU128 (Nat.toDigits 10 (value.val/factor)))) = some (some amount) ↔ _
      rw [if_neg hzero, parseU128_toDigits, Option.some.injEq]
      constructor
      · intro h
        refine ⟨factor, rfl, hzero, ?_⟩
        split at h
        · cases Option.some.inj h
          rfl
        · cases h
      · rintro ⟨_, hfactor, -, h⟩
        cases hfactor
        have hfit : value.val/factor < 2^128 := by
          rw [h]
          exact amount.isLt
        rw [dif_pos hfit]
        exact congrArg some (Fin.ext h)

theorem localAmount_iff_converts (assetId : I) (chain : C) (value : U256) (s t : Storage A C I Λ)
    (amount : U128) :
    localAmount T assetId chain value s = (.ok amount, t) ↔
      t = s ∧ Converts T s assetId chain value amount := by
  simp only [localAmount_ok_iff, convertToBalance_some_iff, Converts, exists_and_left]

theorem localAmount_panic_iff (assetId : I) (chain : C) (value : U256) (s t : Storage A C I Λ) :
    localAmount T assetId chain value s = (.error .panic, t) ↔ t = s ∧
      ∃ e, s.registry.precisions.get (assetId, chain) = some e ∧
        panicLimit T.overflowChecks < scale e (localDecimals T s.runtime assetId) := by
  unfold localAmount
  simp only [Dispatch.bind_error_iff, Dispatch.read_ne_error, Dispatch.read_ok_iff,
    Dispatch.okOr_error_iff, Dispatch.okOr_ok_iff, convertToBalance_eq_none_iff, reduceCtorEq,
    false_and, and_false, exists_false, false_or, or_false, true_and]
  constructor
  · rintro ⟨_, _, ⟨rfl, rfl⟩, e, _, ⟨he, rfl⟩, hscale, rfl⟩
    exact ⟨rfl, e, he, hscale⟩
  · rintro ⟨rfl, e, he, hscale⟩
    exact ⟨_, _, ⟨rfl, rfl⟩, e, _, ⟨he, rfl⟩, hscale, rfl⟩

theorem acceptCredit_ok_iff (request : PostRequest C) (s t : Storage A C I Λ) (message : Message)
    (credit : Credit I) :
    acceptCredit T request s = (.ok (message, credit), t) ↔
      t = s ∧ Credits T s request message credit := by
  unfold acceptCredit
  simp only [Dispatch.bind_ok_iff, Dispatch.read_ok_iff, Dispatch.okOr_ok_iff,
    Dispatch.pure_ok_iff, localAmount_iff_converts, Prod.mk.injEq]
  constructor
  · rintro ⟨_, _, ⟨rfl, rfl⟩, assetId, _, ⟨hasset, rfl⟩, _, _, ⟨hdecode, rfl⟩, account, _,
      ⟨haccount, rfl⟩, amount, _, ⟨rfl, hamount⟩, ⟨rfl, rfl⟩, rfl⟩
    exact ⟨rfl, hasset, hdecode, haccount, hamount⟩
  · rintro ⟨rfl, hasset, hdecode, haccount, hamount⟩
    exact ⟨_, _, ⟨rfl, rfl⟩, _, _, ⟨hasset, rfl⟩, _, _, ⟨hdecode, rfl⟩, _, _, ⟨haccount, rfl⟩,
      _, _, ⟨rfl, hamount⟩, ⟨rfl, rfl⟩, rfl⟩

theorem timeoutCredit_iff_refunds (request : PostRequest C) (s t : Storage A C I Λ)
    (credit : Credit I) :
    timeoutCredit T request s = (.ok credit, t) ↔
      t = s ∧ ∃ message, Refunds T s request message credit := by
  rw [timeoutCredit_ok_iff]
  constructor
  · rintro ⟨rfl, message, hdecode, haccount, hasset, hamount⟩
    exact ⟨rfl, message, hasset, hdecode, haccount,
      ((localAmount_iff_converts T _ _ _ _ _ _).mp hamount).2⟩
  · rintro ⟨rfl, message, hasset, hdecode, haccount, hamount⟩
    exact ⟨rfl, message, hdecode, haccount, hasset,
      (localAmount_iff_converts T _ _ _ _ _ _).mpr ⟨rfl, hamount⟩⟩

theorem Credits.found (s : Storage A C I Λ) (request : PostRequest C) (message : Message)
    (credit : Credit I) (h : Credits T s request message credit) :
    (message, credit) ∈ (acceptCredit T request s).1.toOption := by
  rw [(acceptCredit_ok_iff T request s s message credit).mpr ⟨rfl, h⟩]
  rfl

theorem Refunds.found (s : Storage A C I Λ) (request : PostRequest C) (message : Message)
    (credit : Credit I) (h : Refunds T s request message credit) :
    credit ∈ (timeoutCredit T request s).1.toOption := by
  rw [(timeoutCredit_iff_refunds T request s s credit).mpr ⟨rfl, message, h⟩]
  rfl

/-- The lookups of `on_accept` panic when they come to a power of ten too far beyond `u128`. -/
theorem acceptCredit_panic_iff (request : PostRequest C) (s t : Storage A C I Λ) :
    acceptCredit T request s = (.error .panic, t) ↔ t = s ∧
      ∃ assetId message account e,
        s.registry.contractToAsset.get (request.source, request.fromModule) = some assetId ∧
        T.abiDecode request.body = some message ∧
        accountBytes message.recipient = some account ∧
        s.registry.precisions.get (assetId, request.source) = some e ∧
        panicLimit T.overflowChecks < scale e (localDecimals T s.runtime assetId) := by
  unfold acceptCredit
  simp only [Dispatch.bind_error_iff, Dispatch.read_ne_error, Dispatch.read_ok_iff,
    Dispatch.okOr_error_iff, Dispatch.okOr_ok_iff, localAmount_panic_iff, Dispatch.pure_ne_error,
    reduceCtorEq, false_and, and_false, exists_false, false_or, or_false]
  constructor
  · rintro ⟨_, _, ⟨rfl, rfl⟩, assetId, _, ⟨hasset, rfl⟩, message, _, ⟨hdecode, rfl⟩, account, _,
      ⟨haccount, rfl⟩, rfl, e, he, hscale⟩
    exact ⟨rfl, assetId, message, account, e, hasset, hdecode, haccount, he, hscale⟩
  · rintro ⟨rfl, assetId, message, account, e, hasset, hdecode, haccount, he, hscale⟩
    exact ⟨_, _, ⟨rfl, rfl⟩, assetId, _, ⟨hasset, rfl⟩, message, _, ⟨hdecode, rfl⟩, account, _,
      ⟨haccount, rfl⟩, rfl, e, he, hscale⟩

theorem timeoutCredit_panic_iff (request : PostRequest C) (s t : Storage A C I Λ) :
    timeoutCredit T request s = (.error .panic, t) ↔ t = s ∧
      ∃ assetId message account e,
        s.registry.contractToAsset.get (request.dest, request.toModule) = some assetId ∧
        T.abiDecode request.body = some message ∧
        accountBytes message.sender = some account ∧
        s.registry.precisions.get (assetId, request.dest) = some e ∧
        panicLimit T.overflowChecks < scale e (localDecimals T s.runtime assetId) := by
  unfold timeoutCredit
  simp only [Dispatch.bind_error_iff, Dispatch.read_ne_error, Dispatch.read_ok_iff,
    Dispatch.okOr_error_iff, Dispatch.okOr_ok_iff, localAmount_panic_iff, Dispatch.pure_ne_error,
    reduceCtorEq, false_and, and_false, exists_false, false_or, or_false]
  constructor
  · rintro ⟨message, _, ⟨hdecode, rfl⟩, account, _, ⟨haccount, rfl⟩, _, _, ⟨rfl, rfl⟩, assetId, _,
      ⟨hasset, rfl⟩, rfl, e, he, hscale⟩
    exact ⟨rfl, assetId, message, account, e, hasset, hdecode, haccount, he, hscale⟩
  · rintro ⟨rfl, assetId, message, account, e, hasset, hdecode, haccount, he, hscale⟩
    exact ⟨message, _, ⟨hdecode, rfl⟩, account, _, ⟨haccount, rfl⟩, _, _, ⟨rfl, rfl⟩, assetId, _,
      ⟨hasset, rfl⟩, rfl, e, he, hscale⟩

theorem payOut_eq_onRuntime (assetId : I) (beneficiary : A) (amount : U128)
    (s : Storage A C I Λ) :
    ∃ e, (e = .module .transferFailed ∨ e = .module .mintFailed) ∧
      payOut T assetId beneficiary amount s =
        onRuntime (payment T s.registry assetId beneficiary amount.val) e s := by
  by_cases hnative : assetId = T.nativeAssetId
  · refine ⟨_, Or.inl rfl, ?_⟩
    have hpay : payment T s.registry assetId beneficiary amount.val =
        T.nativeCurrency.transfer T.palletAccount beneficiary amount.val .allowDeath := by
      funext L
      exact if_pos hnative
    rw [payOut, if_pos hnative, hpay]
  · by_cases hflag : s.registry.nativeAssets.getD assetId false = true
    · refine ⟨_, Or.inl rfl, ?_⟩
      have hpay : payment T s.registry assetId beneficiary amount.val =
          T.assets.transfer assetId T.palletAccount beneficiary amount.val .expendable := by
        funext L
        rw [payment, if_neg hnative, if_pos hflag]
      rw [payOut, if_neg hnative, hpay]
      simp [bind, Dispatch.read, hflag]
    · refine ⟨_, Or.inr rfl, ?_⟩
      have hpay : payment T s.registry assetId beneficiary amount.val =
          T.assets.mintInto assetId beneficiary amount.val := by
        funext L
        rw [payment, if_neg hnative, if_neg hflag]
      rw [payOut, if_neg hnative, hpay]
      simp [bind, Dispatch.read, hflag]

theorem payOut_ok_iff (assetId : I) (beneficiary : A) (amount : U128) (s t : Storage A C I Λ) :
    payOut T assetId beneficiary amount s = (.ok (), t) ↔
      ∃ L, payment T s.registry assetId beneficiary amount.val s.runtime = some L ∧
        t = { s with runtime := L } := by
  obtain ⟨e, -, heq⟩ := payOut_eq_onRuntime T assetId beneficiary amount s
  rw [heq, onRuntime_ok_iff]

theorem payment_of_payOut (assetId : I) (beneficiary : A) (amount : U128) (s : Storage A C I Λ)
    (L : Λ) (h : payOut T assetId beneficiary amount s = (.ok (), { s with runtime := L })) :
    payment T s.registry assetId beneficiary amount.val s.runtime = some L := by
  obtain ⟨M, hM, heq⟩ := (payOut_ok_iff T assetId beneficiary amount s _).mp h
  obtain rfl : L = M := congrArg Storage.runtime heq
  exact hM

theorem payOut_of_refused (assetId : I) (beneficiary : A) (amount : U128) (s : Storage A C I Λ)
    (h : payment T s.registry assetId beneficiary amount.val s.runtime = none) :
    ∃ e, payOut T assetId beneficiary amount s = (.error e, s) := by
  rcases hpay : payOut T assetId beneficiary amount s with ⟨e | done, t⟩
  · exact ⟨e, by rw [payOut_error T _ _ _ _ _ _ hpay]⟩
  · obtain ⟨L, hL, -⟩ := (payOut_ok_iff T _ _ _ _ _).mp hpay
    rw [h] at hL
    cases hL

theorem payOut_ne_panic (assetId : I) (beneficiary : A) (amount : U128) (s t : Storage A C I Λ) :
    payOut T assetId beneficiary amount s ≠ (.error .panic, t) := by
  intro h
  obtain ⟨e, he, heq⟩ := payOut_eq_onRuntime T assetId beneficiary amount s
  rw [heq] at h
  have hpanic := onRuntime_error_eq _ _ _ _ _ h
  rcases he with rfl | rfl
  · cases hpanic
  · cases hpanic

/-! `on_accept`, as far as its payment. -/

theorem onAccept_of_credit (request : PostRequest C) (s : Storage A C I Λ) (message : Message)
    (credit : Credit I) (hcredits : Credits T s request message credit) :
    onAccept T request s =
      (payOut T credit.assetId (T.fromBytes credit.account) credit.amount >>= fun _ =>
        Dispatch.when (message.data ≠ []) (processCalldata T request.source message credit.account)
          >>= fun _ => depositEvent
            (.tokenReceived (T.fromBytes credit.account) credit.amount request.source)) s :=
  Dispatch.bind_of_ok _ _ s s (message, credit)
    ((acceptCredit_ok_iff T request s s message credit).mpr ⟨rfl, hcredits⟩)

/-- A message whose lookups fail changes nothing. -/
theorem onAccept_of_no_credit (request : PostRequest C) (s : Storage A C I Λ)
    (hnone : ∀ message credit, ¬ Credits T s request message credit) :
    ∃ e, onAccept T request s = (.error e, s) := by
  rcases hcredit : acceptCredit T request s with ⟨e | ⟨message, credit⟩, t⟩
  · have ht := (acceptCredit_readOnly T request).storage hcredit
    subst ht
    exact ⟨e, Dispatch.bind_of_error _ _ t t e hcredit⟩
  · exact absurd ((acceptCredit_ok_iff T request s t message credit).mp hcredit).2
      (hnone message credit)

/-- Nor does one whose payment is refused. -/
theorem onAccept_of_unpaid (request : PostRequest C) (s : Storage A C I Λ)
    (hnone : ∀ message credit, Credits T s request message credit →
      payment T s.registry credit.assetId (T.fromBytes credit.account) credit.amount.val
        s.runtime = none) : ∃ e, onAccept T request s = (.error e, s) := by
  by_cases hsome : ∃ message credit, Credits T s request message credit
  · obtain ⟨message, credit, hcredits⟩ := hsome
    obtain ⟨e, hrefused⟩ := payOut_of_refused T _ _ _ _ (hnone message credit hcredits)
    refine ⟨e, ?_⟩
    rw [onAccept_of_credit T request s message credit hcredits]
    exact Dispatch.bind_of_error _ _ _ _ e hrefused
  · refine onAccept_of_no_credit T request s (fun message credit hcredits => ?_)
    exact hsome ⟨message, credit, hcredits⟩

/-- Once the credit is paid, what is left is the calldata, if there is any. -/
theorem onAccept_of_paid (request : PostRequest C) (s : Storage A C I Λ) (message : Message)
    (credit : Credit I) (L : Λ) (hcredits : Credits T s request message credit)
    (hL : payment T s.registry credit.assetId (T.fromBytes credit.account) credit.amount.val
      s.runtime = some L) :
    onAccept T request s =
      (Dispatch.when (message.data ≠ []) (processCalldata T request.source message credit.account)
        >>= fun _ => depositEvent
          (.tokenReceived (T.fromBytes credit.account) credit.amount request.source))
        { s with runtime := L } := by
  have hpaid := (payOut_ok_iff T _ _ _ _ _).mpr ⟨L, hL, rfl⟩
  rw [onAccept_of_credit T request s message credit hcredits]
  exact Dispatch.bind_of_ok _ _ _ _ _ hpaid

/-! The calldata. -/

theorem checkSignature_ok_iff (account : Bytes32) (runtimeCall : Bytes)
    (signature : MultiSignature) (s t : Storage A C I Λ) (u : Unit) :
    checkSignature T account runtimeCall signature s = (.ok u, t) ↔ t = s ∧
      Verifies T signature account
        (T.encodePayload (T.accountNonce s.runtime (T.fromBytes account)) runtimeCall) := by
  constructor
  · intro h
    have ht := (checkSignature_readOnly T account runtimeCall signature).storage h
    exact ⟨ht, checkSignature_ok T account runtimeCall signature s t h⟩
  · rintro ⟨rfl, h⟩
    unfold checkSignature
    rw [Dispatch.bind_of_ok _ _ _ _ _ ((Dispatch.read_ok_iff _ _ _).mpr ⟨rfl, rfl⟩)]
    cases signature with
    | ed25519 sig => exact (Dispatch.ensure_ok_iff _ _ _ _ _).mpr ⟨h, rfl⟩
    | sr25519 sig => exact (Dispatch.ensure_ok_iff _ _ _ _ _).mpr ⟨h, rfl⟩
    | ecdsa sig =>
      obtain ⟨pubKey, hrecovered, haddress⟩ := h
      simp only [Dispatch.bind_ok_iff, Dispatch.okOr_ok_iff, Dispatch.ensure_ok_iff]
      exact ⟨pubKey, _, ⟨hrecovered, rfl⟩, haddress, rfl⟩
    | eth sig => exact h.elim

theorem checkSignature_ne_panic (account : Bytes32) (runtimeCall : Bytes)
    (signature : MultiSignature) (s t : Storage A C I Λ) :
    checkSignature T account runtimeCall signature s ≠ (.error .panic, t) := by
  intro h
  unfold checkSignature at h
  rw [Dispatch.bind_of_ok _ _ _ _ _ ((Dispatch.read_ok_iff _ _ _).mpr ⟨rfl, rfl⟩)] at h
  cases signature with
  | ed25519 sig => cases ((Dispatch.ensure_error_iff _ _ _ _ _).mp h).2.1
  | sr25519 sig => cases ((Dispatch.ensure_error_iff _ _ _ _ _).mp h).2.1
  | ecdsa sig =>
    simp only [Dispatch.bind_error_iff, Dispatch.okOr_error_iff, Dispatch.ensure_error_iff,
      reduceCtorEq, false_and, and_false, exists_false, or_false] at h
  | eth sig => cases h

theorem unsignedOrigin_ok_iff (source : C) (message : Message) (account : Bytes32)
    (data : SubstrateCalldata) (s t : Storage A C I Λ) (origin : A)
    (hunsigned : data.signature = none) :
    unsignedOrigin T source message.sender s = (.ok origin, t) ↔
      t = s ∧ RunsAs T s source message account data origin := by
  constructor
  · intro h
    unfold unsignedOrigin at h
    split_ifs at h with hevm hlength hlength
    · -- the address is the end of the sender, whatever stands before it
      obtain ⟨rfl, rfl⟩ := (Dispatch.pure_ok_iff _ _ _ _).mp h
      have hsender := List.take_append_drop (message.sender.length-20) message.sender
      exact ⟨rfl, .evm _ ⟨_, _⟩ hunsigned hevm hsender.symm⟩
    · cases h
    · obtain ⟨rfl, rfl⟩ := (Dispatch.pure_ok_iff _ _ _ _).mp h
      exact ⟨rfl, .substrate ⟨_, hlength⟩ hunsigned (Bool.eq_false_iff.mpr hevm) rfl⟩
    · cases h
  · rintro ⟨rfl, h⟩
    cases h with
    -- a signed call never gets here
    | signed bytes signature carried decoded verifies =>
      rw [hunsigned] at carried
      cases carried
    | evm front address unsigned evm sender =>
      have hlength : message.sender.length = front.length+20 := by
        rw [sender, List.length_append, address.property]
      have hdrop : message.sender.drop (message.sender.length-20) = address.val := by
        rw [hlength, Nat.add_sub_cancel, sender, List.drop_left]
      unfold unsignedOrigin
      simp only [evm, if_true, dif_pos (show 20 ≤ message.sender.length by omega), hdrop]
      rfl
    | substrate sender unsigned substrate carried =>
      have hlength : sender.val.length = 32 := sender.property
      unfold unsignedOrigin
      simp only [substrate, Bool.false_eq_true, if_false, carried, dif_pos hlength]
      rfl

theorem unsignedOrigin_panic_iff (source : C) (sender : Bytes) (s t : Storage A C I Λ) :
    unsignedOrigin T source sender s = (.error .panic, t) ↔
      t = s ∧ ¬ SenderFits T source sender := by
  unfold unsignedOrigin SenderFits
  split_ifs with hevm hlength hlength
  · simp [hlength]
  · simp [Dispatch.fail, hlength, eq_comm]
  · simp [hlength]
  · simp [Dispatch.fail, hlength, eq_comm]

theorem callOrigin_ok_iff (source : C) (message : Message) (account : Bytes32)
    (data : SubstrateCalldata) (s t : Storage A C I Λ) (origin : A) :
    callOrigin T source message account data s = (.ok origin, t) ↔
      t = s ∧ RunsAs T s source message account data origin := by
  rcases hsignature : data.signature with _ | bytes
  · have heq : callOrigin T source message account data =
        (unsignedOrigin T source message.sender : Pallet A C I Λ A) := by
      rw [callOrigin, hsignature]
    rw [heq]
    exact unsignedOrigin_ok_iff T source message account data s t origin hsignature
  · simp only [callOrigin, hsignature, Dispatch.bind_ok_iff, Dispatch.okOr_ok_iff,
      checkSignature_ok_iff, Dispatch.pure_ok_iff]
    constructor
    · rintro ⟨signature, _, ⟨hdecoded, rfl⟩, _, _, ⟨rfl, hverifies⟩, rfl, rfl⟩
      exact ⟨rfl, .signed bytes signature hsignature hdecoded hverifies⟩
    · rintro ⟨rfl, h⟩
      cases h with
      | signed carriedBytes signature carried decoded verifies =>
        rw [hsignature, Option.some.injEq] at carried
        subst carried
        exact ⟨signature, _, ⟨decoded, rfl⟩, (), _, ⟨rfl, verifies⟩, rfl, rfl⟩
      | evm front address unsigned evm sender =>
        rw [hsignature] at unsigned
        cases unsigned
      | substrate sender unsigned substrate carried =>
        rw [hsignature] at unsigned
        cases unsigned

theorem callOrigin_panic_iff (source : C) (message : Message) (account : Bytes32)
    (data : SubstrateCalldata) (s t : Storage A C I Λ) :
    callOrigin T source message account data s = (.error .panic, t) ↔
      t = s ∧ data.signature = none ∧ ¬ SenderFits T source message.sender := by
  rcases hsignature : data.signature with _ | bytes
  · simp only [callOrigin, hsignature, unsignedOrigin_panic_iff, true_and]
  · simp only [callOrigin, hsignature, Dispatch.bind_error_iff, Dispatch.okOr_error_iff,
      checkSignature_ne_panic, Dispatch.pure_ne_error, reduceCtorEq, false_and, and_false,
      exists_false, or_false]

/-- The calldata branch panics exactly on an unsigned call of a sender of the wrong length. -/
theorem processCalldata_panic_iff (source : C) (message : Message) (account : Bytes32)
    (s : Storage A C I Λ) :
    (∃ t, processCalldata T source message account s = (.error .panic, t)) ↔
      ∃ data, T.decodeCalldata message.data = some data ∧ data.signature = none ∧
        ¬ SenderFits T source message.sender := by
  unfold processCalldata
  simp only [Dispatch.bind_error_iff, Dispatch.okOr_error_iff, Dispatch.okOr_ok_iff,
    callOrigin_panic_iff, Dispatch.read_ne_error, Dispatch.write_ne_error, reduceCtorEq, false_and,
    and_false, exists_false, false_or, or_false]
  constructor
  · rintro ⟨_, data, _, ⟨hdata, rfl⟩, rfl, hunsigned, hsender⟩
    exact ⟨data, hdata, hunsigned, hsender⟩
  · rintro ⟨data, hdata, hunsigned, hsender⟩
    exact ⟨_, data, _, ⟨hdata, rfl⟩, rfl, hunsigned, hsender⟩

/-! Panics. -/

/-- The same program built with overflow checks: what overflows in it is a panic. -/
def Config.checked : Config A O C I K Λ := { T with overflowChecks := true }

/-- `on_accept` comes to no power of ten that does not fit, and no message that it pays makes
an unsigned call for a sender of the wrong length. -/
def AcceptsSafely (s : Storage A C I Λ) (request : PostRequest C) : Prop :=
  (∀ assetId message account e,
    s.registry.contractToAsset.get (request.source, request.fromModule) = some assetId →
    T.abiDecode request.body = some message → accountBytes message.recipient = some account →
    s.registry.precisions.get (assetId, request.source) = some e →
      scale e (localDecimals T s.runtime assetId) ≤ 38) ∧
  ∀ message credit L data, Credits T s request message credit →
    payment T s.registry credit.assetId (T.fromBytes credit.account) credit.amount.val s.runtime =
      some L →
    message.data ≠ [] → T.decodeCalldata message.data = some data → data.signature = none →
      SenderFits T request.source message.sender

/-- `on_timeout` comes to no power of ten that does not fit. -/
def TimesOutSafely (s : Storage A C I Λ) : Timeout C → Prop
  | .post request => ∀ assetId message account e,
    s.registry.contractToAsset.get (request.dest, request.toModule) = some assetId →
    T.abiDecode request.body = some message → accountBytes message.sender = some account →
    s.registry.precisions.get (assetId, request.dest) = some e →
      scale e (localDecimals T s.runtime assetId) ≤ 38
  | .get => True
  | .response => True

theorem onAccept_panic_iff (request : PostRequest C) (s : Storage A C I Λ) :
    (∃ t, onAccept T request s = (.error .panic, t)) ↔
      (∃ t, acceptCredit T request s = (.error .panic, t)) ∨
      ∃ message credit L, Credits T s request message credit ∧
        payment T s.registry credit.assetId (T.fromBytes credit.account) credit.amount.val
          s.runtime = some L ∧
        message.data ≠ [] ∧ ∃ t, processCalldata T request.source message credit.account
          { s with runtime := L } = (.error .panic, t) := by
  simp only [onAccept, Dispatch.bind_error_iff, depositEvent, Dispatch.write_ne_error,
    Dispatch.when_error_iff, payOut_ne_panic, and_false, exists_false, or_false, false_or]
  constructor
  · rintro ⟨t, hcredit | ⟨⟨message, credit⟩, _, hcredit, _, v, hpay, hdata, hcall⟩⟩
    · exact Or.inl ⟨t, hcredit⟩
    · obtain ⟨rfl, hcredits⟩ := (acceptCredit_ok_iff T request s _ message credit).mp hcredit
      obtain ⟨L, hL, rfl⟩ := (payOut_ok_iff T _ _ _ _ _).mp hpay
      exact Or.inr ⟨message, credit, L, hcredits, hL, hdata, t, hcall⟩
  · rintro (⟨t, hcredit⟩ | ⟨message, credit, L, hcredits, hL, hdata, t, hcall⟩)
    · exact ⟨t, Or.inl hcredit⟩
    · exact ⟨t, Or.inr ⟨(message, credit), s, (acceptCredit_ok_iff T _ _ _ _ _).mpr ⟨rfl, hcredits⟩,
        (), _, (payOut_ok_iff T _ _ _ _ _).mpr ⟨L, hL, rfl⟩, hdata, hcall⟩⟩

theorem onTimeout_panic_iff (request : PostRequest C) (s : Storage A C I Λ) :
    (∃ t, onTimeout T (.post request) s = (.error .panic, t)) ↔
      ∃ t, timeoutCredit T request s = (.error .panic, t) := by
  simp only [onTimeout, Dispatch.bind_error_iff, depositEvent, Dispatch.write_ne_error,
    payOut_ne_panic, and_false, exists_false, or_false]

/-- Both builds go on alike after a first part that they do alike. -/
theorem bind_same {α β : Type} (x y : Pallet A C I Λ α) (f : α → Pallet A C I Λ β)
    (s : Storage A C I Λ) (h : x s = y s) : (x >>= f) s = (y >>= f) s := by
  rcases hy : y s with ⟨e | a, t⟩
  · rw [Dispatch.bind_of_error y f s t e hy, Dispatch.bind_of_error x f s t e (h.trans hy)]
  · rw [Dispatch.bind_of_ok y f s t a hy, Dispatch.bind_of_ok x f s t a (h.trans hy)]

/-- Decimals close enough to the local ones are converted alike in both builds. -/
theorem localAmount_checked (assetId : I) (chain : C) (value : U256) (s : Storage A C I Λ)
    (h : ∀ e, s.registry.precisions.get (assetId, chain) = some e →
      scale e (localDecimals T s.runtime assetId) ≤ 38) :
    localAmount T assetId chain value s = localAmount T.checked assetId chain value s := by
  change (Dispatch.okOr (s.registry.precisions.get (assetId, chain)) _ >>= _) s =
    (Dispatch.okOr (s.registry.precisions.get (assetId, chain)) _ >>= _) s
  rcases he : s.registry.precisions.get (assetId, chain) with _ | e
  · rfl
  · have hscale := h e he
    have hconvert : convertToBalance T.overflowChecks value e (localDecimals T s.runtime assetId) =
        convertToBalance true value e (localDecimals T s.runtime assetId) := by
      rw [convertToBalance_eq _ value e _ hscale, convertToBalance_eq true value e _ hscale]
    exact bind_same _ _ _ s (congrArg (fun o => Dispatch.okOr o _ s) hconvert)

theorem acceptCredit_checked (request : PostRequest C) (s : Storage A C I Λ)
    (h : AcceptsSafely T.checked s request) :
    acceptCredit T request s = acceptCredit T.checked request s := by
  change (Dispatch.okOr (s.registry.contractToAsset.get (request.source, request.fromModule)) _ >>=
    _) s = (Dispatch.okOr (s.registry.contractToAsset.get (request.source, request.fromModule)) _ >>=
    _) s
  rcases hasset : s.registry.contractToAsset.get (request.source, request.fromModule) with _ | assetId
  · rfl
  change (Dispatch.okOr (T.abiDecode request.body) _ >>= _) s =
    (Dispatch.okOr (T.abiDecode request.body) _ >>= _) s
  rcases hdecode : T.abiDecode request.body with _ | message
  · rfl
  change (Dispatch.okOr (accountBytes message.recipient) _ >>= _) s =
    (Dispatch.okOr (accountBytes message.recipient) _ >>= _) s
  rcases haccount : accountBytes message.recipient with _ | account
  · rfl
  exact bind_same _ _ _ s (localAmount_checked T assetId request.source message.amount s
    (fun e he => h.1 assetId message account e hasset hdecode haccount he))

theorem timeoutCredit_checked (request : PostRequest C) (s : Storage A C I Λ)
    (h : TimesOutSafely T.checked s (.post request)) :
    timeoutCredit T request s = timeoutCredit T.checked request s := by
  change (Dispatch.okOr (T.abiDecode request.body) _ >>= _) s =
    (Dispatch.okOr (T.abiDecode request.body) _ >>= _) s
  rcases hdecode : T.abiDecode request.body with _ | message
  · rfl
  change (Dispatch.okOr (accountBytes message.sender) _ >>= _) s =
    (Dispatch.okOr (accountBytes message.sender) _ >>= _) s
  rcases haccount : accountBytes message.sender with _ | account
  · rfl
  change (Dispatch.okOr (s.registry.contractToAsset.get (request.dest, request.toModule)) _ >>=
    _) s = (Dispatch.okOr (s.registry.contractToAsset.get (request.dest, request.toModule)) _ >>=
    _) s
  rcases hasset : s.registry.contractToAsset.get (request.dest, request.toModule) with _ | assetId
  · rfl
  exact bind_same _ _ _ s (localAmount_checked T assetId request.dest message.amount s
    (fun e he => h assetId message account e hasset hdecode haccount he))

/-- With overflow checks neither callback panics exactly when the decimals of the registry are
close enough to the local ones, and no paid message makes an unsigned call for a sender of the
wrong length; and then the build without the checks does the same. -/
theorem callbacks_panic_free_iff (s : Storage A C I Λ) (request : PostRequest C)
    (timeout : Timeout C) :
    ((∀ t, onAccept T.checked request s ≠ (.error .panic, t)) ↔ AcceptsSafely T.checked s request) ∧
    ((∀ t, onTimeout T.checked timeout s ≠ (.error .panic, t)) ↔
      TimesOutSafely T.checked s timeout) ∧
    (AcceptsSafely T.checked s request → onAccept T request s = onAccept T.checked request s) ∧
    (TimesOutSafely T.checked s timeout →
      onTimeout T timeout s = onTimeout T.checked timeout s) := by
  have hlimit : panicLimit T.checked.overflowChecks = 38 := rfl
  refine ⟨?_, ?_, ?_, ?_⟩
  · rw [← not_exists, onAccept_panic_iff]
    simp only [acceptCredit_panic_iff, processCalldata_panic_iff, AcceptsSafely, hlimit]
    constructor
    · intro h
      obtain ⟨hpower, hsender⟩ := not_or.mp h
      refine ⟨?_, ?_⟩
      · intro assetId message account e hasset hdecode haccount he
        by_contra hscale
        exact hpower ⟨s, rfl, assetId, message, account, e, hasset, hdecode, haccount, he, by omega⟩
      · intro message credit L data hcredits hL hne hdata hunsigned
        by_contra hfits
        exact hsender ⟨message, credit, L, hcredits, hL, hne, data, hdata, hunsigned, hfits⟩
    · rintro ⟨hpower, hsender⟩
        (⟨_, -, assetId, message, account, e, hasset, hdecode, haccount, he, hscale⟩ |
          ⟨message, credit, L, hcredits, hL, hne, data, hdata, hunsigned, hfits⟩)
      · have hle := hpower assetId message account e hasset hdecode haccount he
        omega
      · exact hfits (hsender message credit L data hcredits hL hne hdata hunsigned)
  · cases timeout with
    | get => exact iff_of_true (fun t h => by cases h) trivial
    | response => exact iff_of_true (fun t h => by cases h) trivial
    | post request =>
      rw [← not_exists, onTimeout_panic_iff]
      simp only [timeoutCredit_panic_iff, TimesOutSafely, hlimit]
      constructor
      · intro h assetId message account e hasset hdecode haccount he
        by_contra hscale
        exact h ⟨s, rfl, assetId, message, account, e, hasset, hdecode, haccount, he, by omega⟩
      · rintro h ⟨_, -, assetId, message, account, e, hasset, hdecode, haccount, he, hscale⟩
        have hle := h assetId message account e hasset hdecode haccount he
        omega
  · exact fun h => bind_same _ _ _ s (acceptCredit_checked T request s h)
  · intro h
    cases timeout with
    | get => rfl
    | response => rfl
    | post request => exact bind_same _ _ _ s (timeoutCredit_checked T request s h)

namespace Mock

/-- The native currency has twelve decimals here and is registered with far more there. -/
def distant (decimals : UInt8) : Storage Bytes32 ℕ ℕ Runtime :=
  registryStep config (emptyStorage (Ledger.endowed [(palletAccount, 1000000000000000)]))
    (.registerToken .root ⟨0, true, oneChain 1 remoteContract decimals⟩)

/-- The same runtime as it is released. -/
def unchecked : Config Bytes32 (RawOrigin Bytes32) ℕ ℕ Empty Runtime :=
  { config with overflowChecks := false }

/-- The test runtime with the decoding of the calldata of one unsigned remark. -/
def unsignedConfig : Config Bytes32 (RawOrigin Bytes32) ℕ ℕ Empty Runtime :=
  { config with
    decodeCalldata := fun b => if b = [0, 12, 0, 0, 0] then some ⟨none, remark⟩ else none }

/-- Five units with the unsigned remark, from a sender of three bytes. -/
def shortSender : PostRequest ℕ where
  source := 1
  dest := 2
  fromModule := remoteContract
  toModule := config.palletId
  body := abiEncode ⟨[1, 2, 3], beneficiary.val, 5000000000000000000, [0, 12, 0, 0, 0]⟩

end Mock

/-- A power of ten beyond `u128` takes both callbacks down, and a short sender `on_accept`. Where
the power is not checked, it divides by zero if it is large enough. -/
theorem callbacks_panic :
    (onAccept Mock.config (Mock.incoming 1) (Mock.distant 60)).1 = .error .panic ∧
    (onTimeout Mock.config (.post (Mock.returned 1)) (Mock.distant 60)).1 = .error .panic ∧
    (onAccept Mock.unchecked (Mock.incoming 1) (Mock.distant 140)).1 = .error .panic ∧
    (onAccept Mock.unsignedConfig Mock.shortSender (Mock.funded 10000000000000)).1 =
      .error .panic := by
  decide +kernel

/-! Rejections after the payment. -/

/-- The balances and the supplies of the assets pallet. -/
structure AssetsView (A I Λ : Type) where
  balance : Λ → I → A → ℕ
  supply : Λ → I → ℕ

/-- Every balance, every supply and every nonce is the same. -/
structure SameFunds (view : AssetsView A I Λ) (L M : Λ) : Prop where
  native : ∀ a, T.nativeCurrency.freeBalance M a = T.nativeCurrency.freeBalance L a
  reserved : ∀ a, T.nativeCurrency.reservedBalance M a = T.nativeCurrency.reservedBalance L a
  asset : ∀ i a, view.balance M i a = view.balance L i a
  supply : ∀ i, view.supply M i = view.supply L i
  nonce : ∀ a, T.accountNonce M a = T.accountNonce L a

/-- A payment of nothing, or of custody to itself, changes nothing; any other transfer adds to
the balance of the beneficiary, and minting adds to the supply. -/
structure PaymentLaws (view : AssetsView A I Λ) : Prop where
  native_still : ∀ dst n L M,
    T.nativeCurrency.transfer T.palletAccount dst n .allowDeath L = some M →
    n = 0 ∨ dst = T.palletAccount → SameFunds T view L M
  native_moves : ∀ dst n L M,
    T.nativeCurrency.transfer T.palletAccount dst n .allowDeath L = some M →
    n ≠ 0 → dst ≠ T.palletAccount →
      T.nativeCurrency.freeBalance M dst = T.nativeCurrency.freeBalance L dst+n
  asset_still : ∀ i dst n L M,
    T.assets.transfer i T.palletAccount dst n .expendable L = some M →
    n = 0 ∨ dst = T.palletAccount → SameFunds T view L M
  asset_moves : ∀ i dst n L M,
    T.assets.transfer i T.palletAccount dst n .expendable L = some M →
    n ≠ 0 → dst ≠ T.palletAccount → view.balance M i dst = view.balance L i dst+n
  mint_still : ∀ i who L M, T.assets.mintInto i who 0 L = some M → SameFunds T view L M
  mint_moves : ∀ i who n L M, T.assets.mintInto i who n L = some M →
    view.supply M i = view.supply L i+n

/-- The payment is of something, and it is minted or goes to somebody else than custody. -/
def Moves (r : Registry C I) (assetId : I) (beneficiary : A) (amount : ℕ) : Prop :=
  amount ≠ 0 ∧ (assetId = T.nativeAssetId ∨ r.nativeAssets.getD assetId false = true →
    beneficiary ≠ T.palletAccount)

/-- The lookups of `request` succeed and the token pallets take a payment that moves something,
but the calldata is then refused. -/
def PaysThenRefuses (s : Storage A C I Λ) (request : PostRequest C) : Prop :=
  ∃ message credit L, Credits T s request message credit ∧
    payment T s.registry credit.assetId (T.fromBytes credit.account) credit.amount.val s.runtime =
      some L ∧
    Moves T s.registry credit.assetId (T.fromBytes credit.account) credit.amount.val ∧
    message.data ≠ [] ∧
    Refused T { s with runtime := L } request.source message credit.account

theorem SameFunds.refl (view : AssetsView A I Λ) (L : Λ) : SameFunds T view L L :=
  ⟨fun _ => rfl, fun _ => rfl, fun _ _ => rfl, fun _ => rfl, fun _ => rfl⟩

/-- A payment shows in the balances or in the supplies exactly when it moves something. -/
theorem payment_sameFunds_iff {view : AssetsView A I Λ} (laws : PaymentLaws T view)
    (r : Registry C I) (assetId : I) (beneficiary : A) (amount : ℕ) (L M : Λ)
    (h : payment T r assetId beneficiary amount L = some M) :
    SameFunds T view L M ↔ ¬ Moves T r assetId beneficiary amount := by
  unfold payment at h
  unfold Moves
  split_ifs at h with hnative hflag
  · simp only [hnative, true_or, true_imp_iff, not_and_or, not_not]
    constructor
    · intro hsame
      by_contra hne
      obtain ⟨hzero, hself⟩ := not_or.mp hne
      have hdst := laws.native_moves beneficiary amount L M h hzero hself
      have hkept := hsame.native beneficiary
      omega
    · exact laws.native_still beneficiary amount L M h
  · simp only [hflag, or_true, true_imp_iff, not_and_or, not_not]
    constructor
    · intro hsame
      by_contra hne
      obtain ⟨hzero, hself⟩ := not_or.mp hne
      have hdst := laws.asset_moves assetId beneficiary amount L M h hzero hself
      have hkept := hsame.asset assetId beneficiary
      omega
    · exact laws.asset_still assetId beneficiary amount L M h
  -- minting adds to the supply, whoever it is for
  · have hneither : ¬ (assetId = T.nativeAssetId ∨ r.nativeAssets.getD assetId false = true) :=
      not_or.mpr ⟨hnative, hflag⟩
    simp only [hneither, false_imp_iff, and_true, not_not]
    have hsupply := laws.mint_moves assetId beneficiary amount L M h
    constructor
    · intro hsame
      have hkept := hsame.supply assetId
      omega
    · intro hzero
      rw [hzero] at h
      exact laws.mint_still assetId beneficiary L M h

/-- A call origin is refused without a panic exactly over the signature. -/
theorem callOrigin_refused_iff (source : C) (message : Message) (account : Bytes32)
    (data : SubstrateCalldata) (s : Storage A C I Λ) :
    (∃ e t, e ≠ .panic ∧ callOrigin T source message account data s = (.error e, t)) ↔
      ∃ bytes, data.signature = some bytes ∧ (T.decodeSignature bytes = none ∨
        ∃ signature, T.decodeSignature bytes = some signature ∧
          ¬ Verifies T signature account
            (T.encodePayload (T.accountNonce s.runtime (T.fromBytes account)) data.runtimeCall)) := by
  rcases hsignature : data.signature with _ | bytes
  · have heq : callOrigin T source message account data =
        (unsignedOrigin T source message.sender : Pallet A C I Λ A) := by
      rw [callOrigin, hsignature]
    rw [heq]
    apply iff_of_false
    · rintro ⟨e, t, hpanic, h⟩
      unfold unsignedOrigin at h
      split_ifs at h
      · cases h
      · exact hpanic (Except.error.inj (Prod.mk.inj h).1).symm
      · cases h
      · exact hpanic (Except.error.inj (Prod.mk.inj h).1).symm
    · rintro ⟨bytes, hbytes, -⟩
      cases hbytes
  · simp only [callOrigin, hsignature, Dispatch.bind_error_iff, Dispatch.okOr_error_iff,
      Dispatch.okOr_ok_iff, Dispatch.pure_ne_error, and_false, exists_false, or_false,
      Option.some.injEq, exists_eq_left']
    constructor
    · rintro ⟨e, t, -, ⟨hundecodable, -, -⟩ | ⟨signature, _, ⟨hdecoded, rfl⟩, hcheck⟩⟩
      · exact Or.inl hundecodable
      · refine Or.inr ⟨signature, hdecoded, fun hverifies => ?_⟩
        have hok := (checkSignature_ok_iff T account data.runtimeCall signature _ _ ()).mpr
          ⟨rfl, hverifies⟩
        rw [hok] at hcheck
        cases hcheck
    · rintro (hundecodable | ⟨signature, hdecoded, hunverified⟩)
      · exact ⟨_, s, by simp, Or.inl ⟨hundecodable, rfl, rfl⟩⟩
      · rcases hcheck : checkSignature T account data.runtimeCall signature s with ⟨e | u, t⟩
        · have hpanic := checkSignature_ne_panic T account data.runtimeCall signature s t
          refine ⟨e, t, fun he => hpanic (he ▸ hcheck), Or.inr ⟨signature, s, ⟨hdecoded, rfl⟩, hcheck⟩⟩
        · exact absurd ((checkSignature_ok_iff T _ _ _ _ _ _).mp hcheck).2 hunverified

/-- The calldata branch returns an error exactly on the listed grounds. -/
theorem processCalldata_refused_iff (source : C) (message : Message) (account : Bytes32)
    (s : Storage A C I Λ) :
    (∃ e t, e ≠ .panic ∧ processCalldata T source message account s = (.error e, t)) ↔
      Refused T s source message account := by
  unfold processCalldata
  simp only [Dispatch.bind_error_iff, Dispatch.okOr_error_iff, Dispatch.okOr_ok_iff,
    Dispatch.read_ne_error, Dispatch.read_ok_iff, Dispatch.write_ne_error, and_false, exists_false,
    or_false, false_or]
  constructor
  · rintro ⟨e, t, hpanic, ⟨hcalldata, -⟩ | ⟨data, _, ⟨hdata, rfl⟩, horigin | ⟨origin, u, horigin,
      hcall⟩⟩⟩
    · exact .calldata hcalldata
    · obtain ⟨bytes, hcarried, hundecodable | ⟨signature, hdecoded, hunverified⟩⟩ :=
        (callOrigin_refused_iff T source message account data _).mp ⟨e, t, hpanic, horigin⟩
      · exact .signature data bytes hdata hcarried hundecodable
      · exact .verification data bytes signature hdata hcarried hdecoded hunverified
    · obtain ⟨rfl, hruns⟩ := (callOrigin_ok_iff T _ _ _ _ _ _ _).mp horigin
      obtain ⟨hundecodable, -⟩ | ⟨call, _, ⟨hdecoded, rfl⟩, _, _, ⟨rfl, rfl⟩, hfailed, -⟩ := hcall
      · exact .call data origin hdata hruns hundecodable
      · exact .dispatch data origin call hdata hruns hdecoded hfailed
  · intro h
    cases h with
    | calldata undecodable => exact ⟨_, s, by simp, Or.inl ⟨undecodable, rfl, rfl⟩⟩
    | signature data bytes calldata carried undecodable =>
      obtain ⟨e, t, hpanic, horigin⟩ := (callOrigin_refused_iff T source message account data s).mpr
        ⟨bytes, carried, Or.inl undecodable⟩
      exact ⟨e, t, hpanic, Or.inr ⟨data, s, ⟨calldata, rfl⟩, Or.inl horigin⟩⟩
    | verification data bytes signature calldata carried decoded unverified =>
      obtain ⟨e, t, hpanic, horigin⟩ := (callOrigin_refused_iff T source message account data s).mpr
        ⟨bytes, carried, Or.inr ⟨signature, decoded, unverified⟩⟩
      exact ⟨e, t, hpanic, Or.inr ⟨data, s, ⟨calldata, rfl⟩, Or.inl horigin⟩⟩
    | call data origin calldata runsAs undecodable =>
      have horigin := (callOrigin_ok_iff T source message account data s s origin).mpr ⟨rfl, runsAs⟩
      exact ⟨_, s, by simp, Or.inr ⟨data, s, ⟨calldata, rfl⟩, Or.inr ⟨origin, s, horigin,
        Or.inl ⟨undecodable, rfl, rfl⟩⟩⟩⟩
    | dispatch data origin call calldata runsAs decoded failed =>
      have horigin := (callOrigin_ok_iff T source message account data s s origin).mpr ⟨rfl, runsAs⟩
      exact ⟨_, s, by simp, Or.inr ⟨data, s, ⟨calldata, rfl⟩, Or.inr ⟨origin, s, horigin,
        Or.inr ⟨call, s, ⟨decoded, rfl⟩, s, s, ⟨rfl, rfl⟩, failed, rfl, rfl⟩⟩⟩⟩

/-- An error of `on_accept` leaves all funds as they were exactly when it is not one that comes
after a payment. -/
theorem rejection_pays_nobody_iff {view : AssetsView A I Λ} (laws : PaymentLaws T view)
    (request : PostRequest C) (s : Storage A C I Λ) :
    (∀ e t, onAccept T request s = (.error e, t) → e ≠ .panic →
      SameFunds T view s.runtime t.runtime) ↔ ¬ PaysThenRefuses T s request := by
  constructor
  · rintro hsame ⟨message, credit, L, hcredits, hL, hmoves, hdata, hrefused⟩
    obtain ⟨e, u, hpanic, hcall⟩ := (processCalldata_refused_iff T _ _ _ _).mpr hrefused
    have hu := processCalldata_error T _ _ _ _ _ _ hcall
    have haccept : onAccept T request s = (.error e, u) := by
      simp only [onAccept, Dispatch.bind_error_iff, Dispatch.when_error_iff]
      exact Or.inr ⟨(message, credit), s, (acceptCredit_ok_iff T _ _ _ _ _).mpr ⟨rfl, hcredits⟩,
        Or.inr ⟨(), _, (payOut_ok_iff T _ _ _ _ _).mpr ⟨L, hL, rfl⟩, Or.inl ⟨hdata, hcall⟩⟩⟩
    have hkept := hsame e u haccept hpanic
    rw [hu] at hkept
    exact (payment_sameFunds_iff T laws _ _ _ _ _ _ hL).mp hkept hmoves
  · intro hnot e t haccept hpanic
    obtain ⟨rfl, -⟩ | ⟨message, credit, L, hcredit, hpay, hrest⟩ :=
      onAccept_outcome T request s t _ haccept
    · exact SameFunds.refl T view _
    · obtain ⟨-, hok, -⟩ | ⟨hdata, v, hcall, -, hruntime, -⟩ := hrest
      · cases hok
      · -- the error came after the payment, so the payment moved nothing
        obtain ⟨-, hcredits⟩ := (acceptCredit_ok_iff T request s s message credit).mp hcredit
        have hM := payment_of_payOut T _ _ _ _ _ hpay
        have hv := processCalldata_error T _ _ _ _ _ _ hcall
        rw [hruntime, hv, payment_sameFunds_iff T laws _ _ _ _ _ _ hM]
        intro hmoves
        exact hnot ⟨message, credit, L, hcredits, hM, hmoves, hdata,
          (processCalldata_refused_iff T _ _ _ _).mp ⟨e, v, hpanic, hcall⟩⟩

/-- The test runtime has no assets and counts no nonces. -/
theorem mock_paymentLaws : PaymentLaws Mock.config ⟨fun _ _ _ => 0, fun _ _ => 0⟩ where
  native_still dst n L M h hstill := by
    have hcase : n = 0 ∨ Mock.palletAccount = dst := hstill.imp_right Eq.symm
    simp only [Mock.config, Ledger.currency, if_pos hcase, Option.some.injEq] at h
    rw [h]
    exact SameFunds.refl _ _ _
  native_moves dst n L M h hn hdst :=
    (Ledger.currency_exactTransfers 1000000000).dst _ _ _ _ _ _ h hn (Ne.symm hdst)
  asset_still _ _ _ _ _ h := by cases h
  asset_moves _ _ _ _ _ h := by cases h
  mint_still _ _ _ _ h := by cases h
  mint_moves _ _ _ _ _ h := by cases h

/-- Custody is empty, so the transfer is refused before anything happens. -/
theorem rejection_pays_nobody_unfunded :
    (onAccept Mock.config (Mock.incoming 5000000000000000000) (Mock.funded 0)).1 =
      .error (.module .transferFailed) ∧
    ∀ e t, onAccept Mock.config (Mock.incoming 5000000000000000000) (Mock.funded 0) =
      (.error e, t) → e ≠ .panic →
        SameFunds Mock.config ⟨fun _ _ _ => 0, fun _ _ => 0⟩ (Mock.funded 0).runtime t.runtime := by
  refine ⟨by decide +kernel, ?_⟩
  apply (rejection_pays_nobody_iff Mock.config mock_paymentLaws
    (Mock.incoming 5000000000000000000) (Mock.funded 0)).mpr
  rintro ⟨message, credit, L, hcredits, -, -, hdata, -⟩
  -- the message carries no calldata
  have hdecode : Mock.config.abiDecode (Mock.incoming 5000000000000000000).body =
      some (Mock.plainMessage 5000000000000000000) := by
    decide +kernel
  obtain rfl := Option.some.inj (hdecode.symm.trans hcredits.decoded)
  exact hdata rfl

/-- Five units whose calldata is a byte that decodes to nothing. -/
def undecodableCalldata : PostRequest ℕ where
  source := 1
  dest := 2
  fromModule := Mock.remoteContract
  toModule := Mock.config.palletId
  body := Mock.abiEncode
    ⟨Mock.alice.val, Mock.beneficiary.val, 5000000000000000000, [255]⟩

/-- The request is rejected, and the beneficiary keeps the five units. -/
theorem rejection_keeps_payment :
    let s := Mock.funded 10000000000000
    let result := onAccept Mock.config undecodableCalldata s
    result.1 = .error (.module .calldataDecodeError) ∧
    Mock.config.nativeCurrency.freeBalance s.runtime Mock.beneficiary = 0 ∧
    Mock.config.nativeCurrency.freeBalance result.2.runtime Mock.beneficiary = 5000000000000 := by
  decide +kernel

end NuloChain.Hft
