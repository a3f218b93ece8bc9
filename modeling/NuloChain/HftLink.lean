import NuloChain.HftFailures
import NuloChain.HftRefund
import NuloChain.HftSupply

/-! Two chains that run the pallet and are linked for one asset, with the messages between them.
A message is delivered or it times out; a delivery that fails stays in flight. As long as none
fails after it was paid, the value of the asset in both circulations and in flight together never
grows, in whatever order this happens. -/
namespace NuloChain.Hft
open Frame
set_option linter.unusedSectionVars false

inductive Side | here | there
  deriving DecidableEq, Repr

def Side.other : Side → Side
  | .here => .there
  | .there => .here

/-- The two chains, and what they have agreed on: the name of each chain, the asset, the registry
and the decimals on each side, and the decimals that amounts travel in. -/
structure Bridge (A O C I K Λ : Type) where
  config : Side → Config A O C I K Λ
  issuance : Side → Λ → ℕ
  view : Side → FungiblesInspect A I Λ
  chain : Side → C
  asset : Side → I
  registry : Side → Registry C I
  decimals : Side → I → UInt8
  ercDecimals : UInt8

/-- A message in flight, with the side that sent it. -/
structure Parcel (A C I : Type) where
  side : Side
  sent : Sent A C I

structure Link (A C I Λ : Type) where
  storage : Side → Storage A C I Λ
  flight : List (Parcel A C I)

inductive LinkOp (O C I Λ : Type)
  | send (x : Side) (origin : O) (params : SendParams C I)
  | receive (x : Side) (request : PostRequest C)
  | environment (x : Side) (f : Λ → Λ)
  | deliver (n : ℕ)
  | timeout (n : ℕ)

variable {A O C I K Λ : Type} [DecidableEq A] [DecidableEq C] [DecidableEq I]
variable (B : Bridge A O C I K Λ)

/-- `is_module`, by which the router finds the pallet. -/
def isModule (T : Config A O C I K Λ) (id : Bytes) : Bool := id = T.palletId

/-- The request as the other side and a timeout see it. -/
def Bridge.request (p : Parcel A C I) : PostRequest C where
  source := B.chain p.side
  dest := p.sent.post.dest
  fromModule := p.sent.post.fromModule
  toModule := p.sent.post.toModule
  body := p.sent.post.body

/-- The parcel is for the pallet on the other side. -/
def Bridge.Arrives (p : Parcel A C I) : Prop :=
  p.sent.post.dest = B.chain p.side.other ∧
    isModule (B.config p.side.other) p.sent.post.toModule = true

instance (p : Parcel A C I) : Decidable (B.Arrives p) := inferInstanceAs (Decidable (_ ∧ _))

/-- Side `x` has moved to `t`; what it has sent is in flight. -/
def Link.put (l : Link A C I Λ) (x : Side) (t : Storage A C I Λ) (flight : List (Parcel A C I)) :
    Link A C I Λ where
  storage := Function.update l.storage x t
  flight := flight ++ (t.outbox.drop (l.storage x).outbox.length).map (Parcel.mk x)

/-- A callback for the `n`-th parcel on side `x`, which stays in flight unless it succeeds. -/
def Link.answer (l : Link A C I Λ) (n : ℕ) (x : Side) (callback : Pallet A C I Λ Unit) :
    Link A C I Λ :=
  l.put x (settle callback (l.storage x)) <|
    match (callback (l.storage x)).1 with
    | .ok _ => l.flight.eraseIdx n
    | .error _ => l.flight

def linkStep (l : Link A C I Λ) : LinkOp O C I Λ → Link A C I Λ
  | .send x origin params => l.put x (step (B.config x) (l.storage x) (.send origin params)) l.flight
  | .receive x request =>
    l.put x (step (B.config x) (l.storage x) (.onAccept (O := O) request)) l.flight
  | .environment x f => l.put x (step (B.config x) (l.storage x) (.environment (O := O) f)) l.flight
  | .deliver n =>
    match l.flight[n]? with
    | some p =>
      if B.Arrives p then
        l.answer n p.side.other (onAccept (B.config p.side.other) (B.request p))
      else l
    | none => l
  | .timeout n =>
    match l.flight[n]? with
    | some p => l.answer n p.side (onTimeout (B.config p.side) (.post (B.request p)))
    | none => l

/-- What a local unit of the asset counts. Each side is weighed with the decimals of the other,
so that equal values weigh the same. -/
def Bridge.unit (x : Side) : ℕ := 10^(B.decimals x.other (B.asset x.other)).toNat

def Bridge.parcelWorth (p : Parcel A C I) : ℕ :=
  if p.sent.assetId = B.asset p.side then B.unit p.side*p.sent.amount.val else 0

def Bridge.held (l : Link A C I Λ) (x : Side) : ℤ :=
  B.unit x*circulating (B.config x) (B.issuance x) (B.view x) (l.storage x).runtime (B.asset x)

/-- The value of the asset on both sides and in flight. -/
def Bridge.worth (l : Link A C I Λ) : ℤ :=
  B.held l .here+B.held l .there+((l.flight.map B.parcelWorth).sum : ℕ)

/-- The registries fit together: on each side a contract stands for one asset, the pallet of the
other side stands for the linked one, both count in the same decimals, which are not fewer than
those of the asset, no decimals are so far apart that a power of ten overflows, and each side
reads what the other writes. -/
structure Bridge.Agreed : Prop where
  routes : ∀ x dest i contract, (B.registry x).tokenContracts.get (dest, i) = some contract →
    (B.registry x).contractToAsset.get (dest, contract) = some i
  linked : ∀ x, (B.registry x).contractToAsset.get
    (B.chain x.other, (B.config x.other).palletId) = some (B.asset x)
  precise : ∀ x, (B.registry x).precisions.get (B.asset x, B.chain x.other) = some B.ercDecimals
  fine : ∀ x, (B.decimals x (B.asset x)).toNat ≤ B.ercDecimals.toNat
  near : ∀ x i dest e, (B.registry x).precisions.get (i, dest) = some e →
    scale e (B.decimals x i) ≤ 38
  codec : ∀ x y message, (B.config y).abiDecode ((B.config x).abiEncode message) = some message

/-- A part of what a dispatched call does: a send, or a change that leaves the pallet and the
decimals alone. -/
def Bridge.Part (x : Side) (s t : Storage A C I Λ) : Prop :=
  (∃ origin params, send (B.config x) origin params s = (.ok (), t)) ∨
  (t.outbox = s.outbox ∧ t.registry = s.registry ∧
    (B.config x).assets.decimals t.runtime = (B.config x).assets.decimals s.runtime)

/-- No operation of the token pallets or of the dispatcher touches the decimals of an asset. -/
structure Bridge.FixedDecimals : Prop where
  native_decimals : ∀ x src dst n r L L',
    (B.config x).nativeCurrency.transfer src dst n r L = some L' →
    (B.config x).assets.decimals L' = (B.config x).assets.decimals L
  assets_decimals : ∀ x i L L',
    (∃ src dst n r, (B.config x).assets.transfer i src dst n r L = some L') ∨
    (∃ a n r p f, (B.config x).assets.burnFrom i a n r p f L = some L') ∨
    (∃ a n, (B.config x).assets.mintInto i a n L = some L') →
    (B.config x).assets.decimals L' = (B.config x).assets.decimals L
  dispatch_decimals : ∀ x post who fee L c L',
    (B.config x).dispatchRequest post who fee L = some (c, L') →
    (B.config x).assets.decimals L' = (B.config x).assets.decimals L

/-- What the link relies on outside the pallet: the token pallets account for what they move as
well. -/
structure Bridge.Laws : Prop extends B.FixedDecimals where
  tokens : ∀ x, TokenLaws (B.config x) (B.issuance x) (B.view x)

/-- The call that a message carries, if it comes to that, consists of such parts. -/
def Bridge.CallsInParts (l : Link A C I Λ) (x : Side) (request : PostRequest C) : Prop :=
  ∀ c ∈ called (B.config x) (l.storage x) request, Relation.ReflTransGen (B.Part x) c.1 c.2

/-- Paying the message loses no remainder, and it is not refused once it is paid. -/
def Bridge.PaysOnce (l : Link A C I Λ) (x : Side) (request : PostRequest C) : Prop :=
  KeepsWhole (O := O) (B.config x) (B.view x) (l.storage x) (.onAccept request) ∧
  ∀ message credit L, Credits (B.config x) (l.storage x) request message credit →
    payment (B.config x) (l.storage x).registry credit.assetId
      ((B.config x).fromBytes credit.account) credit.amount.val (l.storage x).runtime = some L →
    message.data ≠ [] →
      ¬ Refused (B.config x) { l.storage x with runtime := L } request.source message credit.account

/-- The message is paid once, and its call consists of parts and brings none of the linked asset
into circulation. -/
structure Bridge.Accepts (l : Link A C I Λ) (x : Side) (request : PostRequest C) : Prop where
  paysOnce : B.PaysOnce l x request
  parts : B.CallsInParts l x request
  brings : ∀ c ∈ called (B.config x) (l.storage x) request,
    brought (B.config x) (B.issuance x) (B.view x) (B.asset x) c.1 c.2 ≤ 0

/-- Custody signs no send, and the linked asset only comes from the other side: what happens
besides brings none of it into circulation and leaves its decimals alone. -/
def Bridge.Admits (l : Link A C I Λ) : LinkOp O C I Λ → Prop
  | .send x origin _ => (B.config x).ensureSigned origin ≠ some (B.config x).palletAccount
  | .receive x request => B.Accepts l x request ∧
      (B.registry x).contractToAsset.get (request.source, request.fromModule) ≠ some (B.asset x)
  | .environment x f =>
    (B.config x).assets.decimals (f (l.storage x).runtime) =
      (B.config x).assets.decimals (l.storage x).runtime ∧
    circulating (B.config x) (B.issuance x) (B.view x) (f (l.storage x).runtime) (B.asset x) ≤
      circulating (B.config x) (B.issuance x) (B.view x) (l.storage x).runtime (B.asset x)
  | .deliver n => ∀ p ∈ l.flight[n]?, B.Arrives p → B.Accepts l p.side.other (B.request p)
  | .timeout n => ∀ p ∈ l.flight[n]?,
      KeepsWhole (O := O) (B.config p.side) (B.view p.side) (l.storage p.side)
        (.onTimeout (.post (B.request p)))

instance (l : Link A C I Λ) (n : ℕ) : Decidable (B.Admits l (.timeout n)) :=
  inferInstanceAs (Decidable (∀ p ∈ l.flight[n]?, KeepsWhole (O := O) _ _ _ _))

/-- A message as `send` posts it under the agreed registry and decimals. -/
structure Bridge.Posted (x : Side) (m : Sent A C I) : Prop where
  contract : (B.registry x).tokenContracts.get (m.post.dest, m.assetId) = some m.post.toModule
  fromModule : m.post.fromModule = (B.config x).palletId
  body : ∃ message e, m.post.body = (B.config x).abiEncode message ∧
    message.sender = ((B.config x).intoBytes m.who).val ∧
    (B.registry x).precisions.get (m.assetId, m.post.dest) = some e ∧
    convertToErc20 (B.config x).overflowChecks m.amount e (B.decimals x m.assetId) =
      some message.amount

/-- What the amount of the parcel comes to on the other side, rounded down. -/
def Bridge.arriving (p : Parcel A C I) : ℕ :=
  p.sent.amount.val*10^(B.decimals p.side.other (B.asset p.side.other)).toNat/
    10^(B.decimals p.side (B.asset p.side)).toNat

/-- The credit a parcel with this message comes to on the other side, unless it names no account
or the amount does not fit. -/
def Bridge.landing (p : Parcel A C I) (message : Message) : Option (Credit I) :=
  (accountBytes message.recipient).bind fun account =>
    if h : B.arriving p < 2^128 then some ⟨B.asset p.side.other, account, ⟨B.arriving p, h⟩⟩
    else none

/-- The registry and the decimals are the agreed ones. -/
structure Bridge.Steady (x : Side) (s : Storage A C I Λ) : Prop where
  registry : s.registry = B.registry x
  decimals : ∀ i, localDecimals (B.config x) s.runtime i = B.decimals x i

structure Bridge.InOrder (l : Link A C I Λ) : Prop where
  steady : ∀ x, B.Steady x (l.storage x)
  posted : ∀ p ∈ l.flight, B.Posted p.side p.sent

/-- Side `x` stays steady from `s` to `t` and only posts messages. -/
structure Bridge.Grows (x : Side) (s t : Storage A C I Λ) : Prop where
  steady : B.Steady x t
  posts : ∃ new, t.outbox = s.outbox ++ new ∧ ∀ m ∈ new, B.Posted x m

variable {B}

theorem Side.other_other (x : Side) : x.other.other = x := by
  cases x with
  | here => rfl
  | there => rfl

theorem Side.other_ne (x : Side) : x.other ≠ x := by
  cases x with
  | here => decide
  | there => decide

/-! What each operation posts. -/

theorem localDecimals_congr (T : Config A O C I K Λ) (L L' : Λ)
    (h : T.assets.decimals L' = T.assets.decimals L) (i : I) :
    localDecimals T L' i = localDecimals T L i := by
  unfold localDecimals
  rw [h]

theorem Bridge.Steady.of_same (x : Side) (s t : Storage A C I Λ) (hs : B.Steady x s)
    (hregistry : t.registry = s.registry)
    (hdecimals : (B.config x).assets.decimals t.runtime = (B.config x).assets.decimals s.runtime) :
    B.Steady x t := by
  refine ⟨hregistry.trans hs.registry, fun i => ?_⟩
  rw [localDecimals_congr (B.config x) s.runtime t.runtime hdecimals i]
  exact hs.decimals i

theorem Bridge.grows_refl (x : Side) (s : Storage A C I Λ) (hs : B.Steady x s) : B.Grows x s s :=
  ⟨hs, [], (List.append_nil _).symm, fun _ hm => absurd hm List.not_mem_nil⟩

theorem Bridge.Grows.trans (x : Side) (s t u : Storage A C I Λ) (hst : B.Grows x s t)
    (htu : B.Grows x t u) : B.Grows x s u := by
  obtain ⟨-, first, hfirst, hpostedFirst⟩ := hst
  obtain ⟨hsteady, second, hsecond, hpostedSecond⟩ := htu
  refine ⟨hsteady, first ++ second, ?_, ?_⟩
  · rw [hsecond, hfirst, List.append_assoc]
  · intro m hm
    rcases List.mem_append.mp hm with hm | hm
    · exact hpostedFirst m hm
    · exact hpostedSecond m hm

/-- Only the outbox, the registry and the decimals matter. -/
theorem Bridge.Grows.of_same (x : Side) (s t t' : Storage A C I Λ) (h : B.Grows x s t)
    (houtbox : t'.outbox = t.outbox) (hregistry : t'.registry = t.registry)
    (hdecimals : (B.config x).assets.decimals t'.runtime =
      (B.config x).assets.decimals t.runtime) : B.Grows x s t' := by
  obtain ⟨hsteady, new, hnew, hposted⟩ := h
  exact ⟨hsteady.of_same x t t' hregistry hdecimals, new, houtbox.trans hnew, hposted⟩

theorem Bridge.FixedDecimals.takeIn_decimals (h : B.FixedDecimals) (x : Side) (who : A) (assetId : I) (amount : U128)
    (s : Storage A C I Λ) (L : Λ)
    (htake : takeIn (B.config x) who assetId amount s = (.ok (), { s with runtime := L })) :
    (B.config x).assets.decimals L = (B.config x).assets.decimals s.runtime := by
  obtain ⟨L', hL', hcases⟩ := takeIn_cases who assetId amount s _ htake
  obtain rfl : L = L' := congrArg Storage.runtime hL'
  rcases hcases with ⟨-, hmoved⟩ | ⟨-, hmoved⟩ | ⟨-, hburnt⟩
  · exact h.native_decimals x _ _ _ _ _ _ hmoved
  · exact h.assets_decimals x assetId _ _ (Or.inl ⟨_, _, _, _, hmoved⟩)
  · exact h.assets_decimals x assetId _ _ (Or.inr (Or.inl ⟨_, _, _, _, _, hburnt⟩))

theorem Bridge.FixedDecimals.payOut_decimals (h : B.FixedDecimals) (x : Side) (assetId : I) (beneficiary : A)
    (amount : U128) (s : Storage A C I Λ) (L : Λ)
    (hpay : payOut (B.config x) assetId beneficiary amount s = (.ok (), { s with runtime := L })) :
    (B.config x).assets.decimals L = (B.config x).assets.decimals s.runtime := by
  obtain ⟨L', hL', hcases⟩ := payOut_cases assetId beneficiary amount s _ hpay
  obtain rfl : L = L' := congrArg Storage.runtime hL'
  rcases hcases with ⟨-, hmoved⟩ | ⟨-, -, hmoved⟩ | ⟨-, hminted⟩
  · exact h.native_decimals x _ _ _ _ _ _ hmoved
  · exact h.assets_decimals x assetId _ _ (Or.inl ⟨_, _, _, _, hmoved⟩)
  · exact h.assets_decimals x assetId _ _ (Or.inr (Or.inr ⟨_, _, hminted⟩))

/-- A send posts one message, converted with the agreed decimals. -/
theorem Bridge.FixedDecimals.send_grows (h : B.FixedDecimals) (x : Side) (origin : O) (params : SendParams C I)
    (s t : Storage A C I Λ) (hs : B.Steady x s)
    (hsend : send (B.config x) origin params s = (.ok (), t)) : B.Grows x s t := by
  obtain ⟨who, -, ⟨effect⟩⟩ := send_ok (B.config x) origin params s t hsend
  have htaken := h.takeIn_decimals x who _ _ s effect.taken effect.takeIn_eq
  have hdispatched := h.dispatch_decimals x _ _ _ _ _ _ effect.dispatch_eq
  refine ⟨hs.of_same x s t effect.registry_eq ?_, _, effect.outbox_eq, ?_⟩
  · rw [effect.runtime_eq, hdispatched, htaken]
  · intro m hm
    obtain rfl := List.mem_singleton.mp hm
    refine ⟨?_, rfl, _, effect.decimals, rfl, rfl, ?_, ?_⟩
    · rw [← hs.registry]
      exact effect.contract_get
    · rw [← hs.registry]
      exact effect.decimals_get
    · have hconvert := effect.convert_eq
      rw [localDecimals_congr _ _ _ htaken, hs.decimals params.assetId] at hconvert
      exact hconvert

theorem Bridge.FixedDecimals.stepSend_grows (h : B.FixedDecimals) (x : Side) (origin : O) (params : SendParams C I)
    (s : Storage A C I Λ) (hs : B.Steady x s) :
    B.Grows x s (step (B.config x) s (.send origin params)) := by
  simp only [step]
  rcases send_storage (B.config x) origin params s with hsame | hsend
  · rw [hsame]
    exact Bridge.grows_refl x s hs
  · exact h.send_grows x origin params s _ hs hsend

theorem Bridge.FixedDecimals.call_grows (h : B.FixedDecimals) (x : Side) (s t : Storage A C I Λ) (hs : B.Steady x s)
    (hparts : Relation.ReflTransGen (B.Part x) s t) : B.Grows x s t := by
  induction hparts with
  | refl => exact Bridge.grows_refl x s hs
  | tail _ hpart ih =>
    rcases hpart with ⟨origin, params, hsend⟩ | ⟨houtbox, hregistry, hdecimals⟩
    · exact ih.trans x s _ _ (h.send_grows x origin params _ _ ih.steady hsend)
    · exact ih.of_same x s _ _ houtbox hregistry hdecimals

/-- Paying a credit posts nothing. -/
theorem Bridge.FixedDecimals.payOut_grows (h : B.FixedDecimals) (x : Side) (assetId : I) (beneficiary : A)
    (amount : U128) (s : Storage A C I Λ) (L : Λ) (hs : B.Steady x s)
    (hpay : payOut (B.config x) assetId beneficiary amount s = (.ok (), { s with runtime := L })) :
    B.Grows x s { s with runtime := L } :=
  (Bridge.grows_refl x s hs).of_same x s s _ rfl rfl
    (h.payOut_decimals x assetId beneficiary amount s L hpay)

theorem Bridge.FixedDecimals.onAccept_grows (h : B.FixedDecimals) (x : Side)
    (request : PostRequest C) (l : Link A C I Λ) (hs : B.Steady x (l.storage x))
    (hparts : B.CallsInParts l x request) :
    B.Grows x (l.storage x) (settle (onAccept (B.config x) request) (l.storage x)) := by
  rcases settle_onAccept_cases (O := O) (T := B.config x) request (l.storage x) with ⟨hsettle, -⟩ |
    ⟨message, credit, L, t, -, hL, -, hrest, hregistry, hruntime, houtbox⟩
  · rw [hsettle]
    exact Bridge.grows_refl x _ hs
  have hpay := (payOut_ok_iff (B.config x) _ _ _ _ _).mpr ⟨L, hL, rfl⟩
  have hpaid := h.payOut_grows x _ _ _ (l.storage x) L hs hpay
  refine Bridge.Grows.of_same x _ t _ ?_ houtbox hregistry (by rw [hruntime])
  rcases hrest with ⟨-, rfl⟩ | hcalled
  · exact hpaid
  · exact hpaid.trans x _ _ t (h.call_grows x _ t hpaid.steady (hparts _ hcalled))

theorem Bridge.FixedDecimals.onTimeout_grows (h : B.FixedDecimals) (x : Side) (request : PostRequest C)
    (s : Storage A C I Λ) (hs : B.Steady x s) :
    B.Grows x s (settle (onTimeout (B.config x) (.post request)) s) := by
  rcases htimeout : onTimeout (B.config x) (.post request) s with ⟨e | done, t⟩
  · obtain rfl := onTimeout_error (B.config x) (.post request) s t e htimeout
    rw [settle_same _ _ e htimeout]
    exact Bridge.grows_refl x _ hs
  · rw [settle_ok _ s t htimeout]
    obtain ⟨credit, L, -, hpay, hregistry, hruntime, houtbox⟩ :=
      onTimeout_ok (B.config x) request s t htimeout
    exact (h.payOut_grows x _ _ _ s L hs hpay).of_same x s _ t houtbox hregistry (by rw [hruntime])

/-! What a parcel is worth where it ends. -/

theorem convertToErc20_val (checks : Bool) (value : U128) (e l : UInt8) (x : U256)
    (hscale : scale e l ≤ 38) (h : convertToErc20 checks value e l = some x) :
    x.val = value.val*10^(scale e l) := by
  obtain ⟨y, hy, hval⟩ := convertToErc20_eq checks value e l hscale
  obtain rfl : x = y := Option.some.inj (h.symm.trans hy)
  exact hval

/-- An amount that travels in decimals not fewer than those of either side is converted as if it
went from the one to the other directly. -/
theorem converted_eq (v e l m : ℕ) (hl : l ≤ e) (hm : m ≤ e) :
    v*10^(e-l)/10^(e-m) = v*10^m/10^l := by
  have hel : 10^(e-l)*10^l = 10^e := by rw [← pow_add, Nat.sub_add_cancel hl]
  have hem : 10^(e-m)*10^m = 10^e := by rw [← pow_add, Nat.sub_add_cancel hm]
  -- both quotients, expanded until they divide by the same power
  calc v*10^(e-l)/10^(e-m) = v*10^(e-l)*(10^m*10^l)/(10^(e-m)*(10^m*10^l)) :=
        (Nat.mul_div_mul_right _ _ (Nat.mul_pos (pow10_pos m) (pow10_pos l))).symm
    _ = v*10^m*(10^(e-l)*10^l)/(10^l*(10^(e-m)*10^m)) := by
        congr 1
        · ring
        · ring
    _ = v*10^m*10^e/(10^l*10^e) := by rw [hel, hem]
    _ = v*10^m/10^l := Nat.mul_div_mul_right _ _ (pow10_pos e)

theorem Bridge.Agreed.arrives_asset (h : B.Agreed) (p : Parcel A C I) (hposted : B.Posted p.side p.sent)
    (harrives : B.Arrives p) : p.sent.assetId = B.asset p.side := by
  have hroute := h.routes p.side _ _ _ hposted.contract
  rw [harrives.1, of_decide_eq_true harrives.2, h.linked p.side] at hroute
  exact (Option.some.inj hroute).symm

/-- The other side credits a parcel with what it is worth there, to the recipient it names. -/
theorem Bridge.Agreed.credits_iff (h : B.Agreed) (p : Parcel A C I) (s : Storage A C I Λ)
    (hposted : B.Posted p.side p.sent) (harrives : B.Arrives p) (hs : B.Steady p.side.other s)
    (message : Message) (credit : Credit I) :
    Credits (B.config p.side.other) s (B.request p) message credit ↔
      (B.config p.side.other).abiDecode p.sent.post.body = some message ∧
        B.landing p message = some credit := by
  have hasset := h.arrives_asset p hposted harrives
  -- the other side knows the sender as the pallet of this one
  have hlinked := h.linked p.side.other
  have hprecise := h.precise p.side.other
  rw [Side.other_other] at hlinked hprecise
  rw [← hposted.fromModule] at hlinked
  obtain ⟨posted, e, hbody, -, he, hconverted⟩ := hposted.body
  have hnear := h.near p.side _ _ e he
  rw [hasset, harrives.1, h.precise p.side] at he
  obtain rfl := Option.some.inj he
  have hvalue : posted.amount.val/10^(scale B.ercDecimals
      (B.decimals p.side.other (B.asset p.side.other))) = B.arriving p := by
    rw [convertToErc20_val _ _ _ _ _ hnear hconverted, hasset]
    exact converted_eq _ _ _ _ (h.fine p.side) (h.fine p.side.other)
  have hpow := pow10_eq (B.config p.side.other).overflowChecks _ (h.near p.side.other _ _ _ hprecise)
  constructor
  · intro hcredits
    have hdecoded := hcredits.decoded
    change (B.config p.side.other).abiDecode p.sent.post.body = _ at hdecoded
    refine ⟨hdecoded, ?_⟩
    rw [hbody, h.codec] at hdecoded
    obtain rfl := Option.some.inj hdecoded
    have hroute := hcredits.asset
    rw [hs.registry] at hroute
    have hpays : credit.assetId = B.asset p.side.other :=
      (Option.some.inj (hlinked.symm.trans hroute)).symm
    obtain ⟨e, factor, he, hfactor, -, hamount⟩ := hcredits.converted
    rw [hs.registry, hpays] at he
    obtain rfl := Option.some.inj (hprecise.symm.trans he)
    rw [hpays, hs.decimals, hpow] at hfactor
    rw [← Option.some.inj hfactor, hvalue] at hamount
    have hfits : B.arriving p < 2^128 := by
      rw [hamount]
      exact credit.amount.isLt
    rw [Bridge.landing, hcredits.recipient, Option.bind_some, dif_pos hfits]
    obtain ⟨assetId, account, amount⟩ := credit
    dsimp only at hpays hamount ⊢
    rw [hpays]
    congr
  · rintro ⟨hdecoded, hlands⟩
    obtain ⟨account, haccount, hlands⟩ := Option.bind_eq_some_iff.mp hlands
    split at hlands
    · rename_i hfits
      cases hlands
      refine ⟨?_, hdecoded, haccount, B.ercDecimals, _, ?_, (congrArg _ ?_).trans hpow,
        (pow10_pos _).ne', ?_⟩
      · rw [hs.registry]
        exact hlinked
      · rw [hs.registry]
        exact hprecise
      · rw [hs.decimals]
      · rw [hbody, h.codec] at hdecoded
        obtain rfl := Option.some.inj hdecoded
        exact hvalue
    · cases hlands

/-- A delivered parcel pays the linked asset, and no more of it than the parcel is worth. -/
theorem Bridge.Agreed.delivered_le (h : B.Agreed) (p : Parcel A C I) (s : Storage A C I Λ)
    (hposted : B.Posted p.side p.sent) (harrives : B.Arrives p) (hs : B.Steady p.side.other s)
    (message : Message) (credit : Credit I)
    (hcredits : Credits (B.config p.side.other) s (B.request p) message credit) :
    B.unit p.side.other*credit.of (B.asset p.side.other) ≤ B.parcelWorth p := by
  obtain ⟨-, hlands⟩ := (h.credits_iff p s hposted harrives hs message credit).mp hcredits
  obtain ⟨account, -, hlands⟩ := Option.bind_eq_some_iff.mp hlands
  split at hlands
  · cases hlands
    unfold Bridge.parcelWorth Credit.of Bridge.unit
    rw [if_pos (h.arrives_asset p hposted harrives), if_pos rfl, Side.other_other]
    calc 10^_*B.arriving p ≤ p.sent.amount.val*10^_ := Nat.mul_div_le _ _
      _ = 10^_*p.sent.amount.val := Nat.mul_comm _ _
  · cases hlands

/-- A parcel that times out pays back what was sent, to who sent it. -/
theorem Bridge.Agreed.timeoutCredit_eq (h : B.Agreed) (p : Parcel A C I) (s : Storage A C I Λ)
    (hposted : B.Posted p.side p.sent) (hs : B.Steady p.side s) :
    timeoutCredit (B.config p.side) (B.request p) s =
      (.ok ⟨p.sent.assetId, (B.config p.side).intoBytes p.sent.who, p.sent.amount⟩, s) := by
  obtain ⟨message, e, hbody, hsender, he, hconverted⟩ := hposted.body
  refine (timeoutCredit_ok_iff _ _ _ _ _).mpr ⟨rfl, message, ?_, ?_, ?_, ?_⟩
  · change (B.config p.side).abiDecode p.sent.post.body = _
    rw [hbody, h.codec]
  · rw [hsender]
    exact accountBytes_of_length _
  · rw [hs.registry]
    exact h.routes p.side _ _ _ hposted.contract
  · refine (localAmount_ok_iff _ _ _ _ _ _ _).mpr ⟨rfl, e, ?_, ?_⟩
    · rw [hs.registry]
      exact he
    · -- the same scale divides what it multiplied
      have hnear := h.near p.side _ _ e he
      rw [hs.decimals, convertToBalance_some_iff]
      refine ⟨_, pow10_eq _ _ hnear, (pow10_pos _).ne', ?_⟩
      rw [convertToErc20_val _ _ _ _ _ hnear hconverted, Nat.mul_div_cancel _ (pow10_pos _)]

/-! The value of the whole link. -/

theorem Bridge.worth_side (l : Link A C I Λ) (x : Side) :
    B.worth l = B.held l x+B.held l x.other+((l.flight.map B.parcelWorth).sum : ℕ) := by
  unfold Bridge.worth
  cases x with
  | here => rfl
  | there =>
    rw [add_comm (B.held l .here)]
    rfl

theorem Bridge.worth_parcels (x : Side) (new : List (Sent A C I)) :
    ((new.map (Parcel.mk x)).map B.parcelWorth).sum = B.unit x*sentOf (B.asset x) new := by
  induction new with
  | nil => rfl
  | cons m new ih =>
    rw [List.map_cons, List.map_cons, List.sum_cons, ih, sentOf_cons, Nat.mul_add]
    unfold Bridge.parcelWorth
    by_cases hm : m.assetId = B.asset x
    · rw [if_pos hm, if_pos hm]
    · rw [if_neg hm, if_neg hm, Nat.mul_zero]

theorem Link.put_storage (l : Link A C I Λ) (x : Side) (t : Storage A C I Λ)
    (flight : List (Parcel A C I)) : (l.put x t flight).storage x = t := by
  simp only [Link.put, Function.update_self]

theorem Link.put_storage_other (l : Link A C I Λ) (x : Side) (t : Storage A C I Λ)
    (flight : List (Parcel A C I)) (y : Side) (hy : y ≠ x) :
    (l.put x t flight).storage y = l.storage y := by
  simp only [Link.put, Function.update_of_ne hy]

/-- A side that moves within its account changes the whole value by no more than came into its
circulation; what it sends only changes place. -/
theorem Bridge.put_worth (l : Link A C I Λ) (x : Side) (t : Storage A C I Λ)
    (flight : List (Parcel A C I)) (n : ℤ) (hgrows : B.Grows x (l.storage x) t)
    (hbacks : Backs (B.config x) (B.issuance x) (B.view x) (B.asset x) n (l.storage x) t) :
    B.worth (l.put x t flight) ≤ B.worth { l with flight := flight }+B.unit x*n := by
  obtain ⟨-, new, hnew, -⟩ := hgrows
  have hflight : (l.put x t flight).flight = flight ++ new.map (Parcel.mk x) := by
    unfold Link.put
    rw [hnew, List.drop_left]
  have hother : B.held (l.put x t flight) x.other = B.held l x.other := by
    unfold Bridge.held
    rw [Link.put_storage_other l x t flight _ (Side.other_ne x)]
  have hbalance : B.held (l.put x t flight) x+(B.unit x*sentOf (B.asset x) new : ℕ) ≤
      B.held l x+B.unit x*n := by
    unfold Backs at hbacks
    rw [hnew, sentOf_append] at hbacks
    have hpart : circulating (B.config x) (B.issuance x) (B.view x) t.runtime (B.asset x)+
        (sentOf (B.asset x) new : ℕ) ≤
        circulating (B.config x) (B.issuance x) (B.view x) (l.storage x).runtime (B.asset x)+n := by
      omega
    have hscaled := Int.mul_le_mul_of_nonneg_left hpart (Int.natCast_nonneg (B.unit x))
    rw [mul_add, mul_add] at hscaled
    unfold Bridge.held
    rw [Link.put_storage, Nat.cast_mul]
    exact hscaled
  rw [Bridge.worth_side _ x, Bridge.worth_side _ x, hflight, List.map_append, List.sum_append,
    Bridge.worth_parcels, hother]
  change _ ≤ B.held l x+B.held l x.other+((flight.map B.parcelWorth).sum : ℕ)+_
  omega

theorem Bridge.put_inOrder (l : Link A C I Λ) (x : Side) (t : Storage A C I Λ)
    (flight : List (Parcel A C I)) (h : B.InOrder l) (hgrows : B.Grows x (l.storage x) t)
    (hflight : ∀ p ∈ flight, p ∈ l.flight) : B.InOrder (l.put x t flight) := by
  obtain ⟨hsteady, new, hnew, hposted⟩ := hgrows
  constructor
  · intro y
    by_cases hy : y = x
    · subst hy
      rw [Link.put_storage]
      exact hsteady
    · rw [Link.put_storage_other l x t flight y hy]
      exact h.steady y
  · intro p hp
    change p ∈ flight ++ _ at hp
    rw [hnew, List.drop_left] at hp
    rcases List.mem_append.mp hp with hp | hp
    · exact h.posted p (hflight p hp)
    · obtain ⟨m, hm, rfl⟩ := List.mem_map.mp hp
      exact hposted m hm

/-- Taking a parcel out of flight takes its value. -/
theorem Bridge.worth_eraseIdx (l : Link A C I Λ) (n : ℕ) (p : Parcel A C I)
    (hp : l.flight[n]? = some p) :
    B.worth { l with flight := l.flight.eraseIdx n }+B.parcelWorth p = B.worth l := by
  obtain ⟨hn, hget⟩ := List.getElem?_eq_some_iff.mp hp
  have hperm := List.getElem_cons_eraseIdx_perm hn
  have hsum := (hperm.map B.parcelWorth).sum_eq
  rw [List.map_cons, List.sum_cons, hget] at hsum
  unfold Bridge.worth Bridge.held
  dsimp only
  omega

/-- A message that is not refused once it is paid has changed nothing when it fails. -/
theorem Bridge.PaysOnce.settle_error (l : Link A C I Λ) (x : Side) (request : PostRequest C)
    (t : Storage A C I Λ) (e : Failure C) (h : B.PaysOnce l x request)
    (haccept : onAccept (B.config x) request (l.storage x) = (.error e, t)) :
    settle (onAccept (B.config x) request) (l.storage x) = l.storage x := by
  rcases onAccept_outcome (B.config x) request _ t _ haccept with ⟨rfl, -⟩ |
    ⟨message, credit, L, hcredit, hpay, houtcome⟩
  · exact settle_same _ _ e haccept
  rcases houtcome with ⟨-, hok, -⟩ | ⟨hdata, v, hcall, -⟩
  · cases hok
  rcases Hft.settle_error _ _ t e haccept with ⟨-, hsettle⟩ | ⟨hpanic, -⟩
  · exact hsettle
  · obtain ⟨-, hcredits⟩ := (acceptCredit_ok_iff _ _ _ _ message credit).mp hcredit
    have hrefused := (processCalldata_refused_iff (B.config x) _ _ _ _).mp ⟨e, v, hpanic, hcall⟩
    exact absurd hrefused (h.2 message credit L hcredits (payment_of_payOut _ _ _ _ _ _ hpay) hdata)

/-- What a call brings is at most nothing, so no more than the credit enters. -/
theorem Bridge.Accepts.backs (h : B.Laws) (l : Link A C I Λ) (x : Side) (request : PostRequest C)
    (haccepts : B.Accepts l x request) :
    Backs (B.config x) (B.issuance x) (B.view x) (B.asset x)
      (((paidCredit (O := O) (B.config x) (l.storage x) (.onAccept request)).map
        (Credit.of (B.asset x))).getD 0) (l.storage x)
      (settle (onAccept (B.config x) request) (l.storage x)) := by
  have hbacks := backs_onAccept (h.tokens x) request (l.storage x) haccepts.paysOnce.1 (B.asset x)
  have hcall : ((called (B.config x) (l.storage x) request).map fun c =>
      brought (B.config x) (B.issuance x) (B.view x) (B.asset x) c.1 c.2).getD 0 ≤ 0 := by
    cases hcalled : called (B.config x) (l.storage x) request with
    | none => exact le_refl 0
    | some c => exact haccepts.brings c hcalled
  unfold Backs at hbacks ⊢
  rw [entered] at hbacks
  omega

/-- A callback that leaves the storage as it was leaves the link as it was. -/
theorem Link.put_same (l : Link A C I Λ) (x : Side) : l.put x (l.storage x) l.flight = l := by
  unfold Link.put
  rw [Function.update_eq_self, List.drop_length, List.map_nil, List.append_nil]

theorem Link.answer_ok (l : Link A C I Λ) (n : ℕ) (x : Side) (callback : Pallet A C I Λ Unit)
    (t : Storage A C I Λ) (h : callback (l.storage x) = (.ok (), t)) :
    l.answer n x callback = l.put x t (l.flight.eraseIdx n) := by
  unfold Link.answer
  rw [settle_ok _ _ t h, h]

/-- A callback that fails with nothing to settle leaves its parcel in flight. -/
theorem Link.answer_error (l : Link A C I Λ) (n : ℕ) (x : Side) (callback : Pallet A C I Λ Unit)
    (t : Storage A C I Λ) (e : Failure C) (h : callback (l.storage x) = (.error e, t))
    (hsettle : settle callback (l.storage x) = l.storage x) : l.answer n x callback = l := by
  unfold Link.answer
  rw [hsettle, h]
  exact Link.put_same l x

/-- The messages in flight are in order and the whole value is not above `w`. -/
def Bridge.Within (B : Bridge A O C I K Λ) (w : ℤ) (l : Link A C I Λ) : Prop :=
  B.InOrder l ∧ B.worth l ≤ w

theorem Bridge.within_put (w : ℤ) (l : Link A C I Λ) (x : Side) (t : Storage A C I Λ)
    (flight : List (Parcel A C I)) (n : ℤ) (h : B.InOrder l) (hgrows : B.Grows x (l.storage x) t)
    (hbacks : Backs (B.config x) (B.issuance x) (B.view x) (B.asset x) n (l.storage x) t)
    (hflight : ∀ p ∈ flight, p ∈ l.flight)
    (hw : B.worth { l with flight := flight }+B.unit x*n ≤ w) :
    B.Within w (l.put x t flight) := by
  refine ⟨B.put_inOrder l x t flight h hgrows hflight, ?_⟩
  exact le_trans (B.put_worth l x t flight n hgrows hbacks) hw

theorem Bridge.within_send (h : B.Laws) (w : ℤ) (l : Link A C I Λ) (x : Side) (origin : O)
    (params : SendParams C I) (hl : B.Within w l)
    (hsigner : (B.config x).ensureSigned origin ≠ some (B.config x).palletAccount) :
    B.Within w (linkStep B l (.send x origin params)) := by
  have hgrows := h.stepSend_grows x origin params (l.storage x) (hl.1.steady x)
  have hbacks := step_backs (h.tokens x) (l.storage x) (.send origin params) hsigner trivial
    (B.asset x)
  refine Bridge.within_put w l x _ l.flight _ hl.1 hgrows hbacks (fun _ hp => hp) ?_
  change B.worth l+B.unit x*0 ≤ w
  rw [mul_zero, add_zero]
  exact hl.2

/-- A message from elsewhere pays another asset; its calldata may send this one. -/
theorem Bridge.within_receive (h : B.Laws) (w : ℤ) (l : Link A C I Λ) (x : Side)
    (request : PostRequest C) (hl : B.Within w l) (haccepts : B.Accepts l x request)
    (helsewhere : (B.registry x).contractToAsset.get (request.source, request.fromModule) ≠
      some (B.asset x)) : B.Within w (linkStep B l (.receive x request)) := by
  have hbacks := haccepts.backs h l x request
  have hnone : (((paidCredit (O := O) (B.config x) (l.storage x) (.onAccept request)).map
      (Credit.of (B.asset x))).getD 0 : ℕ) = 0 := by
    rcases settle_onAccept_cases (O := O) (T := B.config x) request (l.storage x) with
      ⟨-, hcredit, -⟩ | ⟨message, credit, L, t, hcredits, -, hcredit, -⟩
    · rw [hcredit]
      rfl
    · have hroute := hcredits.asset
      rw [(hl.1.steady x).registry] at hroute
      have hne : credit.assetId ≠ B.asset x := by
        intro heq
        rw [heq] at hroute
        exact helsewhere hroute
      rw [hcredit]
      exact if_neg hne
  rw [hnone] at hbacks
  refine Bridge.within_put w l x _ l.flight 0 hl.1
    (h.onAccept_grows x request l (hl.1.steady x) haccepts.parts) hbacks (fun _ hp => hp) ?_
  rw [mul_zero, add_zero]
  exact hl.2

theorem Bridge.within_environment (w : ℤ) (l : Link A C I Λ) (x : Side) (f : Λ → Λ)
    (hl : B.Within w l) (hadmits : B.Admits l (.environment x f)) :
    B.Within w (linkStep B l (.environment x f)) := by
  have hgrows := (Bridge.grows_refl x _ (hl.1.steady x)).of_same x (l.storage x) _
    { l.storage x with runtime := f (l.storage x).runtime } rfl rfl hadmits.1
  refine Bridge.within_put w l x _ l.flight 0 hl.1 hgrows ?_ (fun _ hp => hp) ?_
  · have hle := hadmits.2
    unfold Backs
    simp only [step]
    omega
  · rw [mul_zero, add_zero]
    exact hl.2

/-- A parcel that is paid leaves flight, and what it pays is within its worth. -/
theorem Bridge.within_answered (w : ℤ) (l : Link A C I Λ) (n : ℕ) (p : Parcel A C I) (x : Side)
    (t : Storage A C I Λ) (paid : ℕ) (hl : B.Within w l) (hp : l.flight[n]? = some p)
    (hgrows : B.Grows x (l.storage x) t)
    (hbacks : Backs (B.config x) (B.issuance x) (B.view x) (B.asset x) paid (l.storage x) t)
    (hpaid : B.unit x*paid ≤ B.parcelWorth p) :
    B.Within w (l.put x t (l.flight.eraseIdx n)) := by
  refine Bridge.within_put w l x t _ paid hl.1 hgrows hbacks ?_ ?_
  · exact fun q hq => List.mem_of_mem_eraseIdx hq
  · have hworth := B.worth_eraseIdx l n p hp
    have hle := hl.2
    have hcast : ((B.unit x*paid : ℕ) : ℤ) ≤ B.parcelWorth p := Int.ofNat_le.mpr hpaid
    rw [Nat.cast_mul] at hcast
    omega

theorem Bridge.within_deliver (h : B.Laws) (hagreed : B.Agreed) (w : ℤ) (l : Link A C I Λ) (n : ℕ)
    (hl : B.Within w l) (hadmits : B.Admits l (.deliver n)) :
    B.Within w (linkStep B l (.deliver n)) := by
  simp only [linkStep]
  cases hp : l.flight[n]? with
  | none => exact hl
  | some p =>
    dsimp only
    split
    · rename_i harrives
      have haccepts := hadmits p hp harrives
      have hposted := hl.1.posted p (List.mem_of_getElem? hp)
      have hsteady := hl.1.steady p.side.other
      have hgrows := h.onAccept_grows p.side.other (B.request p) l hsteady haccepts.parts
      have hbacks := haccepts.backs h l p.side.other (B.request p)
      rcases haccept : onAccept (B.config p.side.other) (B.request p) (l.storage p.side.other) with
        ⟨e | done, t⟩
      · -- nothing is paid, and the parcel stays
        rw [Link.answer_error l n _ _ t e haccept
          (haccepts.paysOnce.settle_error l p.side.other (B.request p) t e haccept)]
        exact hl
      · rw [settle_ok _ _ t haccept] at hbacks hgrows
        rw [Link.answer_ok l n _ _ t haccept]
        refine Bridge.within_answered w l n p _ _ _ hl hp hgrows hbacks ?_
        rcases settle_onAccept_cases (O := O) (T := B.config p.side.other) (B.request p)
          (l.storage p.side.other) with ⟨-, hcredit, -⟩ | ⟨message, credit, -, -, hcredits, -, hcredit, -⟩
        · rw [hcredit]
          exact Nat.zero_le _
        · rw [hcredit]
          exact hagreed.delivered_le p _ hposted harrives hsteady message credit hcredits
    · exact hl

theorem Bridge.within_timeout (h : B.Laws) (hagreed : B.Agreed) (w : ℤ) (l : Link A C I Λ) (n : ℕ)
    (hl : B.Within w l) (hadmits : B.Admits l (.timeout n)) :
    B.Within w (linkStep B l (.timeout n)) := by
  simp only [linkStep]
  cases hp : l.flight[n]? with
  | none => exact hl
  | some p =>
    dsimp only
    have hposted := hl.1.posted p (List.mem_of_getElem? hp)
    have hsteady := hl.1.steady p.side
    have hgrows := h.onTimeout_grows p.side (B.request p) _ hsteady
    rcases htimeout : onTimeout (B.config p.side) (.post (B.request p)) (l.storage p.side) with
      ⟨e | done, t⟩
    · have ht := onTimeout_error (B.config p.side) _ _ t e htimeout
      rw [ht] at htimeout
      rw [Link.answer_error l n _ _ _ e htimeout (settle_same _ _ e htimeout)]
      exact hl
    · have hbacks := backs_onTimeout (h.tokens p.side) (B.request p) _ t (hadmits p hp) htimeout
        (B.asset p.side)
      have hcredit := hagreed.timeoutCredit_eq p _ hposted hsteady
      have hentered : entered (O := O) (B.config p.side) (B.issuance p.side) (B.view p.side)
          (B.asset p.side) (l.storage p.side) (.onTimeout (.post (B.request p))) =
          Credit.of (B.asset p.side)
            ⟨p.sent.assetId, (B.config p.side).intoBytes p.sent.who, p.sent.amount⟩ := by
        simp only [entered, paidCredit, htimeout, hcredit, Option.map_some, Option.getD_some]
      rw [hentered] at hbacks
      rw [settle_ok _ _ t htimeout] at hgrows
      rw [Link.answer_ok l n _ _ t htimeout]
      refine Bridge.within_answered w l n p _ _ _ hl hp hgrows hbacks ?_
      unfold Bridge.parcelWorth Credit.of
      split
      · exact Nat.le_refl _
      · exact Nat.le_refl _

theorem Bridge.within_step (h : B.Laws) (hagreed : B.Agreed) (w : ℤ) (l : Link A C I Λ)
    (op : LinkOp O C I Λ) (hl : B.Within w l) (hadmits : B.Admits l op) :
    B.Within w (linkStep B l op) := by
  cases op with
  | send x origin params => exact Bridge.within_send h w l x origin params hl hadmits
  | receive x request => exact Bridge.within_receive h w l x request hl hadmits.1 hadmits.2
  | environment x f => exact Bridge.within_environment w l x f hl hadmits
  | deliver n => exact Bridge.within_deliver h hagreed w l n hl hadmits
  | timeout n => exact Bridge.within_timeout h hagreed w l n hl hadmits

/-- However sends, deliveries, failed deliveries and timeouts on the two chains interleave, the
value of the linked asset in both circulations and in flight never grows, as long as no message
is refused once it is paid and nothing else brings any of the asset into circulation. -/
theorem link_creates_no_value (h : B.Laws) (hagreed : B.Agreed) (l : Link A C I Λ)
    (ops : List (LinkOp O C I Λ)) (hl : B.InOrder l) (hops : Along (linkStep B) B.Admits l ops) :
    B.worth (run (linkStep B) l ops) ≤ B.worth l := by
  have hend := run_invariant (linkStep B) _ (B.Within (B.worth l))
    (fun l' op hl' hop => B.within_step h hagreed (B.worth l) l' op hl' hop) ops l
    ⟨hl, le_refl _⟩ hops
  exact hend.2

namespace Mock

/-- Bytes with an end mark. -/
def marked (b : Bytes) : Bytes := b.flatMap (fun c => [1, c]) ++ [0]

def readMarked : Bytes → Option (Bytes × Bytes)
  | 0 :: rest => some ([], rest)
  | 1 :: c :: rest => (readMarked rest).map fun found => (c :: found.1, found.2)
  | _ => none

theorem readMarked_marked (b rest : Bytes) : readMarked (marked b ++ rest) = some (b, rest) := by
  induction b with
  | nil => rfl
  | cons c b ih =>
    have hcons : marked (c :: b) ++ rest = 1 :: c :: (marked b ++ rest) := by
      simp [marked]
    rw [hcons, readMarked, ih]
    rfl

/-- Any message, however long its parts are. -/
def longEncode (m : Message) : Bytes :=
  1 :: (marked m.sender ++ (marked m.recipient ++ (marked (List.replicate m.amount.val 0) ++
    (marked m.data ++ []))))

def longDecode (b : Bytes) : Option Message := do
  let (sender, b) ← readMarked b
  let (recipient, b) ← readMarked b
  let (amount, b) ← readMarked b
  let (data, _) ← readMarked b
  if h : amount.length < 2^256 then some ⟨sender, recipient, ⟨amount.length, h⟩, data⟩ else none

/-- The Solidity layout, as far as it can be read back. -/
def encode (m : Message) : Bytes :=
  if abiDecode (abiEncode m) = some m then abiEncode m else longEncode m

def decode : Bytes → Option Message
  | 1 :: rest => longDecode rest
  | b => abiDecode b

theorem decode_encode (m : Message) : decode (encode m) = some m := by
  unfold encode
  split
  · rename_i hlayout
    -- the layout starts with the word 32, and so with a zero
    have hfirst : ∃ rest, abiEncode m = 0 :: rest := ⟨_, rfl⟩
    obtain ⟨rest, hrest⟩ := hfirst
    rw [hrest] at hlayout ⊢
    exact hlayout
  · change longDecode _ = some m
    simp only [longDecode, readMarked_marked, Option.bind_eq_bind, Option.bind_some,
      List.length_replicate, m.amount.isLt, dite_true]

def nativeDecimals : Side → UInt8
  | .here => 12
  | .there => 15

/-- The linked asset is the native currency with twelve decimals here, and asset 5 with ten
decimals there. -/
def bridge : Bridge Bytes32 (RawOrigin Bytes32) ℕ ℕ (SendParams ℕ ℕ) TokenRuntime where
  config x := carrying (nativeDecimals x) encode decode
  issuance _ := Tokens.issued
  view _ := Tokens.view
  chain
    | .here => 2
    | .there => 1
  asset
    | .here => 0
    | .there => 5
  registry
    | .here => registered emptyRegistry ⟨0, true, oneChain 1 config.palletId 18⟩
    | .there => registered emptyRegistry ⟨5, false, oneChain 2 config.palletId 18⟩
  decimals x i := if i = 0 then nativeDecimals x else 10
  ercDecimals := 18

theorem bridge_laws : bridge.Laws where
  tokens x := carrying_tokenLaws (nativeDecimals x) encode decode
  native_decimals x src dst n r L L' h := by
    obtain ⟨-, hassets, -⟩ := Tokens.currency_transfer 1000000000 src dst n r L L' h
    change L'.assets.decimals = L.assets.decimals
    rw [hassets]
  assets_decimals x i L L' h := by
    rcases h with ⟨src, dst, n, r, h⟩ | ⟨a, n, r, p, f, h⟩ | ⟨a, n, h⟩
    · obtain ⟨assets, hassets, rfl⟩ := Option.map_eq_some_iff.mp h
      exact AssetLedger.transfer_decimals i src dst n L.assets assets hassets
    · obtain ⟨assets, hassets, rfl⟩ := Option.map_eq_some_iff.mp h
      exact AssetLedger.burn_decimals i a n L.assets assets hassets
    · obtain ⟨assets, hassets, rfl⟩ := Option.map_eq_some_iff.mp h
      exact AssetLedger.mint_decimals i a n L.assets assets hassets
  dispatch_decimals _ _ _ _ _ _ _ h := by
    cases h
    rfl

/-- A registry with one asset on one chain leads from the contract back to the asset. -/
theorem registered_routes (chain i : ℕ) (native : Bool) (contract : Bytes) (decimals : UInt8)
    (dest j : ℕ) (found : Bytes)
    (h : (registered emptyRegistry ⟨i, native, oneChain chain contract decimals⟩).tokenContracts.get
      (dest, j) = some found) :
    (registered emptyRegistry ⟨i, native, oneChain chain contract decimals⟩).contractToAsset.get
      (dest, found) = some j := by
  change (StorageMap.empty.insert (chain, i) contract).get (dest, j) = some found at h
  change (StorageMap.empty.insert (chain, contract) i).get (dest, found) = some j
  rw [StorageMap.get_insert] at h
  split at h
  · rename_i hkey
    cases hkey
    cases h
    exact StorageMap.get_insert_self _ _ _
  · cases h

theorem registered_near (chain i : ℕ) (native : Bool) (contract : Bytes) (decimals : UInt8)
    (hdecimals : decimals.toNat ≤ 38) (dest j : ℕ) (e l : UInt8)
    (h : (registered emptyRegistry ⟨i, native, oneChain chain contract decimals⟩).precisions.get
      (j, dest) = some e) : scale e l ≤ 38 := by
  change (StorageMap.empty.insert (i, chain) decimals).get (j, dest) = some e at h
  rw [StorageMap.get_insert] at h
  split at h
  · cases h
    exact Nat.le_trans (Nat.sub_le _ _) hdecimals
  · cases h

theorem bridge_agreed : bridge.Agreed where
  routes x dest i contract h := by
    cases x with
    | here => exact registered_routes 1 0 true _ 18 dest i contract h
    | there => exact registered_routes 2 5 false _ 18 dest i contract h
  linked x := by
    cases x with
    | here => decide +kernel
    | there => decide +kernel
  precise x := by
    cases x with
    | here => decide +kernel
    | there => decide +kernel
  fine x := by
    cases x with
    | here => decide
    | there => decide
  near x i dest e h := by
    cases x with
    | here => exact registered_near 1 0 true _ 18 (by decide) dest i e _ h
    | there => exact registered_near 2 5 false _ 18 (by decide) dest i e _ h
  codec x y message := by
    simp only [bridge, carrying, tokenConfig, decode_encode]

/-- Both sides before anything is sent: alice has a thousand units here. -/
def apart : Link Bytes32 ℕ ℕ TokenRuntime where
  storage
    | .here =>
      { registry := bridge.registry .here
        runtime :=
          { ledger := Ledger.endowed [(alice, 1000000000000000)]
            issued := 1000000000000000
            assets := ⟨fun _ => 0, fun _ => 1, fun _ _ => 0, fun _ => 10⟩ }
        outbox := []
        events := [] }
    | .there =>
      { registry := bridge.registry .there
        runtime :=
          { ledger := Ledger.vacant
            issued := 0
            assets := ⟨fun _ => 0, fun _ => 1, fun _ _ => 0, fun _ => 10⟩ }
        outbox := []
        events := [] }
  flight := []

/-- The address whose padding is the origin of an unsigned call of `beneficiary`. -/
def address : Bytes := List.replicate 20 2

theorem address_length : address.length ≤ 32 := by decide

/-- Thirty units on their way back, with a call that sends fifteen of them out again. -/
def back : SendParams ℕ ℕ :=
  { hundredUnits with
    assetId := 5
    destination := 2
    recipient := ⟨address, address_length⟩
    amount := balance 300000000000
    callData := some [1] }

/-- A hundred units there, thirty of them back, and fifteen out again, which time out. -/
def linkTrace : List (LinkOp (RawOrigin Bytes32) ℕ ℕ TokenRuntime) :=
  [.send .here (.signed alice) hundredUnits,
    .deliver 0,
    .send .there (.signed beneficiary) back,
    .deliver 0,
    .timeout 0]

theorem apart_inOrder : bridge.InOrder apart where
  steady x := by
    cases x with
    | here => exact ⟨rfl, fun i => rfl⟩
    | there => exact ⟨rfl, fun i => rfl⟩
  posted p hp := absurd hp List.not_mem_nil

/-- A message is accepted if its calldata, where it has any, runs through: what it does there is
a send. -/
theorem bridge_accepts (l : Link Bytes32 ℕ ℕ TokenRuntime) (x : Side) (request : PostRequest ℕ)
    (hwhole : KeepsWhole (O := RawOrigin Bytes32) (bridge.config x) Tokens.view (l.storage x)
      (.onAccept request))
    (hruns : ∀ found ∈ paid (bridge.config x) (l.storage x) request, found.1.data = [] ∨
      (processCalldata (bridge.config x) request.source found.1 found.2.1.account
        { l.storage x with runtime := found.2.2 }).1.toOption = some ()) :
    bridge.Accepts l x request := by
  constructor
  · refine ⟨hwhole, fun message credit L hcredits hL hdata hrefused => ?_⟩
    obtain ⟨e, t, -, hcall⟩ := (processCalldata_refused_iff (bridge.config x) _ _ _ _).mpr hrefused
    rcases hruns _ ((paid_eq_some_iff _ _ _ _ _).mpr ⟨hcredits, hL⟩) with hempty | hok
    · exact hdata hempty
    · rw [hcall] at hok
      cases hok
  · intro c hc
    obtain ⟨who, params, -, hsend⟩ := carrying_called _ _ _ request _ c hc
    exact Relation.ReflTransGen.single (Or.inl ⟨.signed who, params, hsend⟩)
  · intro c hc
    obtain ⟨who, params, hwho, hsend⟩ := carrying_called _ _ _ request _ c hc
    have hbacks := backs_send (bridge_laws.tokens x) (.signed who) params c.1 c.2
      (fun heq => hwho (Option.some.inj heq)) hsend (bridge.asset x)
    unfold Backs at hbacks
    unfold brought
    omega

theorem link_creates_no_value_linkTrace :
    bridge.worth (run (linkStep bridge) apart linkTrace) ≤ bridge.worth apart := by
  have hops : Along (linkStep bridge) bridge.Admits apart linkTrace := by
    refine ⟨?_, fun p hp _ => bridge_accepts _ _ _ ?_ ?_, ?_, fun p hp _ => bridge_accepts _ _ _ ?_ ?_,
      by decide +kernel, trivial⟩
    · change some alice ≠ some palletAccount
      decide
    · revert p
      decide +kernel
    · revert p
      decide +kernel
    · change some beneficiary ≠ some palletAccount
      decide
    · revert p
      decide +kernel
    · revert p
      decide +kernel
  exact link_creates_no_value bridge_laws bridge_agreed apart linkTrace apart_inOrder hops

end Mock

end NuloChain.Hft
