import NuloChain.HftLink

/-! How a message in flight ends. Whatever has happened on the link since it was sent, a timeout
pays its sender back what was taken from it, and a delivery credits the recipient that it names
with what this comes to on the other side. Short of the payment itself nothing can fail on the
way back; on the way out only what the message itself says can. Calldata that is refused comes
too late to stop the payment. -/
namespace NuloChain.Hft
open Frame
set_option linter.unusedSectionVars false
variable {A O C I K Λ : Type} [DecidableEq A] [DecidableEq C] [DecidableEq I]
variable (T : Config A O C I K Λ) (B : Bridge A O C I K Λ)

/-- The storage after a payment that came to `L` and was announced by `e`. -/
def announced (s : Storage A C I Λ) (L : Λ) (e : Event A C I) : Storage A C I Λ :=
  { s with runtime := L, events := s.events ++ [e] }

/-- Side `x` of the link has paid for the `n`-th parcel, which is no longer in flight. -/
def Link.close (l : Link A C I Λ) (n : ℕ) (x : Side) (L : Λ) (e : Event A C I) :
    Link A C I Λ where
  storage := Function.update l.storage x (announced (l.storage x) L e)
  flight := l.flight.eraseIdx n

/-- A parcel that comes back: its sender gets what was sent. -/
def Bridge.returned (l : Link A C I Λ) (n : ℕ) (p : Parcel A C I) : Link A C I Λ :=
  match payment (B.config p.side) (B.registry p.side) p.sent.assetId p.sent.who p.sent.amount.val
    (l.storage p.side).runtime with
  | some L =>
    l.close n p.side L (.tokenRefunded p.sent.who p.sent.amount p.sent.post.dest)
  | none => l

/-- What is left to do for a message once its credit has been paid. -/
def Bridge.afterPayment (p : Parcel A C I) (message : Message) (credit : Credit I) (L : Λ) :
    Pallet A C I Λ Unit := fun s =>
  (do
    processCalldata (B.config p.side.other) (B.chain p.side) message credit.account
    depositEvent (.tokenReceived ((B.config p.side.other).fromBytes credit.account) credit.amount
      (B.chain p.side))) { s with runtime := L }

/-- A parcel that arrives: the recipient gets what the parcel comes to on the other side, and
calldata, if there is any, finds that payment made. -/
def Bridge.delivered (l : Link A C I Λ) (n : ℕ) (p : Parcel A C I) (message : Message) :
    Link A C I Λ :=
  match B.landing p message with
  | none => l
  | some credit =>
    match payment (B.config p.side.other) (B.registry p.side.other) credit.assetId
      ((B.config p.side.other).fromBytes credit.account) credit.amount.val
      (l.storage p.side.other).runtime with
    | none => l
    | some L =>
      if message.data = [] then
        l.close n p.side.other L (.tokenReceived ((B.config p.side.other).fromBytes credit.account)
          credit.amount (B.chain p.side))
      else l.answer n p.side.other (B.afterPayment p message credit L)

/-- What happens outside the pallet leaves the decimals of the assets alone, and a call does so
and uses the pallet for sends only. -/
def Bridge.LeavesDecimals (l : Link A C I Λ) : LinkOp O C I Λ → Prop
  | .receive x request => B.CallsInParts l x request
  | .environment x f => (B.config x).assets.decimals (f (l.storage x).runtime) =
      (B.config x).assets.decimals (l.storage x).runtime
  | .deliver n => ∀ p ∈ l.flight[n]?, B.Arrives p → B.CallsInParts l p.side.other (B.request p)
  | _ => True

variable {T B}

/-! The link stays in order. -/

theorem Bridge.answer_inOrder (l : Link A C I Λ) (n : ℕ) (x : Side)
    (callback : Pallet A C I Λ Unit) (hl : B.InOrder l)
    (hgrows : B.Grows x (l.storage x) (settle callback (l.storage x))) :
    B.InOrder (l.answer n x callback) := by
  refine B.put_inOrder l x _ _ hl hgrows (fun p hp => ?_)
  split at hp
  · exact List.mem_of_mem_eraseIdx hp
  · exact hp

theorem Bridge.inOrder_step (h : B.FixedDecimals) (l : Link A C I Λ) (op : LinkOp O C I Λ)
    (hl : B.InOrder l) (hleaves : B.LeavesDecimals l op) : B.InOrder (linkStep B l op) := by
  cases op with
  | send x origin params =>
    exact B.put_inOrder l x _ _ hl (h.stepSend_grows x origin params _ (hl.steady x))
      (fun _ hp => hp)
  | receive x request =>
    exact B.put_inOrder l x _ _ hl (h.onAccept_grows x request l (hl.steady x) hleaves)
      (fun _ hp => hp)
  | environment x f =>
    have hgrows := (Bridge.grows_refl x _ (hl.steady x)).of_same x (l.storage x) _
      { l.storage x with runtime := f (l.storage x).runtime } rfl rfl hleaves
    exact B.put_inOrder l x _ _ hl hgrows (fun _ hp => hp)
  | deliver n =>
    simp only [linkStep]
    cases hp : l.flight[n]? with
    | none => exact hl
    | some p =>
      dsimp only
      split
      · rename_i harrives
        exact B.answer_inOrder l n _ _ hl
          (h.onAccept_grows _ _ l (hl.steady p.side.other) (hleaves p hp harrives))
      · exact hl
  | timeout n =>
    simp only [linkStep]
    cases hp : l.flight[n]? with
    | none => exact hl
    | some p => exact B.answer_inOrder l n _ _ hl (h.onTimeout_grows _ _ _ (hl.steady p.side))

/-! The callbacks, once their lookups have succeeded. -/

theorem onTimeout_of_credit (request : PostRequest C) (s : Storage A C I Λ) (credit : Credit I)
    (hcredit : timeoutCredit T request s = (.ok credit, s)) :
    onTimeout T (.post request) s =
      (payOut T credit.assetId (T.fromBytes credit.account) credit.amount >>= fun _ =>
        depositEvent (.tokenRefunded (T.fromBytes credit.account) credit.amount request.dest)) s :=
  Dispatch.bind_of_ok _ _ s s credit hcredit

theorem Link.put_announced (l : Link A C I Λ) (n : ℕ) (x : Side) (L : Λ) (e : Event A C I) :
    l.put x (announced (l.storage x) L e) (l.flight.eraseIdx n) = l.close n x L e := by
  unfold Link.put Link.close
  rw [announced, List.drop_length, List.map_nil, List.append_nil]

/-- Only what a callback does on the present storage matters. -/
theorem Link.answer_congr (l : Link A C I Λ) (n : ℕ) (x : Side)
    (callback callback' : Pallet A C I Λ Unit)
    (h : callback (l.storage x) = callback' (l.storage x)) :
    l.answer n x callback = l.answer n x callback' := by
  unfold Link.answer settle
  rw [h]

/-! The two ends of a parcel. -/

theorem Bridge.Agreed.timeout_eq (hagreed : B.Agreed)
    (haccounts : ∀ x a, (B.config x).fromBytes ((B.config x).intoBytes a) = a)
    (l : Link A C I Λ) (n : ℕ) (p : Parcel A C I) (hl : B.InOrder l)
    (hp : l.flight[n]? = some p) : linkStep B l (.timeout n) = B.returned l n p := by
  have hposted := hl.posted p (List.mem_of_getElem? hp)
  have hsteady := hl.steady p.side
  -- the lookups cannot fail: the registry and the decimals are the ones of the send
  have hcallback := onTimeout_of_credit (B.request p) (l.storage p.side) _
    (hagreed.timeoutCredit_eq p _ hposted hsteady)
  rw [haccounts] at hcallback
  have hstep : linkStep B l (.timeout n) =
      l.answer n p.side (onTimeout (B.config p.side) (.post (B.request p))) := by
    simp only [linkStep, hp]
  rw [hstep, Bridge.returned, ← hsteady.registry]
  cases hpay : payment (B.config p.side) (l.storage p.side).registry p.sent.assetId p.sent.who
    p.sent.amount.val (l.storage p.side).runtime with
  | some L =>
    have hpaid := (payOut_ok_iff _ _ _ _ _ _).mpr ⟨L, hpay, rfl⟩
    rw [Dispatch.bind_of_ok _ _ _ _ _ hpaid] at hcallback
    rw [Link.answer_ok l n _ _ _ hcallback]
    exact Link.put_announced l n p.side L _
  | none =>
    obtain ⟨e, hrefused⟩ := payOut_of_refused _ _ _ _ _ hpay
    rw [Dispatch.bind_of_error _ _ _ _ e hrefused] at hcallback
    exact Link.answer_error l n _ _ _ e hcallback (settle_same _ _ e hcallback)

theorem Bridge.Agreed.deliver_eq (hagreed : B.Agreed) (l : Link A C I Λ) (n : ℕ)
    (p : Parcel A C I) (hl : B.InOrder l) (hp : l.flight[n]? = some p) (harrives : B.Arrives p)
    (message : Message)
    (hdecoded : (B.config p.side.other).abiDecode p.sent.post.body = some message) :
    linkStep B l (.deliver n) = B.delivered l n p message := by
  have hposted := hl.posted p (List.mem_of_getElem? hp)
  have hsteady := hl.steady p.side.other
  have hcredits := hagreed.credits_iff p (l.storage p.side.other) hposted harrives hsteady
  have hstep : linkStep B l (.deliver n) =
      l.answer n p.side.other (onAccept (B.config p.side.other) (B.request p)) := by
    simp only [linkStep, hp, if_pos harrives]
  rw [hstep, Bridge.delivered, ← hsteady.registry]
  cases hlands : B.landing p message with
  | none =>
    -- the body decodes to this message only, and this message lands nowhere
    have hno : ∀ m credit,
        ¬ Credits (B.config p.side.other) (l.storage p.side.other) (B.request p) m credit := by
      intro m credit hcredit
      obtain ⟨hm, hland⟩ := (hcredits m credit).mp hcredit
      obtain rfl := Option.some.inj (hdecoded.symm.trans hm)
      rw [hlands] at hland
      cases hland
    obtain ⟨e, hcallback⟩ := onAccept_of_no_credit _ _ _ hno
    exact Link.answer_error l n _ _ _ e hcallback (settle_same _ _ e hcallback)
  | some credit =>
    have hfound := (hcredits message credit).mpr ⟨hdecoded, hlands⟩
    dsimp only
    cases hpay : payment (B.config p.side.other) (l.storage p.side.other).registry credit.assetId
      ((B.config p.side.other).fromBytes credit.account) credit.amount.val
      (l.storage p.side.other).runtime with
    | none =>
      have hcallback := onAccept_of_credit _ _ _ message credit hfound
      obtain ⟨e, hrefused⟩ := payOut_of_refused _ _ _ _ _ hpay
      rw [Dispatch.bind_of_error _ _ _ _ e hrefused] at hcallback
      exact Link.answer_error l n _ _ _ e hcallback (settle_same _ _ e hcallback)
    | some L =>
      have hcallback := onAccept_of_paid _ _ _ message credit L hfound hpay
      dsimp only
      split
      · rename_i hempty
        rw [Dispatch.when, if_neg (not_not.mpr hempty)] at hcallback
        rw [Link.answer_ok l n _ _ _ hcallback]
        exact Link.put_announced l n p.side.other L _
      · rename_i hdata
        -- from here on the callback is the calldata, run with the payment made
        rw [Dispatch.when, if_pos hdata] at hcallback
        exact Link.answer_congr l n _ _ _ hcallback

/-- After any run of the link, a parcel that times out pays its sender back what it sent, and a
parcel that is delivered pays the recipient it names what that comes to on the other side. If the
token pallets do not pay, or the message names no account or an amount too large for a balance,
the parcel stays in flight and nothing changes. -/
theorem parcel_ends_as_sent (h : B.FixedDecimals) (hagreed : B.Agreed)
    (haccounts : ∀ x a, (B.config x).fromBytes ((B.config x).intoBytes a) = a)
    (l l' : Link A C I Λ) (ops : List (LinkOp O C I Λ)) (hl : B.InOrder l)
    (hleaves : Along (linkStep B) B.LeavesDecimals l ops) (hrun : run (linkStep B) l ops = l')
    (n : ℕ) (p : Parcel A C I) (hp : l'.flight[n]? = some p) :
    linkStep B l' (.timeout n) = B.returned l' n p ∧
    (B.Arrives p → ∃ message, p.sent.post.body = (B.config p.side).abiEncode message ∧
      message.sender = ((B.config p.side).intoBytes p.sent.who).val ∧
      linkStep B l' (.deliver n) = B.delivered l' n p message) := by
  have hend : B.InOrder l' := by
    rw [← hrun]
    exact run_invariant (linkStep B) _ B.InOrder
      (fun l op hl hop => B.inOrder_step h l op hl hop) ops l hl hleaves
  refine ⟨hagreed.timeout_eq haccounts l' n p hend hp, fun harrives => ?_⟩
  obtain ⟨message, e, hbody, hsender, -⟩ := (hend.posted p (List.mem_of_getElem? hp)).body
  refine ⟨message, hbody, hsender, hagreed.deliver_eq l' n p hend hp harrives message ?_⟩
  rw [hbody]
  exact hagreed.codec p.side p.side.other message

namespace Mock

/-- Alice's hundred units, in twelve decimals, would come to a hundred units in ten. -/
theorem parcel_ends_as_sent_hundredUnits :
    ∃ p l', run (linkStep bridge) apart [.send .here (.signed alice) hundredUnits] = l' ∧
      l'.flight[0]? = some p ∧ bridge.Arrives p ∧ p.sent.amount.val = 100000000000000 ∧
      bridge.arriving p = 1000000000000 ∧
      linkStep bridge l' (.timeout 0) = bridge.returned l' 0 p ∧
      ∃ message, linkStep bridge l' (.deliver 0) = bridge.delivered l' 0 p message := by
  have hlength : (run (linkStep bridge) apart
      [.send .here (.signed alice) hundredUnits]).flight.length = 1 := by decide +kernel
  have hfirst : ∀ p ∈ (run (linkStep bridge) apart
      [.send .here (.signed alice) hundredUnits]).flight[0]?,
      bridge.Arrives p ∧ p.sent.amount.val = 100000000000000 ∧
        bridge.arriving p = 1000000000000 := by decide +kernel
  obtain ⟨p, hp⟩ : ∃ p, (run (linkStep bridge) apart
      [.send .here (.signed alice) hundredUnits]).flight[0]? = some p :=
    ⟨_, List.getElem?_eq_getElem (by rw [hlength]; decide)⟩
  obtain ⟨harrives, hamount, harriving⟩ := hfirst p hp
  obtain ⟨hreturned, hdelivered⟩ := parcel_ends_as_sent bridge_laws.toFixedDecimals bridge_agreed
    (fun _ _ => rfl) apart _ [.send .here (.signed alice) hundredUnits] apart_inOrder
    ⟨trivial, trivial⟩ rfl 0 p hp
  obtain ⟨message, -, -, hdelivered⟩ := hdelivered harrives
  exact ⟨p, _, rfl, hp, harrives, hamount, harriving, hreturned, message, hdelivered⟩

end Mock

end NuloChain.Hft
