import NuloChain.FrameDispatch
import NuloChain.FrameStorage
import NuloChain.FrameCurrency

/-! Prepaid gas: the pallet that sells fee credit, and the fee adapter that charges it. The
adapter is taken as the runtime instantiates it, with this pallet as its `PrepaidFee` and
one currency for both. -/
namespace NuloChain.Prepaid
open Frame

inductive Event (A : Type)
  | prepaidPurchased (sponsor beneficiary : A) (amount remaining : ℕ)
  | prepaidFeeWithdrawn (who : A) (amount remaining : ℕ)
  | prepaidFeeRefunded (who : A) (amount remaining : ℕ)
  | prepaidFeePaid (who : A) (actualFee tip remaining : ℕ)
  deriving DecidableEq, Repr

/-- The pallet's two errors, `BadOrigin`, and `InvalidTransaction::Payment` of the adapter. -/
inductive Error | purchaseAmountTooLow | cannotPurchaseCredit | badOrigin | payment
  deriving DecidableEq, Repr

/-- The two pallets' configuration. `onUnbalanceds` is what the handler of collected fees
does with the credits it is given. -/
structure Config (A O Λ : Type) where
  currency : Balanced A Λ
  system : FrameSystem A Λ
  ensureSigned : O → Option A
  onUnbalanceds : List ℕ → Λ → Λ
  palletAccount : A
  minPurchase : ℕ
  balanceMax : ℕ

/-- Storage. `collected` logs the credits handed to the fee handler. -/
structure Storage (A Λ : Type) where
  prepaidCredits : StorageMap A ℕ
  palletAccountInitialized : Bool
  runtime : Λ
  collected : List ℕ
  events : List (Event A)

/-- The credits an amount was withdrawn as, kept between the two halves of a charge. -/
inductive LiquidityInfo (A : Type)
  | native (who : A) (feeCredit tipCredit : Option ℕ)
  | prepaid (who : A) (paidInclusionFee feeCredit : ℕ) (tipCredit : Option ℕ)
  | noCharge
  deriving DecidableEq, Repr

variable {A O Λ : Type} [DecidableEq A]

abbrev Pallet (A Λ α : Type) : Type := Dispatch (Storage A Λ) Error α

variable (T : Config A O Λ)

def saturatingAdd (a b : ℕ) : ℕ := min (a+b) T.balanceMax

/-- `saturated_into::<u128>`. -/
def saturatedIntoU128 (n : ℕ) : ℕ := min n (2^128-1)

def depositEvent (e : Event A) : Pallet A Λ Unit :=
  Dispatch.write fun s => { s with events := s.events ++ [e] }

def remainingCredit (s : Storage A Λ) (who : A) : ℕ := s.prepaidCredits.getD who 0

def ensurePalletAccount (s : Storage A Λ) : Storage A Λ :=
  if s.palletAccountInitialized then s
  -- a provider reference keeps the account record, not a balance below the minimum
  else { s with
    runtime := T.system.incProviders T.palletAccount s.runtime
    palletAccountInitialized := true }

/-- `PrepaidCredits::mutate` with a saturating addition. -/
def addCredit (who : A) (amount : ℕ) (s : Storage A Λ) : Storage A Λ :=
  { s with prepaidCredits :=
      s.prepaidCredits.mutate who 0 (fun stored => saturatingAdd T stored amount) }

/-- The body of `purchase_for`, inside its storage layer. -/
def purchaseForBody (sponsor beneficiary : A) (amount : ℕ) : Pallet A Λ Unit := do
  Dispatch.ensure (amount ≠ 0 ∧ T.minPurchase ≤ amount) .purchaseAmountTooLow
  Dispatch.write (ensurePalletAccount T)
  let s ← Dispatch.read
  let L ← Dispatch.okOr (T.currency.transfer sponsor T.palletAccount amount .preserve s.runtime)
    .cannotPurchaseCredit
  Dispatch.write fun s => { s with runtime := L }
  Dispatch.write (addCredit T beneficiary amount)
  let s ← Dispatch.read
  depositEvent (.prepaidPurchased sponsor beneficiary amount (remainingCredit s beneficiary))

def purchaseFor (sponsor beneficiary : A) (amount : ℕ) : Pallet A Λ Unit :=
  Dispatch.transactional (purchaseForBody T sponsor beneficiary amount)

def purchase (origin : O) (beneficiary : A) (amount : ℕ) : Pallet A Λ Unit :=
  Dispatch.transactional do
    let sponsor ← Dispatch.okOr (T.ensureSigned origin) .badOrigin
    purchaseFor T sponsor beneficiary amount

def withdrawCredit (who : A) (amount : ℕ) : Pallet A Λ Unit :=
  if amount = 0 then pure ()
  else do
    let s ← Dispatch.read
    Dispatch.ensure (amount ≤ remainingCredit s who) .payment
    let remaining := remainingCredit s who-amount
    Dispatch.write fun s => { s with prepaidCredits := s.prepaidCredits.insert who remaining }
    depositEvent (.prepaidFeeWithdrawn who amount remaining)

def refundCredit (who : A) (amount : ℕ) : Pallet A Λ Unit :=
  if amount = 0 then pure ()
  else do
    Dispatch.write (addCredit T who amount)
    let s ← Dispatch.read
    depositEvent (.prepaidFeeRefunded who amount (remainingCredit s who))

def canWithdrawNative (who : A) (amount : ℕ) : Pallet A Λ Unit :=
  if amount = 0 then pure ()
  else do
    let s ← Dispatch.read
    Dispatch.ensure (T.currency.canWithdraw s.runtime who amount = true) .payment

def withdrawTip (who : A) (tip : ℕ) : Pallet A Λ Unit := canWithdrawNative T who tip

/-- `F::withdraw` with `Precision::Exact` and `Fortitude::Polite`; the credit it returns. -/
def withdrawExact (who : A) (amount : ℕ) (preservation : Preservation) : Pallet A Λ ℕ := do
  let s ← Dispatch.read
  let taken ← Dispatch.okOr
    (T.currency.withdraw who amount .exact preservation .polite s.runtime) .payment
  Dispatch.write fun s => { s with runtime := taken.2 }
  pure taken.1

def nativeCredit (who : A) (amount : ℕ) : Pallet A Λ (Option ℕ) :=
  if amount = 0 then pure none
  else do
    let credit ← withdrawExact T who amount .preserve
    pure (some credit)

/-- `Imbalance::split`. -/
def split (credit amount : ℕ) : ℕ × ℕ := (min credit amount, credit-amount)

/-- The tip is taken last; if that fails, the fee credit already taken is dropped. -/
def prepaidTip (who : A) (inclusionFee feeCredit tip : ℕ) : Pallet A Λ (LiquidityInfo A) :=
  fun s =>
    match nativeCredit T who tip s with
    | (.ok tipCredit, t) => (.ok (.prepaid who inclusionFee feeCredit tipCredit), t)
    | (.error e, t) => (.error e, { t with runtime := T.currency.dropCredit feeCredit t.runtime })

/-- The branch of `withdraw_fee` that charges the inclusion fee to prepaid credit. -/
def withdrawPrepaid (who : A) (inclusionFee tip : ℕ) : Pallet A Λ (LiquidityInfo A) := do
  -- for the tip this is a check only; it is taken at the end
  withdrawTip T who tip
  withdrawCredit who inclusionFee
  let s ← Dispatch.read
  match T.currency.withdraw T.palletAccount inclusionFee .exact .expendable .polite s.runtime with
  | some (feeCredit, L) =>
    Dispatch.write fun s => { s with runtime := L }
    prepaidTip T who inclusionFee feeCredit tip
  -- the pallet account cannot pay: the payer gets the credit back and the charge fails
  | none =>
    refundCredit T who inclusionFee
    Dispatch.fail .payment

def withdrawFee (who : A) (feeWithTip tip : ℕ) : Pallet A Λ (LiquidityInfo A) :=
  if feeWithTip = 0 then pure .noCharge
  else do
    let inclusionFee := feeWithTip-tip
    let s ← Dispatch.read
    -- credit pays the whole inclusion fee or none of it
    if inclusionFee ≠ 0 ∧ inclusionFee ≤ remainingCredit s who then
      withdrawPrepaid T who inclusionFee tip
    else do
      let credit ← withdrawExact T who feeWithTip .preserve
      let (tipCredit, feeCredit) := split credit tip
      pure (.native who (some feeCredit) (some tipCredit))

def canWithdrawFee (who : A) (feeWithTip tip : ℕ) : Pallet A Λ Unit :=
  if feeWithTip = 0 then pure ()
  else do
    let inclusionFee := feeWithTip-tip
    let s ← Dispatch.read
    if inclusionFee ≠ 0 ∧ inclusionFee ≤ remainingCredit s who then canWithdrawNative T who tip
    else canWithdrawNative T who feeWithTip

/-- `OU::on_unbalanceds`. -/
def onUnbalanceds (credits : List ℕ) (s : Storage A Λ) : Storage A Λ :=
  { s with runtime := T.onUnbalanceds credits s.runtime, collected := s.collected ++ credits }

/-- The fee credit after the refund: what could not be given back is merged into it. -/
def refundNativeFee (who : A) (paidFee refund : ℕ) (s : Storage A Λ) : ℕ × Storage A Λ :=
  if refund = 0 then (paidFee, s)
  else if T.system.accountExists s.runtime who then
    match T.currency.resolve who refund s.runtime with
    | some L => (paidFee, { s with runtime := L })
    | none => (paidFee+refund, s)
  else (paidFee+refund, s)

def settleNativeFee (who : A) (feeCredit : Option ℕ) (correctedFee : ℕ) (tipCredit : Option ℕ)
    (s : Storage A Λ) : Storage A Λ :=
  match feeCredit with
  | some credit =>
    let (paid, refund) := split credit correctedFee
    let (paidFee, t) := refundNativeFee T who paid refund s
    onUnbalanceds T (paidFee :: tipCredit.toList) t
  | none => onUnbalanceds T tipCredit.toList s

/-- The refund of `settle_prepaid_fee`, with the fee credit that is left to keep. -/
def refundPrepaidFee (who : A) (paidFee refund : ℕ) : Pallet A Λ ℕ :=
  if refund = 0 then pure paidFee
  else do
    let s ← Dispatch.read
    match T.currency.resolve T.palletAccount refund s.runtime with
    | some L =>
      Dispatch.write fun s => { s with runtime := L }
      refundCredit T who refund
      pure paidFee
    -- a refused deposit is kept as part of the fee, and no credit is given back
    | none => pure (paidFee+refund)

def settlePrepaidFee (who : A) (feeCredit paidInclusionFee correctedFee : ℕ) :
    Pallet A Λ Unit := do
  let feeToKeep := min correctedFee paidInclusionFee
  let (paid, refund) := split feeCredit feeToKeep
  let paidFee ← refundPrepaidFee T who paid refund
  Dispatch.write (onUnbalanceds T [paidFee])

def correctAndDepositFee (correctedFeeWithTip tip : ℕ) (info : LiquidityInfo A) :
    Pallet A Λ Unit :=
  let correctedFee := correctedFeeWithTip-tip
  match info with
  | .noCharge => pure ()
  | .native who feeCredit tipCredit =>
    Dispatch.write (settleNativeFee T who feeCredit correctedFee tipCredit)
  | .prepaid who paidInclusionFee feeCredit tipCredit => do
    settlePrepaidFee T who feeCredit paidInclusionFee correctedFee
    Dispatch.write (onUnbalanceds T tipCredit.toList)
    -- the event names the corrected fee, whatever has been kept
    let s ← Dispatch.read
    depositEvent (.prepaidFeePaid who (saturatedIntoU128 correctedFee) (saturatedIntoU128 tip)
      (saturatedIntoU128 (remainingCredit s who)))

end NuloChain.Prepaid
