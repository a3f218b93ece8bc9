import NuloChain.SponsorshipPrompt
import NuloChain.FrameAnswers

/-! What the calls answer, told from the state they are made in. Of the errors that stand for a
refusal of the currency, two are about an account that has no room for the consumer reference of
another hold and one is about a freeze; the checks that come before a transfer are otherwise enough
for it to succeed in every state that a run reaches. -/
namespace NuloChain.Sponsorship
open Frame Frame.Dispatch
set_option linter.unusedSectionVars false
variable {A O R Λ : Type} [DecidableEq A] [DecidableEq R] (T : Config A O R Λ)

/-- No freeze keeps the sponsored amount of `b` on hold. -/
def thawed (frozen totalOnHold : Λ → A → ℕ) (b : A) (s : T.State) : Bool :=
  (s.sponsorships.get b).all fun record =>
    decide (Thawed T frozen totalOnHold s.runtime b record.amount)

variable {frozen totalOnHold : Λ → A → ℕ} {room : Λ → A → Bool}

end NuloChain.Sponsorship
