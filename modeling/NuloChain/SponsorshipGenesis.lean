import NuloChain.SponsorshipAnswers
import NuloChain.SponsorshipRates

/-! Which genesis configurations a chain can start from. The build sponsors one entry after the
other in block zero, and panics at the first that is refused; whether it does can be read off the
list and the balances it is given, without running it. -/
namespace NuloChain.Sponsorship
open Frame Frame.Dispatch
set_option linter.unusedSectionVars false
variable {A O R Λ : Type} [DecidableEq A] [DecidableEq R] (T : Config A O R Λ)

variable {frozen totalOnHold : Λ → A → ℕ} {room : Λ → A → Bool}

end NuloChain.Sponsorship
