import NuloChain.FrameDispatch

/-! What a computation answers, told beforehand. A computation is decided by a list of checks if
it fails with the error of the first one that fails, and succeeds if none does; sequences are
decided by the checks of their parts, one after the other. -/
namespace Frame

namespace Dispatch
variable {σ ε α β : Type}

end Dispatch
end Frame
