import ConsensusControl.Proofs.Consensus.HorizonStart
import ConsensusControl.Proofs.Solver.Descent

namespace ConsensusControl

variable {α : Type} [Scalar α]

namespace Gradient

end Gradient

end ConsensusControl
