import ConsensusControl.Error
import ConsensusControl.Transport.Mailbox

namespace ConsensusControl

/-- A way for records to travel between agents. Waiting for a record ends with `none` when none is on
its way. -/
class Transport (σ : Type) (α : outParam Type) where
  /-- Opens a mailbox. An open one stays as it is. -/
  register : AgentId → σ → σ
  /-- Closes a mailbox together with the records in it. -/
  deregister : AgentId → σ → σ
  send : Envelope α → σ → Except CommunicationError σ
  receive : AgentId → Key → σ → Except CommunicationError (Option (StateRecord α) × σ)

end ConsensusControl
