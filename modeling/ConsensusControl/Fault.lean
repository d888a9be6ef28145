import ConsensusControl.Scalar

namespace ConsensusControl

/-- A broken promise of the caller: the operation has no answer, as opposed to an answer that is an
error of the domain. -/
inductive Fault
  | lengthMismatch (what : String) (expected actual : Nat)
  | outOfRange (what : String) (index size : Nat)
  | emptyInterval
  | staleLayout (agent : Nat)
  | notPrepared
  deriving DecidableEq, Repr

/-- Results of operations that rely on their callers. -/
abbrev Checked (β : Type) := Except Fault β

namespace Checked

def require (p : Prop) [Decidable p] (fault : Fault) : Checked Unit :=
  if p then .ok () else .error fault

/-- Moves a number into `[lo, hi]`. What is not a number stays as it is. -/
def clamp {α : Type} [Scalar α] (x lo hi : α) : Checked α := do
  require (lo ≤ hi) .emptyInterval
  return if x < lo then lo else if hi < x then hi else x

end Checked

end ConsensusControl
