import ConsensusControl.Consensus.Controller

namespace ConsensusControl

variable {α : Type} [Scalar α]

namespace Vec

def requireSize (what : String) (size : Nat) (xs : Vec α) : Checked (Vec α) := do
  Checked.require (xs.length = size) (.lengthMismatch what size xs.length)
  return xs

/-- Writes `values` over the front of `old`. -/
def overwrite (what : String) (old values : Vec α) : Checked (Vec α) := do
  Checked.require (values.length ≤ old.length) (.outOfRange what values.length old.length)
  return values ++ old.drop values.length

end Vec

namespace LocalProblem

/-- Initial state of the guess: the own first sample and, for each copy, where the neighbor says it is. -/
def guessState (p : LocalProblem α) : Checked (Vec α) := do
  let own ← Vec.requireSize "own state" p.index.nxOwn (← p.agent.agentState.xAt 0)
  let copies ← p.pairs.mapM fun (nb, b) => do
    Vec.requireSize "neighbor state" b.x.size (← nb.agentState.xAt 0)
  return own ++ copies.flatten

/-- Control sample `k` of the guess: the own one, then control and influence of each copy. -/
def guessControl (p : LocalProblem α) (k : Nat) : Checked (Vec α) := do
  let own ← Vec.requireSize "own control" p.index.nuOwn (← p.agent.agentState.uAt k)
  let copies ← p.pairs.mapM fun (nb, b) => do
    let u ← Vec.requireSize "copied control" b.u.size (← nb.localCopy.uAt k)
    let v ← Record.sampleAt "copied influence" nb.localCopy.v b.v.size k
    return u ++ v
  return own ++ copies.flatten

/-- The last prediction as the start of the next local solve. -/
def guess (p : LocalProblem α) (samples : Nat) : Checked (Guess α) := do
  let x0 ← p.guessState
  let u ← (List.range samples).mapM p.guessControl
  return ⟨p.agent.agentState.t0, x0, u.flatten⟩

/-- The points of a solution on its grid. -/
def solutionPoints (p : LocalProblem α) (s : LocalSolution α) : List (Point α) :=
  let n := s.t.length
  List.zipWith (fun t (z : Vec α × Vec α) => ⟨t, z.1, z.2⟩) s.t
    ((Trajectory.samples n p.index.nx s.x).zip (Trajectory.samples n p.index.nu s.u))

/-- `v_ij` along a solution, for a predicted neighbor. -/
def influenceAlong (p : LocalProblem α) (s : LocalSolution α) (nb : Neighbor α) : Option (Vec α) :=
  if nb.approximated then
    some ((p.solutionPoints s).flatMap fun z => (p.influence nb.id z).getD [])
  else none

/-- Stores a copy's part of a solution. -/
def storeCopy (p : LocalProblem α) (s : LocalSolution α) (t0 : α) (nb : Neighbor α)
    (b : NeighborBlock) : Checked (Neighbor α) := do
  let points := p.solutionPoints s
  let copy := nb.localCopy
  let x ← Vec.overwrite "copied states" copy.x (points.flatMap fun z => b.x.read z.x)
  let u ← Vec.overwrite "copied controls" copy.u (points.flatMap fun z => b.u.read z.u)
  let v ← Vec.overwrite "copied influences" copy.v (points.flatMap fun z => b.v.read z.u)
  return { nb with
    localCopy := { copy with t0, t := s.t, x, u, v }
    localInfluence := (p.influenceAlong s nb).getD nb.localInfluence }

/-- The agent with the solution as its prediction. -/
def store (p : LocalProblem α) (s : LocalSolution α) : Checked (Agent α) := do
  let points := p.solutionPoints s
  let state := p.agent.agentState
  let x ← Vec.overwrite "own states" state.x (points.flatMap fun z => p.index.ownX.read z.x)
  let u ← Vec.overwrite "own controls" state.u (points.flatMap fun z => p.index.ownU.read z.u)
  let t0 := s.t.headD state.t0
  let neighbors ← p.pairs.mapM fun (nb, b) => p.storeCopy s t0 nb b
  return { p.agent with agentState := { state with t0, t := s.t, x, u }, neighbors }

end LocalProblem

namespace LocalSolution

def checkLength (what : String) (expected actual : Nat) : Except SolveError Unit :=
  if actual = expected then .ok () else .error (.dimensionMismatch what expected actual)

/-- A solution counts if it has one sample per grid time and only finite numbers. -/
def check (s : LocalSolution α) (index : IndexMap) (samples : Nat) : Except SolveError Unit := do
  checkLength "local solution time grid" samples s.t.length
  checkLength "local solution states" (samples * index.nx) s.x.length
  checkLength "local solution controls" (samples * index.nu) s.u.length
  if Scalar.isFinite s.cost && s.x.all Scalar.isFinite && s.u.all Scalar.isFinite then .ok ()
  else .error (.numericalFailure "local solution contains non-finite values")

end LocalSolution

namespace Controller

/-- Solves the extended problem once. -/
def attempt (c : Controller α) (layout : Layout) :
    Checked (Except SolveError (LocalSolution α × Agent α)) := do
  let p ← LocalProblem.of c.agent layout
  let guess ← p.guess c.options.horizonSteps
  match ← c.solver p.toProblem guess c.options with
  | .error e => return .error e
  | .ok s =>
    match s.check layout.index c.options.horizonSteps with
    | .error e => return .error e
    | .ok () => return .ok (s, ← p.store s)

/-- Solves the extended problem and stores the prediction. A failure is counted and leaves the last
prediction in place. -/
def updateAgentStates (c : Controller α) : Controller α × Checked (Except SolveError Unit) :=
  match c.layout with
  | none => (c, .error .notPrepared)
  | some layout =>
    let c := if c.status = .failed then c else { c with status := .iterating }
    match c.attempt layout with
    | .error fault => (c, .error fault)
    | .ok (.error e) =>
      ({ c with consecutiveFailures := c.consecutiveFailures + 1, totalFailures := c.totalFailures + 1 },
        .ok (.error e))
    | .ok (.ok (s, agent)) =>
      ({ c with agent, consecutiveFailures := 0, lastCost := some s.cost }, .ok (.ok ()))

end Controller

end ConsensusControl
