import ConsensusControl.Agent.Records
import ConsensusControl.Model.Linear
import ConsensusControl.Proofs.Consensus.LocalSolve

namespace ConsensusControl

variable {α : Type} [Scalar α]

namespace Controller

/-- What can be asked of a controller. A local solve comes with the answer of the solver. -/
inductive Operation (α : Type)
  | solve (answer : Except SolveError (LocalSolution α))
  | couple
  | raise
  | adapt
  | receive (sender : AgentId) (kind : RecordKind) (record : StateRecord α)
  | send (phase : ExchangePhase)
  | shift (dt : α)
  | begin
  | finish
  | fail
  | restart (x : Vec α)
  | prepare

/-- Carries out an operation. What is refused leaves the controller as it is, and sending only reads. -/
def perform (c : Controller α) : Operation α → Checked (Controller α)
  | .solve answer =>
    let solved := { c with solver := fun _ _ _ => .ok answer }.updateAgentStates
    solved.2.map fun _ => { solved.1 with solver := c.solver }
  | .couple => c.updateCouplingStates
  | .raise => c.updateMultiplierStates
  | .adapt => c.adaptPenalties
  | .receive sender kind record => .ok (c.applyIncoming sender kind record).1
  | .send _ => .ok c
  | .shift dt => (c.shiftHorizon dt).2.map fun _ => (c.shiftHorizon dt).1
  | .begin => .ok c.beginSolve
  | .finish => .ok c.finishIteration
  | .fail => .ok c.markFailed
  | .restart x => .ok ((c.setInitialState x).toOption.getD c)
  | .prepare => .ok c.prepare.1

/-- One operation after the other. -/
def performAll (c : Controller α) (ops : List (Operation α)) : Checked (Controller α) :=
  ops.foldlM perform c

variable {c : Controller α}

theorem performAll_append (c : Controller α) (ops ops' : List (Operation α)) :
    c.performAll (ops ++ ops') = c.performAll ops >>= fun c' => c'.performAll ops' :=
  List.foldlM_append

/-- What is known of the end of a run is known of the end of its second part. -/
theorem performAll_parts {β : Type} {f : Controller α → β} {b : β} {ops ops' : List (Operation α)}
    (h : (c.performAll (ops ++ ops')).toOption.map f = some b) :
    ∃ before after, c.performAll ops = .ok before ∧ before.performAll ops' = .ok after ∧
      f after = b := by
  obtain ⟨after, hsome, hf⟩ := Option.map_eq_some_iff.mp h
  have hall := toOption_eq_some.mp hsome
  rw [performAll_append] at hall
  obtain ⟨before, hbefore, hafter⟩ := bind_eq_ok.mp hall
  exact ⟨before, after, hbefore, hafter, hf⟩

/-- An operation is an act. For a local solve the controller has the solver that gives the answer. -/
theorem perform_acts {c' : Controller α} {op : Operation α} (h : c.perform op = .ok c') :
    ∃ (solver : LocalSolver α) (d : Controller α), { c with solver }.Acts d ∧
      c' = { d with solver := c.solver } := by
  have hsame : ∃ (solver : LocalSolver α) (d : Controller α), { c with solver }.Acts d ∧
      c = { d with solver := c.solver } := ⟨c.solver, c, .refl, rfl⟩
  have hact : ∀ {c' : Controller α}, Act c c' → ∃ (solver : LocalSolver α) (d : Controller α),
      { c with solver }.Acts d ∧ c' = { d with solver := c.solver } := by
    intro c' h
    refine ⟨c.solver, c', h.acts, ?_⟩
    rw [← h.solver]
  cases op with
  | solve answer =>
    obtain ⟨_, -, rfl⟩ := map_eq_ok.mp h
    exact ⟨_, _, (Act.turn (.solve _)).acts, rfl⟩
  | couple => exact hact (.turn (.couple h))
  | raise => exact hact (.turn (.raise h))
  | adapt => exact hact (.turn (.adapt h))
  | receive sender kind record =>
    obtain rfl := Except.ok.inj h
    exact hact (.turn (.receive sender kind record c))
  | send =>
    obtain rfl := Except.ok.inj h
    exact hsame
  | shift dt =>
    obtain ⟨_, -, rfl⟩ := map_eq_ok.mp h
    exact hact (.shift dt c)
  | begin =>
    obtain rfl := Except.ok.inj h
    exact hact (.begin c)
  | finish =>
    obtain rfl := Except.ok.inj h
    exact hact (.turn (.finish c))
  | fail =>
    obtain rfl := Except.ok.inj h
    exact hact (.turn (.fail c))
  | restart x =>
    obtain rfl := Except.ok.inj h
    cases hrestarted : c.setInitialState x with
    | error e => exact hsame
    | ok c' => exact hact (.restart hrestarted)
  | prepare =>
    obtain rfl := Except.ok.inj h
    exact hact (.prepare c)

theorem site_perform {c' : Controller α} {op : Operation α} (h : c.perform op = .ok c') :
    c'.site = c.site := by
  obtain ⟨solver, d, hacts, rfl⟩ := perform_acts h
  exact hacts.site

theorem Operable.perform (hle : ∀ a b d : α, a ≤ b → b ≤ d → a ≤ d) (hc : c.Operable)
    (op : Operation α) : ∃ c', c.perform op = .ok c' ∧ c'.Operable := by
  cases op with
  | solve answer =>
    obtain ⟨⟨result, hresult⟩, hsolved⟩ :=
      (hc.recount (fun _ _ _ => .ok answer) _ _ _ _ _ _).updateAgentStates fun _ _ => ⟨answer, rfl⟩
    exact ⟨_, congrArg (Except.map _) hresult, hsolved.recount _ _ _ _ _ _ _⟩
  | couple => exact hc.updateCouplingStates
  | raise => exact hc.updateMultiplierStates
  | adapt => exact hc.adaptPenalties hle
  | receive sender kind record => exact ⟨_, rfl, hc.applyIncoming sender kind record⟩
  | send => exact ⟨c, rfl, hc⟩
  | shift dt =>
    obtain ⟨hresult, hshifted⟩ := hc.shiftHorizon dt
    exact ⟨_, congrArg (Except.map _) hresult, hshifted⟩
  | begin => exact ⟨_, rfl, hc.beginSolve⟩
  | finish =>
    obtain ⟨status, -, heq⟩ := c.finishIteration_eq
    exact ⟨_, rfl, heq ▸ hc.recount _ _ _ _ _ _ _⟩
  | fail => exact ⟨_, rfl, hc.recount _ _ _ _ _ _ _⟩
  | restart x =>
    refine ⟨_, rfl, ?_⟩
    cases h : c.setInitialState x with
    | error e => exact hc
    | ok c' => exact hc.setInitialState h
  | prepare => exact ⟨_, rfl, hc.prepare⟩

theorem Operable.performAll (hle : ∀ a b d : α, a ≤ b → b ≤ d → a ≤ d) (hc : c.Operable)
    (ops : List (Operation α)) : ∃ c', c.performAll ops = .ok c' ∧ c'.Operable := by
  induction ops generalizing c with
  | nil => exact ⟨c, rfl, hc⟩
  | cons op ops ih =>
    obtain ⟨c₁, hop, hc₁⟩ := hc.perform hle op
    obtain ⟨c', hops, hc'⟩ := ih hc₁
    refine ⟨c', ?_, hc'⟩
    rw [Controller.performAll, List.foldlM_cons]
    exact bind_eq_ok.mpr ⟨c₁, hop, hops⟩

theorem Operable.of_performAll (hle : ∀ a b d : α, a ≤ b → b ≤ d → a ≤ d) (hc : c.Operable)
    {ops : List (Operation α)} {c' : Controller α} (h : c.performAll ops = .ok c') : c'.Operable := by
  obtain ⟨c₁, hrun, hc₁⟩ := hc.performAll hle ops
  obtain rfl : c₁ = c' := Except.ok.inj (hrun.symm.trans h)
  exact hc₁

theorem operable_of_prepare (hcouplings : ∀ nb ∈ c.agent.neighbors, ∀ f,
      nb.relation.sending = some f → f.dynamics.KeepsLength)
    (h : c.prepare.2 = .ok ()) : c.prepare.1.Operable := by
  refine operable_prepare (fun link hlink f hf => ?_) h
  obtain ⟨nb, hnb, rfl⟩ := List.mem_map.mp hlink
  exact hcouplings nb hnb f hf

end Controller

/-- Moving up and interpolating the samples of a record finds every sample that it looks at. -/
structure Record.InBounds {family : Family} (r : Record family α) : Prop where
  shiftX : Trajectory.requireShiftable r.shape.nx r.x = .ok ()
  shiftU : Trajectory.requireShiftable r.shape.nu r.u = .ok ()
  shiftV : Trajectory.requireShiftable r.shape.nv r.v = .ok ()
  interpolateX : ∀ dim time,
    Trajectory.interpolateWithin r.t r.x dim time = .ok (r.interpolateX dim time)
  interpolateU : ∀ dim time,
    Trajectory.interpolateWithin r.t r.u dim time = .ok (r.interpolateU dim time)
  interpolateV : ∀ dim time,
    Trajectory.interpolateWithin r.t r.v dim time = .ok (r.interpolateV dim time)

theorem Record.inBounds {family : Family} (r : Record family α) : r.InBounds :=
  ⟨Trajectory.requireShiftable_sampleSize _ _, Trajectory.requireShiftable_sampleSize _ _,
    Trajectory.requireShiftable_sampleSize _ _, fun _ _ => Trajectory.interpolateWithin_eq _ _ _ _,
    fun _ _ => Trajectory.interpolateWithin_eq _ _ _ _,
    fun _ _ => Trajectory.interpolateWithin_eq _ _ _ _⟩

namespace Controller

/-- All records that a controller keeps. -/
def records (c : Controller α) : List (StateRecord α) :=
  (c.agent.records ++ c.agent.neighbors.flatMap (·.records)).map (·.2) ++
    ⟨c.previousCoupling⟩ :: c.previousInfluences.map (⟨·⟩)

/-- There is a problem to solve whose blocks lie inside its vectors, every record has the lengths that
are read of it, and none is read beyond its end. -/
structure InBounds (c : Controller α) : Prop where
  problem : ∃ p, c.problem = some (.ok p) ∧ p.index.Inside ∧ p.requireStates = .ok () ∧
    p.requireControls = .ok ()
  stocked : c.Stocked c.options.horizonSteps c.agent.nx c.agent.nu
  records : ∀ r ∈ c.records, r.record.InBounds

variable {c : Controller α}

theorem Operable.inBounds (hc : c.Operable) : c.InBounds := by
  obtain ⟨layout, hlayout, hindex⟩ := hc.layout
  obtain ⟨hof, hstocked⟩ := hc.of_problem hlayout
  have hinside : layout.index.Inside := IndexMap.inside_of_build hindex
  refine ⟨⟨⟨c.agent, layout⟩, ?_, hinside, hstocked.indexed.requireStates, hstocked.indexed.requireControls⟩,
    hc.stocked, fun r _ => r.record.inBounds⟩
  rw [Controller.problem, hlayout, Option.map_some, hof]

/-- Once prepared, a controller comes to the end of any sequence of operations, whatever the solver
answers and whatever is received, and stays ready for the next one. -/
theorem operations_in_bounds (hle : ∀ a b d : α, a ≤ b → b ≤ d → a ≤ d)
    (hcouplings : ∀ nb ∈ c.agent.neighbors, ∀ f, nb.relation.sending = some f →
      f.dynamics.KeepsLength)
    (h : c.prepare.2 = .ok ()) (ops : List (Operation α)) :
    ∃ c', c.prepare.1.performAll ops = .ok c' ∧ c'.InBounds := by
  obtain ⟨c', hrun, hc'⟩ := (operable_of_prepare hcouplings h).performAll hle ops
  exact ⟨c', hrun, hc'.inBounds⟩

end Controller

theorem LinearCoupling.keepsLength (m : LinearCoupling α) : m.toModel.dynamics.KeepsLength :=
  fun _ _ => (Vec.length_mergeWith _ _ _).trans (Vec.length_mergeWith _ _ _)

namespace Controller

/-- A cart on a rail: `ẍ = u`. -/
def cart : LinearAgent Rat where
  name := "cart"
  nx := 2
  nu := 1
  a := ⟨[[0, 1], [0, 0]]⟩
  b := ⟨[[0], [1]]⟩
  q := [1, 1]
  r := [1]
  p := [1, 1]
  bounds := none

/-- A spring between two carts, as far as it follows the neighbor. -/
def spring : LinearCoupling Rat := ⟨⟨[[0, 0], [1, 0]]⟩, ⟨[[0], [0]]⟩⟩

/-- A cart between two others. -/
def middleCart : Controller Rat :=
  let side (id : AgentId) : Neighbor Rat :=
    { Neighbor.new id cart.toModel ⟨some spring.toModel, some spring.toModel⟩ with
      approximated := true }
  .new { Agent.new 0 cart.toModel with
      neighbors := [side 1, side 2]
      agentState := .constant 0 [0] [1, 0] [0] [] }
    (fun _ _ _ => .error .notPrepared) { (Options.default : Options Rat) with horizonSteps := 3 }

/-- An iteration with a failure, a record from a stranger and one of the wrong length, then a move of
the horizon and a measured state. -/
def cartOperations : List (Operation Rat) :=
  [.solve (.ok ⟨[0, 1, 2], List.replicate 18 2, List.replicate 21 3, 5, 1, true⟩),
    .send .agentStates,
    .receive 2 .coupledAgentState ⟨(⟨0, 0, [0, 1, 2], List.replicate 6 4, [1, 2, 3],
      List.replicate 6 1⟩ : AgentState Rat)⟩,
    .receive 7 .couplingState ⟨(.empty 0 : CouplingState Rat)⟩,
    .receive 1 .couplingState ⟨(⟨0, 0, [], [1, 2, 3, 4], [7, 8, 9], [1]⟩ : CouplingState Rat)⟩,
    .receive 1 .couplingState ⟨(⟨0, 0, [], [], [7, 8], []⟩ : CouplingState Rat)⟩,
    .couple, .raise, .adapt, .finish, .solve (.error (.notConverged 3)), .shift 1, .restart [5, 0],
    .prepare, .begin, .solve (.ok ⟨[1], [], [], 0, 0, false⟩), .couple]

theorem middleCart_couplings : ∀ nb ∈ middleCart.agent.neighbors, ∀ f,
    nb.relation.sending = some f → f.dynamics.KeepsLength := by
  intro nb hnb f hf
  have hspring : nb.relation.sending = some spring.toModel := by
    rcases List.mem_cons.mp hnb with rfl | hnb
    · rfl
    · obtain rfl := List.mem_singleton.mp hnb
      rfl
  obtain rfl : spring.toModel = f := Option.some.inj (hspring.symm.trans hf)
  exact spring.keepsLength

theorem middleCart_in_bounds : middleCart.prepare.2 = .ok () ∧
    (∀ nb ∈ middleCart.agent.neighbors, ∀ f, nb.relation.sending = some f →
      f.dynamics.KeepsLength) ∧
    ∃ c', middleCart.prepare.1.performAll cartOperations = .ok c' ∧ c'.InBounds := by
  have hprepare : middleCart.prepare.2 = .ok () := by decide +kernel
  exact ⟨hprepare, middleCart_couplings,
    operations_in_bounds (fun _ _ _ => le_trans) middleCart_couplings hprepare cartOperations⟩

end Controller

end ConsensusControl
