import ConsensusControl.Proofs.Consensus.ConvergenceTest
import ConsensusControl.Proofs.Consensus.Fitting

namespace ConsensusControl

/-- What a record has a length of. -/
inductive Part
  | grid
  | state
  | control
  | influence
  deriving DecidableEq

namespace Part

variable {α : Type} {family : Family}

def of (r : Record family α) : Part → Vec α
  | grid => r.t
  | state => r.x
  | control => r.u
  | influence => r.v

/-- The length in a record of so many samples of this shape. -/
def expected (samples : Nat) (shape : Shape) : Part → Nat
  | grid => samples
  | state => samples * shape.nx
  | control => samples * shape.nu
  | influence => samples * shape.nv

def label : Family → Part → String
  | _, grid => "t"
  | .agent, state => "x"
  | .agent, control => "u"
  | .agent, influence => "v"
  | .coupling, state => "z_x"
  | .coupling, control => "z_u"
  | .coupling, influence => "z_v"
  | .multiplier, state => "mu_x"
  | .multiplier, control => "mu_u"
  | .multiplier, influence => "mu_v"
  | .penalty, state => "rho_x"
  | .penalty, control => "rho_u"
  | .penalty, influence => "rho_v"

def Fits (r : Record family α) (samples : Nat) (shape : Shape) (part : Part) : Prop :=
  (part.of r).length = part.expected samples shape

instance (r : Record family α) (samples : Nat) (shape : Shape) (part : Part) :
    Decidable (part.Fits r samples shape) :=
  inferInstanceAs (Decidable (_ = _))

end Part

/-- The parts of a record that its receiver compares, in this order. -/
def RecordKind.compared : RecordKind → List Part
  | agentState => [.grid, .state, .control]
  | desiredAgentState => [.state, .control]
  | coupledAgentState => [.grid, .state, .control, .influence]
  | couplingState => [.control]
  | externalInfluenceCouplingState => [.influence]
  | coupledMultiplierState | coupledPenaltyState => [.control, .influence]

namespace Record

variable {α : Type} {family : Family}

/-- The number of samples that a record of this kind has on a horizon of `samples`. Desired states come on
grids of their own. -/
def due (samples : Nat) (r : Record family α) : RecordKind → Nat
  | .desiredAgentState => r.t.length
  | _ => samples

/-- Compares parts one after the other. -/
def compare (r : Record family α) (samples : Nat) (shape : Shape) (parts : List Part) :
    Except String Unit :=
  parts.forM fun part =>
    checkLength (part.label family) (part.of r).length (part.expected samples shape)

/-- The first difference. -/
def difference? (r : Record family α) (samples : Nat) (shape : Shape) (parts : List Part) :
    Option String :=
  (parts.find? fun part => ¬ part.Fits r samples shape).map fun part =>
    s!"{part.label family} has {(part.of r).length} values, expected {part.expected samples shape}"

theorem compare_cons (r : Record family α) (samples : Nat) (shape : Shape) (part : Part)
    (parts : List Part) : r.compare samples shape (part :: parts) =
      (checkLength (part.label family) (part.of r).length (part.expected samples shape) >>=
        fun _ => r.compare samples shape parts) := rfl

theorem compare_singleton (r : Record family α) (samples : Nat) (shape : Shape) (part : Part) :
    r.compare samples shape [part] =
      checkLength (part.label family) (part.of r).length (part.expected samples shape) :=
  bind_pure_unit

theorem compare_eq (r : Record family α) (samples : Nat) (shape : Shape) (parts : List Part) :
    r.compare samples shape parts = match r.difference? samples shape parts with
      | some reason => .error reason
      | none => .ok () := by
  induction parts with
  | nil => rfl
  | cons part parts ih =>
    by_cases hfits : part.Fits r samples shape
    · have hrest : r.difference? samples shape (part :: parts) = r.difference? samples shape parts := by
        rw [difference?, List.find?_cons_of_neg (by simpa using hfits)]
        rfl
      rw [compare_cons, Neighbor.checkLength_eq_ok.mpr hfits, hrest, ← ih]
      rfl
    · have hdiffers : (part.of r).length ≠ part.expected samples shape := hfits
      rw [compare_cons, difference?, List.find?_cons_of_pos (by simpa using hfits), checkLength,
        if_neg hdiffers]
      rfl

theorem difference?_eq_none {r : Record family α} {samples : Nat} {shape : Shape} {parts : List Part} :
    r.difference? samples shape parts = none ↔ ∀ part ∈ parts, part.Fits r samples shape := by
  simp [difference?, List.find?_eq_none]

/-- A record on a grid is compared part by part. -/
theorem checkAgent_eq {r : AgentState α} (hne : r.t ≠ []) (e : Expected) :
    checkAgent r e = r.compare (e.samples.getD r.t.length) ⟨e.nx, e.nu, e.nv.getD 0⟩
      ((e.samples.toList.map fun _ => .grid) ++ [.state, .control] ++
        e.nv.toList.map fun _ => .influence) := by
  obtain ⟨samples, nx, nu, nv⟩ := e
  have hpos : r.t.length ≠ 0 := by simpa using hne
  have hinfluence : ∀ nv, checkLength "v" r.v.length (r.t.length * nv) =
      r.compare r.t.length ⟨nx, nu, nv⟩ [.influence] := fun nv =>
    (r.compare_singleton r.t.length ⟨nx, nu, nv⟩ .influence).symm
  unfold checkAgent
  simp only [hpos, if_false]
  cases samples with
  | none =>
    cases nv with
    | none => rfl
    | some nv =>
      dsimp only
      rw [hinfluence]
      rfl
  | some n =>
    by_cases ht : r.t.length = n
    · subst ht
      cases nv with
      | none => rfl
      | some nv =>
        dsimp only
        rw [hinfluence]
        rfl
    · have hgrid : checkLength "t" r.t.length n =
          .error s!"t has {r.t.length} values, expected {n}" := if_neg ht
      -- Neither side gets beyond the grid, so it does not matter that they expect other channels.
      have hleft : ∀ rest : Unit → Except String Unit, (checkLength "t" r.t.length n >>= rest) =
          .error s!"t has {r.t.length} values, expected {n}" := fun rest => by rw [hgrid]; rfl
      exact (hleft _).trans (hleft _).symm

theorem hasShape_iff [Scalar α] {r : Record family α} {samples : Nat} {shape : Shape} :
    r.hasShape samples shape = true ↔
      (∀ part : Part, part.Fits r samples shape) ∧ Trajectory.isIncreasing r.t = true := by
  simp only [hasShape, Bool.and_eq_true, beq_iff_eq, Nat.mul_comm _ samples]
  constructor
  · rintro ⟨⟨⟨⟨ht, hx⟩, hu⟩, hv⟩, hincreasing⟩
    refine ⟨fun part => ?_, hincreasing⟩
    cases part with
    | grid => exact ht
    | state => exact hx
    | control => exact hu
    | influence => exact hv
  · rintro ⟨hfits, hincreasing⟩
    exact ⟨⟨⟨⟨hfits .grid, hfits .state⟩, hfits .control⟩, hfits .influence⟩, hincreasing⟩

end Record

namespace Neighbor

variable {α : Type}

/-- Why a record is refused, if it is. -/
def refusal? (nb : Neighbor α) (samples nx nu : Nat) (kind : RecordKind) (r : Record kind.family α) :
    Option String :=
  if kind.family = .agent ∧ r.t = [] then some "empty time grid"
  else r.difference? (r.due samples kind) (nb.role nx nu kind) kind.compared

/-- A record that has a grid, every part of the length of its role, and times that increase. -/
def WellFormed [Scalar α] (nb : Neighbor α) (samples nx nu : Nat) (kind : RecordKind)
    (r : Record kind.family α) : Prop :=
  r.t ≠ [] ∧ r.hasShape (r.due samples kind) (nb.role nx nu kind) = true

variable {nb : Neighbor α} {samples nx nu : Nat} {kind : RecordKind} {r : Record kind.family α}

theorem refusal?_eq_none : nb.refusal? samples nx nu kind r = none ↔
    (kind.family = .agent → r.t ≠ []) ∧
      ∀ part ∈ kind.compared, part.Fits r (r.due samples kind) (nb.role nx nu kind) := by
  unfold refusal?
  by_cases hempty : kind.family = .agent ∧ r.t = []
  · simp [hempty]
  · rw [if_neg hempty, Record.difference?_eq_none]
    exact ⟨fun h => ⟨fun hfamily ht => hempty ⟨hfamily, ht⟩, h⟩, fun h => h.2⟩

theorem wellFormed_iff [Scalar α] (hsamples : samples ≠ 0) :
    nb.WellFormed samples nx nu kind r ↔ nb.refusal? samples nx nu kind r = none ∧
      (∀ part ∉ kind.compared, part.Fits r (r.due samples kind) (nb.role nx nu kind)) ∧
      Trajectory.isIncreasing r.t = true := by
  rw [WellFormed, Record.hasShape_iff, refusal?_eq_none]
  constructor
  · rintro ⟨hne, hfits, hincreasing⟩
    exact ⟨⟨fun _ => hne, fun part _ => hfits part⟩, fun part _ => hfits part, hincreasing⟩
  · rintro ⟨⟨hne, hcompared⟩, hrest, hincreasing⟩
    have hfits : ∀ part : Part, part.Fits r (r.due samples kind) (nb.role nx nu kind) := by
      intro part
      by_cases hpart : part ∈ kind.compared
      · exact hcompared part hpart
      · exact hrest part hpart
    refine ⟨?_, hfits, hincreasing⟩
    by_cases hfamily : kind.family = .agent
    · exact hne hfamily
    · have hdue : r.due samples kind = samples := by
        cases kind <;> first | rfl | exact absurd rfl hfamily
      have hlength : r.t.length = samples := (hfits .grid).trans hdue
      exact List.ne_nil_of_length_pos (by omega)

/-- A record is stored unless there is something to say against it. -/
theorem examine_eq (nb : Neighbor α) (samples nx nu : Nat) (kind : RecordKind)
    (r : Record kind.family α) :
    nb.examine samples nx nu kind r = match nb.refusal? samples nx nu kind r with
      | some reason => .error reason
      | none => .ok () := by
  by_cases hempty : kind.family = .agent ∧ r.t = []
  · have hrefusal : nb.refusal? samples nx nu kind r = some "empty time grid" := if_pos hempty
    have hgrid : r.t.length = 0 := List.length_eq_zero_iff.mpr hempty.2
    rw [hrefusal]
    cases kind with
    | agentState | desiredAgentState | coupledAgentState =>
      simp [examine, Record.checkAgent, hgrid, throw, throwThe, MonadExceptOf.throw, bind, Except.bind]
    | couplingState | externalInfluenceCouplingState | coupledMultiplierState | coupledPenaltyState =>
      simp [RecordKind.family] at hempty
  · have hrefusal : nb.refusal? samples nx nu kind r =
        r.difference? (r.due samples kind) (nb.role nx nu kind) kind.compared := if_neg hempty
    have hcompare : nb.examine samples nx nu kind r =
        r.compare (r.due samples kind) (nb.role nx nu kind) kind.compared := by
      cases kind with
      | agentState | desiredAgentState | coupledAgentState =>
        have hne : r.t ≠ [] := fun ht => hempty ⟨rfl, ht⟩
        rw [examine, Record.checkAgent_eq hne]
        rfl
      | couplingState | externalInfluenceCouplingState =>
        rw [RecordKind.compared, Record.compare_singleton]
        rfl
      | coupledMultiplierState | coupledPenaltyState =>
        rw [RecordKind.compared, Record.compare_cons, Record.compare_singleton]
        rfl
    rw [hcompare, hrefusal, Record.compare_eq]

end Neighbor

namespace Controller

variable {α : Type}

/-- Keeps a record with the neighbor that sent it. -/
def store (c : Controller α) (sender : AgentId) (kind : RecordKind)
    (r : Record kind.family α) : Controller α :=
  { c with agent := c.agent.modifyNeighbor sender (·.keep kind r) }

/-- What becomes of a record of the right family, with the reason where it is refused. -/
theorem applyIncoming_eq_store (c : Controller α) (sender : AgentId) (kind : RecordKind)
    (r : Record kind.family α) :
    c.applyIncoming sender kind ⟨r⟩ = match c.agent.neighbor? sender with
      | none => (c, .error (.notANeighbor c.id sender))
      | some nb => match nb.refusal? c.options.horizonSteps c.agent.nx c.agent.nu kind r with
        | some reason => (c, .error (.malformedRecord c.id sender kind reason))
        | none => (c.store sender kind r, .ok ()) := by
  rw [applyIncoming_eq]
  cases hnb : c.agent.neighbor? sender with
  | none => rfl
  | some nb =>
    have hkeep : c.agent.modifyNeighbor sender (fun _ => nb.keep kind r) =
        c.agent.modifyNeighbor sender (·.keep kind r) := by
      rw [Agent.modifyNeighbor, Agent.modifyFirst_found (·.keep kind r) hnb]
      rfl
    dsimp only
    rw [Neighbor.examine_eq]
    cases nb.refusal? c.options.horizonSteps c.agent.nx c.agent.nu kind r with
    | some reason => rfl
    | none =>
      dsimp only
      rw [hkeep, store]

/-- A record of the wrong family is unexpected, and one from a stranger is refused. One from a neighbor is
stored if it has a grid, as far as it needs one, and the compared parts have the lengths of their role; if
not, it is malformed, for the first reason in order. It is well formed if moreover the parts fit that are not
compared, and its times increase. -/
theorem acceptance_compares_lengths [Scalar α] {c : Controller α} (h : c.options.validate = .ok ())
    (sender : AgentId) (kind : RecordKind) :
    (∀ r : StateRecord α, r.family ≠ kind.family →
      c.applyIncoming sender kind r = (c, .error (.unexpectedRecord c.id sender kind))) ∧
    (c.agent.neighbor? sender = none → ∀ r : Record kind.family α,
      c.applyIncoming sender kind ⟨r⟩ = (c, .error (.notANeighbor c.id sender))) ∧
    ∀ nb, c.agent.neighbor? sender = some nb → ∀ r : Record kind.family α,
      let samples := r.due c.options.horizonSteps kind
      let role := nb.role c.agent.nx c.agent.nu kind
      let refusal? := nb.refusal? c.options.horizonSteps c.agent.nx c.agent.nu kind r
      (∀ reason, refusal? = some reason →
        c.applyIncoming sender kind ⟨r⟩ = (c, .error (.malformedRecord c.id sender kind reason))) ∧
      (refusal? = none → ∃ c' nb', c.applyIncoming sender kind ⟨r⟩ = (c', .ok ()) ∧
        c'.agent.neighbor? sender = some nb' ∧ nb'.stored kind = r) ∧
      (refusal? = none ↔ (kind.family = .agent → r.t ≠ []) ∧
        ∀ part ∈ kind.compared, part.Fits r samples role) ∧
      (nb.WellFormed c.options.horizonSteps c.agent.nx c.agent.nu kind r ↔
        refusal? = none ∧ (∀ part ∉ kind.compared, part.Fits r samples role) ∧
          Trajectory.isIncreasing r.t = true) := by
  refine ⟨fun r hfamily => dif_neg hfamily, fun hnone r => ?_, fun nb hnb r => ⟨?_, ?_, ?_, ?_⟩⟩
  · rw [applyIncoming_eq_store, hnone]
  · intro reason hrefusal
    rw [applyIncoming_eq_store, hnb]
    dsimp only
    rw [hrefusal]
  · intro hrefusal
    refine ⟨c.store sender kind r, nb.keep kind r, ?_, ?_, nb.stored_keep_self kind r⟩
    · rw [applyIncoming_eq_store, hnb]
      dsimp only
      rw [hrefusal]
    · rw [store, Agent.neighbor?_modifyNeighbor _ _ fun nb => nb.id_keep kind r, hnb]
      rfl
  · exact Neighbor.refusal?_eq_none
  · have hsamples := Options.samples_of_valid h
    exact Neighbor.wellFormed_iff (by omega)

open ExtendedRat

def preparedLeak : Controller ExtendedRat := leakingAgent.prepare.1

/-- A decision of the neighbor on a grid of two times, with controls at three. -/
def longDecision : CouplingState ExtendedRat := ⟨1, 0, [0, 1], [1, 1], [0, 0, 0], []⟩

/-- A decision with the lengths of two samples, on a grid of one. -/
def shortDecision : CouplingState ExtendedRat := ⟨1, 0, [0], [1, 1], [0, 0], []⟩

theorem preparedLeak_acceptance :
    preparedLeak.options.validate = .ok () ∧
      preparedLeak.applyIncoming 1 .couplingState ⟨longDecision⟩ = (preparedLeak,
        .error (.malformedRecord preparedLeak.id 1 .couplingState "z_u has 3 values, expected 2")) ∧
      (∃ c' nb', preparedLeak.applyIncoming 1 .couplingState (decision [0, 0]) = (c', .ok ()) ∧
        c'.agent.neighbor? 1 = some nb' ∧ nb'.couplingState = ⟨1, 0, [0, 1], [], [0, 0], []⟩) ∧
      preparedLeak.applyIncoming 1 .agentState (decision [0, 0]) =
        (preparedLeak, .error (.unexpectedRecord preparedLeak.id 1 .agentState)) ∧
      preparedLeak.applyIncoming 2 .couplingState ⟨longDecision⟩ =
        (preparedLeak, .error (.notANeighbor preparedLeak.id 2)) := by
  have hvalid : preparedLeak.options.validate = .ok () := by decide +kernel
  obtain ⟨nb, hnb⟩ := Option.isSome_iff_exists.mp
    (show (preparedLeak.agent.neighbor? 1).isSome = true by decide +kernel)
  have hrefusals : (preparedLeak.agent.neighbor? 1).map (fun nb =>
      let refusal? := nb.refusal? preparedLeak.options.horizonSteps preparedLeak.agent.nx
        preparedLeak.agent.nu .couplingState
      (refusal? longDecision, refusal? ⟨1, 0, [0, 1], [], [0, 0], []⟩)) =
      some (some "z_u has 3 values, expected 2", none) := by decide +kernel
  rw [hnb] at hrefusals
  obtain ⟨hlong, hshort⟩ := Prod.mk.inj (Option.some.inj hrefusals)
  obtain ⟨-, -, hneighbor⟩ := acceptance_compares_lengths hvalid 1 .couplingState
  obtain ⟨hrefused, -⟩ := hneighbor nb hnb longDecision
  obtain ⟨-, hstored, -⟩ := hneighbor nb hnb ⟨1, 0, [0, 1], [], [0, 0], []⟩
  exact ⟨hvalid, hrefused _ hlong, hstored hshort,
    (acceptance_compares_lengths hvalid 1 .agentState).1 _ (by decide),
    (acceptance_compares_lengths hvalid 2 .couplingState).2.1 (by decide +kernel) longDecision⟩

/-- A decision whose grid is too short is stored, and what is stored is not of the shape of its role. -/
theorem preparedLeak_stores_short_grid :
    leakingAgent.prepare.2 = .ok () ∧
      ∃ c' nb', preparedLeak.applyIncoming 1 .couplingState ⟨shortDecision⟩ = (c', .ok ()) ∧
        c'.agent.neighbor? 1 = some nb' ∧ nb'.couplingState.t = [0] ∧
        nb'.couplingState.hasShape c'.options.horizonSteps
          (nb'.role c'.agent.nx c'.agent.nu .couplingState) = false := by
  have hprepare : leakingAgent.prepare.2 = .ok () := by decide +kernel
  have hanswer : (preparedLeak.applyIncoming 1 .couplingState ⟨shortDecision⟩).2.toOption =
      some () := by
    decide +kernel
  have hneighbor :
      let c' := (preparedLeak.applyIncoming 1 .couplingState ⟨shortDecision⟩).1
      (c'.agent.neighbor? 1).map (fun nb' => (nb'.couplingState.t,
        nb'.couplingState.hasShape c'.options.horizonSteps
          (nb'.role c'.agent.nx c'.agent.nu .couplingState))) = some ([0], false) := by
    decide +kernel
  obtain ⟨nb', hnb', hstored⟩ := Option.map_eq_some_iff.mp hneighbor
  obtain ⟨hgrid, hshape⟩ := Prod.mk.inj hstored
  exact ⟨hprepare, _, nb', Prod.ext rfl (toOption_eq_some.mp hanswer), hnb', hgrid, hshape⟩

end Controller

end ConsensusControl
