import ConsensusControl.Proofs.Ensemble.Prediction
import ConsensusControl.Proofs.Ensemble.Result

namespace ConsensusControl

namespace Network

variable {n n' : Network Rat} {t dt : Rat} {applied : Table (Sample Rat)} {id : AgentId} {x : Vec Rat}

/-- An explicit Euler step takes the agent from its sample to `x`. -/
def Euler (n : Network Rat) (t dt : Rat) (applied : Table (Sample Rat)) (id : AgentId) (x : Vec Rat) :
    Prop :=
  ∃ own f, applied.lookup id = some own ∧ n.Moves t applied id f ∧
    x = List.zipWith (fun x f => x + dt * f) own.x f

theorem euler_of_sampled {entry : AgentEntry Rat} {own : Sample Rat} (hentry : n.entry? id = some entry)
    (hown : applied.lookup id = some own) (t dt : Rat) :
    ∃ x, (n.eulerStep applied t dt).lookup id = some x ∧ n.Euler t dt applied id x := by
  have hmoves : n.Moves t applied id (n.derivative id entry t applied own) :=
    ⟨entry, own, hentry, hown, rfl⟩
  obtain ⟨s, hs, hstep⟩ := hmoves.eulerStep dt
  exact ⟨_, hstep, s, _, hs, hmoves, rfl⟩

theorem sorted_eulerStep (h : Table.Sorted applied) : Table.Sorted (n.eulerStep applied t dt) := by
  apply h.filterMap
  intro p r hr
  obtain ⟨_, -, rfl⟩ := Option.map_eq_some_iff.mp hr
  rfl

/-- The same agents with the same models, coupled in the same way. -/
structure SamePlant (n n' : Network Rat) : Prop where
  couplings : n'.couplings = n.couplings
  models : ∀ id, n'.model? id = n.model? id

theorem mem_ids_iff_model : id ∈ n.ids ↔ (n.model? id).isSome := by
  rw [model?, Option.isSome_map]
  exact Table.lookup_isSome.symm

theorem SamePlant.mem_ids (h : n.SamePlant n') : id ∈ n'.ids ↔ id ∈ n.ids := by
  rw [mem_ids_iff_model, mem_ids_iff_model, h.models]

/-- Plants that are the same move alike. -/
theorem SamePlant.euler (h : n.SamePlant n') (hx : n'.Euler t dt applied id x) :
    n.Euler t dt applied id x := by
  obtain ⟨own, f, hown, ⟨entry', own', hentry', hown', hf⟩, hstep⟩ := hx
  have hmodel : n.model? id = some entry'.model := by
    rw [← h.models, model?, hentry']
    rfl
  obtain ⟨entry, hentry, hsame⟩ := Option.map_eq_some_iff.mp hmodel
  have hderivative : n'.derivative id entry' t applied own' = n.derivative id entry t applied own' := by
    unfold derivative addInfluence neighborsOf coupling?
    rw [h.couplings, hsame]
  exact ⟨own, f, hown, ⟨entry, own', hentry, hown', hf.trans hderivative⟩, hstep⟩

end Network

namespace Ensemble

section Operations

variable {σ α : Type}

/-- What the ensemble has of one agent. -/
def place (e : Ensemble σ α) (id : AgentId) : Option (AgentEntry α) × Option (Controller α) :=
  (e.network.entry? id, e.controllers.lookup id)

variable [Scalar α]

/-- A record is continued with samples at the given times. -/
structure Continued (times : Vec α) (samples : List (Sample α)) (h h' : AgentState α) : Prop where
  t : h'.t = h.t ++ times
  x : h'.x = h.x ++ samples.flatMap (·.x)
  u : h'.u = h.u ++ samples.flatMap (·.u)

omit [Scalar α] in
theorem Continued.trans {times times' : Vec α} {samples samples' : List (Sample α)}
    {h h' h'' : AgentState α} (hfirst : Continued times samples h h')
    (hlast : Continued times' samples' h' h'') :
    Continued (times ++ times') (samples ++ samples') h h'' := by
  constructor
  · rw [hlast.t, hfirst.t, List.append_assoc]
  · rw [hlast.x, hfirst.x, List.flatMap_append, List.append_assoc]
  · rw [hlast.u, hfirst.u, List.flatMap_append, List.append_assoc]

omit [Scalar α] in
theorem appliedSamples_eq_ok {e : Ensemble σ α} {applied : Table (Sample α)}
    (h : e.appliedSamples = .ok applied) : Table.Rel (fun _ c s =>
      c.agent.agentState.xAt 0 = .ok s.x ∧ c.agent.agentState.uAt 0 = .ok s.u)
      e.controllers applied := by
  apply Table.Rel.of_forall₂
  refine (mapM_eq_ok.mp h).imp fun p q hq => ?_
  obtain ⟨x, hx, hq⟩ := bind_eq_ok.mp hq
  obtain ⟨u, hu, hq⟩ := bind_eq_ok.mp hq
  obtain rfl := pure_eq_ok.mp hq
  exact ⟨rfl, hx, hu⟩

end Operations

section Plant

variable {σ : Type} {e e' : Ensemble σ Rat} {t dt : Rat}

/-- Every controller has planned from `t` on and reported the plan. -/
structure Planned (t : Rat) (e : Ensemble σ Rat) : Prop where
  supplied : e.Supplied
  complete : ∀ id ∈ e.network.ids, id ∈ Table.ids e.controllers
  steady : ∀ id c, e.controllers.lookup id = some c → c.Steady
  layout : ∀ id c, e.controllers.lookup id = some c → c.layout.isSome
  onTime : ∀ id c, e.controllers.lookup id = some c → c.OnTime t
  reported : ∀ id ∈ Table.ids e.controllers, (e.solutions.lookup id).isSome

/-- A step at time `t` applies a sample to every agent of the network and takes the agent from there to
the state in which the next step begins. -/
structure Stepped (t dt : Rat) (e : Ensemble σ Rat) (applied : Table (Sample Rat))
    (e' : Ensemble σ Rat) : Prop where
  plant : e.network.SamePlant e'.network
  options : e'.options = e.options
  solver : e'.solver = e.solver
  limit : e'.storedSamples = e.storedSamples
  recorded : ∀ id ∈ e.network.ids, ∃ s, applied.lookup id = some s ∧
    Continued [t] [s] (e.appliedTo id) (e'.appliedTo id)
  sized : ∀ id s m, applied.lookup id = some s → e.network.model? id = some m →
    s.x.length = m.nx ∧ s.u.length = m.nu
  moved : ∀ id ∈ e.network.ids, ∃ entry, e'.network.entry? id = some entry ∧
    e.network.Euler t dt applied id entry.xInit

namespace Planned

variable {applied : Table (Sample Rat)} {id : AgentId} {s : Sample Rat}

/-- The first samples of the predictions are of the right size. -/
theorem sampled (h : e.Planned t) (happlied : e.appliedSamples = .ok applied)
    (hs : applied.lookup id = some s) : ∃ c entry, e.controllers.lookup id = some c ∧
      e.network.entry? id = some entry ∧ s.x = c.agent.firstState ∧
      s.x.length = entry.model.nx ∧ s.u.length = entry.model.nu := by
  obtain ⟨c, hc, hx, hu⟩ := (appliedSamples_eq_ok happlied).back hs
  have hgrounded := (h.steady id c hc).shaped.grounded
  obtain ⟨entry, hentry, hsame⟩ := Option.map_eq_some_iff.mp (h.supplied.serves id c hc).model
  have hstart : s.x = c.agent.firstState := Except.ok.inj (hx.symm.trans hgrounded.xAt_zero)
  obtain ⟨u, hfirst, hlength⟩ := hgrounded.uAt_zero
  obtain rfl : u = s.u := Except.ok.inj (hfirst.symm.trans hu)
  refine ⟨c, entry, hc, hentry, hstart, ?_, ?_⟩
  · rw [hstart, hgrounded.length_firstState, hsame]
    rfl
  · rw [hlength, hsame]
    rfl

theorem sorted (h : e.Planned t) (happlied : e.appliedSamples = .ok applied) :
    Table.Sorted applied :=
  (appliedSamples_eq_ok happlied).sorted h.supplied.sorted

end Planned

end Plant

section Solves

variable {σ : Type} [FaithfulTransport σ Rat] {e e' : Ensemble σ Rat} {t dt : Rat}
  {summary : Summary Rat}

end Solves

end Ensemble

end ConsensusControl
