import ConsensusControl.Proofs.Consensus.Guess
import ConsensusControl.Proofs.Ensemble.Preparation
import ConsensusControl.Proofs.Problem.GlobalPoint

namespace ConsensusControl

namespace Network

/-- All models add to vectors of the state dimension of the agent that they move. -/
structure Adds (n : Network Rat) : Prop where
  agents : ∀ id m, n.model? id = some m → m.dynamics.Adds m.nx
  couplings : ∀ i j m f, n.model? i = some m → n.coupling? i j = some f → f.dynamics.Adds m.nx

theorem Adds.of_forall {n : Network Rat} (hagents : ∀ a ∈ n.agents, a.2.model.dynamics.Adds a.2.model.nx)
    (hcouplings : ∀ c ∈ n.couplings, ∀ k, c.model.dynamics.Adds k) : n.Adds where
  agents id m hm := by
    obtain ⟨entry, hentry, rfl⟩ := Option.map_eq_some_iff.mp hm
    exact hagents _ (Table.mem_of_lookup hentry)
  couplings i j m f _ hf := by
    obtain ⟨c, hc, rfl⟩ := Option.map_eq_some_iff.mp hf
    exact hcouplings c (List.mem_of_find?_eq_some hc) m.nx

/-- The plant moves the agent with the derivative `f`. -/
def Moves (n : Network Rat) (t : Rat) (global : Table (Sample Rat)) (id : AgentId) (f : Vec Rat) :
    Prop :=
  ∃ entry own, n.entry? id = some entry ∧ global.lookup id = some own ∧
    f = n.derivative id entry t global own

theorem Moves.eulerStep {n : Network Rat} {t : Rat} {global : Table (Sample Rat)} {id : AgentId}
    {f : Vec Rat} (h : n.Moves t global id f) (dt : Rat) :
    ∃ own, global.lookup id = some own ∧ (n.eulerStep global t dt).lookup id =
      some (List.zipWith (fun x f => x + dt * f) own.x f) := by
  obtain ⟨entry, own, hentry, hown, rfl⟩ := h
  refine ⟨own, hown, Table.lookup_filterMap ?_ hown ?_⟩
  · intro sample r hr
    obtain ⟨k, s⟩ := sample
    obtain ⟨_, -, rfl⟩ := Option.map_eq_some_iff.mp hr
    rfl
  · dsimp only
    rw [hentry]
    rfl

end Network

/-- The problem of an agent that is in line with the network. -/
structure LocalProblem.Follows (p : LocalProblem Rat) (n : Network Rat) : Prop extends p.Fits where
  model : n.model? p.agent.id = some p.agent.model
  ids : p.agent.neighborIds = n.neighborsOf p.agent.id
  relations : ∀ nb ∈ p.agent.neighbors, nb.relation = n.relation p.agent.id nb.id
  linked : ∀ nb ∈ p.agent.neighbors, n.model? nb.id = some nb.model

/-- The problem on a global point, whose samples have the dimensions of the network. -/
structure LocalProblem.Mirrors (p : LocalProblem Rat) (n : Network Rat) (t : Rat)
    (global : Table (Sample Rat)) (z : Point Rat) : Prop extends p.Follows n, p.Holds t global z where
  sized : ∀ id s m, global.lookup id = some s → n.model? id = some m → s.x.length = m.nx

namespace LocalProblem.Mirrors

variable {p r : LocalProblem Rat} {n : Network Rat} {t : Rat} {global : Table (Sample Rat)}
  {z w : Point Rat}

/-- The plant sums up over the neighbors what the agent sums up over their blocks. -/
theorem moves_iff (h : p.Mirrors n t global z) (f : Vec Rat) :
    n.Moves t global p.agent.id f ↔ f = p.pairs.foldl (p.couple z)
      (p.agent.model.dynamics.value (p.ownPoint z) (Vec.zeros p.agent.nx)) := by
  obtain ⟨entry, hentry, hmodel⟩ := Option.map_eq_some_iff.mp h.model
  obtain ⟨own, hown, hx, hu⟩ := h.own
  have hpoint : p.ownPoint z = ⟨t, own.x, own.u⟩ := by rw [ownPoint, h.time, hx, hu]
  have hlength : own.x.length = p.agent.nx := h.sized _ own _ hown h.model
  have hderivative : n.derivative p.agent.id entry t global own = p.pairs.foldl (p.couple z)
      (p.agent.model.dynamics.value (p.ownPoint z) (Vec.zeros p.agent.nx)) := by
    unfold Network.derivative
    rw [← h.ids, ← h.indexed.ids_pairs, List.foldl_map, hmodel, hpoint, hlength]
    refine List.foldl_ext _ _ _ fun f q hq => ?_
    obtain ⟨s, hs, hsx, hsu⟩ := h.copies q hq
    have hrelation := h.relations q.1 (List.of_mem_zip hq).1
    have hsending : q.1.relation.sending = n.coupling? p.agent.id q.1.id :=
      congrArg Relation.sending hrelation
    unfold Network.addInfluence couple
    rw [hs, ← hsending]
    cases q.1.relation.sending with
    | none => rfl
    | some f => rw [sendingPoint, h.time, hx, hu, hsx, hsu]
  constructor
  · intro h
    obtain ⟨entry', own', hentry', hown', rfl⟩ := h
    obtain rfl : entry = entry' := Option.some.inj (hentry.symm.trans hentry')
    obtain rfl : own = own' := Option.some.inj (hown.symm.trans hown')
    exact hderivative
  · intro heq
    obtain rfl := heq
    exact ⟨entry, own, hentry, hown, hderivative.symm⟩

/-- What the agent says to influence a neighbor, and what the neighbor sends to the agent, make up the
whole sum. -/
theorem foldl_couple (h : p.Mirrors n t global z) {q : Neighbor Rat × NeighborBlock} (hq : q ∈ p.pairs)
    {v : Vec Rat} (hv : p.influence q.1.id z = some v) {out : Vec Rat} (hout : out.length = p.agent.nx) :
    p.pairs.foldl (p.couple z) out = p.couple z (Vec.add v out) q := by
  have hmem := (List.of_mem_zip hq).1
  have hnodup : (p.pairs.map (·.1.id)).Nodup := by
    rw [h.indexed.ids_pairs]
    exact h.nodup
  have hinfluence : v = (p.pairs.filter fun r => r.1.id != q.1.id).foldl (p.couple z)
      (Vec.zeros p.agent.nx) := by
    unfold influence neighborInfluence at hv
    rw [Agent.neighbor?_of_mem h.nodup hmem, Option.bind_some, if_pos (h.approximated q.1 hmem)] at hv
    rw [← influence_eq]
    exact (Option.some.inj hv).symm
  have hadds : ∀ r ∈ p.pairs, Vec.Adds p.agent.nx (p.couple z · r) := fun r hr =>
    h.adds_couple hr
  have hothers : ∀ r ∈ p.pairs.filter fun r => r.1.id != q.1.id,
      Vec.Adds p.agent.nx (p.couple z · r) := fun r hr => hadds r (List.mem_of_mem_filter hr)
  rw [Vec.Adds.foldl_filter (hnodup.of_map _) hq ?_ hadds hout, hinfluence,
    ← Vec.Adds.foldl hothers out hout]
  intro r hr
  constructor
  · intro heq
    exact List.inj_on_of_nodup_map hnodup hr hq (by simpa using heq)
  · intro heq
    obtain rfl := heq
    simp

/-- The copy of a neighbor moves as the neighbor's own problem has it, if the influence on it is the one
that the neighbor reports. -/
theorem predict_eq (h : p.Mirrors n t global z) (hr : r.Mirrors n t global w)
    {q : Neighbor Rat × NeighborBlock} (hq : q ∈ p.pairs) (hid : r.agent.id = q.1.id)
    (hv : r.influence p.agent.id w = some (q.2.v.read z.u)) :
    p.predict z q (Vec.zeros q.1.nx) = r.pairs.foldl (r.couple w)
      (r.agent.model.dynamics.value (r.ownPoint w) (Vec.zeros r.agent.nx)) := by
  have hmem := (List.of_mem_zip hq).1
  have hmodel : r.agent.model = q.1.model := by
    have hlinked := h.linked q.1 hmem
    rw [← hid] at hlinked
    exact Option.some.inj (hr.model.symm.trans hlinked)
  have hnx : r.agent.nx = q.1.nx := congrArg AgentModel.nx hmodel
  have hback : p.agent.id ∈ r.pairs.map (·.1.id) := by
    rw [hr.indexed.ids_pairs, hr.ids, hid, Network.mem_neighborsOf_comm, ← h.ids]
    exact Agent.mem_neighborIds.mpr ⟨q.1, hmem, rfl⟩
  obtain ⟨back, hbackmem, hbackid⟩ := List.mem_map.mp hback
  obtain ⟨own, hown, hx, hu⟩ := h.own
  obtain ⟨copy, hcopy, hqx, hqu⟩ := h.copies q hq
  obtain ⟨own', hown', hwx, hwu⟩ := hr.own
  obtain ⟨copy', hcopy', hbx, hbu⟩ := hr.copies back hbackmem
  rw [hid] at hown'
  rw [hbackid] at hcopy'
  obtain rfl : copy = own' := Option.some.inj (hcopy.symm.trans hown')
  obtain rfl : own = copy' := Option.some.inj (hown.symm.trans hcopy')
  have hpoint : r.ownPoint w = ⟨z.t, q.2.x.read z.x, q.2.u.read z.u⟩ := by
    rw [ownPoint, hr.time, h.time, hwx, hwu, hqx, hqu]
  have hpair : r.sendingPoint back.2 w = p.receivingPoint q.2 z := by
    rw [sendingPoint, receivingPoint, hr.time, h.time, hwx, hwu, hqx, hqu, hbx, hbu, hx, hu]
  have hsends : back.1.relation.sending = q.1.relation.receiving := by
    rw [h.relations q.1 hmem, hr.relations back.1 (List.of_mem_zip hbackmem).1, hbackid, hid]
    rfl
  have hkeeps := (hr.adds (r.ownPoint w)).length (Vec.length_zeros r.agent.nx)
  rw [← hbackid] at hv
  rw [hr.foldl_couple hbackmem hv hkeeps]
  unfold couple predict
  rw [hsends, hpoint, hmodel, hnx]
  cases q.1.relation.receiving with
  | none => rfl
  | some f => rw [hpair]

end LocalProblem.Mirrors

namespace Ensemble

variable {σ : Type} [FaithfulTransport σ Rat] {e : Ensemble σ Rat} {t : Rat}
  {global : Table (Sample Rat)} {z : AgentId → Point Rat} {id : AgentId} {p : LocalProblem Rat}

/-- The problem that the controller of an agent works on. -/
def problem? (e : Ensemble σ Rat) (id : AgentId) : Option (LocalProblem Rat) := do
  let c ← e.controllers.lookup id
  match ← c.problem with
  | .ok p => some p
  | .error _ => none

/-- All agents look at one global point, and they know of each neighbor the influence on it that the
neighbor itself reports. -/
structure AtConsensus (e : Ensemble σ Rat) (t : Rat) (global : Table (Sample Rat))
    (z : AgentId → Point Rat) : Prop where
  holds : ∀ id p, e.problem? id = some p → p.Holds t global (z id)
  influences : ∀ id p, e.problem? id = some p → ∀ q ∈ p.pairs, ∃ r, e.problem? q.1.id = some r ∧
    r.influence id (z q.1.id) = some (q.2.v.read (z id).u)

theorem Orderly.follows (h : e.Orderly) (hunchanged : e.topologyChanged = false)
    (hadds : e.network.Adds) (hp : e.problem? id = some p) :
    p.agent.id = id ∧ p.Follows e.network := by
  obtain ⟨c, hc, hproblem⟩ := Option.bind_eq_some_iff.mp hp
  obtain ⟨posed, hposed, hok⟩ := Option.bind_eq_some_iff.mp hproblem
  obtain ⟨layout, hlayout, hof⟩ := Option.map_eq_some_iff.mp hposed
  obtain ⟨q, rfl⟩ : ∃ q, posed = .ok q := by
    cases posed with
    | ok q => exact ⟨q, rfl⟩
    | error fault => simp at hok
  obtain rfl : q = p := Option.some.inj hok
  obtain ⟨-, rfl⟩ := LocalProblem.of_eq_ok hof
  have hevolved := h.evolved id c hc
  have hlinked := h.linked hunchanged id c hc
  have hkeyed := h.keyed id c hc
  have hmodel : e.network.model? c.agent.id = some c.agent.model := by
    rw [hkeyed]
    exact h.models id c hc
  have hmodels : ∀ nb ∈ c.agent.neighbors, e.network.model? nb.id = some nb.model := fun nb hnb =>
    hlinked.models nb.link (List.mem_map_of_mem hnb)
  have hrelations : ∀ nb ∈ c.agent.neighbors, nb.relation = e.network.relation c.agent.id nb.id :=
    fun nb hnb => hlinked.relations nb.link (List.mem_map_of_mem hnb)
  refine ⟨hkeyed, ⟨⟨hevolved.indexed layout hlayout, hevolved.nodup, hevolved.approximated,
    hadds.agents _ _ hmodel, fun nb hnb f hf => ?_, fun nb hnb => hadds.agents _ _ (hmodels nb hnb),
    fun nb hnb f hf => ?_⟩, hmodel, hlinked.ids, hrelations, hmodels⟩⟩
  · have hsending := congrArg Relation.sending (hrelations nb hnb)
    exact hadds.couplings _ _ _ f hmodel (hsending.symm.trans hf)
  · have hreceiving := congrArg Relation.receiving (hrelations nb hnb)
    exact hadds.couplings _ _ _ f (hmodels nb hnb) (hreceiving.symm.trans hf)

/-- Extended vectors that hold a global point and know of no influence. -/
def restingPoint (e : Ensemble σ Rat) (t : Rat) (global : Table (Sample Rat)) (id : AgentId) :
    Point Rat :=
  match e.problem? id with
  | none => ⟨t, [], []⟩
  | some p => p.extended t global fun j => Vec.zeros ((e.network.model? j).elim 0 (·.nx))

/-- What an agent reports as its influence with respect to a neighbor. -/
def reported (e : Ensemble σ Rat) (t : Rat) (global : Table (Sample Rat)) (id j : AgentId) : Vec Rat :=
  ((e.problem? j).bind (·.influence id (e.restingPoint t global j))).getD []

/-- Extended vectors that hold a global point and the influences that all neighbors report at it. -/
def consensusPoint (e : Ensemble σ Rat) (t : Rat) (global : Table (Sample Rat)) (id : AgentId) :
    Point Rat :=
  match e.problem? id with
  | none => ⟨t, [], []⟩
  | some p => p.extended t global (e.reported t global id)

/-- Everybody works on a problem. -/
theorem Working.posed (h : e.Working) (hunchanged : e.topologyChanged = false)
    (hid : id ∈ e.network.ids) : ∃ p, e.problem? id = some p := by
  obtain ⟨c, hc⟩ := Table.lookup_of_mem_ids h.sorted (h.complete hunchanged id hid)
  have hevolved := h.evolved id c hc
  obtain ⟨layout, hlayout⟩ :=
    Option.isSome_iff_exists.mp (hevolved.sound (.inr (h.begun id c hc))).layout
  have hindexed : (⟨c.agent, layout⟩ : LocalProblem Rat).Indexed := hevolved.indexed layout hlayout
  have hof : LocalProblem.of c.agent layout = .ok ⟨c.agent, layout⟩ := by
    unfold LocalProblem.of
    rw [bind_eq_ok]
    exact ⟨⟨⟩, Checked.require_eq_ok.mpr hindexed.ids, rfl⟩
  refine ⟨⟨c.agent, layout⟩, ?_⟩
  unfold problem? Controller.problem
  rw [hc, Option.bind_eq_bind, Option.bind_some, hlayout, Option.map_some, hof]
  rfl

section GlobalPoint

variable (h : e.Working) (hunchanged : e.topologyChanged = false) (hadds : e.network.Adds)
  (hsampled : ∀ id m, e.network.model? id = some m → LocalProblem.Sampled global id m.nx m.nu)

include h hunchanged hadds hsampled

theorem Working.holds_extended (hp : e.problem? id = some p) {v : AgentId → Vec Rat}
    (hv : ∀ nb ∈ p.agent.neighbors, (v nb.id).length = nb.nx) :
    p.Holds t global (p.extended t global v) ∧
      ∀ q ∈ p.pairs, q.2.v.read (p.extended t global v).u = v q.1.id := by
  have hfollows := (h.follows hunchanged hadds hp).2
  exact hfollows.indexed.holds_extended (hsampled _ _ hfollows.model)
    (fun nb hnb => hsampled _ _ (hfollows.linked nb hnb)) hv

theorem Working.holds_restingPoint (hp : e.problem? id = some p) :
    p.Holds t global (e.restingPoint t global id) := by
  have hfollows := (h.follows hunchanged hadds hp).2
  unfold restingPoint
  rw [hp]
  refine (h.holds_extended hunchanged hadds hsampled hp fun nb hnb => ?_).1
  rw [hfollows.linked nb hnb]
  exact Vec.length_zeros _

omit hsampled in
/-- All neighbors report. -/
theorem Working.reported_eq (hp : e.problem? id = some p) {nb : Neighbor Rat}
    (hnb : nb ∈ p.agent.neighbors) :
    ∃ r, e.problem? nb.id = some r ∧
      r.influence id (e.restingPoint t global nb.id) = some (e.reported t global id nb.id) ∧
      (e.reported t global id nb.id).length = nb.nx := by
  obtain ⟨hid, hfollows⟩ := h.follows hunchanged hadds hp
  have hmodel := hfollows.linked nb hnb
  obtain ⟨r, hr⟩ := h.posed hunchanged (Network.mem_ids_of_model hmodel)
  obtain ⟨hrid, hfollows'⟩ := h.follows hunchanged hadds hr
  have hback : id ∈ r.agent.neighborIds := by
    rw [hfollows'.ids, hrid, Network.mem_neighborsOf_comm, ← hid, ← hfollows.ids]
    exact Agent.mem_neighborIds.mpr ⟨nb, hnb, rfl⟩
  have hnx : r.agent.nx = nb.nx := by
    have hsame := hfollows'.model
    rw [hrid, hmodel] at hsame
    exact (congrArg AgentModel.nx (Option.some.inj hsame)).symm
  obtain ⟨v, hv, hlength⟩ := hfollows'.influence_eq_some hback (e.restingPoint t global nb.id)
  have hsame : e.reported t global id nb.id = v := by
    unfold reported
    rw [hr, Option.bind_some, hv, Option.getD_some]
  rw [hsame]
  exact ⟨r, hr, hv, hlength.trans hnx⟩

/-- Every global point stands in some extended vectors at consensus. What is reported at them is what is
reported without any influence. -/
theorem Working.atConsensus : e.AtConsensus t global (e.consensusPoint t global) := by
  have hconsensus : ∀ {id p}, e.problem? id = some p →
      p.Holds t global (e.consensusPoint t global id) ∧
        ∀ q ∈ p.pairs, q.2.v.read (e.consensusPoint t global id).u = e.reported t global id q.1.id := by
    intro id p hp
    unfold consensusPoint
    rw [hp]
    refine h.holds_extended hunchanged hadds hsampled hp fun nb hnb => ?_
    obtain ⟨_, -, -, hlength⟩ := h.reported_eq hunchanged hadds hp hnb
    exact hlength
  refine ⟨fun id p hp => (hconsensus hp).1, fun id p hp q hq => ?_⟩
  obtain ⟨r, hr, hv, -⟩ := h.reported_eq hunchanged hadds hp (List.of_mem_zip hq).1
  refine ⟨r, hr, ?_⟩
  rw [(hconsensus hp).2 q hq, ← hv]
  exact (hconsensus hr).1.influence_eq (h.holds_restingPoint hunchanged hadds hsampled hr) id

end GlobalPoint

theorem Reachable.predicts_plant (h : e.Reachable) (hunchanged : e.topologyChanged = false)
    (hadds : e.network.Adds)
    (hsized : ∀ id s m, global.lookup id = some s → e.network.model? id = some m → s.x.length = m.nx)
    (hz : e.AtConsensus t global z) (hp : e.problem? id = some p) :
    e.network.Moves t global id (p.index.ownX.read (p.toProblem.dynamics (z id))) ∧
      ∀ q ∈ p.pairs,
        e.network.Moves t global q.1.id (q.2.x.read (p.toProblem.dynamics (z id))) := by
  have hmirrors : ∀ {id p}, e.problem? id = some p →
      p.agent.id = id ∧ p.Mirrors e.network t global (z id) := by
    intro id p hp
    obtain ⟨hid, hfollows⟩ := h.orderly.follows hunchanged hadds hp
    exact ⟨hid, hfollows, hz.holds id p hp, hsized⟩
  obtain ⟨rfl, hp'⟩ := hmirrors hp
  obtain ⟨hown, hcopies⟩ := hp'.read_dynamics (z := z p.agent.id)
  refine ⟨(hp'.moves_iff _).mpr hown, fun q hq => ?_⟩
  obtain ⟨r, hr, hv⟩ := hz.influences p.agent.id p hp q hq
  obtain ⟨hid, hr'⟩ := hmirrors hr
  have hmoves := (hr'.moves_iff _).mpr ((hcopies q hq).trans (hp'.predict_eq hr' hq hid hv))
  rwa [hid] at hmoves

/-- The pair, ready to solve. -/
def pairPrepared : Ensemble (Direct Rat) Rat := (exec (prepare 0) (pair 1 (insist 0))).2

def pairSamples : Table (Sample Rat) := [(0, ⟨[1], [2]⟩), (1, ⟨[3], [4]⟩)]

theorem pair_network (x : Rat) (solver : LocalSolver Rat) : (pair x solver).network =
    ⟨[(0, ⟨decaying.toModel, [x], [0], [0], [0]⟩), (1, ⟨decaying.toModel, [x], [0], [0], [0]⟩)],
      [⟨1, 0, following.toModel⟩, ⟨0, 1, following.toModel⟩]⟩ := rfl

theorem pair_adds (x : Rat) (solver : LocalSolver Rat) : (pair x solver).network.Adds := by
  rw [pair_network]
  refine .of_forall ?_ ?_
  · simpa using decaying.adds _
  · simpa using fun k => following.adds k

theorem returns_pairPrepared : Returns (prepare 0) (pair 1 (insist 0)) () pairPrepared := by
  obtain ⟨_, h⟩ := returns_of_isOk (x := prepare 0) (e := pair 1 (insist 0)) (by decide +kernel)
  exact h

theorem pairPrepared_network : pairPrepared.network = (pair 1 (insist 0)).network := by
  have hbare := (returns_prepare (pair_reachable 1 (insist 0)).orderly returns_pairPrepared).1
  simpa [bare] using congrArg Ensemble.network hbare

theorem pairSamples_sampled {id : AgentId} {m : AgentModel Rat}
    (h : pairPrepared.network.model? id = some m) :
    LocalProblem.Sampled pairSamples id m.nx m.nu := by
  rw [pairPrepared_network, pair_network] at h
  obtain ⟨entry, hentry, rfl⟩ := Option.map_eq_some_iff.mp h
  have hmem := Table.mem_of_lookup hentry
  simp only [List.mem_cons, Prod.mk.injEq, List.not_mem_nil, or_false] at hmem
  obtain ⟨rfl, rfl⟩ | ⟨rfl, rfl⟩ := hmem
  · exact ⟨rfl, rfl, rfl⟩
  · exact ⟨rfl, rfl, rfl⟩

theorem pair_predicts_plant :
    pairPrepared.AtConsensus 0 pairSamples (pairPrepared.consensusPoint 0 pairSamples) ∧
    ∃ p, pairPrepared.problem? 0 = some p ∧ p.pairs.length = 1 ∧
      pairPrepared.network.Moves 0 pairSamples 0 (p.index.ownX.read
        (p.toProblem.dynamics (pairPrepared.consensusPoint 0 pairSamples 0))) ∧
      ∀ q ∈ p.pairs, pairPrepared.network.Moves 0 pairSamples q.1.id (q.2.x.read
        (p.toProblem.dynamics (pairPrepared.consensusPoint 0 pairSamples 0))) := by
  have hreachable := (pair_reachable 1 (insist 0)).of_prepare returns_pairPrepared
  obtain ⟨hworking, hunchanged⟩ :=
    (triple_prepare 0).of_returns (pair_reachable 1 (insist 0)).orderly returns_pairPrepared
  have hadds : pairPrepared.network.Adds := by
    rw [pairPrepared_network]
    exact pair_adds 1 (insist 0)
  have hsized : ∀ id s m, pairSamples.lookup id = some s →
      pairPrepared.network.model? id = some m → s.x.length = m.nx := by
    intro id s m hs hm
    have hsample := pairSamples_sampled hm
    obtain rfl := Option.some.inj (hsample.lookup.symm.trans hs)
    exact hsample.x
  have hz : pairPrepared.AtConsensus 0 pairSamples (pairPrepared.consensusPoint 0 pairSamples) :=
    Working.atConsensus hworking hunchanged hadds fun _ _ => pairSamples_sampled
  have hpairs : ((pairPrepared.problem? 0).map (·.pairs.length)) = some 1 := by decide +kernel
  obtain ⟨p, hp, hlength⟩ := Option.map_eq_some_iff.mp hpairs
  obtain ⟨hown, hcopies⟩ := Reachable.predicts_plant hreachable hunchanged hadds hsized hz hp
  exact ⟨hz, p, hp, hlength, hown, hcopies⟩

end Ensemble

end ConsensusControl
