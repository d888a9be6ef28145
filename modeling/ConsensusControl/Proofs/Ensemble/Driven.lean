import ConsensusControl.Proofs.Ensemble.ClosedLoop
import ConsensusControl.Proofs.Ensemble.Readiness
import ConsensusControl.Proofs.Ensemble.Synchronous

namespace ConsensusControl

/-- A coupling that is registered has an influence of the right length. -/
def Change.KeepsLengths {α : Type} : Change α → Prop
  | .registerCoupling _ _ model => model.dynamics.KeepsLength
  | .registerAgent .. | .deregisterAgent _ | .setDesired .. | .setInitial .. | .deregisterCoupling .. =>
    True

theorem Network.KeepsLengths.apply {α : Type} [Scalar α] {n n' : Network α} (hn : n.KeepsLengths)
    {change : Change α} (hchange : change.KeepsLengths) (h : n.apply change = .ok n') :
    n'.KeepsLengths := by
  cases change with
  | registerAgent id model x u =>
    obtain ⟨-, -, -, -, -, rfl⟩ := registerAgent_eq_ok h
    exact hn
  | deregisterAgent id =>
    obtain rfl := apply_deregisterAgent_eq_ok h
    exact fun c hc => hn c (List.mem_of_mem_filter hc)
  | setDesired id x u =>
    obtain ⟨_, -, -, -, rfl⟩ := setDesired_eq_ok h
    exact hn
  | setInitial id x =>
    obtain ⟨_, -, -, rfl⟩ := setInitial_eq_ok h
    exact hn
  | registerCoupling agent neighbor model =>
    obtain ⟨-, -, -, -, rfl⟩ := registerCoupling_eq_ok h
    exact List.forall_mem_cons.mpr ⟨hchange, hn⟩
  | deregisterCoupling agent neighbor =>
    obtain ⟨-, rfl⟩ := deregisterCoupling_eq_ok h
    exact fun c hc => hn c (List.mem_of_mem_filter hc)

namespace Controller

variable {c c' : Controller Rat} {t0 : Rat}

theorem startAt_self (h : c.agent.agentState.t0 = t0) : c.startAt t0 = c := by
  have hnear : ¬ (Scalar.gridTolerance : Rat) < 0 := by decide +kernel
  unfold startAt
  rw [h, sub_self, scalar_abs, abs_zero, if_neg hnear]

/-- A controller that is ready for the horizon at hand has its records on the grid. -/
theorem ReadyFor.fitted (h : c.ReadyFor t0 c') (hstep : Scalar.timeTolerance < c.options.stepSize)
    (hstart : c.agent.agentState.t0 = t0) (hc : c.status = .uninitialized ∨ c.Fitted t0) :
    c'.Fitted t0 := by
  unfold ReadyFor at h
  rw [startAt_self hstart] at h
  split at h
  · obtain ⟨hok, rfl⟩ := h
    have hfitted := fitted_prepare hstep hok
    rw [hstart] at hfitted
    exact hfitted.of_agent rfl rfl hfitted.agent
  · next hstatus =>
    obtain rfl := h
    have hfitted := hc.resolve_left hstatus
    exact hfitted.of_agent rfl rfl hfitted.agent

end Controller

namespace Ensemble

variable {σ : Type} {t0 t dt : Rat} {e e' : Ensemble σ Rat}

/-- All horizons start at `t`. -/
def StartsAt (t : Rat) (e : Ensemble σ Rat) : Prop :=
  ∀ id c, e.controllers.lookup id = some c → c.agent.agentState.t0 = t

/-- Every controller has its records on the grid of its horizon, and so they stay. -/
structure Settled (e : Ensemble σ Rat) : Prop where
  lengths : e.network.KeepsLengths
  solver : e.solver.KeepsGrid
  fitted : ∀ id c, e.controllers.lookup id = some c → ∃ t, c.Fitted t

theorem Settled.aligned (h : e.Settled) (hstart : e.StartsAt t) : e.Aligned t := by
  intro id c hc
  obtain ⟨s, hs⟩ := h.fitted id c hc
  obtain rfl : s = t := hs.start.symm.trans (hstart id c hc)
  exact hs

/-- Where a controller comes from, its horizon starts at `t0`. -/
theorem Sourced.fitted [Transport σ Rat] (he : e.Supplied) (haligned : e.Aligned t0) {id : AgentId}
    {c : Controller Rat} (h : Sourced t0 e id c) :
    c.agent.agentState.t0 = t0 ∧ (c.status = .uninitialized ∨ c.Fitted t0) := by
  cases h with
  | kept hc => exact ⟨(haligned id c hc).start, .inr (haligned id c hc)⟩
  | synced _ hc ha =>
    have hsynced := Network.syncAgent_synced (he.serves id _ hc).nodup ha
    refine ⟨?_, .inl rfl⟩
    exact (congrArg Record.t0 hsynced.agentState).trans (haligned id _ hc).start
  | built _ _ ha =>
    obtain ⟨entry, -, rfl⟩ := he.network.registered.buildAgent_eq_ok ha
    exact ⟨rfl, .inl rfl⟩

section Solve

variable [FaithfulTransport σ Rat]

theorem Synchronous.settled (h : e.Synchronous t0) : e.Settled :=
  ⟨h.lengths, h.solver, fun id c hc => ⟨t0, h.aligned id c hc⟩⟩

/-- A preparation puts all agents on the grid of the horizon that they are at. -/
theorem Settled.prepare (h : e.Settled) (h₀ : e.Operated) (hvalid : e.options.validate = .ok ())
    (hstep : Scalar.timeTolerance < e.options.stepSize) (hstart : e.StartsAt t0) :
    ∃ e', Returns (Ensemble.prepare t0) e () e' ∧ e'.Synchronous t0 := by
  obtain ⟨e', hprepare⟩ := h₀.orderly.exists_prepare h₀.supplied.network hvalid t0
  obtain ⟨hworking, hunchanged⟩ := (triple_prepare t0).of_returns h₀.orderly hprepare
  obtain ⟨hbare, hready⟩ := returns_prepare h₀.orderly hprepare
  have hnetwork : e'.network = e.network := by simpa [bare] using congrArg Ensemble.network hbare
  have hsolver : e'.solver = e.solver := by simpa [bare] using congrArg Ensemble.solver hbare
  refine ⟨e', hprepare,
    { toWorking := hworking
      unchanged := hunchanged
      supplied := (h₀.prepare hprepare).2
      lengths := hnetwork ▸ h.lengths
      solver := hsolver ▸ h.solver
      aligned := fun id c' hc' => ?_ }⟩
  obtain ⟨c, hsourced, hc⟩ := hready id c' hc'
  obtain ⟨hstarts, hfitted⟩ := hsourced.fitted h₀.supplied (h.aligned hstart)
  have hoptions := (hsourced.serves h₀.supplied).options
  exact hc.fitted (hoptions.symm ▸ hstep) hstarts hfitted

theorem Settled.triple_solve (h : e.Settled) (h₀ : e.Operated)
    (hvalid : e.options.validate = .ok ()) (hstep : Scalar.timeTolerance < e.options.stepSize)
    (hstart : e.StartsAt t0) :
    Triple (· = e) (solve t0) (fun _ => Synchronous t0) (Synchronous t0) := by
  obtain ⟨e₁, hprepare, h₁⟩ := h.prepare h₀ hvalid hstep hstart
  refine (phased_synchronous.triple_solve (hprepare.triple h₁) fun _ h => h).weaken (fun _ h => h)
    (fun _ e' he' => ?_) fun _ h => h
  obtain ⟨e₂, h₂, rfl⟩ := he'
  exact phased_synchronous.store h₂

/-- Nor does a solve that is given up leave anything off the grid. -/
theorem Settled.abandon (h : e.Settled) (h₀ : e.Operated) (hvalid : e.options.validate = .ok ())
    (hstep : Scalar.timeTolerance < e.options.stepSize) (hstart : e.StartsAt t0)
    (ha : Abandons t0 e e') : e'.Settled := by
  obtain ⟨e₁, hprepare, h₁⟩ := h.prepare h₀ hvalid hstep hstart
  have hexchanges : ∀ {phase : ExchangePhase} {n : Nat} {e : Ensemble σ Rat},
      Exchanges t0 _ phase n e → e.Synchronous t0 := fun hpoint =>
    hpoint.keeps phased_synchronous fun e₂ h₂ => by
      obtain rfl : e₁ = e₂ := congrArg Prod.snd (hprepare.symm.trans h₂)
      exact h₁
  cases ha with
  | sending hpoint _ hsend =>
    have hsettled := (hexchanges hpoint).settled
    rw [(returns_forM_send hsend).1]
    exact ⟨hsettled.lengths, hsettled.solver, hsettled.fitted⟩
  | receiving hpoint hsend _ hreceive =>
    have hsettled := (hexchanges hpoint).settled
    rw [(returns_mapM_receive hreceive).1, (returns_forM_send hsend).1]
    exact ⟨hsettled.lengths, hsettled.solver, hsettled.fitted⟩
  | working hpoint hexchange =>
    exact ((phased_synchronous.exchanging _ _).of_returns (hexchanges hpoint) hexchange).settled
  | iterating hpoint hexchange hfinish =>
    have hexchanged :=
      (phased_synchronous.exchanging _ _).of_returns (hexchanges hpoint) hexchange
    exact ((phased_synchronous.finishing _).of_returns hexchanged hfinish).settled

end Solve

theorem Settled.put (h : e.Settled) {c : Controller Rat} (hc : c.Fitted t) (id : AgentId) :
    Settled { e with controllers := Table.insert id c e.controllers } := by
  refine ⟨h.lengths, h.solver, fun k d hd => ?_⟩
  rcases Table.lookup_insert_cases hd with ⟨rfl, rfl⟩ | ⟨-, hold⟩
  · exact ⟨t, hc⟩
  · exact h.fitted k d hold

theorem Settled.apply [Transport σ Rat] {change : Change Rat} (hchange : change.KeepsLengths) :
    Keeps (Settled (σ := σ)) (Ensemble.apply change) := by
  unfold Ensemble.apply
  refine triple_get_bind fun e h => ?_
  refine triple_bind (Q := fun n e' => e' = e ∧ e.network.apply change = .ok n) ?_ fun n => ?_
  · exact triple_configured (fun _ he n hn => ⟨he, hn⟩) fun _ he => he ▸ h
  refine triple_bind (Q := fun _ e' => e'.Settled) (triple_modify fun _ heq => ?_) fun _ => ?_
  · obtain ⟨rfl, hn⟩ := heq
    exact ⟨h.lengths.apply hchange hn, h.solver, h.fitted⟩
  cases change with
  | registerAgent | setDesired | registerCoupling | deregisterCoupling =>
    exact triple_modify fun _ h => ⟨h.lengths, h.solver, h.fitted⟩
  | deregisterAgent id =>
    refine triple_modify fun e h => ⟨h.lengths, h.solver, fun k c hc => ?_⟩
    have hne : k ≠ id := by
      intro heq
      subst heq
      simp [Table.lookup_erase_self] at hc
    exact h.fitted k c ((Table.lookup_erase_ne hne _).symm.trans hc)
  | setInitial id x =>
    refine triple_get_bind fun e h => ?_
    split
    · next c hc =>
      refine triple_bind (Q := fun c' e' => e' = e ∧ c.setInitialState x = .ok c') ?_ fun c' => ?_
      · exact triple_configured (fun _ he c' hc' => ⟨he, hc'⟩) fun _ he => he ▸ h
      · refine triple_putController fun _ heq => ?_
        obtain ⟨rfl, hc'⟩ := heq
        obtain ⟨t, hfitted⟩ := h.fitted id c hc
        exact h.put (hfitted.setInitialState (Controller.grid_ne_nil hfitted.valid) hc') id
    · exact triple_pure fun _ he => he ▸ h

theorem exists_pushApplied (t : Rat) (applied : Table (Sample Rat)) (e : Ensemble σ Rat) :
    ∃ solutions, applied.foldl (pushApplied t) e = { e with solutions } := by
  induction applied generalizing e with
  | nil => exact ⟨e.solutions, rfl⟩
  | cons p applied ih =>
    obtain ⟨solutions, h⟩ := ih (pushApplied t e p)
    exact ⟨solutions, h⟩

/-- Horizons still start at `t` for the agents of `rest`, and at `t + dt` for all others. -/
structure Advancing (t dt : Rat) (rest : Table (Vec Rat)) (e : Ensemble σ Rat) : Prop where
  lengths : e.network.KeepsLengths
  solver : e.solver.KeepsGrid
  waiting : ∀ id c, e.controllers.lookup id = some c → id ∈ Table.ids rest → c.Fitted t
  moved : ∀ id c, e.controllers.lookup id = some c → id ∉ Table.ids rest → c.Fitted (t + dt)
  distinct : (Table.ids rest).Nodup

theorem Advancing.settled {rest : Table (Vec Rat)} (h : e.Advancing t dt rest) : e.Settled := by
  refine ⟨h.lengths, h.solver, fun id c hc => ?_⟩
  by_cases hid : id ∈ Table.ids rest
  · exact ⟨t, h.waiting id c hc hid⟩
  · exact ⟨t + dt, h.moved id c hc hid⟩

/-- With its horizon moved, an agent is not waited for any more. -/
theorem Advancing.put {rest rest' : Table (Vec Rat)} (h : e.Advancing t dt rest') {id : AgentId}
    (hothers : ∀ k, k ≠ id → (k ∈ Table.ids rest' ↔ k ∈ Table.ids rest))
    (hfresh : id ∉ Table.ids rest) (hdistinct : (Table.ids rest).Nodup) {c : Controller Rat}
    (hc : c.Fitted (t + dt)) :
    Advancing t dt rest { e with controllers := Table.insert id c e.controllers } := by
  refine ⟨h.lengths, h.solver, fun k d hd hk => ?_, fun k d hd hk => ?_, hdistinct⟩
  · rcases Table.lookup_insert_cases hd with ⟨rfl, -⟩ | ⟨hne, hold⟩
    · exact absurd hk hfresh
    · exact h.waiting k d hold ((hothers k hne).mpr hk)
  · rcases Table.lookup_insert_cases hd with ⟨-, rfl⟩ | ⟨hne, hold⟩
    · exact hc
    · exact h.moved k d hold fun hmem => hk ((hothers k hne).mp hmem)

theorem triple_advance (t dt : Rat) (p : AgentId × Vec Rat) (rest : Table (Vec Rat)) :
    Triple (Advancing t dt (p :: rest)) (advance dt p : Run σ Rat Unit)
      (fun _ => Advancing t dt rest) Settled := by
  obtain ⟨id, x⟩ := p
  have hothers : ∀ k, k ≠ id → (k ∈ Table.ids ((id, x) :: rest) ↔ k ∈ Table.ids rest) :=
    fun k hk => List.mem_cons.trans (or_iff_right hk)
  unfold advance
  refine triple_get_bind fun e h => ?_
  refine triple_bind (Q := fun n e' => e' = e ∧ e.network.setInitial id x = .ok n) ?_ fun n => ?_
  · exact triple_configured (fun _ he n hn => ⟨he, hn⟩) fun _ he => he ▸ h.settled
  refine triple_bind (Q := fun _ => Advancing t dt ((id, x) :: rest)) (triple_modify fun _ heq => ?_)
    fun _ => triple_get_bind fun e h => ?_
  · obtain ⟨rfl, hn⟩ := heq
    have hchange : (Change.setInitial id x).KeepsLengths := trivial
    exact ⟨h.lengths.apply hchange hn, h.solver, h.waiting, h.moved, h.distinct⟩
  obtain ⟨hfresh, hdistinct⟩ := List.nodup_cons.mp h.distinct
  split
  · next c hc =>
    obtain ⟨hok, hshifted⟩ := (h.waiting id c hc List.mem_cons_self).shiftHorizon dt
    refine triple_bind (Q := fun _ => Advancing t dt rest) (triple_putController fun _ heq => ?_)
      fun _ => ?_
    · obtain rfl := heq
      exact h.put hothers hfresh hdistinct hshifted
    refine triple_bind (Q := fun _ => Advancing t dt rest) ?_ fun _ => ?_
    · exact triple_promised (fun _ h _ _ => h) fun _ h => h.settled
    refine triple_bind (Q := fun c' e' => Advancing t dt rest e' ∧
      (c.shiftHorizon dt).1.setInitialState x = .ok c') ?_ fun c' => ?_
    · exact triple_configured (fun _ h c' hc' => ⟨h, hc'⟩) fun _ h => h.settled
    · refine triple_putController fun e' he' => ?_
      obtain ⟨h', hc'⟩ := he'
      have hfitted := hshifted.setInitialState (Controller.grid_ne_nil hshifted.valid) hc'
      exact h'.put (fun _ _ => .rfl) hfresh hdistinct hfitted
  · next hnone =>
    refine triple_pure fun e₁ heq => ?_
    obtain rfl := heq
    have hne : ∀ k c, e₁.controllers.lookup k = some c → k ≠ id := by
      intro k c hc hk
      subst hk
      exact hnone c hc
    exact ⟨h.lengths, h.solver,
      fun k c hc hk => h.waiting k c hc ((hothers k (hne k c hc)).mpr hk),
      fun k c hc hk => h.moved k c hc fun hmem => hk ((hothers k (hne k c hc)).mp hmem), hdistinct⟩

section Steps

variable [FaithfulTransport σ Rat]

/-- The plant moves every agent with a controller. -/
theorem Synchronous.advancing (h : e.Synchronous t) {applied : Table (Sample Rat)}
    (happlied : e.appliedSamples = .ok applied) (dt : Rat) {solutions : Table (Solution Rat)} :
    Advancing t dt (e.network.eulerStep applied t dt) { e with solutions } := by
  have hids := (appliedSamples_eq_ok happlied).ids
  have hsorted : Table.Sorted applied := (appliedSamples_eq_ok happlied).sorted h.sorted
  refine ⟨h.lengths, h.solver, fun id c hc _ => h.aligned id c hc, fun id c hc hid => ?_,
    (Network.sorted_eulerStep hsorted).nodup⟩
  obtain ⟨own, hown⟩ := Table.lookup_of_mem_ids hsorted (hids ▸ Table.mem_ids_of_lookup hc)
  obtain ⟨entry, hentry, -⟩ := Option.map_eq_some_iff.mp (h.supplied.serves id c hc).model
  obtain ⟨x, hx, -⟩ := Network.euler_of_sampled hentry hown t dt
  exact absurd (Table.mem_ids_of_lookup hx) hid

/-- A step of the closed loop moves all horizons by its time. -/
theorem Settled.triple_closedLoopStep (h : e.Settled) (h₀ : e.Operated)
    (hvalid : e.options.validate = .ok ()) (hstep : Scalar.timeTolerance < e.options.stepSize)
    (hstart : e.StartsAt t) (dt : Rat) : Triple (· = e) (closedLoopStep t dt)
      (fun _ e' => e'.Settled ∧ e'.StartsAt (t + dt)) Settled := by
  unfold closedLoopStep
  refine triple_bind (Q := fun _ => Synchronous t)
    ((h.triple_solve h₀ hvalid hstep hstart).weaken (fun _ h => h) (fun _ _ h => h)
      fun _ h => h.settled) fun summary => triple_get_bind fun e₁ h₁ => ?_
  refine triple_bind (Q := fun applied e₂ => e₂ = e₁ ∧ e₁.appliedSamples = .ok applied) ?_
    fun applied => ?_
  · exact triple_promised (fun _ he _ happlied => ⟨he, happlied⟩) fun _ he => he ▸ h₁.settled
  refine triple_bind (Q := fun _ e₂ => Advancing t dt (e₂.network.eulerStep applied t dt) e₂)
    (triple_modify fun e₂ he => ?_) fun _ => triple_get_bind fun e₂ h₂ => ?_
  · obtain ⟨rfl, happlied⟩ := he
    obtain ⟨solutions, hpushed⟩ := exists_pushApplied t applied e₂
    rw [hpushed]
    exact h₁.advancing happlied dt
  refine triple_bind (Q := fun _ => Advancing t dt []) ?_ fun _ => triple_pure fun e' h' => ?_
  · exact (triple_forM_rest (triple_advance t dt) _).weaken (fun _ he => he ▸ h₂)
      (fun _ _ h => h) fun _ h => h
  · exact ⟨h'.settled, fun id c hc => (h'.moved id c hc List.not_mem_nil).start⟩

end Steps

section Driven

variable [FaithfulTransport σ Rat]

/-- Ensembles that gradient descents are run on, each on the horizon that the agents are at. -/
inductive Driven : Ensemble σ Rat → Prop
  | new (o : Options Rat) (strict : Bool) {transport : σ}
      (h : ∀ env, ¬ FaithfulTransport.InTransit env transport) :
      Driven (.new o (Gradient.solver strict) transport)
  | apply {change : Change Rat} (hchange : change.KeepsLengths) {e : Ensemble σ Rat} (h : Driven e) :
      Driven (exec (apply change) e).2
  | solve {t0 : Rat} {e : Ensemble σ Rat} (h : Driven e) (hstart : e.StartsAt t0) :
      Driven (exec (solve t0) e).2
  | abandon {t0 : Rat} {e e' : Ensemble σ Rat} (h : Driven e) (hstart : e.StartsAt t0)
      (ha : Abandons t0 e e') : Driven e'
  | closedLoopStep {t : Rat} (dt : Rat) {e : Ensemble σ Rat} (h : Driven e) (hstart : e.StartsAt t) :
      Driven (exec (closedLoopStep t dt) e).2
  | withSolver (strict : Bool) {e : Ensemble σ Rat} (h : Driven e) :
      Driven (e.withSolver (Gradient.solver strict))
  | capStoredData (samples : Nat) {e : Ensemble σ Rat} (h : Driven e) :
      Driven (e.capStoredData samples)

namespace Driven

theorem operated (h : e.Driven) : e.Operated := by
  induction h with
  | new o strict h => exact .new o _ h
  | apply _ _ ih => exact ih.apply _
  | solve _ _ ih => exact ih.solve _
  | abandon _ _ ha ih => exact ih.abandon ha
  | closedLoopStep dt _ _ ih => exact ih.closedLoopStep _ dt
  | withSolver strict _ ih => exact ih.withSolver _
  | capStoredData samples _ ih => exact ih.capStoredData samples

/-- With valid options and a step that can be told from none, records never leave their grids. -/
theorem settled (h : e.Driven) (hvalid : e.options.validate = .ok ())
    (hstep : Scalar.timeTolerance < e.options.stepSize) : e.Settled := by
  induction h with
  | new o strict h =>
    exact ⟨by simp [Network.KeepsLengths, Ensemble.new, Network.empty],
      Gradient.solver_keepsGrid strict, by simp [Ensemble.new]⟩
  | @apply change hchange e h ih =>
    have hoptions := ((led_apply change).exec (e := e) .refl).options
    rw [hoptions] at hvalid hstep
    exact (Settled.apply hchange).exec (ih hvalid hstep)
  | @solve t0 e h hstart ih =>
    have hoptions := ((led_solve h.operated.orderly.sorted t0).exec .refl).options
    rw [hoptions] at hvalid hstep
    exact (((ih hvalid hstep).triple_solve h.operated hvalid hstep hstart).exec rfl).settled
  | @abandon t0 e e' h hstart ha ih =>
    have hoptions := (ha.led h.operated.orderly.sorted).options
    rw [hoptions] at hvalid hstep
    exact (ih hvalid hstep).abandon h.operated hvalid hstep hstart ha
  | @closedLoopStep t dt e h hstart ih =>
    have hoptions := ((led_closedLoopStep h.operated.orderly.sorted t dt).exec .refl).options
    rw [hoptions] at hvalid hstep
    exact (((ih hvalid hstep).triple_closedLoopStep h.operated hvalid hstep hstart dt).weaken
      (fun _ h => h) (fun _ _ h => h.1) fun _ h => h).exec rfl
  | withSolver strict _ ih =>
    exact ⟨(ih hvalid hstep).lengths, Gradient.solver_keepsGrid strict,
      by simp [Ensemble.withSolver]⟩
  | capStoredData samples _ ih =>
    have h := ih hvalid hstep
    exact ⟨h.lengths, h.solver, h.fitted⟩

theorem applyAll {changes : List (Change Rat)} (hchanges : ∀ change ∈ changes, change.KeepsLengths)
    (h : e.Driven) : (e.applyAll changes).Driven := by
  induction changes generalizing e with
  | nil => exact h
  | cons change changes ih =>
    obtain ⟨hfirst, hrest⟩ := List.forall_mem_cons.mp hchanges
    exact ih hrest (h.apply hfirst)

/-- A simulation that begins where the agents are goes on so from step to step. -/
theorem closedLoop (dt : Rat) (steps : Nat) {t : Rat} (h : e.Driven) (hstart : e.StartsAt t)
    (hvalid : e.options.validate = .ok ()) (hstep : Scalar.timeTolerance < e.options.stepSize) :
    (exec (Ensemble.closedLoop dt steps t) e).2.Driven := by
  induction steps generalizing t e with
  | zero => exact h
  | succ steps ih =>
    have hfirst := h.closedLoopStep dt hstart
    have hled := (led_closedLoopStep h.operated.orderly.sorted t dt).exec .refl
    have htriple := (h.settled hvalid hstep).triple_closedLoopStep h.operated hvalid hstep hstart dt
    unfold Ensemble.closedLoop
    rw [exec_bind]
    rcases hx : exec (Ensemble.closedLoopStep t dt) e with ⟨r, e₁⟩
    rw [hx] at hfirst hled
    cases r with
    | error s => exact hfirst
    | ok summary =>
      have hnext := (htriple.of_returns rfl hx).2
      have hrest := ih hfirst hnext (hled.options.symm ▸ hvalid) (hled.options.symm ▸ hstep)
      dsimp only
      rw [exec_bind]
      rcases hloop : exec (Ensemble.closedLoop dt steps (t + dt)) e₁ with ⟨r, e₂⟩
      rw [hloop] at hrest
      cases r with
      | error s => exact hrest
      | ok rest => exact hrest

theorem run (duration : Rat) {t0 : Rat} (h : e.Driven) (hstart : e.StartsAt t0)
    (hvalid : e.options.validate = .ok ()) (hstep : Scalar.timeTolerance < e.options.stepSize) :
    (exec (Ensemble.run duration t0) e).2.Driven := by
  unfold Ensemble.run
  rw [exec_bind, exec_get]
  exact h.closedLoop _ _ hstart hvalid hstep

end Driven

end Driven

end Ensemble

end ConsensusControl
