import ConsensusControl.Proofs.Ensemble.Rounds

namespace ConsensusControl.Ensemble

variable {σ α : Type} [Scalar α]

section Stored

variable {e : Ensemble σ α} {n : Network α} {o : Options α}

/-- Every controller has a solution, and nobody else has one. -/
theorem Busy.lookup_solutions (h : e.Busy) (id : AgentId) : e.stored.solutions.lookup id =
    (e.controllers.lookup id).map fun c => c.solution (e.solutions.lookup id) := by
  rw [lookup_stored h.sorted h.reported]
  cases hc : e.controllers.lookup id with
  | some c => rfl
  | none =>
    have hnone : id ∉ Table.ids e.controllers := fun hid => by
      simp [← Table.lookup_isSome, hc] at hid
    have hsolution : ¬ (e.solutions.lookup id).isSome := fun hsome =>
      hnone ((h.ids id).mpr (h.answered (Table.lookup_isSome.mp hsome)))
    exact Option.not_isSome_iff_eq_none.mp hsolution

theorem Solving.ids_solutions (h : Solving n o e) : Table.ids e.stored.solutions = n.ids := by
  have hsorted : n.ids.Pairwise (· < ·) := h.network ▸ h.registered.sorted
  refine (sorted_stored h.reported).ids_eq hsorted fun id => ?_
  refine InOrder.mem_ids_stored.trans ?_
  rw [h.ids, or_iff_left_of_imp]
  exact fun hid => h.network ▸ h.answered hid

theorem Solving.exists_controller (h : Solving n o e) {id : AgentId} {r : Solution α}
    (hr : e.stored.solutions.lookup id = some r) :
    ∃ c, e.controllers.lookup id = some c ∧ r = c.solution (e.solutions.lookup id) := by
  rw [h.lookup_solutions] at hr
  obtain ⟨c, hc, rfl⟩ := Option.map_eq_some_iff.mp hr
  exact ⟨c, hc, rfl⟩

end Stored

/-- There is one entry for each iteration: the largest residual of this kind at its end. The solutions
report the residuals at the end of the last one. -/
structure Recorded (kind : Residuals α → Option α) (report : Solution α → Option α)
    (ends : List (Ensemble σ α)) (solutions : Table (Solution α)) (entries : Vec α) : Prop where
  collected : entries = ends.map fun d => Scalar.largest (d.residuals kind)
  greatest : Scalar.Exact α → ∀ (k : Nat) (d : Ensemble σ α) (r : α), ends[k]? = some d → entries[k]? = some r →
    IsGreatest {x | ∃ id c, d.controllers.lookup id = some c ∧ kind c.residuals = some x} r
  latest : ∀ d ∈ ends.getLast?, ∀ id, (solutions.lookup id).bind report =
    (d.controllers.lookup id).bind fun c => kind c.residuals
  agrees : Scalar.Exact α → ∀ r ∈ entries.getLast?,
    IsGreatest {x | ∃ id s, solutions.lookup id = some s ∧ report s = some x} r

theorem isGreatest_residuals {d : Ensemble σ α} {n : Network α} {kind : Residuals α → Option α}
    (hexact : Scalar.Exact α) (hd : Ended n d) (hids : n.ids ≠ [])
    (hmeasured : ∀ id c, d.controllers.lookup id = some c → Residuals.Measured (kind c.residuals)) :
    IsGreatest {x | ∃ id c, d.controllers.lookup id = some c ∧ kind c.residuals = some x}
      (Scalar.largest (d.residuals kind)) := by
  have hne := residuals_ne_nil hd.sorted (hd.ids ▸ hids) hmeasured
  have hnonneg : ∀ r ∈ d.residuals kind, 0 ≤ r := by
    intro r hr
    obtain ⟨id, c, hc, hkind⟩ := (mem_residuals hd.sorted).mp hr
    obtain ⟨r', hr', hle⟩ := hmeasured id c hc
    obtain rfl : r = r' := Option.some.inj (hkind.symm.trans hr')
    exact hle hexact
  have hgreatest := hexact.isGreatest_largest hne hnonneg
  simpa only [mem_residuals hd.sorted] using hgreatest

theorem recorded_stored {kind : Residuals α → Option α} {report : Solution α → Option α}
    {ends : List (Ensemble σ α)} {e : Ensemble σ α} {entries : Vec α} {n : Network α}
    (hids : n.ids ≠ []) (hended : ∀ d ∈ ends, Ended n d ∧ ∀ id c, d.controllers.lookup id = some c →
      Residuals.Measured (kind c.residuals))
    (hlatest : ∀ d ∈ ends.getLast?, d = e) (hbusy : e.Busy)
    (hreport : ∀ (c : Controller α) last, report (c.solution last) = kind c.residuals)
    (hentries : entries = ends.map fun d => Scalar.largest (d.residuals kind)) :
    Recorded kind report ends e.stored.solutions entries := by
  have hsame : ∀ id, (e.stored.solutions.lookup id).bind report =
      (e.controllers.lookup id).bind fun c => kind c.residuals := by
    intro id
    rw [hbusy.lookup_solutions]
    cases e.controllers.lookup id with
    | none => rfl
    | some c => exact hreport c _
  refine ⟨hentries, fun hexact k d r hd hr => ?_, fun d hd id => ?_, fun hexact r hr => ?_⟩
  · rw [hentries, List.getElem?_map, hd, Option.map_some, Option.some.injEq] at hr
    obtain ⟨hend, hmeasured⟩ := hended d (List.mem_of_getElem? hd)
    exact hr ▸ isGreatest_residuals hexact hend hids hmeasured
  · rw [hlatest d hd]
    exact hsame id
  · rw [hentries, List.getLast?_map] at hr
    obtain ⟨d, hd, rfl⟩ := Option.map_eq_some_iff.mp hr
    obtain ⟨hend, hmeasured⟩ := hended d (List.mem_of_getLast? hd)
    have hgreatest := isGreatest_residuals hexact hend hids hmeasured
    rw [hlatest d hd] at hgreatest ⊢
    simpa only [← Option.bind_eq_some_iff, hsame] using hgreatest

/-- The books of a solve from `e₀` on the horizon from `t0` that has ended in `e` agree with what it
says. -/
structure Accounted [Transport σ α] (allowed : LocalSolver α → Prop) (t0 : α) (e₀ : Ensemble σ α)
    (s : Summary α) (e : Ensemble σ α) : Prop where
  start : s.t0 = t0
  network : e.network = e₀.network
  controllers : Table.ids e.controllers = e₀.network.ids
  solutions : Table.ids e.solutions = e₀.network.ids
  bounded : s.iterations ≤ e₀.options.maxIterations
  exhausted : s.converged = false → s.iterations = e₀.options.maxIterations
  counted : ∀ id c, e.controllers.lookup id = some c →
    c.id = id ∧ c.iteration = s.iterations ∧ c.status ≠ .failed
  reported : ∀ id r, e.solutions.lookup id = some r →
    r.agent = id ∧ r.iterations = s.iterations ∧ r.outcome ≠ .failed
  converged : s.converged = true ↔ ∀ id r, e.solutions.lookup id = some r → r.outcome = .converged
  recorded : e₀.network.ids ≠ [] → ∃ ends last, Rounds allowed t0 e₀ s.converged ends last ∧
    e = last.stored ∧ ends.length = s.iterations ∧ (∀ d ∈ ends, Ended e₀.network d) ∧
    s.convergence.iterations = s.iterations ∧
    Recorded (·.primal) (·.primalResidual) ends e.solutions s.convergence.primal ∧
    Recorded (·.dual) (·.dualResidual) ends e.solutions s.convergence.dual

section Solve

variable [Transport σ α] {allowed : LocalSolver α → Prop} {t0 : α} {e₀ e : Ensemble σ α} {b : Bool} {ends : List (Ensemble σ α)}

theorem Kept.accounted (h : Kept e₀ b ends e) (hrounds : Rounds allowed t0 e₀ b ends e)
    (hids : e₀.network.ids ≠ []) (hend : b = true ∨ ends.length = e₀.options.maxIterations) :
    Accounted allowed t0 e₀ ⟨t0, ends.length, b, e.history.summary⟩ e.stored where
  start := rfl
  network := h.network
  controllers := h.ids
  solutions := h.ids_solutions
  bounded := h.bounded
  exhausted hb := hend.resolve_left fun htrue => by simp [htrue] at hb
  counted id c hc := ⟨h.keyed id c hc, (h.counts id c hc).iteration, (h.counts id c hc).unfailed⟩
  reported id r hr := by
    obtain ⟨c, hc, rfl⟩ := h.exists_controller hr
    exact ⟨h.keyed id c hc, (h.counts id c hc).iteration, (h.counts id c hc).outcome.1⟩
  converged := by
    dsimp only
    rw [h.answer, List.all_eq_true]
    constructor
    · intro hall id r hr
      obtain ⟨c, hc, rfl⟩ := h.exists_controller hr
      exact (h.counts id c hc).outcome.2.mpr
        (hall c (List.mem_map_of_mem (f := (·.2)) (Table.mem_of_lookup hc)))
    · intro hall c hc
      obtain ⟨⟨id, _⟩, hmem, rfl⟩ := List.mem_map.mp hc
      have hlookup := Table.lookup_of_mem h.sorted hmem
      have hsolution := h.lookup_solutions id
      rw [hlookup, Option.map_some] at hsolution
      exact (h.counts id _ hlookup).outcome.2.mp (hall id _ hsolution)
  recorded _ := by
    have hlength : e.history.primal.length = ends.length := by rw [h.primal, List.length_map]
    refine ⟨ends, e, hrounds, rfl, rfl, h.ended, hlength, ?_, ?_⟩
    · exact recorded_stored hids (fun d hd => ⟨h.ended d hd, fun id c hc =>
        ((h.ended d hd).measured id c hc).1⟩) h.latest h.toBusy (fun _ _ => rfl) h.primal
    · exact recorded_stored hids (fun d hd => ⟨h.ended d hd, fun id c hc =>
        ((h.ended d hd).measured id c hc).2⟩) h.latest h.toBusy (fun _ _ => rfl) h.dual

/-- Without agents there is nothing to account for. -/
theorem Solving.accounted {convergence : Convergence α} (h : Solving e₀.network e₀.options e)
    (hempty : e.controllers = []) : Accounted allowed t0 e₀ ⟨t0, 0, true, convergence⟩ e.stored := by
  have hids : e₀.network.ids = [] := by
    rw [← h.ids, hempty]
    rfl
  have hnone : ∀ id r, e.stored.solutions.lookup id ≠ some r := by
    intro id r hr
    obtain ⟨c, hc, -⟩ := h.exists_controller hr
    simp [hempty] at hc
  have hcontrollers : ∀ id c, e.stored.controllers.lookup id ≠ some c := by
    intro id c
    simp [stored, hempty]
  exact ⟨rfl, h.network, h.ids, h.ids_solutions, Nat.zero_le _, fun h => (nomatch h),
    fun id c hc => (hcontrollers id c hc).elim, fun id r hr => (hnone id r hr).elim,
    ⟨fun _ id r hr => (hnone id r hr).elim, fun _ => rfl⟩, fun hne => (hne hids).elim⟩

/-- Whatever has become of earlier solves, the books of one that returns agree with what it says. So
they do when the solvers answer differently from one iteration to the next. -/
theorem solve_accounted (h₀ : e₀.Handled) (t0 : α) :
    (∀ s e', Returns (solve t0) e₀ s e' → Accounted (fun _ => False) t0 e₀ s e') ∧
      ∀ allowed b ends e, Rounds allowed t0 e₀ b ends e → e₀.network.ids ≠ [] →
        b = true ∨ ends.length = e₀.options.maxIterations →
        Accounted allowed t0 e₀ ⟨t0, ends.length, b, e.history.summary⟩ e.stored := by
  refine ⟨fun s e' h => ?_, fun allowed b ends e hrounds hids hend =>
    (hrounds.kept h₀ hids).accounted hrounds hids hend⟩
  obtain ⟨e₁, e₂, e₃, hprepare, hsetup, hloop, hs, rfl⟩ := returns_solve_parts h
  have hsolving := h₀.solving_setup hprepare hsetup
  rcases hloop with ⟨hempty, rfl, hiterations, hconverged⟩ | ⟨hne, hloop⟩
  · rw [hs, hiterations, hconverged]
    exact hsolving.accounted hempty
  · have hids : e₀.network.ids ≠ [] := fun hnil =>
      hne (List.map_eq_nil_iff.mp (hsolving.ids.trans hnil))
    have hstart : Rounds (fun _ => False) t0 e₀ false [] e₂ := .start hprepare hsetup
    obtain ⟨ends, hrounds, hlength, hexhausted⟩ :=
      hstart.iterateUpTo (by simp [hsolving.options]) hloop
    have hend : s.converged = true ∨ ends.length = e₀.options.maxIterations := by
      cases hconverged : s.converged with
      | true => exact .inl rfl
      | false => exact .inr (hlength.trans (hexhausted hconverged))
    have haccounted := (hrounds.kept h₀ hids).accounted hrounds hids hend
    rw [hlength] at haccounted
    rw [hs]
    exact haccounted

end Solve

/-- Refuses to solve from above zero. Elsewhere it asks for control. -/
def wary : LocalSolver Rat := fun problem guess o =>
  if guess.x0.any (0 < ·) then refuse problem guess o else insist 1 problem guess o

/-- Two agents that a solve has given up on, back at zero. -/
def recovered : Ensemble (Direct Rat) Rat :=
  applyAll [.setInitial 0 [0], .setInitial 1 [0]] (exec (solve 0) (applyAll
    [.registerAgent 0 decaying.toModel [1] [0], .registerAgent 1 decaying.toModel [1] [0],
      .registerCoupling 0 1 following.toModel, .registerCoupling 1 0 following.toModel]
    (.new { (Options.default : Options Rat) with
      horizonSteps := 2, maxSolveFailures := 0, maxIterations := 2 } wary .empty))).2

theorem recovered_handled : recovered.Handled := by
  have hnew : (Ensemble.new { (Options.default : Options Rat) with
      horizonSteps := 2, maxSolveFailures := 0, maxIterations := 2 } wary .empty :
      Ensemble (Direct Rat) Rat).Operated := .new _ _ Direct.not_inTransit_empty
  exact (Operated.applyAll _ (.solve 0 (.applyAll _ hnew))).handled

/-- Every agent has got this solver. -/
def resolve {σ α : Type} (solver : LocalSolver α) (e : Ensemble σ α) : Ensemble σ α :=
  { e with controllers := e.controllers.map fun p => (p.1, { p.2 with solver }) }

theorem resolved_resolve {σ α : Type} (solver : LocalSolver α) (e : Ensemble σ α) :
    Resolved (· = solver) e (e.resolve solver) := by
  refine ⟨rfl, (Table.Rel.of_map (fun _ c => { c with solver }) e.controllers).imp ?_⟩
  intro _ c c' heq
  exact ⟨solver, .inr rfl, heq⟩

/-- The pair ahead of its first iteration. -/
def recoveredOpen : Ensemble (Direct Rat) Rat :=
  (exec (exchange .setup 0) { (exec (prepare 0) recovered).2 with history := .empty }).2

/-- The pair behind its first iteration. -/
def recoveredOnce : Ensemble (Direct Rat) Rat := (exec (iterate 1) recoveredOpen).2

theorem rounds_recovered : ∃ b ends e, Rounds (· = insist 0) 0 recovered b ends e ∧ ends.length = 2 := by
  obtain ⟨_, hprepare⟩ := returns_of_isOk (x := prepare 0) (e := recovered) (by decide +kernel)
  obtain ⟨_, hsetup⟩ := returns_of_isOk (x := exchange .setup 0)
    (e := { (exec (prepare 0) recovered).2 with history := .empty }) (by decide +kernel)
  obtain ⟨first, hfirst, hgoes⟩ := returns_of_any (x := iterate 1) (e := recoveredOpen)
    (p := fun converged => !converged) (by decide +kernel)
  obtain rfl : first = false := by simpa using hgoes
  obtain ⟨b, hsecond⟩ := returns_of_isOk (x := iterate 2) (e := recoveredOnce.resolve (insist 0))
    (by decide +kernel)
  have hlimit : recovered.options.maxIterations = 2 := by decide +kernel
  have hstart : Rounds (· = insist 0) 0 recovered false [] recoveredOpen := .start hprepare hsetup
  have hnext := hstart.iterate (by simp [hlimit]) (resolved_refl _) hfirst
  exact ⟨b, _, _, hnext.iterate (by simp [hlimit]) (resolved_resolve _ _) hsecond, rfl⟩

/-- Neither the failure that it was given up for nor its residuals are left over. -/
theorem recovered_accounted : recovered.Handled ∧
    (recovered.controllers.lookup 0).map (·.status) = some .failed ∧
    (recovered.solutions.lookup 0).map (·.outcome) = some .failed ∧
    (∃ s e', Returns (solve 0) recovered s e' ∧ s.converged = false ∧
      Accounted (fun _ => False) 0 recovered s e' ∧ s.iterations = 2 ∧
      ∀ r ∈ s.convergence.primal.getLast?,
        IsGreatest {x | ∃ id p, e'.solutions.lookup id = some p ∧ p.primalResidual = some x} r) ∧
    ∃ b ends e, Rounds (· = insist 0) 0 recovered b ends e ∧
      Accounted (· = insist 0) 0 recovered ⟨0, ends.length, b, e.history.summary⟩ e.stored := by
  obtain ⟨hsolve, hrounds⟩ := solve_accounted recovered_handled 0
  have hids : recovered.network.ids = [0, 1] := by decide +kernel
  have hne : recovered.network.ids ≠ [] := by simp [hids]
  have hlimit : recovered.options.maxIterations = 2 := by decide +kernel
  obtain ⟨s, h, hs⟩ := returns_of_any (x := solve 0) (e := recovered) (p := fun s => !s.converged)
    (by decide +kernel)
  have hconverged : s.converged = false := by simpa using hs
  have haccounted := hsolve s _ h
  obtain ⟨ends, last, -, -, -, -, -, hprimal, -⟩ := haccounted.recorded hne
  obtain ⟨b, ends', e, hended, hlength⟩ := rounds_recovered
  exact ⟨recovered_handled, by decide +kernel, by decide +kernel,
    ⟨s, _, h, hconverged, haccounted, (haccounted.exhausted hconverged).trans hlimit,
      hprimal.agrees exact_rat⟩,
    b, ends', e, hended, hrounds _ b ends' e hended hne (.inr (hlength.trans hlimit.symm))⟩

end ConsensusControl.Ensemble
