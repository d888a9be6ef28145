import ConsensusControl.Proofs.Solver.Descent

namespace ConsensusControl

variable {α : Type} [Scalar α]

/-- The problem answers at every point of its dimensions. -/
structure Problem.Total (P : Problem α) : Prop where
  dynamics : ∀ z : Point α, z.x.length = P.dims.nx → z.u.length = P.dims.nu →
    (P.dynamics z).length = P.dims.nx
  stageCostDx : ∀ z : Point α, z.x.length = P.dims.nx → z.u.length = P.dims.nu →
    ∃ lx, P.stageCostDx z = .ok lx
  stageCostDu : ∀ z : Point α, z.x.length = P.dims.nx → z.u.length = P.dims.nu →
    ∃ lu, P.stageCostDu z = .ok lu
  terminalCostDx : ∀ (t : α) (x : Vec α), x.length = P.dims.nx → ∃ vx, P.terminalCostDx t x = .ok vx

theorem Problem.ExactGradients.total {P : Problem Rat} (h : P.ExactGradients) : P.Total where
  dynamics z hx hu := h.dynamics.length_value z ⟨hx, hu⟩
  stageCostDx z hx hu := by
    obtain ⟨lx, -, hlx, -⟩ := h.stage z ⟨hx, hu⟩
    exact ⟨lx, hlx⟩
  stageCostDu z hx hu := by
    obtain ⟨-, lu, -, hlu, -⟩ := h.stage z ⟨hx, hu⟩
    exact ⟨lu, hlu⟩
  terminalCostDx t x hx := by
    obtain ⟨vx, hvx, -⟩ := h.terminal t x hx
    exact ⟨vx, hvx⟩

namespace Shooting

variable {s : Shooting α} {x0 : Vec α}

theorem sized_simulateFrom (hP : s.problem.Total) {k : Nat} {x : Vec α} {l : List (α × Vec α)}
    {xs : List (Vec α)} (hx : x.length = s.problem.dims.nx)
    (hl : ∀ p ∈ l, p.2.length = s.problem.dims.nu) (h : s.simulateFrom k x l = .ok xs) :
    ∀ x ∈ xs, x.length = s.problem.dims.nx := by
  induction l generalizing k x xs with
  | nil =>
    obtain rfl := Except.ok.inj h
    simp
  | cons p l ih =>
    obtain ⟨hu, hl⟩ := List.forall_mem_cons.mp hl
    cases l with
    | nil =>
      obtain rfl := Except.ok.inj h
      simpa using hx
    | cons q l =>
      unfold simulateFrom at h
      dsimp only at h
      split at h
      · obtain ⟨rest, hrest, h⟩ := bind_eq_ok.mp h
        obtain rfl := pure_eq_ok.mp h
        refine List.forall_mem_cons.mpr ⟨hx, ih ?_ hl hrest⟩
        rw [List.length_zipWith, hP.dynamics ⟨p.1, x, p.2⟩ hx hu, hx, Nat.min_self]
      · cases h

theorem adjoint_returns (hP : s.problem.Total) {ps : List (Point α)}
    (hps : ∀ p ∈ ps, p.x.length = s.problem.dims.nx ∧ p.u.length = s.problem.dims.nu) :
    ∃ answer, s.adjoint ps = .ok answer := by
  have hstage : ∀ p ∈ ps, ∃ g, s.stageGradient p = .ok g := by
    intro p hp
    obtain ⟨hx, hu⟩ := hps p hp
    obtain ⟨lx, hlx⟩ := hP.stageCostDx p hx hu
    obtain ⟨lu, hlu⟩ := hP.stageCostDu p hx hu
    exact ⟨_, bind_eq_ok.mpr ⟨lx, hlx, bind_eq_ok.mpr ⟨lu, hlu, rfl⟩⟩⟩
  induction ps with
  | nil => exact ⟨_, rfl⟩
  | cons p ps ih =>
    obtain ⟨g, hg⟩ := hstage p List.mem_cons_self
    cases ps with
    | nil =>
      obtain ⟨last, hlast⟩ := hP.terminalCostDx p.t p.x (hps p List.mem_cons_self).1
      exact ⟨_, bind_eq_ok.mpr ⟨last, hlast, bind_eq_ok.mpr ⟨g, hg, rfl⟩⟩⟩
    | cons q ps =>
      obtain ⟨rest, hrest⟩ := ih (fun p hp => hps p (List.mem_cons_of_mem _ hp))
        fun p hp => hstage p (List.mem_cons_of_mem _ hp)
      exact ⟨_, bind_eq_ok.mpr ⟨rest, hrest, bind_eq_ok.mpr ⟨g, hg, rfl⟩⟩⟩

/-- Along a simulation there is a gradient, or an error for what it became. -/
theorem gradient_returns (hP : s.problem.Total) (hx0 : x0.length = s.problem.dims.nx)
    {u xs : List (Vec α)} (hu : s.Controls u) (hsimulate : s.simulate x0 u = .ok xs) :
    ∃ answer, s.gradient xs u = .ok answer := by
  have hxs := sized_simulateFrom hP hx0
    (fun p hp => hu.sized _ (List.of_mem_zip hp).2) hsimulate
  have hpoints : ∀ p ∈ s.points xs u,
      p.x.length = s.problem.dims.nx ∧ p.u.length = s.problem.dims.nu := by
    intro p hp
    obtain ⟨k, hk, rfl⟩ := List.getElem_of_mem hp
    simp only [points, List.getElem_zipWith, List.getElem_zip]
    exact ⟨hxs _ (List.getElem_mem _), hu.sized _ (List.getElem_mem _)⟩
  obtain ⟨⟨lambda, grads⟩, hadjoint⟩ := adjoint_returns hP hpoints
  unfold gradient
  rw [hadjoint]
  by_cases hfinite : grads.all finite = true
  · exact ⟨_, bind_eq_ok.mpr ⟨_, rfl, if_pos hfinite⟩⟩
  · exact ⟨_, bind_eq_ok.mpr ⟨_, rfl, if_neg hfinite⟩⟩

end Shooting

namespace Gradient

variable {s : Shooting α} {x0 : Vec α} {o : Options α} {problem : Problem α} {guess : Guess α}

theorem firstIterate_returns (hP : problem.Total) : ∃ answer, firstIterate problem guess o = .ok answer := by
  unfold firstIterate
  split
  · exact ⟨_, rfl⟩
  next hguess =>
  obtain ⟨hx0, hlength⟩ := checkGuess_eq_ok.mp hguess
  unfold start
  split
  · exact ⟨_, rfl⟩
  next candidate hevaluated =>
  obtain ⟨hu, hsimulate, -⟩ := evaluate_eq_ok.mp hevaluated
  have hcontrols : (shooting problem guess.t0 o).Controls candidate.u := hu ▸ controls_samples hlength
  obtain ⟨answer, hgradient⟩ := Shooting.gradient_returns hP hx0 hcontrols (hu ▸ hsimulate)
  exact ⟨_, bind_eq_ok.mpr ⟨answer, hgradient, rfl⟩⟩

/-- With a step to choose from, a descent ends. -/
theorem descend_returns (hP : s.problem.Total) (hx0 : x0.length = s.problem.dims.nx)
    (hle : o.lineSearchMin ≤ maxStep) (rounds : Nat) {it : Iterate α} (hit : it.Consistent s x0) :
    ∃ answer, descend s x0 o rounds it = .ok answer := by
  induction rounds generalizing it with
  | zero => exact ⟨_, rfl⟩
  | succ rounds ih =>
    unfold descend
    split
    · exact ⟨_, rfl⟩
    have hclamp : ∃ step, Checked.clamp (proposedStep it) o.lineSearchMin maxStep = .ok step :=
      ⟨_, bind_eq_ok.mpr ⟨(), Checked.require_eq_ok.mpr hle, rfl⟩⟩
    obtain ⟨step, hstep⟩ := hclamp
    rw [hstep]
    dsimp only [bind, Except.bind]
    split
    · exact ⟨_, rfl⟩
    · next trial taken hsearch =>
      obtain ⟨hevaluated, -⟩ := lineSearch_eq_some hsearch
      obtain ⟨hu, hsimulate, hcost⟩ := evaluate_eq_ok.mp hevaluated
      have hcontrols : s.Controls trial.u := hu ▸ hit.controls.moved hit.grads taken
      obtain ⟨answer, hgradient⟩ := Shooting.gradient_returns hP hx0 hcontrols (hu ▸ hsimulate)
      rw [hgradient]
      cases answer with
      | error e => exact ⟨_, rfl⟩
      | ok grad => exact ih ⟨hcontrols, hu ▸ hevaluated, hgradient⟩

/-- Without one, it does not get past an iterate that is not stationary. -/
theorem descend_emptyInterval (hgt : ¬ o.lineSearchMin ≤ maxStep) (rounds : Nat) {it : Iterate α}
    (hmoving : isStationary it o.gradientTolerance = false) :
    descend s x0 o (rounds + 1) it = .error .emptyInterval := by
  unfold descend
  rw [hmoving, if_neg Bool.false_ne_true, Checked.clamp, Checked.require, if_neg hgt]
  rfl

theorem solver_of_descend (strict : Bool) {first : Iterate α} {answer : Except SolveError (Iterate α)}
    (hfirst : firstIterate problem guess o = .ok (.ok first))
    (hdescend : descend (shooting problem guess.t0 o) guess.x0 o o.maxGradientIterations first =
      .ok answer) :
    ∃ found, solver strict problem guess o = .ok found := by
  unfold solver
  rw [hfirst]
  dsimp only [bind, Except.bind]
  rw [hdescend]
  cases answer with
  | error e => exact ⟨_, rfl⟩
  | ok last =>
    dsimp only
    split
    · exact ⟨_, rfl⟩
    · exact ⟨_, rfl⟩

/-- With options that have been checked, a solve of a total problem has an answer, unless the shortest
step is longer than the longest one and the guess is not stationary. -/
theorem solver_fault_iff (hP : problem.Total) (ho : o.validate = .ok ()) (strict : Bool) (fault : Fault) :
    solver strict problem guess o = .error fault ↔
      fault = .emptyInterval ∧ ¬ o.lineSearchMin ≤ maxStep ∧
        ∃ first, firstIterate problem guess o = .ok (.ok first) ∧
          isStationary first o.gradientTolerance = false := by
  obtain ⟨rounds, hrounds⟩ :=
    Nat.exists_eq_succ_of_ne_zero (Options.validate_eq_ok.mp ho).maxGradientIterations
  have hstuck : ∀ first, firstIterate problem guess o = .ok (.ok first) →
      isStationary first o.gradientTolerance = false → ¬ o.lineSearchMin ≤ maxStep →
        solver strict problem guess o = .error .emptyInterval := by
    intro first hfirst hmoving hgt
    unfold solver
    rw [hfirst, hrounds]
    dsimp only [bind, Except.bind]
    rw [descend_emptyInterval hgt rounds hmoving]
  constructor
  · intro hfault
    have hnone : ∀ answer, solver strict problem guess o ≠ .ok answer := by
      intro answer h
      rw [hfault] at h
      cases h
    obtain ⟨answer, hfirst⟩ : ∃ answer, firstIterate problem guess o = .ok answer :=
      firstIterate_returns hP
    cases answer with
    | error e =>
      refine absurd ?_ (hnone (.error e))
      unfold solver
      rw [hfirst]
      rfl
    | ok first =>
      obtain ⟨hx0, -, -, -, hconsistent⟩ := firstIterate_eq_ok hfirst
      have hmoving : isStationary first o.gradientTolerance = false := by
        refine Bool.eq_false_iff.mpr fun hstationary => ?_
        have hdescend : descend (shooting problem guess.t0 o) guess.x0 o o.maxGradientIterations first =
            .ok (.ok first) := by
          rw [hrounds, descend, if_pos hstationary]
        obtain ⟨found, hfound⟩ := solver_of_descend strict hfirst hdescend
        exact hnone found hfound
      have hgt : ¬ o.lineSearchMin ≤ maxStep := by
        intro hle
        obtain ⟨answer, hdescend⟩ := descend_returns (s := shooting problem guess.t0 o) hP hx0 hle
          o.maxGradientIterations hconsistent
        obtain ⟨found, hfound⟩ := solver_of_descend strict hfirst hdescend
        exact hnone found hfound
      rw [hstuck first hfirst hmoving hgt] at hfault
      exact ⟨(Except.error.inj hfault).symm, hgt, first, hfirst, hmoving⟩
  · rintro ⟨rfl, hgt, first, hfirst, hmoving⟩
    exact hstuck first hfirst hmoving hgt

theorem track_solver_returns :
    let o : Options Rat :=
      { Options.default with horizonSteps := 3, lineSearchInit := 1000000, lineSearchMin := 1000000 }
    let guess : Guess Rat := ⟨0, [1, -1], [1, 2, -1]⟩
    (Shooting.track.problem.Total ∧ o.validate = .ok ()) ∧
      ∃ answer, solver true Shooting.track.problem guess o = .ok answer := by
  intro o guess
  have hP : Shooting.track.problem.Total := (LinearAgent.held_exactGradients _ _ rfl rfl).total
  have ho : o.validate = .ok () := by decide +kernel
  refine ⟨⟨hP, ho⟩, ?_⟩
  cases hanswer : solver true Shooting.track.problem guess o with
  | ok answer => exact ⟨answer, rfl⟩
  | error fault =>
    obtain ⟨-, hgt, -⟩ := (solver_fault_iff hP ho true fault).mp hanswer
    exact absurd (by decide +kernel) hgt

/-- Nothing keeps the shortest step below the longest one. -/
theorem track_solver_emptyInterval :
    let o : Options Rat :=
      { Options.default with horizonSteps := 3, lineSearchInit := 2000000, lineSearchMin := 2000000 }
    let guess : Guess Rat := ⟨0, [1, -1], [1, 2, -1]⟩
    Shooting.track.problem.Total ∧ o.validate = .ok () ∧
      solver true Shooting.track.problem guess o = .error .emptyInterval := by
  intro o guess
  have hfault : (match solver true Shooting.track.problem guess o with
      | .error fault => some fault
      | .ok _ => none) = some .emptyInterval := by
    decide +kernel
  refine ⟨(LinearAgent.held_exactGradients _ _ rfl rfl).total, by decide +kernel, ?_⟩
  cases hanswer : solver true Shooting.track.problem guess o with
  | ok answer =>
    rw [hanswer] at hfault
    cases hfault
  | error fault =>
    rw [hanswer] at hfault
    exact congrArg _ (Option.some.inj hfault)

end Gradient

end ConsensusControl
