import Mathlib.Tactic.Linarith
import ConsensusControl.Proofs.Options
import ConsensusControl.Proofs.Trajectory
import ConsensusControl.Proofs.Consensus.Residuals
import ConsensusControl.Proofs.Solver.ShootingGradient

namespace ConsensusControl

namespace Vec

theorem dot_self_nonneg (a : Vec Rat) : 0 ≤ dot a a := by
  induction a with
  | nil => exact le_refl 0
  | cons x a ih =>
    rw [dot_cons_cons]
    exact add_nonneg (mul_self_nonneg x) ih

theorem dot_self_pos {a : Vec Rat} {x : Rat} (hx : x ∈ a) (hne : x ≠ 0) : 0 < dot a a := by
  induction a with
  | nil => cases hx
  | cons y a ih =>
    rw [dot_cons_cons]
    cases hx with
    | head => exact add_pos_of_pos_of_nonneg (mul_self_pos.mpr hne) (dot_self_nonneg a)
    | tail _ hx => exact add_pos_of_nonneg_of_pos (mul_self_nonneg y) (ih hx)

/-- A vector beyond a bound is not zero. -/
theorem dot_self_pos_of_normInf {a : Vec Rat} {bound : Rat} (hbound : 0 ≤ bound)
    (h : ¬ normInf a ≤ bound) : 0 < dot a a := by
  rw [normInf_le_iff numbers_rat, not_and] at h
  obtain ⟨x, hx, hlarge⟩ : ∃ x ∈ a, ¬ Scalar.abs x ≤ bound := by
    by_contra hall
    push Not at hall
    exact h hbound fun x hx _ => hall x hx
  refine dot_self_pos hx fun hzero => hlarge ?_
  rw [hzero, scalar_abs, abs_zero]
  exact hbound

end Vec

variable {α : Type} [Scalar α]

namespace Shooting

variable {s : Shooting α}

/-- One control for each time of the grid. -/
structure Controls (s : Shooting α) (u : List (Vec α)) : Prop where
  length : u.length = s.t.length
  sized : ∀ v ∈ u, v.length = s.problem.dims.nu

theorem simulateFrom_cons {k : Nat} {x : Vec α} {p : α × Vec α} {l : List (α × Vec α)}
    {xs : List (Vec α)} (h : s.simulateFrom k x (p :: l) = .ok xs) : ∃ rest, xs = x :: rest := by
  cases l with
  | nil => exact ⟨[], (Except.ok.inj h).symm⟩
  | cons q l =>
    unfold simulateFrom at h
    dsimp only at h
    split at h
    · obtain ⟨rest, -, h⟩ := bind_eq_ok.mp h
      exact ⟨rest, (pure_eq_ok.mp h).symm⟩
    · cases h

theorem Controls.simulate_cons {x0 : Vec α} {u xs : List (Vec α)} (ht : s.t ≠ []) (hu : s.Controls u)
    (h : s.simulate x0 u = .ok xs) : ∃ rest, xs = x0 :: rest := by
  obtain ⟨p, l, hl⟩ : ∃ p l, s.t.zip u = p :: l := by
    apply List.exists_cons_of_ne_nil
    apply List.ne_nil_of_length_pos
    rw [List.length_zip, hu.length, Nat.min_self]
    exact List.length_pos_iff.mpr ht
  unfold simulate at h
  rw [hl] at h
  exact simulateFrom_cons h

theorem length_simulateFrom {k : Nat} {x : Vec α} {l : List (α × Vec α)} {xs : List (Vec α)}
    (h : s.simulateFrom k x l = .ok xs) : xs.length = l.length := by
  induction l generalizing k x xs with
  | nil =>
    obtain rfl := Except.ok.inj h
    rfl
  | cons a l ih =>
    cases l with
    | nil =>
      obtain rfl := Except.ok.inj h
      rfl
    | cons b l =>
      unfold simulateFrom at h
      dsimp only at h
      split at h
      · obtain ⟨rest, hrest, h⟩ := bind_eq_ok.mp h
        obtain rfl := pure_eq_ok.mp h
        exact congrArg Nat.succ (ih hrest)
      · cases h

theorem Controls.length_simulate {x0 : Vec α} {u xs : List (Vec α)} (hu : s.Controls u)
    (h : s.simulate x0 u = .ok xs) : xs.length = s.t.length := by
  rw [length_simulateFrom h, List.length_zip, hu.length, Nat.min_self]

theorem adjoint_sized {ps : List (Point α)} {answer : Vec α × List (Vec α)}
    (h : s.adjoint ps = .ok answer) :
    answer.2.length = ps.length ∧ ∀ g ∈ answer.2, g.length = s.problem.dims.nu := by
  induction ps generalizing answer with
  | nil =>
    obtain rfl := Except.ok.inj h
    simp
  | cons p ps ih =>
    cases ps with
    | nil =>
      obtain ⟨_, -, h⟩ := bind_eq_ok.mp h
      obtain ⟨_, -, h⟩ := bind_eq_ok.mp h
      obtain rfl := pure_eq_ok.mp h
      simp
    | cons q ps =>
      obtain ⟨rest, hrest, h⟩ := bind_eq_ok.mp h
      obtain ⟨_, -, h⟩ := bind_eq_ok.mp h
      obtain rfl := pure_eq_ok.mp h
      obtain ⟨hlength, hsized⟩ := ih hrest
      exact ⟨congrArg Nat.succ hlength, List.forall_mem_cons.mpr ⟨by simp, hsized⟩⟩

/-- There is a gradient for each control. -/
theorem Controls.gradient {x0 : Vec α} {u xs grads : List (Vec α)} (hu : s.Controls u)
    (hx : s.simulate x0 u = .ok xs) (h : s.gradient xs u = .ok (.ok grads)) : s.Controls grads := by
  obtain ⟨answer, hadjoint, h⟩ := bind_eq_ok.mp h
  obtain ⟨hlength, hsized⟩ := adjoint_sized hadjoint
  dsimp only at h
  split at h
  · obtain rfl := Except.ok.inj (pure_eq_ok.mp h)
    refine ⟨hlength.trans ?_, hsized⟩
    simp [points, hu.length, hu.length_simulate hx]
  · cases pure_eq_ok.mp h

theorem Controls.moved {u grads : List (Vec α)} (hu : s.Controls u) (hgrads : s.Controls grads)
    (step : α) : s.Controls (Gradient.moved u grads step) where
  length := by rw [Gradient.moved, List.length_zipWith, hu.length, hgrads.length, Nat.min_self]
  sized := by
    intro v hv
    obtain ⟨k, hk, rfl⟩ := List.getElem_of_mem hv
    have hk' : k < u.length ∧ k < grads.length := by simpa [Gradient.moved] using hk
    simp only [Gradient.moved, List.getElem_zipWith, List.length_zipWith]
    rw [hu.sized _ (List.getElem_mem hk'.1), hgrads.sized _ (List.getElem_mem hk'.2), Nat.min_self]

end Shooting

namespace Gradient

variable {s : Shooting α} {x0 : Vec α} {o : Options α}

theorem evaluate_eq_ok {u : List (Vec α)} {c : Candidate α} :
    evaluate s x0 u = .ok c ↔ c.u = u ∧ s.simulate x0 u = .ok c.x ∧ s.cost c.x u = .ok c.cost := by
  constructor
  · intro h
    obtain ⟨x, hx, h⟩ := bind_eq_ok.mp h
    obtain ⟨cost, hcost, h⟩ := bind_eq_ok.mp h
    obtain rfl := pure_eq_ok.mp h
    exact ⟨rfl, hx, hcost⟩
  · rintro ⟨rfl, hx, hcost⟩
    exact bind_eq_ok.mpr ⟨_, hx, bind_eq_ok.mpr ⟨_, hcost, rfl⟩⟩

/-- States, cost and gradient belong to the controls. -/
structure Iterate.Consistent (s : Shooting α) (x0 : Vec α) (it : Iterate α) : Prop where
  controls : s.Controls it.u
  evaluated : evaluate s x0 it.u = .ok it.toCandidate
  gradient : s.gradient it.x it.u = .ok (.ok it.grad)

theorem Iterate.Consistent.grads {it : Iterate α} (h : it.Consistent s x0) : s.Controls it.grad :=
  h.controls.gradient (evaluate_eq_ok.mp h.evaluated).2.1 h.gradient

/-- `next` is where a step of `it` leads that goes far and down enough. -/
structure Accepts (s : Shooting α) (x0 : Vec α) (o : Options α) (it next : Iterate α) : Prop where
  moving : isStationary it o.gradientTolerance = false
  evaluated : evaluate s x0 (moved it.u it.grad next.step) = .ok next.toCandidate
  long : o.lineSearchMin ≤ next.step
  decrease : next.cost ≤
    it.cost - sufficientDecrease * next.step * Vec.dot it.grad.flatten it.grad.flatten
  gradient : s.gradient next.x next.u = .ok (.ok next.grad)
  counted : next.iterations = it.iterations + 1

theorem lineSearch_eq_some {it : Iterate α} {slope lo : α} {budget : Nat} {step taken : α}
    {trial : Candidate α} (h : lineSearch s x0 it slope lo budget step = some (trial, taken)) :
    evaluate s x0 (moved it.u it.grad taken) = .ok trial ∧ lo ≤ taken ∧
      trial.cost ≤ it.cost - sufficientDecrease * taken * slope := by
  induction budget generalizing step with
  | zero => cases h
  | succ budget ih =>
    unfold lineSearch at h
    split at h
    · next hlong =>
      split at h
      · next c hc =>
        split at h
        · next hdecrease =>
          obtain ⟨rfl, rfl⟩ := Prod.mk.inj (Option.some.inj h)
          exact ⟨hc, hlong, hdecrease⟩
        · exact ih h
      · exact ih h
    · cases h

theorem Accepts.consistent {it next : Iterate α} (h : Accepts s x0 o it next)
    (hit : it.Consistent s x0) : next.Consistent s x0 := by
  obtain ⟨hu, -⟩ := evaluate_eq_ok.mp h.evaluated
  have hcontrols : s.Controls next.u := hu ▸ hit.controls.moved hit.grads next.step
  exact ⟨hcontrols, hu ▸ h.evaluated, h.gradient⟩

/-- A descent of at most so many steps. It ends when none is left, at a stationary point, or where no step
is accepted, which counts as one. -/
inductive Descends (s : Shooting α) (x0 : Vec α) (o : Options α) :
    Nat → Iterate α → Iterate α → Prop
  | spent (it : Iterate α) : Descends s x0 o 0 it it
  | rest {rounds : Nat} {it : Iterate α} (stationary : isStationary it o.gradientTolerance = true) :
    Descends s x0 o (rounds + 1) it it
  | stalled {rounds : Nat} {it : Iterate α} (moving : isStationary it o.gradientTolerance = false) :
    Descends s x0 o (rounds + 1) it { it with iterations := it.iterations + 1 }
  | step {rounds : Nat} {it next last : Iterate α} (accepts : Accepts s x0 o it next)
    (rest : Descends s x0 o rounds next last) : Descends s x0 o (rounds + 1) it last

theorem descend_eq_ok {rounds : Nat} {it last : Iterate α}
    (h : descend s x0 o rounds it = .ok (.ok last)) : Descends s x0 o rounds it last := by
  induction rounds generalizing it with
  | zero =>
    obtain rfl := Except.ok.inj (Except.ok.inj h)
    exact .spent it
  | succ rounds ih =>
    unfold descend at h
    split at h
    · next hstationary =>
      obtain rfl := Except.ok.inj (Except.ok.inj h)
      exact .rest hstationary
    next hmoving =>
    have hmoving := Bool.eq_false_iff.mpr hmoving
    obtain ⟨proposed, -, h⟩ := bind_eq_ok.mp h
    dsimp only at h
    split at h
    · obtain rfl := Except.ok.inj (pure_eq_ok.mp h)
      exact .stalled hmoving
    · next trial taken hsearch =>
      obtain ⟨hevaluated, hlong, hdecrease⟩ := lineSearch_eq_some hsearch
      obtain ⟨answer, hgradient, h⟩ := bind_eq_ok.mp h
      cases answer with
      | error e => cases pure_eq_ok.mp h
      | ok grad => exact .step ⟨hmoving, hevaluated, hlong, hdecrease, hgradient, rfl⟩ (ih h)

namespace Descends

variable {rounds : Nat} {it last : Iterate α}

theorem consistent (h : Descends s x0 o rounds it last) (hit : it.Consistent s x0) :
    last.Consistent s x0 := by
  induction h with
  | spent | rest => exact hit
  | stalled => exact ⟨hit.controls, hit.evaluated, hit.gradient⟩
  | step haccepts _ ih => exact ih (haccepts.consistent hit)

theorem iterations_le (h : Descends s x0 o rounds it last) :
    last.iterations ≤ it.iterations + rounds := by
  induction h with
  | spent | rest => omega
  | stalled =>
    dsimp only
    omega
  | step haccepts _ ih =>
    have hcounted := haccepts.counted
    omega

end Descends

variable {problem : Problem α} {guess : Guess α}

theorem checkLength_eq_ok {what : String} {actual expected : Nat} :
    checkLength what actual expected = .ok () ↔ actual = expected := by
  unfold checkLength
  split <;> simp_all

theorem checkLength_error {what : String} {actual expected : Nat} {e : SolveError}
    (h : checkLength what actual expected = .error e) : e = .dimensionMismatch what expected actual := by
  rcases ite_eq_iff.mp h with ⟨-, h⟩ | ⟨-, h⟩
  · cases h
  · exact (Except.error.inj h).symm

omit [Scalar α] in
theorem checkGuess_eq_ok :
    checkGuess problem guess o = .ok () ↔ guess.x0.length = problem.dims.nx ∧
      guess.u.length = Nat.max o.horizonSteps 2 * problem.dims.nu := by
  unfold checkGuess
  rw [bind_eq_ok]
  constructor
  · rintro ⟨_, hx, hu⟩
    exact ⟨checkLength_eq_ok.mp hx, checkLength_eq_ok.mp hu⟩
  · rintro ⟨hx, hu⟩
    exact ⟨(), checkLength_eq_ok.mpr hx, checkLength_eq_ok.mpr hu⟩

omit [Scalar α] in
theorem checkGuess_error {e : SolveError} (h : checkGuess problem guess o = .error e) :
    ∃ what expected actual, e = .dimensionMismatch what expected actual := by
  unfold checkGuess at h
  rcases bind_eq_error.mp h with hx | ⟨_, -, hu⟩
  · exact ⟨_, _, _, checkLength_error hx⟩
  · exact ⟨_, _, _, checkLength_error hu⟩

theorem grid_ne_nil (problem : Problem α) (t0 : α) (o : Options α) :
    (shooting problem t0 o).t ≠ [] := by
  have htwo : 2 ≤ Nat.max o.horizonSteps 2 := Nat.le_max_right _ _
  apply List.ne_nil_of_length_pos
  rw [shooting, Trajectory.length_uniformGrid]
  omega

theorem controls_samples (hu : guess.u.length = Nat.max o.horizonSteps 2 * problem.dims.nu) :
    (shooting problem guess.t0 o).Controls
      (Trajectory.samples (Nat.max o.horizonSteps 2) problem.dims.nu guess.u) where
  length := by simp [shooting, Trajectory.samples]
  sized := fun _ hv => Trajectory.length_of_mem_samples hu hv

theorem samples_controls {u : List (Vec α)} (hu : (shooting problem guess.t0 o).Controls u) :
    Trajectory.samples (Nat.max o.horizonSteps 2) problem.dims.nu u.flatten = u := by
  have hn : u.length = Nat.max o.horizonSteps 2 := by
    rw [hu.length, shooting, Trajectory.length_uniformGrid]
  rw [← hn]
  exact Trajectory.samples_flatten hu.sized

/-- The first iterate has the controls of the guess. -/
theorem firstIterate_eq_ok {first : Iterate α} (h : firstIterate problem guess o = .ok (.ok first)) :
    guess.x0.length = problem.dims.nx ∧
      guess.u.length = Nat.max o.horizonSteps 2 * problem.dims.nu ∧
      first.u = Trajectory.samples (Nat.max o.horizonSteps 2) problem.dims.nu guess.u ∧
      first.iterations = 0 ∧ first.Consistent (shooting problem guess.t0 o) guess.x0 := by
  unfold firstIterate at h
  split at h
  · cases Except.ok.inj h
  next hguess =>
  obtain ⟨hx0, hlength⟩ := checkGuess_eq_ok.mp hguess
  unfold start at h
  split at h
  · cases Except.ok.inj h
  next candidate hevaluated =>
  obtain ⟨answer, hgradient, h⟩ := bind_eq_ok.mp h
  cases answer with
  | error e => cases pure_eq_ok.mp h
  | ok grad =>
    obtain rfl := Except.ok.inj (pure_eq_ok.mp h)
    obtain ⟨hu, -⟩ := evaluate_eq_ok.mp hevaluated
    exact ⟨hx0, hlength, hu, rfl, hu ▸ controls_samples hlength, hu ▸ hevaluated, hgradient⟩

/-- A solution is where a descent from the guess ends, on the horizon grid. -/
theorem solver_descends {strict : Bool} {found : LocalSolution α}
    (h : solver strict problem guess o = .ok (.ok found)) :
    ∃ first last, firstIterate problem guess o = .ok (.ok first) ∧
      Descends (shooting problem guess.t0 o) guess.x0 o o.maxGradientIterations first last ∧
      found = solution (shooting problem guess.t0 o).t o last := by
  obtain ⟨answer, hfirst, h⟩ := bind_eq_ok.mp h
  cases answer with
  | error e => cases pure_eq_ok.mp h
  | ok first =>
    obtain ⟨answer, hdescend, h⟩ := bind_eq_ok.mp h
    cases answer with
    | error e => cases pure_eq_ok.mp h
    | ok last =>
      refine ⟨first, last, hfirst, descend_eq_ok hdescend, ?_⟩
      dsimp only at h
      split at h
      · cases pure_eq_ok.mp h
      · exact (Except.ok.inj (pure_eq_ok.mp h)).symm

/-- What the solver reports about numbers, as opposed to sizes and convergence. -/
def Numerical (e : SolveError) : Prop := ∃ what, e = .numericalFailure what

theorem numerical_simulateFrom {k : Nat} {x : Vec α} {l : List (α × Vec α)} {e : SolveError}
    (h : s.simulateFrom k x l = .error e) : Numerical e := by
  induction l generalizing k x with
  | nil => cases h
  | cons a l ih =>
    cases l with
    | nil => cases h
    | cons b l =>
      unfold Shooting.simulateFrom at h
      dsimp only at h
      split at h
      · rcases bind_eq_error.mp h with hrest | ⟨_, -, h⟩
        · exact ih hrest
        · cases h
      · exact ⟨_, (Except.error.inj h).symm⟩

theorem numerical_evaluate {u : List (Vec α)} {e : SolveError} (h : evaluate s x0 u = .error e) :
    Numerical e := by
  rcases bind_eq_error.mp h with hsimulate | ⟨x, -, h⟩
  · exact numerical_simulateFrom hsimulate
  rcases bind_eq_error.mp h with hcost | ⟨cost, -, h⟩
  · rcases ite_eq_iff.mp hcost with ⟨-, hcost⟩ | ⟨-, hcost⟩
    · cases hcost
    · exact ⟨_, (Except.error.inj hcost).symm⟩
  · cases h

theorem numerical_gradient {x u : List (Vec α)} {e : SolveError}
    (h : s.gradient x u = .ok (.error e)) : Numerical e := by
  obtain ⟨answer, -, h⟩ := bind_eq_ok.mp h
  dsimp only at h
  split at h
  · cases pure_eq_ok.mp h
  · exact ⟨_, (Except.error.inj (pure_eq_ok.mp h)).symm⟩

theorem numerical_descend {rounds : Nat} {it : Iterate α} {e : SolveError}
    (h : descend s x0 o rounds it = .ok (.error e)) : Numerical e := by
  induction rounds generalizing it with
  | zero => cases Except.ok.inj h
  | succ rounds ih =>
    unfold descend at h
    split at h
    · cases Except.ok.inj h
    obtain ⟨proposed, -, h⟩ := bind_eq_ok.mp h
    dsimp only at h
    split at h
    · cases pure_eq_ok.mp h
    · obtain ⟨answer, hgradient, h⟩ := bind_eq_ok.mp h
      cases answer with
      | error e' =>
        obtain rfl := Except.error.inj (pure_eq_ok.mp h)
        exact numerical_gradient hgradient
      | ok grad => exact ih h

theorem numerical_firstIterate {e : SolveError} (h : firstIterate problem guess o = .ok (.error e)) :
    checkGuess problem guess o = .error e ∨ Numerical e := by
  unfold firstIterate at h
  split at h
  · next hguess =>
    obtain rfl := Except.error.inj (Except.ok.inj h)
    exact .inl hguess
  unfold start at h
  split at h
  · next hevaluate =>
    obtain rfl := Except.error.inj (Except.ok.inj h)
    exact .inr (numerical_evaluate hevaluate)
  obtain ⟨answer, hgradient, h⟩ := bind_eq_ok.mp h
  cases answer with
  | error e' =>
    obtain rfl := Except.error.inj (pure_eq_ok.mp h)
    exact .inr (numerical_gradient hgradient)
  | ok grad => cases pure_eq_ok.mp h

/-- Unless it has to converge, the solver reports the size of a guess or a numerical failure. -/
theorem solver_error {e : SolveError} (h : solver false problem guess o = .ok (.error e)) :
    checkGuess problem guess o = .error e ∨ Numerical e := by
  obtain ⟨answer, hfirst, h⟩ := bind_eq_ok.mp h
  cases answer with
  | error e' =>
    obtain rfl := Except.error.inj (pure_eq_ok.mp h)
    exact numerical_firstIterate hfirst
  | ok first =>
    obtain ⟨answer, hdescend, h⟩ := bind_eq_ok.mp h
    cases answer with
    | error e' =>
      obtain rfl := Except.error.inj (pure_eq_ok.mp h)
      exact .inr (numerical_descend hdescend)
    | ok last => cases pure_eq_ok.mp h

def refuse (found : LocalSolution α) : Except SolveError (LocalSolution α) :=
  if found.converged then .ok found else .error (.notConverged found.iterations)

/-- A solver that is strict refuses what the other one finds away from a stationary point. -/
theorem solver_strict :
    solver true problem guess o = (solver false problem guess o).map (·.bind refuse) := by
  unfold solver
  cases firstIterate problem guess o with
  | error fault => rfl
  | ok answer =>
    cases answer with
    | error e => rfl
    | ok first =>
      simp only [bind, Except.bind]
      cases descend (shooting problem guess.t0 o) guess.x0 o o.maxGradientIterations first with
      | error fault => rfl
      | ok answer =>
        cases answer with
        | error e => rfl
        | ok last =>
          cases hconverged : (solution (shooting problem guess.t0 o).t o last).converged <;>
            simp [refuse, hconverged, pure, Except.pure, Except.map]

/-- A guess of the right sizes is never refused for them. -/
theorem solver_ne_dimensionMismatch (strict : Bool) (hguess : checkGuess problem guess o = .ok ())
    {what : String} {expected actual : Nat} :
    solver strict problem guess o ≠ .ok (.error (.dimensionMismatch what expected actual)) := by
  have hfalse : ∀ e, solver false problem guess o = .ok (.error e) → Numerical e := by
    intro e h
    rcases solver_error h with hsize | hnumerical
    · rw [hguess] at hsize
      cases hsize
    · exact hnumerical
  intro h
  cases strict with
  | false =>
    obtain ⟨_, hwhat⟩ := hfalse _ h
    cases hwhat
  | true =>
    rw [solver_strict, map_eq_ok] at h
    obtain ⟨answer, hanswer, h⟩ := h
    rcases bind_eq_error.mp h with rfl | ⟨found, rfl, hrefuse⟩
    · obtain ⟨_, hwhat⟩ := hfalse _ hanswer
      cases hwhat
    · unfold refuse at hrefuse
      split at hrefuse <;> cases hrefuse

theorem solver_notConverged_iff {n : Nat} :
    solver true problem guess o = .ok (.error (.notConverged n)) ↔
      ∃ found, solver false problem guess o = .ok (.ok found) ∧ found.converged = false ∧
        found.iterations = n := by
  rw [solver_strict, map_eq_ok]
  constructor
  · rintro ⟨answer, hanswer, h⟩
    rcases bind_eq_error.mp h with rfl | ⟨found, rfl, hrefuse⟩
    · rcases solver_error hanswer with hguess | ⟨what, hwhat⟩
      · obtain ⟨_, _, _, hsize⟩ := checkGuess_error hguess
        cases hsize
      · cases hwhat
    · refine ⟨found, hanswer, ?_⟩
      unfold refuse at hrefuse
      split at hrefuse
      · cases hrefuse
      · next hconverged =>
        exact ⟨Bool.eq_false_iff.mpr hconverged,
          SolveError.notConverged.inj (Except.error.inj hrefuse)⟩
  · rintro ⟨found, hfound, hconverged, rfl⟩
    refine ⟨_, hfound, ?_⟩
    simp [Except.bind, refuse, hconverged]

section Exact

variable {s : Shooting Rat} {x0 : Vec Rat} {o : Options Rat} {it next last : Iterate Rat}

theorem Accepts.cost_lt (ho : o.Valid) (h : Accepts s x0 o it next) : next.cost < it.cost := by
  have hslope : 0 < Vec.dot it.grad.flatten it.grad.flatten :=
    Vec.dot_self_pos_of_normInf ho.gradientTolerance.1.le (of_decide_eq_false h.moving)
  have hstep : 0 < next.step := lt_of_lt_of_le ho.lineSearchMin.1 h.long
  have hshare : 0 < (sufficientDecrease : Rat) := by decide +kernel
  have hdrop := mul_pos (mul_pos hshare hstep) hslope
  have hdecrease := h.decrease
  linarith

/-- A descent that moves goes down. -/
theorem Descends.cost (ho : o.Valid) {rounds : Nat} (h : Descends s x0 o rounds it last) :
    last.cost < it.cost ∨ (last.u = it.u ∧ last.cost = it.cost) := by
  induction h with
  | spent | rest | stalled => exact .inr ⟨rfl, rfl⟩
  | step haccepts _ ih =>
    have hstep := haccepts.cost_lt ho
    rcases ih with hlower | ⟨-, hsame⟩
    · exact .inl (hlower.trans hstep)
    · exact .inl (hsame.trans_lt hstep)

variable {problem : Problem Rat} {guess : Guess Rat}

/-- What the solver finds belongs to its controls and is no worse than the guess. A strict solver errs
where the other one has not converged. -/
theorem solver_improves (ho : o.validate = .ok ()) :
    let s := shooting problem guess.t0 o
    let controls := Trajectory.samples o.horizonSteps problem.dims.nu
    (∀ strict found, solver strict problem guess o = .ok (.ok found) →
      ∃ first x grad,
        found.t = Trajectory.uniformGrid guess.t0 o.stepSize o.horizonSteps ∧
        s.simulate guess.x0 (controls found.u) = .ok x ∧ found.x = x.flatten ∧
        Trajectory.sample problem.dims.nx found.x 0 = guess.x0 ∧
        s.cost x (controls found.u) = .ok found.cost ∧
        evaluate s guess.x0 (controls guess.u) = .ok first ∧
        found.cost ≤ first.cost ∧ (found.u ≠ guess.u → found.cost < first.cost) ∧
        found.iterations ≤ o.maxGradientIterations ∧
        s.gradient x (controls found.u) = .ok (.ok grad) ∧
        (found.converged = true ↔ Vec.normInf grad.flatten ≤ o.gradientTolerance)) ∧
    ∀ n, solver true problem guess o = .ok (.error (.notConverged n)) ↔
      ∃ found, solver false problem guess o = .ok (.ok found) ∧ found.converged = false ∧
        found.iterations = n := by
  intro s controls
  refine ⟨fun strict found h => ?_, fun n => solver_notConverged_iff⟩
  have hvalid := Options.validate_eq_ok.mp ho
  have hsamples : Nat.max o.horizonSteps 2 = o.horizonSteps := Nat.max_eq_left hvalid.horizonSteps
  obtain ⟨first, last, hfirst, hdescends, rfl⟩ := solver_descends h
  obtain ⟨hx0, hlength, hu, hzero, hconsistent⟩ := firstIterate_eq_ok hfirst
  rw [hsamples] at hlength hu
  have hlast := hdescends.consistent hconsistent
  obtain ⟨-, hsimulate, hcost⟩ := evaluate_eq_ok.mp hlast.evaluated
  have hcontrols : controls last.u.flatten = last.u := by
    have hflat := samples_controls hlast.controls
    rwa [hsamples] at hflat
  have hstart : controls guess.u = first.u := hu.symm
  obtain ⟨rest, hx⟩ := hlast.controls.simulate_cons (grid_ne_nil problem guess.t0 o) hsimulate
  have hguess : guess.u = first.u.flatten := by rw [hu, Trajectory.flatten_samples hlength]
  refine ⟨first.toCandidate, last.x, last.grad, ?_, ?_, rfl, ?_, ?_, ?_, ?_, ?_, ?_, ?_,
    decide_eq_true_iff⟩
  · change Trajectory.uniformGrid guess.t0 o.stepSize (Nat.max o.horizonSteps 2) = _
    rw [hsamples]
  · exact (congrArg _ hcontrols).trans hsimulate
  · change (last.x.flatten.drop (0 * problem.dims.nx)).take problem.dims.nx = guess.x0
    rw [Nat.zero_mul, List.drop_zero, hx, List.flatten_cons, ← hx0, List.take_left]
  · exact (congrArg _ hcontrols).trans hcost
  · exact (congrArg _ hstart).trans hconsistent.evaluated
  · rcases hdescends.cost hvalid with hlower | ⟨-, hsame⟩
    · exact hlower.le
    · exact hsame.le
  · intro hmoved
    rcases hdescends.cost hvalid with hlower | ⟨hsame, -⟩
    · exact hlower
    · exact absurd ((congrArg List.flatten hsame).trans hguess.symm) hmoved
  · have hiterations := hdescends.iterations_le
    rw [hzero, Nat.zero_add] at hiterations
    exact hiterations
  · exact (congrArg _ hcontrols).trans hlast.gradient

/-- Two steps of the mass on the track, which do not settle it. -/
theorem track_solver_improves :
    let o : Options Rat :=
      { Options.default with horizonSteps := 3, maxGradientIterations := 2, constraintPenalty := 3 }
    let guess : Guess Rat := ⟨0, [1, -1], [1, 2, -1]⟩
    o.validate = .ok () ∧
      (∃ found first, solver false Shooting.track.problem guess o = .ok (.ok found) ∧
        evaluate (shooting Shooting.track.problem 0 o) [1, -1] [[1], [2], [-1]] = .ok first ∧
        found.u ≠ guess.u ∧ found.cost < first.cost ∧ found.iterations ≤ 2) ∧
      solver true Shooting.track.problem guess o = .ok (.error (.notConverged 2)) := by
  intro o guess
  have ho : o.validate = .ok () := by decide +kernel
  have hmoved : ((solver false Shooting.track.problem guess o).toOption.bind (·.toOption)).map
      (fun found => (decide (found.u ≠ guess.u), found.converged, found.iterations)) =
        some (true, false, 2) := by
    decide +kernel
  obtain ⟨hsound, hstrict⟩ := @solver_improves o Shooting.track.problem guess ho
  obtain ⟨found, hfound, hmoved⟩ := Option.map_eq_some_iff.mp hmoved
  obtain ⟨answer, hanswer, hfound⟩ := Option.bind_eq_some_iff.mp hfound
  rw [toOption_eq_some] at hanswer hfound
  obtain rfl := hfound
  obtain ⟨hne, hconverged, htwo⟩ : found.u ≠ guess.u ∧ found.converged = false ∧ found.iterations = 2 := by
    simpa using hmoved
  obtain ⟨first, x, grad, -, -, -, -, -, hfirst, -, hlower, hiterations, -⟩ := hsound false found hanswer
  exact ⟨ho, ⟨found, first, hanswer, hfirst, hne, hlower hne, hiterations⟩,
    (hstrict 2).mpr ⟨found, hanswer, hconverged, htwo⟩⟩

end Exact

end Gradient

end ConsensusControl
