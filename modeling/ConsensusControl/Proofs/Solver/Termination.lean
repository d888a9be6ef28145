import ConsensusControl.Proofs.Consensus.PenaltyBalance
import ConsensusControl.Proofs.Solver.Faults

namespace ConsensusControl

/-- Exact arithmetic where any number may count as infinite, so that what becomes too large can fail. -/
abbrev Scalar.finiteWhere (finite : Rat → Bool) : Scalar Rat :=
  { (inferInstance : Scalar Rat) with isFinite := finite }

namespace Gradient

variable {α : Type} [Scalar α] {s : Shooting α} {x0 : Vec α} {o : Options α}

/-- A search from a step as it runs, without a budget, with the steps that it tries and what it finds. -/
inductive Searches (s : Shooting α) (x0 : Vec α) (it : Iterate α) (slope lo : α) :
    α → List α → Option (Candidate α × α) → Prop
  | short {step : α} (short : ¬ lo ≤ step) : Searches s x0 it slope lo step [] none
  | accepted {step : α} {trial : Candidate α} (long : lo ≤ step)
    (evaluated : evaluate s x0 (moved it.u it.grad step) = .ok trial)
    (decrease : trial.cost ≤ it.cost - sufficientDecrease * step * slope) :
    Searches s x0 it slope lo step [step] (some (trial, step))
  | rejected {step : α} {trial : Candidate α} {trials : List α} {found : Option (Candidate α × α)}
    (long : lo ≤ step) (evaluated : evaluate s x0 (moved it.u it.grad step) = .ok trial)
    (flat : ¬ trial.cost ≤ it.cost - sufficientDecrease * step * slope)
    (rest : Searches s x0 it slope lo (step * Scalar.half) trials found) :
    Searches s x0 it slope lo step (step :: trials) found
  | diverged {step : α} {e : SolveError} {trials : List α} {found : Option (Candidate α × α)}
    (long : lo ≤ step) (failed : evaluate s x0 (moved it.u it.grad step) = .error e)
    (rest : Searches s x0 it slope lo (step * Scalar.half) trials found) :
    Searches s x0 it slope lo step (step :: trials) found

/-- A step after so many halvings. -/
def halved (step : α) : Nat → α
  | 0 => step
  | n + 1 => halved (step * Scalar.half) n

/-- A search ends where its step would, if nothing else ended it. -/
theorem exists_searches {it : Iterate α} {slope lo : α} (n : Nat) {step : α}
    (hshort : ¬ lo ≤ halved step n) : ∃ trials found, Searches s x0 it slope lo step trials found := by
  induction n generalizing step with
  | zero => exact ⟨_, _, .short hshort⟩
  | succ n ih =>
    by_cases hlong : lo ≤ step
    · obtain ⟨trials, found, hrest⟩ := ih hshort
      cases hevaluated : evaluate s x0 (moved it.u it.grad step) with
      | error e => exact ⟨_, _, .diverged hlong hevaluated hrest⟩
      | ok trial =>
        by_cases hdecrease : trial.cost ≤ it.cost - sufficientDecrease * step * slope
        · exact ⟨_, _, .accepted hlong hevaluated hdecrease⟩
        · exact ⟨_, _, .rejected hlong hevaluated hdecrease hrest⟩
    · exact ⟨_, _, .short hlong⟩

namespace Searches

variable {it : Iterate α} {slope lo step : α} {trials trials' : List α}
  {found found' : Option (Candidate α × α)}

theorem unique (h : Searches s x0 it slope lo step trials found)
    (h' : Searches s x0 it slope lo step trials' found') : trials = trials' ∧ found = found' := by
  induction h generalizing trials' found' with
  | short => cases h' <;> simp_all
  | accepted => cases h' <;> simp_all
  | rejected _ _ _ _ ih =>
    cases h' with
    | rejected _ _ _ hrest => obtain ⟨rfl, rfl⟩ := ih hrest; exact ⟨rfl, rfl⟩
    | _ => simp_all
  | diverged _ _ _ ih =>
    cases h' with
    | diverged _ _ hrest => obtain ⟨rfl, rfl⟩ := ih hrest; exact ⟨rfl, rfl⟩
    | _ => simp_all

/-- Every budget for the trials that are made gives what the search finds. -/
theorem lineSearch_eq (h : Searches s x0 it slope lo step trials found) {budget : Nat}
    (hbudget : trials.length ≤ budget) : lineSearch s x0 it slope lo budget step = found := by
  induction h generalizing budget with
  | short hshort =>
    cases budget with
    | zero => rfl
    | succ budget => exact if_neg hshort
  | accepted hlong hevaluated hdecrease =>
    obtain ⟨budget, rfl⟩ : ∃ rest, budget = rest + 1 := Nat.exists_eq_add_of_le' hbudget
    unfold lineSearch
    rw [if_pos hlong, hevaluated]
    exact if_pos hdecrease
  | rejected hlong hevaluated hflat _ ih =>
    obtain ⟨budget, rfl⟩ := Nat.exists_eq_add_of_le' (Nat.le_trans (Nat.le_add_left 1 _) hbudget)
    unfold lineSearch
    rw [if_pos hlong, hevaluated]
    exact (if_neg hflat).trans (ih (Nat.le_of_succ_le_succ hbudget))
  | diverged hlong hfailed _ ih =>
    obtain ⟨budget, rfl⟩ := Nat.exists_eq_add_of_le' (Nat.le_trans (Nat.le_add_left 1 _) hbudget)
    unfold lineSearch
    rw [if_pos hlong, hfailed]
    exact ih (Nat.le_of_succ_le_succ hbudget)

theorem tried (h : Searches s x0 it slope lo step trials found) (hlong : lo ≤ step) : trials ≠ [] := by
  cases h with
  | short hshort => exact absurd hlong hshort
  | accepted | rejected | diverged => exact List.cons_ne_nil _ _

theorem long (h : Searches s x0 it slope lo step trials found) : ∀ r ∈ trials, lo ≤ r := by
  induction h with
  | short => simp
  | accepted hlong => simpa using hlong
  | rejected hlong _ _ _ ih | diverged hlong _ _ ih => exact List.forall_mem_cons.mpr ⟨hlong, ih⟩

theorem trials_eq (h : Searches s x0 it slope lo step trials found) :
    trials = (List.range trials.length).map (halved step) := by
  induction h with
  | short | accepted => rfl
  | rejected _ _ _ _ ih | diverged _ _ _ ih =>
    rw [List.length_cons, List.range_succ_eq_map, List.map_cons, List.map_map]
    exact congrArg (List.cons _) ih

end Searches

/-- The iterate that an accepted trial leads to. -/
def Iterate.moveTo (it : Iterate α) (trial : Candidate α) (step : α) (grad : List (Vec α)) : Iterate α :=
  { toCandidate := trial, grad, step, previous := some (it.u, it.grad), iterations := it.iterations + 1 }

/-- A round that gets to search. -/
structure Searched (s : Shooting α) (x0 : Vec α) (o : Options α) (it : Iterate α) (trials : List α)
    (found : Option (Candidate α × α)) : Prop where
  more : it.iterations < o.maxGradientIterations
  moving : isStationary it o.gradientTolerance = false
  search : ∃ step, Checked.clamp (proposedStep it) o.lineSearchMin maxStep = .ok step ∧
    Searches s x0 it (Vec.dot it.grad.flatten it.grad.flatten) o.lineSearchMin step trials found

/-- A descent from an iterate, with what each round tries, if it searches, and the answer. -/
inductive Loops (s : Shooting α) (x0 : Vec α) (o : Options α) :
    Iterate α → List (Option (List α)) → Checked (Except SolveError (Iterate α)) → Prop
  | spent {it : Iterate α} (spent : ¬ it.iterations < o.maxGradientIterations) :
    Loops s x0 o it [] (.ok (.ok it))
  | rest {it : Iterate α} (more : it.iterations < o.maxGradientIterations)
    (stationary : isStationary it o.gradientTolerance = true) :
    Loops s x0 o it [none] (.ok (.ok it))
  | stuck {it : Iterate α} {fault : Fault} (more : it.iterations < o.maxGradientIterations)
    (moving : isStationary it o.gradientTolerance = false)
    (stuck : Checked.clamp (proposedStep it) o.lineSearchMin maxStep = .error fault) :
    Loops s x0 o it [some []] (.error fault)
  | stalled {it : Iterate α} {trials : List α} (searched : Searched s x0 o it trials none) :
    Loops s x0 o it [some trials] (.ok (.ok { it with iterations := it.iterations + 1 }))
  | faulted {it : Iterate α} {trials : List α} {trial : Candidate α} {taken : α} {fault : Fault}
    (searched : Searched s x0 o it trials (some (trial, taken)))
    (gradient : s.gradient trial.x trial.u = .error fault) :
    Loops s x0 o it [some trials] (.error fault)
  | failed {it : Iterate α} {trials : List α} {trial : Candidate α} {taken : α} {e : SolveError}
    (searched : Searched s x0 o it trials (some (trial, taken)))
    (gradient : s.gradient trial.x trial.u = .ok (.error e)) :
    Loops s x0 o it [some trials] (.ok (.error e))
  | step {it : Iterate α} {trials : List α} {trial : Candidate α} {taken : α} {grad : List (Vec α)}
    {rounds : List (Option (List α))} {answer : Checked (Except SolveError (Iterate α))}
    (searched : Searched s x0 o it trials (some (trial, taken)))
    (gradient : s.gradient trial.x trial.u = .ok (.ok grad))
    (rest : Loops s x0 o (it.moveTo trial taken grad) rounds answer) :
    Loops s x0 o it (some trials :: rounds) answer

theorem Searched.unique {it : Iterate α} {trials trials' : List α}
    {found found' : Option (Candidate α × α)} (h : Searched s x0 o it trials found)
    (h' : Searched s x0 o it trials' found') : trials = trials' ∧ found = found' := by
  obtain ⟨step, hstep, hsearch⟩ := h.search
  obtain ⟨step', hstep', hsearch'⟩ := h'.search
  obtain rfl : step = step' := Except.ok.inj (hstep.symm.trans hstep')
  exact hsearch.unique hsearch'

/-- The rest of a round once its search is over, and then so many more. -/
def proceed (s : Shooting α) (x0 : Vec α) (o : Options α) (rounds : Nat) (it : Iterate α) :
    Option (Candidate α × α) → Checked (Except SolveError (Iterate α))
  | none => .ok (.ok { it with iterations := it.iterations + 1 })
  | some (trial, taken) => do
    match ← s.gradient trial.x trial.u with
    | .error e => return .error e
    | .ok grad => descend s x0 o rounds (it.moveTo trial taken grad)

/-- With a budget for its trials, a round is one of the descent. -/
theorem Searched.descend_succ {it : Iterate α} {trials : List α} {found : Option (Candidate α × α)}
    (h : Searched s x0 o it trials found)
    (hbudget : trials.length ≤ Scalar.halvings o.lineSearchMin + 1) (rounds : Nat) :
    descend s x0 o (rounds + 1) it = proceed s x0 o rounds it found := by
  obtain ⟨step, hstep, hsearch⟩ := h.search
  rw [descend, h.moving, if_neg Bool.false_ne_true, hstep]
  dsimp only [bind, Except.bind]
  rw [hsearch.lineSearch_eq hbudget]
  cases found <;> rfl

/-- Where every search ends, descents do. -/
theorem exists_loops
    (hsearches : ∀ (it : Iterate α) step,
      Checked.clamp (proposedStep it) o.lineSearchMin maxStep = .ok step → ∃ trials found,
        Searches s x0 it (Vec.dot it.grad.flatten it.grad.flatten) o.lineSearchMin step trials found)
    (left : Nat) {it : Iterate α} (hleft : o.maxGradientIterations ≤ it.iterations + left) :
    ∃ rounds answer, Loops s x0 o it rounds answer := by
  induction left generalizing it with
  | zero => exact ⟨_, _, .spent (Nat.not_lt_of_ge hleft)⟩
  | succ left ih =>
    by_cases hmore : it.iterations < o.maxGradientIterations
    case neg => exact ⟨_, _, .spent hmore⟩
    cases hstationary : isStationary it o.gradientTolerance with
    | true => exact ⟨_, _, .rest hmore hstationary⟩
    | false =>
      cases hstep : Checked.clamp (proposedStep it) o.lineSearchMin maxStep with
      | error fault => exact ⟨_, _, .stuck hmore hstationary hstep⟩
      | ok step =>
        obtain ⟨trials, found, hsearch⟩ := hsearches it step hstep
        have hsearched : Searched s x0 o it trials found := ⟨hmore, hstationary, step, hstep, hsearch⟩
        rcases found with - | ⟨trial, taken⟩
        · exact ⟨_, _, .stalled hsearched⟩
        cases hgradient : s.gradient trial.x trial.u with
        | error fault => exact ⟨_, _, .faulted hsearched hgradient⟩
        | ok answer =>
          cases answer with
          | error e => exact ⟨_, _, .failed hsearched hgradient⟩
          | ok grad =>
            have hnext : o.maxGradientIterations ≤ (it.moveTo trial taken grad).iterations + left := by
              dsimp only [Iterate.moveTo]
              omega
            obtain ⟨rounds, answer, hrest⟩ := ih hnext
            exact ⟨_, _, .step hsearched hgradient hrest⟩

namespace Loops

variable {it : Iterate α} {rounds rounds' : List (Option (List α))}
  {answer answer' : Checked (Except SolveError (Iterate α))}

/-- What a round does is settled by its iterate, so there is one way for a descent to go. -/
theorem unique (h : Loops s x0 o it rounds answer) (h' : Loops s x0 o it rounds' answer') :
    rounds = rounds' ∧ answer = answer' := by
  induction h generalizing rounds' answer' with
  | spent | rest | stuck => cases h' <;> grind [Searched]
  | stalled | faulted | failed | step => cases h' <;> grind [Searched, Searched.unique]

/-- Every round counts as one, except that the last may find the iterate stationary. -/
theorem length_le (h : Loops s x0 o it rounds answer) :
    rounds.length ≤ o.maxGradientIterations - it.iterations := by
  induction h with
  | spent => exact Nat.zero_le _
  | rest hmore | stuck hmore => exact Nat.sub_pos_of_lt hmore
  | stalled hsearched | faulted hsearched | failed hsearched =>
    exact Nat.sub_pos_of_lt hsearched.more
  | step hsearched _ _ ih =>
    have hmore := hsearched.more
    dsimp only [Iterate.moveTo] at ih
    rw [List.length_cons]
    omega

/-- What holds of the trials of every search from a step within the limits holds of every round. -/
theorem forall_trials {p : List α → Prop} (h : Loops s x0 o it rounds answer)
    (hlimits : o.lineSearchMin ≤ maxStep)
    (hsearches : ∀ (it : Iterate α) step trials found,
      Checked.clamp (proposedStep it) o.lineSearchMin maxStep = .ok step →
      Searches s x0 it (Vec.dot it.grad.flatten it.grad.flatten) o.lineSearchMin step trials found →
      p trials) : ∀ trials, some trials ∈ rounds → p trials := by
  have hround : ∀ {it : Iterate α} {trials found}, Searched s x0 o it trials found → p trials := by
    intro it trials found hsearched
    obtain ⟨step, hstep, hsearch⟩ := hsearched.search
    exact hsearches it step trials found hstep hsearch
  induction h with
  | spent | rest => simp
  | stuck _ _ hstuck =>
    rw [Checked.clamp, Checked.require, if_pos hlimits] at hstuck
    cases hstuck
  | stalled hsearched | faulted hsearched | failed hsearched => simpa using hround hsearched
  | step hsearched _ _ ih =>
    intro trials htrials
    rcases List.mem_cons.mp htrials with heq | htrials
    · exact Option.some.inj heq ▸ hround hsearched
    · exact ih trials htrials

theorem left_succ {n max : Nat} (more : n < max) : max - n = max - (n + 1) + 1 := by
  omega

/-- With a budget for the trials that are made, the answer is the one of the loop. -/
theorem descend_eq (h : Loops s x0 o it rounds answer)
    (hbudget : ∀ trials, some trials ∈ rounds → trials.length ≤ Scalar.halvings o.lineSearchMin + 1) :
    descend s x0 o (o.maxGradientIterations - it.iterations) it = answer := by
  induction h with
  | spent hspent =>
    rw [Nat.sub_eq_zero_of_le (Nat.le_of_not_lt hspent)]
    rfl
  | rest hmore hstationary =>
    rw [left_succ hmore]
    exact if_pos hstationary
  | stuck hmore hmoving hstuck =>
    rw [left_succ hmore, descend, hmoving, if_neg Bool.false_ne_true, hstuck]
    rfl
  | stalled hsearched =>
    rw [left_succ hsearched.more, hsearched.descend_succ (hbudget _ List.mem_cons_self)]
    rfl
  | faulted hsearched hgradient | failed hsearched hgradient =>
    rw [left_succ hsearched.more, hsearched.descend_succ (hbudget _ List.mem_cons_self), proceed,
      hgradient]
    rfl
  | step hsearched hgradient _ ih =>
    rw [left_succ hsearched.more, hsearched.descend_succ (hbudget _ List.mem_cons_self), proceed,
      hgradient]
    exact ih fun trials htrials => hbudget trials (List.mem_cons_of_mem _ htrials)

end Loops

variable {problem : Problem α} {guess : Guess α}

/-- What a solver answers from the last iterate. -/
def conclude (strict : Bool) (t : Vec α) (o : Options α) (last : Iterate α) :
    Except SolveError (LocalSolution α) :=
  let found := solution t o last
  if strict && !found.converged then .error (.notConverged found.iterations) else .ok found

/-- A solve, with what the rounds of its descent try and the answer. -/
inductive Solves (strict : Bool) (problem : Problem α) (guess : Guess α) (o : Options α) :
    List (Option (List α)) → Checked (Except SolveError (LocalSolution α)) → Prop
  | faulted {fault : Fault} (start : firstIterate problem guess o = .error fault) :
    Solves strict problem guess o [] (.error fault)
  | refused {e : SolveError} (start : firstIterate problem guess o = .ok (.error e)) :
    Solves strict problem guess o [] (.ok (.error e))
  | descended {first : Iterate α} {rounds : List (Option (List α))}
    {answer : Checked (Except SolveError (Iterate α))}
    (start : firstIterate problem guess o = .ok (.ok first))
    (loops : Loops (shooting problem guess.t0 o) guess.x0 o first rounds answer) :
    Solves strict problem guess o rounds
      (answer.map (·.bind (conclude strict (shooting problem guess.t0 o).t o)))

theorem exists_solves (strict : Bool)
    (hsearches : ∀ (it : Iterate α) step,
      Checked.clamp (proposedStep it) o.lineSearchMin maxStep = .ok step → ∃ trials found,
        Searches (shooting problem guess.t0 o) guess.x0 it (Vec.dot it.grad.flatten it.grad.flatten)
          o.lineSearchMin step trials found) :
    ∃ rounds answer, Solves strict problem guess o rounds answer := by
  cases hstart : firstIterate problem guess o with
  | error fault => exact ⟨_, _, .faulted hstart⟩
  | ok first =>
    cases first with
    | error e => exact ⟨_, _, .refused hstart⟩
    | ok first =>
      obtain ⟨rounds, answer, hloops⟩ : ∃ rounds answer,
          Loops (shooting problem guess.t0 o) guess.x0 o first rounds answer :=
        exists_loops hsearches o.maxGradientIterations (Nat.le_add_left _ _)
      exact ⟨_, _, .descended hstart hloops⟩

namespace Solves

variable {strict : Bool} {rounds rounds' : List (Option (List α))}
  {answer answer' : Checked (Except SolveError (LocalSolution α))}

theorem unique (h : Solves strict problem guess o rounds answer)
    (h' : Solves strict problem guess o rounds' answer') : rounds = rounds' ∧ answer = answer' := by
  cases h with
  | faulted | refused => cases h' <;> simp_all
  | descended hstart hloops =>
    cases h' with
    | descended hstart' hloops' =>
      obtain rfl := Except.ok.inj (Except.ok.inj (hstart.symm.trans hstart'))
      obtain ⟨rfl, rfl⟩ := hloops.unique hloops'
      exact ⟨rfl, rfl⟩
    | _ => simp_all

theorem length_le (h : Solves strict problem guess o rounds answer) :
    rounds.length ≤ o.maxGradientIterations := by
  cases h with
  | faulted | refused => exact Nat.zero_le _
  | descended _ hloops => exact hloops.length_le.trans (Nat.sub_le _ _)

/-- What holds of the trials of every search from a step within the limits holds of every round. -/
theorem forall_trials {p : List α → Prop} (h : Solves strict problem guess o rounds answer)
    (hlimits : o.lineSearchMin ≤ maxStep)
    (hsearches : ∀ (it : Iterate α) step trials found,
      Checked.clamp (proposedStep it) o.lineSearchMin maxStep = .ok step →
      Searches (shooting problem guess.t0 o) guess.x0 it (Vec.dot it.grad.flatten it.grad.flatten)
        o.lineSearchMin step trials found → p trials) : ∀ trials, some trials ∈ rounds → p trials := by
  cases h with
  | faulted | refused => simp
  | descended _ hloops => exact hloops.forall_trials hlimits hsearches

theorem solver_eq (h : Solves strict problem guess o rounds answer)
    (hbudget : ∀ trials, some trials ∈ rounds → trials.length ≤ Scalar.halvings o.lineSearchMin + 1) :
    solver strict problem guess o = answer := by
  cases h with
  | faulted hstart | refused hstart =>
    rw [solver, hstart]
    rfl
  | @descended first _ answer hstart hloops =>
    obtain ⟨-, -, -, hzero, -⟩ := firstIterate_eq_ok hstart
    have hdescend := hloops.descend_eq hbudget
    rw [hzero, Nat.sub_zero] at hdescend
    rw [solver, hstart]
    dsimp only [bind, Except.bind]
    rw [hdescend]
    rcases answer with fault | e | last
    · rfl
    · rfl
    · exact (apply_ite Except.ok _ _ _).symm

end Solves

section Exact

variable (finite : Rat → Bool)

theorem halved_eq_div (step : Rat) (n : Nat) :
    letI := Scalar.finiteWhere finite
    halved step n = step / 2 ^ n := by
  induction n generalizing step with
  | zero => exact (div_one step).symm
  | succ n ih =>
    refine (ih _).trans ?_
    change step * (Scalar.half : Rat) / 2 ^ n = _
    rw [Scalar.half_eq, pow_succ]
    ring

/-- The number of halvings that a search counts on takes the longest step below the shortest one. -/
theorem maxStep_lt_halvings {lo : Rat} (hlo : 0 < lo) : (maxStep : Rat) < lo * 2 ^ Scalar.halvings lo := by
  let trials := (1000000 / lo : Rat).ceil.toNat
  have htrials : 1000000 / lo ≤ (trials : Rat) :=
    Rat.le_ceil.trans (by exact_mod_cast Int.self_le_toNat _)
  have hpow : (trials : Rat) < 2 ^ (trials.log2 + 1) := by exact_mod_cast Nat.lt_log2_self
  have hmax : (maxStep : Rat) = 1000000 := by decide +kernel
  have hhalvings : Scalar.halvings lo = trials.log2 + 1 := rfl
  rw [hmax, hhalvings, mul_comm]
  exact (div_lt_iff₀ hlo).mp (htrials.trans_lt hpow)

/-- What a search tries from a step within the limits: that step and its halves, none too short. -/
structure Trials (lo : Rat) (trials : List Rat) : Prop where
  tried : trials ≠ []
  halves : ∃ step ≤ maxStep, trials = (List.range trials.length).map (step / 2 ^ ·)
  long : ∀ r ∈ trials, lo ≤ r
  room : lo * 2 ^ trials.length ≤ 2 * maxStep

theorem Trials.length_le {lo : Rat} {trials : List Rat} (h : Trials lo trials) (hlo : 0 < lo) :
    trials.length ≤ Scalar.halvings lo := by
  have hpow : lo * 2 ^ trials.length < lo * 2 ^ (Scalar.halvings lo + 1) := by
    calc lo * 2 ^ trials.length ≤ 2 * maxStep := h.room
      _ < 2 * (lo * 2 ^ Scalar.halvings lo) := by linarith [maxStep_lt_halvings hlo]
      _ = lo * 2 ^ (Scalar.halvings lo + 1) := by ring
  have hlength := (pow_lt_pow_iff_right₀ one_lt_two).mp (lt_of_mul_lt_mul_left hpow hlo.le)
  exact Nat.le_of_lt_succ hlength

variable {s : Shooting Rat} {x0 : Vec Rat} {it : Iterate Rat} {slope lo step : Rat}

theorem exists_searches_of_le (hlo : 0 < lo) (hstep : step ≤ maxStep) :
    letI := Scalar.finiteWhere finite
    ∃ trials found, Searches s x0 it slope lo step trials found := by
  let _ := Scalar.finiteWhere finite
  refine exists_searches (Scalar.halvings lo) ?_
  rw [halved_eq_div finite, not_le, div_lt_iff₀ (by positivity)]
  exact hstep.trans_lt (maxStep_lt_halvings hlo)

theorem Searches.halves {trials : List Rat} {found : Option (Candidate Rat × Rat)}
    (h : letI := Scalar.finiteWhere finite; Searches s x0 it slope lo step trials found)
    (hlong : lo ≤ step) (hstep : step ≤ maxStep) : Trials lo trials := by
  let _ := Scalar.finiteWhere finite
  have htried := h.tried hlong
  have hhalves : trials = (List.range trials.length).map (step / 2 ^ ·) :=
    h.trials_eq.trans (List.map_congr_left fun n _ => halved_eq_div finite step n)
  obtain ⟨n, hn⟩ := Nat.exists_eq_succ_of_ne_zero (List.length_eq_zero_iff.not.mpr htried)
  have hlast : lo ≤ step / 2 ^ n := by
    refine h.long _ ?_
    rw [hhalves, hn]
    exact List.mem_map_of_mem (List.mem_range.mpr (Nat.lt_succ_self n))
  refine ⟨htried, ⟨step, hstep, hhalves⟩, h.long, ?_⟩
  rw [hn, Nat.succ_eq_add_one, pow_succ]
  have hroom := (le_div_iff₀ (by positivity)).mp hlast
  linarith

theorem clamp_within {x : Rat} {o : Options Rat} (hle : o.lineSearchMin ≤ maxStep)
    (h : letI := Scalar.finiteWhere finite; Checked.clamp x o.lineSearchMin maxStep = .ok step) :
    o.lineSearchMin ≤ step ∧ step ≤ maxStep := by
  obtain rfl := Except.ok.inj ((Checked.clamp_eq hle).symm.trans h)
  exact ⟨le_max_left _ _, max_le hle (min_le_left _ _)⟩

/-- Every solve ends, whether steps are accepted, rejected or fail: after at most so many rounds, each of
which has tried a step within the limits and then its halves as far as they are long enough. -/
theorem solver_terminates (strict : Bool) (problem : Problem Rat) (guess : Guess Rat) (o : Options Rat)
    (hlo : 0 < o.lineSearchMin) (hle : o.lineSearchMin ≤ maxStep) :
    letI := Scalar.finiteWhere finite
    ∃ rounds, Solves strict problem guess o rounds (solver strict problem guess o) ∧
      (∀ rounds' answer, Solves strict problem guess o rounds' answer →
        rounds' = rounds ∧ answer = solver strict problem guess o) ∧
      rounds.length ≤ o.maxGradientIterations ∧
      ∀ trials, some trials ∈ rounds → Trials o.lineSearchMin trials := by
  let _ := Scalar.finiteWhere finite
  obtain ⟨rounds, answer, hsolves⟩ : ∃ rounds answer, Solves strict problem guess o rounds answer :=
    exists_solves strict fun it step hstep =>
      exists_searches_of_le finite hlo (clamp_within finite hle hstep).2
  have htrials := hsolves.forall_trials hle fun it step trials found hstep hsearch =>
    have hwithin := clamp_within finite hle hstep
    hsearch.halves finite hwithin.1 hwithin.2
  obtain rfl := hsolves.solver_eq fun trials h =>
    ((htrials trials h).length_le hlo).trans (Nat.le_succ _)
  refine ⟨rounds, hsolves, ?_, hsolves.length_le, htrials⟩
  intro rounds' answer h
  exact h.unique hsolves

/-- The mass on the track does not move where the shortest step leads too far. -/
theorem track_solver_stalls :
    letI := Scalar.finiteWhere fun x => |x| < 100
    let o : Options Rat :=
      { Options.default with
        horizonSteps := 3, maxGradientIterations := 2, lineSearchInit := 8, lineSearchMin := 1,
        constraintPenalty := 3 }
    let guess : Guess Rat := ⟨0, [1, -1], [1, 2, -1]⟩
    (0 < o.lineSearchMin ∧ o.lineSearchMin ≤ maxStep) ∧
      ∃ rounds found, Solves false Shooting.track.problem guess o rounds (.ok (.ok found)) ∧
        found.u = guess.u ∧ found.converged = false ∧ found.iterations = 1 ∧ rounds.length ≤ 2 ∧
        ∀ trials, some trials ∈ rounds → Trials 1 trials := by
  intro o guess
  let _ := Scalar.finiteWhere fun x => |x| < 100
  have hlo : 0 < o.lineSearchMin := by decide +kernel
  have hle : o.lineSearchMin ≤ maxStep := by decide +kernel
  have hstalled : ((solver false Shooting.track.problem guess o).toOption.bind (·.toOption)).map
      (fun found => (decide (found.u = guess.u), found.converged, found.iterations)) =
        some (true, false, 1) := by
    decide +kernel
  obtain ⟨rounds, hsolves, -, hlength, htrials⟩ :=
    solver_terminates (fun x => |x| < 100) false Shooting.track.problem guess o hlo hle
  obtain ⟨found, hfound, hstalled⟩ := Option.map_eq_some_iff.mp hstalled
  obtain ⟨answer, hanswer, hfound⟩ := Option.bind_eq_some_iff.mp hfound
  rw [toOption_eq_some] at hanswer hfound
  obtain rfl := hfound
  obtain ⟨hu, hconverged, hone⟩ : found.u = guess.u ∧ found.converged = false ∧ found.iterations = 1 := by
    simpa using hstalled
  exact ⟨⟨hlo, hle⟩, rounds, found, hanswer ▸ hsolves, hu, hconverged, hone, hlength, htrials⟩

end Exact

end Gradient

end ConsensusControl
