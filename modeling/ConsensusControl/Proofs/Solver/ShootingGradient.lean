import ConsensusControl.Proofs.Affine
import ConsensusControl.Solver.Gradient

namespace ConsensusControl

namespace Vec

theorem addScaled_dot (w : Vec Rat) (s : Rat) {d x : Vec Rat} (h : d.length = x.length) :
    dot (addScaled s d x) w = s * dot d w + dot x w := by
  rw [dot_comm, dot_addScaled w s h, dot_comm w d, dot_comm w x]

theorem zipWith_eq_addScaled (s : Rat) {x f : Vec Rat} (h : x.length = f.length) :
    List.zipWith (fun x f => x + s * f) x f = addScaled s f x := by
  induction x generalizing f with
  | nil => cases f <;> rfl
  | cons y x ih =>
    cases f with
    | nil => simp at h
    | cons g f => exact congrArg (List.cons _) (ih (Nat.succ.inj h))

/-- A step along one vector and one along another may be taken in either order, component by component. -/
theorem addScaled_addScaled (r s : Rat) {x d f e : Vec Rat} {n : Nat} (hx : x.length = n)
    (hd : d.length = n) (hf : f.length = n) (he : e.length = n) :
    addScaled r (addScaled s e f) (addScaled s d x) =
      addScaled s (addScaled r e d) (addScaled r f x) := by
  apply eq_of_dot
  · simp
  · intro w _
    rw [dot_addScaled w r (by simp [hf, hx]), dot_addScaled w s (he.trans hf.symm),
      dot_addScaled w s (hd.trans hx.symm), dot_addScaled w s (by simp [hd, hx]),
      dot_addScaled w r (he.trans hd.symm), dot_addScaled w r (hf.trans hx.symm)]
    ring

/-- Between two points on either side, a square moves by four times the product. -/
theorem dot_self_shift {a d : Vec Rat} (h : d.length = a.length) :
    dot (addScaled 1 d a) (addScaled 1 d a) - dot (addScaled (-1) d a) (addScaled (-1) d a) =
      4 * dot a d := by
  have hsquare : ∀ s, dot (addScaled s d a) (addScaled s d a) =
      s * (s * dot d d + dot d a) + (s * dot a d + dot a a) := by
    intro s
    rw [dot_addScaled _ s h, dot_comm _ d, dot_comm _ a, dot_addScaled _ s h, dot_addScaled _ s h]
  rw [hsquare, hsquare, dot_comm d a]
  ring

end Vec

/-- The dynamics and the equality constraints are affine with exact transposed Jacobians, and along every
direction the costs move as their gradients say. -/
structure Problem.ExactGradients (P : Problem Rat) : Prop where
  dynamics : AffineWith P.dims.nx P.dims.nu P.dims.nx P.dynamics P.dynamicsDx P.dynamicsDu
  equality : AffineWith P.dims.nx P.dims.nu P.dims.ng (P.constraints .equality)
    (P.constraintsDx .equality) (P.constraintsDu .equality)
  stage : ∀ z, z.Sized P.dims.nx P.dims.nu → ∃ lx lu, P.stageCostDx z = .ok lx ∧
    P.stageCostDu z = .ok lu ∧ lx.length = P.dims.nx ∧ lu.length = P.dims.nu ∧
    ∀ d, d.Sized P.dims.nx P.dims.nu → P.stageCost (z.along 1 d) - P.stageCost (z.along (-1) d) =
      2 * (Vec.dot lx d.x + Vec.dot lu d.u)
  terminal : ∀ t x, x.length = P.dims.nx → ∃ vx, P.terminalCostDx t x = .ok vx ∧
    vx.length = P.dims.nx ∧
    ∀ d : Vec Rat, d.length = P.dims.nx →
      P.terminalCost t (Vec.addScaled 1 d x) - P.terminalCost t (Vec.addScaled (-1) d x) =
        2 * Vec.dot vx d

namespace Shooting

variable (s : Shooting Rat)

def next (z : Point Rat) : Vec Rat :=
  List.zipWith (fun x f => x + s.dt * f) z.x (s.problem.dynamics z)

/-- The points of a simulation. -/
def rollout (x : Vec Rat) : List (Rat × Vec Rat) → List (Point Rat)
  | [] => []
  | (t, u) :: rest => ⟨t, x, u⟩ :: rollout (s.next ⟨t, x, u⟩) rest

/-- The stage costs of all points and the terminal cost of the last one. -/
def total : List (Point Rat) → Rat
  | [] => 0
  | [p] => s.dt * s.stageCost p + s.problem.terminalCost p.t p.x
  | p :: rest => s.dt * s.stageCost p + total rest

theorem finite_eq_true (xs : Vec Rat) : finite xs = true := List.all_eq_true.mpr fun _ _ => rfl

/-- In exact arithmetic, nothing diverges. -/
theorem simulateFrom_eq (k : Nat) (x : Vec Rat) (l : List (Rat × Vec Rat)) :
    s.simulateFrom k x l = .ok ((s.rollout x l).map (·.x)) := by
  induction l generalizing k x with
  | nil => rfl
  | cons a l ih =>
    cases l with
    | nil => rfl
    | cons b l =>
      have hrest := ih (k + 1) (s.next ⟨a.1, x, a.2⟩)
      unfold simulateFrom
      dsimp only
      rw [if_pos (finite_eq_true _)]
      exact bind_eq_ok.mpr ⟨_, hrest, rfl⟩

theorem simulate_eq (x0 : Vec Rat) (u : List (Vec Rat)) :
    s.simulate x0 u = .ok ((s.rollout x0 (s.t.zip u)).map (·.x)) := s.simulateFrom_eq 0 x0 _

theorem points_eq (x0 : Vec Rat) (u : List (Vec Rat)) :
    s.points ((s.rollout x0 (s.t.zip u)).map (·.x)) u = s.rollout x0 (s.t.zip u) := by
  unfold points
  induction s.t generalizing x0 u with
  | nil => rfl
  | cons t ts ih =>
    cases u with
    | nil => simp [rollout]
    | cons v u => exact congrArg (List.cons _) (ih (s.next ⟨t, x0, v⟩) u)

theorem total_cons_cons (p q : Point Rat) (ps : List (Point Rat)) :
    s.total (p :: q :: ps) = s.dt * s.stageCost p + s.total (q :: ps) := rfl

theorem foldl_stageCost {ps : List (Point Rat)} {last : Point Rat} (h : ps.getLast? = some last)
    (start : Rat) : ps.foldl (fun cost p => cost + s.dt * s.stageCost p) start +
      s.problem.terminalCost last.t last.x = start + s.total ps := by
  induction ps generalizing start with
  | nil => simp at h
  | cons p ps ih =>
    cases ps with
    | nil =>
      obtain rfl : p = last := by simpa using h
      simp [total, add_assoc]
    | cons q ps =>
      rw [List.getLast?_cons_cons] at h
      rw [List.foldl_cons, ih h, total_cons_cons, add_assoc]

theorem cost_eq (x u : List (Vec Rat)) : s.cost x u = .ok (s.total (s.points x u)) := by
  unfold cost
  dsimp only
  generalize s.points x u = ps
  cases hlast : ps.getLast? with
  | none =>
    obtain rfl := List.getLast?_eq_none_iff.mp hlast
    rfl
  | some last =>
    dsimp only
    rw [s.foldl_stageCost hlast, zero_add]
    rfl

theorem evaluate_eq (x0 : Vec Rat) (u : List (Vec Rat)) :
    Gradient.evaluate s x0 u = .ok ⟨u, (s.rollout x0 (s.t.zip u)).map (·.x),
      s.total (s.rollout x0 (s.t.zip u))⟩ := by
  unfold Gradient.evaluate
  rw [s.simulate_eq]
  refine bind_eq_ok.mpr ⟨_, rfl, ?_⟩
  rw [s.cost_eq, s.points_eq]
  rfl

variable {s} {z d : Point Rat}

theorem residuals_inactive (h : ¬(0 < s.penalty ∧ 0 < s.problem.dims.ng)) (z : Point Rat) :
    s.residuals .equality z = Vec.zeros s.problem.dims.ng := if_neg h

theorem residuals_active (h : 0 < s.penalty ∧ 0 < s.problem.dims.ng) (z : Point Rat) :
    s.residuals .equality z = s.problem.constraints .equality z := if_pos h

theorem residuals_none (h : s.problem.dims.nh = 0) (z : Point Rat) :
    s.residuals .inequality z = [] := by
  unfold residuals constraintValues Dimensions.constraintCount
  simp [h, Vec.zeros]

/-- Along every direction, the charge for the equalities moves as what is added to the gradients says. -/
theorem charge_shift (hP : s.problem.ExactGradients)
    (hz : z.Sized s.problem.dims.nx s.problem.dims.nu) {g : Vec Rat × Vec Rat}
    (hx : g.1.length = s.problem.dims.nx) (hu : g.2.length = s.problem.dims.nu) :
    (s.addCharge .equality z g).1.length = s.problem.dims.nx ∧
    (s.addCharge .equality z g).2.length = s.problem.dims.nu ∧
    ∀ d : Point Rat, d.Sized s.problem.dims.nx s.problem.dims.nu →
      let charge (z : Point Rat) : Rat :=
        Scalar.half * s.penalty * Vec.dot (s.residuals .equality z) (s.residuals .equality z)
      charge (z.along 1 d) - charge (z.along (-1) d) =
        2 * (Vec.dot (s.addCharge .equality z g).1 d.x + Vec.dot (s.addCharge .equality z g).2 d.u -
          (Vec.dot g.1 d.x + Vec.dot g.2 d.u)) := by
  by_cases hactive : 0 < s.penalty ∧ 0 < s.problem.dims.ng
  · have hr : (s.problem.constraints .equality z).length = s.problem.dims.ng :=
      hP.equality.length_value z hz
    have hlx := hP.equality.length_dx z _ hz hr
    have hlu := hP.equality.length_du z _ hz hr
    unfold addCharge
    simp only [residuals_active hactive]
    split
    · refine ⟨by simp [hx], by simp [hu], ?_⟩
      intro d hd
      obtain ⟨shift, hshift, hvalue, hdot⟩ := hP.equality.exists_shift hz hd
      have hsquare := Vec.dot_self_shift (hshift.trans hr.symm)
      have hmoves := hdot _ hr
      rw [Vec.addScaled_dot _ _ (hlx.trans hx.symm), Vec.addScaled_dot _ _ (hlu.trans hu.symm), hvalue,
        hvalue, Scalar.half_eq]
      linear_combination 1 / 2 * s.penalty * hsquare + 2 * s.penalty * hmoves
    · next hzero =>
      refine ⟨hx, hu, ?_⟩
      intro d hd
      have hzeros : s.problem.constraints .equality z = Vec.zeros s.problem.dims.ng :=
        List.eq_replicate_iff.mpr ⟨hr, by simpa using hzero⟩
      obtain ⟨shift, hshift, hvalue, -⟩ := hP.equality.exists_shift hz hd
      have hsquare := Vec.dot_self_shift (hshift.trans hr.symm)
      rw [← hvalue, ← hvalue, hzeros, Vec.zeros_dot] at hsquare
      linear_combination Scalar.half * s.penalty * hsquare
  · have hskip : s.addCharge .equality z g = g := by
      unfold addCharge
      rw [residuals_inactive hactive, if_neg]
      simp [Vec.zeros]
    rw [hskip]
    refine ⟨hx, hu, ?_⟩
    intro d _
    simp only [residuals_inactive hactive]
    ring

theorem stageGradient_shift (hP : s.problem.ExactGradients) (hnh : s.problem.dims.nh = 0)
    (hz : z.Sized s.problem.dims.nx s.problem.dims.nu) :
    ∃ lx lu, s.stageGradient z = .ok (lx, lu) ∧ lx.length = s.problem.dims.nx ∧
      lu.length = s.problem.dims.nu ∧
      ∀ d : Point Rat, d.Sized s.problem.dims.nx s.problem.dims.nu →
        s.stageCost (z.along 1 d) - s.stageCost (z.along (-1) d) =
          2 * (Vec.dot lx d.x + Vec.dot lu d.u) := by
  obtain ⟨lx, lu, hlx, hlu, hx, hu, hstage⟩ := hP.stage z hz
  obtain ⟨hgx, hgu, hcharge⟩ := charge_shift (g := (lx, lu)) hP hz hx hu
  have hskip : ∀ g, s.addCharge .inequality z g = g := by
    intro g
    unfold addCharge
    rw [residuals_none hnh]
    rfl
  refine ⟨_, _, ?_, hgx, hgu, ?_⟩
  · refine bind_eq_ok.mpr ⟨lx, hlx, bind_eq_ok.mpr ⟨lu, hlu, ?_⟩⟩
    rw [hskip]
    rfl
  · intro d hd
    unfold stageCost
    simp only [residuals_none hnh, Vec.dot_nil_left, add_zero]
    linear_combination hstage d hd + hcharge d hd

/-- A displacement of the point displaces the next state, by what the transposed Jacobians know. -/
theorem next_shift (hP : s.problem.ExactGradients)
    (hz : z.Sized s.problem.dims.nx s.problem.dims.nu)
    (hd : d.Sized s.problem.dims.nx s.problem.dims.nu) :
    (s.next z).length = s.problem.dims.nx ∧
    ∃ shift : Vec Rat, shift.length = s.problem.dims.nx ∧
      (∀ r, s.next (z.along r d) = Vec.addScaled r shift (s.next z)) ∧
      ∀ w : Vec Rat, w.length = s.problem.dims.nx →
        Vec.dot w shift = Vec.dot w d.x + s.dt * (Vec.dot (s.problem.dynamicsDx z w) d.x +
          Vec.dot (s.problem.dynamicsDu z w) d.u) := by
  have hf := hP.dynamics.length_value z hz
  have hnext : ∀ z : Point Rat, z.Sized s.problem.dims.nx s.problem.dims.nu →
      s.next z = Vec.addScaled s.dt (s.problem.dynamics z) z.x := by
    intro z hz
    exact Vec.zipWith_eq_addScaled s.dt (hz.x.trans (hP.dynamics.length_value z hz).symm)
  obtain ⟨shift, hshift, hvalue, hdot⟩ := hP.dynamics.exists_shift hz hd
  refine ⟨by rw [hnext z hz, Vec.length_addScaled, hz.x], Vec.addScaled s.dt shift d.x,
    by rw [Vec.length_addScaled, hd.x], ?_, ?_⟩
  · intro r
    rw [hnext _ (hz.along r d), hnext z hz, hvalue]
    exact Vec.addScaled_addScaled s.dt r hz.x hd.x hf hshift
  · intro w hw
    rw [Vec.dot_addScaled w s.dt (hshift.trans hd.x.symm), hdot w hw]
    ring

/-- One step back, the adjoint takes up what the next one knows of the step, and the sample's own
gradients. -/
theorem adjoint_back (hP : s.problem.ExactGradients)
    (hz : z.Sized s.problem.dims.nx s.problem.dims.nu)
    (hd : d.Sized s.problem.dims.nx s.problem.dims.nu) {lambda lx : Vec Rat} (lu : Vec Rat)
    (hlambda : lambda.length = s.problem.dims.nx) (hlx : lx.length = s.problem.dims.nx) :
    Vec.dot (Vec.addScaled s.dt lx (Vec.addScaled s.dt (s.problem.dynamicsDx z lambda) lambda)) d.x +
        Vec.dot (Vec.addScaled s.dt (s.problem.dynamicsDu z lambda)
          (Vec.addScaled s.dt lu (Vec.zeros s.problem.dims.nu))) d.u =
      Vec.dot lambda d.x + s.dt * (Vec.dot (s.problem.dynamicsDx z lambda) d.x +
        Vec.dot (s.problem.dynamicsDu z lambda) d.u) + s.dt * (Vec.dot lx d.x + Vec.dot lu d.u) := by
  have hfx := hP.dynamics.length_dx z lambda hz hlambda
  have hfu := hP.dynamics.length_du z lambda hz hlambda
  have hfront : Vec.dot (Vec.addScaled s.dt lx
      (Vec.addScaled s.dt (s.problem.dynamicsDx z lambda) lambda)) d.x = s.dt * Vec.dot lx d.x +
        (s.dt * Vec.dot (s.problem.dynamicsDx z lambda) d.x + Vec.dot lambda d.x) := by
    rw [Vec.addScaled_dot _ _ (by simp [hlx, hlambda]), Vec.addScaled_dot _ _ (hfx.trans hlambda.symm)]
  have hcontrol : Vec.dot (Vec.addScaled s.dt (s.problem.dynamicsDu z lambda)
      (Vec.addScaled s.dt lu (Vec.zeros s.problem.dims.nu))) d.u =
        s.dt * Vec.dot (s.problem.dynamicsDu z lambda) d.u + s.dt * Vec.dot lu d.u := by
    rw [Vec.addScaled_dot _ _ (by simp [hfu]), Vec.dot_addScaled_zeros hd.u]
  rw [hfront, hcontrol]
  ring

/-- Controls moved along a direction, sample by sample. -/
def alongControls (u : List (Vec Rat)) (r : Rat) (d : List (Vec Rat)) : List (Vec Rat) :=
  List.zipWith (Vec.addScaled r) d u

/-- At the last sample, the adjoint starts from the terminal gradient. -/
theorem adjoint_last (hP : s.problem.ExactGradients) (hnh : s.problem.dims.nh = 0) {t : Rat}
    {x v e c : Vec Rat} (hz : (⟨t, x, v⟩ : Point Rat).Sized s.problem.dims.nx s.problem.dims.nu)
    (hzd : (⟨t, e, c⟩ : Point Rat).Sized s.problem.dims.nx s.problem.dims.nu) :
    ∃ lambda grad, s.adjoint (s.rollout x [(t, v)]) = .ok (lambda, [grad]) ∧
      lambda.length = s.problem.dims.nx ∧ grad.length = s.problem.dims.nu ∧
      s.total (s.rollout (Vec.addScaled 1 e x) [(t, Vec.addScaled 1 c v)]) -
          s.total (s.rollout (Vec.addScaled (-1) e x) [(t, Vec.addScaled (-1) c v)]) =
        2 * (Vec.dot lambda e + Vec.dot grad c) := by
  obtain ⟨lx, lu, hgradient, hlx, hlu, hstage⟩ := stageGradient_shift hP hnh hz
  obtain ⟨vx, hvx, hlength, hterminal⟩ := hP.terminal t x hz.x
  have hstage := hstage _ hzd
  have hterminal := hterminal e hzd.x
  have htotal : ∀ r, s.total (s.rollout (Vec.addScaled r e x) [(t, Vec.addScaled r c v)]) =
      s.dt * s.stageCost ((⟨t, x, v⟩ : Point Rat).along r ⟨t, e, c⟩) +
        s.problem.terminalCost t (Vec.addScaled r e x) := fun _ => rfl
  refine ⟨Vec.addScaled s.dt lx vx, Vec.addScaled s.dt lu (Vec.zeros s.problem.dims.nu), ?_, ?_, ?_, ?_⟩
  · exact bind_eq_ok.mpr ⟨vx, hvx, bind_eq_ok.mpr ⟨(lx, lu), hgradient, rfl⟩⟩
  · rw [Vec.length_addScaled, hlength]
  · rw [Vec.length_addScaled, Vec.length_zeros]
  · rw [Vec.dot_addScaled_zeros hzd.u, Vec.addScaled_dot _ _ (hlx.trans hlength.symm), htotal, htotal]
    linear_combination s.dt * hstage + hterminal

/-- At the front, the adjoint knows what a displacement of the state costs, and the gradients what a
displacement of the controls does. -/
theorem adjoint_shift (hP : s.problem.ExactGradients) (hnh : s.problem.dims.nh = 0) {ts : List Rat}
    (hts : ts ≠ []) {u d : List (Vec Rat)} (hu : u.length = ts.length) (hd : d.length = ts.length)
    (hus : ∀ v ∈ u, v.length = s.problem.dims.nu) (hds : ∀ v ∈ d, v.length = s.problem.dims.nu)
    {x e : Vec Rat} (hx : x.length = s.problem.dims.nx) (he : e.length = s.problem.dims.nx) :
    ∃ lambda grads, s.adjoint (s.rollout x (ts.zip u)) = .ok (lambda, grads) ∧
      lambda.length = s.problem.dims.nx ∧
      List.Forall₂ (fun (g v : Vec Rat) => g.length = v.length) grads d ∧
      s.total (s.rollout (Vec.addScaled 1 e x) (ts.zip (alongControls u 1 d))) -
          s.total (s.rollout (Vec.addScaled (-1) e x) (ts.zip (alongControls u (-1) d))) =
        2 * (Vec.dot lambda e + Vec.dot grads.flatten d.flatten) := by
  induction ts generalizing u d x e with
  | nil => simp at hts
  | cons t ts ih =>
    obtain ⟨v, u, rfl⟩ := List.exists_cons_of_length_eq_add_one hu
    obtain ⟨c, d, rfl⟩ := List.exists_cons_of_length_eq_add_one hd
    have hz : (⟨t, x, v⟩ : Point Rat).Sized s.problem.dims.nx s.problem.dims.nu :=
      ⟨hx, hus v List.mem_cons_self⟩
    have hzd : (⟨t, e, c⟩ : Point Rat).Sized s.problem.dims.nx s.problem.dims.nu :=
      ⟨he, hds c List.mem_cons_self⟩
    cases ts with
    | nil =>
      obtain rfl : u = [] := by simpa using hu
      obtain rfl : d = [] := by simpa using hd
      obtain ⟨lambda, grad, hadjoint, hlambda, hgrad, hmoves⟩ := adjoint_last hP hnh hz hzd
      refine ⟨lambda, [grad], hadjoint, hlambda, .cons (hgrad.trans hzd.u.symm) .nil, ?_⟩
      rw [List.flatten_singleton, List.flatten_singleton]
      exact hmoves
    | cons t' ts =>
      obtain ⟨lx, lu, hgradient, hlx, hlu, hstage⟩ := stageGradient_shift hP hnh hz
      have hstage := hstage _ hzd
      obtain ⟨hnext, shift, hshift, hvalue, hdot⟩ := next_shift hP hz hzd
      obtain ⟨lambda, grads, hadjoint, hlambda, hlengths, hrest⟩ := ih (by simp) (Nat.succ.inj hu)
        (Nat.succ.inj hd) (fun v hv => hus v (List.mem_cons_of_mem _ hv))
        (fun v hv => hds v (List.mem_cons_of_mem _ hv)) hnext hshift
      have hmoves := hdot lambda hlambda
      obtain ⟨v', u, rfl⟩ := List.exists_cons_of_length_eq_add_one (Nat.succ.inj hu)
      obtain ⟨c', d, rfl⟩ := List.exists_cons_of_length_eq_add_one (Nat.succ.inj hd)
      have hfx := hP.dynamics.length_dx _ lambda hz hlambda
      have hfu := hP.dynamics.length_du _ lambda hz hlambda
      have htotal : ∀ r, s.total (s.rollout (Vec.addScaled r e x)
          ((t :: t' :: ts).zip (alongControls (v :: v' :: u) r (c :: c' :: d)))) =
          s.dt * s.stageCost ((⟨t, x, v⟩ : Point Rat).along r ⟨t, e, c⟩) +
            s.total (s.rollout (Vec.addScaled r shift (s.next ⟨t, x, v⟩))
              ((t' :: ts).zip (alongControls (v' :: u) r (c' :: d)))) := by
        intro r
        rw [← hvalue]
        rfl
      refine ⟨_, _, bind_eq_ok.mpr ⟨(lambda, grads), hadjoint, bind_eq_ok.mpr ⟨(lx, lu), hgradient, rfl⟩⟩,
        ?_, ?_, ?_⟩
      · simp [hlambda]
      · exact .cons (by simp [hzd.u]) hlengths
      · have hback := adjoint_back hP hz hzd lu hlambda hlx
        rw [htotal, htotal, List.flatten_cons, List.flatten_cons (l := c),
          Vec.dot_append (by simp [hzd.u])]
        linear_combination s.dt * hstage + hrest + 2 * hmoves - 2 * hback

/-- Along every direction of the controls, the cost moves by twice what the gradient makes of it. -/
theorem gradient_adjoint (hP : s.problem.ExactGradients) (hnh : s.problem.dims.nh = 0)
    (ht : s.t ≠ []) {x0 : Vec Rat} (hx0 : x0.length = s.problem.dims.nx) {u d : List (Vec Rat)}
    (hu : u.length = s.t.length) (hd : d.length = s.t.length)
    (hus : ∀ v ∈ u, v.length = s.problem.dims.nu) (hds : ∀ v ∈ d, v.length = s.problem.dims.nu) :
    ∃ here plus minus grad, Gradient.evaluate s x0 u = .ok here ∧
      Gradient.evaluate s x0 (alongControls u 1 d) = .ok plus ∧
      Gradient.evaluate s x0 (alongControls u (-1) d) = .ok minus ∧
      s.gradient here.x u = .ok (.ok grad) ∧
      List.Forall₂ (fun (g v : Vec Rat) => g.length = v.length) grad d ∧
      plus.cost - minus.cost = 2 * Vec.dot grad.flatten d.flatten := by
  have hzeros : ∀ r, Vec.addScaled r (Vec.zeros s.problem.dims.nx) x0 = x0 := by
    intro r
    rw [Vec.addScaled_eq_add, show (Vec.zeros s.problem.dims.nx : Vec Rat).map (r * ·) =
      Vec.zeros s.problem.dims.nx by simp [Vec.zeros], Vec.add_zeros]
  obtain ⟨lambda, grads, hadjoint, -, hlengths, hlaw⟩ :=
    adjoint_shift hP hnh ht hu hd hus hds hx0 (Vec.length_zeros s.problem.dims.nx)
  refine ⟨_, _, _, grads, s.evaluate_eq x0 u, s.evaluate_eq x0 _, s.evaluate_eq x0 _, ?_, hlengths, ?_⟩
  · unfold gradient
    rw [s.points_eq]
    refine bind_eq_ok.mpr ⟨(lambda, grads), hadjoint, ?_⟩
    dsimp only
    rw [if_pos (List.all_eq_true.mpr fun g _ => finite_eq_true g)]
    rfl
  · rw [hzeros, hzeros, Vec.dot_zeros, zero_add] at hlaw
    exact hlaw

end Shooting

/-- An agent by itself, held to linear equalities. -/
def LinearAgent.held (m g : LinearAgent Rat) (target : Target Rat) : Problem Rat where
  dims := ⟨m.nx, m.nu, g.nx, 0⟩
  dynamics z := m.dynamics.value z (Vec.zeros m.nx)
  dynamicsDx z w := m.dynamics.dx z w (Vec.zeros m.nx)
  dynamicsDu z w := m.dynamics.du z w (Vec.zeros m.nu)
  stageCost z := m.toModel.stageCost z target
  stageCostDx z := .ok (m.toModel.stageCostDx z target (Vec.zeros m.nx))
  stageCostDu z := .ok (m.toModel.stageCostDu z target (Vec.zeros m.nu))
  terminalCost t x := m.toModel.terminalCost t x target.x
  terminalCostDx t x := .ok (m.toModel.terminalCostDx t x target.x (Vec.zeros m.nx))
  constraints kind z :=
    match kind with
    | .equality => g.dynamics.value z (Vec.zeros g.nx)
    | .inequality => []
  constraintsDx _ z w := g.dynamics.dx z w (Vec.zeros m.nx)
  constraintsDu _ z w := g.dynamics.du z w (Vec.zeros m.nu)

theorem LinearAgent.held_exactGradients (m g : LinearAgent Rat) {target : Target Rat}
    (hx : target.x.length = m.nx) (hu : target.u.length = m.nu) : (m.held g target).ExactGradients where
  dynamics := (m.affine m.nx m.nu m.nx).fromZeros
  equality := (g.affine m.nx m.nu g.nx).fromZeros
  stage z hz := ⟨_, _, rfl, rfl, m.costsAdjoint.length_dx z target hz,
    m.costsAdjoint.length_du z target hz, fun d hd => m.costsAdjoint.stage z d target hz hd hx hu⟩
  terminal t x hlength := ⟨_, rfl, m.costsAdjoint.length_terminal t x target.x hlength,
    fun d hd => m.costsAdjoint.terminal t x d target.x hlength hd hx⟩

namespace Shooting

/-- A mass on a track, with a weight on what it is held to. -/
def track : Shooting Rat where
  problem :=
    let mass : LinearAgent Rat :=
      ⟨"mass", 2, 1, ⟨[[0, 1], [0, 0]]⟩, ⟨[[0], [1]]⟩, [1, 2], [3], [4, 5], none⟩
    let rule : LinearAgent Rat := ⟨"rule", 1, 1, ⟨[[1, 1]]⟩, ⟨[[2]]⟩, [], [], [], none⟩
    mass.held rule ⟨[1, 0], [0]⟩
  t := [0, 1 / 2, 1]
  dt := 1 / 2
  penalty := 3

theorem track_gradient_adjoint :
    let u : List (Vec Rat) := [[1], [2], [-1]]
    let d : List (Vec Rat) := [[1], [0], [2]]
    (track.problem.ExactGradients ∧ track.problem.dims.nh = 0 ∧ track.t ≠ [] ∧
      (∀ v ∈ u, v.length = track.problem.dims.nu) ∧ ∀ v ∈ d, v.length = track.problem.dims.nu) ∧
    ∃ here plus minus grad, Gradient.evaluate track [1, -1] u = .ok here ∧
      Gradient.evaluate track [1, -1] (alongControls u 1 d) = .ok plus ∧ plus.cost = 465 / 8 ∧
      Gradient.evaluate track [1, -1] (alongControls u (-1) d) = .ok minus ∧ minus.cost = 997 / 16 ∧
      track.gradient here.x u = .ok (.ok grad) ∧ Vec.dot grad.flatten d.flatten = -67 / 32 := by
  intro u d
  have hexact : track.problem.ExactGradients := LinearAgent.held_exactGradients _ _ rfl rfl
  have hu : ∀ v ∈ u, v.length = track.problem.dims.nu := by decide
  have hd : ∀ v ∈ d, v.length = track.problem.dims.nu := by decide
  have ht : track.t ≠ [] := List.cons_ne_nil _ _
  have hx : ([1, -1] : Vec Rat).length = track.problem.dims.nx := rfl
  have hcosts : ((Gradient.evaluate track [1, -1] (alongControls u 1 d)).toOption.map (·.cost) =
        some (465 / 8)) ∧
      ((Gradient.evaluate track [1, -1] (alongControls u (-1) d)).toOption.map (·.cost) =
        some (997 / 16)) := by
    decide +kernel
  obtain ⟨here, plus, minus, grad, hhere, hplus, hminus, hgrad, -, hlaw⟩ :=
    gradient_adjoint (s := track) hexact rfl ht hx (u := u) (d := d) rfl rfl hu hd
  rw [hplus, hminus] at hcosts
  have hpluscost : plus.cost = 465 / 8 := Option.some.inj hcosts.1
  have hminuscost : minus.cost = 997 / 16 := Option.some.inj hcosts.2
  refine ⟨⟨hexact, rfl, ht, hu, hd⟩, here, plus, minus, grad, hhere, hplus, hpluscost, hminus,
    hminuscost, hgrad, ?_⟩
  rw [hpluscost, hminuscost] at hlaw
  linear_combination -hlaw / 2

end Shooting

end ConsensusControl
