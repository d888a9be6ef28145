import Mathlib.Algebra.Order.Group.Abs
import Mathlib.Algebra.Order.Ring.Rat
import ConsensusControl.Proofs.Consensus.Updates

namespace ConsensusControl

/-- A running maximum that starts as a number stays one. Its bounds are those of all the numbers that it
was taken over, and of these alone. -/
structure Scalar.Numbers {α : Type} [Scalar α] (number : α → Prop) : Prop where
  zero : number 0
  max : ∀ {r : α} (s : α), number r → number (Scalar.max r s)
  max_le_iff : ∀ {r s b : α}, number r → (Scalar.max r s ≤ b ↔ r ≤ b ∧ (number s → s ≤ b))

variable {α : Type} [Scalar α] {number : α → Prop}

namespace Vec

theorem foldl_max_le_iff (h : Scalar.Numbers number) (xs : Vec α) {acc : α} (hacc : number acc) :
    number (xs.foldl (fun acc x => Scalar.max acc (Scalar.abs x)) acc) ∧
      ∀ b, xs.foldl (fun acc x => Scalar.max acc (Scalar.abs x)) acc ≤ b ↔
        acc ≤ b ∧ ∀ x ∈ xs, number (Scalar.abs x) → Scalar.abs x ≤ b := by
  induction xs generalizing acc with
  | nil => exact ⟨hacc, by simp⟩
  | cons x xs ih =>
    obtain ⟨hnumber, hiff⟩ := ih (h.max (Scalar.abs x) hacc)
    refine ⟨hnumber, fun b => ?_⟩
    rw [List.foldl_cons, hiff, h.max_le_iff hacc, List.forall_mem_cons, and_assoc]

theorem number_normInf (h : Scalar.Numbers number) (xs : Vec α) : number (normInf xs) :=
  (foldl_max_le_iff h xs h.zero).1

theorem normInf_le_iff (h : Scalar.Numbers number) {xs : Vec α} {b : α} :
    normInf xs ≤ b ↔ 0 ≤ b ∧ ∀ x ∈ xs, number (Scalar.abs x) → Scalar.abs x ≤ b :=
  (foldl_max_le_iff h xs h.zero).2 b

theorem maxChange_eq (new old : Vec α) : maxChange new old = normInf (consensusResidual new old) := by
  rw [maxChange, normInf, consensusResidual, ← List.map_uncurry_zip_eq_zipWith, List.foldl_map]
  rfl

end Vec

/-- The first `n` entries lie at most `bound` apart, where their distance is a number. -/
structure Close (number : α → Prop) (bound : α) (n : Nat) (z own : Vec α) : Prop where
  nonneg : 0 ≤ bound
  left : n ≤ z.length
  right : n ≤ own.length
  entries : ∀ k x y, k < n → z[k]? = some x → own[k]? = some y →
    number (Scalar.abs (x - y)) → Scalar.abs (x - y) ≤ bound

theorem normInf_residual_le_iff (h : Scalar.Numbers number) {n : Nat} {z own : Vec α} {b : α}
    (hz : n ≤ z.length) (hown : n ≤ own.length) :
    Vec.normInf ((consensusResidual z own).take n) ≤ b ↔ Close number b n z own := by
  rw [Vec.normInf_le_iff h]
  constructor
  · intro hall
    obtain ⟨hnonneg, hall⟩ := hall
    refine ⟨hnonneg, hz, hown, fun k x y hk hx hy => hall _ (List.mem_iff_getElem?.mpr ⟨k, ?_⟩)⟩
    rw [List.getElem?_take, if_pos hk, consensusResidual, List.getElem?_zipWith, hx, hy]
  · intro hclose
    refine ⟨hclose.nonneg, fun d hd => ?_⟩
    obtain ⟨k, hk⟩ := List.mem_iff_getElem?.mp hd
    have hkn : k < n := by
      obtain ⟨hlt, -⟩ := List.getElem?_eq_some_iff.mp hk
      exact Nat.lt_of_lt_of_le hlt (List.length_take_le _ _)
    rw [List.getElem?_take, if_pos hkn, consensusResidual, List.getElem?_zipWith_eq_some] at hk
    obtain ⟨x, y, hx, hy, rfl⟩ := hk
    exact hclose.entries k x y hkn hx hy

theorem dualAscent_le_iff (h : Scalar.Numbers number) {mu rho z own mu' : Vec α} {r : α}
    (hascent : dualAscent mu rho z own = .ok (mu', r)) :
    number r ∧ ∀ b, r ≤ b ↔ Close number b mu.length z own := by
  obtain ⟨⟨-, hz, hown⟩, -, rfl⟩ := dualAscent_eq_ok hascent
  exact ⟨Vec.number_normInf h _, fun b => normInf_residual_le_iff h hz hown⟩

/-- The consensus violations of what an agent holds of a neighbor are at most `bound`. -/
structure Neighbor.Measured (number : α → Prop) (bound : α) (nb : Neighbor α) : Prop where
  influence : nb.approximated = true →
    Close number bound nb.influenceMultiplier.v.length nb.influenceCoupling.v nb.localInfluence
  copiedInfluence :
    Close number bound nb.copyMultiplier.v.length nb.externalInfluence.v nb.localCopy.v
  copiedControl : Close number bound nb.copyMultiplier.u.length nb.couplingState.u nb.localCopy.u

theorem Neighbor.updateMultipliers_le_iff (h : Scalar.Numbers number) {nb nb' : Neighbor α}
    {p p' : α} (hp : number p) (hupdated : nb.updateMultipliers p = .ok (nb', p')) :
    number p' ∧ ∀ b, p' ≤ b ↔ p ≤ b ∧ nb.Measured number b := by
  obtain ⟨influence, q, copy, hinfluence, hcopy, -⟩ := updateMultipliers_eq_ok hupdated
  obtain ⟨v, rv, u, ru, hv, hu, -, rfl⟩ := raiseCopy_eq_ok hcopy
  obtain ⟨hrv, hv⟩ := dualAscent_le_iff h hv
  obtain ⟨hru, hu⟩ := dualAscent_le_iff h hu
  have hfirst : number q ∧ ∀ b, q ≤ b ↔ p ≤ b ∧ (nb.approximated = true →
      Close number b nb.influenceMultiplier.v.length nb.influenceCoupling.v nb.localInfluence) := by
    rcases raiseInfluence_eq_ok hinfluence with ⟨happrox, w, r, hw, -, rfl⟩ | ⟨happrox, -, rfl⟩
    · obtain ⟨hr, hw⟩ := dualAscent_le_iff h hw
      refine ⟨h.max r hp, fun b => ?_⟩
      rw [h.max_le_iff hp, imp_iff_right hr, hw, imp_iff_right happrox]
    · exact ⟨hp, by simp [happrox]⟩
  obtain ⟨hq, hinfluences⟩ := hfirst
  have hqv := h.max rv hq
  refine ⟨h.max ru hqv, fun b => ?_⟩
  rw [h.max_le_iff hqv, h.max_le_iff hq, imp_iff_right hrv, imp_iff_right hru, hinfluences, hv, hu]
  constructor
  · rintro ⟨⟨⟨hpb, hw⟩, hv⟩, hu⟩
    exact ⟨hpb, hw, hv, hu⟩
  · rintro ⟨hpb, hw, hv, hu⟩
    exact ⟨⟨⟨hpb, hw⟩, hv⟩, hu⟩

namespace Controller

theorem updateNeighborMultipliers_le_iff (h : Scalar.Numbers number) {nbs nbs' : List (Neighbor α)}
    {p p' : α} (hp : number p) (hupdated : updateNeighborMultipliers p nbs = .ok (nbs', p')) (b : α) :
    p' ≤ b ↔ p ≤ b ∧ ∀ nb ∈ nbs, nb.Measured number b := by
  induction nbs generalizing p nbs' with
  | nil =>
    simp only [updateNeighborMultipliers, Except.ok.injEq, Prod.mk.injEq] at hupdated
    obtain ⟨-, rfl⟩ := hupdated
    simp
  | cons nb nbs ih =>
    simp only [updateNeighborMultipliers] at hupdated
    obtain ⟨⟨updated, q⟩, hfirst, hupdated⟩ := bind_eq_ok.mp hupdated
    obtain ⟨⟨rest, q'⟩, hrest, hupdated⟩ := bind_eq_ok.mp hupdated
    simp only [pure, Except.pure, Except.ok.injEq, Prod.mk.injEq] at hupdated
    obtain ⟨-, rfl⟩ := hupdated
    obtain ⟨hq, hmeasured⟩ := Neighbor.updateMultipliers_le_iff h hp hfirst
    rw [ih hq hrest, hmeasured, List.forall_mem_cons, and_assoc]

/-- The bounds of the primal residual are those of all violations of what the agent holds. -/
theorem raising_le_iff (h : Scalar.Numbers number) {c c' : Controller α}
    (hraised : c.updateMultiplierStates = .ok c') :
    ∃ primal, c'.residuals.primal = some primal ∧ ∀ b, primal ≤ b ↔
      Close number b c.agent.multiplierState.u.length c.agent.couplingState.u c.agent.agentState.u ∧
        ∀ nb ∈ c.agent.neighbors, nb.Measured number b := by
  obtain ⟨u, r, neighbors, primal, hu, hneighbors, rfl⟩ := updateMultiplierStates_eq_ok hraised
  obtain ⟨hr, hclose⟩ := dualAscent_le_iff h hu
  refine ⟨primal, rfl, fun b => ?_⟩
  rw [updateNeighborMultipliers_le_iff h hr hneighbors, hclose]

end Controller

/-- A vector has its old length, and its entries have changed by at most `bound`. -/
structure Changed (number : α → Prop) (bound : α) (new old : Vec α) : Prop where
  length : new.length = old.length
  close : Close number bound new.length new old

theorem maxChange_le_iff (h : Scalar.Numbers number) {new old : Vec α}
    (hlength : new.length = old.length) :
    number (Vec.maxChange new old) ∧ ∀ b, Vec.maxChange new old ≤ b ↔ Changed number b new old := by
  have hall : (consensusResidual new old).length ≤ new.length := by
    rw [consensusResidual, List.length_zipWith]
    exact Nat.min_le_left _ _
  have hiff := fun b => normInf_residual_le_iff h (b := b) (Nat.le_refl new.length)
    (Nat.le_of_eq hlength)
  rw [List.take_of_length_le hall] at hiff
  rw [Vec.maxChange_eq]
  refine ⟨Vec.number_normInf h _, fun b => ?_⟩
  exact ⟨fun hle => ⟨hlength, (hiff b).mp hle⟩, fun hchanged => (hiff b).mpr hchanged.close⟩

namespace Controller

theorem updateInfluences_le_iff (h : Scalar.Numbers number) {nbs nbs' : List (Neighbor α)}
    {previous previous' : List (CouplingState α)} {dual dual' : α} (hdual : number dual)
    (hl : previous.length = nbs.length)
    (hupdated : updateInfluences dual nbs previous = .ok (nbs', previous', dual')) (b : α) :
    dual' ≤ b ↔ dual ≤ b ∧
      List.Forall₂ (fun new old : CouplingState α => Changed number b new.v old.v)
        (nbs'.map (·.influenceCoupling)) (nbs.map (·.influenceCoupling)) := by
  induction nbs generalizing dual previous nbs' previous' with
  | nil =>
    obtain rfl : previous = [] := by simpa using hl
    simp only [updateInfluences, Except.ok.injEq, Prod.mk.injEq] at hupdated
    obtain ⟨rfl, rfl, rfl⟩ := hupdated
    simp
  | cons nb nbs ih =>
    cases previous with
    | nil => simp at hl
    | cons old previous =>
      simp only [updateInfluences] at hupdated
      obtain ⟨updated, hfirst, hupdated⟩ := bind_eq_ok.mp hupdated
      obtain ⟨⟨rest, olds, d⟩, hrest, hupdated⟩ := bind_eq_ok.mp hupdated
      simp only [pure, Except.pure, Except.ok.injEq, Prod.mk.injEq] at hupdated
      obtain ⟨rfl, rfl, rfl⟩ := hupdated
      obtain ⟨v, hv, rfl⟩ := Neighbor.updateInfluence_eq_ok hfirst
      obtain ⟨hchange, hchanged⟩ := maxChange_le_iff h (length_weightedConsensus hv)
      rw [ih (h.max _ hdual) (by simpa using hl) hrest, h.max_le_iff hdual, imp_iff_right hchange,
        hchanged, List.map_cons, List.map_cons, List.forall₂_cons, and_assoc]

/-- The bounds of the dual residual are those of all changes of what the agent decides. -/
theorem coupling_le_iff (h : Scalar.Numbers number) {c c' : Controller α}
    (hl : c.previousInfluences.length = c.agent.neighbors.length)
    (hcoupled : c.updateCouplingStates = .ok c') :
    ∃ dual, c'.residuals.dual = some dual ∧ ∀ b, dual ≤ b ↔
      Changed number b c'.agent.couplingState.u c.agent.couplingState.u ∧
        List.Forall₂ (fun new old => Changed number b new.v old.v) c'.agent.influenceCouplings
          c.agent.influenceCouplings := by
  obtain ⟨u, neighbors, previousInfluences, dual, hu, hinfluences, rfl⟩ :=
    updateCouplingStates_eq_ok hcoupled
  obtain ⟨hchange, hchanged⟩ := maxChange_le_iff h (length_weightedConsensus hu)
  refine ⟨dual, rfl, fun b => ?_⟩
  rw [updateInfluences_le_iff h hchange hl hinfluences, hchanged]
  rfl

end Controller

theorem scalar_abs (x : Rat) : Scalar.abs x = |x| := by
  change Rat.abs x = |x|
  unfold Rat.abs
  split
  · next h => exact (abs_of_nonneg h).symm
  · next h => exact (abs_of_neg (not_le.mp h)).symm

theorem scalar_max (a b : Rat) : Scalar.max a b = max a b := by
  unfold Scalar.max
  split
  · next h => exact (max_eq_right (le_of_lt h)).symm
  · next h => simp [max_eq_left (not_lt.mp h)]

theorem numbers_rat : Scalar.Numbers fun _ : Rat => True where
  zero := trivial
  max _ _ := trivial
  max_le_iff _ := by
    rw [scalar_max, imp_iff_right trivial]
    exact max_le_iff

/-- The first `n` entries lie at most `bound` apart. -/
structure Near (bound : Rat) (n : Nat) (z own : Vec Rat) : Prop where
  left : n ≤ z.length
  right : n ≤ own.length
  close : ∀ k, k < n → |z.getD k 0 - own.getD k 0| ≤ bound

theorem near_of_close {bound : Rat} {n : Nat} {z own : Vec Rat}
    (h : Close (fun _ => True) bound n z own) : Near bound n z own := by
  refine ⟨h.left, h.right, fun k hk => ?_⟩
  have hkz : k < z.length := Nat.lt_of_lt_of_le hk h.left
  have hkown : k < own.length := Nat.lt_of_lt_of_le hk h.right
  have hz : z[k]? = some z[k] := List.getElem?_eq_getElem hkz
  have hown : own[k]? = some own[k] := List.getElem?_eq_getElem hkown
  have hle := h.entries k _ _ hk hz hown trivial
  rw [scalar_abs] at hle
  rwa [List.getD_eq_getElem?_getD, List.getD_eq_getElem?_getD, hz, hown]

/-- The consensus violations of what an agent holds of a neighbor are at most `bound`. -/
structure Neighbor.Within (bound : Rat) (nb : Neighbor Rat) : Prop where
  influence : nb.approximated = true →
    Near bound nb.influenceMultiplier.v.length nb.influenceCoupling.v nb.localInfluence
  copiedInfluence : Near bound nb.copyMultiplier.v.length nb.externalInfluence.v nb.localCopy.v
  copiedControl : Near bound nb.copyMultiplier.u.length nb.couplingState.u nb.localCopy.u

namespace Controller

theorem within_raising {c c' : Controller Rat} (h : c.updateMultiplierStates = .ok c') :
    ∃ primal, c'.residuals.primal = some primal ∧
      Near primal c.agent.multiplierState.u.length c.agent.couplingState.u c.agent.agentState.u ∧
      ∀ nb ∈ c.agent.neighbors, nb.Within primal := by
  obtain ⟨primal, hprimal, hiff⟩ := raising_le_iff numbers_rat h
  obtain ⟨hown, hall⟩ := (hiff primal).mp (le_refl primal)
  refine ⟨primal, hprimal, near_of_close hown, fun nb hnb => ?_⟩
  have hmeasured := hall nb hnb
  exact ⟨fun happrox => near_of_close (hmeasured.influence happrox),
    near_of_close hmeasured.copiedInfluence, near_of_close hmeasured.copiedControl⟩

/-- Whoever has converged has measured a primal residual within tolerance. -/
theorem primal_of_isConverged {c : Controller Rat} (h : c.isConverged = true) :
    ∃ primal, c.residuals.primal = some primal ∧ primal ≤ c.options.primalTolerance := by
  simp only [isConverged, Bool.and_eq_true] at h
  obtain ⟨⟨-, hprimal⟩, -⟩ := h
  unfold Residuals.within at hprimal
  split at hprimal
  · next r hr => exact ⟨r, hr, of_decide_eq_true hprimal⟩
  · simp [Scalar.isFinite] at hprimal

end Controller

end ConsensusControl
