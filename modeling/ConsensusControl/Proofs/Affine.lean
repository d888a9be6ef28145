import Mathlib.Tactic.LinearCombination
import Mathlib.Tactic.Ring
import ConsensusControl.Problem.Cost
import ConsensusControl.Proofs.Adjoint

namespace ConsensusControl

theorem Scalar.two_eq : (Scalar.two : Rat) = 2 := by decide +kernel

theorem Scalar.half_eq : (Scalar.half : Rat) = 1 / 2 := by decide +kernel

namespace Vec

@[simp] theorem zeros_dot (n : Nat) (w : Vec Rat) : dot (zeros n) w = 0 := by
  rw [dot_comm, dot_zeros]

theorem dot_addScaled (w : Vec Rat) (s : Rat) {d x : Vec Rat} (h : d.length = x.length) :
    dot w (addScaled s d x) = s * dot w d + dot w x := by
  rw [addScaled_eq_add, dot_add w (by simpa using h), dot_map_mul]

/-- What every vector sees alike is the same. -/
theorem eq_of_dot {a b : Vec Rat} (h : a.length = b.length)
    (hdot : ∀ w : Vec Rat, w.length = a.length → dot w a = dot w b) : a = b := by
  induction a generalizing b with
  | nil => exact (List.length_eq_zero_iff.mp h.symm).symm
  | cons x a ih =>
    cases b with
    | nil => simp at h
    | cons y b =>
      have hhead : x = y := by simpa using hdot (1 :: zeros a.length) (by simp)
      have htail : a = b := ih (Nat.succ.inj h) fun w hw => by simpa using hdot (0 :: w) (by simp [hw])
      rw [hhead, htail]

theorem adds_addScaled (n : Nat) (s : Rat) (a : Vec Rat) : Adds n (addScaled s a) :=
  adds_mergeWith n _ a

theorem dot_addScaled_zeros {d : Vec Rat} {n : Nat} (hd : d.length = n) (s : Rat) (a : Vec Rat) :
    dot (addScaled s a (zeros n)) d = s * dot a d := by
  rw [dot_comm, addScaled_eq_add, dot_add_zeros hd, dot_map_mul, dot_comm]

end Vec

/-- The dimensions fit, and along every multiple of a direction the function moves as its transposed
Jacobians say. -/
structure AffineWith (nx nu n : Nat) (value : Point Rat → Vec Rat)
    (dx du : Point Rat → Vec Rat → Vec Rat) : Prop where
  length_value : ∀ z, z.Sized nx nu → (value z).length = n
  length_dx : ∀ z w, z.Sized nx nu → w.length = n → (dx z w).length = nx
  length_du : ∀ z w, z.Sized nx nu → w.length = n → (du z w).length = nu
  law : ∀ z d w s, z.Sized nx nu → d.Sized nx nu → w.length = n →
    Vec.dot w (Vec.sub (value (z.along s d)) (value z)) =
      s * (Vec.dot (dx z w) d.x + Vec.dot (du z w) d.u)

namespace AffineWith

variable {nx nu n : Nat} {value : Point Rat → Vec Rat} {dx du : Point Rat → Vec Rat → Vec Rat}
  {z d : Point Rat} {w : Vec Rat}

theorem moves (h : AffineWith nx nu n value dx du) (hz : z.Sized nx nu) (hd : d.Sized nx nu)
    (hw : w.length = n) (s : Rat) : Vec.dot w (value (z.along s d)) - Vec.dot w (value z) =
      s * (Vec.dot (dx z w) d.x + Vec.dot (du z w) d.u) := by
  have hlength := (h.length_value _ (hz.along s d)).trans (h.length_value z hz).symm
  rw [← Vec.dot_sub w hlength, h.law z d w s hz hd hw]

/-- The value moves along a direction of its own, which the transposed Jacobians know. -/
theorem exists_shift (h : AffineWith nx nu n value dx du) (hz : z.Sized nx nu) (hd : d.Sized nx nu) :
    ∃ shift : Vec Rat, shift.length = n ∧
      (∀ s, value (z.along s d) = Vec.addScaled s shift (value z)) ∧
      ∀ w : Vec Rat, w.length = n →
        Vec.dot w shift = Vec.dot (dx z w) d.x + Vec.dot (du z w) d.u := by
  have hzero := h.length_value z hz
  have hshift : (Vec.sub (value (z.along 1 d)) (value z)).length = n := by
    simp [Vec.sub, h.length_value _ (hz.along 1 d), hzero]
  have hdot : ∀ w : Vec Rat, w.length = n → Vec.dot w (Vec.sub (value (z.along 1 d)) (value z)) =
      Vec.dot (dx z w) d.x + Vec.dot (du z w) d.u := by
    intro w hw
    rw [h.law z d w 1 hz hd hw, one_mul]
  refine ⟨_, hshift, ?_, hdot⟩
  intro s
  have hvalue := h.length_value _ (hz.along s d)
  apply Vec.eq_of_dot
  · rw [hvalue, Vec.length_addScaled, hzero]
  · intro w hw
    have hw := hw.trans hvalue
    rw [Vec.dot_addScaled w s (hshift.trans hzero.symm), hdot w hw, ← h.moves hz hd hw s,
      sub_add_cancel]

end AffineWith

/-- The members add values that do not depend on what is there, and along every multiple of a direction
the function moves as its transposed Jacobians say. -/
structure AgentMap.Affine (nx nu n : Nat) (f : AgentMap Rat) : Prop where
  value : ∀ z, z.Sized nx nu → Vec.Adds n (f.value z)
  dx : ∀ z w, z.Sized nx nu → w.length = n → Vec.Adds nx (f.dx z w)
  du : ∀ z w, z.Sized nx nu → w.length = n → Vec.Adds nu (f.du z w)
  law : ∀ z d w s, z.Sized nx nu → d.Sized nx nu → w.length = n →
    Vec.dot w (Vec.sub (f.value (z.along s d) (Vec.zeros n)) (f.value z (Vec.zeros n))) =
      s * (Vec.dot (f.dx z w (Vec.zeros nx)) d.x + Vec.dot (f.du z w (Vec.zeros nu)) d.u)

/-- The members add values that do not depend on what is there, and along every multiple of a direction
of both sides at once the function moves as its transposed Jacobians say. -/
structure PairMap.Affine (nxi nui nxj nuj n : Nat) (f : PairMap Rat) : Prop where
  value : ∀ p, p.Sized nxi nui nxj nuj → Vec.Adds n (f.value p)
  dxi : ∀ p w, p.Sized nxi nui nxj nuj → w.length = n → Vec.Adds nxi (f.dxi p w)
  dui : ∀ p w, p.Sized nxi nui nxj nuj → w.length = n → Vec.Adds nui (f.dui p w)
  dxj : ∀ p w, p.Sized nxi nui nxj nuj → w.length = n → Vec.Adds nxj (f.dxj p w)
  duj : ∀ p w, p.Sized nxi nui nxj nuj → w.length = n → Vec.Adds nuj (f.duj p w)
  law : ∀ p d w s, p.Sized nxi nui nxj nuj → d.Sized nxi nui nxj nuj → w.length = n →
    Vec.dot w (Vec.sub (f.value (p.along s d) (Vec.zeros n)) (f.value p (Vec.zeros n))) =
      s * (Vec.dot (f.dxi p w (Vec.zeros nxi)) d.xi + Vec.dot (f.dui p w (Vec.zeros nui)) d.ui +
        Vec.dot (f.dxj p w (Vec.zeros nxj)) d.xj + Vec.dot (f.duj p w (Vec.zeros nuj)) d.uj)

/-- A block of the control as it is. -/
def AgentMap.control (v : Block) : AgentMap Rat where
  value z out := Vec.add (v.read z.u) out
  dx _ _ out := out
  du _ w out := v.update (Vec.add w) out

/-- The function of two parts of one point. -/
def PairMap.parts (xi ui xj uj : Block) (f : PairMap Rat) : AgentMap Rat where
  value z out := f.value (z.pair xi ui xj uj) out
  dx z w out :=
    let p := z.pair xi ui xj uj
    xj.update (f.dxj p w) (xi.update (f.dxi p w) out)
  du z w out :=
    let p := z.pair xi ui xj uj
    uj.update (f.duj p w) (ui.update (f.dui p w) out)

namespace AgentMap.Affine

variable {nx nu n : Nat} {f g : AgentMap Rat}

/-- From zeros, the members give the function and its transposed Jacobians. -/
theorem fromZeros (h : f.Affine nx nu n) :
    AffineWith nx nu n (f.value · (Vec.zeros n)) (f.dx · · (Vec.zeros nx)) (f.du · · (Vec.zeros nu)) where
  length_value z hz := (h.value z hz).length_zeros
  length_dx z w hz hw := (h.dx z w hz hw).length_zeros
  length_du z w hz hw := (h.du z w hz hw).length_zeros
  law := h.law

theorem adjoint (h : f.Affine nx nu n) : f.Adjoint nx nu n where
  value := h.value
  dx := h.dx
  du := h.du
  law z d w hz hd hw := by
    have hlength := fun s => (h.value _ (hz.along s d)).length_zeros
    rw [Vec.dot_sub w ((hlength 1).trans (hlength (-1)).symm)]
    linear_combination h.fromZeros.moves hz hd hw 1 - h.fromZeros.moves hz hd hw (-1)

theorem none (nx nu n : Nat) : AgentMap.none.Affine nx nu n where
  value _ _ := .same n
  dx _ _ _ _ := .same nx
  du _ _ _ _ := .same nu
  law z d w s _ _ _ := by
    dsimp only [AgentMap.none]
    rw [Vec.dot_sub w rfl]
    simp

theorem andThen (hf : f.Affine nx nu n) (hg : g.Affine nx nu n) : (f.andThen g).Affine nx nu n where
  value z hz := (hg.value z hz).comp (hf.value z hz)
  dx z w hz hw := (hg.dx z w hz hw).comp (hf.dx z w hz hw)
  du z w hz hw := (hg.du z w hz hw).comp (hf.du z w hz hw)
  law z d w s hz hd hw := by
    have hmoved := hz.along s d
    have hlength : ∀ z, z.Sized nx nu → (g.value z (f.value z (Vec.zeros n))).length = n := by
      intro z hz
      exact ((hg.value z hz).comp (hf.value z hz)).length_zeros
    dsimp only [AgentMap.andThen]
    rw [Vec.dot_sub w ((hlength _ hmoved).trans (hlength z hz).symm),
      (hg.value _ hmoved).dot_comp (hf.value _ hmoved), (hg.value z hz).dot_comp (hf.value z hz),
      (hg.dx z w hz hw).comp_dot (hf.dx z w hz hw), (hg.du z w hz hw).comp_dot (hf.du z w hz hw)]
    linear_combination hf.fromZeros.moves hz hd hw s + hg.fromZeros.moves hz hd hw s

theorem each {β : Type} {F : β → AgentMap Rat} {l : List β}
    (h : ∀ k ∈ l, (F k).Affine nx nu n) : (AgentMap.each F l).Affine nx nu n := by
  induction l with
  | nil => exact none nx nu n
  | cons k l ih =>
    exact (h k List.mem_cons_self).andThen (ih fun k' hk' => h k' (List.mem_cons_of_mem k hk'))

theorem control {v : Block} (hv : v.stop ≤ nu) : (AgentMap.control v).Affine nx nu v.size where
  value _ _ := Vec.adds_add _ _
  dx _ _ _ _ := .same nx
  du _ _ _ _ := Block.adds_update (Vec.adds_add _ _) hv
  law z d w s hz hd hw := by
    have hzu : (v.read z.u).length = v.size := Block.length_read_of_stop (hv.trans_eq hz.u.symm)
    have hdu : (v.read d.u).length = v.size := Block.length_read_of_stop (hv.trans_eq hd.u.symm)
    have hdual : Vec.dot (v.update (Vec.add w) (Vec.zeros nu)) d.u = Vec.dot w (v.read d.u) := by
      rw [Block.update_dot (Vec.adds_add _ _) hv hd.u, Vec.dot_comm, Vec.dot_add_zeros hdu, Vec.dot_comm]
    dsimp only [AgentMap.control, Point.along]
    rw [Vec.dot_sub w (by simp), Vec.dot_add_zeros hw, Vec.dot_add_zeros hw, hdual, Vec.zeros_dot,
      Block.read_addScaled, Vec.dot_addScaled w s (hdu.trans hzu.symm)]
    ring

end AgentMap.Affine

namespace PairMap.Affine

variable {f : PairMap Rat} {nxi nui nxj nuj n : Nat}

/-- Each side's part of the adjoint goes to where that side is read. -/
theorem parts {nx nu : Nat} {xi ui xj uj : Block}
    (h : f.Affine xi.size ui.size xj.size uj.size n) (hxi : xi.stop ≤ nx) (hui : ui.stop ≤ nu)
    (hxj : xj.stop ≤ nx) (huj : uj.stop ≤ nu) : (f.parts xi ui xj uj).Affine nx nu n := by
  have hpair : ∀ z : Point Rat, z.Sized nx nu →
      (z.pair xi ui xj uj).Sized xi.size ui.size xj.size uj.size := fun z hz => hz.pair hxi hui hxj huj
  have hdxi := fun z w hz hw => Block.adds_update (h.dxi _ w (hpair z hz) hw) hxi
  have hdui := fun z w hz hw => Block.adds_update (h.dui _ w (hpair z hz) hw) hui
  have hdxj := fun z w hz hw => Block.adds_update (h.dxj _ w (hpair z hz) hw) hxj
  have hduj := fun z w hz hw => Block.adds_update (h.duj _ w (hpair z hz) hw) huj
  constructor
  · intro z hz
    exact h.value _ (hpair z hz)
  · intro z w hz hw
    exact (hdxj z w hz hw).comp (hdxi z w hz hw)
  · intro z w hz hw
    exact (hduj z w hz hw).comp (hdui z w hz hw)
  · intro z d w s hz hd hw
    dsimp only [PairMap.parts]
    rw [Point.pair_along, h.law _ _ w s (hpair z hz) (hpair d hd) hw,
      (hdxj z w hz hw).comp_dot (hdxi z w hz hw), (hduj z w hz hw).comp_dot (hdui z w hz hw),
      Block.update_dot (h.dxi _ w (hpair z hz) hw) hxi hd.x,
      Block.update_dot (h.dui _ w (hpair z hz) hw) hui hd.u,
      Block.update_dot (h.dxj _ w (hpair z hz) hw) hxj hd.x,
      Block.update_dot (h.duj _ w (hpair z hz) hw) huj hd.u]
    dsimp only [Point.pair]
    ring

theorem adjoint (h : f.Affine nxi nui nxj nuj n) : f.Adjoint nxi nui nxj nuj n where
  value := h.value
  dxi := h.dxi
  dui := h.dui
  dxj := h.dxj
  duj := h.duj
  law p d w hp hd hw := by
    have hlength := fun s => (h.value _ (hp.along s d)).length_zeros
    have hmoves := fun s => h.law p d w s hp hd hw
    have hzero := (h.value p hp).length_zeros
    have hplus := hmoves 1
    have hminus := hmoves (-1)
    rw [Vec.dot_sub w ((hlength 1).trans hzero.symm)] at hplus
    rw [Vec.dot_sub w ((hlength (-1)).trans hzero.symm)] at hminus
    rw [Vec.dot_sub w ((hlength 1).trans (hlength (-1)).symm)]
    linear_combination hplus - hminus

end PairMap.Affine

theorem RowMatrix.dot_addMul_addScaled (m : RowMatrix Rat) {w x d : Vec Rat} {n k : Nat}
    (hw : w.length = n) (hx : x.length = k) (hd : d.length = k) (s : Rat) :
    Vec.dot w (m.addMul (Vec.addScaled s d x) (Vec.zeros n)) =
      s * Vec.dot (m.addMulTransposed w (Vec.zeros k)) d + Vec.dot w (m.addMul x (Vec.zeros n)) := by
  rw [dot_addMul m hw ((Vec.length_addScaled ..).trans hx), dot_addMul m hw hx,
    Vec.dot_addScaled _ s (hd.trans hx.symm)]

theorem LinearAgent.affine (m : LinearAgent Rat) (nx nu n : Nat) :
    m.dynamics.Affine nx nu n where
  value p _ := m.adds n p
  dx _ w _ _ := m.a.adds_addMulTransposed nx w
  du _ w _ _ := m.b.adds_addMulTransposed nu w
  law z d w s hz hd hw := by
    have hlength : ∀ p, (m.dynamics.value p (Vec.zeros n)).length = n := fun p =>
      (m.adds n p).length_zeros
    have hvalue : ∀ p, Vec.dot w (m.dynamics.value p (Vec.zeros n)) =
        Vec.dot w (m.b.addMul p.u (Vec.zeros n)) + Vec.dot w (m.a.addMul p.x (Vec.zeros n)) :=
      fun p => (m.b.adds_addMul n p.u).dot_comp (m.a.adds_addMul n p.x) w
    rw [Vec.dot_sub w ((hlength _).trans (hlength _).symm), hvalue, hvalue]
    dsimp only [Point.along, dynamics]
    rw [m.a.dot_addMul_addScaled hw hz.x hd.x, m.b.dot_addMul_addScaled hw hz.u hd.u]
    ring

theorem LinearCoupling.affine (m : LinearCoupling Rat) (nxi nui nxj nuj n : Nat) :
    m.toModel.dynamics.Affine nxi nui nxj nuj n where
  value p _ := m.adds n p
  dxi _ _ _ _ := .same nxi
  dui _ _ _ _ := .same nui
  dxj _ w _ _ := m.a.adds_addMulTransposed nxj w
  duj _ w _ _ := m.b.adds_addMulTransposed nuj w
  law p d w s hp hd hw := by
    have hlength := fun p => (m.adds n p).length_zeros
    have hvalue : ∀ p, Vec.dot w (m.toModel.dynamics.value p (Vec.zeros n)) =
        Vec.dot w (m.b.addMul p.uj (Vec.zeros n)) + Vec.dot w (m.a.addMul p.xj (Vec.zeros n)) :=
      fun p => (m.b.adds_addMul n p.uj).dot_comp (m.a.adds_addMul n p.xj) w
    rw [Vec.dot_sub w ((hlength _).trans (hlength _).symm), hvalue, hvalue]
    dsimp only [PairPoint.along, toModel]
    rw [m.a.dot_addMul_addScaled hw hp.xj hd.xj, m.b.dot_addMul_addScaled hw hp.uj hd.uj, Vec.zeros_dot,
      Vec.zeros_dot]
    ring

theorem LinearAgent.adjoint (m : LinearAgent Rat) (nx nu n : Nat) :
    m.toModel.dynamics.Adjoint nx nu n := (m.affine nx nu n).adjoint

theorem LinearCoupling.adjoint (m : LinearCoupling Rat) (nxi nui nxj nuj n : Nat) :
    m.toModel.dynamics.Adjoint nxi nui nxj nuj n := (m.affine nxi nui nxj nuj n).adjoint

/-- A cost of an agent's state and control with its gradients, each of which adds into its last
argument. -/
structure CostMap where
  value : Point Rat → Rat
  dx : Point Rat → Vec Rat → Vec Rat
  du : Point Rat → Vec Rat → Vec Rat

/-- The gradients add values that do not depend on what is there, and along every direction the cost
moves as they say. -/
structure CostMap.Adjoint (nx nu : Nat) (c : CostMap) : Prop where
  dx : ∀ z, z.Sized nx nu → Vec.Adds nx (c.dx z)
  du : ∀ z, z.Sized nx nu → Vec.Adds nu (c.du z)
  law : ∀ z d, z.Sized nx nu → d.Sized nx nu → c.value (z.along 1 d) - c.value (z.along (-1) d) =
    2 * (Vec.dot (c.dx z (Vec.zeros nx)) d.x + Vec.dot (c.du z (Vec.zeros nu)) d.u)

namespace CostMap

def none : CostMap := ⟨fun _ => 0, fun _ out => out, fun _ out => out⟩

/-- Both costs, the gradient of one added after that of the other. -/
def andThen (c e : CostMap) : CostMap where
  value z := c.value z + e.value z
  dx z out := e.dx z (c.dx z out)
  du z out := e.du z (c.du z out)

/-- One cost for each entry, added in order. -/
def each {β : Type} (F : β → CostMap) (l : List β) : CostMap where
  value z := (l.map fun k => (F k).value z).sum
  dx z out := l.foldl (fun out k => (F k).dx z out) out
  du z out := l.foldl (fun out k => (F k).du z out) out

/-- The cost of a part of the point. -/
def within (x u : Block) (c : CostMap) : CostMap where
  value z := c.value (z.part x u)
  dx z out := x.update (c.dx (z.part x u)) out
  du z out := u.update (c.du (z.part x u)) out

/-- A consensus term on the value of a function. -/
def charge (s : Rat → ConsensusSample Rat) (n : Nat) (f : AgentMap Rat) : CostMap where
  value z := (s z.t).cost (f.value z (Vec.zeros n))
  dx z out := f.dx z ((s z.t).gradient (f.value z (Vec.zeros n))) out
  du z out := f.du z ((s z.t).gradient (f.value z (Vec.zeros n))) out

end CostMap

theorem ConsensusSample.cost_eq_sum (s : ConsensusSample Rat) (own : Vec Rat) :
    s.cost own = (s.entries augmentedTerm own).sum := List.sum_eq_foldl.symm

/-- Between two points on either side, a consensus term moves as its gradient in the middle says. -/
theorem ConsensusSample.cost_shift (s : ConsensusSample Rat) (own shift : Vec Rat) :
    s.cost (Vec.addScaled 1 shift own) - s.cost (Vec.addScaled (-1) shift own) =
      2 * Vec.dot (s.gradient own) shift := by
  obtain ⟨z, mu, rho⟩ := s
  rw [cost_eq_sum, cost_eq_sum]
  unfold gradient entries
  induction own generalizing z mu rho shift with
  | nil => cases shift <;> simp [Vec.addScaled, Vec.mergeWith]
  | cons c own ih =>
    cases shift with
    | nil => simp [Vec.addScaled, Vec.mergeWith]
    | cons d shift =>
      cases z with
      | nil => simp
      | cons z zs =>
        cases mu with
        | nil => simp
        | cons m mu =>
          cases rho with
          | nil => simp
          | cons r rho =>
            have hrest := ih shift zs mu rho
            simp only [Vec.addScaled, Vec.mergeWith, List.zip_cons_cons, List.zipWith_cons_cons,
              List.sum_cons, Vec.dot_cons_cons] at hrest ⊢
            rw [augmentedTerm, augmentedTerm, augmentedSlope, Scalar.half_eq]
            linear_combination hrest

theorem ConsensusSample.length_gradient {s : ConsensusSample Rat} {n : Nat} (hz : s.z.length = n)
    (hmu : s.mu.length = n) (hrho : s.rho.length = n) {own : Vec Rat} (hown : own.length = n) :
    (s.gradient own).length = n := by
  simp [gradient, entries, hz, hmu, hrho, hown]

namespace CostMap.Adjoint

variable {nx nu n : Nat} {c e : CostMap}

theorem none (nx nu : Nat) : CostMap.none.Adjoint nx nu where
  dx _ _ := .same nx
  du _ _ := .same nu
  law z d _ _ := by simp [CostMap.none]

theorem andThen (hc : c.Adjoint nx nu) (he : e.Adjoint nx nu) : (c.andThen e).Adjoint nx nu where
  dx z hz := (he.dx z hz).comp (hc.dx z hz)
  du z hz := (he.du z hz).comp (hc.du z hz)
  law z d hz hd := by
    dsimp only [CostMap.andThen]
    rw [(he.dx z hz).comp_dot (hc.dx z hz), (he.du z hz).comp_dot (hc.du z hz)]
    linear_combination hc.law z d hz hd + he.law z d hz hd

theorem each {β : Type} {F : β → CostMap} {l : List β} (h : ∀ k ∈ l, (F k).Adjoint nx nu) :
    (CostMap.each F l).Adjoint nx nu := by
  induction l with
  | nil => exact none nx nu
  | cons k l ih =>
    have hcons : CostMap.each F (k :: l) = (F k).andThen (CostMap.each F l) := by
      simp only [CostMap.each, CostMap.andThen, List.map_cons, List.sum_cons, List.foldl_cons]
    rw [hcons]
    exact (h k List.mem_cons_self).andThen (ih fun k' hk' => h k' (List.mem_cons_of_mem k hk'))

/-- A law for a part is one for the whole. -/
theorem within {x u : Block} (h : c.Adjoint x.size u.size) (hx : x.stop ≤ nx) (hu : u.stop ≤ nu) :
    (c.within x u).Adjoint nx nu where
  dx z hz := Block.adds_update (h.dx _ (hz.part hx hu)) hx
  du z hz := Block.adds_update (h.du _ (hz.part hx hu)) hu
  law z d hz hd := by
    dsimp only [CostMap.within]
    rw [Point.part_along, Point.part_along, h.law _ _ (hz.part hx hu) (hd.part hx hu),
      Block.update_dot (h.dx _ (hz.part hx hu)) hx hd.x,
      Block.update_dot (h.du _ (hz.part hx hu)) hu hd.u]
    rfl

/-- The chain rule, through every affine function. -/
theorem charge {s : Rat → ConsensusSample Rat} {f : AgentMap Rat} (h : f.Affine nx nu n)
    (hs : ∀ t, ∀ own : Vec Rat, own.length = n → ((s t).gradient own).length = n) :
    (CostMap.charge s n f).Adjoint nx nu where
  dx z hz := h.dx z _ hz (hs _ _ (h.value z hz).length_zeros)
  du z hz := h.du z _ hz (hs _ _ (h.value z hz).length_zeros)
  law z d hz hd := by
    obtain ⟨shift, -, hvalue, hdot⟩ := h.fromZeros.exists_shift hz hd
    dsimp only [CostMap.charge]
    rw [hvalue, hvalue, ← hdot _ (hs _ _ (h.value z hz).length_zeros)]
    exact (s z.t).cost_shift _ shift

end CostMap.Adjoint

/-- The gradients have the dimensions of the agent, and along every direction the costs move as they
say. -/
structure AgentModel.CostsAdjoint (m : AgentModel Rat) : Prop where
  length_dx : ∀ z des, z.Sized m.nx m.nu → (m.stageCostDx z des (Vec.zeros m.nx)).length = m.nx
  length_du : ∀ z des, z.Sized m.nx m.nu → (m.stageCostDu z des (Vec.zeros m.nu)).length = m.nu
  length_terminal : ∀ t x des, x.length = m.nx →
    (m.terminalCostDx t x des (Vec.zeros m.nx)).length = m.nx
  stage : ∀ z d des, z.Sized m.nx m.nu → d.Sized m.nx m.nu →
    des.x.length = m.nx → des.u.length = m.nu →
    m.stageCost (z.along 1 d) des - m.stageCost (z.along (-1) d) des =
      2 * (Vec.dot (m.stageCostDx z des (Vec.zeros m.nx)) d.x +
        Vec.dot (m.stageCostDu z des (Vec.zeros m.nu)) d.u)
  terminal : ∀ t x d des, x.length = m.nx → d.length = m.nx → des.length = m.nx →
    m.terminalCost t (Vec.addScaled 1 d x) des - m.terminalCost t (Vec.addScaled (-1) d x) des =
      2 * Vec.dot (m.terminalCostDx t x des (Vec.zeros m.nx)) d

namespace AgentModel

/-- A share of the stage cost. -/
def stageMap (m : AgentModel Rat) (target : Rat → Target Rat) (share : Rat) : CostMap where
  value z := share * m.stageCost z (target z.t)
  dx z out := Vec.addScaled share (m.stageCostDx z (target z.t) (Vec.zeros m.nx)) out
  du z out := Vec.addScaled share (m.stageCostDu z (target z.t) (Vec.zeros m.nu)) out

/-- A share of the terminal cost. -/
def terminalMap (m : AgentModel Rat) (target : Rat → Target Rat) (share : Rat) : CostMap where
  value z := share * m.terminalCost z.t z.x (target z.t).x
  dx z out := Vec.addScaled share (m.terminalCostDx z.t z.x (target z.t).x (Vec.zeros m.nx)) out
  du _ out := out

variable {m : AgentModel Rat} {target : Rat → Target Rat}

theorem CostsAdjoint.stageMap (h : m.CostsAdjoint)
    (htarget : ∀ t, (target t).x.length = m.nx ∧ (target t).u.length = m.nu) (share : Rat) :
    (m.stageMap target share).Adjoint m.nx m.nu where
  dx _ _ := Vec.adds_addScaled _ _ _
  du _ _ := Vec.adds_addScaled _ _ _
  law z d hz hd := by
    obtain ⟨hx, hu⟩ := htarget z.t
    have hlaw := h.stage z d _ hz hd hx hu
    dsimp only [AgentModel.stageMap, Point.along] at hlaw ⊢
    rw [Vec.dot_addScaled_zeros hd.x, Vec.dot_addScaled_zeros hd.u]
    linear_combination share * hlaw

theorem CostsAdjoint.terminalMap (h : m.CostsAdjoint)
    (htarget : ∀ t, (target t).x.length = m.nx) (share : Rat) :
    (m.terminalMap target share).Adjoint m.nx m.nu where
  dx _ _ := Vec.adds_addScaled _ _ _
  du _ _ := .same m.nu
  law z d hz hd := by
    dsimp only [AgentModel.terminalMap, Point.along]
    rw [Vec.dot_addScaled_zeros hd.x, Vec.zeros_dot]
    linear_combination share * h.terminal z.t z.x d.x _ hz.x hd.x (htarget z.t)

end AgentModel

/-- Between two points on either side, a weighted distance moves as its gradient in the middle says. -/
theorem Vec.weightedDistance_shift (w a b d : Vec Rat) :
    weightedDistance w (addScaled 1 d a) b - weightedDistance w (addScaled (-1) d a) b =
      2 * dot (addWeightedDistanceGrad w a b (zeros a.length)) d := by
  have hsum : ∀ a : Vec Rat, weightedDistance w a b =
      (List.zipWith (fun w (p : Rat × Rat) => w * (p.1 - p.2) * (p.1 - p.2)) w (a.zip b)).sum :=
    fun a => List.sum_eq_foldl.symm
  rw [hsum, hsum]
  unfold addWeightedDistanceGrad
  rw [Scalar.two_eq]
  clear hsum
  induction a generalizing w b d with
  | nil => cases d <;> simp [addScaled, mergeWith, zeros]
  | cons x a ih =>
    cases d with
    | nil => simp [addScaled, mergeWith]
    | cons y d =>
      cases w with
      | nil => simp [mergeWith]
      | cons v w =>
        cases b with
        | nil => simp [mergeWith]
        | cons z b =>
          have hrest := ih w b d
          have hzeros : (zeros (a.length + 1) : Vec Rat) = 0 :: zeros a.length := rfl
          simp only [addScaled, mergeWith, List.zip_cons_cons, List.zipWith_cons_cons, List.sum_cons,
            List.length_cons, hzeros, dot_cons_cons] at hrest ⊢
          linear_combination hrest

/-- The costs are distances from the target with the given weights. -/
structure AgentModel.Weighted (m : AgentModel Rat) (q r p : Vec Rat) : Prop where
  stageCost : m.stageCost = fun z des =>
    Vec.weightedDistance q z.x des.x + Vec.weightedDistance r z.u des.u
  stageCostDx : m.stageCostDx = fun z des => Vec.addWeightedDistanceGrad q z.x des.x
  stageCostDu : m.stageCostDu = fun z des => Vec.addWeightedDistanceGrad r z.u des.u
  terminalCost : m.terminalCost = fun _ x des => Vec.weightedDistance p x des
  terminalCostDx : m.terminalCostDx = fun _ x des => Vec.addWeightedDistanceGrad p x des

theorem AgentModel.Weighted.costsAdjoint {m : AgentModel Rat} {q r p : Vec Rat} (h : m.Weighted q r p) :
    m.CostsAdjoint where
  length_dx _ _ _ := by
    rw [h.stageCostDx]
    exact (Vec.length_mergeWith ..).trans (Vec.length_zeros _)
  length_du _ _ _ := by
    rw [h.stageCostDu]
    exact (Vec.length_mergeWith ..).trans (Vec.length_zeros _)
  length_terminal _ _ _ _ := by
    rw [h.terminalCostDx]
    exact (Vec.length_mergeWith ..).trans (Vec.length_zeros _)
  stage z d des hz hd _ _ := by
    have hx := Vec.weightedDistance_shift q z.x des.x d.x
    have hu := Vec.weightedDistance_shift r z.u des.u d.u
    rw [hz.x] at hx
    rw [hz.u] at hu
    rw [h.stageCost, h.stageCostDx, h.stageCostDu]
    dsimp only [Point.along]
    linear_combination hx + hu
  terminal t x d des hx _ _ := by
    have hshift := Vec.weightedDistance_shift p x des d
    rw [hx] at hshift
    rw [h.terminalCost, h.terminalCostDx]
    exact hshift

theorem LinearAgent.weighted (m : LinearAgent Rat) : m.toModel.Weighted m.q m.r m.p :=
  ⟨rfl, rfl, rfl, rfl, rfl⟩

theorem PowerNode.weighted (m : PowerNode Rat) : m.toModel.Weighted m.state m.control m.terminal :=
  ⟨rfl, rfl, rfl, rfl, rfl⟩

theorem LinearAgent.costsAdjoint (m : LinearAgent Rat) : m.toModel.CostsAdjoint :=
  m.weighted.costsAdjoint

end ConsensusControl
