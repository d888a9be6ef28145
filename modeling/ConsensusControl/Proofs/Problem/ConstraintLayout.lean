import ConsensusControl.Proofs.Problem.Constraints
import ConsensusControl.Proofs.Tiling

namespace ConsensusControl

namespace Block

variable {α : Type} {b : Block} {xs : List α}

/-- A vector has to reach to the end of a block that is looked at. -/
def reach (b : Block) (xs : List α) : Checked Unit :=
  Checked.require (b.stop ≤ xs.length) (.outOfRange "block" b.stop xs.length)

def read? (b : Block) (xs : List α) : Checked (List α) := do
  b.reach xs
  return b.read xs

def update? (b : Block) (f : List α → List α) (xs : List α) : Checked (List α) := do
  b.reach xs
  return b.update f xs

theorem read?_eq_ok (h : b.stop ≤ xs.length) : b.read? xs = .ok (b.read xs) :=
  bind_eq_ok.mpr ⟨(), Checked.require_eq_ok.mpr h, rfl⟩

theorem update?_eq_ok {f : List α → List α} (h : b.stop ≤ xs.length) :
    b.update? f xs = .ok (b.update f xs) :=
  bind_eq_ok.mpr ⟨(), Checked.require_eq_ok.mpr h, rfl⟩

/-- Blocks that lead through a vector are updated one by one, each from what was there. -/
theorem Tiles.foldl_update {β : Type} {f : β → List α → List α} {l : List (β × Block)}
    (hf : ∀ g ∈ l, ∀ ys, (f g.1 ys).length = ys.length) {start : Nat}
    (h : Tiles start xs.length (l.map (·.2))) :
    l.foldl (fun xs g => g.2.update (f g.1) xs) xs =
      xs.take start ++ l.flatMap fun g => f g.1 (g.2.read xs) := by
  induction l generalizing start xs with
  | nil =>
    obtain rfl : start = xs.length := h
    simp
  | cons g l ih =>
    obtain ⟨hstart, hrest⟩ := h
    subst hstart
    have hkeeps := hf g List.mem_cons_self
    have hstop : g.2.stop ≤ xs.length := hrest.le
    have hlength : (g.2.update (f g.1) xs).length = xs.length := g.2.length_update (hkeeps _)
    have hread : (f g.1 (g.2.read xs)).length = g.2.size :=
      (hkeeps _).trans (length_read_of_stop hstop)
    have hfront : (g.2.update (f g.1) xs).take g.2.stop =
        xs.take g.2.start ++ f g.1 (g.2.read xs) := by
      have hsize : (xs.take g.2.start ++ f g.1 (g.2.read xs)).length = g.2.stop := by
        rw [List.length_append, hread, List.length_take_of_le (g.2.start_le_stop.trans hstop)]
        rfl
      rw [update, List.take_append_of_le_length (Nat.le_of_eq hsize.symm),
        List.take_of_length_le (Nat.le_of_eq hsize)]
    have hbehind : (l.flatMap fun k => f k.1 (k.2.read (g.2.update (f g.1) xs))) =
        l.flatMap fun k => f k.1 (k.2.read xs) := by
      refine List.flatMap_congr fun k hk => ?_
      have hapart : g.2.Apart k.2 := .inl (hrest.within (List.mem_map_of_mem hk)).1
      rw [read_update_apart hapart hstop hread]
    rw [List.foldl_cons, ih (fun k hk => hf k (List.mem_cons_of_mem g hk)) (hlength ▸ hrest), hfront,
      hbehind, List.flatMap_cons, List.append_assoc]

end Block

/-- A traversal in which no step fails, as long as an invariant holds. -/
theorem foldlM_eq_ok {ε β σ : Type} {P : σ → Prop} {f : σ → β → Except ε σ} {g : σ → β → σ}
    {l : List β} {s : σ} (hs : P s) (h : ∀ b ∈ l, ∀ s, P s → f s b = .ok (g s b) ∧ P (g s b)) :
    l.foldlM f s = .ok (l.foldl g s) := by
  induction l generalizing s with
  | nil => rfl
  | cons b l ih =>
    obtain ⟨hstep, hnext⟩ := h b List.mem_cons_self s hs
    rw [List.foldlM_cons, hstep]
    exact ih hnext fun k hk => h k (List.mem_cons_of_mem b hk)

namespace Point

variable {α : Type}

def part? (x u : Block) (z : Point α) : Checked (Point α) := do
  return ⟨z.t, ← x.read? z.x, ← u.read? z.u⟩

theorem part?_eq_ok {x u : Block} {z : Point α} (hx : x.stop ≤ z.x.length)
    (hu : u.stop ≤ z.u.length) : z.part? x u = .ok ⟨z.t, x.read z.x, u.read z.u⟩ := by
  rw [part?, Block.read?_eq_ok hx, Block.read?_eq_ok hu]
  rfl

end Point

/-- A function is handed a part of a vector to add into, whose length it cannot change. -/
structure AgentMap.KeepsLengths {α : Type} (f : AgentMap α) : Prop where
  value : ∀ z out, (f.value z out).length = out.length
  dx : ∀ z w out, (f.dx z w out).length = out.length
  du : ∀ z w out, (f.du z w out).length = out.length

/-- A function is handed a part of a vector to add into, whose length it cannot change. -/
structure PairMap.KeepsLengths {α : Type} (f : PairMap α) : Prop where
  value : ∀ z out, (f.value z out).length = out.length
  dxi : ∀ z w out, (f.dxi z w out).length = out.length
  dui : ∀ z w out, (f.dui z w out).length = out.length
  dxj : ∀ z w out, (f.dxj z w out).length = out.length
  duj : ∀ z w out, (f.duj z w out).length = out.length

/-- The constraints of one kind of all models that an agent works with leave lengths alone. -/
structure Agent.ConstraintsKeepLengths {α : Type} (a : Agent α) (kind : ConstraintKind) : Prop where
  own : (a.model.constraints kind).KeepsLengths
  models : ∀ nb ∈ a.neighbors, (nb.model.constraints kind).KeepsLengths
  sending : ∀ nb ∈ a.neighbors, ∀ f, nb.relation.sending = some f → (f.constraints kind).KeepsLengths
  receiving : ∀ nb ∈ a.neighbors, ∀ f, nb.relation.receiving = some f → (f.constraints kind).KeepsLengths

theorem AgentMap.keepsLengths_none {α : Type} : (AgentMap.none : AgentMap α).KeepsLengths :=
  ⟨fun _ _ => rfl, fun _ _ _ => rfl, fun _ _ _ => rfl⟩

section Linear

variable {α : Type} [Scalar α]

theorem RowMatrix.length_addMulTransposed (m : RowMatrix α) (w out : Vec α) :
    (m.addMulTransposed w out).length = out.length := by
  unfold addMulTransposed
  induction m.rows.zip w generalizing out with
  | nil => rfl
  | cons row rows ih => rw [List.foldl_cons, ih, Vec.length_mergeWith]

theorem LinearAgent.keepsLengths (m : LinearAgent α) : m.dynamics.KeepsLengths where
  value _ _ := (Vec.length_mergeWith ..).trans (Vec.length_mergeWith ..)
  dx _ _ _ := m.a.length_addMulTransposed ..
  du _ _ _ := m.b.length_addMulTransposed ..

theorem LinearCoupling.keepsLengths (m : LinearCoupling α) : m.toModel.dynamics.KeepsLengths where
  value _ _ := (Vec.length_mergeWith ..).trans (Vec.length_mergeWith ..)
  dxi _ _ _ := rfl
  dui _ _ _ := rfl
  dxj _ _ _ := m.a.length_addMulTransposed ..
  duj _ _ _ := m.b.length_addMulTransposed ..

end Linear

/-- What transposed Jacobians are taken in. -/
inductive Argument
  | state
  | control

namespace Argument

variable {α : Type}

def own (m : IndexMap) : Argument → Block
  | state => m.ownX
  | control => m.ownU

def copied (b : NeighborBlock) : Argument → Block
  | state => b.x
  | control => b.u

def dim (m : IndexMap) : Argument → Nat
  | state => m.nx
  | control => m.nu

def transposed (f : AgentMap α) : Argument → Point α → Vec α → Vec α → Vec α
  | state => f.dx
  | control => f.du

/-- In the argument of the agent whose constraints the coupling enters. -/
def transposedNear (f : PairMap α) : Argument → PairPoint α → Vec α → Vec α → Vec α
  | state => f.dxi
  | control => f.dui

/-- In the argument of the agent that couples in. -/
def transposedFar (f : PairMap α) : Argument → PairPoint α → Vec α → Vec α → Vec α
  | state => f.dxj
  | control => f.duj

theorem own_stop {m : IndexMap} (h : m.Inside) (arg : Argument) : (arg.own m).stop ≤ arg.dim m := by
  cases arg
  · exact h.ownX
  · exact h.ownU

theorem copied_stop {m : IndexMap} {b : NeighborBlock} (h : b.x.stop ≤ m.nx ∧ b.u.stop ≤ m.nu)
    (arg : Argument) : (arg.copied b).stop ≤ arg.dim m := by
  cases arg
  · exact h.1
  · exact h.2

theorem length_transposed {f : AgentMap α} (hf : f.KeepsLengths) (arg : Argument) (z : Point α)
    (w out : Vec α) : (arg.transposed f z w out).length = out.length := by
  cases arg
  · exact hf.dx z w out
  · exact hf.du z w out

theorem length_transposedNear {f : PairMap α} (hf : f.KeepsLengths) (arg : Argument) (z : PairPoint α)
    (w out : Vec α) : (arg.transposedNear f z w out).length = out.length := by
  cases arg
  · exact hf.dxi z w out
  · exact hf.dui z w out

theorem length_transposedFar {f : PairMap α} (hf : f.KeepsLengths) (arg : Argument) (z : PairPoint α)
    (w out : Vec α) : (arg.transposedFar f z w out).length = out.length := by
  cases arg
  · exact hf.dxj z w out
  · exact hf.duj z w out

end Argument

namespace ConstraintGroup

variable {α : Type}

theorem tiles_place (kind : ConstraintKind) (offset : Nat) (groups : List (ConstraintGroup α)) :
    Block.Tiles offset (offset + (groups.map (·.count kind)).sum)
      ((place kind offset groups).map (·.2)) := by
  induction groups generalizing offset with
  | nil => rfl
  | cons g groups ih =>
    rw [List.map_cons, List.sum_cons, ← Nat.add_assoc]
    by_cases hempty : g.count kind = 0
    · rw [place, if_pos hempty, hempty]
      exact ih offset
    · rw [place, if_neg hempty]
      exact ⟨rfl, ih _⟩

/-- Only groups without constraints are left out. -/
theorem map_fst_place (kind : ConstraintKind) (offset : Nat) (groups : List (ConstraintGroup α)) :
    (place kind offset groups).map (·.1) = groups.filter fun g => 0 < g.count kind := by
  induction groups generalizing offset with
  | nil => rfl
  | cons g groups ih =>
    by_cases hempty : g.count kind = 0
    · rw [place, if_pos hempty, List.filter_cons_of_neg (by simp [hempty])]
      exact ih offset
    · rw [place, if_neg hempty, List.filter_cons_of_pos (by simpa using Nat.pos_of_ne_zero hempty)]
      exact congrArg (g :: ·) (ih _)

theorem count_pos_of_place {kind : ConstraintKind} {offset : Nat} {groups : List (ConstraintGroup α)}
    {g : ConstraintGroup α × Block} (h : g ∈ place kind offset groups) : 0 < g.1.count kind := by
  have hkept : g.1 ∈ (place kind offset groups).map (·.1) := List.mem_map_of_mem h
  rw [map_fst_place] at hkept
  exact of_decide_eq_true (List.mem_filter.mp hkept).2

/-- What the group is made of leaves lengths alone. -/
def KeepsLengths (kind : ConstraintKind) : ConstraintGroup α → Prop
  | own m | neighbor m _ => (m.constraints kind).KeepsLengths
  | coupling f _ | copiedCoupling f _ => (f.constraints kind).KeepsLengths

/-- The copies that the group looks at lie within vectors of the given dimensions. -/
def Within (nx nu : Nat) : ConstraintGroup α → Prop
  | own _ => True
  | coupling _ b | neighbor _ b | copiedCoupling _ b => b.x.stop ≤ nx ∧ b.u.stop ≤ nu

end ConstraintGroup

namespace LocalProblem

section Definitions

variable {α : Type} (p : LocalProblem α) (kind : ConstraintKind)

/-- What a neighbor may bring in: its coupling into the agent and, where constraints are folded in, its own
model and the agent's coupling into it. -/
def neighborSources (q : Neighbor α × NeighborBlock) : List (ConstraintGroup α) :=
  let folded := p.agent.approximation.constraints
  [q.1.relation.sending.map fun f => .coupling f q.2,
    if folded then some (.neighbor q.1.model q.2) else none,
    if folded then q.1.relation.receiving.map fun f => .copiedCoupling f q.2 else none].reduceOption

/-- What may have constraints, in the order in which they are laid out. -/
def sources : List (ConstraintGroup α) := .own p.agent.model :: p.pairs.flatMap p.neighborSources

/-- The groups of one kind share the constraint vector that the agent counts. -/
structure LaidOut : Prop where
  partition : Block.Partition (p.agent.constraintCount kind) ((p.constraintGroups kind).map (·.2))
  sizes : ∀ g ∈ p.constraintGroups kind, g.2.size = g.1.count kind ∧ 0 < g.2.size
  order : (p.constraintGroups kind).map (·.1) = p.sources.filter fun g => 0 < g.count kind

/-- What a group adds to its part of the constraint vector. -/
def groupValue (z : Point α) : ConstraintGroup α → Vec α → Vec α
  | .own m => (m.constraints kind).value (p.ownPoint z)
  | .coupling f b => (f.constraints kind).value (p.sendingPoint b z)
  | .neighbor m b => (m.constraints kind).value (Surroundings.copyPoint b z)
  | .copiedCoupling f b => (f.constraints kind).value (p.receivingPoint b z)

/-- The extended constraints, where each access checks that it lies within its vector. -/
def addConstraints? (z : Point α) (out : Vec α) : Checked (Vec α) := do
  let own ← z.part? p.index.ownX p.index.ownU
  (p.constraintGroups kind).foldlM (fun out (group, place) => do
    match group with
    | .own m => place.update? ((m.constraints kind).value own) out
    | .coupling f b =>
      let copy ← z.part? b.x b.u
      place.update? ((f.constraints kind).value ⟨z.t, own.x, own.u, copy.x, copy.u⟩) out
    | .neighbor m b =>
      let copy ← z.part? b.x b.u
      place.update? ((m.constraints kind).value copy) out
    | .copiedCoupling f b =>
      let copy ← z.part? b.x b.u
      place.update? ((f.constraints kind).value ⟨z.t, copy.x, copy.u, own.x, own.u⟩) out) out

/-- The transposed Jacobians of the extended constraints, where each access checks that it lies within its
vector. -/
def addTransposed? (arg : Argument) (z : Point α) (w out : Vec α) : Checked (Vec α) := do
  let own ← z.part? p.index.ownX p.index.ownU
  (p.constraintGroups kind).foldlM (fun out (group, place) => do
    let w ← place.read? w
    match group with
    | .own m => (arg.own p.index).update? (arg.transposed (m.constraints kind) own w) out
    | .coupling f b =>
      let copy ← z.part? b.x b.u
      let point : PairPoint α := ⟨z.t, own.x, own.u, copy.x, copy.u⟩
      let out ← (arg.own p.index).update? (arg.transposedNear (f.constraints kind) point w) out
      (arg.copied b).update? (arg.transposedFar (f.constraints kind) point w) out
    | .neighbor m b =>
      let copy ← z.part? b.x b.u
      (arg.copied b).update? (arg.transposed (m.constraints kind) copy w) out
    | .copiedCoupling f b =>
      let copy ← z.part? b.x b.u
      let point : PairPoint α := ⟨z.t, copy.x, copy.u, own.x, own.u⟩
      let out ← (arg.copied b).update? (arg.transposedNear (f.constraints kind) point w) out
      (arg.own p.index).update? (arg.transposedFar (f.constraints kind) point w) out) out

/-- The transposed Jacobians of the extended constraints in either argument. -/
def addTransposed (arg : Argument) (z : Point α) (w out : Vec α) : Vec α :=
  (p.constraintGroups kind).foldl (fun out (group, place) =>
    let w := place.read w
    match group with
    | .own m => (arg.own p.index).update (arg.transposed (m.constraints kind) (p.ownPoint z) w) out
    | .coupling f b =>
      let out := (arg.own p.index).update (arg.transposedNear (f.constraints kind) (p.sendingPoint b z) w) out
      (arg.copied b).update (arg.transposedFar (f.constraints kind) (p.sendingPoint b z) w) out
    | .neighbor m b =>
      (arg.copied b).update (arg.transposed (m.constraints kind) (Surroundings.copyPoint b z) w) out
    | .copiedCoupling f b =>
      let out := (arg.copied b).update (arg.transposedNear (f.constraints kind) (p.receivingPoint b z) w) out
      (arg.own p.index).update (arg.transposedFar (f.constraints kind) (p.receivingPoint b z) w) out) out

theorem addTransposed_state : p.addTransposed kind .state = p.addConstraintsDx kind := rfl

theorem addTransposed_control : p.addTransposed kind .control = p.addConstraintsDu kind := rfl

end Definitions

variable {α : Type} {p : LocalProblem α} {kind : ConstraintKind}

theorem neighborGroups_eq (p : LocalProblem α) (q : Neighbor α × NeighborBlock) :
    p.neighborGroups q.1 q.2 = p.neighborSources q := by
  unfold neighborGroups neighborSources
  cases q.1.relation.sending <;> cases q.1.relation.receiving <;>
    cases p.agent.approximation.constraints <;> rfl

theorem pairs_of_eq_ok {a : Agent α} {l : Layout} (h : of a l = .ok p) :
    p = ⟨a, l⟩ ∧ p.pairs.map Prod.fst = p.agent.neighbors := by
  obtain ⟨hids, rfl⟩ := of_eq_ok h
  have hlength : a.neighbors.length = l.index.blocks.length := by
    simpa [Agent.neighborIds] using congrArg List.length hids
  exact ⟨rfl, List.map_fst_zip (Nat.le_of_eq hlength)⟩

/-- Constraints are laid out whatever the relations are and whichever groups are empty. -/
theorem laidOut_of_pairs (h : p.pairs.map Prod.fst = p.agent.neighbors) (kind : ConstraintKind) :
    p.LaidOut kind where
  partition := by
    have htiles := ConstraintGroup.tiles_place kind 0 (.own p.agent.model ::
      p.pairs.flatMap fun q => p.neighborGroups q.1 q.2)
    rw [Nat.zero_add, count_groups h kind] at htiles
    exact htiles.partition
  sizes g hg := by
    obtain ⟨-, hsize, -⟩ := ConstraintGroup.place_within hg
    exact ⟨hsize, hsize ▸ ConstraintGroup.count_pos_of_place hg⟩
  order := by
    have hsources : (.own p.agent.model :: p.pairs.flatMap fun q => p.neighborGroups q.1 q.2) =
        p.sources := congrArg (_ :: ·) (List.flatMap_congr fun q _ => p.neighborGroups_eq q)
    rw [← hsources]
    exact ConstraintGroup.map_fst_place kind 0 _

section Accesses

variable {g : ConstraintGroup α × Block} {z : Point α}

theorem Indexed.group (h : p.Indexed) (ha : p.agent.ConstraintsKeepLengths kind)
    (hg : g ∈ p.constraintGroups kind) :
    g.1.KeepsLengths kind ∧ g.1.Within p.index.nx p.index.nu ∧
      g.2.stop ≤ p.agent.constraintCount kind := by
  obtain ⟨-, -, hstop⟩ := ConstraintGroup.place_within hg
  rw [Nat.zero_add, count_groups h.map_fst_pairs kind] at hstop
  refine and_assoc.mp ⟨?_, hstop⟩
  rcases mem_constraintGroups hg with hown | ⟨q, hq, hneighbor⟩
  · rw [hown]
    exact ⟨ha.own, trivial⟩
  · have hmem : q.1 ∈ p.agent.neighbors := (List.of_mem_zip hq).1
    obtain ⟨hx, hu, -⟩ := (IndexMap.inside_of_build h).blocks q.2 (List.of_mem_zip hq).2
    rcases mem_neighborGroups hneighbor with ⟨f, hf, hgroup⟩ | hgroup | ⟨f, hf, hgroup⟩
    · rw [hgroup]
      exact ⟨ha.sending q.1 hmem f hf, hx, hu⟩
    · rw [hgroup]
      exact ⟨ha.models q.1 hmem, hx, hu⟩
    · rw [hgroup]
      exact ⟨ha.receiving q.1 hmem f hf, hx, hu⟩

/-- The point has vectors of the problem's dimensions. -/
structure HasPoint (p : LocalProblem α) (z : Point α) : Prop where
  x : z.x.length = p.index.nx
  u : z.u.length = p.index.nu

theorem Indexed.part?_own (h : p.Indexed) (hz : p.HasPoint z) :
    z.part? p.index.ownX p.index.ownU = .ok (p.ownPoint z) := by
  have hinside := IndexMap.inside_of_build h
  exact Point.part?_eq_ok (hinside.ownX.trans_eq hz.x.symm) (hinside.ownU.trans_eq hz.u.symm)

theorem HasPoint.part?_copy (hz : p.HasPoint z) {b : NeighborBlock}
    (hb : b.x.stop ≤ p.index.nx ∧ b.u.stop ≤ p.index.nu) :
    z.part? b.x b.u = .ok (Surroundings.copyPoint b z) :=
  Point.part?_eq_ok (hb.1.trans_eq hz.x.symm) (hb.2.trans_eq hz.u.symm)

/-- No access of the extended constraints leaves its vector. -/
theorem Indexed.addConstraints? (h : p.Indexed) (ha : p.agent.ConstraintsKeepLengths kind)
    (hz : p.HasPoint z) {out : Vec α} (hout : out.length = p.agent.constraintCount kind) :
    p.addConstraints? kind z out = .ok (p.addConstraints kind z out) := by
  rw [LocalProblem.addConstraints?, h.part?_own hz]
  refine foldlM_eq_ok (P := fun out => out.length = p.agent.constraintCount kind) hout ?_
  rintro ⟨group, place⟩ hg out hout
  obtain ⟨hkeeps, hwithin, hstop⟩ := h.group ha hg
  have hupdate : ∀ f : Vec α → Vec α, (∀ ys, (f ys).length = ys.length) →
      place.update? f out = .ok (place.update f out) ∧
        (place.update f out).length = p.agent.constraintCount kind := fun f hf =>
    ⟨Block.update?_eq_ok (hstop.trans_eq hout.symm), (place.length_update (hf _)).trans hout⟩
  cases group with
  | own m => exact hupdate _ (hkeeps.value _)
  | coupling f b =>
    dsimp only
    rw [hz.part?_copy hwithin]
    exact hupdate _ (hkeeps.value _)
  | neighbor m b =>
    dsimp only
    rw [hz.part?_copy hwithin]
    exact hupdate _ (hkeeps.value _)
  | copiedCoupling f b =>
    dsimp only
    rw [hz.part?_copy hwithin]
    exact hupdate _ (hkeeps.value _)

/-- Nor does any access of their transposed Jacobians. -/
theorem Indexed.addTransposed? (h : p.Indexed) (ha : p.agent.ConstraintsKeepLengths kind)
    (hz : p.HasPoint z) (arg : Argument) {w out : Vec α} (hw : w.length = p.agent.constraintCount kind)
    (hout : out.length = arg.dim p.index) :
    p.addTransposed? kind arg z w out = .ok (p.addTransposed kind arg z w out) := by
  have hownStop := arg.own_stop (IndexMap.inside_of_build h)
  have hupdate : ∀ (b : Block) (f : Vec α → Vec α) (out : Vec α), b.stop ≤ arg.dim p.index →
      (∀ ys, (f ys).length = ys.length) → out.length = arg.dim p.index →
      b.update? f out = .ok (b.update f out) ∧ (b.update f out).length = arg.dim p.index :=
    fun b f out hb hf hout =>
      ⟨Block.update?_eq_ok (hb.trans_eq hout.symm), (b.length_update (hf _)).trans hout⟩
  have hboth : ∀ (b c : Block) (f g : Vec α → Vec α) (out : Vec α), b.stop ≤ arg.dim p.index →
      c.stop ≤ arg.dim p.index → (∀ ys, (f ys).length = ys.length) →
      (∀ ys, (g ys).length = ys.length) → out.length = arg.dim p.index →
      (b.update? f out >>= fun out => c.update? g out) = .ok (c.update g (b.update f out)) ∧
        (c.update g (b.update f out)).length = arg.dim p.index := by
    intro b c f g out hb hc hf hg hout
    obtain ⟨hfirst, hlength⟩ := hupdate b f out hb hf hout
    rw [hfirst]
    exact hupdate c g _ hc hg hlength
  rw [LocalProblem.addTransposed?, h.part?_own hz]
  refine foldlM_eq_ok (P := fun out => out.length = arg.dim p.index) hout ?_
  rintro ⟨group, place⟩ hg out hout
  obtain ⟨hkeeps, hwithin, hstop⟩ := h.group ha hg
  dsimp only
  rw [Block.read?_eq_ok (hstop.trans_eq hw.symm)]
  cases group with
  | own m => exact hupdate _ _ _ hownStop (arg.length_transposed hkeeps _ _) hout
  | coupling f b =>
    have hcopyStop := arg.copied_stop hwithin
    dsimp only
    rw [hz.part?_copy hwithin]
    exact hboth _ _ _ _ _ hownStop hcopyStop (arg.length_transposedNear hkeeps _ _)
      (arg.length_transposedFar hkeeps _ _) hout
  | neighbor m b =>
    have hcopyStop := arg.copied_stop hwithin
    dsimp only
    rw [hz.part?_copy hwithin]
    exact hupdate _ _ _ hcopyStop (arg.length_transposed hkeeps _ _) hout
  | copiedCoupling f b =>
    have hcopyStop := arg.copied_stop hwithin
    dsimp only
    rw [hz.part?_copy hwithin]
    exact hboth _ _ _ _ _ hcopyStop hownStop (arg.length_transposedNear hkeeps _ _)
      (arg.length_transposedFar hkeeps _ _) hout

/-- The extended constraints are what each group makes of its own part. -/
theorem Indexed.addConstraints_eq (h : p.Indexed) (ha : p.agent.ConstraintsKeepLengths kind)
    (z : Point α) {out : Vec α} (hout : out.length = p.agent.constraintCount kind) :
    p.addConstraints kind z out =
      (p.constraintGroups kind).flatMap fun g => p.groupValue kind z g.1 (g.2.read out) := by
  have hsteps : p.addConstraints kind z out =
      (p.constraintGroups kind).foldl (fun out g => g.2.update (p.groupValue kind z g.1) out) out := by
    refine List.foldl_ext _ _ _ fun out g _ => ?_
    obtain ⟨group, place⟩ := g
    cases group <;> rfl
  have hkeeps : ∀ g ∈ p.constraintGroups kind, ∀ ys,
      (p.groupValue kind z g.1 ys).length = ys.length := by
    rintro ⟨group, place⟩ hg ys
    have hgroup := (h.group ha hg).1
    cases group <;> exact hgroup.value _ _
  have htiles := (laidOut_of_pairs h.map_fst_pairs kind).partition.tiles
  rw [← hout] at htiles
  rw [hsteps, htiles.foldl_update hkeeps, List.take_zero, List.nil_append]

end Accesses

/-- A problem that was put together shares its constraint vector among the groups, in their order and one
behind the other. Where the layout is the agent's own, vectors of the reported dimensions have room for every
access of the extended constraints, and each entry comes from the one group whose place it is in. -/
theorem constraints_partition [Scalar α] {a : Agent α} {l : Layout} (h : LocalProblem.of a l = .ok p) :
    (∀ kind, p.LaidOut kind) ∧
      (a.layout = .ok l → ∀ kind, a.ConstraintsKeepLengths kind →
        l.dims.constraintCount kind = a.constraintCount kind ∧
        ∀ (z : Point α) (w out outX outU : Vec α), z.x.length = l.dims.nx → z.u.length = l.dims.nu →
          w.length = l.dims.constraintCount kind → out.length = l.dims.constraintCount kind →
          outX.length = l.dims.nx → outU.length = l.dims.nu →
          p.addConstraints kind z out =
              (p.constraintGroups kind).flatMap (fun g => p.groupValue kind z g.1 (g.2.read out)) ∧
            p.addConstraints? kind z out = .ok (p.addConstraints kind z out) ∧
            p.addTransposed? kind .state z w outX = .ok (p.addConstraintsDx kind z w outX) ∧
            p.addTransposed? kind .control z w outU = .ok (p.addConstraintsDu kind z w outU)) := by
  obtain ⟨rfl, hpairs⟩ := pairs_of_eq_ok h
  refine ⟨laidOut_of_pairs hpairs, fun hlayout kind ha => ?_⟩
  have hindexed : Indexed ⟨a, l⟩ := Agent.indexMap_of_layout hlayout
  have hcount := Agent.constraintCount_of_layout hlayout kind
  refine ⟨hcount, fun z w out outX outU hx hu hw hout houtX houtU => ?_⟩
  have hz : HasPoint ⟨a, l⟩ z := ⟨hx, hu⟩
  have hw := hw.trans hcount
  have hout := hout.trans hcount
  rw [← addTransposed_state, ← addTransposed_control]
  exact ⟨hindexed.addConstraints_eq ha z hout, hindexed.addConstraints? ha hz hout,
    hindexed.addTransposed? ha hz .state hw houtX, hindexed.addTransposed? ha hz .control hw houtU⟩

/-- The hub without constraints of its own; those of its neighbors and of all couplings stay. -/
def looseHub : Agent Rat := { restingHub with model := hubModel.toModel }

theorem looseHub_keepsLengths (kind : ConstraintKind) : looseHub.ConstraintsKeepLengths kind where
  own := by cases kind <;> exact AgentMap.keepsLengths_none
  models nb hnb := by
    obtain ⟨old, -, rfl⟩ := List.mem_map.mp hnb
    cases kind <;> exact leafModel.keepsLengths
  sending nb hnb f hf := by
    obtain ⟨old, -, rfl⟩ := List.mem_map.mp hnb
    obtain ⟨_, -, rfl⟩ := Option.map_eq_some_iff.mp hf
    cases kind <;> exact leafToHub.keepsLengths
  receiving nb hnb f hf := by
    obtain ⟨old, -, rfl⟩ := List.mem_map.mp hnb
    obtain ⟨_, -, rfl⟩ := Option.map_eq_some_iff.mp hf
    cases kind <;> exact hubToLeaf.keepsLengths

def looseProblem : LocalProblem Rat := ⟨looseHub, { hubProblem.layout with ng := 10, nh := 8 }⟩

theorem looseHub_constraints :
    (LocalProblem.of looseHub looseProblem.layout = .ok looseProblem ∧
      looseHub.layout = .ok looseProblem.layout ∧ (∀ kind, looseHub.ConstraintsKeepLengths kind)) ∧
    looseProblem.LaidOut .inequality ∧
      (looseProblem.constraintGroups .equality).map (·.2) =
        [⟨0, 1⟩, ⟨1, 2⟩, ⟨3, 1⟩, ⟨4, 1⟩, ⟨5, 1⟩, ⟨6, 2⟩, ⟨8, 1⟩, ⟨9, 1⟩] ∧
      looseProblem.addConstraints? .equality hubPoint (Vec.zeros 10) =
        .ok (looseProblem.addConstraints .equality hubPoint (Vec.zeros 10)) ∧
      looseProblem.addTransposed? .equality .control hubPoint [1, 2, 3, 4, 5, 6, 7, 8, 9, 10]
          (Vec.zeros 13) =
        .ok (looseProblem.addConstraintsDu .equality hubPoint [1, 2, 3, 4, 5, 6, 7, 8, 9, 10]
          (Vec.zeros 13)) ∧
      looseProblem.addConstraints? .equality hubPoint (Vec.zeros 9) =
        .error (.outOfRange "block" 10 9) := by
  have hof : LocalProblem.of looseHub looseProblem.layout = .ok looseProblem := by rfl
  have hlayout : looseHub.layout = .ok looseProblem.layout := by rfl
  obtain ⟨hlaid, haccess⟩ := constraints_partition hof
  obtain ⟨-, heach⟩ := haccess hlayout .equality (looseHub_keepsLengths _)
  obtain ⟨-, hvalue, -, hcontrol⟩ := heach hubPoint [1, 2, 3, 4, 5, 6, 7, 8, 9, 10] (Vec.zeros 10)
    (Vec.zeros 6) (Vec.zeros 13) rfl rfl rfl rfl rfl rfl
  exact ⟨⟨hof, hlayout, looseHub_keepsLengths⟩, hlaid _, rfl, hvalue, hcontrol, by decide +kernel⟩

end LocalProblem

end ConsensusControl
