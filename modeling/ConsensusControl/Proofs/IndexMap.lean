import Mathlib.Algebra.GroupWithZero.Nat
import ConsensusControl.IndexMap
import ConsensusControl.Proofs.Checked
import ConsensusControl.Proofs.Pointwise
import ConsensusControl.Proofs.Tiling

namespace ConsensusControl.IndexMap

variable {agent : AgentId} {nx nu : Nat} {m m' : IndexMap} {e : Entry} {es : List Entry}

/-- The table and the list of the blocks find the same neighbors. -/
theorem block?_eq_find? (m : IndexMap) (id : AgentId) : m.block? id = m.blocks.find? (·.id == id) := by
  rw [List.find?_eq_bind_findIdx?_getElem?, ← m.lookup_eq]
  rfl

theorem position?_eq_none_iff {id : AgentId} : m.position? id = none ↔ id ∉ m.blocks.map (·.id) := by
  rw [position?, m.lookup_eq, List.findIdx?_eq_none_iff]
  simp

theorem block?_eq_none_iff {id : AgentId} : m.block? id = none ↔ id ∉ m.blocks.map (·.id) := by
  rw [block?_eq_find?, List.find?_eq_none]
  simp

@[simp] theorem position?_reserve (m : IndexMap) (id k : AgentId) :
    (m.reserve id).position? k = m.position? k := join_getElem?_rightpad _ _ _

/-- Length of a table of length `n` when room has been made for the ids. -/
def reach (n : Nat) (ids : List AgentId) : Nat := ids.foldl (fun n id => max (id + 1) n) n

theorem reach_le {n k : Nat} {ids : List AgentId} : reach n ids ≤ k ↔ n ≤ k ∧ ∀ id ∈ ids, id < k := by
  induction ids generalizing n with
  | nil => simp [reach]
  | cons id ids ih =>
    rw [reach, List.foldl_cons, ← reach, ih, Nat.max_le, List.forall_mem_cons, Nat.succ_le_iff]
    tauto

/-- The layout with these dimensions and blocks whose table ends with the largest id. -/
def ofBlocks (nxOwn nuOwn nx nu : Nat) (blocks : List NeighborBlock) : IndexMap where
  nxOwn
  nuOwn
  nx
  nu
  blocks
  lookup := (List.range (reach 0 (blocks.map (·.id)))).map fun id => blocks.findIdx? (·.id == id)
  lookup_eq id := by
    rw [List.getElem?_map]
    rcases Nat.lt_or_ge id (reach 0 (blocks.map (·.id))) with hid | hid
    · rw [List.getElem?_range hid]
      rfl
    · rw [List.getElem?_eq_none (by simpa using hid)]
      have hlast := (reach_le.mp (Nat.le_refl (reach 0 (blocks.map (·.id))))).2
      refine (List.findIdx?_eq_none_iff.mpr fun b hb => ?_).symm
      have hlt := hlast b.id (List.mem_map_of_mem hb)
      exact beq_eq_false_iff_ne.mpr (Nat.ne_of_lt (Nat.lt_of_lt_of_le hlt hid))

/-- A table of the right length has its entries from the blocks. -/
theorem eq_ofBlocks (h : m.lookup.length = reach 0 (m.blocks.map (·.id))) :
    m = ofBlocks m.nxOwn m.nuOwn m.nx m.nu m.blocks := by
  have hlookup : m.lookup = (ofBlocks m.nxOwn m.nuOwn m.nx m.nu m.blocks).lookup := by
    refine List.ext_getElem (by simpa [ofBlocks] using h) fun id hid _ => ?_
    have hentry := m.lookup_eq id
    rw [List.getElem?_eq_getElem hid] at hentry
    simpa [ofBlocks] using hentry
  cases m
  simpa [ofBlocks] using hlookup

/-- Blocks for the entries, one behind the other. -/
def stack (x u : Nat) : List Entry → List NeighborBlock
  | [] => []
  | e :: es => ⟨e.id, ⟨x, e.nx⟩, ⟨u, e.nu⟩, ⟨u + e.nu, e.nx⟩⟩ :: stack (x + e.nx) (u + e.nu + e.nx) es

/-- An agent with blocks for its neighbors behind its own. -/
def laid (nx nu : Nat) (es : List Entry) : IndexMap :=
  ofBlocks nx nu (nx + (es.map (·.nx)).sum) (nu + (es.map fun e => e.nu + e.nx).sum) (stack nx nu es)

/-- The block of an entry has its id and its dimensions. -/
structure Fits (e : Entry) (b : NeighborBlock) : Prop where
  id : b.id = e.id
  x : b.x.size = e.nx
  u : b.u.size = e.nu
  v : b.v.size = e.nx

theorem fits_stack (x u : Nat) (es : List Entry) : List.Forall₂ Fits es (stack x u es) := by
  induction es generalizing x u with
  | nil => exact .nil
  | cons e es ih => exact .cons ⟨rfl, rfl, rfl, rfl⟩ (ih _ _)

theorem ids_stack (x u : Nat) (es : List Entry) : (stack x u es).map (·.id) = es.map (·.id) :=
  map_eq_of_forall₂ ((fits_stack x u es).imp fun _ _ h => h.id)

/-- State blocks lie one behind the other, and so do the control and the influence blocks. -/
theorem tiles_stack (x u : Nat) (es : List Entry) :
    Block.Tiles x (x + (es.map (·.nx)).sum) ((stack x u es).map (·.x)) ∧
      Block.Tiles u (u + (es.map fun e => e.nu + e.nx).sum)
        ((stack x u es).flatMap fun b => [b.u, b.v]) := by
  induction es generalizing x u with
  | nil => exact ⟨rfl, rfl⟩
  | cons e es ih =>
    obtain ⟨hstates, hcontrols⟩ := ih (x + e.nx) (u + e.nu + e.nx)
    simp only [List.map_cons, List.sum_cons, ← Nat.add_assoc]
    exact ⟨⟨rfl, hstates⟩, rfl, rfl, hcontrols⟩

theorem checkDimensions_eq_ok : checkDimensions agent nx nu = .ok () ↔ nx ≠ 0 ∧ nu ≠ 0 := by
  unfold checkDimensions
  split
  · next hx => simp [hx]
  · next hx =>
    split
    · next hu => simp [hu]
    · next hu => simp [hx, hu]

/-- What is asked of a neighbor of an agent that has others already. -/
structure Fresh (agent : AgentId) (earlier : List AgentId) (e : Entry) : Prop where
  nx : e.nx ≠ 0
  nu : e.nu ≠ 0
  other : e.id ≠ agent
  new : e.id ∉ earlier

/-- What some entries make of a layout: its sizes grow by theirs, their blocks come behind the ones it has, and
the table reaches the largest of their ids. -/
structure Appended (m : IndexMap) (es : List Entry) (m' : IndexMap) : Prop where
  nxOwn : m'.nxOwn = m.nxOwn
  nuOwn : m'.nuOwn = m.nuOwn
  nx : m'.nx = m.nx + (es.map (·.nx)).sum
  nu : m'.nu = m.nu + (es.map fun e => e.nu + e.nx).sum
  blocks : m'.blocks = m.blocks ++ stack m.nx m.nu es
  table : m'.lookup.length = reach m.lookup.length (es.map (·.id))

theorem append_eq_ok (h : append agent m e = .ok m') :
    Fresh agent (m.blocks.map (·.id)) e ∧ Appended m [e] m' := by
  obtain ⟨_, hsizes, h⟩ := bind_eq_ok.mp h
  obtain ⟨hx, hu⟩ := checkDimensions_eq_ok.mp hsizes
  split at h
  · cases h
  · next hfree =>
    obtain ⟨hnone, hother⟩ := not_or.mp hfree
    rw [Option.not_isSome_iff_eq_none, position?_reserve, position?_eq_none_iff] at hnone
    obtain rfl := Except.ok.inj h
    exact ⟨⟨hx, hu, hother, hnone⟩, rfl, rfl, rfl, Nat.add_assoc .., rfl,
      (List.length_set ..).trans (List.length_rightpad ..)⟩

theorem Fresh.append (h : Fresh agent (m.blocks.map (·.id)) e) :
    ∃ m', append agent m e = .ok m' := by
  have hfree : ¬ (((m.reserve e.id).position? e.id).isSome ∨ e.id = agent) := by
    rw [position?_reserve, position?_eq_none_iff.mpr h.new]
    simpa using h.other
  rw [IndexMap.append, checkDimensions_eq_ok.mpr ⟨h.nx, h.nu⟩]
  exact ⟨_, dif_neg hfree⟩

theorem Appended.ids (h : Appended m es m') :
    m'.blocks.map (·.id) = m.blocks.map (·.id) ++ es.map (·.id) := by
  rw [h.blocks, List.map_append, ids_stack]

theorem Appended.cons {m₁ m₂ : IndexMap} (h : Appended m [e] m₁) (hrest : Appended m₁ es m₂) :
    Appended m (e :: es) m₂ where
  nxOwn := hrest.nxOwn.trans h.nxOwn
  nuOwn := hrest.nuOwn.trans h.nuOwn
  nx := by simp [hrest.nx, h.nx, Nat.add_assoc]
  nu := by simp [hrest.nu, h.nu, Nat.add_assoc]
  blocks := by simp [hrest.blocks, h.blocks, h.nx, h.nu, stack, Nat.add_assoc]
  table := by rw [hrest.table, h.table]; rfl

/-- What is asked of the neighbors of an agent that is laid out. -/
structure Layable (agent : AgentId) (es : List Entry) : Prop where
  sizes : ∀ e ∈ es, e.nx ≠ 0 ∧ e.nu ≠ 0
  others : ∀ e ∈ es, e.id ≠ agent
  nodup : (es.map (·.id)).Nodup

/-- Entries that have been appended were in order, and it is known what has become of the layout. -/
theorem foldlM_append_eq_ok (h : es.foldlM (append agent) m = .ok m') :
    Layable agent es ∧ (∀ e ∈ es, e.id ∉ m.blocks.map (·.id)) ∧ Appended m es m' := by
  induction es generalizing m with
  | nil =>
    obtain rfl := pure_eq_ok.mp h
    exact ⟨⟨by simp, by simp, .nil⟩, by simp, rfl, rfl, rfl, rfl, (List.append_nil _).symm, rfl⟩
  | cons e es ih =>
    rw [List.foldlM_cons] at h
    obtain ⟨m₁, hfirst, h⟩ := bind_eq_ok.mp h
    obtain ⟨hfresh, happended⟩ := append_eq_ok hfirst
    obtain ⟨hlayable, hnew, hrest⟩ := ih h
    rw [happended.ids] at hnew
    refine ⟨⟨?_, ?_, ?_⟩, ?_, happended.cons hrest⟩
    · exact List.forall_mem_cons.mpr ⟨⟨hfresh.nx, hfresh.nu⟩, hlayable.sizes⟩
    · exact List.forall_mem_cons.mpr ⟨hfresh.other, hlayable.others⟩
    · refine List.nodup_cons.mpr ⟨fun hmem => ?_, hlayable.nodup⟩
      obtain ⟨k, hk, hid⟩ := List.mem_map.mp hmem
      exact hnew k hk (List.mem_append_right _ (List.mem_singleton.mpr hid))
    · refine List.forall_mem_cons.mpr ⟨hfresh.new, fun k hk hmem => ?_⟩
      exact hnew k hk (List.mem_append_left _ hmem)

theorem Layable.foldlM_append (h : Layable agent es)
    (hm : ∀ e ∈ es, e.id ∉ m.blocks.map (·.id)) : ∃ m', es.foldlM (append agent) m = .ok m' := by
  induction es generalizing m with
  | nil => exact ⟨m, rfl⟩
  | cons e es ih =>
    obtain ⟨hnew, hnodup⟩ := List.nodup_cons.mp h.nodup
    obtain ⟨⟨hx, hu⟩, hsizes⟩ := List.forall_mem_cons.mp h.sizes
    obtain ⟨hother, hothers⟩ := List.forall_mem_cons.mp h.others
    obtain ⟨hfree, hrest⟩ := List.forall_mem_cons.mp hm
    obtain ⟨m₁, hfirst⟩ := Fresh.append (m := m) ⟨hx, hu, hother, hfree⟩
    obtain ⟨m', hm'⟩ := ih (m := m₁) ⟨hsizes, hothers, hnodup⟩ fun k hk => by
      rw [(append_eq_ok hfirst).2.ids, List.mem_append, not_or]
      refine ⟨hrest k hk, fun hid => ?_⟩
      exact hnew (List.mem_map.mpr ⟨k, hk, List.mem_singleton.mp hid⟩)
    exact ⟨m', bind_eq_ok.mpr ⟨m₁, hfirst, hm'⟩⟩

theorem build_eq_ok (h : build agent nx nu es = .ok m) :
    nx ≠ 0 ∧ nu ≠ 0 ∧ Layable agent es ∧ m = laid nx nu es := by
  obtain ⟨_, hsizes, h⟩ := bind_eq_ok.mp h
  obtain ⟨hx, hu⟩ := checkDimensions_eq_ok.mp hsizes
  obtain ⟨hlayable, -, hown⟩ := foldlM_append_eq_ok h
  have hblocks : m.blocks = stack nx nu es := hown.blocks
  have htable : m.lookup.length = reach 0 (m.blocks.map (·.id)) := by
    rw [hblocks, ids_stack]
    exact hown.table
  refine ⟨hx, hu, hlayable, ?_⟩
  rw [eq_ofBlocks htable, hown.nxOwn, hown.nuOwn, hown.nx, hown.nu, hblocks]
  rfl

/-- Where there is a layout, the list of the neighbors says all about it. -/
theorem build_eq_ok_iff : build agent nx nu es = .ok m ↔
    nx ≠ 0 ∧ nu ≠ 0 ∧ Layable agent es ∧ m = laid nx nu es := by
  refine ⟨build_eq_ok, ?_⟩
  rintro ⟨hx, hu, hlayable, rfl⟩
  obtain ⟨m, hm⟩ := hlayable.foldlM_append (m := own nx nu) (by simp [own])
  have hbuild : build agent nx nu es = .ok m :=
    bind_eq_ok.mpr ⟨(), checkDimensions_eq_ok.mpr ⟨hx, hu⟩, hm⟩
  rw [hbuild, (build_eq_ok hbuild).2.2.2]

/-- Different neighbors of an agent other than itself are laid out if no dimension is zero. -/
theorem Layable.build (h : Layable agent es) (hx : nx ≠ 0) (hu : nu ≠ 0) :
    build agent nx nu es = .ok (laid nx nu es) := build_eq_ok_iff.mpr ⟨hx, hu, h, rfl⟩

theorem nodup_of_build (h : build agent nx nu es = .ok m) : (m.blocks.map (·.id)).Nodup := by
  obtain ⟨-, -, hlayable, rfl⟩ := build_eq_ok h
  have hids : (laid nx nu es).blocks.map (·.id) = es.map (·.id) := ids_stack nx nu es
  rw [hids]
  exact hlayable.nodup

/-- All blocks lie inside vectors of the layout's dimensions, and neither dimension is zero. -/
structure Inside (m : IndexMap) : Prop where
  nx_pos : 0 < m.nx
  nu_pos : 0 < m.nu
  ownX : m.ownX.stop ≤ m.nx
  ownU : m.ownU.stop ≤ m.nu
  blocks : ∀ b ∈ m.blocks, b.x.stop ≤ m.nx ∧ b.u.stop ≤ m.nu ∧ b.v.stop ≤ m.nu

/-- A layout is only built where it fits. -/
theorem inside_of_build (h : build agent nx nu es = .ok m) : m.Inside := by
  obtain ⟨hx, hu, -, rfl⟩ := build_eq_ok h
  obtain ⟨hstates, hcontrols⟩ := tiles_stack nx nu es
  refine ⟨?_, ?_, ?_, ?_, fun b hb => ⟨?_, ?_, ?_⟩⟩
  · exact Nat.lt_of_lt_of_le (Nat.pos_of_ne_zero hx) hstates.le
  · exact Nat.lt_of_lt_of_le (Nat.pos_of_ne_zero hu) hcontrols.le
  · exact Nat.le_trans (Nat.le_of_eq (Nat.zero_add nx)) hstates.le
  · exact Nat.le_trans (Nat.le_of_eq (Nat.zero_add nu)) hcontrols.le
  · exact (hstates.within (List.mem_map_of_mem hb)).2
  · exact (hcontrols.within (List.mem_flatMap.mpr ⟨b, hb, by simp⟩)).2
  · exact (hcontrols.within (List.mem_flatMap.mpr ⟨b, hb, by simp⟩)).2

end ConsensusControl.IndexMap
