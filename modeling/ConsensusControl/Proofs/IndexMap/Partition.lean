import Mathlib.Data.List.Nodup
import ConsensusControl.Proofs.IndexMap

namespace ConsensusControl.IndexMap

variable {agent : AgentId} {nx nu : Nat} {m m' : IndexMap} {e : Entry} {es : List Entry} {err : ConfigError}

/-- An agent without states, or else without controls. -/
inductive Flat (id : AgentId) (nx nu : Nat) : ConfigError → Prop
  | state (hx : nx = 0) : Flat id nx nu (.nonPositiveDimension id "state")
  | control (hx : nx ≠ 0) (hu : nu = 0) : Flat id nx nu (.nonPositiveDimension id "control")

/-- What is wrong with a neighbor of an agent behind `earlier` ones: its dimensions, or else its id. -/
inductive Offends (agent : AgentId) (earlier : List AgentId) (e : Entry) : ConfigError → Prop
  | flat {err : ConfigError} (h : Flat e.id e.nx e.nu err) : Offends agent earlier e err
  | repeated (hx : e.nx ≠ 0) (hu : e.nu ≠ 0) (h : e.id = agent ∨ e.id ∈ earlier) :
    Offends agent earlier e (.duplicateNeighbor agent e.id)

/-- What is wrong with the agent itself, or else with the first of its neighbors with which anything is. -/
inductive FirstOffence (agent : AgentId) (nx nu : Nat) (es : List Entry) : ConfigError → Prop
  | own {err : ConfigError} (h : Flat agent nx nu err) : FirstOffence agent nx nu es err
  | neighbor {err : ConfigError} {before after : List Entry} {e : Entry} (hx : 0 < nx) (hu : 0 < nu)
    (hes : es = before ++ e :: after) (hbefore : Layable agent before)
    (h : Offends agent (before.map (·.id)) e err) : FirstOffence agent nx nu es err

theorem checkDimensions_eq_error :
    checkDimensions agent nx nu = .error err ↔ Flat agent nx nu err := by
  unfold checkDimensions
  constructor
  · intro h
    split at h
    · next hx => exact Except.error.inj h ▸ .state hx
    · next hx =>
      split at h
      · next hu => exact Except.error.inj h ▸ .control hx hu
      · cases h
  · intro h
    cases h with
    | state hx => rw [if_pos hx]
    | control hx hu => rw [if_neg hx, if_pos hu]

/-- An entry is refused for what is wrong with it. -/
theorem append_eq_error :
    append agent m e = .error err ↔ Offends agent (m.blocks.map (·.id)) e err := by
  have hknown : ((m.reserve e.id).position? e.id).isSome ↔ e.id ∈ m.blocks.map (·.id) := by
    rw [position?_reserve, ← Option.ne_none_iff_isSome, ne_eq, position?_eq_none_iff, not_not]
  rw [append, bind_eq_error, checkDimensions_eq_error]
  constructor
  · rintro (hflat | ⟨_, hsizes, h⟩)
    · exact .flat hflat
    · obtain ⟨hx, hu⟩ := checkDimensions_eq_ok.mp hsizes
      split at h
      · next htaken =>
        obtain rfl := Except.error.inj h
        exact .repeated hx hu (htaken.symm.imp_right hknown.mp)
      · cases h
  · intro h
    cases h with
    | flat hflat => exact .inl hflat
    | repeated hx hu htaken =>
      exact .inr ⟨(), checkDimensions_eq_ok.mpr ⟨hx, hu⟩, dif_pos (htaken.symm.imp_left hknown.mpr)⟩

/-- Nothing but what is wrong with an agent or its neighbors stands in the way of a layout. -/
theorem exists_build_iff :
    (∃ m, build agent nx nu es = .ok m) ↔ 0 < nx ∧ 0 < nu ∧ Layable agent es := by
  simp only [build_eq_ok_iff, Nat.pos_iff_ne_zero]
  simp

theorem build_eq_error :
    build agent nx nu es = .error err ↔ FirstOffence agent nx nu es err := by
  rw [build, bind_eq_error, checkDimensions_eq_error]
  constructor
  · rintro (hflat | ⟨_, hsizes, h⟩)
    · exact .own hflat
    · obtain ⟨hx, hu⟩ := checkDimensions_eq_ok.mp hsizes
      obtain ⟨before, e, after, m, hes, hbefore, he⟩ := foldlM_eq_error.mp h
      obtain ⟨hlayable, -, happended⟩ := foldlM_append_eq_ok hbefore
      rw [append_eq_error, happended.ids] at he
      exact .neighbor (Nat.pos_of_ne_zero hx) (Nat.pos_of_ne_zero hu) hes hlayable he
  · intro h
    cases h with
    | own hflat => exact .inl hflat
    | neighbor hx hu hes hlayable he =>
      obtain ⟨m, hm⟩ := hlayable.foldlM_append (m := IndexMap.own nx nu) (by simp [IndexMap.own])
      have hsizes : checkDimensions agent nx nu = .ok () :=
        checkDimensions_eq_ok.mpr ⟨Nat.ne_of_gt hx, Nat.ne_of_gt hu⟩
      refine .inr ⟨(), hsizes, foldlM_eq_error.mpr ⟨_, _, _, m, hes, hm, ?_⟩⟩
      rw [append_eq_error, (foldlM_append_eq_ok hm).2.2.ids]
      exact he

/-- The agent's own states, and those of one neighbor after the other. -/
def stateRanges (m : IndexMap) : List Block := m.ownX :: m.blocks.map (·.x)

/-- The agent's own controls, and for one neighbor after the other its controls and the influence on it. -/
def controlRanges (m : IndexMap) : List Block := m.ownU :: m.blocks.flatMap fun b => [b.u, b.v]

/-- Where no id is repeated, the table tells the place of each. -/
theorem position?_eq_some_iff (h : (m.blocks.map (·.id)).Nodup) {id : AgentId} {k : Nat} :
    m.position? id = some k ↔ (m.blocks.map (·.id))[k]? = some id := by
  rw [position?, m.lookup_eq, List.findIdx?_eq_some_iff_getElem]
  constructor
  · rintro ⟨hk, hid, -⟩
    rw [List.getElem?_map, List.getElem?_eq_getElem hk, Option.map_some, eq_of_beq hid]
  · intro hid
    obtain ⟨hk, heq⟩ := List.getElem?_eq_some_iff.mp hid
    rw [List.length_map] at hk
    rw [List.getElem_map] at heq
    refine ⟨hk, beq_iff_eq.mpr heq, fun j hj hsame => Nat.ne_of_lt hj ?_⟩
    have hj' : j < (m.blocks.map (·.id)).length := by simpa using Nat.lt_trans hj hk
    have hk' : k < (m.blocks.map (·.id)).length := by simpa using hk
    have hids : (m.blocks.map (·.id))[j] = (m.blocks.map (·.id))[k] := by simpa [heq] using hsame
    exact (List.Nodup.getElem_inj_iff h).mp hids

theorem block?_of_mem (h : (m.blocks.map (·.id)).Nodup) {b : NeighborBlock} (hb : b ∈ m.blocks) :
    m.block? b.id = some b := by
  obtain ⟨k, hk, hget⟩ := List.mem_iff_getElem.mp hb
  have hplace : m.position? b.id = some k := by
    rw [position?_eq_some_iff h, List.getElem?_map, List.getElem?_eq_getElem hk, hget]
    rfl
  rw [block?, hplace, ← hget]
  exact List.getElem?_eq_getElem hk

/-- A layout shares the extended vectors among an agent and its neighbors, in the order of the list. The table
ends with the largest id, it has under each id of the list its place there and nothing elsewhere, and it leads
to the block of that neighbor. -/
structure Partitions (m : IndexMap) (nx nu : Nat) (es : List Entry) : Prop where
  own : m.ownX.size = nx ∧ m.ownU.size = nu
  states : Block.Partition m.nx m.stateRanges
  controls : Block.Partition m.nu m.controlRanges
  table : ∀ n, m.lookup.length ≤ n ↔ ∀ e ∈ es, e.id < n
  positions : ∀ (id : AgentId) (k : Nat), m.lookup[id]? = some (some k) ↔ (es.map (·.id))[k]? = some id
  blocks : List.Forall₂ (fun e b => Fits e b ∧ m.block? e.id = some b) es m.blocks
  others : ∀ id, id ∉ es.map (·.id) → m.block? id = none

theorem partitions_of_build (h : build agent nx nu es = .ok m) : m.Partitions nx nu es := by
  have hnodup := nodup_of_build h
  obtain ⟨-, -, -, rfl⟩ := build_eq_ok h
  have hids : (laid nx nu es).blocks.map (·.id) = es.map (·.id) := ids_stack nx nu es
  obtain ⟨hstates, hcontrols⟩ := tiles_stack nx nu es
  refine ⟨⟨rfl, rfl⟩, Block.Tiles.partition ⟨rfl, ?_⟩, Block.Tiles.partition ⟨rfl, ?_⟩, fun n => ?_,
    fun id k => ?_, ?_, fun id hid => ?_⟩
  · have hstop : (laid nx nu es).ownX.stop = nx := Nat.zero_add nx
    rw [hstop]
    exact hstates
  · have hstop : (laid nx nu es).ownU.stop = nu := Nat.zero_add nu
    rw [hstop]
    exact hcontrols
  · have hlength : (laid nx nu es).lookup.length = reach 0 (es.map (·.id)) := by
      rw [← hids, laid, ofBlocks, List.length_map, List.length_range]
    rw [hlength, reach_le, List.forall_mem_map]
    simp
  · rw [← hids, ← position?_eq_some_iff hnodup, position?, Option.join_eq_some_iff]
  · refine (forall₂_and_mem (fits_stack nx nu es).flip).flip.imp fun e b => ?_
    rintro ⟨hb, hfit⟩
    exact ⟨hfit, hfit.id ▸ block?_of_mem hnodup hb⟩
  · rwa [block?_eq_none_iff, hids]

/-- There is a layout if and only if neither the agent nor any of its neighbors offends, the first offence is
the error, and a layout partitions the extended vectors. -/
theorem build_partition (agent : AgentId) (nx nu : Nat) (es : List Entry) :
    ((∃ m, build agent nx nu es = .ok m) ↔ 0 < nx ∧ 0 < nu ∧ Layable agent es) ∧
      (∀ err, build agent nx nu es = .error err ↔ FirstOffence agent nx nu es err) ∧
      ∀ m, build agent nx nu es = .ok m → m.Partitions nx nu es :=
  ⟨exists_build_iff, fun _ => build_eq_error, fun _ => partitions_of_build⟩

/-- Neighbors out of the order of their ids, and a list whose second entry offends twice. -/
theorem scattered_partition :
    (∃ m, build 1 2 1 [⟨7, 1, 2⟩, ⟨0, 3, 1⟩] = .ok m ∧
      m.stateRanges = [⟨0, 2⟩, ⟨2, 1⟩, ⟨3, 3⟩] ∧
      m.controlRanges = [⟨0, 1⟩, ⟨1, 2⟩, ⟨3, 1⟩, ⟨4, 1⟩, ⟨5, 3⟩] ∧
      m.lookup = [some 1, none, none, none, none, none, none, some 0] ∧
      m.Partitions 2 1 [⟨7, 1, 2⟩, ⟨0, 3, 1⟩]) ∧
    FirstOffence 1 2 1 [⟨7, 1, 2⟩, ⟨7, 0, 2⟩, ⟨1, 1, 1⟩] (.nonPositiveDimension 7 "state") :=
  ⟨⟨_, rfl, rfl, rfl, rfl, (build_partition 1 2 1 _).2.2 _ rfl⟩, ((build_partition 1 2 1 _).2.1 _).mp rfl⟩

end ConsensusControl.IndexMap
