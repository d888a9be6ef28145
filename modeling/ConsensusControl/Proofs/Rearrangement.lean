import Mathlib.Algebra.BigOperators.Group.List.Basic
import ConsensusControl.Proofs.Affine
import ConsensusControl.Proofs.Tiling

namespace ConsensusControl

/-- Additions may be made in any order. -/
theorem Vec.Adds.foldl_perm {n : Nat} {β : Type} {F : Vec Rat → β → Vec Rat} {l l' : List β}
    (hperm : l.Perm l') (h : ∀ k ∈ l, Vec.Adds n (F · k)) {out : Vec Rat} (hout : out.length = n) :
    l.foldl F out = l'.foldl F out := by
  induction hperm generalizing out with
  | nil => rfl
  | cons k _ ih =>
    exact ih (fun k' hk' => h k' (List.mem_cons_of_mem k hk')) ((h k List.mem_cons_self).length hout)
  | swap j k l =>
    have hj := h j (List.mem_cons_of_mem k List.mem_cons_self)
    have hk := h k List.mem_cons_self
    rw [List.foldl_cons, List.foldl_cons, List.foldl_cons, List.foldl_cons, hj.comm hk hout]
  | trans hfirst _ ih ih' =>
    exact (ih h hout).trans (ih' (fun k hk => h k (hfirst.mem_iff.mpr hk)) hout)

namespace Block

theorem update_append {α : Type} {f : List α → List α} {front segment rest : List α} {b : Block}
    (hstart : b.start = front.length) (hsize : b.size = segment.length) :
    b.update f (front ++ (segment ++ rest)) = front ++ (f segment ++ rest) := by
  have hstop : b.stop = (front ++ segment).length := by rw [stop, hstart, hsize, List.length_append]
  rw [update, read_append hstart hsize, hstart, List.take_left, List.append_assoc, hstop,
    ← List.append_assoc front segment, List.drop_left]

theorem Tiles.split {start stop : Nat} {bs cs : List Block} (h : Tiles start stop (bs ++ cs)) :
    ∃ middle, Tiles start middle bs ∧ Tiles middle stop cs := by
  induction bs generalizing start with
  | nil => exact ⟨start, rfl, h⟩
  | cons b bs ih =>
    obtain ⟨hstart, hrest⟩ := h
    obtain ⟨middle, hbs, hcs⟩ := ih hrest
    exact ⟨middle, ⟨hstart, hbs⟩, hcs⟩

end Block

/-- Blocks of vectors with `n` entries that move to where they fill vectors with `n'` entries. -/
structure Rearrangement (n n' : Nat) where
  /-- Each block with its new place, in the order of the new places. -/
  moves : List (Block × Block)
  inside : ∀ m ∈ moves, m.1.stop ≤ n
  apart : (moves.map Prod.fst).Pairwise Block.Apart
  tiles : Block.Tiles 0 n' (moves.map Prod.snd)
  sizes : ∀ m ∈ moves, m.1.size = m.2.size

namespace Rearrangement

variable {n n' : Nat} (R : Rearrangement n n')

def apply (xs : Vec Rat) : Vec Rat := R.moves.flatMap fun m => m.1.read xs

/-- All in one block, which stays. -/
def same (n : Nat) : Rearrangement n n where
  moves := [(⟨0, n⟩, ⟨0, n⟩)]
  inside := by simp [Block.stop]
  apart := by simp
  tiles := ⟨rfl, Nat.zero_add n⟩
  sizes := by simp

theorem apply_same {xs : Vec Rat} (h : xs.length = n) : (same n).apply xs = xs := by
  simp [apply, same, Block.read, ← h]

variable {R} {m : Block × Block} {xs : Vec Rat}

theorem inside' (hm : m ∈ R.moves) : m.2.stop ≤ n' :=
  (R.tiles.within (List.mem_map_of_mem hm)).2

/-- What some of the blocks hold is as long as the stretch that they fill. -/
theorem length_reads {ms : List (Block × Block)} (hms : ∀ m ∈ ms, m ∈ R.moves) (hxs : xs.length = n)
    {start stop : Nat} (h : Block.Tiles start stop (ms.map Prod.snd)) :
    start + (ms.flatMap fun m => m.1.read xs).length = stop := by
  induction ms generalizing start with
  | nil => exact h
  | cons m ms ih =>
    obtain ⟨hstart, hrest⟩ := h
    obtain ⟨hm, hms⟩ := List.forall_mem_cons.mp hms
    have hlength : (m.1.read xs).length = m.2.size :=
      (Block.length_read_of_stop ((R.inside m hm).trans_eq hxs.symm)).trans (R.sizes m hm)
    have hnext := ih hms hrest
    rw [List.flatMap_cons, List.length_append, hlength]
    unfold Block.stop at hnext
    omega

theorem length_apply (hxs : xs.length = n) : (R.apply xs).length = n' :=
  (Nat.zero_add _).symm.trans (length_reads (fun _ hm => hm) hxs R.tiles)

theorem apply_zeros : R.apply (Vec.zeros n) = Vec.zeros n' := by
  refine List.eq_replicate_iff.mpr ⟨length_apply (Vec.length_zeros n), fun x hx => ?_⟩
  obtain ⟨m, -, hx⟩ := List.mem_flatMap.mp hx
  exact List.eq_of_mem_replicate (List.mem_of_mem_drop (List.mem_of_mem_take hx))

/-- In front of a block's new place lies what the blocks before it hold. -/
theorem exists_front (hm : m ∈ R.moves) : ∃ before after, R.moves = before ++ m :: after ∧
    ∀ xs : Vec Rat, xs.length = n → m.2.start = (before.flatMap fun m => m.1.read xs).length := by
  obtain ⟨before, after, hmoves⟩ := List.append_of_mem hm
  refine ⟨before, after, hmoves, fun xs hxs => ?_⟩
  have htiles := R.tiles
  rw [hmoves, List.map_append, List.map_cons] at htiles
  obtain ⟨middle, hbefore, hstart, -⟩ := htiles.split
  have hmem : ∀ k ∈ before, k ∈ R.moves := fun k hk => hmoves ▸ List.mem_append_left _ hk
  rw [hstart, ← length_reads hmem hxs hbefore, Nat.zero_add]

/-- At its new place, a block holds what it held. -/
theorem read_apply (hm : m ∈ R.moves) (hxs : xs.length = n) :
    m.2.read (R.apply xs) = m.1.read xs := by
  obtain ⟨before, after, hmoves, hstart⟩ := exists_front hm
  have hsize : m.2.size = (m.1.read xs).length := by
    rw [Block.length_read_of_stop ((R.inside m hm).trans_eq hxs.symm), R.sizes m hm]
  unfold apply
  rw [hmoves, List.flatMap_append, List.flatMap_cons]
  exact Block.read_append (hstart xs hxs) hsize

/-- A change of a block is one at its new place. -/
theorem update_apply (hm : m ∈ R.moves) (hxs : xs.length = n) {f : Vec Rat → Vec Rat}
    (hf : (f (m.1.read xs)).length = m.1.size) :
    m.2.update f (R.apply xs) = R.apply (m.1.update f xs) := by
  obtain ⟨before, after, hmoves, hstart⟩ := exists_front hm
  have hstop : m.1.stop ≤ xs.length := (R.inside m hm).trans_eq hxs.symm
  have hread : (m.1.read xs).length = m.1.size := Block.length_read_of_stop hstop
  have hsize : m.2.size = (m.1.read xs).length := by rw [hread, R.sizes m hm]
  have hapart := R.apart
  rw [hmoves, List.map_append, List.map_cons, List.pairwise_append, List.pairwise_cons] at hapart
  obtain ⟨-, ⟨hafter, -⟩, hbefore⟩ := hapart
  have hkept : ∀ k : Block × Block, m.1.Apart k.1 → k.1.read (m.1.update f xs) = k.1.read xs :=
    fun k hk => Block.read_update_apart hk hstop hf
  have hfront : (before.flatMap fun k => k.1.read (m.1.update f xs)) =
      before.flatMap fun k => k.1.read xs :=
    List.flatMap_congr fun k hk =>
      hkept k (hbefore _ (List.mem_map_of_mem hk) _ List.mem_cons_self).symm
  have hrest : (after.flatMap fun k => k.1.read (m.1.update f xs)) =
      after.flatMap fun k => k.1.read xs :=
    List.flatMap_congr fun k hk => hkept k (hafter _ (List.mem_map_of_mem hk))
  unfold apply
  rw [hmoves, List.flatMap_append, List.flatMap_append, List.flatMap_cons, List.flatMap_cons,
    Block.update_append (hstart xs hxs) hsize, hfront, hrest,
    Block.read_update _ (hf.trans hread.symm) hstop]

/-- Both functions add, the second to rearranged vectors what the first adds to the given ones. -/
structure Carries (R : Rearrangement n n') (f f' : Vec Rat → Vec Rat) : Prop where
  adds : Vec.Adds n f
  adds' : Vec.Adds n' f'
  apply : ∀ out, out.length = n → f' (R.apply out) = R.apply (f out)

namespace Carries

variable {f f' g g' : Vec Rat → Vec Rat}

theorem zeros (h : R.Carries f f') : f' (Vec.zeros n') = R.apply (f (Vec.zeros n)) := by
  rw [← h.apply _ (Vec.length_zeros n), apply_zeros]

theorem none (R : Rearrangement n n') : R.Carries (fun out => out) fun out => out :=
  ⟨.same n, .same n', fun _ _ => rfl⟩

theorem same (h : Vec.Adds n f) : (Rearrangement.same n).Carries f f := by
  refine ⟨h, h, fun out hout => ?_⟩
  rw [apply_same hout, apply_same (h.length hout)]

theorem comp (hf : R.Carries f f') (hg : R.Carries g g') :
    R.Carries (fun out => f (g out)) fun out => f' (g' out) := by
  refine ⟨hf.adds.comp hg.adds, hf.adds'.comp hg.adds', fun out hout => ?_⟩
  rw [hg.apply out hout, hf.apply _ (hg.adds.length hout)]

theorem update (hm : m ∈ R.moves) (hf : Vec.Adds m.1.size f) :
    R.Carries (m.1.update f) (m.2.update f) := by
  refine ⟨Block.adds_update hf (R.inside m hm), Block.adds_update ?_ (inside' hm), fun out hout => ?_⟩
  · rwa [← R.sizes m hm]
  · exact update_apply hm hout
      (hf.length (Block.length_read_of_stop ((R.inside m hm).trans_eq hout.symm)))

variable {β β' γ : Type} {F : Vec Rat → β → Vec Rat} {F' : Vec Rat → β' → Vec Rat}
  {l : List β} {l' : List β'} {ks : List γ} {old : γ → β} {new : γ → β'}

/-- The functions of both sums are matched one by one, and their order is that of the second. -/
theorem foldl (hl : l.Perm (ks.map old)) (hl' : l' = ks.map new)
    (h : ∀ k ∈ ks, R.Carries (F · (old k)) (F' · (new k))) : R.Carries (l.foldl F) (l'.foldl F') := by
  have hadds : ∀ b ∈ l, Vec.Adds n (F · b) := by
    intro b hb
    obtain ⟨k, hk, rfl⟩ := List.mem_map.mp (hl.mem_iff.mp hb)
    exact (h k hk).adds
  have hmatched : R.Carries (fun out => ks.foldl (fun out k => F out (old k)) out)
      fun out => ks.foldl (fun out k => F' out (new k)) out := by
    clear hl hl' hadds
    induction ks with
    | nil => exact none R
    | cons k ks ih =>
      exact comp (ih fun k' hk' => h k' (List.mem_cons_of_mem k hk')) (h k List.mem_cons_self)
  subst hl'
  refine ⟨.foldl hadds, .foldl (List.forall_mem_map.mpr fun k hk => (h k hk).adds'), ?_⟩
  intro out hout
  rw [Vec.Adds.foldl_perm hl hadds hout, List.foldl_map, List.foldl_map]
  exact hmatched.apply out hout

end Carries

end Rearrangement

/-- All members add values that do not depend on what is there. -/
structure AgentMap.Additive (nx nu n : Nat) (f : AgentMap Rat) : Prop where
  value : ∀ z, z.Sized nx nu → Vec.Adds n (f.value z)
  dx : ∀ z w, z.Sized nx nu → w.length = n → Vec.Adds nx (f.dx z w)
  du : ∀ z w, z.Sized nx nu → w.length = n → Vec.Adds nu (f.du z w)

/-- All members add values that do not depend on what is there. -/
structure PairMap.Additive (nxi nui nxj nuj n : Nat) (f : PairMap Rat) : Prop where
  value : ∀ p, p.Sized nxi nui nxj nuj → Vec.Adds n (f.value p)
  dxi : ∀ p w, p.Sized nxi nui nxj nuj → w.length = n → Vec.Adds nxi (f.dxi p w)
  dui : ∀ p w, p.Sized nxi nui nxj nuj → w.length = n → Vec.Adds nui (f.dui p w)
  dxj : ∀ p w, p.Sized nxi nui nxj nuj → w.length = n → Vec.Adds nxj (f.dxj p w)
  duj : ∀ p w, p.Sized nxi nui nxj nuj → w.length = n → Vec.Adds nuj (f.duj p w)

theorem AgentMap.Affine.additive {nx nu n : Nat} {f : AgentMap Rat} (h : f.Affine nx nu n) :
    f.Additive nx nu n :=
  ⟨h.value, h.dx, h.du⟩

theorem PairMap.Affine.additive {nxi nui nxj nuj n : Nat} {f : PairMap Rat}
    (h : f.Affine nxi nui nxj nuj n) : f.Additive nxi nui nxj nuj n :=
  ⟨h.value, h.dxi, h.dui, h.dxj, h.duj⟩

section

variable {nx nx' nu nu' n n' : Nat} {X : Rearrangement nx nx'} {U : Rearrangement nu nu'}
  {O : Rearrangement n n'} {z : Point Rat}

namespace Point

/-- The point with its state and its control rearranged. -/
def rearrange (X U : Vec Rat → Vec Rat) (z : Point Rat) : Point Rat := ⟨z.t, X z.x, U z.u⟩

theorem part_rearrange (hz : z.Sized nx nu) {x u : Block × Block} (hx : x ∈ X.moves) (hu : u ∈ U.moves) :
    (z.rearrange X.apply U.apply).part x.2 u.2 = z.part x.1 u.1 := by
  simp only [part, rearrange, Rearrangement.read_apply hx hz.x, Rearrangement.read_apply hu hz.u]

theorem pair_rearrange (hz : z.Sized nx nu) {xi ui xj uj : Block × Block} (hxi : xi ∈ X.moves)
    (hui : ui ∈ U.moves) (hxj : xj ∈ X.moves) (huj : uj ∈ U.moves) :
    (z.rearrange X.apply U.apply).pair xi.2 ui.2 xj.2 uj.2 = z.pair xi.1 ui.1 xj.1 uj.1 := by
  simp only [pair, rearrange, Rearrangement.read_apply hxi hz.x, Rearrangement.read_apply hui hz.u,
    Rearrangement.read_apply hxj hz.x, Rearrangement.read_apply huj hz.u]

end Point

/-- The second function does at rearranged points what the first does at the given ones. -/
structure AgentMap.Carried (X : Rearrangement nx nx') (U : Rearrangement nu nu')
    (O : Rearrangement n n') (f f' : AgentMap Rat) : Prop where
  value : ∀ z, z.Sized nx nu → O.Carries (f.value z) (f'.value (z.rearrange X.apply U.apply))
  dx : ∀ z w, z.Sized nx nu → w.length = n →
    X.Carries (f.dx z w) (f'.dx (z.rearrange X.apply U.apply) (O.apply w))
  du : ∀ z w, z.Sized nx nu → w.length = n →
    U.Carries (f.du z w) (f'.du (z.rearrange X.apply U.apply) (O.apply w))

namespace AgentMap.Carried

variable {f f' g g' : AgentMap Rat} {x u o v : Block × Block}

theorem none (X : Rearrangement nx nx') (U : Rearrangement nu nu') (O : Rearrangement n n') :
    AgentMap.none.Carried X U O AgentMap.none where
  value _ _ := .none O
  dx _ _ _ _ := .none X
  du _ _ _ _ := .none U

theorem andThen (hf : f.Carried X U O f') (hg : g.Carried X U O g') :
    (f.andThen g).Carried X U O (f'.andThen g') where
  value z hz := (hg.value z hz).comp (hf.value z hz)
  dx z w hz hw := (hg.dx z w hz hw).comp (hf.dx z w hz hw)
  du z w hz hw := (hg.du z w hz hw).comp (hf.du z w hz hw)

theorem each {β β' γ : Type} {F : β → AgentMap Rat} {F' : β' → AgentMap Rat} {l : List β}
    {l' : List β'} {ks : List γ} {old : γ → β} {new : γ → β'} (hl : l.Perm (ks.map old))
    (hl' : l' = ks.map new) (h : ∀ k ∈ ks, (F (old k)).Carried X U O (F' (new k))) :
    (AgentMap.each F l).Carried X U O (AgentMap.each F' l') where
  value z hz := .foldl hl hl' fun k hk => (h k hk).value z hz
  dx z w hz hw := .foldl hl hl' fun k hk => (h k hk).dx z w hz hw
  du z w hz hw := .foldl hl hl' fun k hk => (h k hk).du z w hz hw

theorem within (hx : x ∈ X.moves) (hu : u ∈ U.moves) (ho : o ∈ O.moves)
    (h : f.Additive x.1.size u.1.size o.1.size) :
    (f.within x.1 u.1 o.1).Carried X U O (f.within x.2 u.2 o.2) := by
  have hpart : ∀ z : Point Rat, z.Sized nx nu → (z.part x.1 u.1).Sized x.1.size u.1.size := fun z hz =>
    hz.part (X.inside x hx) (U.inside u hu)
  have hread : ∀ w : Vec Rat, w.length = n → (o.1.read w).length = o.1.size := fun w hw =>
    Block.length_read_of_stop ((O.inside o ho).trans_eq hw.symm)
  refine ⟨fun z hz => ?_, fun z w hz hw => ?_, fun z w hz hw => ?_⟩
  all_goals dsimp only [AgentMap.within]
  all_goals rw [Point.part_rearrange hz hx hu]
  · exact .update ho (h.value _ (hpart z hz))
  · rw [Rearrangement.read_apply ho hw]
    exact .update hx (h.dx _ _ (hpart z hz) (hread w hw))
  · rw [Rearrangement.read_apply ho hw]
    exact .update hu (h.du _ _ (hpart z hz) (hread w hw))

theorem slot (hv : v ∈ U.moves) (ho : o ∈ O.moves) :
    (AgentMap.slot v.1 o.1).Carried X U O (AgentMap.slot v.2 o.2) where
  value z hz := by
    dsimp only [AgentMap.slot, Point.rearrange]
    rw [Rearrangement.read_apply hv hz.u]
    exact .update ho (Vec.adds_add _ _)
  dx _ _ _ _ := .none X
  du z w _ hw := by
    dsimp only [AgentMap.slot]
    rw [Rearrangement.read_apply ho hw]
    exact .update hv (Vec.adds_add _ _)

/-- A block of the control is the same in both. -/
theorem control (hv : v ∈ U.moves) :
    (AgentMap.control v.1).Carried X U (.same v.1.size) (AgentMap.control v.2) where
  value z hz := by
    dsimp only [AgentMap.control, Point.rearrange]
    rw [Rearrangement.read_apply hv hz.u]
    exact .same (Vec.adds_add _ _)
  dx _ _ _ _ := .none X
  du z w _ hw := by
    dsimp only [AgentMap.control]
    rw [Rearrangement.apply_same hw]
    exact .update hv (Vec.adds_add _ _)

/-- Only values at vectors of the right dimension matter. -/
theorem of_value_eq (h : f.Carried X U O f')
    (hvalue : ∀ z out, z.Sized nx nu → out.length = n → g.value z out = f.value z out)
    (hvalue' : ∀ z out, z.Sized nx' nu' → out.length = n' → g'.value z out = f'.value z out)
    (hdx : g.dx = f.dx) (hdx' : g'.dx = f'.dx) (hdu : g.du = f.du) (hdu' : g'.du = f'.du) :
    g.Carried X U O g' where
  value z hz := by
    have hz' : (z.rearrange X.apply U.apply).Sized nx' nu' :=
      ⟨Rearrangement.length_apply hz.x, Rearrangement.length_apply hz.u⟩
    obtain ⟨hadds, hadds', happly⟩ := h.value z hz
    refine ⟨fun out hout => ?_, fun out hout => ?_, fun out hout => ?_⟩
    · rw [hvalue z out hz hout, hvalue z _ hz (Vec.length_zeros n)]
      exact hadds out hout
    · rw [hvalue' _ out hz' hout, hvalue' _ _ hz' (Vec.length_zeros n')]
      exact hadds' out hout
    · rw [hvalue' _ _ hz' (Rearrangement.length_apply hout), hvalue z out hz hout]
      exact happly out hout
  dx := hdx ▸ hdx' ▸ h.dx
  du := hdu ▸ hdu' ▸ h.du

end AgentMap.Carried

namespace PairMap

variable {f : PairMap Rat} {xi ui xj uj o : Block × Block}

theorem carried_within (hxi : xi ∈ X.moves) (hui : ui ∈ U.moves) (hxj : xj ∈ X.moves)
    (huj : uj ∈ U.moves) (ho : o ∈ O.moves)
    (h : f.Additive xi.1.size ui.1.size xj.1.size uj.1.size o.1.size) :
    (f.within xi.1 ui.1 xj.1 uj.1 o.1).Carried X U O (f.within xi.2 ui.2 xj.2 uj.2 o.2) := by
  have hpair : ∀ z : Point Rat, z.Sized nx nu →
      (z.pair xi.1 ui.1 xj.1 uj.1).Sized xi.1.size ui.1.size xj.1.size uj.1.size := fun z hz =>
    hz.pair (X.inside xi hxi) (U.inside ui hui) (X.inside xj hxj) (U.inside uj huj)
  have hread : ∀ w : Vec Rat, w.length = n → (o.1.read w).length = o.1.size := fun w hw =>
    Block.length_read_of_stop ((O.inside o ho).trans_eq hw.symm)
  refine ⟨fun z hz => ?_, fun z w hz hw => ?_, fun z w hz hw => ?_⟩
  all_goals dsimp only [PairMap.within]
  all_goals rw [Point.pair_rearrange hz hxi hui hxj huj]
  · exact .update ho (h.value _ (hpair z hz))
  · rw [Rearrangement.read_apply ho hw]
    exact .comp (.update hxj (h.dxj _ _ (hpair z hz) (hread w hw)))
      (.update hxi (h.dxi _ _ (hpair z hz) (hread w hw)))
  · rw [Rearrangement.read_apply ho hw]
    exact .comp (.update huj (h.duj _ _ (hpair z hz) (hread w hw)))
      (.update hui (h.dui _ _ (hpair z hz) (hread w hw)))

/-- The value of a function of two parts stays where it is. -/
theorem carried_parts (hxi : xi ∈ X.moves) (hui : ui ∈ U.moves) (hxj : xj ∈ X.moves)
    (huj : uj ∈ U.moves) (h : f.Additive xi.1.size ui.1.size xj.1.size uj.1.size n) :
    (f.parts xi.1 ui.1 xj.1 uj.1).Carried X U (.same n) (f.parts xi.2 ui.2 xj.2 uj.2) := by
  have hpair : ∀ z : Point Rat, z.Sized nx nu →
      (z.pair xi.1 ui.1 xj.1 uj.1).Sized xi.1.size ui.1.size xj.1.size uj.1.size := fun z hz =>
    hz.pair (X.inside xi hxi) (U.inside ui hui) (X.inside xj hxj) (U.inside uj huj)
  refine ⟨fun z hz => ?_, fun z w hz hw => ?_, fun z w hz hw => ?_⟩
  all_goals dsimp only [PairMap.parts]
  all_goals rw [Point.pair_rearrange hz hxi hui hxj huj]
  · exact .same (h.value _ (hpair z hz))
  · rw [Rearrangement.apply_same hw]
    exact .comp (.update hxj (h.dxj _ w (hpair z hz) hw)) (.update hxi (h.dxi _ w (hpair z hz) hw))
  · rw [Rearrangement.apply_same hw]
    exact .comp (.update huj (h.duj _ w (hpair z hz) hw)) (.update hui (h.dui _ w (hpair z hz) hw))

end PairMap

/-- The second cost is at rearranged points what the first is at the given ones, with rearranged
gradients. -/
structure CostMap.Carried (X : Rearrangement nx nx') (U : Rearrangement nu nu') (c c' : CostMap) :
    Prop where
  value : ∀ z, z.Sized nx nu → c'.value (z.rearrange X.apply U.apply) = c.value z
  dx : ∀ z, z.Sized nx nu → X.Carries (c.dx z) (c'.dx (z.rearrange X.apply U.apply))
  du : ∀ z, z.Sized nx nu → U.Carries (c.du z) (c'.du (z.rearrange X.apply U.apply))

namespace CostMap.Carried

variable {c c' e e' : CostMap} {x u : Block × Block}

theorem none (X : Rearrangement nx nx') (U : Rearrangement nu nu') :
    CostMap.none.Carried X U CostMap.none where
  value _ _ := rfl
  dx _ _ := .none X
  du _ _ := .none U

theorem andThen (hc : c.Carried X U c') (he : e.Carried X U e') :
    (c.andThen e).Carried X U (c'.andThen e') where
  value z hz := congrArg₂ (· + ·) (hc.value z hz) (he.value z hz)
  dx z hz := (he.dx z hz).comp (hc.dx z hz)
  du z hz := (he.du z hz).comp (hc.du z hz)

theorem each {β β' γ : Type} {F : β → CostMap} {F' : β' → CostMap} {l : List β} {l' : List β'}
    {ks : List γ} {old : γ → β} {new : γ → β'} (hl : l.Perm (ks.map old)) (hl' : l' = ks.map new)
    (h : ∀ k ∈ ks, (F (old k)).Carried X U (F' (new k))) :
    (CostMap.each F l).Carried X U (CostMap.each F' l') where
  value z hz := by
    dsimp only [CostMap.each]
    rw [(hl.map _).sum_eq, hl', List.map_map, List.map_map]
    exact congrArg List.sum (List.map_congr_left fun k hk => (h k hk).value z hz)
  dx z hz := .foldl hl hl' fun k hk => (h k hk).dx z hz
  du z hz := .foldl hl hl' fun k hk => (h k hk).du z hz

theorem within (hx : x ∈ X.moves) (hu : u ∈ U.moves) (hdx : ∀ z, Vec.Adds x.1.size (c.dx z))
    (hdu : ∀ z, Vec.Adds u.1.size (c.du z)) : (c.within x.1 u.1).Carried X U (c.within x.2 u.2) := by
  refine ⟨fun z hz => ?_, fun z hz => ?_, fun z hz => ?_⟩
  all_goals dsimp only [CostMap.within]
  all_goals rw [Point.part_rearrange hz hx hu]
  · exact .update hx (hdx _)
  · exact .update hu (hdu _)

theorem charge {s : Rat → ConsensusSample Rat} {f f' : AgentMap Rat} (h : f.Carried X U (.same n) f')
    (hs : ∀ t, ∀ own : Vec Rat, own.length = n → ((s t).gradient own).length = n) :
    (CostMap.charge s n f).Carried X U (CostMap.charge s n f') := by
  have hlength : ∀ z, z.Sized nx nu → (f.value z (Vec.zeros n)).length = n := fun z hz =>
    (h.value z hz).adds.length_zeros
  have hvalue : ∀ z, z.Sized nx nu →
      f'.value (z.rearrange X.apply U.apply) (Vec.zeros n) = f.value z (Vec.zeros n) := by
    intro z hz
    rw [(h.value z hz).zeros, Rearrangement.apply_same (hlength z hz)]
  have hgradient : ∀ z, z.Sized nx nu →
      ((s z.t).gradient (f.value z (Vec.zeros n))).length = n := fun z hz => hs _ _ (hlength z hz)
  refine ⟨fun z hz => ?_, fun z hz => ?_, fun z hz => ?_⟩
  all_goals dsimp only [CostMap.charge]
  all_goals rw [hvalue z hz]
  · rfl
  · have hdx := h.dx z _ hz (hgradient z hz)
    rwa [Rearrangement.apply_same (hgradient z hz)] at hdx
  · have hdu := h.du z _ hz (hgradient z hz)
    rwa [Rearrangement.apply_same (hgradient z hz)] at hdu

theorem charge_control {s : Rat → ConsensusSample Rat} {v : Block × Block} (hv : v ∈ U.moves)
    (hs : ∀ t, ∀ own : Vec Rat, own.length = v.1.size → ((s t).gradient own).length = v.1.size) :
    (CostMap.charge s v.1.size (.control v.1)).Carried X U
      (CostMap.charge s v.2.size (.control v.2)) := by
  rw [← U.sizes v hv]
  exact charge (.control hv) hs

end CostMap.Carried

end

end ConsensusControl
