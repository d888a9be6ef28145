import Mathlib.Data.List.Sort
import ConsensusControl.Table

namespace ConsensusControl

namespace Table

variable {β γ : Type}

theorem mem_of_lookup {t : Table β} {id : AgentId} {b : β} (h : t.lookup id = some b) :
    (id, b) ∈ t := by
  obtain ⟨l₁, l₂, rfl, -⟩ := List.lookup_eq_some_iff.mp h
  simp

theorem mem_ids_of_lookup {t : Table β} {id : AgentId} {b : β} (h : t.lookup id = some b) :
    id ∈ ids t :=
  List.mem_map.mpr ⟨_, mem_of_lookup h, rfl⟩

theorem lookup_of_mem {t : Table β} (hs : Sorted t) {id : AgentId} {b : β} (h : (id, b) ∈ t) :
    t.lookup id = some b := by
  induction t with
  | nil => simp at h
  | cons e t ih =>
    obtain ⟨k, c⟩ := e
    have hp : (∀ j ∈ ids t, k < j) ∧ Sorted t := by simpa [Sorted, ids] using hs
    rcases List.mem_cons.mp h with heq | hmem
    · cases heq
      simp
    · have hlt : k < id := hp.1 id (List.mem_map.mpr ⟨_, hmem, rfl⟩)
      have hk : (id == k) = false := by simp [Nat.ne_of_gt hlt]
      rw [List.lookup_cons, hk]
      exact ih hp.2 hmem

theorem lookup_of_mem_ids {t : Table β} (hs : Sorted t) {id : AgentId} (h : id ∈ ids t) :
    ∃ b, t.lookup id = some b := by
  obtain ⟨⟨k, b⟩, hmem, rfl⟩ := List.mem_map.mp h
  exact ⟨b, lookup_of_mem hs hmem⟩

theorem contains_iff {t : Table β} (hs : Sorted t) {id : AgentId} :
    contains id t = true ↔ id ∈ ids t := by
  rw [contains, Option.isSome_iff_exists]
  constructor
  · intro h
    obtain ⟨b, h⟩ := h
    exact mem_ids_of_lookup h
  · intro h
    exact lookup_of_mem_ids hs h

theorem Sorted.nodup {t : Table β} (hs : Sorted t) : (ids t).Nodup :=
  List.Pairwise.imp (fun h => Nat.ne_of_lt h) hs

/-- What is set is found, even in a table out of order. -/
theorem lookup_insert (id : AgentId) (b : β) (t : Table β) : (insert id b t).lookup id = some b := by
  induction t with
  | nil => simp [insert, alter]
  | cons e t ih =>
    obtain ⟨k, c⟩ := e
    simp only [insert, alter] at ih ⊢
    split
    · simp
    · split
      · simp
      · next hne =>
        have hk : (id == k) = false := by simp [hne]
        rw [List.lookup_cons, hk]
        exact ih

theorem lookup_insert_ne {id k : AgentId} (hne : k ≠ id) (b : β) (t : Table β) :
    (insert id b t).lookup k = t.lookup k :=
  lookup_alter_ne hne _ t

theorem Sorted.insert {t : Table β} (hs : Sorted t) (id : AgentId) (b : β) :
    Sorted (insert id b t) :=
  hs.alter id _

theorem mem_ids_insert {id k : AgentId} {b : β} {t : Table β} :
    k ∈ ids (insert id b t) ↔ k = id ∨ k ∈ ids t :=
  mem_ids_alter

theorem mem_alter {id k : AgentId} {f : Option β → β} {c : β} {t : Table β}
    (h : (k, c) ∈ alter id f t) :
    (k, c) ∈ t ∨ k = id ∧ (c = f none ∨ ∃ b, (id, b) ∈ t ∧ c = f (some b)) := by
  induction t with
  | nil =>
    obtain ⟨rfl, rfl⟩ : k = id ∧ c = f none := by simpa [alter] using h
    exact .inr ⟨rfl, .inl rfl⟩
  | cons e t ih =>
    obtain ⟨j, b⟩ := e
    unfold alter at h
    split at h
    · rcases List.mem_cons.mp h with heq | hmem
      · obtain ⟨rfl, rfl⟩ := Prod.mk.inj heq
        exact .inr ⟨rfl, .inl rfl⟩
      · exact .inl hmem
    · split at h
      · next hj =>
        subst hj
        rcases List.mem_cons.mp h with heq | hmem
        · obtain ⟨rfl, rfl⟩ := Prod.mk.inj heq
          exact .inr ⟨rfl, .inr ⟨b, by simp, rfl⟩⟩
        · exact .inl (List.mem_cons_of_mem _ hmem)
      · rcases List.mem_cons.mp h with heq | hmem
        · exact .inl (heq ▸ List.mem_cons_self)
        · rcases ih hmem with hold | ⟨hk, hc | ⟨b, hb, hc⟩⟩
          · exact .inl (List.mem_cons_of_mem _ hold)
          · exact .inr ⟨hk, .inl hc⟩
          · exact .inr ⟨hk, .inr ⟨b, List.mem_cons_of_mem _ hb, hc⟩⟩

theorem mem_insert {id k : AgentId} {b c : β} {t : Table β} (h : (k, c) ∈ insert id b t) :
    k = id ∧ c = b ∨ (k, c) ∈ t := by
  rcases mem_alter h with hold | ⟨hk, hc | ⟨_, -, hc⟩⟩
  · exact .inr hold
  · exact .inl ⟨hk, hc⟩
  · exact .inl ⟨hk, hc⟩

/-- An entry of the table after an insertion is the new one or an old one of another agent. -/
theorem lookup_insert_cases {t : Table β} {id k : AgentId} {b c : β}
    (h : (insert id b t).lookup k = some c) : k = id ∧ c = b ∨ k ≠ id ∧ t.lookup k = some c := by
  by_cases hk : k = id
  · subst hk
    rw [lookup_insert] at h
    exact .inl ⟨rfl, (Option.some.inj h).symm⟩
  · rw [lookup_insert_ne hk] at h
    exact .inr ⟨hk, h⟩

/-- Entries of other agents are still there after an insertion, behind the new one. -/
theorem lookup_insert_cons {t rest : Table β} {id : AgentId} (hfresh : id ∉ ids rest)
    (h : ∀ p ∈ rest, t.lookup p.1 = some p.2) (b : β) :
    ∀ p ∈ (id, b) :: rest, (insert id b t).lookup p.1 = some p.2 := by
  intro p hp
  rcases List.mem_cons.mp hp with rfl | hp
  · exact lookup_insert _ _ _
  · have hne : p.1 ≠ id := fun heq => hfresh (heq ▸ List.mem_map_of_mem hp)
    exact (lookup_insert_ne hne _ _).trans (h p hp)

/-- Setting the entry of an agent that has one adds no other. -/
theorem ids_insert {t : Table β} (hs : Sorted t) {id : AgentId} (h : id ∈ ids t) (b : β) :
    ids (insert id b t) = ids t := by
  have hboth : Sorted (insert id b t) := hs.insert id b
  apply hboth.eq_of_mem_iff hs
  intro k
  rw [mem_ids_insert]
  constructor
  · intro hk
    rcases hk with rfl | hk
    · exact h
    · exact hk
  · exact .inr

theorem ids_map (f : AgentId × β → γ) (t : Table β) :
    ids (t.map fun p => (p.1, f p)) = ids t := by
  simp [ids, Function.comp_def]

/-- Some entries are dropped, and others changed under their ids. -/
theorem lookup_filterMap {g : AgentId × β → Option (AgentId × γ)}
    (hkey : ∀ e r, g e = some r → r.1 = e.1) {t : Table β} {id : AgentId} {b : β} {c : γ}
    (hb : t.lookup id = some b) (hg : g (id, b) = some (id, c)) :
    (t.filterMap g).lookup id = some c := by
  induction t with
  | nil => simp at hb
  | cons e t ih =>
    obtain ⟨k, b'⟩ := e
    by_cases hk : id = k
    · subst hk
      obtain rfl : b' = b := by simpa [List.lookup_cons] using hb
      rw [List.filterMap_cons_some hg, List.lookup_cons_self]
    · have hk' : (id == k) = false := by simp [hk]
      have hrest := ih (by simpa [List.lookup_cons, hk'] using hb)
      cases hg' : g (k, b') with
      | none => rwa [List.filterMap_cons_none hg']
      | some r =>
        obtain ⟨j, c'⟩ := r
        obtain rfl : j = k := hkey _ _ hg'
        rw [List.filterMap_cons_some hg', List.lookup_cons, hk']
        exact hrest

theorem lookup_map (f : AgentId → β → γ) (t : Table β) (id : AgentId) :
    (t.map fun p => (p.1, f p.1 p.2)).lookup id = (t.lookup id).map (f id) := by
  induction t with
  | nil => rfl
  | cons e t ih =>
    obtain ⟨k, b⟩ := e
    simp only [List.map_cons, List.lookup_cons]
    by_cases hk : id = k
    · subst hk; simp
    · have hb : (id == k) = false := by simp [hk]
      simp [hb, ih]

theorem lookup_modify (id : AgentId) (f : β → β) (t : Table β) (k : AgentId) :
    (modify id f t).lookup k = (t.lookup k).map fun b => if k = id then f b else b :=
  lookup_map (fun k b => if k = id then f b else b) t k

theorem lookup_isSome {t : Table β} {id : AgentId} : (t.lookup id).isSome ↔ id ∈ ids t := by
  induction t with
  | nil => simp [ids]
  | cons e t ih =>
    obtain ⟨k, b⟩ := e
    by_cases hk : id = k
    · subst hk; simp [ids]
    · have hb : (id == k) = false := by simp [hk]
      simp only [List.lookup_cons, hb, ih, ids, List.map_cons, List.mem_cons, hk, false_or]

/-- Entries that are set one after the other are each set once. -/
theorem lookup_foldl_alter (f : γ → Option β → β) {changes : Table γ} (hchanges : (ids changes).Nodup)
    {t : Table β} (hs : Sorted t) (id : AgentId) :
    (changes.foldl (fun t p => alter p.1 (f p.2) t) t).lookup id =
      ((changes.lookup id).map fun c => f c (t.lookup id)).or (t.lookup id) := by
  induction changes generalizing t with
  | nil => rfl
  | cons p changes ih =>
    obtain ⟨k, c⟩ := p
    have hfresh : k ∉ ids changes ∧ (ids changes).Nodup := List.nodup_cons.mp hchanges
    rw [List.foldl_cons, ih hfresh.2 (hs.alter k (f c))]
    by_cases hk : id = k
    · subst hk
      have hnone : changes.lookup id = none := by
        rw [← Option.not_isSome_iff_eq_none, lookup_isSome]
        exact hfresh.1
      rw [hnone, List.lookup_cons_self]
      exact lookup_alter_self hs (f c)
    · have hne : (id == k) = false := by simp [hk]
      rw [List.lookup_cons, hne, lookup_alter_ne hk]

theorem Sorted.map {t : Table β} (hs : Sorted t) (f : AgentId × β → γ) :
    Sorted (t.map fun p => (p.1, f p)) := by
  unfold Sorted
  rw [ids_map]
  exact hs

/-- The entries that are left stay in order. -/
theorem Sorted.filterMap {t : Table β} (hs : Sorted t) {g : AgentId × β → Option (AgentId × γ)}
    (hkey : ∀ e r, g e = some r → r.1 = e.1) : Sorted (t.filterMap g) := by
  unfold Sorted ids at hs ⊢
  rw [List.pairwise_map] at hs ⊢
  rw [List.pairwise_filterMap]
  refine hs.imp fun hlt r hr r' hr' => ?_
  rwa [hkey _ r hr, hkey _ r' hr']

/-- Sorted tables of the same agents list them alike. -/
theorem Sorted.ids_eq {t : Table β} (hs : Sorted t) {l : List AgentId} (hl : l.Pairwise (· < ·))
    (h : ∀ id, id ∈ ids t ↔ id ∈ l) : ids t = l :=
  List.Pairwise.eq_of_mem_iff hs hl h

/-- Sorted tables with the same entry for every agent are the same. -/
theorem Sorted.ext {t t' : Table β} (hs : Sorted t) (hs' : Sorted t')
    (h : ∀ id, t.lookup id = t'.lookup id) : t = t' := by
  have hpairs : ∀ t : Table β, Sorted t → t.Pairwise fun p q => p.1 < q.1 :=
    fun _ => List.pairwise_map.mp
  apply List.Pairwise.eq_of_mem_iff (hpairs t hs) (hpairs t' hs')
  intro p
  constructor
  · intro hp
    exact mem_of_lookup ((h p.1).symm.trans (lookup_of_mem hs hp))
  · intro hp
    exact mem_of_lookup ((h p.1).trans (lookup_of_mem hs' hp))

/-- Tables of the same agents, whose values are related agent by agent. -/
structure Rel (R : AgentId → β → γ → Prop) (t : Table β) (t' : Table γ) : Prop where
  ids : Table.ids t' = Table.ids t
  related : ∀ id b, t.lookup id = some b → ∃ c, t'.lookup id = some c ∧ R id b c

namespace Rel

variable {R : AgentId → β → γ → Prop} {t : Table β} {t' : Table γ}

theorem back (h : Rel R t t') {id : AgentId} {c : γ} (hc : t'.lookup id = some c) :
    ∃ b, t.lookup id = some b ∧ R id b c := by
  have hmem : id ∈ Table.ids t := h.ids ▸ lookup_isSome.mp (Option.isSome_iff_exists.mpr ⟨c, hc⟩)
  obtain ⟨b, hb⟩ := Option.isSome_iff_exists.mp (lookup_isSome.mpr hmem)
  obtain ⟨c', hc', hR⟩ := h.related id b hb
  obtain rfl : c' = c := Option.some.inj (hc'.symm.trans hc)
  exact ⟨b, hb, hR⟩

theorem imp {S : AgentId → β → γ → Prop} (h : Rel R t t') (hRS : ∀ id b c, R id b c → S id b c) :
    Rel S t t' :=
  ⟨h.ids, fun id b hb => (h.related id b hb).imp fun _ hc => ⟨hc.1, hRS id b _ hc.2⟩⟩

theorem imp_lookup {S : AgentId → β → γ → Prop} (h : Rel R t t')
    (hRS : ∀ id b c, t.lookup id = some b → R id b c → S id b c) : Rel S t t' :=
  ⟨h.ids, fun id b hb => (h.related id b hb).imp fun _ hc => ⟨hc.1, hRS id b _ hb hc.2⟩⟩

theorem sorted (h : Rel R t t') (hs : Sorted t) : Sorted t' := by
  unfold Sorted
  rw [h.ids]
  exact hs

/-- What is known of all values is known of what they have become. -/
theorem all {P : β → Prop} {Q : γ → Prop} (h : Rel R t t') (ht : ∀ id b, t.lookup id = some b → P b)
    (hPQ : ∀ id b c, R id b c → P b → Q c) (id : AgentId) (c : γ) (hc : t'.lookup id = some c) :
    Q c := by
  obtain ⟨b, hb, hR⟩ := h.back hc
  exact hPQ id b c hR (ht id b hb)

/-- One more step of one value. -/
theorem insert (h : Rel R t t') (hs : Sorted t') {id : AgentId} {c c' : γ} (hc : t'.lookup id = some c)
    (hR : ∀ b, R id b c → R id b c') : Rel R t (Table.insert id c' t') := by
  refine ⟨(ids_insert hs (mem_ids_of_lookup hc) c').trans h.ids, fun k b hb => ?_⟩
  obtain ⟨d, hd, hRd⟩ := h.related k b hb
  by_cases hk : k = id
  · subst hk
    obtain rfl : c = d := Option.some.inj (hc.symm.trans hd)
    exact ⟨c', lookup_insert _ _ _, hR b hRd⟩
  · exact ⟨d, (lookup_insert_ne hk _ _).trans hd, hRd⟩

/-- One more step of all values. -/
theorem map {δ : Type} {S : AgentId → β → δ → Prop} (h : Rel R t t') (f : γ → δ)
    (hRS : ∀ id b c, (id, c) ∈ t' → R id b c → S id b (f c)) :
    Rel S t (t'.map fun p => (p.1, f p.2)) := by
  refine ⟨(ids_map (fun p => f p.2) t').trans h.ids, fun id b hb => ?_⟩
  obtain ⟨c, hc, hR⟩ := h.related id b hb
  refine ⟨f c, ?_, hRS id b c (mem_of_lookup hc) hR⟩
  rw [lookup_map fun _ c => f c, hc]
  rfl

theorem of_forall₂ (h : List.Forall₂ (fun p q => q.1 = p.1 ∧ R p.1 p.2 q.2) t t') : Rel R t t' := by
  induction h with
  | nil => exact ⟨rfl, by simp⟩
  | @cons p q t t' hpq _ ih =>
    obtain ⟨k, b⟩ := p
    obtain ⟨k', c⟩ := q
    obtain ⟨rfl, hR⟩ := hpq
    refine ⟨congrArg _ ih.ids, fun id d hd => ?_⟩
    by_cases hk : id = k'
    · subst hk
      obtain rfl : b = d := by simpa [List.lookup_cons] using hd
      exact ⟨c, List.lookup_cons_self, hR⟩
    · have hne : (id == k') = false := by simp [hk]
      rw [List.lookup_cons, hne] at hd ⊢
      exact ih.related id d hd

/-- One after the other. -/
theorem trans {δ : Type} {S : AgentId → γ → δ → Prop} {t'' : Table δ} (h : Rel R t t')
    (h' : Rel S t' t'') : Rel (fun id b d => ∃ c, R id b c ∧ S id c d) t t'' := by
  refine ⟨h'.ids.trans h.ids, fun id b hb => ?_⟩
  obtain ⟨c, hc, hR⟩ := h.related id b hb
  obtain ⟨d, hd, hS⟩ := h'.related id c hc
  exact ⟨d, hd, c, hR, hS⟩

theorem of_map (f : AgentId → β → γ) (t : Table β) :
    Rel (fun id b c => c = f id b) t (t.map fun p => (p.1, f p.1 p.2)) where
  ids := ids_map (fun p => f p.1 p.2) t
  related id b hb := ⟨f id b, by rw [lookup_map, hb, Option.map_some], rfl⟩

end Rel

end Table

theorem mem_insertAscending {n k : Nat} {ns : List Nat} :
    k ∈ insertAscending n ns ↔ k = n ∨ k ∈ ns := by
  induction ns with
  | nil => simp [insertAscending]
  | cons m ns ih =>
    unfold insertAscending
    split
    · simp
    · split
      · next h => subst h; simp
      · simp only [List.mem_cons, ih]
        tauto

theorem pairwise_insertAscending {n : Nat} {ns : List Nat} (h : ns.Pairwise (· < ·)) :
    (insertAscending n ns).Pairwise (· < ·) := by
  induction ns with
  | nil => simp [insertAscending]
  | cons m ns ih =>
    obtain ⟨hm, hns⟩ := List.pairwise_cons.mp h
    unfold insertAscending
    split
    · next hlt =>
      refine List.pairwise_cons.mpr ⟨fun k hk => ?_, h⟩
      rcases List.mem_cons.mp hk with rfl | hk
      · exact hlt
      · exact Nat.lt_trans hlt (hm k hk)
    · split
      · exact h
      · next hge hne =>
        refine List.pairwise_cons.mpr ⟨fun k hk => ?_, ih hns⟩
        rcases mem_insertAscending.mp hk with rfl | hk
        · omega
        · exact hm k hk

theorem mem_ascending {k : Nat} {ns : List Nat} : k ∈ ascending ns ↔ k ∈ ns := by
  induction ns with
  | nil => simp [ascending]
  | cons n ns ih =>
    rw [ascending, List.foldr_cons, mem_insertAscending, List.mem_cons]
    exact or_congr_right ih

theorem pairwise_ascending (ns : List Nat) : (ascending ns).Pairwise (· < ·) := by
  induction ns with
  | nil => simp [ascending]
  | cons n ns ih => exact pairwise_insertAscending ih

end ConsensusControl
