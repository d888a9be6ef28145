import ConsensusControl.Proofs.Convergence.History
import ConsensusControl.Proofs.Convergence.Ring
import ConsensusControl.Proofs.Table

namespace ConsensusControl

/-- The residuals of an agent at the end of an iteration. -/
structure Report (α : Type) where
  agent : AgentId
  iteration : Nat
  primal : α
  dual : α

namespace Report

variable {α : Type}

def own (agent : AgentId) (rs : List (Report α)) : List (Report α) := rs.filter (·.agent = agent)

/-- The largest iteration that is reported, zero for no reports. -/
def lastIteration (rs : List (Report α)) : Nat := rs.foldl (fun n r => max n r.iteration) 0

/-- The residuals of one kind that are reported for an iteration. -/
def residuals (kind : Report α → α) (iteration : Nat) (rs : List (Report α)) : List α :=
  (rs.filter (·.iteration = iteration)).map kind

/-- The largest residual of one kind for each iteration, the first iteration in front. -/
def worst [Scalar α] (kind : Report α → α) (rs : List (Report α)) : Vec α :=
  (List.range (lastIteration rs)).map fun k => Scalar.largest (residuals kind (k + 1) rs)

variable {rs rs' : List (Report α)} {r : Report α} {kind : Report α → α}

theorem own_concat_self (rs : List (Report α)) (r : Report α) :
    own r.agent (rs ++ [r]) = own r.agent rs ++ [r] := by
  simp [own]

theorem own_concat_ne {agent : AgentId} (h : r.agent ≠ agent) (rs : List (Report α)) :
    own agent (rs ++ [r]) = own agent rs := by
  simp [own, h]

theorem residuals_concat_self (kind : Report α → α) (rs : List (Report α)) (r : Report α) :
    residuals kind r.iteration (rs ++ [r]) = residuals kind r.iteration rs ++ [kind r] := by
  simp [residuals]

theorem residuals_concat_ne {iteration : Nat} (h : r.iteration ≠ iteration) (rs : List (Report α)) :
    residuals kind iteration (rs ++ [r]) = residuals kind iteration rs := by
  simp [residuals, h]

theorem lastIteration_concat (rs : List (Report α)) (r : Report α) :
    lastIteration (rs ++ [r]) = max (lastIteration rs) r.iteration := by
  rw [lastIteration, List.foldl_append]
  rfl

theorem lastIteration_le_iff (rs : List (Report α)) (n : Nat) :
    lastIteration rs ≤ n ↔ ∀ r ∈ rs, r.iteration ≤ n := by
  induction rs using List.reverseRecOn with
  | nil => simp [lastIteration]
  | append_singleton rs r ih =>
    rw [lastIteration_concat, Nat.max_le, ih, List.forall_mem_append, List.forall_mem_singleton]

theorem iteration_le (hr : r ∈ rs) : r.iteration ≤ lastIteration rs :=
  (lastIteration_le_iff rs _).mp (Nat.le_refl _) r hr

theorem residuals_of_lt {iteration : Nat} (h : lastIteration rs < iteration) :
    residuals kind iteration rs = [] := by
  rw [residuals, List.map_eq_nil_iff, List.filter_eq_nil_iff]
  intro r hr
  have hle := iteration_le hr
  rw [decide_eq_true_iff]
  omega

/-- Reports that are the same agent by agent are the same altogether, in whatever order. -/
theorem mem_iff_of_own (h : ∀ agent, own agent rs' = own agent rs) (r : Report α) : r ∈ rs' ↔ r ∈ rs := by
  have hown : ∀ rs : List (Report α), r ∈ own r.agent rs ↔ r ∈ rs := by
    intro rs
    rw [own, List.mem_filter, decide_eq_true_iff]
    exact and_iff_left rfl
  rw [← hown rs', h, hown]

theorem lastIteration_congr (h : ∀ r, r ∈ rs' ↔ r ∈ rs) : lastIteration rs' = lastIteration rs := by
  apply Nat.le_antisymm
  · rw [lastIteration_le_iff]
    intro r hr
    exact iteration_le ((h r).mp hr)
  · rw [lastIteration_le_iff]
    intro r hr
    exact iteration_le ((h r).mpr hr)

end Report

namespace Scalar

variable {α : Type} [Scalar α]

/-- The largest of some numbers, zero if there are none. -/
def IsLargest (rs : List α) (value : α) : Prop := rs = [] ∧ value = 0 ∨ IsGreatest {r | r ∈ rs} value

theorem Exact.isLargest_largest (h : Exact α) {rs : List α} (hnonneg : ∀ r ∈ rs, 0 ≤ r) :
    IsLargest rs (largest rs) := by
  by_cases hne : rs = []
  · subst hne
    exact .inl ⟨rfl, rfl⟩
  · exact .inr (h.isGreatest_largest hne hnonneg)

/-- The order of the numbers does not matter. -/
theorem Exact.largest_congr (h : Exact α) {rs rs' : List α} (hmem : ∀ r, r ∈ rs' ↔ r ∈ rs) :
    largest rs' = largest rs := by
  have hbound : ∀ b, largest rs' ≤ b ↔ largest rs ≤ b := by
    intro b
    rw [largest, largest, h.foldl_max_le_iff, h.foldl_max_le_iff]
    simp only [hmem]
  exact h.le_antisymm _ _ ((hbound _).mpr (h.le_refl _)) ((hbound _).mp (h.le_refl _))

theorem largest_concat (rs : List α) (value : α) : largest (rs ++ [value]) = Scalar.max (largest rs) value := by
  rw [largest, List.foldl_append]
  rfl

end Scalar

open Report

variable {α : Type} [Scalar α]

/-- A track after the reports of its agent. -/
def Track.ofReports (rs : List (Report α)) : Track α :=
  ⟨Ring.ofPushes (rs.map (·.primal)), Ring.ofPushes (rs.map (·.dual)), lastIteration rs⟩

theorem Track.ofReports_concat (rs : List (Report α)) (r : Report α) :
    Track.ofReports (rs ++ [r]) = (Track.ofReports rs).push r.iteration r.primal r.dual := by
  rw [ofReports, List.map_append, List.map_append, lastIteration_concat, List.map_singleton, List.map_singleton,
    Ring.ofPushes_concat, Ring.ofPushes_concat]
  rfl

/-- What the reports of one agent amount to, if there are any. -/
def AgentSummary.ofReports (rs : List (Report α)) : Option (AgentSummary α) :=
  rs.getLast?.map fun last =>
    { iterations := lastIteration rs
      primal := some last.primal
      dual := some last.dual
      averagePrimal := Scalar.average ((rs.map (·.primal)).rtake window)
      averageDual := Scalar.average ((rs.map (·.dual)).rtake window)
      primalTrend := Scalar.trend ((rs.map (·.primal)).rtake window)
      dualTrend := Scalar.trend ((rs.map (·.dual)).rtake window) }

theorem Track.summary_ofReports (rs : List (Report α)) :
    (rs.getLast?.map fun _ => (Track.ofReports rs).summary) = AgentSummary.ofReports rs := by
  have hwindow : 0 < window := by decide
  have hprimal : (Ring.ofPushes (rs.map (·.primal)) : Ring α window).Holds _ := Ring.holds_ofPushes hwindow _
  have hdual : (Ring.ofPushes (rs.map (·.dual)) : Ring α window).Holds _ := Ring.holds_ofPushes hwindow _
  rw [summary, ofReports, AgentSummary.ofReports]
  dsimp only
  rw [hprimal.average, hprimal.trend, hdual.average, hdual.trend, Ring.latest_ofPushes hwindow,
    Ring.latest_ofPushes hwindow, List.getLast?_map, List.getLast?_map]
  cases rs.getLast? <;> rfl

namespace History

/-- What is done to a history. -/
inductive Call (α : Type)
  | record (r : Report α)
  | clear

def perform (h : History α) : Call α → History α
  | .record r => h.record r.agent r.iteration r.primal r.dual
  | .clear => .empty

def after (calls : List (Call α)) : History α := calls.foldl perform .empty

/-- The reports since the history was last cleared. -/
def sinceClear (calls : List (Call α)) : List (Report α) :=
  calls.foldl (fun rs call => match call with
    | .record r => rs ++ [r]
    | .clear => []) []

/-- A history after some reports, the first one in front. -/
def ofReports (rs : List (Report α)) : History α :=
  rs.foldl (fun h r => h.record r.agent r.iteration r.primal r.dual) .empty

theorem ofReports_concat (rs : List (Report α)) (r : Report α) :
    ofReports (rs ++ [r]) = (ofReports rs).record r.agent r.iteration r.primal r.dual := by
  rw [ofReports, List.foldl_append]
  rfl

theorem after_eq (calls : List (Call α)) : after calls = ofReports (sinceClear calls) := by
  induction calls using List.reverseRecOn with
  | nil => rfl
  | append_singleton calls call ih =>
    rw [after, sinceClear, List.foldl_append, List.foldl_append, ← after, ← sinceClear, ih]
    cases call with
    | record r => exact (ofReports_concat _ r).symm
    | clear => rfl

theorem tracks_record (agent : AgentId) (iteration : Nat) (primal dual : α) (h : History α) :
    (h.record agent iteration primal dual).tracks =
      Table.alter agent (fun t => (t.getD .empty).push iteration primal dual) h.tracks := by
  cases iteration <;> rfl

theorem sorted_tracks (rs : List (Report α)) : Table.Sorted (ofReports rs).tracks := by
  induction rs using List.reverseRecOn with
  | nil => exact List.Pairwise.nil
  | append_singleton rs r ih =>
    rw [ofReports_concat, tracks_record]
    exact ih.alter _ _

/-- An agent is on record with its own reports, from its first one on. -/
theorem lookup_tracks (rs : List (Report α)) (agent : AgentId) :
    (ofReports rs).tracks.lookup agent =
      (own agent rs).getLast?.map fun _ => Track.ofReports (own agent rs) := by
  induction rs using List.reverseRecOn with
  | nil => rfl
  | append_singleton rs r ih =>
    rw [ofReports_concat, tracks_record]
    by_cases hagent : r.agent = agent
    · subst hagent
      have hbefore : ((ofReports rs).tracks.lookup r.agent).getD .empty = Track.ofReports (own r.agent rs) := by
        rw [ih]
        cases hlast : (own r.agent rs).getLast? with
        | none =>
          rw [List.getLast?_eq_none_iff.mp hlast]
          rfl
        | some last => rfl
      rw [Table.lookup_alter_self (sorted_tracks rs), hbefore, own_concat_self, List.getLast?_concat,
        Track.ofReports_concat]
      rfl
    · rw [Table.lookup_alter_ne (Ne.symm hagent), ih, own_concat_ne hagent]

theorem length_raise (value : α) (k : Nat) (xs : Vec α) :
    (raise value k xs).length = max xs.length (k + 1) := by
  induction k generalizing xs with
  | zero =>
    cases xs with
    | nil => rfl
    | cons x xs =>
      change xs.length + 1 = max (xs.length + 1) 1
      omega
  | succ k ih =>
    cases xs with
    | nil =>
      rw [raise, List.length_cons, ih]
      rfl
    | cons x xs =>
      rw [raise, List.length_cons, ih, List.length_cons]
      omega

/-- The entry is raised, every other one stays. Missing ones are zero before and after. -/
theorem getElem?_raise (value : α) (k j : Nat) (xs : Vec α) :
    (raise value k xs)[j]?.getD 0 = if j = k then Scalar.max (xs[j]?.getD 0) value else xs[j]?.getD 0 := by
  induction k generalizing j xs with
  | zero => cases xs <;> cases j <;> simp [raise]
  | succ k ih => cases xs <;> cases j <;> simp [raise, ih]

theorem length_worst (kind : Report α → α) (rs : List (Report α)) :
    (worst kind rs).length = lastIteration rs := by
  rw [worst, List.length_map, List.length_range]

theorem getElem?_worst (kind : Report α → α) (rs : List (Report α)) (k : Nat) :
    (worst kind rs)[k]?.getD 0 = Scalar.largest (residuals kind (k + 1) rs) := by
  rw [worst, List.getElem?_map]
  by_cases hk : k < lastIteration rs
  · rw [List.getElem?_range hk]
    rfl
  · rw [residuals_of_lt (by omega), List.getElem?_eq_none (by rw [List.length_range]; omega)]
    rfl

/-- One report raises the entry of its iteration. -/
theorem worst_concat (kind : Report α → α) (rs : List (Report α)) {r : Report α} {k : Nat}
    (hk : r.iteration = k + 1) : worst kind (rs ++ [r]) = raise (kind r) k (worst kind rs) := by
  have hlength : (worst kind (rs ++ [r])).length = (raise (kind r) k (worst kind rs)).length := by
    rw [length_worst, lastIteration_concat, length_raise, length_worst, hk]
  apply List.ext_getElem hlength
  intro j hj hj'
  have hentry : (worst kind (rs ++ [r]))[j]?.getD 0 = (raise (kind r) k (worst kind rs))[j]?.getD 0 := by
    rw [getElem?_raise, getElem?_worst, getElem?_worst]
    by_cases hjk : j = k
    · subst hjk
      rw [if_pos rfl, ← Scalar.largest_concat, ← hk, residuals_concat_self]
    · have hne : r.iteration ≠ j + 1 := by omega
      rw [if_neg hjk, residuals_concat_ne hne]
  rwa [List.getElem?_eq_getElem hj, List.getElem?_eq_getElem hj'] at hentry

/-- A report for iteration 0 raises no entry. -/
theorem worst_concat_zero (kind : Report α → α) (rs : List (Report α)) {r : Report α}
    (hzero : r.iteration = 0) : worst kind (rs ++ [r]) = worst kind rs := by
  have hlast : lastIteration (rs ++ [r]) = lastIteration rs := by
    rw [lastIteration_concat, hzero]
    exact Nat.max_zero _
  rw [worst, worst, hlast]
  apply List.map_congr_left
  intro k _
  have hne : r.iteration ≠ k + 1 := by omega
  rw [residuals_concat_ne hne]

theorem entries_ofReports (rs : List (Report α)) :
    (ofReports rs).primal = worst (·.primal) rs ∧ (ofReports rs).dual = worst (·.dual) rs := by
  induction rs using List.reverseRecOn with
  | nil => exact ⟨rfl, rfl⟩
  | append_singleton rs r ih =>
    obtain ⟨hprimal, hdual⟩ := ih
    rw [ofReports_concat]
    cases hiteration : r.iteration with
    | zero =>
      rw [worst_concat_zero _ _ hiteration, worst_concat_zero _ _ hiteration]
      exact ⟨hprimal, hdual⟩
    | succ k =>
      rw [worst_concat _ _ hiteration, worst_concat _ _ hiteration, ← hprimal, ← hdual]
      exact ⟨rfl, rfl⟩

theorem worst_congr (hexact : Scalar.Exact α) (kind : Report α → α) {rs rs' : List (Report α)}
    (h : ∀ r, r ∈ rs' ↔ r ∈ rs) : worst kind rs' = worst kind rs := by
  rw [worst, worst, lastIteration_congr h]
  apply List.map_congr_left
  intro k _
  apply hexact.largest_congr
  intro value
  simp only [residuals, List.mem_map, List.mem_filter, h]

/-- Reports of different agents change places without a trace. -/
theorem ofReports_congr (hexact : Scalar.Exact α) {rs rs' : List (Report α)}
    (h : ∀ agent, own agent rs' = own agent rs) : ofReports rs' = ofReports rs := by
  have hmem := mem_iff_of_own h
  have htracks : (ofReports rs').tracks = (ofReports rs).tracks := by
    apply (sorted_tracks rs').ext (sorted_tracks rs)
    intro agent
    rw [lookup_tracks, lookup_tracks, h]
  have hprimal : (ofReports rs').primal = (ofReports rs).primal := by
    rw [(entries_ofReports rs').1, (entries_ofReports rs).1, worst_congr hexact _ hmem]
  have hdual : (ofReports rs').dual = (ofReports rs).dual := by
    rw [(entries_ofReports rs').2, (entries_ofReports rs).2, worst_congr hexact _ hmem]
  cases hafter : ofReports rs'
  cases hafter' : ofReports rs
  rw [hafter, hafter'] at htracks hprimal hdual
  exact congr (congrArg₂ History.mk htracks hprimal) hdual

theorem getElem?_worst_of_lt {kind : Report Rat → Rat} {rs : List (Report Rat)}
    (hnonneg : ∀ r ∈ rs, 0 ≤ kind r) {k : Nat} (hk : k < lastIteration rs) :
    ∃ value, (worst kind rs)[k]? = some value ∧ Scalar.IsLargest (residuals kind (k + 1) rs) value := by
  refine ⟨Scalar.largest (residuals kind (k + 1) rs), ?_, ?_⟩
  · rw [worst, List.getElem?_map, List.getElem?_range hk]
    rfl
  · apply exact_rat.isLargest_largest
    intro value hvalue
    obtain ⟨r, hr, rfl⟩ := List.mem_map.mp hvalue
    exact hnonneg r (List.mem_of_mem_filter hr)

/-- Since it was cleared, a history has an entry for each iteration up to the largest one, which is the
largest residual that was reported for it, and tells of an agent what the reports of this agent amount to. -/
theorem tells_reports (calls : List (Call Rat))
    (hnonneg : ∀ r ∈ sinceClear calls, 0 ≤ r.primal ∧ 0 ≤ r.dual) :
    let rs := sinceClear calls
    let told := (after calls).summary
    (told.iterations = lastIteration rs ∧ told.primal.length = lastIteration rs ∧
      told.dual.length = lastIteration rs) ∧
    (∀ k < lastIteration rs,
      (∃ value, told.primal[k]? = some value ∧ Scalar.IsLargest (residuals (·.primal) (k + 1) rs) value) ∧
        ∃ value, told.dual[k]? = some value ∧ Scalar.IsLargest (residuals (·.dual) (k + 1) rs) value) ∧
    (∀ agent, told.agents.lookup agent = AgentSummary.ofReports (own agent rs)) ∧
    ∀ calls', (∀ agent, own agent (sinceClear calls') = own agent rs) → (after calls').summary = told := by
  intro rs told
  obtain ⟨hprimal, hdual⟩ := entries_ofReports rs
  have htold : told = (ofReports rs).summary := by rw [← after_eq]
  have htoldPrimal : told.primal = worst (·.primal) rs := htold ▸ hprimal
  have htoldDual : told.dual = worst (·.dual) rs := htold ▸ hdual
  refine ⟨⟨?_, ?_, ?_⟩, ?_, ?_, ?_⟩
  · rw [htold, ← length_worst (·.primal) rs, ← hprimal]
    rfl
  · rw [htoldPrimal, length_worst]
  · rw [htoldDual, length_worst]
  · intro k hk
    rw [htoldPrimal, htoldDual]
    exact ⟨getElem?_worst_of_lt (fun r hr => (hnonneg r hr).1) hk,
      getElem?_worst_of_lt (fun r hr => (hnonneg r hr).2) hk⟩
  · intro agent
    have hagents : told.agents = (ofReports rs).tracks.map fun p => (p.1, p.2.summary) := by
      rw [htold]
      rfl
    rw [hagents, Table.lookup_map fun _ t => Track.summary t, lookup_tracks, Option.map_map]
    exact Track.summary_ofReports _
  · intro calls' hown
    rw [after_eq, ofReports_congr exact_rat hown, ← htold]

/-- Agent 7 is forgotten. Agents 1 and 2 leave iterations 2 and 3 out, agent 2 starts at iteration 0, and
either may report first. -/
theorem sparse_tells_reports :
    let calls : List (Call Rat) :=
      [.record ⟨7, 5, 9, 9⟩, .clear, .record ⟨1, 4, 1 / 2, 2⟩, .record ⟨2, 0, 8, 8⟩,
        .record ⟨2, 4, 3 / 4, 1⟩, .record ⟨1, 1, 1 / 4, 0⟩]
    let calls' : List (Call Rat) :=
      [.record ⟨2, 0, 8, 8⟩, .record ⟨1, 4, 1 / 2, 2⟩, .record ⟨1, 1, 1 / 4, 0⟩, .record ⟨2, 4, 3 / 4, 1⟩]
    (∀ r ∈ sinceClear calls, 0 ≤ r.primal ∧ 0 ≤ r.dual) ∧
      (after calls).summary.iterations = 4 ∧
      (∃ value, (after calls).summary.primal[3]? = some value ∧ Scalar.IsLargest [1 / 2, 3 / 4] value) ∧
      (after calls).summary.agents.lookup 7 = none ∧
      (∃ s, (after calls).summary.agents.lookup 2 = some s ∧ s.iterations = 4 ∧ s.primal = some (3 / 4) ∧
        s.averagePrimal = 35 / 8 ∧ s.primalTrend = -29 / 4) ∧
      (after calls').summary = (after calls).summary := by
  intro calls calls'
  have hnonneg : ∀ r ∈ sinceClear calls, 0 ≤ r.primal ∧ 0 ≤ r.dual := by decide +kernel
  obtain ⟨⟨hiterations, -, -⟩, hentries, hagents, horder⟩ := tells_reports calls hnonneg
  have hown : ∀ agent, own agent (sinceClear calls') = own agent (sinceClear calls) := by
    intro agent
    rcases eq_or_ne agent 1 with rfl | hone
    · rfl
    · simp [calls, calls', sinceClear, own, List.filter_cons, hone.symm]
  have hlast : 3 < lastIteration (sinceClear calls) := by decide
  exact ⟨hnonneg, hiterations, (hentries 3 hlast).1, hagents 7,
    ⟨_, hagents 2, rfl, rfl, by decide +kernel, by decide +kernel⟩, horder calls' hown⟩

end History

end ConsensusControl
