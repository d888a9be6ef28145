import ConsensusControl.Solution
import ConsensusControl.Proofs.Latest
import ConsensusControl.Proofs.Trajectory

namespace ConsensusControl

/-- A state and a control at the time when they were applied. -/
structure Applied (α : Type) where
  t : α
  x : Vec α
  u : Vec α

structure Applied.Sized {α : Type} (a : Applied α) (nx nu : Nat) : Prop where
  x : a.x.length = nx
  u : a.u.length = nu

namespace Solution

variable {α : Type}

/-- What is done to the applied samples of a solution. -/
inductive Call (α : Type)
  | push (a : Applied α)
  | cap (samples : Nat)

/-- The samples that were pushed, the first one in front. -/
def pushed (calls : List (Call α)) : List (Applied α) :=
  calls.filterMap fun
    | .push a => some a
    | .cap _ => none

/-- How many of the pushed samples are left. -/
def left : Nat → Call α → Nat
  | m, .push _ => m + 1
  | m, .cap samples => min m samples

/-- One push after the other, each with a cap behind it. -/
def cappedEach (samples : Nat) (applied : List (Applied α)) : List (Call α) :=
  applied.flatMap fun a => [.push a, .cap samples]

/-- All pushes, with one cap behind them. -/
def cappedOnce (samples : Nat) (applied : List (Applied α)) : List (Call α) :=
  applied.map .push ++ [.cap samples]

/-- The solution has these samples, time by time, state by state and control by control. -/
structure Keeps (s : Solution α) (kept : List (Applied α)) : Prop where
  t : s.closedLoop.t = kept.map (·.t)
  x : s.closedLoop.x = (kept.map (·.x)).flatten
  u : s.closedLoop.u = (kept.map (·.u)).flatten

/-- The start on record is the first time, if there is one. -/
def Headed (s : Solution α) : Prop := ∀ t ∈ s.closedLoop.t.head?, s.closedLoop.t0 = t

theorem left_le (calls : List (Call α)) : calls.foldl left 0 ≤ (pushed calls).length := by
  induction calls using List.reverseRecOn with
  | nil => exact Nat.le_refl 0
  | append_singleton calls call ih =>
    rw [List.foldl_append, pushed, List.filterMap_append, ← pushed, List.length_append]
    cases call with
    | push a => exact Nat.succ_le_succ ih
    | cap samples => exact Nat.le_trans (Nat.min_le_left _ _) ih

theorem pushed_cappedEach (samples : Nat) (applied : List (Applied α)) :
    pushed (cappedEach samples applied) = applied := by
  induction applied with
  | nil => rfl
  | cons a applied ih => exact congrArg (a :: ·) ih

theorem pushed_cappedOnce (samples : Nat) (applied : List (Applied α)) :
    pushed (cappedOnce samples applied) = applied := by
  induction applied with
  | nil => rfl
  | cons a applied ih => exact congrArg (a :: ·) ih

/-- The last cap decides, the others have taken nothing that it would have left. -/
theorem left_cappedEach (samples m : Nat) {applied : List (Applied α)} (hne : applied ≠ []) :
    (cappedEach samples applied).foldl left m = min (m + applied.length) samples := by
  induction applied generalizing m with
  | nil => exact absurd rfl hne
  | cons a applied ih =>
    change (cappedEach samples applied).foldl left (min (m + 1) samples) = _
    by_cases hlast : applied = []
    · subst hlast
      rfl
    · rw [ih _ hlast, List.length_cons]
      omega

theorem left_cappedOnce (samples m : Nat) (applied : List (Applied α)) :
    (cappedOnce samples applied).foldl left m = min (m + applied.length) samples := by
  have hpushes : (applied.map Call.push).foldl left m = m + applied.length := by
    induction applied generalizing m with
    | nil => rfl
    | cons a applied ih =>
      rw [List.map_cons, List.foldl_cons, ih, left, List.length_cons]
      omega
  rw [cappedOnce, List.foldl_append, hpushes]
  rfl

variable {s : Solution α} {kept : List (Applied α)} {nx nu : Nat}

def perform (s : Solution α) : Call α → Solution α
  | .push a => s.pushClosedLoop a.t a.x a.u
  | .cap samples => s.capStoredData samples

def performAll (s : Solution α) (calls : List (Call α)) : Solution α := calls.foldl perform s

theorem Keeps.push (h : s.Keeps kept) (a : Applied α) :
    (s.pushClosedLoop a.t a.x a.u).Keeps (kept ++ [a]) := by
  constructor
  · simp [pushClosedLoop, h.t]
  · simp [pushClosedLoop, h.x]
  · simp [pushClosedLoop, h.u]

/-- One channel of the samples, cut in front by whole samples of the size that its length amounts to. -/
theorem drop_channel {f : Applied α → Vec α} {dim : Nat} (hsized : ∀ a ∈ kept, (f a).length = dim)
    {samples : Nat} (hmore : samples < kept.length) :
    (kept.map f).flatten.drop
        ((kept.length - samples) * Trajectory.sampleSize kept.length (kept.map f).flatten) =
      ((kept.rtake samples).map f).flatten := by
  have hrows : ∀ row ∈ kept.map f, row.length = dim := by
    intro row hrow
    obtain ⟨a, ha, rfl⟩ := List.mem_map.mp hrow
    exact hsized a ha
  have hlength : (kept.map f).flatten.length = kept.length * dim := by
    rw [List.length_flatten, List.map_congr_left hrows, List.map_const', List.sum_replicate_nat,
      List.length_map]
  rw [Trajectory.sampleSize_of_length (by omega) hlength, Trajectory.drop_flatten hrows, List.rtake,
    List.map_drop]

theorem Keeps.cap (h : s.Keeps kept) (hsized : ∀ a ∈ kept, a.Sized nx nu) (samples : Nat) :
    (s.capStoredData samples).Keeps (kept.rtake samples) := by
  have hstored : s.closedLoop.t.length = kept.length := by rw [h.t, List.length_map]
  unfold capStoredData
  dsimp only
  split
  · next hfew => rwa [rtake_of_length_le (hstored ▸ hfew)]
  · next hmore =>
    have hmore : samples < kept.length := by omega
    constructor
    · change s.closedLoop.t.drop _ = _
      rw [hstored, h.t, List.rtake, List.map_drop]
    · change s.closedLoop.x.drop ((_ - _) * Trajectory.sampleSize s.closedLoop.t.length _) = _
      rw [hstored, h.x]
      exact drop_channel (fun a ha => (hsized a ha).x) hmore
    · change s.closedLoop.u.drop ((_ - _) * Trajectory.sampleSize s.closedLoop.t.length _) = _
      rw [hstored, h.u]
      exact drop_channel (fun a ha => (hsized a ha).u) hmore

theorem Headed.push (h : s.Headed) (a : Applied α) : (s.pushClosedLoop a.t a.x a.u).Headed := by
  intro t ht
  change t ∈ (s.closedLoop.t ++ [a.t]).head? at ht
  change (if s.closedLoop.t.isEmpty then a.t else s.closedLoop.t0) = t
  unfold Headed at h
  cases htimes : s.closedLoop.t with
  | nil =>
    rw [htimes] at ht
    exact Option.some.inj ht
  | cons first times =>
    rw [htimes] at h ht
    exact h t ht

theorem Headed.cap (h : s.Headed) (samples : Nat) : (s.capStoredData samples).Headed := by
  unfold capStoredData
  dsimp only
  split
  · exact h
  · intro t ht
    change (s.closedLoop.t.drop _).headD s.closedLoop.t0 = t
    rw [List.headD_eq_head?_getD, Option.mem_def.mp ht, Option.getD_some]

/-- One call more. -/
theorem Keeps.perform {calls : List (Call α)} {call : Call α} {m : Nat}
    (hsized : ∀ a ∈ pushed (calls ++ [call]), a.Sized nx nu) (h : s.Keeps ((pushed calls).rtake m)) :
    (s.perform call).Keeps ((pushed (calls ++ [call])).rtake (left m call)) := by
  cases call with
  | push a =>
    have hpushed : pushed (calls ++ [.push a]) = pushed calls ++ [a] := by simp [pushed]
    rw [hpushed, left, List.rtake_concat_succ]
    exact h.push a
  | cap samples =>
    have hpushed : pushed (calls ++ [Call.cap samples]) = pushed calls := by simp [pushed]
    rw [hpushed] at hsized ⊢
    rw [left, ← rtake_rtake]
    exact h.cap (fun a ha => hsized a (List.mem_of_mem_drop ha)) samples

/-- All calls leave the latest of the pushed samples. -/
theorem Keeps.performAll (h : s.Keeps []) {calls : List (Call α)}
    (hsized : ∀ a ∈ pushed calls, a.Sized nx nu) :
    (s.performAll calls).Keeps ((pushed calls).rtake (calls.foldl left 0)) := by
  induction calls using List.reverseRecOn with
  | nil => exact h
  | append_singleton calls call ih =>
    have hbefore : ∀ a ∈ pushed calls, a.Sized nx nu := by
      intro a ha
      apply hsized a
      rw [pushed, List.filterMap_append]
      exact List.mem_append_left _ ha
    rw [Solution.performAll, List.foldl_append, List.foldl_append]
    exact (ih hbefore).perform hsized

theorem Headed.performAll (h : s.Headed) (calls : List (Call α)) : (s.performAll calls).Headed := by
  induction calls generalizing s with
  | nil => exact h
  | cons call calls ih =>
    cases call with
    | push a => exact ih (h.push a)
    | cap samples => exact ih (h.cap samples)

/-- The values behind the first `n`, which have to be there. -/
def dropWithin (what : String) (n : Nat) (values : Vec α) : Checked (Vec α) := do
  Checked.require (n ≤ values.length) (.outOfRange what n values.length)
  return values.drop n

/-- `capStoredData` where all that is dropped has to be there. -/
def capWithin (samples : Nat) (s : Solution α) : Checked (Solution α) :=
  let h := s.closedLoop
  if h.t.length ≤ samples then return s
  else do
    let dropped := h.t.length - samples
    let t ← dropWithin "times" dropped h.t
    let x ← dropWithin "states" (dropped * h.shape.nx) h.x
    let u ← dropWithin "controls" (dropped * h.shape.nu) h.u
    return { s with closedLoop := { h with t0 := t.headD h.t0, t, x, u } }

theorem dropWithin_of_le {what : String} {n : Nat} {values : Vec α} (h : n ≤ values.length) :
    dropWithin what n values = .ok (values.drop n) :=
  bind_eq_ok.mpr ⟨(), Checked.require_eq_ok.mpr h, rfl⟩

/-- A channel is at least as long as its samples, of which only some are dropped. -/
theorem capWithin_eq (samples : Nat) (s : Solution α) :
    capWithin samples s = .ok (s.capStoredData samples) := by
  unfold capWithin capStoredData
  dsimp only
  split
  · rfl
  · next hmore =>
    have hchannel : ∀ values : Vec α, (s.closedLoop.t.length - samples) *
        Trajectory.sampleSize s.closedLoop.samples values ≤ values.length := by
      intro values
      have hpositive : Nat.max s.closedLoop.t.length 1 = s.closedLoop.t.length :=
        Nat.max_eq_left (by omega)
      rw [Trajectory.sampleSize, Record.samples, hpositive]
      exact Nat.le_trans (Nat.mul_le_mul_right _ (Nat.sub_le _ _)) (Nat.mul_div_le _ _)
    exact bind_eq_ok.mpr ⟨_, dropWithin_of_le (Nat.sub_le _ _), bind_eq_ok.mpr ⟨_,
      dropWithin_of_le (hchannel _), bind_eq_ok.mpr ⟨_, dropWithin_of_le (hchannel _), rfl⟩⟩⟩

/-- A solution without applied samples keeps the latest ones that are pushed, as many as every cap has left.
To cap after each push comes to the same as to cap at the end, and any cap finds all that it drops. -/
theorem keeps_latest (hempty : s.Keeps []) (calls : List (Call α))
    (hsized : ∀ a ∈ pushed calls, a.Sized nx nu) :
    calls.foldl left 0 ≤ (pushed calls).length ∧
    (s.performAll calls).Keeps ((pushed calls).rtake (calls.foldl left 0)) ∧
    (s.performAll calls).Headed ∧
    (∀ samples applied, (∀ a ∈ applied, a.Sized nx nu) → calls = [] ∨ applied ≠ [] → ∃ kept,
      (s.performAll (calls ++ cappedEach samples applied)).Keeps kept ∧
        (s.performAll (calls ++ cappedOnce samples applied)).Keeps kept) ∧
    ∀ samples (any : Solution α), capWithin samples any = .ok (any.capStoredData samples) := by
  have hheaded : s.Headed := by
    intro t ht
    rw [hempty.t] at ht
    exact absurd ht (by simp)
  refine ⟨left_le calls, hempty.performAll hsized, hheaded.performAll calls, ?_, capWithin_eq⟩
  intro samples applied happlied hsome
  have hall : ∀ more : List (Call α), pushed more = applied →
      pushed (calls ++ more) = pushed calls ++ applied := by
    intro more hmore
    rw [pushed, List.filterMap_append, ← pushed, ← pushed, hmore]
  have hboth : ∀ a ∈ pushed calls ++ applied, a.Sized nx nu := by
    intro a ha
    exact (List.mem_append.mp ha).elim (hsized a) (happlied a)
  have heach := hall _ (pushed_cappedEach samples applied)
  have honce := hall _ (pushed_cappedOnce samples applied)
  have hleft : (calls ++ cappedEach samples applied).foldl left 0 =
      (calls ++ cappedOnce samples applied).foldl left 0 := by
    rw [List.foldl_append, List.foldl_append, left_cappedOnce]
    by_cases hne : applied = []
    · obtain rfl := hsome.resolve_right (not_not.mpr hne)
      subst hne
      exact (Nat.zero_min samples).symm
    · exact left_cappedEach samples _ hne
  refine ⟨_, hempty.performAll (heach ▸ hboth), ?_⟩
  rw [hleft, heach, ← honce]
  exact hempty.performAll (honce ▸ hboth)

/-- Emptied at once, refilled, cut to two samples and given one more. -/
theorem refilled_keeps_latest :
    let before : Solution Rat := ⟨4, .empty 4, .empty 4, none, none, 0, 0, none, .converged⟩
    let calls : List (Call Rat) :=
      [.push ⟨0, [1, -1], [5]⟩, .cap 0, .push ⟨1, [2, -2], [6]⟩, .push ⟨2, [3, -3], [7]⟩,
        .push ⟨3, [4, -4], [8]⟩, .cap 2, .push ⟨4, [5, -5], [9]⟩]
    before.Keeps [] ∧ (∀ a ∈ pushed calls, a.Sized 2 1) ∧
      (before.performAll calls).closedLoop.t = [2, 3, 4] ∧
      (before.performAll calls).closedLoop.x = [3, -3, 4, -4, 5, -5] ∧
      (before.performAll calls).closedLoop.u = [7, 8, 9] ∧
      (before.performAll calls).closedLoop.t0 = 2 := by
  intro before calls
  have hempty : before.Keeps [] := ⟨rfl, rfl, rfl⟩
  have hsized : ∀ a ∈ pushed calls, a.Sized 2 1 := by
    simp only [calls, pushed, List.filterMap_cons, List.filterMap_nil, List.forall_mem_cons]
    exact ⟨⟨rfl, rfl⟩, ⟨rfl, rfl⟩, ⟨rfl, rfl⟩, ⟨rfl, rfl⟩, ⟨rfl, rfl⟩, by simp⟩
  obtain ⟨-, hkept, hheaded, -, -⟩ := keeps_latest hempty calls hsized
  have ht : (before.performAll calls).closedLoop.t = [2, 3, 4] := hkept.t
  exact ⟨hempty, hsized, ht, hkept.x, hkept.u, hheaded 2 (by rw [ht]; rfl)⟩

end Solution

end ConsensusControl
