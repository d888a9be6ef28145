import ConsensusControl.Proofs.Transport.History

namespace ConsensusControl

variable {α : Type}

theorem Envelope.length_under_le {envelopes : List (Envelope α)} (h : (envelopes.map (·.key)).Nodup)
    (key : Key) : (under key envelopes).length ≤ 1 := by
  induction envelopes with
  | nil => exact Nat.zero_le 1
  | cons e envelopes ih =>
    obtain ⟨hfresh, hnodup⟩ := List.nodup_cons.mp h
    by_cases hkey : e.key = key
    · subst hkey
      have hnone : envelopes.filter (·.key = e.key) = [] := by
        rw [List.filter_eq_nil_iff]
        intro e' he' hsame
        exact hfresh (List.mem_map.mpr ⟨e', he', of_decide_eq_true hsame⟩)
      rw [under_cons_self, under, hnone]
      exact Nat.le_refl 1
    · rw [under_cons_ne hkey]
      exact ih hnodup

theorem Call.length_delivered_le {log : List (Call α × Answer α)}
    (h : ((accepted log).map (·.key)).Nodup) (id : AgentId) (key : Key) :
    (delivered id key log).length ≤ 1 :=
  Envelope.length_under_le (h.sublist (List.filter_sublist.map _)) key

/-- There is only one order of a single record. -/
theorem eq_of_perm {β : Type} {l l' : List β} (h : l.Perm l') (hl : l.length ≤ 1) : l = l' := by
  match l with
  | [] => exact h.nil_eq
  | [b] => exact h.singleton_eq
  | _ :: _ :: _ => simp at hl

namespace Call

/-- The envelopes that are sent. -/
def sent (calls : List (Call α)) : List (Envelope α) :=
  calls.filterMap fun
    | .send e => some e
    | _ => none

/-- Deliveries, and after them receives. -/
def batch (sends : List (Envelope α)) (requests : List (AgentId × Key)) : List (Call α) :=
  sends.map .send ++ requests.map fun request => .receive request.1 request.2

@[simp] theorem sent_append (calls calls' : List (Call α)) :
    sent (calls ++ calls') = sent calls ++ sent calls' :=
  List.filterMap_append

theorem batch_concat (sends : List (Envelope α)) (requests : List (AgentId × Key))
    (request : AgentId × Key) :
    batch sends (requests ++ [request]) = batch sends requests ++ [.receive request.1 request.2] := by
  simp [batch]

@[simp] theorem sent_batch (sends : List (Envelope α)) (requests : List (AgentId × Key)) :
    sent (batch sends requests) = sends := by
  have hsends : sent (sends.map .send) = sends := by
    induction sends with
    | nil => rfl
    | cons e sends ih => exact congrArg (e :: ·) ih
  induction requests using List.reverseRecOn with
  | nil => simpa [batch] using hsends
  | append_singleton requests request ih =>
    rw [batch_concat, sent_append, ih]
    exact List.append_nil sends

/-- Before a receive nothing was asked for of a later round. -/
theorem rounds_before_receive {id : AgentId} {key : Key} {calls : List (Call α)}
    (h : (rounds id (calls ++ [.receive id key])).Pairwise (· ≤ ·)) :
    (rounds id calls).Pairwise (· ≤ ·) ∧ ∀ round ∈ rounds id calls, round ≤ key.round := by
  rw [rounds_append, List.pairwise_append] at h
  obtain ⟨hcalls, -, hnext⟩ := h
  exact ⟨hcalls, fun round hround => hnext round hround _ (by simp [rounds])⟩

theorem rounds_batch (id : AgentId) (sends sends' : List (Envelope α))
    (requests : List (AgentId × Key)) :
    rounds id (batch sends requests) = rounds id (batch sends' requests) := by
  have hsends : ∀ sends : List (Envelope α), rounds id (sends.map Call.send) = [] := by
    intro sends
    induction sends with
    | nil => rfl
    | cons e sends ih => exact ih
  rw [batch, batch, rounds_append, rounds_append, hsends, hsends]

end Call

namespace Direct

open Call (after log rounds delivered given asked batch)

variable {d : Direct α} {id : AgentId} {calls : List (Call α)} {key : Key}

/-- Which envelopes are accepted does not depend on what else happens. -/
theorem accepted_log (d : Direct α) (calls : List (Call α)) :
    Call.accepted (log perform d calls) =
      (Call.sent calls).filter fun e => e.record.fits e.kind && d.isRegistered e.receiver := by
  induction calls generalizing d with
  | nil => rfl
  | cons call calls ih =>
    have hrest := ih (d.perform call).2
    simp only [isRegistered_perform] at hrest
    change Call.accepted ([_] ++ _) = (Call.sent ([call] ++ calls)).filter _
    rw [Call.accepted_append, hrest, Call.sent_append, List.filter_append]
    congr 1
    cases call with
    | send e =>
      by_cases hok : e.record.fits e.kind = true ∧ d.isRegistered e.receiver = true
      · rw [perform_send_accepted hok.1 hok.2]
        simp [Call.accepted, Call.sent, hok.1, hok.2]
      · obtain ⟨refusal, hrefused⟩ := perform_send_refused hok
        rw [hrefused]
        simpa [Call.accepted, Call.sent] using hok
    | relay => rfl
    | receive receiver key => rfl

/-- What was delivered to an empty mailbox under a key that is not over has been given out or waits. -/
theorem accounts_after (hopen : d.mailboxes.lookup id = some .empty)
    (hrounds : (rounds id calls).Pairwise (· ≤ ·)) (hover : ∀ round ∈ rounds id calls, round ≤ key.round) :
    Accounts (delivered id key (log perform d calls)) (given id key (log perform d calls))
      ((after perform d calls).waiting id key) := by
  obtain ⟨m, hm, hrecorded⟩ := recorded hopen hrounds
  have haccounts := hrecorded.accounts key (by rwa [Call.map_log])
  rwa [Mailbox.waiting_empty, List.nil_append, ← waiting_of_lookup hm] at haccounts

/-- The next receive under a key, where at most one envelope was delivered. -/
theorem perform_receive_iff (hopen : d.mailboxes.lookup id = some .empty)
    (hrounds : (rounds id (calls ++ [.receive id key])).Pairwise (· ≤ ·))
    (hunique : (delivered id key (log perform d calls)).length ≤ 1) :
    ∃ found, ((after perform d calls).perform (.receive id key)).1 = .ok found ∧
      ∀ record, found = some record ↔
        delivered id key (log perform d calls) = [record] ∧
          given id key (log perform d calls) = [] := by
  obtain ⟨hbefore, hover⟩ := Call.rounds_before_receive hrounds
  have hall := (accounts_after hopen hbefore hover).eq_of_length_le hunique
  have hregistered : (after perform d calls).isRegistered id = true := by
    rw [isRegistered_after, isRegistered, Table.contains, hopen]
    rfl
  refine ⟨_, perform_receive hregistered key, fun record => ?_⟩
  rw [← hall, List.length_append] at hunique
  rw [← hall]
  constructor
  · intro hhead
    obtain ⟨rest, hwaiting⟩ := List.head?_eq_some_iff.mp hhead
    rw [hwaiting, List.length_cons] at hunique
    have hgiven := List.length_eq_zero_iff.mp
      (show (given id key (log perform d calls)).length = 0 by omega)
    have hrest := List.length_eq_zero_iff.mp (show rest.length = 0 by omega)
    rw [hwaiting, hgiven, hrest]
    exact ⟨rfl, rfl⟩
  · intro honce
    obtain ⟨hdelivered, hgiven⟩ := honce
    rw [hgiven, List.nil_append] at hdelivered
    rw [hdelivered]
    rfl

/-- Deliveries alone are answered to nobody. -/
theorem asked_batch_nil (d : Direct α) (sends : List (Envelope α)) (id : AgentId) :
    asked id (log perform d (batch sends [])) = [] := by
  rw [batch, List.map_nil, List.append_nil]
  induction sends generalizing d with
  | nil => rfl
  | cons e sends ih => exact ih (d.perform (.send e)).2

theorem delivered_batch_perm {sends sends' : List (Envelope α)} (h : sends.Perm sends') (d : Direct α)
    (id : AgentId) (key : Key) (requests requests' : List (AgentId × Key)) :
    (delivered id key (log perform d (batch sends requests))).Perm
      (delivered id key (log perform d (batch sends' requests'))) := by
  unfold delivered Envelope.under
  rw [accepted_log, accepted_log, Call.sent_batch, Call.sent_batch]
  exact (((h.filter _).filter _).filter _).map _

/-- The answers do not depend on the order of the deliveries before. -/
theorem asked_batch_perm {sends sends' : List (Envelope α)} (h : sends.Perm sends')
    {requests : List (AgentId × Key)} (hopen : d.mailboxes.lookup id = some .empty)
    (hrounds : (rounds id (batch sends requests)).Pairwise (· ≤ ·))
    (hunique : ∀ key, (delivered id key (log perform d (batch sends []))).length ≤ 1) :
    asked id (log perform d (batch sends' requests)) =
      asked id (log perform d (batch sends requests)) := by
  induction requests using List.reverseRecOn with
  | nil => rw [asked_batch_nil, asked_batch_nil]
  | append_singleton requests request ih =>
    obtain ⟨receiver, key⟩ := request
    rw [Call.batch_concat] at hrounds
    have hsame := ih (List.Pairwise.sublist (by simp) hrounds)
    rw [Call.batch_concat, Call.batch_concat, Call.log_append, Call.log_append, Call.asked_append,
      Call.asked_append, hsame]
    congr 1
    by_cases hid : receiver = id
    · subst hid
      have hrounds' : (rounds receiver (batch sends' requests ++ [.receive receiver key])).Pairwise
          (· ≤ ·) := by
        rwa [Call.rounds_append, Call.rounds_batch receiver sends' sends, ← Call.rounds_append]
      have hdelivered := eq_of_perm (delivered_batch_perm (.refl sends) d receiver key [] requests)
        (hunique key)
      have hdelivered' := eq_of_perm (delivered_batch_perm h d receiver key [] requests)
        (hunique key)
      obtain ⟨found, hfound, hiff⟩ := perform_receive_iff hopen hrounds (hdelivered ▸ hunique key)
      obtain ⟨found', hfound', hiff'⟩ := perform_receive_iff hopen hrounds' (hdelivered' ▸ hunique key)
      obtain rfl : found' = found := Option.ext fun record => by
        rw [hiff', hiff, ← hdelivered, ← hdelivered', given, given, hsame]
      simp [log, asked, hfound, hfound']
    · simp [log, asked, hid]

/-- Every record comes out once, under its own key and of the mailbox it was put into: a receive is
answered if and only if a record was delivered under its key and has not been given out. -/
theorem gives_each_once (hopen : d.mailboxes.lookup id = some .empty)
    (hrounds : (rounds id calls).Pairwise (· ≤ ·))
    (hunique : ∀ key, (delivered id key (log perform d calls)).length ≤ 1) :
    (∀ before key rest, calls = before ++ .receive id key :: rest →
      ∃ found, ((after perform d before).perform (.receive id key)).1 = .ok found ∧
        ∀ record, found = some record ↔
          delivered id key (log perform d before) = [record] ∧
            given id key (log perform d before) = []) ∧
    (∀ key, (given id key (log perform d calls)).Sublist (delivered id key (log perform d calls))) ∧
    (∀ sends sends' requests, calls = batch sends requests → sends.Perm sends' →
      asked id (log perform d (batch sends' requests)) = asked id (log perform d calls)) := by
  refine ⟨fun before key rest hcalls => ?_, fun key => ?_, fun sends sends' requests hcalls hperm => ?_⟩
  · rw [hcalls, List.append_cons] at hrounds hunique
    have hbefore := hunique key
    rw [List.append_assoc, Call.log_append, Call.delivered_append, List.length_append] at hbefore
    rw [Call.rounds_append] at hrounds
    exact perform_receive_iff hopen (List.pairwise_append.mp hrounds).1 (by omega)
  · obtain ⟨m, -, hrecorded⟩ := recorded hopen hrounds
    exact hrecorded.given_sublist key
  · subst hcalls
    refine asked_batch_perm hperm hopen hrounds fun key => ?_
    exact eq_of_perm (delivered_batch_perm (.refl sends) d id key requests []) (hunique key) ▸
      hunique key

/-- A multiplier for the agent with the mailbox. -/
def letter (sender : AgentId) (round : Nat) (value : Rat) : Envelope Rat :=
  ⟨sender, 1, round, .coupledMultiplierState,
    ⟨(⟨sender, 0, [0], [], [value], []⟩ : MultiplierState Rat)⟩⟩

/-- Three letters, asked for in another order than that of their arrival, and the last one twice. -/
theorem letters_out_of_order :
    (opened [1] : Direct Rat).mailboxes.lookup 1 = some .empty ∧
    asked 1 (log perform (opened [1]) (batch [letter 2 1 2, letter 0 2 3, letter 0 1 1]
      [(1, (letter 2 1 2).key), (1, (letter 0 1 1).key), (1, (letter 0 2 3).key),
        (1, (letter 0 2 3).key)])) =
      [((letter 2 1 2).key, .ok (some (letter 2 1 2).record)),
        ((letter 0 1 1).key, .ok (some (letter 0 1 1).record)),
        ((letter 0 2 3).key, .ok (some (letter 0 2 3).record)), ((letter 0 2 3).key, .ok none)] := by
  have hopen : (opened [1] : Direct Rat).mailboxes.lookup 1 = some .empty := rfl
  have hunique : ∀ key, (delivered 1 key (log perform (opened [1])
      (batch [letter 0 1 1, letter 0 2 3, letter 2 1 2] [(1, (letter 2 1 2).key),
        (1, (letter 0 1 1).key), (1, (letter 0 2 3).key), (1, (letter 0 2 3).key)]))).length ≤ 1 := by
    refine Call.length_delivered_le ?_ 1
    rw [accepted_log, Call.sent_batch]
    decide
  obtain ⟨-, -, horder⟩ := gives_each_once hopen (by decide) hunique
  exact ⟨hopen, (horder _ _ _ rfl (List.reverse_perm [_, _, _]).symm).trans rfl⟩

theorem lookup_after_receive {m : Mailbox α}
    (hm : (after perform d calls).mailboxes.lookup id = some m) (key : Key) :
    (after perform d (calls ++ [.receive id key])).mailboxes.lookup id = some (m.receive key).2 := by
  rw [Call.after_append]
  exact lookup_perform_receive hm key

/-- Without a further delivery only what waits comes out, as far as it is still there. -/
theorem given_waiting_sublist {m : Mailbox α} (hm : d.mailboxes.lookup id = some m)
    (hrounds : (rounds id calls).Pairwise (· ≤ ·))
    (hnone : delivered id key (log perform d calls) = []) :
    (given id key (log perform d calls)).Sublist (m.waiting key) := by
  obtain ⟨m', -, hrecorded⟩ := recorded hm hrounds
  have hgiven := hrecorded.given_sublist key
  rwa [hnone, List.append_nil] at hgiven

/-- A receive that finds nothing has passed everything. -/
theorem length_waiting_le {m : Mailbox α} {asked : Key} (hround : asked.round ≤ key.round)
    (hm : d.mailboxes.lookup id = some m)
    (hnothing : (d.perform (.receive id asked)).1 = .ok none) :
    ((m.receive asked).2.waiting key).length ≤ 1 := by
  rw [perform_receive_open hm] at hnothing
  have hanswer : (m.receive asked).1 = none := Except.ok.inj hnothing
  by_cases hkey : key = asked
  · subst hkey
    obtain ⟨hhead, hleft⟩ := m.receive_self key
    have hwaiting : m.waiting key = [] := List.head?_eq_none_iff.mp (hhead.symm.trans hanswer)
    rw [hleft, hwaiting]
    exact Nat.zero_le 1
  · exact (Mailbox.receive_ne hround hkey m).2 hanswer

/-- From a receive that found nothing on, the records that wait can only become fewer. -/
theorem length_waiting_le_of_passed {before rest : List (Call α)} {asked : Key}
    (hopen : d.mailboxes.lookup id = some .empty)
    (hrounds : (rounds id (before ++ .receive id asked :: rest)).Pairwise (· ≤ ·))
    (hover : ∀ round ∈ rounds id (before ++ .receive id asked :: rest), round ≤ key.round)
    (hnothing : ((after perform d before).perform (.receive id asked)).1 = .ok none)
    (hnone :
      delivered id key (log perform (after perform d (before ++ [.receive id asked])) rest) = []) :
    ((after perform d (before ++ .receive id asked :: rest)).waiting id key).length ≤ 1 := by
  rw [List.append_cons] at hrounds hover ⊢
  rw [Call.rounds_append] at hover
  rw [Call.rounds_append, List.pairwise_append] at hrounds
  obtain ⟨hfirst, hrest, -⟩ := hrounds
  have hround : asked.round ≤ key.round := hover _ (List.mem_append_left _ (by simp [rounds]))
  rw [Call.rounds_append] at hfirst
  obtain ⟨m₁, hm₁, -⟩ := recorded hopen (List.pairwise_append.mp hfirst).1
  obtain ⟨m₂, hm₂, hsince⟩ := recorded (lookup_after_receive hm₁ asked) hrest
  have hfew := hsince.accounts key fun round hasked => by
    rw [Call.map_log] at hasked
    exact hover round (List.mem_append_right _ hasked)
  rw [hnone, List.append_nil] at hfew
  have hle := hfew.sublist.length_le
  rw [List.length_append] at hle
  have hone := length_waiting_le hround hm₁ hnothing
  rw [Call.after_append, waiting_of_lookup hm₂]
  omega

/-- Records under one key come out in the order of their delivery, the newest last. Of those that wait
only the newest is left once some receive has found nothing since it was delivered. -/
theorem duplicates_in_line (hopen : d.mailboxes.lookup id = some .empty)
    (hrounds : (rounds id (calls ++ [.receive id key])).Pairwise (· ≤ ·)) :
    Accounts (delivered id key (log perform d calls)) (given id key (log perform d calls))
      ((after perform d calls).waiting id key) ∧
    ((after perform d calls).perform (.receive id key)).1 =
      .ok ((after perform d calls).waiting id key).head? ∧
    (after perform d (calls ++ [.receive id key])).waiting id key =
      ((after perform d calls).waiting id key).tail ∧
    (∀ later, (rounds id (calls ++ .receive id key :: later)).Pairwise (· ≤ ·) →
      delivered id key (log perform (after perform d (calls ++ [.receive id key])) later) = [] →
      (given id key (log perform (after perform d (calls ++ [.receive id key])) later)).Sublist
        ((after perform d calls).waiting id key).tail) ∧
    (∀ before other rest, calls = before ++ .receive id other :: rest →
      ((after perform d before).perform (.receive id other)).1 = .ok none →
      delivered id key (log perform (after perform d (before ++ [.receive id other])) rest) = [] →
      ((after perform d calls).waiting id key).length ≤ 1) := by
  obtain ⟨hcalls, hover⟩ := Call.rounds_before_receive hrounds
  obtain ⟨m, hm, -⟩ := recorded hopen hcalls
  have hwaiting := waiting_of_lookup hm key
  obtain ⟨hanswer, hleft⟩ := m.receive_self key
  have hnext := lookup_after_receive hm key
  refine ⟨accounts_after hopen hcalls hover, by rw [perform_receive_open hm, hanswer, hwaiting], ?_,
    fun later hlater hnone => ?_, fun before other rest hbefore hnothing hnone => ?_⟩
  · rw [waiting_of_lookup hnext, hleft, hwaiting]
  · rw [List.append_cons, Call.rounds_append] at hlater
    rw [hwaiting, ← hleft]
    exact given_waiting_sublist hnext (List.pairwise_append.mp hlater).2.1 hnone
  · subst hbefore
    exact length_waiting_le_of_passed hopen hcalls hover hnothing hnone

/-- One record gives way to the other where a receive passes both. -/
theorem letters_overwritten :
    (opened [1] : Direct Rat).mailboxes.lookup 1 = some .empty ∧
    ((after perform (opened [1]) [.send (letter 0 1 1), .send (letter 0 1 2),
      .receive 1 (letter 2 1 0).key]).perform (.receive 1 (letter 0 1 1).key)).1 =
        .ok (some (letter 0 1 2).record) := by
  have hopen : (opened [1] : Direct Rat).mailboxes.lookup 1 = some .empty := rfl
  have hrounds : (rounds 1 ([.send (letter 0 1 1), .send (letter 0 1 2),
      .receive 1 (letter 2 1 0).key] ++ [.receive 1 (letter 0 1 1).key])).Pairwise (· ≤ ·) := by
    decide
  obtain ⟨-, hanswer, -⟩ := duplicates_in_line hopen hrounds
  exact ⟨hopen, hanswer.trans rfl⟩

/-- Where no receive has passed them, both are given out, the older one first. -/
theorem letters_both_given :
    (letter 0 1 1).key = (letter 0 1 2).key ∧
    (delivered 1 (letter 0 1 1).key (log perform (opened [1]) [.send (letter 0 1 1),
      .send (letter 0 1 2)])).getLast? = some (letter 0 1 2).record ∧
    asked 1 (log perform (opened [1]) [.send (letter 0 1 1), .send (letter 0 1 2),
      .receive 1 (letter 0 1 1).key, .receive 1 (letter 0 1 1).key]) =
        [((letter 0 1 1).key, .ok (some (letter 0 1 1).record)),
          ((letter 0 1 1).key, .ok (some (letter 0 1 2).record))] ∧
    (letter 0 1 1).record ≠ (letter 0 1 2).record := by
  refine ⟨rfl, rfl, rfl, fun hsame => ?_⟩
  obtain ⟨-, hrecord⟩ := StateRecord.mk.inj hsame
  have hu := congrArg Record.u (eq_of_heq hrecord)
  exact absurd hu (by decide)

end Direct

end ConsensusControl
