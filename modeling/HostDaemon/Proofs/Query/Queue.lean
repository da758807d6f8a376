import HostDaemon.Query.Queue
import Mathlib.Data.List.Induction

/-! # One queue and one worker

  What becomes of the queries that are submitted, for every interleaving of submissions, steps of
  the worker and callers that go away.

  - `QueryQueue.Effect` says all that a step can come to.
  - `QueryQueue.Sound` says how the queue, the worker and the replies fit together in every state.
  - `QueryQueue.exists_finish_of_done` finds the step at which a job was finished, and what its
    caller has got.
  - `QueryQueue.AlikeFor` compares two queues that differ in what other callers have done.
  - `QueryQueue.exists_done` says that a worker that keeps working comes to every job.
  - `QueryQueue.queries_of_run` is the result for every run. -/

namespace HostDaemon.QueryQueue

variable {q r : QueryQueue} {a : Action} {as : List Action} {job : QueryJob} {result : QueryResult}
  {ticket : Nat} {port : UInt16}

/-! ### What a step does -/

/-- What a step can come to. -/
inductive Effect (q : QueryQueue) : Action → QueryQueue → Prop where
  /-- A submission is accepted. -/
  | entered (port : UInt16) (hsubmit : q.submit port = .ok (q.accepted, q.enqueue port))
      (hroom : q.waiting.length < queryCapacity) : Effect q (.submit port) (q.enqueue port)
  /-- A submission is refused. -/
  | refused (port : UInt16) (e : QueryError) (hsubmit : q.submit port = .error e) :
      Effect q (.submit port) q
  /-- The worker takes the job that has waited longest. -/
  | taken (job : QueryJob) (waiting : List QueryJob) (hidle : q.inWork = none)
      (hwaiting : q.waiting = job :: waiting) :
      Effect q .take { q with waiting := waiting, inWork := some job }
  /-- There is nothing to take, or nobody to take it. -/
  | nothingTaken (h : q.isOpen = true → q.inWork = none → q.waiting = []) : Effect q .take q
  /-- The worker finishes its job. -/
  | finished (probe : UInt16 → QueryResult) (job : QueryJob) (hwork : q.inWork = some job) :
      Effect q (.finish probe) (q.answer job (probe job.port))
  /-- There is nothing to finish. -/
  | nothingFinished (probe : UInt16 → QueryResult) (hidle : q.inWork = none) :
      Effect q (.finish probe) q
  /-- A caller goes away. -/
  | left (ticket : Nat) (h : ticket < q.accepted) :
      Effect q (.giveUp ticket) { q with gone := ticket :: q.gone }
  /-- Nobody has the ticket yet. -/
  | nobodyLeft (ticket : Nat) (h : q.accepted ≤ ticket) : Effect q (.giveUp ticket) q

/-- What a submission answers while there is a worker. -/
theorem submit_eq (hopen : q.isOpen = true) (port : UInt16) :
    q.submit port =
      if queryCapacity ≤ q.waiting.length then .error .busy
      else .ok (q.accepted, q.enqueue port) := by
  rw [submit, hopen]
  rfl

/-- A submission is refused only as one too many, and then nothing changes. -/
theorem refused_iff (hopen : q.isOpen = true) {e : QueryError} :
    q.submit port = .error e ↔ e = .busy ∧ queryCapacity ≤ q.waiting.length := by
  rw [submit_eq hopen]
  by_cases hfull : queryCapacity ≤ q.waiting.length
  · rw [if_pos hfull, Except.error.injEq, and_iff_left hfull, eq_comm]
  · simp [hfull]

theorem step_of_refused {e : QueryError} (h : q.submit port = .error e) :
    q.step (.submit port) = q := by
  rw [step, h]

theorem submit_cases (q : QueryQueue) (port : UInt16) :
    q.submit port = .ok (q.accepted, q.enqueue port) ∧ q.waiting.length < queryCapacity ∨
      ∃ e, q.submit port = .error e := by
  unfold submit
  split
  next => exact Or.inr ⟨_, rfl⟩
  next =>
    split
    next => exact Or.inr ⟨_, rfl⟩
    next hroom => exact Or.inl ⟨rfl, Nat.lt_of_not_le hroom⟩

theorem step_submit (q : QueryQueue) (port : UInt16) :
    q.step (.submit port) =
      if q.isOpen = true ∧ q.waiting.length < queryCapacity then q.enqueue port else q := by
  cases hopen : q.isOpen with
  | false => simp [step, submit, hopen]
  | true =>
    rw [step, submit_eq hopen]
    by_cases hfull : queryCapacity ≤ q.waiting.length
    · simp [hfull, Nat.not_lt.2 hfull]
    · simp [hfull, Nat.lt_of_not_le hfull]

theorem effect_step (q : QueryQueue) (a : Action) : Effect q a (q.step a) := by
  cases a with
  | submit port =>
    rcases submit_cases q port with ⟨hsubmit, hroom⟩ | ⟨e, hsubmit⟩
    · rw [step, hsubmit]
      exact .entered port hsubmit hroom
    · rw [step, hsubmit]
      exact .refused port e hsubmit
  | take =>
    rw [step, take]
    split
    next job waiting hopen hidle hwaiting => exact .taken job waiting hidle hwaiting
    next hnot =>
      refine .nothingTaken fun hopen hidle => ?_
      cases hwaiting : q.waiting with
      | nil => rfl
      | cons job waiting => exact absurd hwaiting (hnot job waiting hopen hidle)
  | finish probe =>
    rw [step, finish]
    split
    next job hwork => exact .finished probe job hwork
    next hidle => exact .nothingFinished probe hidle
  | giveUp ticket =>
    rw [step, giveUp]
    split
    next hthere => exact .left ticket hthere
    next hnot => exact .nobodyLeft ticket (Nat.le_of_not_lt hnot)

/-- A result goes to the caller of its job, where that is still there. -/
theorem repliesTo_answer (q : QueryQueue) (job : QueryJob) (result : QueryResult) (ticket : Nat) :
    (q.answer job result).repliesTo ticket =
      q.repliesTo ticket ++ if job.ticket = ticket ∧ ticket ∉ q.gone then [result] else [] := by
  by_cases hsame : job.ticket = ticket
  · subst hsame
    by_cases hgone : job.ticket ∈ q.gone <;> simp [repliesTo, answer, hgone]
  · by_cases hgone : job.ticket ∈ q.gone <;> simp [repliesTo, answer, hgone, hsame]

/-- The job that a step puts into the queue. -/
def added? (q : QueryQueue) : Action → Option QueryJob
  | .submit port =>
    match q.submit port with
    | .ok (ticket, _) => some ⟨ticket, port⟩
    | .error _ => none
  | _ => none

/-- The job that a step finishes, with its result. -/
def finished? (q : QueryQueue) : Action → Option (QueryJob × QueryResult)
  | .finish probe => q.inWork.map fun job => (job, probe job.port)
  | _ => none

theorem inWork_of_finished? (h : q.finished? a = some (job, result)) :
    q.inWork = some job ∧ ∃ probe, a = .finish probe ∧ result = probe job.port := by
  cases a with
  | finish probe =>
    rw [finished?, Option.map_eq_some_iff] at h
    obtain ⟨job', hwork, heq⟩ := h
    cases heq
    exact ⟨hwork, probe, rfl, rfl⟩
  | _ => cases h

namespace Effect

theorem isOpen_eq (h : Effect q a r) : r.isOpen = q.isOpen := by
  cases h <;> rfl

/-- Nothing but a submission that is accepted adds a job, and it adds it behind all others. -/
theorem jobs_eq (h : Effect q a r) : r.jobs = q.jobs ++ (q.added? a).toList := by
  cases h with
  | entered port hsubmit => simp [jobs, enqueue, added?, hsubmit]
  | refused port e hsubmit => simp [added?, hsubmit]
  | taken job waiting hidle hwaiting => simp [jobs, added?, hidle, hwaiting]
  | finished probe job hwork => simp [jobs, answer, added?, hwork]
  | left => simp [jobs, added?]
  | _ => simp [added?]

/-- The job that is added has the number of the jobs before it for a ticket. -/
theorem ticket_of_added? (h : Effect q a r) (hjob : q.added? a = some job) :
    job.ticket = q.accepted ∧ r.accepted = q.accepted + 1 := by
  cases h with
  | entered port hsubmit =>
    rw [added?, hsubmit] at hjob
    cases hjob
    exact ⟨rfl, rfl⟩
  | refused port e hsubmit =>
    rw [added?, hsubmit] at hjob
    cases hjob
  | _ => cases hjob

theorem accepted_of_added?_eq_none (h : Effect q a r) (hnone : q.added? a = none) :
    r.accepted = q.accepted := by
  cases h with
  | entered port hsubmit =>
    rw [added?, hsubmit] at hnone
    cases hnone
  | _ => rfl

theorem accepted_le (h : Effect q a r) : q.accepted ≤ r.accepted := by
  cases h with
  | entered => exact Nat.le_succ _
  | _ => exact Nat.le_refl _

/-- No step leaves more jobs waiting than the queue holds. -/
theorem waiting_le (h : Effect q a r) (hle : q.waiting.length ≤ queryCapacity) :
    r.waiting.length ≤ queryCapacity := by
  cases h with
  | entered port hsubmit hroom =>
    rw [enqueue, List.length_append]
    exact hroom
  | taken job waiting hidle hwaiting =>
    rw [hwaiting, List.length_cons] at hle
    exact Nat.le_of_succ_le hle
  | _ => exact hle

theorem done_eq (h : Effect q a r) : r.done = q.done ++ (q.finished? a).toList := by
  cases h with
  | finished probe job hwork => simp [answer, finished?, hwork]
  | nothingFinished probe hidle => simp [finished?, hidle]
  | _ => simp [finished?, enqueue]

/-- The result of the job that is finished goes to its caller, where that is still there. -/
theorem repliesTo_eq (h : Effect q a r) (hfinished : q.finished? a = some (job, result)) :
    r.repliesTo ticket =
      q.repliesTo ticket ++ if job.ticket = ticket ∧ ticket ∉ q.gone then [result] else [] := by
  cases h with
  | finished probe job' hwork =>
    rw [finished?, hwork] at hfinished
    cases hfinished
    exact repliesTo_answer q job _ ticket
  | nothingFinished probe hidle =>
    rw [finished?, hidle] at hfinished
    cases hfinished
  | _ => cases hfinished

theorem replies_of_finished?_eq_none (h : Effect q a r) (hnone : q.finished? a = none) :
    r.replies = q.replies := by
  cases h with
  | finished probe job hwork =>
    rw [finished?, hwork] at hnone
    cases hnone
  | _ => rfl

/-- The worker stays at its job until it has finished it. -/
theorem inWork_kept (h : Effect q a r) (hwork : q.inWork = some job) :
    r.inWork = some job ∨ q.done.length < r.done.length := by
  cases h with
  | taken _ _ hidle =>
    rw [hidle] at hwork
    cases hwork
  | finished probe _ _ =>
    right
    simp [answer]
  | _ => exact Or.inl hwork

/-- Who has gone away does not come back. -/
theorem gone_kept (h : Effect q a r) (hgone : ticket ∈ q.gone) : ticket ∈ r.gone := by
  cases h with
  | left other => exact List.mem_cons_of_mem other hgone
  | _ => exact hgone

end Effect

/-! ### Every state -/

/-- How the queue, the worker and the replies fit together. -/
structure Sound (q : QueryQueue) : Prop where
  /-- There is a worker. -/
  isOpen : q.isOpen = true
  /-- The queue holds no more jobs than it may. -/
  bounded : q.waiting.length ≤ queryCapacity
  /-- The jobs that were accepted have the tickets from zero on, in the order of the work. -/
  tickets : q.jobs.map (·.ticket) = List.range q.accepted
  /-- Only jobs that are done have been answered. -/
  answered : ∀ ticket, q.done.length ≤ ticket → q.repliesTo ticket = []

theorem sound_empty : Sound empty := by
  refine ⟨rfl, Nat.zero_le _, rfl, ?_⟩
  intro ticket _
  rfl

/-- The jobs that are done have the first tickets, and the job in work has the next one. -/
theorem Sound.ticket_eq (h : Sound q) {i : Nat} (hget : q.jobs[i]? = some job) :
    job.ticket = i := by
  have hticket : (q.jobs.map (·.ticket))[i]? = some job.ticket := by
    rw [List.getElem?_map, hget]
    rfl
  rw [h.tickets, List.getElem?_eq_some_iff] at hticket
  obtain ⟨hlt, hi⟩ := hticket
  rw [List.getElem_range] at hi
  exact hi.symm

theorem Sound.ticket_of_inWork (h : Sound q) (hwork : q.inWork = some job) :
    job.ticket = q.done.length := by
  apply h.ticket_eq
  rw [jobs, hwork, List.append_assoc, List.getElem?_append_right (by simp)]
  simp

theorem Sound.ticket_of_done (h : Sound q) (hdone : (job, result) ∈ q.done) :
    job.ticket < q.done.length := by
  obtain ⟨i, hget⟩ := List.mem_iff_getElem?.1 hdone
  have hi : i < q.done.length := (List.getElem?_eq_some_iff.1 hget).1
  have hjob : q.jobs[i]? = some job := by
    rw [jobs, List.append_assoc, List.getElem?_append_left (by simpa using hi), List.getElem?_map,
      hget]
    rfl
  rw [h.ticket_eq hjob]
  exact hi

/-- The jobs with the first tickets are done. -/
theorem Sound.exists_done_of_lt (h : Sound q) (hjob : job ∈ q.jobs)
    (hlt : job.ticket < q.done.length) : ∃ result, (job, result) ∈ q.done := by
  obtain ⟨i, hget⟩ := List.mem_iff_getElem?.1 hjob
  rw [h.ticket_eq hget] at hlt
  rw [jobs, List.append_assoc, List.getElem?_append_left (by simpa using hlt),
    List.getElem?_map, Option.map_eq_some_iff] at hget
  obtain ⟨⟨_, result⟩, hdone, rfl⟩ := hget
  exact ⟨result, List.mem_of_getElem? hdone⟩

theorem Sound.ticket_lt_accepted (h : Sound q) (hjob : job ∈ q.jobs) :
    job.ticket < q.accepted := by
  have hticket : job.ticket ∈ q.jobs.map (·.ticket) := List.mem_map_of_mem hjob
  rwa [h.tickets, List.mem_range] at hticket

theorem Sound.length_jobs (h : Sound q) : q.jobs.length = q.accepted := by
  have hlength := congrArg List.length h.tickets
  rwa [List.length_map, List.length_range] at hlength

theorem Sound.step (h : Sound q) (a : Action) : Sound (q.step a) := by
  have heffect := effect_step q a
  generalize q.step a = r at heffect ⊢
  refine ⟨?_, heffect.waiting_le h.bounded, ?_, ?_⟩
  · rw [heffect.isOpen_eq]
    exact h.isOpen
  · rw [heffect.jobs_eq, List.map_append, h.tickets]
    cases hadded : q.added? a with
    | none =>
      rw [heffect.accepted_of_added?_eq_none hadded]
      simp
    | some job =>
      obtain ⟨hticket, haccepted⟩ := heffect.ticket_of_added? hadded
      rw [haccepted, List.range_succ, Option.toList_some, List.map_singleton, hticket]
  · intro ticket hticket
    rw [heffect.done_eq, List.length_append] at hticket
    have hbefore : q.repliesTo ticket = [] := h.answered ticket (by omega)
    cases hfinished : q.finished? a with
    | none =>
      rw [repliesTo, heffect.replies_of_finished?_eq_none hfinished]
      exact hbefore
    | some entry =>
      -- The job that is finished has a lower ticket.
      obtain ⟨job, result⟩ := entry
      have hlower := h.ticket_of_inWork (inWork_of_finished? hfinished).1
      rw [hfinished, Option.toList_some, List.length_singleton] at hticket
      rw [heffect.repliesTo_eq hfinished, hbefore, if_neg (by omega)]
      rfl

theorem Sound.run (h : Sound q) (as : List Action) : Sound (q.run as) := by
  induction as generalizing q with
  | nil => exact h
  | cons a as ih => exact ih (h.step a)

theorem run_concat (q : QueryQueue) (as : List Action) (a : Action) :
    q.run (as ++ [a]) = (q.run as).step a := by
  rw [QueryQueue.run, List.foldl_append]
  rfl

theorem run_append (q : QueryQueue) (as bs : List Action) :
    q.run (as ++ bs) = (q.run as).run bs := List.foldl_append

theorem gone_run (as : List Action) (hgone : ticket ∈ q.gone) : ticket ∈ (q.run as).gone := by
  induction as generalizing q with
  | nil => exact hgone
  | cons a as ih => exact ih ((effect_step q a).gone_kept hgone)

theorem sound_run (as : List Action) : Sound (empty.run as) := sound_empty.run as

/-! ### Who is answered -/

/-- The jobs that a run puts into the queue, in order. -/
def addedIn (q : QueryQueue) : List Action → List QueryJob
  | [] => []
  | a :: as => (q.added? a).toList ++ (q.step a).addedIn as

theorem jobs_run (q : QueryQueue) (as : List Action) :
    (q.run as).jobs = q.jobs ++ q.addedIn as := by
  induction as generalizing q with
  | nil => exact (List.append_nil _).symm
  | cons a as ih =>
    have hrun : q.run (a :: as) = (q.step a).run as := rfl
    rw [hrun, ih, (effect_step q a).jobs_eq, addedIn, List.append_assoc]

/-- Every job that is done was finished at some step, with what the probe answered at that time for
    its port. Its caller has that reply and no other, unless it had gone away before. -/
theorem exists_finish_of_done (as : List Action) (hdone : (job, result) ∈ (empty.run as).done) :
    ∃ before probe after, as = before ++ .finish probe :: after ∧
      (empty.run before).inWork = some job ∧ result = probe job.port ∧
      (empty.run as).repliesTo job.ticket =
        if job.ticket ∈ (empty.run before).gone then [] else [result] := by
  induction as using List.reverseRecOn with
  | nil => cases hdone
  | append_singleton as a ih =>
    have hsound := sound_run as
    have heffect := effect_step (empty.run as) a
    rw [run_concat] at hdone ⊢
    generalize (empty.run as).step a = r at heffect hdone ⊢
    rw [heffect.done_eq, List.mem_append, Option.mem_toList] at hdone
    rcases hdone with hearlier | hnow
    · obtain ⟨before, probe, after, rfl, hwork, hresult, hreplies⟩ := ih hearlier
      refine ⟨before, probe, after ++ [a], by simp, hwork, hresult, ?_⟩
      rw [← hreplies]
      -- The job that is finished now, if any, is another one.
      cases hfinished : (empty.run (before ++ .finish probe :: after)).finished? a with
      | none => rw [repliesTo, heffect.replies_of_finished?_eq_none hfinished, repliesTo]
      | some entry =>
        obtain ⟨other, answer⟩ := entry
        have hother := hsound.ticket_of_inWork (inWork_of_finished? hfinished).1
        have hlower := hsound.ticket_of_done hearlier
        rw [heffect.repliesTo_eq hfinished, if_neg (by omega), List.append_nil]
    · obtain ⟨hwork, probe, rfl, hresult⟩ := inWork_of_finished? hnow
      refine ⟨as, probe, [], rfl, hwork, hresult, ?_⟩
      have hfresh : (empty.run as).repliesTo job.ticket = [] :=
        hsound.answered _ (Nat.le_of_eq (hsound.ticket_of_inWork hwork).symm)
      rw [heffect.repliesTo_eq hnow, hfresh, List.nil_append]
      by_cases hgone : job.ticket ∈ (empty.run as).gone <;> simp [hgone]

/-- The caller of a job that is done has its result and nothing else, where it is still there. -/
theorem repliesTo_of_done (as : List Action) (hdone : (job, result) ∈ (empty.run as).done)
    (hthere : job.ticket ∉ (empty.run as).gone) :
    (empty.run as).repliesTo job.ticket = [result] := by
  obtain ⟨before, probe, after, rfl, -, -, hreplies⟩ := exists_finish_of_done as hdone
  rw [hreplies, if_neg]
  intro hgone
  rw [run_append] at hthere
  exact hthere (gone_run _ hgone)

/-! ### Callers that go away -/

/-- Does a caller other than the one with the ticket go away? -/
def Action.isGoodbyeBeside (ticket : Nat) : Action → Bool
  | .giveUp other => other ≠ ticket
  | _ => false

/-- Two queues that differ at most in what callers other than the one with the ticket have done and
    got. -/
structure AlikeFor (ticket : Nat) (q r : QueryQueue) : Prop where
  waiting : q.waiting = r.waiting
  inWork : q.inWork = r.inWork
  done : q.done = r.done
  accepted : q.accepted = r.accepted
  isOpen : q.isOpen = r.isOpen
  gone : ticket ∈ q.gone ↔ ticket ∈ r.gone
  replies : q.repliesTo ticket = r.repliesTo ticket

namespace AlikeFor

theorem refl (ticket : Nat) (q : QueryQueue) : AlikeFor ticket q q :=
  ⟨rfl, rfl, rfl, rfl, rfl, Iff.rfl, rfl⟩

theorem symm (h : AlikeFor ticket q r) : AlikeFor ticket r q :=
  ⟨h.waiting.symm, h.inWork.symm, h.done.symm, h.accepted.symm, h.isOpen.symm, h.gone.symm,
    h.replies.symm⟩

theorem trans {s : QueryQueue} (h : AlikeFor ticket q r) (h' : AlikeFor ticket r s) :
    AlikeFor ticket q s :=
  ⟨h.waiting.trans h'.waiting, h.inWork.trans h'.inWork, h.done.trans h'.done,
    h.accepted.trans h'.accepted, h.isOpen.trans h'.isOpen, h.gone.trans h'.gone,
    h.replies.trans h'.replies⟩

/-- A queue is not changed for a caller when another one goes away. -/
theorem goodbye (h : AlikeFor ticket q r) (ha : a.isGoodbyeBeside ticket = true) :
    AlikeFor ticket (q.step a) r := by
  cases a with
  | giveUp other =>
    have hne : other ≠ ticket := by simpa [Action.isGoodbyeBeside] using ha
    rw [step, giveUp]
    split
    · refine ⟨h.waiting, h.inWork, h.done, h.accepted, h.isOpen, ?_, h.replies⟩
      rw [List.mem_cons, ← h.gone, or_iff_right hne.symm]
    · exact h
  | _ => cases ha

theorem enqueue (h : AlikeFor ticket q r) (port : UInt16) :
    AlikeFor ticket (q.enqueue port) (r.enqueue port) := by
  refine ⟨?_, h.inWork, h.done, ?_, h.isOpen, h.gone, h.replies⟩
  · rw [QueryQueue.enqueue, QueryQueue.enqueue, h.waiting, h.accepted]
  · rw [QueryQueue.enqueue, QueryQueue.enqueue, h.accepted]

theorem answer (h : AlikeFor ticket q r) (job : QueryJob) (result : QueryResult) :
    AlikeFor ticket (q.answer job result) (r.answer job result) := by
  refine ⟨h.waiting, rfl, ?_, h.accepted, h.isOpen, h.gone, ?_⟩
  · rw [QueryQueue.answer, QueryQueue.answer, h.done]
  · rw [repliesTo_answer, repliesTo_answer, h.replies]
    simp only [h.gone]

theorem step (h : AlikeFor ticket q r) (ha : a.isGoodbyeBeside ticket = false) :
    AlikeFor ticket (q.step a) (r.step a) := by
  cases a with
  | submit port =>
    rw [step_submit, step_submit, h.isOpen, h.waiting]
    split
    · exact h.enqueue port
    · exact h
  | take =>
    rw [QueryQueue.step, QueryQueue.step, take, take, h.isOpen, h.waiting, h.inWork]
    split
    · exact ⟨rfl, rfl, h.done, h.accepted, rfl, h.gone, h.replies⟩
    · exact h
  | finish probe =>
    rw [QueryQueue.step, QueryQueue.step, finish, finish, h.inWork]
    split
    · exact h.answer _ _
    · exact h
  | giveUp other =>
    have hsame : other = ticket := by simpa [Action.isGoodbyeBeside] using ha
    subst hsame
    rw [QueryQueue.step, QueryQueue.step, giveUp, giveUp, h.accepted]
    split
    · refine ⟨h.waiting, h.inWork, h.done, rfl, h.isOpen, ?_, h.replies⟩
      simp
    · exact h

theorem filter (h : AlikeFor ticket q r) (as : List Action) :
    AlikeFor ticket (q.run as) (r.run (as.filter (!·.isGoodbyeBeside ticket))) := by
  induction as generalizing q r with
  | nil => exact h
  | cons a as ih =>
    cases ha : a.isGoodbyeBeside ticket with
    | true =>
      rw [List.filter_cons_of_neg (by simp [ha])]
      exact ih (h.goodbye ha)
    | false =>
      rw [List.filter_cons_of_pos (by simp [ha])]
      exact ih (h.step ha)

/-- What a caller gets does not depend on which other callers go away. -/
theorem run (q : QueryQueue) {as bs : List Action}
    (hsame : as.filter (!·.isGoodbyeBeside ticket) = bs.filter (!·.isGoodbyeBeside ticket)) :
    AlikeFor ticket (q.run as) (q.run bs) := by
  have has := (AlikeFor.refl ticket q).filter as
  have hbs := (AlikeFor.refl ticket q).filter bs
  rw [← hsame] at hbs
  exact has.trans hbs.symm

end AlikeFor

/-! ### A worker that keeps working -/

/-- The worker looks for a job again and again, and finishes the job that it has again and
    again. -/
structure KeepsWorking (σ : Nat → Action) : Prop where
  takes : ∀ n, ∃ m, n ≤ m ∧ σ m = .take
  finishes : ∀ n, ∃ m probe, n ≤ m ∧ σ m = .finish probe

/-- The queue after the first steps of a schedule. -/
def after (q : QueryQueue) (σ : Nat → Action) (n : Nat) : QueryQueue :=
  q.run ((List.range n).map σ)

variable {σ : Nat → Action} {n m : Nat}

theorem after_succ (q : QueryQueue) (σ : Nat → Action) (n : Nat) :
    q.after σ (n + 1) = (q.after σ n).step (σ n) := by
  rw [after, List.range_succ, List.map_append, List.map_singleton, run_concat, after]

theorem Sound.after (h : Sound q) (σ : Nat → Action) (n : Nat) : Sound (q.after σ n) := h.run _

theorem length_done_mono (q : QueryQueue) (σ : Nat → Action) (hle : n ≤ m) :
    (q.after σ n).done.length ≤ (q.after σ m).done.length := by
  induction hle with
  | refl => exact Nat.le_refl _
  | step _ ih =>
    rw [after_succ, (effect_step _ _).done_eq, List.length_append]
    exact Nat.le_add_right_of_le ih

theorem accepted_mono (q : QueryQueue) (σ : Nat → Action) (hle : n ≤ m) :
    (q.after σ n).accepted ≤ (q.after σ m).accepted := by
  induction hle with
  | refl => exact Nat.le_refl _
  | step _ ih =>
    rw [after_succ]
    exact Nat.le_trans ih (effect_step _ _).accepted_le

/-- A job in work stays there as long as no job is finished. -/
theorem inWork_after (hwork : (q.after σ n).inWork = some job) (hle : n ≤ m)
    (hsame : (q.after σ m).done.length = (q.after σ n).done.length) :
    (q.after σ m).inWork = some job := by
  induction hle with
  | refl => exact hwork
  | @step m hle ih =>
    have hearlier := length_done_mono q σ hle
    have hlater := length_done_mono q σ (Nat.le_succ m)
    have hstill : (q.after σ m).done.length = (q.after σ n).done.length := by omega
    rw [after_succ] at hsame ⊢
    rcases (effect_step _ (σ m)).inWork_kept (ih hstill) with hkept | hdone
    · exact hkept
    · omega

/-- A job in work is finished sooner or later. -/
theorem exists_finished (hσ : KeepsWorking σ) (hwork : (q.after σ n).inWork = some job) :
    ∃ m, n ≤ m ∧ (q.after σ n).done.length < (q.after σ m).done.length := by
  obtain ⟨m, probe, hle, hm⟩ := hσ.finishes n
  have hmono := length_done_mono q σ hle
  by_cases hsame : (q.after σ m).done.length = (q.after σ n).done.length
  · refine ⟨m + 1, by omega, ?_⟩
    have hstill := inWork_after hwork hle hsame
    rw [after_succ, hm, (effect_step _ _).done_eq, finished?, hstill, List.length_append]
    simp [hsame]
  · exact ⟨m, hle, by omega⟩

/-- A worker that looks for a job where one is left has one afterwards. -/
theorem Sound.exists_inWork_take (h : Sound q) (hleft : q.done.length < q.accepted) :
    ∃ job, (q.step .take).inWork = some job := by
  rw [QueryQueue.step, take, h.isOpen]
  cases hwork : q.inWork with
  | some job => exact ⟨job, by simpa using hwork⟩
  | none =>
    cases hwaiting : q.waiting with
    | cons job waiting => exact ⟨job, rfl⟩
    | nil =>
      -- Nothing waits and nothing is in work, so that all jobs are done.
      have hlength := h.length_jobs
      simp [jobs, hwork, hwaiting] at hlength
      omega

/-- Where a job is left the worker finishes one sooner or later. -/
theorem exists_progress (h : Sound q) (hσ : KeepsWorking σ)
    (hleft : (q.after σ n).done.length < (q.after σ n).accepted) :
    ∃ m, n ≤ m ∧ (q.after σ n).done.length < (q.after σ m).done.length := by
  obtain ⟨k, hle, hk⟩ := hσ.takes n
  have hmono := length_done_mono q σ hle
  have hmore := accepted_mono q σ hle
  by_cases hsame : (q.after σ k).done.length = (q.after σ n).done.length
  · -- By then the worker has a job, or takes one that waits.
    have hbusy : ∃ job, (q.after σ (k + 1)).inWork = some job := by
      rw [after_succ, hk]
      exact (h.after σ k).exists_inWork_take (by omega)
    obtain ⟨job, hjob⟩ := hbusy
    obtain ⟨m, hlater, hdone⟩ := exists_finished hσ hjob
    have hkept := length_done_mono q σ (Nat.le_add_right k 1)
    exact ⟨m, by omega, by omega⟩
  · exact ⟨k, hle, by omega⟩

/-- A worker that keeps working comes to every job that was accepted. -/
theorem exists_done (h : Sound q) (hσ : KeepsWorking σ) (hticket : ticket < q.accepted) :
    ∃ n, ticket < (q.after σ n).done.length := by
  have hreach : ∀ k n, ticket < (q.after σ n).done.length + k →
      ∃ m, ticket < (q.after σ m).done.length := by
    intro k
    induction k with
    | zero => exact fun n hn => ⟨n, hn⟩
    | succ k ih =>
      intro n hn
      by_cases hdone : ticket < (q.after σ n).done.length
      · exact ⟨n, hdone⟩
      · have hthere := accepted_mono q σ (Nat.zero_le n)
        have hstart : (q.after σ 0).accepted = q.accepted := rfl
        obtain ⟨m, -, hprogress⟩ := exists_progress h hσ (n := n) (by omega)
        exact ih m (by omega)
  exact hreach (ticket + 1) 0 (by omega)

/-! ### All runs -/

/-- What becomes of the queries, in every run from an empty queue.

    - No more jobs wait beside the one in work than the queue holds. A submission is refused, as one
      too many, exactly where so many wait, and then it changes nothing.
    - The jobs that are done, the one in work and those that wait are the submissions that were
      accepted, each once and in the order of their acceptance.
    - A job that is done was finished at one step of the run, with what the probe answered then for
      the job's own port. Its caller has got this one reply, unless it had gone away before that
      step; then it has got none. Nobody has got anything for a job that is not done.
    - What a caller gets, and what the worker does, is the same in every run that differs only in
      which other callers go away, and when.
    - However a run goes on, as long as the worker keeps working every job that was accepted is
      finished at some time, and its caller has one reply from then on, unless it goes away. -/
theorem queries_of_run (as : List Action) :
    let q := empty.run as
    (q.waiting.length ≤ queryCapacity ∧
      ∀ port, (q.submit port = .error .busy ↔ q.waiting.length = queryCapacity) ∧
        ∀ e, q.submit port = .error e → e = .busy ∧ q.step (.submit port) = q) ∧
    (q.jobs = empty.addedIn as ∧ q.jobs.map (·.ticket) = List.range q.accepted) ∧
    (∀ job result, (job, result) ∈ q.done →
      ∃ before probe after, as = before ++ .finish probe :: after ∧
        (empty.run before).inWork = some job ∧ result = probe job.port ∧
        q.repliesTo job.ticket = if job.ticket ∈ (empty.run before).gone then [] else [result]) ∧
    (∀ ticket, q.done.length ≤ ticket → q.repliesTo ticket = []) ∧
    (∀ ticket bs,
      bs.filter (!·.isGoodbyeBeside ticket) = as.filter (!·.isGoodbyeBeside ticket) →
      AlikeFor ticket (empty.run bs) q) ∧
    (∀ σ, KeepsWorking σ → ∀ job ∈ q.jobs, ∃ n, ∀ m, n ≤ m → ∃ result,
      (job, result) ∈ (q.after σ m).done ∧
        (job.ticket ∉ (q.after σ m).gone → (q.after σ m).repliesTo job.ticket = [result])) := by
  intro q
  have h : Sound q := sound_run as
  refine ⟨⟨h.bounded, fun port => ?_⟩, ⟨jobs_run empty as, h.tickets⟩,
    fun job result hdone => exists_finish_of_done as hdone, h.answered,
    fun ticket bs hsame => AlikeFor.run empty hsame, fun σ hσ job hjob => ?_⟩
  · constructor
    · rw [refused_iff h.isOpen, and_iff_right rfl]
      exact ⟨Nat.le_antisymm h.bounded, Nat.le_of_eq ∘ Eq.symm⟩
    · intro e he
      exact ⟨((refused_iff h.isOpen).1 he).1, step_of_refused he⟩
  · obtain ⟨n, hn⟩ := exists_done h hσ (h.ticket_lt_accepted hjob)
    refine ⟨n, fun m hle => ?_⟩
    have hmono := length_done_mono q σ hle
    have hstill : job ∈ (q.after σ m).jobs := by
      rw [after, jobs_run]
      exact List.mem_append_left _ hjob
    obtain ⟨result, hdone⟩ := (h.after σ m).exists_done_of_lt hstill (by omega)
    refine ⟨result, hdone, fun hthere => ?_⟩
    have hafter : q.after σ m = empty.run (as ++ (List.range m).map σ) := by
      rw [run_append, after]
    rw [hafter] at hdone hthere ⊢
    exact repliesTo_of_done _ hdone hthere

/-- A query is in work and the queue is full. -/
def crowd : List Action :=
  [.submit 1, .take, .submit 2, .submit 3, .submit 4, .submit 5]

/-- No server is there. -/
def nobodyThere : UInt16 → QueryResult := fun port => .error (.notFound port)

/-- One of those who wait goes away, and two jobs are finished. -/
def crowdServed : List Action :=
  crowd ++ [.giveUp 1, .finish nobodyThere, .take, .finish nobodyThere]

/-- The worker takes a job and finishes it, over and over. -/
def busyWorker (n : Nat) : Action := if n % 2 = 0 then .take else .finish nobodyThere

theorem keepsWorking_busyWorker : KeepsWorking busyWorker := by
  constructor
  · intro n
    exact ⟨2 * n, by omega, by simp [busyWorker]⟩
  · intro n
    refine ⟨2 * n + 1, nobodyThere, by omega, ?_⟩
    have hodd : (2 * n + 1) % 2 ≠ 0 := by omega
    rw [busyWorker, if_neg hodd]

/-- A sixth query is refused while one is in work and four wait. When the second caller has gone
    away and two jobs are finished the first caller has its reply and the second one has none. The
    third one gets its own in the end. -/
theorem queries_of_small_run :
    (empty.run crowd).submit 6 = .error .busy ∧
    (empty.run crowd).step (.submit 6) = empty.run crowd ∧
    (empty.run crowdServed).repliesTo 0 = [.error (.notFound 1)] ∧
    (empty.run crowdServed).repliesTo 1 = [] ∧
    (empty.run crowdServed).repliesTo 2 = [] ∧
    ∃ n, ∀ m, n ≤ m → ∃ result,
      (⟨2, 3⟩, result) ∈ ((empty.run crowdServed).after busyWorker m).done ∧
        (2 ∉ ((empty.run crowdServed).after busyWorker m).gone →
          ((empty.run crowdServed).after busyWorker m).repliesTo 2 = [result]) := by
  obtain ⟨⟨-, hrefused⟩, -⟩ := queries_of_run crowd
  obtain ⟨-, -, -, hleft, -, hlater⟩ := queries_of_run crowdServed
  have hbusy : (empty.run crowd).submit 6 = .error .busy := (hrefused 6).1.2 (by decide)
  refine ⟨hbusy, ((hrefused 6).2 _ hbusy).2, ?_, ?_, hleft 2 (by decide),
    hlater busyWorker keepsWorking_busyWorker ⟨2, 3⟩ (by decide)⟩
  · decide
  · decide

end HostDaemon.QueryQueue
