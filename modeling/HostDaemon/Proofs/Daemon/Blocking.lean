import HostDaemon.Proofs.Daemon.Contention

/-! # What blocks a data directory

  A daemon that is gone leaves its pid file. Where the file names it the next daemon takes the file
  away and claims the directory. A file that names nobody is taken for the file of somebody else, and
  nobody ever takes it away.

  - `DataDirectory.claim_of_dead` says how a claim goes where the pid file is absent or names a process
    that is gone, and `DataDirectory.claim_of_blocked` how it goes where the file names nobody.
  - `Contention.Blocked.run` says that over such a file no process ever holds the directory, whoever
    comes.
  - `DataDirectory.claim_beside_nobody` is the result for every content of the pid file. -/

namespace HostDaemon

namespace FileSystem

variable {fs : FileSystem} {p q : Path} {l : Location}

/-- Where nothing was nothing is after another file was removed. -/
theorem locate_discard_of_free (hfree : fs.locate q = .ok (l, none)) :
    (DataDirectory.discard fs p).locate q = .ok (l, none) := by
  rcases fs.discard_cases p with ⟨hdiscard, -⟩ | ⟨there, bytes, runnable, hlocate, hdiscard⟩
  · rwa [hdiscard]
  · have hfile := node_of_locate hlocate
    have hnone := node_of_locate hfree
    have hroot : l ≠ [] := by
      rintro rfl
      cases hnone
    rw [hdiscard, (sameDirectories_erase (by simp [← hfile])).locate hfree, get?_erase, if_neg hroot,
      ← hnone, ite_self]

end FileSystem

namespace DataDirectory

variable {d : DataDirectory} {p : Processes} {fs fs' : FileSystem} {l : Location}
  {node : Option FileNode}

/-- A pid file is there, and it names nobody. -/
def IsBlocked (d : DataDirectory) (fs : FileSystem) : Prop :=
  (fs.node? d.pidFile).isSome = true ∧ d.namedPid? fs = none

/-! ### Claims -/

/-- Whoever finds no daemon and no pid file makes the file and writes its identifier into it, and
    takes it away again when it gives its claim up. -/
theorem claim_of_free (hstate : d.daemonState p fs = (.stopped, fs'))
    (hfree : fs'.locate d.pidFile = .ok (l, none)) (pid : UInt32) :
    ∃ fs'', d.claim p pid fs = (.ok (), fs'') ∧ d.namedPid? fs'' = some pid ∧
      (d.release pid fs'').node? d.pidFile = none := by
  have hcreate : fs'.createNew d.pidFile [] = .ok (fs'.put l (.file [] false)) := by
    rw [FileSystem.createNew, hfree]
  have hwritten := node?_writePid pid (FileSystem.createNew_eq_ok hcreate).2
  have hnamed : d.namedPid? (d.writePid (fs'.put l (.file [] false)) pid) = some pid := by
    rw [namedPid?_eq, hwritten, List.nil_append]
    exact pidOf?_digits pid
  refine ⟨d.writePid (fs'.put l (.file [] false)) pid, ?_, hnamed, ?_⟩
  · rw [claim, hstate]
    simp only [createPidFile, hcreate]
  · obtain ⟨there, hgone⟩ := FileSystem.locate_discard hwritten
    rw [release, if_pos hnamed, FileSystem.node?, hgone]

/-- Over the pid file of a process that is gone the directory is claimed as if there were none. -/
theorem claim_of_dead (hlocate : fs.locate d.pidFile = .ok (l, node))
    (hdead : ∀ named, d.namedPid? fs = some named → p.isAlive named = false)
    (hleft : node = none ∨ (d.namedPid? fs).isSome = true) (pid : UInt32) :
    ∃ fs', d.claim p pid fs = (.ok (), fs') ∧ d.namedPid? fs' = some pid ∧
      (d.release pid fs').node? d.pidFile = none := by
  cases hnamed : d.namedPid? fs with
  | none =>
    have hfree : fs.locate d.pidFile = .ok (l, none) := by
      rcases hleft with rfl | hsome
      · exact hlocate
      · rw [hnamed] at hsome
        cases hsome
    refine claim_of_free ?_ hfree pid
    rw [daemonState, hnamed]
  | some named =>
    have hstate : d.daemonState p fs =
        (.stopped, discard (discard fs d.pidFile) d.socketFile) := by
      simp [daemonState, hnamed, hdead named hnamed]
    -- What names a process is a file, and it is taken away.
    have hfile : ∃ bytes runnable, fs.node? d.pidFile = some (.file bytes runnable) := by
      rw [namedPid?_eq] at hnamed
      split at hnamed
      next bytes runnable hnode => exact ⟨bytes, runnable, hnode⟩
      next => cases hnamed
    obtain ⟨bytes, runnable, hnode⟩ := hfile
    obtain ⟨there, hgone⟩ := FileSystem.locate_discard hnode
    exact claim_of_free hstate (FileSystem.locate_discard_of_free hgone) pid

/-- A pid file that names nobody is taken for another daemon's. -/
theorem createNew_of_blocked (h : d.IsBlocked fs) :
    fs.createNew d.pidFile [] = .error .alreadyExists := by
  obtain ⟨hthere, -⟩ := h
  rw [FileSystem.node?] at hthere
  rw [FileSystem.createNew]
  split at hthere
  next l node hlocate =>
    obtain ⟨node, rfl⟩ := Option.isSome_iff_exists.1 hthere
    rw [hlocate]
  next => cases hthere

/-- Over a pid file that names nobody a claim is refused, and the file stays. -/
theorem claim_of_blocked (h : d.IsBlocked fs) (p : Processes) (pid : UInt32) :
    d.claim p pid fs = (.error (.alreadyRunning 0), fs) := by
  have hstate : d.daemonState p fs = (.stopped, fs) := by rw [daemonState, h.2]
  rw [claim, hstate]
  simp only [createPidFile, createNew_of_blocked h, h.2, Option.getD_none]

end DataDirectory

/-! ### For ever -/

/-- Has a process nothing to do with the pid file but to look at it, or to find that it is there? -/
def Contender.isIdle (c : Contender) : Bool :=
  match c.stage with
  | .reading | .creating | .naming | .released | .seen _ | .refused _ => true
  | _ => false

namespace Contention

variable {d : DataDirectory} {t : Contention}

/-- The pid file is there and names nobody, and nobody who is alive has anything to do with it. -/
structure Blocked (d : DataDirectory) (t : Contention) : Prop where
  /-- The file names nobody. -/
  files : d.IsBlocked t.files
  /-- Nobody has made it, or has found another process dead. -/
  idle : ∀ c ∈ t.contenders, c.isAlive = true → c.isIdle = true

/-- Whoever goes on finds that the file is there, and leaves it. -/
theorem next_of_blocked {c : Contender} (hfiles : d.IsBlocked t.files) (hidle : c.isIdle = true)
    (p : Processes) :
    (c.next d p t.files).2 = t.files ∧
      ({ c with stage := (c.next d p t.files).1 } : Contender).isIdle = true := by
  have hcreate := DataDirectory.createNew_of_blocked hfiles
  cases hstage : c.stage with
  | reading => cases hpurpose : c.purpose <;>
    simp [Contender.next, Contender.isIdle, Contender.whenStopped, hstage, hpurpose, hfiles.2]
  | creating => simp [Contender.next, Contender.isIdle, hstage, hcreate]
  | naming | released | seen | refused => simp [Contender.next, Contender.isIdle, hstage]
  | _ => simp [Contender.isIdle, hstage] at hidle

/-- A process that changes where it stands, and stays idle. -/
theorem Blocked.set (h : Blocked d t) (i : Nat) {c : Contender}
    (hidle : c.isAlive = true → c.isIdle = true) : Blocked d ⟨t.files, t.contenders.set i c⟩ := by
  refine ⟨h.files, fun e he halive => ?_⟩
  rcases List.mem_or_eq_of_mem_set he with hold | rfl
  · exact h.idle e hold halive
  · exact hidle halive

/-- Nothing that is done gets a pid file out of the way that names nobody. -/
theorem Blocked.step (h : Blocked d t) (others : Processes) (a : Action) :
    Blocked d (t.step d others a) := by
  cases a with
  | arrive pid purpose =>
    refine ⟨h.files, fun c hc halive => ?_⟩
    rcases List.mem_append.1 hc with hold | hnew
    · exact h.idle c hold halive
    · rw [List.mem_singleton.1 hnew]
      rfl
  | proceed i =>
    change Blocked d (t.proceed d others i)
    rcases t.proceed_cases d others i with ⟨hsame, -⟩ | ⟨c, hget, halive⟩
    · rwa [hsame]
    · have hidle := h.idle c (List.mem_of_getElem? hget) halive
      -- It is not about to take the file away, so that nobody else is told anything.
      have hleaves : c.clearsPidFile = false := by
        unfold Contender.isIdle at hidle
        split at hidle <;> simp_all [Contender.clearsPidFile]
      obtain ⟨hfiles, hnext⟩ := next_of_blocked h.files hidle (t.processes others)
      rw [proceed_of_alive hget halive, hleaves, hfiles]
      exact h.set i fun _ => hnext
  | giveUp i =>
    change Blocked d (t.change i _)
    rcases t.change_cases i (fun c => if c.stage = .holding then { c with stage := .releasing } else c)
      with hsame | ⟨c, hget, halive, hchange⟩
    · rwa [hsame]
    · have hidle := h.idle c (List.mem_of_getElem? hget) halive
      have hnothing : c.stage ≠ .holding := by
        intro hholding
        simp [Contender.isIdle, hholding] at hidle
      rw [hchange, if_neg hnothing]
      exact h.set i fun _ => hidle
  | die i =>
    change Blocked d (t.change i _)
    rcases t.change_cases i ({ · with isAlive := false }) with hsame | ⟨c, -, -, hchange⟩
    · rwa [hsame]
    · rw [hchange]
      exact h.set i fun halive => by cases halive

theorem Blocked.run (h : Blocked d t) (steps : List (Processes × Action)) :
    Blocked d (t.run d steps) :=
  List.foldlRecOn (motive := Blocked d) steps _ h fun _ ht step _ => ht.step step.1 step.2

theorem blocked_start {fs : FileSystem} (hfiles : d.IsBlocked fs) : Blocked d (start fs) where
  files := hfiles
  idle c hc := by cases hc

/-- Nobody holds a directory whose pid file names nobody. -/
theorem Blocked.not_holds (h : Blocked d t) : ∀ c ∈ t.contenders, c.holds = false := by
  intro c hc
  by_contra hholds
  simp only [Contender.holds, Bool.not_eq_false, Bool.and_eq_true, decide_eq_true_eq] at hholds
  obtain ⟨halive, hstage⟩ := hholds
  have hidle := h.idle c hc halive
  simp [Contender.isIdle, hstage] at hidle

end Contention

/-! ### Every content of the pid file -/

namespace DataDirectory

/-- How a claim goes where no process is alive that the pid file names, and nobody else acts, whatever
    is in the file and at the place of the socket. Where there is no pid file, or where it names a
    process, the directory is claimed: the file names the claiming process, and is gone when that
    process gives its claim up. Where there is one that names nobody, which is so of an empty one, the
    claim is refused as if another daemon were running, and in all that can come about from these
    files no process ever holds the directory. -/
theorem claim_beside_nobody (d : DataDirectory) (p : Processes) (pid : UInt32) (fs : FileSystem)
    {l : Location} {node : Option FileNode} (hlocate : fs.locate d.pidFile = .ok (l, node))
    (hdead : ∀ named, d.namedPid? fs = some named → p.isAlive named = false) :
    (node = none ∨ (d.namedPid? fs).isSome = true →
      ∃ fs', d.claim p pid fs = (.ok (), fs') ∧ d.namedPid? fs' = some pid ∧
        (d.release pid fs').node? d.pidFile = none) ∧
    (¬ (node = none ∨ (d.namedPid? fs).isSome = true) →
      d.claim p pid fs = (.error (.alreadyRunning 0), fs) ∧
      ∀ (steps : List (Processes × Contention.Action)),
        ∀ c ∈ ((Contention.start fs).run d steps).contenders, c.holds = false) := by
  refine ⟨fun hleft => claim_of_dead hlocate hdead hleft pid, fun hstays => ?_⟩
  rw [not_or, Bool.not_eq_true, Option.isSome_eq_false_iff, Option.isNone_iff_eq_none] at hstays
  obtain ⟨hthere, hnobody⟩ := hstays
  have hblocked : d.IsBlocked fs := by
    refine ⟨?_, hnobody⟩
    rw [FileSystem.node?, hlocate]
    exact Option.isSome_iff_ne_none.2 hthere
  exact ⟨claim_of_blocked hblocked p pid,
    fun steps => ((Contention.blocked_start hblocked).run steps).not_holds⟩

open Contention (leftBehind deserted)

/-- A process has made the pid file, and has died before it has written into it. -/
def abandoned : Contention :=
  (Contention.start ⟨[(["data"], .directory)]⟩).run ⟨"/data"⟩
    ([.arrive 100 .claim, .proceed 0, .proceed 0, .die 0].map (deserted, ·))

/-- The pid file that names a process that is gone is no obstacle, and the one that was abandoned
    while it was empty is one for good. -/
theorem claim_beside_nobody_small :
    (∃ fs', claim ⟨"/data"⟩ deserted 101 leftBehind = (.ok (), fs') ∧
      namedPid? ⟨"/data"⟩ fs' = some 101 ∧
      (release ⟨"/data"⟩ 101 fs').node? "/data/gamehost.pid" = none) ∧
    claim ⟨"/data"⟩ deserted 101 abandoned.files = (.error (.alreadyRunning 0), abandoned.files) ∧
    ∀ (steps : List (Processes × Contention.Action)),
      ∀ c ∈ ((Contention.start abandoned.files).run ⟨"/data"⟩ steps).contenders,
        c.holds = false := by
  constructor
  · exact (claim_beside_nobody ⟨"/data"⟩ deserted 101 leftBehind rfl fun _ _ => by
      simp [Processes.isAlive, deserted]).1 (Or.inr (by decide +kernel))
  · exact (claim_beside_nobody ⟨"/data"⟩ deserted 101 abandoned.files rfl fun _ _ => by
      simp [Processes.isAlive, deserted]).2 (by decide +kernel)

/-- An empty pid file names no live process, and nobody acts; still a claim is refused. -/
theorem empty_pid_file_blocks :
    abandoned.files.node? "/data/gamehost.pid" = some (.file [] false) ∧
    abandoned.contenders.all (fun c => !c.isAlive) = true ∧
    namedPid? ⟨"/data"⟩ abandoned.files = none ∧
    (claim ⟨"/data"⟩ deserted 101 abandoned.files).1 = .error (.alreadyRunning 0) := by
  decide +kernel

end DataDirectory

end HostDaemon
