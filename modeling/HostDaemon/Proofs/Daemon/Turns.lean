import HostDaemon.Proofs.Daemon.Ownership

/-! # What a process has seen, and what is so when it acts

  Two conditions on a run under which nobody takes away the pid file of another process.

  - `Contention.After` lists who a process can be after a step, by what it was before.
  - `Contention.Calm` is the state of affairs where nobody has died: whoever is named is alive.
  - `Contention.Settled` is the state of affairs where nobody goes on beside a process that has not
    acted yet on what it has seen. -/

namespace HostDaemon

namespace Contender

/-- Is it between looking at the pid file, or making it, and what it does in consequence? -/
def isMidway (c : Contender) : Bool :=
  c.isAlive &&
    match c.stage with
    | .judging _ | .clearingPidFile | .writing _ => true
    | _ => false

variable {c : Contender}

@[simp]
theorem unlink_pid (c : Contender) : c.unlink.pid = c.pid := by
  unfold unlink
  split <;> rfl

/-- A process judges whom the pid file has named. -/
theorem next_eq_judging {d : DataDirectory} {p : Processes} {fs : FileSystem} {named : UInt32}
    (h : (c.next d p fs).1 = .judging named) :
    d.namedPid? fs = some named ∧ (c.next d p fs).2 = fs := by
  unfold next whenStopped whenTaken at *
  cases hstage : c.stage <;> simp only [hstage] at h ⊢
  all_goals (repeat' split at h)
  all_goals simp_all

/-- A process takes away what names a process that is not alive. -/
theorem next_eq_clearingPidFile {d : DataDirectory} {p : Processes} {fs : FileSystem}
    (h : (c.next d p fs).1 = .clearingPidFile) :
    ∃ named, c.stage = .judging named ∧ p.isAlive named = false ∧ (c.next d p fs).2 = fs := by
  unfold next whenStopped whenTaken at *
  cases hstage : c.stage <;> simp only [hstage] at h ⊢
  all_goals (repeat' split at h)
  all_goals simp_all

/-- A process that is told that its file is gone stays where it is, with its file if it had one. -/
theorem unlink_eq (c : Contender) : c.unlink.isAlive = c.isAlive ∧
    (c.unlink.stage = c.stage ∨ c.unlink.stage = .writing false) ∧ c.unlink.owns = c.owns := by
  unfold unlink
  split
  next linked hstage => exact ⟨rfl, Or.inr rfl, by simp [owns, claimed?, hstage]⟩
  next => exact ⟨rfl, Or.inl rfl, rfl⟩

end Contender

namespace Contention

/-! ### Who comes, and when -/

/-- Can it be a process that such an identifier names? -/
def isProcessId (pid : UInt32) : Bool := 0 < pid && pid < 2147483648

/-- The identifiers of all who came, dead or alive. -/
def pids (t : Contention) : List UInt32 := t.contenders.map (·.pid)

namespace Action

/-- Who comes by a step. -/
def arrived : Action → List UInt32
  | .arrive pid _ => [pid]
  | _ => []

/-- Has whoever comes an identifier as processes have? -/
def isGenuine (a : Action) : Bool := a.arrived.all isProcessId

/-- Does a process die? -/
def isDeath : Action → Bool
  | .die _ => true
  | _ => false

end Action

/-- Does whoever goes on wait until all others have acted on what they have seen? -/
def takesTurn (t : Contention) : Action → Bool
  | .proceed i => !(t.contenders.eraseIdx i).any (·.isMidway)
  | _ => true

variable {d : DataDirectory} {t : Contention} {i j : Nat} {c c' e : Contender}
  {f : Contender → Contender}

/-! ### Who is where after a step -/

/-- Who is a process after a step, by what it was before. -/
inductive After (t : Contention) (d : DataDirectory) (others : Processes) :
    Action → Nat → Contender → Prop where
  /-- It has come. -/
  | came (pid : UInt32) (purpose : Purpose) (j : Nat) :
      After t d others (.arrive pid purpose) j ⟨pid, purpose, true, .reading⟩
  /-- It has gone on. -/
  | went {j : Nat} {c : Contender} (hget : t.contenders[j]? = some c) (halive : c.isAlive = true) :
      After t d others (.proceed j) j
        { c with stage := (c.next d (t.processes others) t.files).1 }
  /-- It was there and has not gone on. -/
  | stayed {a : Action} {j : Nat} {e e' : Contender} (hget : t.contenders[j]? = some e)
      (hidle : a = .proceed j → e.isAlive = false)
      (halive : e'.isAlive = e.isAlive ∨ e'.isAlive = false ∧ a.isDeath = true)
      (hstage : e'.stage = e.stage ∨ e'.stage = .writing false ∨ e'.stage = .releasing)
      (hown : e'.owns = true → e.owns = true) : After t d others a j e'

/-- A process is changed in its place, and all others stay as they are. -/
theorem after_of_change {others : Processes} {a : Action} (hidle : ∀ j, a ≠ .proceed j)
    (hchanged : ∀ c, t.contenders[i]? = some c → c.isAlive = true → After t d others a i (f c))
    (he : (t.change i f).contenders[j]? = some e) : After t d others a j e := by
  have hstays : ∀ {j : Nat} {e : Contender}, t.contenders[j]? = some e → After t d others a j e :=
    fun hget => .stayed hget (fun h => absurd h (hidle _)) (Or.inl rfl) (Or.inl rfl) id
  rcases t.change_cases i f with hsame | ⟨c, hget, halive, hchange⟩
  · rw [hsame] at he
    exact hstays he
  · rw [hchange] at he
    rcases getElem?_set_cases he with ⟨rfl, rfl⟩ | ⟨-, hold⟩
    · exact hchanged c hget halive
    · exact hstays hold

theorem after_of_step {a : Action} (he : (t.step d others a).contenders[j]? = some e) :
    After t d others a j e := by
  cases a with
  | arrive pid purpose =>
    simp only [step, List.getElem?_append] at he
    split at he
    next => exact .stayed he (by simp) (Or.inl rfl) (Or.inl rfl) id
    next =>
      obtain rfl := List.mem_singleton.1 (List.mem_of_getElem? he)
      exact .came pid purpose j
  | proceed i =>
    rw [step] at he
    rcases t.proceed_cases d others i with ⟨hsame, hdead⟩ | ⟨c, hget, halive⟩
    · rw [hsame] at he
      refine .stayed he (fun hidle => ?_) (Or.inl rfl) (Or.inl rfl) id
      cases hidle
      exact hdead e he
    · rw [proceed_of_alive hget halive] at he
      rcases getElem?_set_cases he with ⟨rfl, rfl⟩ | ⟨hne, hold⟩
      · exact .went hget halive
      · have hidle : Action.proceed i ≠ .proceed j := by
          rintro ⟨rfl⟩
          exact hne rfl
        split at hold
        next =>
          rw [List.getElem?_map] at hold
          obtain ⟨e, hthere, rfl⟩ := Option.map_eq_some_iff.1 hold
          obtain ⟨hlife, hstage, hown⟩ := e.unlink_eq
          exact .stayed hthere (fun h => absurd h hidle) (Or.inl hlife)
            (hstage.imp id Or.inl) (fun h => hown ▸ h)
        next => exact .stayed hold (fun h => absurd h hidle) (Or.inl rfl) (Or.inl rfl) id
  | giveUp i =>
    refine after_of_change (by simp) (fun c hget halive => ?_) he
    split
    next hstage =>
      refine .stayed hget (by simp) (Or.inl rfl) (Or.inr (Or.inr rfl)) fun _ => ?_
      simp [Contender.owns, Contender.claimed?, halive, hstage]
    next => exact .stayed hget (by simp) (Or.inl rfl) (Or.inl rfl) id
  | die i =>
    refine after_of_change (by simp) (fun c hget halive => ?_) he
    refine .stayed hget (by simp) (Or.inr ⟨rfl, rfl⟩) (Or.inl rfl) fun hown => ?_
    simp [Contender.owns, Contender.claimed?] at hown

theorem exists_after {others : Processes} {a : Action}
    (hmem : e ∈ (t.step d others a).contenders) : ∃ j, After t d others a j e := by
  obtain ⟨j, hj⟩ := List.mem_iff_getElem?.1 hmem
  exact ⟨j, after_of_step hj⟩

theorem isAlive_of_stayed {a : Action}
    (hlife : e.isAlive = c.isAlive ∨ e.isAlive = false ∧ a.isDeath = true)
    (halive : e.isAlive = true) : c.isAlive = true := by
  rcases hlife with hsame | ⟨hdead, -⟩
  · rw [← hsame, halive]
  · rw [halive] at hdead
    cases hdead

/-- Who has not gone on stands where it stood, unless it was told otherwise. -/
theorem stage_of_stayed {stage : ClaimStage}
    (hstays : e.stage = c.stage ∨ e.stage = .writing false ∨ e.stage = .releasing)
    (hstage : e.stage = stage) (hwrites : stage ≠ .writing false) (hgives : stage ≠ .releasing) :
    c.stage = stage := by
  rcases hstays with hsame | htold | htold
  · rw [← hsame, hstage]
  · exact absurd (hstage.symm.trans htold) hwrites
  · exact absurd (hstage.symm.trans htold) hgives

theorem map_pid_set {cs : List Contender} (hget : cs[i]? = some c) (hpid : c'.pid = c.pid) :
    (cs.set i c').map (·.pid) = cs.map (·.pid) := by
  have hthere : (cs.map (·.pid))[i]? = some c.pid := by simp [hget]
  obtain ⟨hlt, hval⟩ := List.getElem?_eq_some_iff.1 hthere
  rw [List.map_set, hpid, ← hval, List.set_getElem_self]

theorem pids_change (hpid : ∀ c : Contender, (f c).pid = c.pid) (i : Nat) :
    (t.change i f).pids = t.pids := by
  rcases t.change_cases i f with hsame | ⟨c, hget, -, hchange⟩
  · rw [hsame]
  · rw [hchange]
    exact map_pid_set hget (hpid c)

/-- Whoever comes is added to those who came before. -/
theorem pids_step (t : Contention) (d : DataDirectory) (others : Processes) (a : Action) :
    (t.step d others a).pids = t.pids ++ a.arrived := by
  cases a with
  | arrive pid purpose => simp [step, pids, Action.arrived]
  | proceed i =>
    simp only [step, Action.arrived, List.append_nil]
    rcases t.proceed_cases d others i with ⟨hsame, -⟩ | ⟨c, hget, halive⟩
    · rw [hsame]
    · rw [proceed_of_alive hget halive, pids]
      split
      next =>
        have hthere : (t.contenders.map (·.unlink))[i]? = some c.unlink := by simp [hget]
        rw [map_pid_set hthere (by simp)]
        simp [pids]
      next => exact map_pid_set hget rfl
  | giveUp i =>
    simp only [step, Action.arrived, List.append_nil]
    refine pids_change (fun c => ?_) i
    split <;> rfl
  | die i =>
    simp only [step, Action.arrived, List.append_nil]
    refine pids_change (fun c => ?_) i
    rfl

/-- After a step the pid file names whom it has named, or nobody, or the process that has gone
    on. -/
theorem Orderly.namedPid?_step (h : Orderly d t) (others : Processes) (a : Action) :
    d.namedPid? (t.step d others a).files = d.namedPid? t.files ∨
      d.namedPid? (t.step d others a).files = none ∨
      ∃ c ∈ t.contenders, d.namedPid? (t.step d others a).files = some c.pid := by
  cases a with
  | arrive pid purpose => exact Or.inl rfl
  | giveUp i => exact Or.inl rfl
  | die i => exact Or.inl rfl
  | proceed i =>
    rw [Contention.step]
    rcases t.proceed_cases d others i with ⟨hsame, -⟩ | ⟨c, hget, halive⟩
    · exact Or.inl (by rw [hsame])
    have hmem : c ∈ t.contenders := List.mem_of_getElem? hget
    rw [proceed_of_alive hget halive]
    unfold Contender.next
    cases hstage : c.stage with
    | clearingPidFile => exact (d.namedPid?_discard_pidFile t.files).imp id Or.inl
    | clearingOwn => exact (d.namedPid?_discard_pidFile t.files).imp id Or.inl
    | clearingSocket =>
      left
      simp only
      rw [DataDirectory.namedPid?_eq, DataDirectory.node?_discard_socketFile,
        ← DataDirectory.namedPid?_eq]
    | creating =>
      simp only
      split
      next fs hcreate =>
        right; left
        rw [DataDirectory.namedPid?_eq, (FileSystem.createNew_eq_ok hcreate).2]
        exact DataDirectory.pidOf?_nil
      next => exact Or.inl rfl
      next => exact Or.inl rfl
    | writing linked =>
      cases linked with
      | false => exact Or.inl rfl
      | true =>
        obtain ⟨runnable, hfile⟩ := h.file c hmem [] (by simp [Contender.claimed?, halive, hstage])
        refine Or.inr (Or.inr ⟨c, hmem, ?_⟩)
        simp only [if_true]
        rw [DataDirectory.namedPid?_eq, DataDirectory.node?_writePid c.pid hfile]
        exact DataDirectory.pidOf?_digits c.pid
    | reading =>
      left
      simp only
      split <;> rfl
    | judging named => exact Or.inl rfl
    | connecting named => exact Or.inl rfl
    | naming => exact Or.inl rfl
    | holding => exact Or.inl rfl
    | releasing => exact Or.inl rfl
    | released => exact Or.inl rfl
    | seen state => exact Or.inl rfl
    | refused cause => exact Or.inl rfl

theorem genuine_step {a : Action} (hgenuine : ∀ pid ∈ t.pids, isProcessId pid = true)
    (ha : a.isGenuine = true) (d : DataDirectory) (others : Processes) :
    ∀ pid ∈ (t.step d others a).pids, isProcessId pid = true := by
  intro pid hmem
  rw [pids_step] at hmem
  rcases List.mem_append.1 hmem with hold | hnew
  · exact hgenuine pid hold
  · exact List.all_eq_true.1 ha pid hnew

/-- A process that is alive and acts on the directory is found alive. -/
theorem isAlive_processes (hmem : c ∈ t.contenders) (halive : c.isAlive = true)
    (hgenuine : isProcessId c.pid = true) (others : Processes) :
    (t.processes others).isAlive c.pid = true := by
  have hexists : (t.processes others).exists? c.pid = true := by
    simp only [processes, Bool.or_eq_true, List.any_eq_true, Bool.and_eq_true, decide_eq_true_eq]
    exact Or.inl ⟨c, hmem, halive, rfl⟩
  simp only [isProcessId] at hgenuine
  simp only [Processes.isAlive, hgenuine, hexists, Bool.and_self]

theorem robs_eq_false {a : Action}
    (h : ∀ c ∈ t.contenders, c.isAlive = true → c.stage = .clearingPidFile →
      ∀ e ∈ t.contenders, e.owns = false) : t.robs a = false := by
  cases a with
  | proceed i =>
    by_contra hrobs
    simp only [robs, Bool.not_eq_false, Bool.and_eq_true, Option.any_eq_true, decide_eq_true_eq,
      List.any_eq_true] at hrobs
    obtain ⟨⟨c, hget, halive, hstage⟩, e, hmem, hown⟩ := hrobs
    rw [h c (List.mem_of_getElem? hget) halive hstage e hmem] at hown
    cases hown
  | arrive pid purpose => rfl
  | giveUp i => rfl
  | die i => rfl

/-! ### Where nobody dies -/

/-- Whoever is named, or is about to be judged, is alive. -/
structure Calm (d : DataDirectory) (t : Contention) : Prop where
  orderly : Orderly d t
  /-- Everybody has an identifier as processes have. -/
  genuine : ∀ pid ∈ t.pids, isProcessId pid = true
  /-- Everybody is alive. -/
  alive : ∀ c ∈ t.contenders, c.isAlive = true
  /-- The pid file names one of them, if anybody. -/
  named : ∀ pid, d.namedPid? t.files = some pid → pid ∈ t.pids
  /-- So it did when somebody read it. -/
  judged : ∀ c ∈ t.contenders, ∀ pid, c.stage = .judging pid → pid ∈ t.pids
  /-- Nobody has found anybody dead. -/
  fresh : ∀ c ∈ t.contenders, c.stage ≠ .clearingPidFile

theorem calm_start {fs : FileSystem} (hnobody : d.namedPid? fs = none) : Calm d (start fs) where
  orderly := orderly_start d fs
  genuine := by simp [start, pids]
  alive _ hmem := nomatch hmem
  named pid hnamed := by
    rw [start, hnobody] at hnamed
    cases hnamed
  judged _ hmem := nomatch hmem
  fresh _ hmem := nomatch hmem

theorem Calm.isAlive (h : Calm d t) {pid : UInt32} (hmem : pid ∈ t.pids) (others : Processes) :
    (t.processes others).isAlive pid = true := by
  have hgenuine := h.genuine pid hmem
  obtain ⟨c, hc, rfl⟩ := List.mem_map.1 hmem
  exact isAlive_processes hc (h.alive c hc) hgenuine others

theorem Calm.robs_eq_false (h : Calm d t) (a : Action) : t.robs a = false :=
  Contention.robs_eq_false fun c hmem _ hstage => absurd hstage (h.fresh c hmem)

/-- As long as nobody dies nobody is found dead. -/
theorem Calm.step (h : Calm d t) {a : Action} (hgenuine : a.isGenuine = true)
    (hdeath : a.isDeath = false) (others : Processes) : Calm d (t.step d others a) := by
  have hkept : ∀ pid ∈ t.pids, pid ∈ (t.step d others a).pids := by
    intro pid hmem
    rw [pids_step]
    exact List.mem_append_left _ hmem
  refine ⟨h.orderly.step (h.robs_eq_false a) others, genuine_step h.genuine hgenuine d others,
    fun e hmem => ?_, fun pid hnamed => ?_, fun e hmem pid hstage => ?_, fun e hmem hstage => ?_⟩
  · obtain ⟨j, hwhere⟩ := exists_after hmem
    cases hwhere with
    | came pid purpose j => rfl
    | went hget halive => exact halive
    | stayed hget hidle halive hstage hown =>
      rcases halive with hsame | ⟨-, hdies⟩
      · rw [hsame]
        exact h.alive _ (List.mem_of_getElem? hget)
      · rw [hdeath] at hdies
        cases hdies
  · rcases h.orderly.namedPid?_step others a with hsame | hnobody | ⟨c, hc, hown⟩
    · exact hkept pid (h.named pid (hsame ▸ hnamed))
    · rw [hnobody] at hnamed
      cases hnamed
    · rw [hown] at hnamed
      cases hnamed
      exact hkept _ (List.mem_map_of_mem hc)
  · obtain ⟨j, hwhere⟩ := exists_after hmem
    cases hwhere with
    | came pid purpose j => cases hstage
    | went hget halive =>
      exact hkept pid (h.named pid (Contender.next_eq_judging hstage).1)
    | stayed hget hidle halive hstays hown =>
      exact hkept pid (h.judged _ (List.mem_of_getElem? hget) pid
        (stage_of_stayed hstays hstage (by simp) (by simp)))
  · obtain ⟨j, hwhere⟩ := exists_after hmem
    cases hwhere with
    | came pid purpose j => cases hstage
    | went hget halive =>
      obtain ⟨named, hjudging, hdead, -⟩ := Contender.next_eq_clearingPidFile hstage
      rw [h.isAlive (h.judged _ (List.mem_of_getElem? hget) named hjudging) others] at hdead
      cases hdead
    | stayed hget hidle halive hstays hown =>
      exact h.fresh _ (List.mem_of_getElem? hget)
        (stage_of_stayed hstays hstage (by simp) (by simp))

/-! ### Where all take turns -/

/-- What a process has seen is still so when it acts on it. -/
structure Settled (d : DataDirectory) (t : Contention) : Prop where
  orderly : Orderly d t
  /-- Everybody has an identifier as processes have. -/
  genuine : ∀ pid ∈ t.pids, isProcessId pid = true
  /-- The pid file names whoever is about to be judged. -/
  judged : ∀ c ∈ t.contenders, c.isAlive = true → ∀ pid, c.stage = .judging pid →
    d.namedPid? t.files = some pid
  /-- A file that is about to be taken away as stale belongs to nobody. -/
  stale : ∀ c ∈ t.contenders, c.isAlive = true → c.stage = .clearingPidFile →
    ∀ e ∈ t.contenders, e.owns = false

theorem settled_start (d : DataDirectory) (fs : FileSystem) : Settled d (start fs) where
  orderly := orderly_start d fs
  genuine := by simp [start, pids]
  judged _ hmem := nomatch hmem
  stale _ hmem := nomatch hmem

theorem Settled.robs_eq_false (h : Settled d t) (a : Action) : t.robs a = false :=
  Contention.robs_eq_false h.stale

/-- Nobody goes on beside a process that is midway. -/
theorem not_isMidway_of_takesTurn {a : Action} (hturn : t.takesTurn a = true)
    (hget : t.contenders[j]? = some e) (hidle : a = .proceed j → e.isAlive = false) :
    e.isMidway = false ∨ ∀ i, a ≠ .proceed i := by
  cases a with
  | proceed i =>
    left
    by_cases hsame : i = j
    · subst hsame
      rw [Contender.isMidway, hidle rfl, Bool.false_and]
    · simp only [takesTurn, Bool.not_eq_true', List.any_eq_false, Bool.not_eq_true] at hturn
      exact hturn e (List.mem_eraseIdx_iff_getElem?.2 ⟨j, Ne.symm hsame, hget⟩)
  | arrive pid purpose => exact Or.inr (by simp)
  | giveUp i => exact Or.inr (by simp)
  | die i => exact Or.inr (by simp)

/-- Only a process that goes on does something to the files. -/
theorem files_step {a : Action} (hidle : ∀ i, a ≠ .proceed i) (d : DataDirectory)
    (others : Processes) : (t.step d others a).files = t.files := by
  cases a with
  | proceed i => exact absurd rfl (hidle i)
  | arrive pid purpose => rfl
  | giveUp i => rfl
  | die i => rfl

/-- As long as all take turns nobody is judged by what is no longer so. -/
theorem Settled.step (h : Settled d t) {a : Action} (hgenuine : a.isGenuine = true)
    (hturn : t.takesTurn a = true) (others : Processes) : Settled d (t.step d others a) := by
  refine ⟨h.orderly.step (h.robs_eq_false a) others, genuine_step h.genuine hgenuine d others,
    fun e hmem halive pid hstage => ?_, fun e hmem halive hstage e' hmem' => ?_⟩
  · obtain ⟨j, hwhere⟩ := exists_after hmem
    cases hwhere with
    | came pid purpose j => cases hstage
    | went hget hlives =>
      obtain ⟨hnamed, hfiles⟩ := Contender.next_eq_judging hstage
      rw [Contention.step, proceed_of_alive hget hlives]
      simp only
      rw [hfiles, hnamed]
    | stayed hget hidle hlife hstays hown =>
      have hlived := isAlive_of_stayed hlife halive
      have hwas := stage_of_stayed hstays hstage (by simp) (by simp)
      rcases not_isMidway_of_takesTurn hturn hget hidle with hmidway | hothers
      · simp [Contender.isMidway, hlived, hwas] at hmidway
      · rw [files_step hothers]
        exact h.judged _ (List.mem_of_getElem? hget) hlived pid hwas
  · by_contra hown'
    obtain ⟨j, hwhere⟩ := exists_after hmem
    obtain ⟨k, hwhere'⟩ := exists_after hmem'
    cases hwhere with
    | came pid purpose j => cases hstage
    | went hget hlives =>
      -- It has just found a process dead that the pid file named, and still names.
      obtain ⟨named, hjudging, hdead, -⟩ := Contender.next_eq_clearingPidFile hstage
      have hnamed := h.judged _ (List.mem_of_getElem? hget) hlives named hjudging
      cases hwhere' with
      | went hget' hlives' =>
        rw [hget] at hget'
        cases hget'
        exact hown' (Contender.owns_of_clearing hstage)
      | stayed hget' hidle hlife hstays hown =>
        have howned := hown (eq_true_of_ne_false hown')
        have hmember := List.mem_of_getElem? hget'
        have hlived := Contender.isAlive_of_owns howned
        rcases h.orderly.namedPid? hmember howned with hnames | ⟨hwriting, -⟩
        · rw [hnamed] at hnames
          cases hnames
          rw [isAlive_processes hmember hlived (h.genuine _ (List.mem_map_of_mem hmember))] at hdead
          cases hdead
        · rcases not_isMidway_of_takesTurn hturn hget' hidle with hmidway | hothers
          · simp [Contender.isMidway, hlived, hwriting] at hmidway
          · exact hothers _ rfl
    | stayed hget hidle hlife hstays hown =>
      -- It was about to take the file away before, so that nobody has gone on.
      have hlived := isAlive_of_stayed hlife halive
      have hwas := stage_of_stayed hstays hstage (by simp) (by simp)
      rcases not_isMidway_of_takesTurn hturn hget hidle with hmidway | hothers
      · simp [Contender.isMidway, hlived, hwas] at hmidway
      · cases hwhere' with
        | came pid purpose j => exact hown' rfl
        | went hget' hlives' => exact hothers _ rfl
        | stayed hget' hidle' hlife' hstays' howned =>
          have hnobody := h.stale _ (List.mem_of_getElem? hget) hlived hwas _
            (List.mem_of_getElem? hget')
          rw [howned (eq_true_of_ne_false hown')] at hnobody
          cases hnobody

end Contention

end HostDaemon
