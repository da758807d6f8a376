import HostDaemon.Proofs.Fleet.Neighbours
import HostDaemon.Proofs.Traffic.Runs

/-! # What a step changes about servers

  - `Traffic.Action.mayEdit` says on which topics an action may change which servers, and
    `Traffic.edits_step` that it changes nothing else.
  - `Traffic.server_run` says that what all these changes keep is kept in whole runs. That a server
    is being recovered is known until its start is announced (`Traffic.Sound.recovering_run`). -/

namespace HostDaemon

/-- A server that runs does so from then on. -/
theorem Life.Next.isRunning {most : UInt32} {l l' : Life} (h : Next most l l')
    (hl : l.standing.isRunning = true) : l'.standing.isRunning = true := by
  cases h <;> first | exact hl | rfl

/-- A server that runs and is not in the middle of its start does not start again. -/
theorem Life.Next.settled {most : UInt32} {l l' : Life} (h : Next most l l')
    (hl : l.standing.isRunning = true ∧ l.isStarting = false) :
    l'.standing.isRunning = true ∧ l'.isStarting = false := by
  obtain ⟨hrunning, hidle⟩ := hl
  cases h with
  | tellPort _ _ hsilent | start _ hsilent | reject _ hsilent =>
    rw [hrunning] at hsilent
    cases hsilent
  | finishStart => exact ⟨hrunning, rfl⟩
  | _ => exact ⟨hrunning, hidle⟩

namespace Fleet

variable {f : Fleet} {ref : ServerRef} {s : Server}

/-! ### Launches and ends -/

/-- A launch records no start. -/
theorem store_launch (f : Fleet) (env : Surroundings) (spec : LaunchSpec) (restarts : UInt32)
    (isRecovering : Bool) (port : UInt16) :
    (f.launch env spec restarts isRecovering port).2.store = f.store := by
  rcases f.launch_cases env spec restarts isRecovering port with
    ⟨e, files, hlaunch⟩ | ⟨files, logFile, log, hlaunch⟩
  · rw [hlaunch]
  · obtain ⟨s, -, hadopt⟩ := adopt_eq { f with files := files } env spec restarts isRecovering port
      logFile log
    rw [hlaunch, hadopt]

theorem store_relaunch (f : Fleet) (env : Surroundings) (s : Server) (port : UInt16) :
    (f.relaunch env s port).store = f.store := by
  obtain ⟨g, notices, hlaunch, hrelaunch⟩ := f.exists_relaunch_eq env s port
  have hg : g.store = f.store := by rw [← hlaunch, store_launch]
  rw [hrelaunch]
  exact hg

/-- What a supervisor does next tells at most that the process of its server has ended, unless it
    launches its server again. -/
theorem advance_cases (f : Fleet) (env : Surroundings) (server : ServerRef) :
    Edits (fun topic ref => ref = server ∧ topic = .exit ∧ f.hasProcess server = false) f
        (f.advance env server) ∨
      ∃ s port, f.advance env server = (f.relaunch env s port).setPhase server .done := by
  unfold advance
  split
  next v s hv _ =>
    cases v.phase with
    | reading =>
      left
      simp only
      split
      next => exact .refl f
      next hdead =>
        have hended : f.hasProcess server = false := by simpa [hasProcess, hv] using hdead
        exact (edits_closeRun ⟨rfl, rfl, hended⟩ f env v).trans (edits_setPhase _ _ _)
    | ended => exact Or.inl (.of_eq rfl rfl)
    | reported => exact Or.inl ((f.edits_unregister server).trans (edits_setPhase _ _ _))
    | removed => exact Or.inl ((f.edits_planRestart env v s).trans (edits_setPhase _ _ _))
    | restarting port => exact Or.inr ⟨s, port, rfl⟩
    | done => exact Or.inl (.refl f)
  next => exact Or.inl (.refl f)

/-- Whoever a supervisor launches comes after all others. -/
theorem edits_advance (f : Fleet) (hs : f.server? ref = some s) (env : Surroundings)
    (server : ServerRef) :
    ∃ s', (f.advance env server).server? ref = some s' ∧ Server.Edits
      (fun topic => ref = server ∧ topic = .exit ∧ f.hasProcess server = false) s s' := by
  rcases f.advance_cases env server with hedits | ⟨p, port, hrelaunch⟩
  · exact hedits.server ref s hs
  · have hold : ref < f.servers.length := List.getElem?_eq_some_iff.1 hs |>.1
    have hphase : ∀ g : Fleet, (g.setPhase server .done).server? ref = g.server? ref := fun _ => rfl
    rw [hrelaunch, hphase, (spares_relaunch hold env p port).server]
    exact ⟨s, hs, .refl⟩

/-- Whatever a supervisor does next, no start is recorded. -/
theorem store_advance (f : Fleet) (env : Surroundings) (server : ServerRef) :
    (f.advance env server).store = f.store := by
  rcases f.advance_cases env server with hedits | ⟨p, port, hrelaunch⟩
  · exact hedits.store fun ref hmay => by cases hmay.2.1
  · have hphase : ∀ g : Fleet, (g.setPhase server .done).store = g.store := fun _ => rfl
    rw [hrelaunch, hphase, store_relaunch]

end Fleet

namespace Traffic

variable {t : Traffic} {ref : ServerRef} {l : Life} {s : Server}

/-- On which topics an action may change which servers. Those that it launches were not there. -/
def Action.mayEdit : Action → Server.Topic → ServerRef → Prop
  | .request _, topic, _ => topic.isOrdered = true
  | .line server _, topic, ref =>
    ref = server ∧ (topic.isTold = true ∨ topic = .start ∨ topic = .kill)
  | .finishStart server, topic, ref => ref = server ∧ topic = .announcement
  | .supervise server, topic, ref => ref = server ∧ topic = .exit
  | .finishLookup _, topic, _ => topic = .console
  | .kill _, topic, _ | .sweep, topic, _ | .shutdown, topic, _ => topic = .kill
  | .hosting _, _, _ | .processEnds _, _, _ | .beginLookup _, _, _ | .beginKill _ _, _, _ => False

/-- Nobody announces the start of a server but its supervisor. -/
theorem Action.not_mayEdit_announcement {a : Action} (ha : a ≠ .finishStart ref) :
    ¬ a.mayEdit .announcement ref := by
  cases a with
  | finishStart server => exact fun hmay => ha (hmay.1 ▸ rfl)
  | line => rintro ⟨-, htold | hstart | hkill⟩ <;> contradiction
  | supervise => rintro ⟨-, hexit⟩; cases hexit
  | request | finishLookup | kill | sweep | shutdown => exact fun hmay => by cases hmay
  | hosting | processEnds | beginLookup | beginKill => exact fun hmay => hmay

/-! ### Single steps -/

/-- The first startup line changes the port of its server and that it runs, or kills it. -/
theorem edits_register {may : Server.Topic → ServerRef → Prop} (hport : may .port ref)
    (hstart : may .start ref) (hkill : may .kill ref) (t : Traffic) (f : Fleet) :
    f.Edits may (t.register f ref).fleet := by
  have hbegun : f.Edits may (f.beginStart ref) := Fleet.edits_beginStart hport hstart f
  unfold register
  split
  next hregister => exact hbegun.trans (Fleet.edits_register hregister)
  next e _ => exact hbegun.trans (Fleet.edits_rejectStart hkill _ e)

/-- An action that neither goes on with a hosting request nor with a supervisor launches nobody. -/
theorem edits_of_still (t : Traffic) (env : Surroundings) (a : Action) (hhosting : ∀ i, a ≠ .hosting i)
    (hsupervise : ∀ server, a ≠ .supervise server) :
    t.fleet.Edits a.mayEdit (t.step env a).fleet := by
  cases a with
  | request r =>
    by_cases hhost : ∃ owner options port recovering, r = .host owner options port recovering
    · obtain ⟨owner, options, port, recovering, rfl⟩ := hhost
      exact .refl t.fleet
    · have hedits : t.fleet.Edits (Action.mayEdit (.request r)) (t.fleet.dispatch env r).2 :=
        Fleet.edits_dispatch (fun _ => rfl) (fun _ => rfl) t.fleet env r (fun _ _ => rfl)
          fun owner options port recovering heq => hhost ⟨owner, options, port, recovering, heq⟩
      cases r with
      | host owner options port recovering => exact absurd ⟨_, _, _, _, rfl⟩ hhost
      | _ => exact hedits
  | hosting i => exact absurd rfl (hhosting i)
  | line server text =>
    change t.fleet.Edits _ (t.stepLine env server text).fleet
    have htold : ∀ topic : Server.Topic, topic.isTold = true →
        Action.mayEdit (.line server text) topic server := fun _ htold => ⟨rfl, Or.inl htold⟩
    unfold stepLine
    split
    next => exact .refl t.fleet
    next =>
      split
      next =>
        exact (t.fleet.edits_logLine env server text).trans
          (edits_register (htold .port rfl) ⟨rfl, Or.inr (Or.inl rfl)⟩ ⟨rfl, Or.inr (Or.inr rfl)⟩ t _)
      next hnot => exact Fleet.edits_onLine htold t.fleet env (by simpa using hnot)
  | finishStart server =>
    change t.fleet.Edits _ (t.stepStart server).fleet
    unfold stepStart
    split
    · exact Fleet.edits_finishStart ⟨rfl, rfl⟩ t.fleet
    · exact .refl t.fleet
  | processEnds server => exact .of_eq rfl rfl
  | supervise server => exact absurd rfl (hsupervise server)
  | beginLookup i => exact t.fleet.edits_beginLookup i
  | finishLookup i => exact Fleet.edits_finishLookup (fun _ => rfl) t.fleet env i
  | beginKill server byOwner =>
    change t.fleet.Edits _ (t.beginKill server byOwner).fleet
    unfold beginKill
    split <;> exact .refl t.fleet
  | kill i =>
    change t.fleet.Edits _ (t.stepKill i).fleet
    unfold stepKill
    split
    next => exact .refl t.fleet
    next k _ =>
      simp only [nextKillStage]
      cases k.stage with
      | begun =>
        cases k.byOwner with
        | none => exact .refl t.fleet
        | some byOwner =>
          exact t.fleet.edits_update k.server _ fun s _ => .single rfl (.mark s byOwner)
      | marked => exact t.fleet.edits_unregister k.server
      | unregistered removed => exact Fleet.edits_killProcess rfl t.fleet
      | finished removed => exact .refl t.fleet
  | sweep => exact Fleet.edits_sweepAfter (fun _ => rfl) t.fleet _ env.now
  | shutdown =>
    change t.fleet.Edits _ t.stepShutdown.fleet
    unfold stepShutdown
    split
    next => exact .refl t.fleet
    next => exact .refl t.fleet
    next => exact .refl t.fleet
    next ref refs _ => exact Fleet.edits_call (k := ⟨ref, false, true⟩) rfl t.fleet
    next => exact .refl t.fleet

/-- A step changes a server on the topics of its action at most. -/
theorem edits_step (hs : t.fleet.server? ref = some s) (env : Surroundings) (a : Action) :
    ∃ s', (t.step env a).fleet.server? ref = some s' ∧ Server.Edits (a.mayEdit · ref) s s' := by
  by_cases hhosting : ∃ i, a = .hosting i
  · obtain ⟨i, rfl⟩ := hhosting
    have hold : ref < t.fleet.servers.length := List.getElem?_eq_some_iff.1 hs |>.1
    exact ⟨s, (t.spares_stepHosting env i hold).server.trans hs, .refl⟩
  by_cases hsupervise : ∃ server, a = .supervise server
  · obtain ⟨server, rfl⟩ := hsupervise
    change ∃ s', (t.stepSupervisor env server).fleet.server? ref = some s' ∧ _
    unfold stepSupervisor
    split
    · exact ⟨s, hs, .refl⟩
    · obtain ⟨s', hs', hedits⟩ := t.fleet.edits_advance hs env server
      exact ⟨s', hs', hedits.mono fun _ hmay => ⟨hmay.1, hmay.2.1⟩⟩
  · exact (t.edits_of_still env a (fun i heq => hhosting ⟨i, heq⟩)
      fun server heq => hsupervise ⟨server, heq⟩).server ref s hs

/-- Nobody's start is finished that has not begun. -/
theorem step_finishStart_idle (hidle : ref ∉ t.starting) (env : Surroundings) :
    t.step env (.finishStart ref) = t := by
  change t.stepStart ref = t
  rw [stepStart, if_neg (by simpa using hidle)]

/-- A start is recorded by the supervisor that finishes it, and by nobody else. -/
theorem store_step (t : Traffic) (env : Surroundings) (a : Action)
    (ha : ∀ ref ∈ t.starting, a ≠ .finishStart ref) :
    (t.step env a).fleet.store = t.fleet.store := by
  by_cases hhosting : ∃ i, a = .hosting i
  · obtain ⟨i, rfl⟩ := hhosting
    change (t.stepHosting env i).fleet.store = _
    rcases t.fleet_stepHosting env i with
      ⟨pending, ports, hstill⟩ | ⟨spec, isRecovering, port, hlaunch⟩
    · rw [hstill]
    · rw [hlaunch, Fleet.store_launch]
  by_cases hsupervise : ∃ server, a = .supervise server
  · obtain ⟨server, rfl⟩ := hsupervise
    change (t.stepSupervisor env server).fleet.store = _
    unfold stepSupervisor
    split
    · rfl
    · exact t.fleet.store_advance env server
  by_cases hfinish : ∃ server, a = .finishStart server
  · obtain ⟨server, rfl⟩ := hfinish
    rw [step_finishStart_idle fun hstarting => ha server hstarting rfl]
  · exact (t.edits_of_still env a (fun i heq => hhosting ⟨i, heq⟩)
      fun server heq => hsupervise ⟨server, heq⟩).store fun ref =>
        Action.not_mayEdit_announcement fun heq => hfinish ⟨ref, heq⟩

/-! ### The middle of a start -/

/-- Who is in the middle of its start runs. -/
theorem Sound.running_of_starting (h : t.Sound) (hstarting : ref ∈ t.starting) :
    ∃ l, t.life? ref = some l ∧ l.standing.isRunning = true := by
  obtain ⟨l, hl⟩ := exists_life h.crew (h.starting_lt ref hstarting)
  exact ⟨l, hl, ((h.ok ref l hl).of_starting
    ((isStarting_of_life? hl).trans (List.contains_iff_mem.2 hstarting))).2⟩

/-- Who is in the middle of its start stays so until its supervisor finishes it. -/
theorem starting_step (hstarting : ref ∈ t.starting) (env : Surroundings) {a : Action}
    (ha : a ≠ .finishStart ref) : ref ∈ (t.step env a).starting := by
  have hsame : ∀ {t' : Traffic}, t'.starting = t.starting → ref ∈ t'.starting :=
    fun heq => heq ▸ hstarting
  cases a with
  | request r => exact hsame (by cases r <;> rfl)
  | hosting i =>
    refine hsame ?_
    change (t.stepHosting env i).starting = _
    unfold stepHosting
    repeat' split
    all_goals rfl
  | line server text =>
    change ref ∈ (t.stepLine env server text).starting
    unfold stepLine register
    repeat' split
    · exact hstarting
    · exact List.mem_cons_of_mem _ hstarting
    · exact hstarting
    · exact hstarting
  | finishStart server =>
    have hne : ref ≠ server := fun heq => ha (heq ▸ rfl)
    change ref ∈ (t.stepStart server).starting
    unfold stepStart
    split
    · exact List.mem_filter.2 ⟨hstarting, decide_eq_true hne⟩
    · exact hstarting
  | supervise server =>
    refine hsame ?_
    change (t.stepSupervisor env server).starting = _
    unfold stepSupervisor
    split <;> rfl
  | beginKill server byOwner =>
    refine hsame ?_
    change (t.beginKill server byOwner).starting = _
    unfold beginKill
    split <;> rfl
  | kill i =>
    refine hsame ?_
    change (t.stepKill i).starting = _
    unfold stepKill
    split <;> rfl
  | shutdown =>
    refine hsame ?_
    change t.stepShutdown.starting = _
    unfold stepShutdown
    split <;> rfl
  | processEnds | beginLookup | finishLookup | sweep => exact hstarting

/-- A server whose start is finished is no longer in the middle of it. -/
theorem not_starting_finishStart (env : Surroundings) :
    ref ∉ (t.step env (.finishStart ref)).starting := by
  change ref ∉ (t.stepStart ref).starting
  unfold stepStart
  split
  · simp
  next hidle => simpa using hidle

/-- Does a server run, and is it not in the middle of its start? -/
def IsSettled (t : Traffic) (ref : ServerRef) : Prop :=
  (∃ s, t.fleet.server? ref = some s ∧ s.isRunning = true) ∧ ref ∉ t.starting

theorem isSettled_iff (hl : t.life? ref = some l) :
    t.IsSettled ref ↔ l.standing.isRunning = true ∧ l.isStarting = false := by
  obtain ⟨s, hs, hstanding⟩ := standing_of_life? hl
  rw [IsSettled, hs, isStarting_of_life? hl, ← hstanding]
  simp [Server.standing]

/-- A server that was started stays so. -/
theorem IsSettled.step {scope : Scope} {t' : Traffic} (h : t.IsSettled ref)
    (hcrew : t.fleet.Crew) (hgoes : Goes scope t t') : t'.IsSettled ref := by
  obtain ⟨s, hs, -⟩ := h.1
  obtain ⟨l, hl, -⟩ := life_of_server? hcrew hs
  have hsettled := (isSettled_iff hl).1 h
  obtain ⟨l', hl', hpath, -⟩ := hgoes.lives ref l hl
  exact (isSettled_iff hl').2
    (hpath.keeps (P := fun m => m.standing.isRunning = true ∧ m.isStarting = false)
      (fun _ _ hnext => hnext.settled) hsettled)

/-- A server whose start is finished runs, and is not in the middle of its start any more. -/
theorem Sound.isSettled_finishStart (h : t.Sound) (hstarting : ref ∈ t.starting)
    (env : Surroundings) : (t.step env (.finishStart ref)).IsSettled ref := by
  obtain ⟨l, hl, hrunning⟩ := h.running_of_starting hstarting
  obtain ⟨l', hl', hpath, -⟩ := (h.goes_step env (.finishStart ref) Bool.noConfusion).lives ref l hl
  refine (isSettled_iff hl').2 ⟨?_, ?_⟩
  · exact hpath.keeps (P := fun m => m.standing.isRunning = true) (fun _ _ hnext => hnext.isRunning)
      hrunning
  · rw [isStarting_of_life? hl', ← Bool.not_eq_true, List.contains_iff_mem]
    exact not_starting_finishStart env

/-! ### Over whole runs -/

/-- What every change of a server keeps is kept in every run. -/
theorem server_run {P : Server → Prop} (hs : t.fleet.server? ref = some s) (hP : P s)
    (hedit : ∀ topic s s', Server.Edit topic s s' → P s → P s')
    (steps : List (Surroundings × Action)) :
    ∃ s', (t.run steps).fleet.server? ref = some s' ∧ P s' := by
  induction steps generalizing t s with
  | nil => exact ⟨s, hs, hP⟩
  | cons first steps ih =>
    obtain ⟨env, a⟩ := first
    obtain ⟨s', hs', hedits⟩ := edits_step hs env a
    exact ih hs' (hedits.keeps hP fun topic _ => hedit topic)

/-- That a server is being recovered is known from its launch until its start is announced. -/
theorem Sound.recovering_run (h : t.Sound) (hs : t.fleet.server? ref = some s)
    {steps : List (Surroundings × Action)} (hfresh : t.Fresh steps) {s' : Server}
    (hs' : (t.run steps).fleet.server? ref = some s') (hopen : ¬ (t.run steps).IsSettled ref) :
    s'.isRecovering = s.isRecovering := by
  have hkept := (h.run_keeps (P := fun t => t.IsSettled ref ∨ ∃ s', t.fleet.server? ref = some s' ∧
    s'.isRecovering = s.isRecovering) (Or.inr ⟨s, hs, rfl⟩) hfresh ?_).2
  · obtain ⟨s'', hs'', hsame⟩ := hkept.resolve_left hopen
    rw [hs', Option.some.injEq] at hs''
    exact hs'' ▸ hsame
  · rintro t env a - hsound hgoes (hsettled | ⟨s', hs', hsame⟩)
    · exact Or.inl (hsettled.step hsound.crew hgoes)
    · by_cases hacts : a = .finishStart ref ∧ ref ∈ t.starting
      · obtain ⟨rfl, hstarting⟩ := hacts
        exact Or.inl (hsound.isSettled_finishStart hstarting env)
      · right
        obtain ⟨s'', hs'', hedits⟩ := edits_step hs' env a
        by_cases ha : a = .finishStart ref
        · subst ha
          rw [step_finishStart_idle fun hstarting => hacts ⟨rfl, hstarting⟩]
          exact ⟨s', hs', hsame⟩
        · have hnot := Action.not_mayEdit_announcement ha
          exact ⟨s'', hs'', (hedits.isRecovering hnot).trans hsame⟩

end Traffic

end HostDaemon
