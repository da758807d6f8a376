import HostDaemon.Proofs.Traffic.Fates
import HostDaemon.Proofs.Traffic.Restarts

/-! # Servers that never start

  A server whose process ends without having printed a startup line is never registered. Whether the
  daemon takes it for one that did not start depends on the ports that its lines told: only where
  none was told, or the last of them was zero, is it reported as unable to start and never launched
  again.

  - `Traffic.Unstarted` is the invariant, for as long as no line tells of a start.
  - `Traffic.unstarted_of_run` is the result for every run. -/

namespace HostDaemon

namespace ConsoleLine

/-- The ports that a line tells. -/
def portsTold (line : String) : List UInt16 := (recognize line).filterMap ConsoleEvent.port?

/-- The port that several lines told last, zero where they told none. -/
def lastPort (lines : List String) : UInt16 := (lines.flatMap portsTold).getLast?.getD 0

theorem lastPort_concat (lines : List String) (line : String) :
    lastPort (lines ++ [line]) = (portsTold line).getLast?.getD (lastPort lines) := by
  rw [lastPort, List.flatMap_append, List.flatMap_singleton, List.getLast?_append, lastPort]
  cases (portsTold line).getLast? <;> rfl

end ConsoleLine

namespace Fleet

variable {f : Fleet} {ref : ServerRef} {m : Fate}

/-! ### Lines of a server that does not run -/

/-- Of the events that do not tell of a start a server that does not run keeps the last port. -/
theorem fate?_onEvents (env : Surroundings) (events : List ConsoleEvent)
    (hquiet : .initialized ∉ events) (hm : f.fate? ref = some m)
    (hsilent : m.standing.isRunning = false) :
    (events.foldl (fun f event => f.onEvent env ref event) f).fate? ref =
      some (m.tell ((events.filterMap ConsoleEvent.port?).getLast?.getD m.standing.port)) := by
  induction events generalizing f m with
  | nil => exact hm
  | cons event events ih =>
    have hrest : .initialized ∉ events := fun hmem => hquiet (List.mem_cons_of_mem _ hmem)
    -- What tells no port is noted nowhere.
    have hpassed : ∀ {f' : Fleet}, f.Alike f' → event.port? = none →
        (events.foldl (fun f event => f.onEvent env ref event) f').fate? ref = some (m.tell
          (((event :: events).filterMap ConsoleEvent.port?).getLast?.getD m.standing.port)) := by
      intro f' halike hport
      rw [List.filterMap_cons_none hport]
      exact ih hrest ((halike.fate? ref).trans hm) hsilent
    have htold : ∀ port : UInt16,
        (f.update ref fun s => if s.isRunning then s else { s with port := port }).fate? ref =
          some (m.tell port) := by
      intro port
      rw [fate?_tellPort, hm, Option.map_some, hsilent]
      rfl
    have hnext : ∀ port : UInt16, event.port? = some port →
        (events.foldl (fun f event => f.onEvent env ref event)
          (f.update ref fun s => if s.isRunning then s else { s with port := port })).fate? ref =
          some (m.tell
            (((event :: events).filterMap ConsoleEvent.port?).getLast?.getD m.standing.port)) := by
      intro port hport
      rw [ih hrest (htold port) hsilent, List.filterMap_cons_some hport, List.getLast?_cons]
      rfl
    rw [List.foldl_cons]
    cases event with
    | alternatePort port => exact hnext port rfl
    | bindRetry port => exact hnext port rfl
    | boundAddress address => exact hpassed (f.alike_update ref _ fun _ => rfl) rfl
    | initialized => exact absurd List.mem_cons_self hquiet
    | playerSeen name ip checkReputation => exact hpassed (f.alike_onPlayer ref ip checkReputation) rfl
    | credentialChanged credential value =>
      exact hpassed (f.alike_onCredential ref credential value) rfl
    | activity => exact hpassed (f.alike_update ref _ fun s => s.fate_touch env.now) rfl

end Fleet

namespace Traffic

variable {t : Traffic} {ref : ServerRef} {l : Life}

/-! ### Lines that are handled -/

/-- The lines of a server that an action handles. -/
def heard (ref : ServerRef) (t : Traffic) (_ : Surroundings) : Action → List String
  | .line server text => if server = ref ∧ t.isReading ref = true then [text] else []
  | _ => []

/-- Only lines of a server whose supervisor waits for lines are handled. -/
theorem heard_eq_nil (env : Surroundings) (a : Action) (hdeaf : t.isReading ref = false) :
    heard ref t env a = [] := by
  cases a with
  | line server text => simp [heard, hdeaf]
  | _ => rfl

/-- What a step notes on a server that does not run, and of which it handles no startup line. -/
theorem fate?_step_silent (env : Surroundings) (a : Action) (hold : ref < t.fleet.servers.length)
    {m : Fate} (hm : t.fleet.fate? ref = some m) (hsilent : m.standing.isRunning = false)
    (hquiet : ∀ text ∈ heard ref t env a, .initialized ∉ ConsoleLine.recognize text) :
    ∃ m', (t.step env a).fleet.fate? ref = some m' ∧ m'.standing.isRunning = false ∧
      ∀ lines, m.standing.port = ConsoleLine.lastPort lines →
        m'.standing.port = ConsoleLine.lastPort (lines ++ heard ref t env a) := by
  by_cases hline : ∃ text, a = .line ref text
  · obtain ⟨text, rfl⟩ := hline
    cases hreads : t.isReading ref with
    | false =>
      have hstep : t.step env (.line ref text) = t := by
        change t.stepLine env ref text = t
        simp [stepLine, hreads]
      rw [hstep, heard_eq_nil env _ hreads]
      exact ⟨m, hm, hsilent, fun lines hport => by rw [List.append_nil, hport]⟩
    | true =>
      have hheard : heard ref t env (.line ref text) = [text] := by simp [heard, hreads]
      rw [hheard] at hquiet ⊢
      have hquiet := hquiet text List.mem_cons_self
      have hnot : startsNow t.fleet ref (ConsoleLine.recognize text) = false := by
        rw [startsNow, Bool.and_eq_false_iff, decide_eq_false_iff_not]
        left
        intro hevents
        rw [hevents] at hquiet
        exact hquiet List.mem_cons_self
      have hstep : (t.step env (.line ref text)).fleet = t.fleet.onLine env ref text := by
        change (t.stepLine env ref text).fleet = _
        simp [stepLine, hreads, hnot]
      have hlogged := ((t.fleet.alike_logLine env ref text).fate? ref).trans hm
      rw [hstep, Fleet.onLine, Fleet.fate?_onEvents env _ hquiet hlogged hsilent]
      refine ⟨_, rfl, hsilent, ?_⟩
      intro lines hport
      rw [ConsoleLine.lastPort_concat, ← hport]
      rfl
  · have hother : ∀ text, a ≠ .line ref text := fun text heq => hline ⟨text, heq⟩
    have hnone : heard ref t env a = [] := by
      cases a with
      | line server text =>
        have hne : server ≠ ref := fun heq => hother text (heq ▸ rfl)
        simp [heard, hne]
      | _ => rfl
    rw [fate?_step t env a hold hother, hm, hnone]
    exact ⟨_, rfl, by simpa using hsilent, fun lines hport => by simpa using hport⟩

/-! ### As long as no line tells of a start -/

/-- What is known of a server when some of its lines were handled, none of which told of a start. -/
structure Unstarted (ref : ServerRef) (t : Traffic) (lines : List String) : Prop where
  /-- No line is handled before the launch. -/
  early : t.fleet.servers.length ≤ ref → lines = []
  /-- It does not run, and is on the port that was told last. -/
  fate : ∀ m, t.fleet.fate? ref = some m →
    m.standing.isRunning = false ∧ m.standing.port = ConsoleLine.lastPort lines
  /-- Where no port was told it is not launched again after its end. -/
  newest : ConsoleLine.lastPort lines = 0 → ∀ l, t.life? ref = some l → l.watch.phase ≠ .reading →
    t.fleet.IsNewest ref ∧ ∀ port, l.watch.phase ≠ .restarting port

/-- Once the end of its process was noticed no line of a server is handled. -/
theorem isReading_eq_false (hl : t.life? ref = some l) (hended : l.watch.phase ≠ .reading) :
    t.isReading ref = false := by
  simp [isReading, watch_of_life? hl, hended]

/-- No line is handled of a server that there is not. -/
theorem isReading_of_early (hcrew : t.fleet.Crew) (hearly : t.fleet.servers.length ≤ ref) :
    t.isReading ref = false := by
  by_contra hreads
  obtain ⟨l, hl, -⟩ := (isReading_iff hcrew).1 (by simpa using hreads)
  exact Nat.not_lt.2 hearly (lt_of_life? hcrew hl)

/-- Every step keeps what is known of a server of which no startup line was handled. -/
theorem Sound.unstarted_step (h : t.Sound) {env : Surroundings} {a : Action}
    (hgoes : Goes (t.scope env a) t (t.step env a)) {lines : List String}
    (hunstarted : Unstarted ref t lines)
    (hquiet : ∀ text ∈ heard ref t env a, .initialized ∉ ConsoleLine.recognize text) :
    Unstarted ref (t.step env a) (lines ++ heard ref t env a) := by
  refine ⟨?_, ?_, ?_⟩
  · intro hearly
    have hbefore := Nat.le_trans hgoes.length_le hearly
    rw [hunstarted.early hbefore, heard_eq_nil env a (isReading_of_early h.crew hbefore)]
    rfl
  · intro m' hm'
    by_cases hold : ref < t.fleet.servers.length
    · obtain ⟨l, hl⟩ := exists_life h.crew hold
      obtain ⟨m, hm, -⟩ := fate?_of_life? hl
      obtain ⟨hsilent, hport⟩ := hunstarted.fate m hm
      obtain ⟨m'', hm'', hsilent', hport'⟩ := fate?_step_silent env a hold hm hsilent hquiet
      rw [hm', Option.some.injEq] at hm''
      subst hm''
      exact ⟨hsilent', hport' lines hport⟩
    · -- A server that was just launched has told nothing.
      have hearly := Nat.le_of_not_lt hold
      rw [hunstarted.early hearly, heard_eq_nil env a (isReading_of_early h.crew hearly)]
      obtain ⟨s, hs, rfl⟩ := Option.map_eq_some_iff.1 hm'
      obtain ⟨l', hl', hstanding⟩ := life_of_server? hgoes.sound.crew hs
      obtain ⟨-, n, v, rfl, hbegets⟩ := hgoes.born_of_new hl' hearly
      have hborn : n.isRunning = false ∧ n.port = 0 := by
        cases hbegets <;> exact ⟨rfl, rfl⟩
      have hsame : s.fate.standing = n := hstanding
      rw [hsame]
      exact hborn
  · intro hzero l' hl' hended'
    by_cases hold : ref < t.fleet.servers.length
    · obtain ⟨l, hl⟩ := exists_life h.crew hold
      -- While it is read from it is the last, and after that no line is handled.
      have hkept : t.fleet.IsNewest ref ∧ ∀ port, l.watch.phase ≠ .restarting port := by
        by_cases hreading : l.watch.phase = .reading
        · exact ⟨h.isNewest hl (by simp [hreading]), by simp [hreading]⟩
        · rw [heard_eq_nil env a (isReading_eq_false hl hreading), List.append_nil] at hzero
          exact hunstarted.newest hzero l hl hreading
      refine ⟨h.isNewest_step hgoes hl hkept.1 hkept.2, hgoes.undecided_step hl hl' hkept.2 ?_⟩
      intro hremoved s hs
      have hended : l.watch.phase ≠ .reading := by simp [hremoved]
      rw [heard_eq_nil env a (isReading_eq_false hl hended), List.append_nil] at hzero
      have hport : s.port = 0 := by
        have hfate := (hunstarted.fate s.fate (by rw [Fleet.fate?, hs, Option.map_some])).2
        exact hfate.trans hzero
      simp [Fleet.wantsRestart, hport]
    · exact absurd (hgoes.reading_of_new hl' (Nat.le_of_not_lt hold)) hended'

/-! ### Over whole runs -/

/-- What is known after a run in which no startup line of a server was handled. -/
theorem unstarted_after {config : Config} {logDir : Path} {files : FileSystem}
    (hmin : 0 < config.host.minPort) {steps : List (Surroundings × Action)}
    (hdrawn : (drawn steps).Nodup) :
    let start := Traffic.start (.start config logDir files)
    (∀ text ∈ collect (heard ref) start steps, .initialized ∉ ConsoleLine.recognize text) →
      Unstarted ref (start.run steps) (collect (heard ref) start steps) := by
  refine collects_run logDir files hmin (heard ref)
    (P := fun t lines => (∀ text ∈ lines, .initialized ∉ ConsoleLine.recognize text) →
      Unstarted ref t lines) ?_ hdrawn ?_
  · refine fun _ => ⟨fun _ => rfl, ?_, ?_⟩
    · intro m hm
      cases hm
    · intro _ l hl
      obtain ⟨s, v, hs, -⟩ := life?_eq_some_iff.1 hl
      cases hs
  · intro t lines env a hsound hgoes hkept hquiet
    refine hsound.unstarted_step hgoes (hkept fun text hmem => ?_) fun text hmem => ?_
    · exact hquiet text (List.mem_append_left _ hmem)
    · exact hquiet text (List.mem_append_right _ hmem)

/-- A server of which no startup line was handled is not registered. -/
theorem Sound.not_registered (h : t.Sound) {lines : List String}
    (hunstarted : Unstarted ref t lines) : ¬ t.fleet.IsRegistered ref := by
  rintro ⟨port, hentry⟩
  obtain ⟨s, hs, -, -, hrunning⟩ := h.entry hentry
  have hsilent := (hunstarted.fate s.fate (by rw [Fleet.fate?, hs, Option.map_some])).1
  have hsilent' : s.isRunning = false := hsilent
  rw [hrunning] at hsilent'
  cases hsilent'

/-- A server of which no startup line is handled in a run in which no identifier is drawn twice. It
    is not registered at any moment. Where it has told no port, or zero last, it is not launched
    again. When its end is reported, and nobody killed it, it is reported as unable to start where
    that is so, unless it is being recovered; otherwise it is reported as crashed. When its
    supervisor decides, and nobody killed it, a port is claimed for its next launch exactly where it
    has told one, asks for that, was not launched too often, and there is a port. -/
theorem unstarted_of_run (config : Config) (logDir : Path) (files : FileSystem)
    (hmin : 0 < config.host.minPort) (steps : List (Surroundings × Action))
    (hdrawn : (drawn steps).Nodup) (ref : ServerRef)
    (hquiet : ∀ text ∈ collect (heard ref) (.start (.start config logDir files)) steps,
      .initialized ∉ ConsoleLine.recognize text) :
    let start := Traffic.start (.start config logDir files)
    let t := start.run steps
    let told := ConsoleLine.lastPort (collect (heard ref) start steps)
    (∀ before after, steps = before ++ after → ¬ (start.run before).fleet.IsRegistered ref) ∧
    ∀ s v, t.fleet.server? ref = some s → t.fleet.supervisor? ref = some v →
      (told = 0 → t.fleet.IsNewest ref) ∧
      (v.phase = .ended → s.isKilled = false → ∀ env,
        (t.step env (.supervise ref)).fleet.notices = t.fleet.notices ++
          if s.hidesStop then []
          else if told = 0 then if s.isRecovering then [] else Fleet.failureNotices s
          else Fleet.crashNotices s env.now) ∧
      (v.phase = .removed → s.isKilled = false → ∀ env,
        ((∃ v' port, (t.step env (.supervise ref)).fleet.supervisor? ref = some v' ∧
            v'.phase = .restarting port) ↔
          told ≠ 0 ∧ s.spec.autoRestart = true ∧ s.restarts < config.host.maxRestarts ∧
            (t.fleet.reserveForRestart env s.port v.launchPort).isSome = true)) := by
  intro start t told
  have hsound : t.Sound := sound_run logDir files hmin hdrawn
  have hunstarted : Unstarted ref t (collect (heard ref) start steps) :=
    unstarted_after hmin hdrawn hquiet
  refine ⟨?_, ?_⟩
  · intro before after hsplit
    rw [hsplit] at hdrawn
    have hbefore := nodup_drawn_left hdrawn
    refine (sound_run logDir files hmin hbefore).not_registered (unstarted_after hmin hbefore ?_)
    intro text hmem
    apply hquiet
    rw [hsplit, collect_append]
    exact List.mem_append_left _ hmem
  · intro s v hs hv
    have hl := life?_eq_some_iff.2 ⟨s, v, hs, hv, rfl⟩
    have hport : s.port = told :=
      (hunstarted.fate s.fate (by rw [Fleet.fate?, hs, Option.map_some])).2
    refine ⟨?_, ?_, ?_⟩
    · intro hzero
      by_cases hreading : v.phase = .reading
      · exact hsound.isNewest hl (by simp [hreading])
      · exact (hunstarted.newest hzero _ hl hreading).1
    · intro hended halive env
      rw [hsound.notices_report env hs hv hended, Fleet.exitNotices_eq, hport, halive]
      by_cases hzero : told = 0
      · simp [hzero]
      · simp [hzero]
    · intro hremoved halive env
      have hconfig : t.fleet.config = config := (launches_run hmin hdrawn).2.2
      have hauto : s.autoRestart = s.spec.autoRestart := (hsound.ok ref _ hl).autoRestart_eq halive
      rw [hsound.restarting_iff env hs hv hremoved, Fleet.wantsRestart, hauto, halive, hport, hconfig]
      simp only [Bool.not_false, Bool.and_true, Bool.and_eq_true, decide_eq_true_eq]
      tauto

/-- On the small machine a server that ends without having told anything is not launched again,
    though it asks for that. -/
theorem unstarted_of_small_run :
    let steps := smallSteps (smallHosting ++ .processEnds 0 :: List.replicate 5 (.supervise 0))
    let t := (smallStart 1).run steps
    t.fleet.IsNewest 0 ∧ (t.fleet.server? 0).map (·.spec.autoRestart) = some true := by
  intro steps t
  obtain ⟨hquiet, htold, hauto⟩ :
      (∀ text ∈ collect (heard 0) (smallStart 1) steps,
        .initialized ∉ ConsoleLine.recognize text) ∧
      ConsoleLine.lastPort (collect (heard 0) (smallStart 1) steps) = 0 ∧
      (t.fleet.server? 0).map (·.spec.autoRestart) = some true := by decide +kernel
  have hrun := unstarted_of_run (smallConfig 1) "/l" smallFiles (by decide) steps
    (by decide +kernel) 0 hquiet
  obtain ⟨s, hs, -⟩ := Option.map_eq_some_iff.1 hauto
  have hsound : t.Sound := sound_run "/l" smallFiles (by decide) (by decide +kernel)
  obtain ⟨l, hl, -⟩ := life_of_server? hsound.crew hs
  exact ⟨(hrun.2 s l.watch hs (watch_of_life? hl)).1 htold, hauto⟩

/-- A server that tells a port and ends before its startup line is reported as crashed, not as unable
    to start, and is launched again. Nobody killed it, and it is not being recovered. -/
theorem relaunches_unstarted_server :
    let steps := smallSteps (smallHosting ++ .line 0 "using alternate port 10667." ::
      .processEnds 0 :: List.replicate 5 (.supervise 0))
    let t := (smallStart 1).run steps
    (∀ text ∈ collect (heard 0) (smallStart 1) steps,
      .initialized ∉ ConsoleLine.recognize text) ∧
    collect (flags 0) (smallStart 1) steps = [] ∧
    ∃ s, t.fleet.server? 0 = some s ∧ s.isKilled = false ∧ s.hidesStop = false ∧
      s.isRecovering = false ∧ (∀ notice ∈ Fleet.crashNotices s 0, notice ∈ t.fleet.notices) ∧
      (∀ notice ∈ Fleet.failureNotices s, notice ∉ t.fleet.notices) ∧ ¬ t.fleet.IsNewest 0 := by
  intro steps t
  have hserver : (t.fleet.server? 0).any (fun s => decide (s.isKilled = false ∧
      s.hidesStop = false ∧ s.isRecovering = false ∧
      (∀ notice ∈ Fleet.crashNotices s 0, notice ∈ t.fleet.notices) ∧
      ∀ notice ∈ Fleet.failureNotices s, notice ∉ t.fleet.notices)) = true := by decide +kernel
  obtain ⟨s, hs, hends⟩ := (Option.any_eq_true _ _).1 hserver
  obtain ⟨halive, hshown, hnew, hcrashed, hfailed⟩ := of_decide_eq_true hends
  -- The second server has the identifier of the first.
  have hagain : ¬ t.fleet.IsNewest 0 := fun hnewest => hnewest 1 (by decide) (by decide +kernel)
  exact ⟨by decide +kernel, by decide +kernel, s, hs, halive, hshown, hnew, hcrashed, hfailed,
    hagain⟩

end Traffic

end HostDaemon
