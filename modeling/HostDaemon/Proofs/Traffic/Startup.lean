import HostDaemon.Proofs.Console.PortLines
import HostDaemon.Proofs.Fleet.Announcements
import HostDaemon.Proofs.Traffic.Edits
import HostDaemon.Proofs.Traffic.Kills
import HostDaemon.Proofs.Traffic.Unstarted

/-! # The first startup line

  A server tells ports and then that its startup is done, the latter perhaps more than once. Only the
  first startup line starts it.

  - `Traffic.Sound.startup_cases` says what that line does.
  - `Traffic.enrolments` and `Traffic.announced` list under which ports a server is registered, and
    which starts are announced. `Traffic.Sound.announces` says that nothing else is.
  - `Traffic.startup_of_run` is the result for every run. -/

namespace HostDaemon

namespace ConsoleLine

/-- Ports are told by the lines on which the engine takes another one, and by no other. -/
theorem portsTold_eq (text : String) :
    portsTold text = [alternatePort? (dropStamp text.toList),
      bindRetry? (dropStamp text.toList)].filterMap (·.bind ConsoleEvent.port?) := by
  generalize hline : dropStamp text.toList = line
  have hnone : ∀ {found : Option ConsoleEvent},
      (∀ event, found = some event → event.port? = none) → found.bind ConsoleEvent.port? = none :=
    fun hevents => Option.bind_eq_none_iff.2 hevents
  have hbound : (boundAddress? line).bind ConsoleEvent.port? = none := hnone fun event h => by
    simp only [boundAddress?, bind, pure, Option.bind_eq_some_iff,
      Option.ite_none_left_eq_some] at h
    obtain ⟨_, -, -, h⟩ := h
    cases h
    rfl
  have hstart : (initialized? line).bind ConsoleEvent.port? = none := hnone fun event h => by
    unfold initialized? at h
    dsimp only at h
    rw [Option.ite_none_right_eq_some] at h
    cases h.2
    rfl
  have hconnected : (playerConnected? line).bind ConsoleEvent.port? = none := hnone fun event h => by
    simp only [playerConnected?, bind, pure, Option.bind_eq_some_iff,
      Option.ite_none_left_eq_some] at h
    obtain ⟨_, -, -, h⟩ := h
    cases h
    rfl
  have hlisted : (playerListed? line).bind ConsoleEvent.port? = none := hnone fun event h => by
    simp only [playerListed?, bind, pure, Option.bind_eq_some_iff] at h
    obtain ⟨_, -, _, -, _, -, h⟩ := h
    cases h
    rfl
  have hsetting : (credentialChanged? line).bind ConsoleEvent.port? = none := hnone fun event h => by
    simp only [credentialChanged?, bind, pure, Option.bind_eq_some_iff] at h
    obtain ⟨_, -, _, -, _, -, h⟩ := h
    cases h
    rfl
  have hactive : (activity? line).bind ConsoleEvent.port? = none := hnone fun event h => by
    rw [activity?, Option.ite_none_right_eq_some] at h
    cases h.2
    rfl
  rw [portsTold, recognize, hline, List.filterMap_filterMap]
  simp only [matchers, List.filterMap_cons, hbound, hstart, hconnected, hlisted, hsetting, hactive,
    List.filterMap_nil]

/-- What a line tells on which the engine took another port, or tries another one: the number on it,
    where that is the number of a port. -/
theorem portsTold_number {text : String} {n : Nat}
    (h : dropStamp text.toList = alternateLine n ∨
      ∃ wanted, dropStamp text.toList = retryLine wanted n) :
    portsTold text = if n ≤ 65535 then [UInt16.ofNat n] else [] := by
  rw [portsTold_eq]
  rcases h with hline | ⟨wanted, hline⟩
  · have hretry : bindRetry? (alternateLine n) = none := rfl
    rw [hline, alternatePort?_number, hretry]
    split <;> rfl
  · have halternate : alternatePort? (retryLine wanted n) = none := rfl
    rw [hline, bindRetry?_number, halternate]
    split <;> rfl

end ConsoleLine

/-- The first startup line fixes the port of a server, and it is not registered again. -/
theorem Life.Next.fixed {most : UInt32} {l l' : Life} {port : UInt16} {keys : List UInt16}
    (h : Next most l l')
    (hl : l.standing.isRunning = true ∧ l.standing.port = port ∧ l.keys ⊆ keys) :
    l'.standing.isRunning = true ∧ l'.standing.port = port ∧ l'.keys ⊆ keys := by
  obtain ⟨hrunning, hport, hkeys⟩ := hl
  cases h with
  | tellPort _ _ hsilent | start _ hsilent | reject _ hsilent =>
    rw [hrunning] at hsilent
    cases hsilent
  | evict | remove => exact ⟨hrunning, hport, List.nil_subset _⟩
  | _ => exact ⟨hrunning, hport, hkeys⟩

namespace Fleet

variable {f : Fleet} {ref : ServerRef}

/-- The port of a server that starts now: the one that it told last, or else the one that it was
    launched on. -/
def startPort? (f : Fleet) (ref : ServerRef) : Option UInt16 :=
  match f.server? ref, f.supervisor? ref with
  | some s, some v => some (if s.port = 0 then v.launchPort else s.port)
  | _, _ => none

theorem startPort?_eq_some_iff {port : UInt16} :
    f.startPort? ref = some port ↔ ∃ s v, f.server? ref = some s ∧ f.supervisor? ref = some v ∧
      port = if s.port = 0 then v.launchPort else s.port := by
  unfold startPort?
  cases f.server? ref with
  | none => simp
  | some s =>
    cases f.supervisor? ref with
    | none => simp
    | some v => simp [eq_comm]

/-- Only files are touched by the log. -/
theorem exists_files_of_logLine (f : Fleet) (env : Surroundings) (ref : ServerRef) (line : String) :
    ∃ files, f.logLine env ref line = { f with files := files } := by
  unfold logLine
  split
  · exact ⟨f.files, rfl⟩
  · exact ⟨_, rfl⟩

/-- A server that starts is on this port, where the claim on its launch port is held. -/
theorem server?_beginStart {s : Server} {v : Supervisor} (hs : f.server? ref = some s)
    (hv : f.supervisor? ref = some v) (hclaim : v.holdsClaim = true) :
    (f.beginStart ref).server? ref = some { s with
      port := if s.port = 0 then v.launchPort else s.port
      isRunning := true } := by
  rw [beginStart, settlePort, hv]
  simp only [hclaim, if_true, server?_update, hs, Option.map_some]
  split <;> rfl

end Fleet

namespace Traffic

variable {t : Traffic} {ref : ServerRef} {l : Life}

/-- The first startup line of a server registers it, or turns it away where its port is taken. -/
theorem Sound.startup_cases (h : t.Sound) (env : Surroundings) {text : String} {port : UInt16}
    (hreads : t.isReading ref = true) (hport : t.fleet.startPort? ref = some port)
    (hstarts : startsNow t.fleet ref (ConsoleLine.recognize text) = true) :
    let begun := (t.fleet.logLine env ref text).beginStart ref
    (∃ s, t.fleet.server? ref = some s ∧
      begun.server? ref = some { s with port := port, isRunning := true }) ∧
    (port ∉ t.fleet.registry.ports ∧ t.step env (.line ref text) = { t with
        fleet := { begun with registry := ⟨t.fleet.registry.entries ++ [(port, ref)]⟩ }
        starting := ref :: t.starting } ∨
      port ∈ t.fleet.registry.ports ∧
        t.step env (.line ref text) = { t with fleet := begun.rejectStart ref ⟨port⟩ }) := by
  intro begun
  obtain ⟨s, v, hs, hv, heq⟩ := Fleet.startPort?_eq_some_iff.1 hport
  obtain ⟨l, hl, hphase, -⟩ := (isReading_iff h.crew).1 hreads
  have hclaim : v.holdsClaim = true := by
    have hheld := (h.ok ref l hl).claim_of_silent hphase (silent_of_startsNow hl hstarts)
    rw [watch_of_life? hl, Option.some.injEq] at hv
    exact hv ▸ hheld
  obtain ⟨files, hlogged⟩ := t.fleet.exists_files_of_logLine env ref text
  have hs' : (t.fleet.logLine env ref text).server? ref = some s := by rw [hlogged]; exact hs
  have hv' : (t.fleet.logLine env ref text).supervisor? ref = some v := by rw [hlogged]; exact hv
  have hbegun := Fleet.server?_beginStart hs' hv' hclaim
  rw [← heq] at hbegun
  have hregistry : begun.registry = t.fleet.registry := by
    refine (congrArg (·.2.2) (Fleet.records_beginStart _ ref)).trans ?_
    rw [hlogged]
    rfl
  have hstep : t.step env (.line ref text) =
      t.register (t.fleet.logLine env ref text) ref := by
    change t.stepLine env ref text = _
    simp [stepLine, hreads, hstarts]
  refine ⟨⟨s, hs, hbegun⟩, ?_⟩
  rw [hstep, register]
  rcases Fleet.register_cases hbegun with ⟨hfree, hregister⟩ | ⟨htaken, hregister⟩
  · rw [hregistry] at hfree
    rw [hregister, hregistry]
    exact Or.inl ⟨hfree, rfl⟩
  · rw [hregistry] at htaken
    rw [hregister]
    exact Or.inr ⟨htaken, rfl⟩

/-! ### What is announced -/

/-- The servers whose start an action announces and records: that of a server that is not being
    recovered, where its supervisor finishes it. -/
def announced (ref : ServerRef) (t : Traffic) (_ : Surroundings) : Action → List Server
  | .finishStart server =>
    if server = ref ∧ ref ∈ t.starting then (t.fleet.server? ref).toList.filter (!·.isRecovering)
    else []
  | _ => []

/-- Only the supervisor of a server announces its start. -/
theorem announced_eq_nil {env : Surroundings} {a : Action} (ha : a ≠ .finishStart ref) :
    t.announced ref env a = [] := by
  cases a with
  | finishStart server => exact if_neg fun ⟨hserver, _⟩ => ha (hserver ▸ rfl)
  | _ => rfl

/-- No start is announced but that of a server that is in the middle of it. -/
theorem announced_of_idle {env : Surroundings} {a : Action} (hidle : ref ∉ t.starting) :
    t.announced ref env a = [] := by
  cases a with
  | finishStart server => exact if_neg fun ⟨_, hstarting⟩ => hidle hstarting
  | _ => rfl

/-- The ports under which an action cannot register a server, since they are taken. -/
def collisions (ref : ServerRef) (t : Traffic) (_ : Surroundings) : Action → List UInt16
  | .line server text =>
    if server = ref ∧ t.isReading ref = true ∧
        startsNow t.fleet ref (ConsoleLine.recognize text) = true then
      (t.fleet.startPort? ref).toList.filter (· ∈ t.fleet.registry.ports)
    else []
  | _ => []

/-- An action is about a server that starts: it is a line of it, or finishes its start. -/
def Action.IsStartOf (ref : ServerRef) (a : Action) : Prop :=
  (∃ text, a = .line ref text) ∨ a = .finishStart ref

/-- The start of a server is announced and recorded where its supervisor finishes it. Its lines
    announce nothing else but settings, and whoever else records a start records that of another
    server. -/
structure Announces (ref : ServerRef) (t : Traffic) (env : Surroundings) (a : Action) : Prop where
  /-- What is announced. -/
  notices : a.IsStartOf ref → ∃ news, (t.step env a).fleet.notices =
      t.fleet.notices ++ (t.announced ref env a).flatMap t.fleet.startNotices ++ news ∧
    ∀ notice ∈ news, Fleet.SettingNotice notice ∧ ∀ f s, notice ∉ Fleet.startNotices f s
  /-- What is recorded. -/
  store : (∀ other, a = .finishStart other → other = ref) →
    (t.step env a).fleet.store = (t.announced ref env a).foldl
      (fun store s => store.recordStart ⟨s.hostname, s.id, s.owner⟩) t.fleet.store

/-- A line of a server announces settings, unless the server is turned away. -/
theorem Sound.modest_line (h : t.Sound) (env : Surroundings) (text : String)
    (hfree : t.collisions ref env (.line ref text) = []) :
    t.fleet.Modest (t.step env (.line ref text)).fleet := by
  cases hreads : t.isReading ref with
  | false =>
    have hstep : t.step env (.line ref text) = t := by
      change t.stepLine env ref text = t
      simp [stepLine, hreads]
    rw [hstep]
    exact .refl t.fleet
  | true =>
    cases hstarts : startsNow t.fleet ref (ConsoleLine.recognize text) with
    | false =>
      have hstep : (t.step env (.line ref text)).fleet = t.fleet.onLine env ref text := by
        change (t.stepLine env ref text).fleet = _
        simp [stepLine, hreads, hstarts]
      rw [hstep]
      exact t.fleet.modest_onLine env hstarts
    | true =>
      obtain ⟨l, hl, -⟩ := (isReading_iff h.crew).1 hreads
      obtain ⟨s, hs, -⟩ := standing_of_life? hl
      have hport := Fleet.startPort?_eq_some_iff.2 ⟨s, l.watch, hs, watch_of_life? hl, rfl⟩
      rcases (h.startup_cases env hreads hport hstarts).2 with ⟨-, hstep⟩ | ⟨htaken, -⟩
      · rw [hstep]
        have hbegun := (t.fleet.modest_logLine env ref text).trans
          (Fleet.modest_of_records (Fleet.records_beginStart _ ref))
        exact hbegun.trans (.of_eq rfl rfl)
      · simp [collisions, hreads, hstarts, hport, htaken] at hfree

/-- What is announced where the start of a server is finished. -/
theorem Sound.announced_finishStart (h : t.Sound) (env : Surroundings)
    (hstarting : ref ∈ t.starting) :
    ∃ s, t.fleet.server? ref = some s ∧
      (t.step env (.finishStart ref)).fleet = t.fleet.finishStart ref ∧
      t.announced ref env (.finishStart ref) = if s.isRecovering then [] else [s] := by
  obtain ⟨l, hl⟩ := exists_life h.crew (h.starting_lt ref hstarting)
  obtain ⟨s, hs, -⟩ := standing_of_life? hl
  refine ⟨s, hs, ?_, ?_⟩
  · change (t.stepStart ref).fleet = _
    simp [stepStart, hstarting]
  · cases hrecovering : s.isRecovering <;> simp [announced, hstarting, hs, hrecovering]

/-- Where its port is not taken the start of a server is announced so by every action. -/
theorem Sound.announces (h : t.Sound) (env : Surroundings) (a : Action)
    (hfree : t.collisions ref env a = []) : Announces ref t env a := by
  constructor
  · rintro (⟨text, rfl⟩ | rfl)
    · obtain ⟨⟨news, hnews, hsettings⟩, -⟩ := h.modest_line env text hfree
      refine ⟨news, ?_, fun notice hmem => ⟨hsettings notice hmem, ?_⟩⟩
      · rw [hnews]
        exact congrArg (· ++ news) (List.append_nil _).symm
      · exact (hsettings notice hmem).not_mem_startNotices
    · refine ⟨[], ?_, fun _ hmem => by cases hmem⟩
      by_cases hstarting : ref ∈ t.starting
      · obtain ⟨s, hs, hstep, hannounced⟩ := h.announced_finishStart env hstarting
        have hnotices := congrArg (·.1) (Fleet.records_finishStart hs)
        rw [hstep, hannounced, List.append_nil]
        refine hnotices.trans ?_
        split <;> simp [Fleet.records]
      · rw [step_finishStart_idle hstarting, announced_of_idle hstarting]
        simp
  · intro hother
    by_cases hacts : a = .finishStart ref ∧ ref ∈ t.starting
    · obtain ⟨rfl, hstarting⟩ := hacts
      obtain ⟨s, hs, hstep, hannounced⟩ := h.announced_finishStart env hstarting
      have hstore := congrArg (·.2.1) (Fleet.records_finishStart hs)
      rw [hstep, hannounced]
      refine hstore.trans ?_
      split <;> rfl
    · have hnone : t.announced ref env a = [] := by
        by_cases ha : a = .finishStart ref
        · exact announced_of_idle fun hstarting => hacts ⟨ha, hstarting⟩
        · exact announced_eq_nil ha
      rw [hnone]
      refine t.store_step env a fun other hstarting ha => hacts ?_
      have hsame := hother other ha
      exact ⟨hsame ▸ ha, hsame ▸ hstarting⟩

/-! ### Registrations -/

/-- The ports under which an action registers a server. -/
def enrolments (ref : ServerRef) (t : Traffic) (env : Surroundings) (a : Action) : List UInt16 :=
  ((t.step env a).fleet.registry.keysOf ref).filter (· ∉ t.fleet.registry.keysOf ref)

theorem keysOf_eq_nil_iff : t.fleet.registry.keysOf ref = [] ↔ ¬ t.fleet.IsRegistered ref := by
  rw [List.eq_nil_iff_forall_not_mem, Fleet.IsRegistered, not_exists]
  simp only [Registry.mem_keysOf_iff]

theorem keysOf_of_life? (hl : t.life? ref = some l) : t.fleet.registry.keysOf ref = l.keys := by
  obtain ⟨s, v, -, -, rfl⟩ := life?_eq_some_iff.1 hl
  rfl

/-- A server that runs goes on doing so as it was launched and on the same port, and is not
    registered again. -/
theorem Goes.running {env : Surroundings} {a : Action} {scope : Scope}
    (hgoes : Goes scope t (t.step env a)) (hl : t.life? ref = some l)
    (hrunning : l.standing.isRunning = true) :
    (∃ l', (t.step env a).life? ref = some l' ∧ l'.standing.isRunning = true ∧
      l'.standing.port = l.standing.port ∧ l'.standing.spec = l.standing.spec) ∧
    t.enrolments ref env a = [] := by
  obtain ⟨l', hl', hpath, -⟩ := hgoes.lives ref l hl
  have hfixed := hpath.keeps (P := fun m => m.standing.isRunning = true ∧
    m.standing.port = l.standing.port ∧ m.keys ⊆ l.keys) (fun _ _ hnext => hnext.fixed)
    ⟨hrunning, rfl, List.Subset.refl _⟩
  refine ⟨⟨l', hl', hfixed.1, hfixed.2.1, hpath.spec_eq.1⟩, ?_⟩
  rw [enrolments, keysOf_of_life? hl, keysOf_of_life? hl', List.filter_eq_nil_iff]
  intro port hkey
  simpa using hfixed.2.2 hkey

/-- A server that does not run after an action was not registered by it. -/
theorem enrolments_of_unregistered {env : Surroundings} {a : Action}
    (hnot : ¬ (t.step env a).fleet.IsRegistered ref) : t.enrolments ref env a = [] := by
  rw [enrolments, keysOf_eq_nil_iff.2 hnot, List.filter_nil]

/-- Is a server started on a port? It runs, tells no other one, and is registered under it or not at
    all. -/
structure IsStartedOn (t : Traffic) (ref : ServerRef) (port : UInt16) : Prop where
  /-- It runs, on that port. -/
  server : ∃ s, t.fleet.server? ref = some s ∧ s.isRunning = true ∧ s.port = port
  /-- It is registered under no other one. -/
  keys : t.fleet.registry.keysOf ref = [] ∨ t.fleet.registry.keysOf ref = [port]
  /-- It is registered until its supervisor takes it out, unless it is killed or its process is made
      to end. -/
  registered : ∀ s v, t.fleet.server? ref = some s → t.fleet.supervisor? ref = some v →
    v.phase.isBeforeRemoval = true → s.isKilled = false → t.isOusted ref = false →
      t.fleet.registry.keysOf ref = [port]

/-- A server that runs is started on its port. -/
theorem Sound.isStartedOn (h : t.Sound) (hl : t.life? ref = some l)
    (hrunning : l.standing.isRunning = true) : t.IsStartedOn ref l.standing.port := by
  have hok := h.ok ref l hl
  obtain ⟨s, hs, hstanding⟩ := standing_of_life? hl
  refine ⟨⟨s, hs, ?_, ?_⟩, ?_, ?_⟩
  · rw [← hstanding] at hrunning
    exact hrunning
  · rw [← hstanding]
    rfl
  · rw [keysOf_of_life? hl]
    exact hok.keys_eq
  · intro s' v hs' hv hbefore halive hkept
    rw [hs, Option.some.injEq] at hs'
    subst hs'
    rw [watch_of_life? hl, Option.some.injEq] at hv
    subst hv
    rw [← isOusted_of_life? hl] at hkept
    rw [keysOf_of_life? hl]
    refine hok.registered hrunning hbefore ?_ hkept
    rw [← hstanding]
    exact halive

/-- A server that runs does so on the same port after every run, and is not registered again. -/
theorem Sound.started_run (h : t.Sound) (hl : t.life? ref = some l)
    (hrunning : l.standing.isRunning = true) {steps : List (Surroundings × Action)}
    (hfresh : t.Fresh steps) :
    (t.run steps).IsStartedOn ref l.standing.port ∧ collect (enrolments ref) t steps = [] := by
  have hstep : ∀ (t : Traffic) (env : Surroundings) (a : Action), t.Sound →
      Goes (t.scope env a) t (t.step env a) →
      (∃ m, t.life? ref = some m ∧ m.standing.isRunning = true ∧
        m.standing.port = l.standing.port) →
      (∃ m, (t.step env a).life? ref = some m ∧ m.standing.isRunning = true ∧
        m.standing.port = l.standing.port) ∧ t.enrolments ref env a = [] := by
    rintro t env a - hgoes ⟨m, hm, hrunning, hport⟩
    obtain ⟨⟨m', hm', hrunning', hport', -⟩, hnone⟩ := hgoes.running hm hrunning
    exact ⟨⟨m', hm', hrunning', hport'.trans hport⟩, hnone⟩
  have hstart : ∃ m, t.life? ref = some m ∧ m.standing.isRunning = true ∧
      m.standing.port = l.standing.port := ⟨l, hl, hrunning, rfl⟩
  obtain ⟨hsound, m, hm, hrunning', hport⟩ := h.run_keeps hstart hfresh
    fun t env a _ hsound hgoes hm => (hstep t env a hsound hgoes hm).1
  exact ⟨hport ▸ hsound.isStartedOn hm hrunning', h.collects_nothing hstart hfresh hstep⟩

/-- Once a start is finished it is never announced again. -/
theorem Sound.announced_settled (h : t.Sound) (hsettled : t.IsSettled ref)
    {steps : List (Surroundings × Action)} (hfresh : t.Fresh steps) :
    collect (announced ref) t steps = [] := by
  exact h.collects_nothing (P := (·.IsSettled ref)) hsettled hfresh
    fun t env a hsound hgoes hsettled =>
      ⟨hsettled.step hsound.crew hgoes, announced_of_idle hsettled.2⟩

/-- Where the supervisor of a server does not finish its start it is not announced. -/
theorem announced_of_unfinished {steps : List (Surroundings × Action)}
    (hnot : .finishStart ref ∉ steps.map (·.2)) : collect (announced ref) t steps = [] := by
  refine collect_eq_nil fun before env a after hsplit => announced_eq_nil ?_
  rintro rfl
  exact hnot (by simp [hsplit])

/-- The start of a server that is in the middle of it is announced once, where its supervisor
    finishes it, unless it is being recovered. -/
theorem Sound.announced_starting (h : t.Sound) (hstarting : ref ∈ t.starting) {s : Server}
    (hs : t.fleet.server? ref = some s) {steps : List (Surroundings × Action)}
    (hfresh : t.Fresh steps) (hfinish : .finishStart ref ∈ steps.map (·.2)) :
    ∃ s', s'.port = s.port ∧ s'.spec = s.spec ∧
      collect (announced ref) t steps = if s.isRecovering then [] else [s'] := by
  induction steps generalizing t s with
  | nil => cases hfinish
  | cons first steps ih =>
    obtain ⟨env, a⟩ := first
    obtain ⟨hgoes, hlater⟩ := h.fresh_cons hfresh
    rw [collect]
    by_cases ha : a = .finishStart ref
    · subst ha
      rw [hgoes.sound.announced_settled (h.isSettled_finishStart hstarting env) hlater,
        List.append_nil]
      obtain ⟨s', hs', -, hannounced⟩ := h.announced_finishStart env hstarting
      rw [hs, Option.some.injEq] at hs'
      subst hs'
      exact ⟨s, rfl, rfl, hannounced⟩
    · -- Until then it stays in the middle of its start, and its port is fixed.
      obtain ⟨s₁, hs₁, hedits⟩ := edits_step hs env a
      have hrecovering := hedits.isRecovering (Action.not_mayEdit_announcement ha)
      obtain ⟨l, hl, hrunning⟩ := h.running_of_starting hstarting
      obtain ⟨s₀, hs₀, hstanding⟩ := standing_of_life? hl
      rw [hs, Option.some.injEq] at hs₀
      subst hs₀
      obtain ⟨⟨l₁, hl₁, -, hport₁, hspec₁⟩, -⟩ := hgoes.running hl hrunning
      obtain ⟨s₂, hs₂, hstanding₁⟩ := standing_of_life? hl₁
      rw [hs₁, Option.some.injEq] at hs₂
      subst hs₂
      obtain ⟨s', hport, hspec, hannounced⟩ := ih hgoes.sound (starting_step hstarting env ha) hs₁
        hlater (by simpa [Ne.symm ha] using hfinish)
      rw [announced_eq_nil ha, List.nil_append, hannounced, hrecovering]
      rw [← hstanding, ← hstanding₁] at hport₁ hspec₁
      exact ⟨s', hport.trans hport₁, hspec.trans hspec₁, rfl⟩

/-- The first startup line of a server registers it, where its port is not taken. -/
theorem Sound.registered_now (h : t.Sound) (env : Surroundings) {text : String} {port : UInt16}
    (hreads : t.isReading ref = true) (hport : t.fleet.startPort? ref = some port)
    (hstarts : startsNow t.fleet ref (ConsoleLine.recognize text) = true)
    (hfree : port ∉ t.fleet.registry.ports) {s : Server} (hs : t.fleet.server? ref = some s) :
    let t' := t.step env (.line ref text)
    t'.fleet.server? ref = some { s with port := port, isRunning := true } ∧
      ref ∈ t'.starting ∧ t.enrolments ref env (.line ref text) = [port] := by
  obtain ⟨⟨s', hs', hbegun⟩, hcases⟩ := h.startup_cases env hreads hport hstarts
  rw [hs, Option.some.injEq] at hs'
  subst hs'
  obtain ⟨l, hl, -⟩ := (isReading_iff h.crew).1 hreads
  have hkeys : t.fleet.registry.keysOf ref = [] := by
    rw [keysOf_of_life? hl]
    exact (h.ok ref l hl).keys_of_silent (silent_of_startsNow hl hstarts)
  obtain ⟨-, hstep⟩ := hcases.resolve_right fun htaken => hfree htaken.1
  have hkeys' : (t.step env (.line ref text)).fleet.registry.keysOf ref = [port] := by
    rw [hstep, Registry.keysOf_append, if_pos rfl]
    exact congrArg (· ++ [port]) hkeys
  refine ⟨?_, ?_, ?_⟩
  · rw [hstep]
    exact hbegun
  · rw [hstep]
    exact List.mem_cons_self
  · rw [enrolments, hkeys', hkeys]
    rfl

/-! ### Over whole runs -/

section

variable {config : Config} {logDir : Path} {files : FileSystem}

/-- As long as no startup line of a server is handled it is neither registered nor is its start
    announced. -/
theorem nothing_of_quiet (hmin : 0 < config.host.minPort) {steps : List (Surroundings × Action)}
    (hdrawn : (drawn steps).Nodup)
    (hquiet : ∀ text ∈ collect (heard ref) (.start (.start config logDir files)) steps,
      .initialized ∉ ConsoleLine.recognize text) :
    let start := Traffic.start (.start config logDir files)
    collect (enrolments ref) start steps = [] ∧ collect (announced ref) start steps = [] := by
  intro start
  -- After each of the steps it has not started.
  have hbefore : ∀ early late, steps = early ++ late →
      (start.run early).Sound ∧ ∃ lines, Unstarted ref (start.run early) lines := by
    intro early late hsplit
    rw [hsplit] at hdrawn hquiet
    have hdrawn' := nodup_drawn_left hdrawn
    refine ⟨sound_run logDir files hmin hdrawn', _, unstarted_after hmin hdrawn' ?_⟩
    intro text hmem
    refine hquiet text ?_
    rw [collect_append]
    exact List.mem_append_left _ hmem
  constructor
  · refine collect_eq_nil fun early env a late hsplit => enrolments_of_unregistered ?_
    obtain ⟨hsound, lines, hunstarted⟩ := hbefore (early ++ [(env, a)]) late (by simp [hsplit])
    rw [run_append] at hsound hunstarted
    exact hsound.not_registered hunstarted
  · refine collect_eq_nil fun early env a late hsplit => announced_of_idle fun hstarting => ?_
    obtain ⟨hsound, lines, hunstarted⟩ := hbefore early _ hsplit
    obtain ⟨l, hl, hrunning⟩ := hsound.running_of_starting hstarting
    obtain ⟨m, hm, hstanding⟩ := fate?_of_life? hl
    rw [← hstanding, (hunstarted.fate m hm).1] at hrunning
    cases hrunning

/-- Before the start of a server is finished nobody forgets that it is being recovered. -/
theorem recovering_until (hmin : 0 < config.host.minPort)
    {early late : List (Surroundings × Action)} (hdrawn : (drawn (early ++ late)).Nodup)
    {s s' : Server}
    (hs : ((Traffic.start (.start config logDir files)).run early).fleet.server? ref = some s)
    (hs' : ((Traffic.start (.start config logDir files)).run (early ++ late)).fleet.server? ref =
      some s') (hsilent : s'.isRunning = false) : s.isRecovering = s'.isRecovering := by
  have hsound := sound_run logDir files hmin (nodup_drawn_left hdrawn)
  rw [run_append] at hs'
  refine (hsound.recovering_run hs (fresh_run logDir files hmin hdrawn) hs' ?_).symm
  -- It has not even reported its startup.
  rintro ⟨⟨s'', hs'', hrunning⟩, -⟩
  rw [hs', Option.some.injEq] at hs''
  rw [← hs'', hsilent] at hrunning
  cases hrunning

end

/-- A server whose lines are handled in a run in which no identifier is drawn twice, and whose port
    is not taken when it starts. The lines on which the engine takes another port tell the number on
    them, where that is the number of a port. What the server prints and its start announce that start
    and changes of settings, and nobody else records it. Where no line tells of a start the server is not
    registered, and no start is announced.

    The first line that tells of a start registers it once, under the port that was told last until
    then, or under the one that was claimed for its launch where none was told or zero. Its start is
    announced and recorded once, where its supervisor finishes that, or not at all where the server
    is being recovered, which is known from its launch. Whatever it prints after that, it stays on
    that port, and stays registered until its end unless it is killed. -/
theorem startup_of_run (config : Config) (logDir : Path) (files : FileSystem)
    (hmin : 0 < config.host.minPort) (steps : List (Surroundings × Action))
    (hdrawn : (drawn steps).Nodup) (ref : ServerRef)
    (hfree : collect (collisions ref) (.start (.start config logDir files)) steps = []) :
    let start := Traffic.start (.start config logDir files)
    (∀ n text, ConsoleLine.dropStamp text.toList = ConsoleLine.alternateLine n ∨
        (∃ wanted, ConsoleLine.dropStamp text.toList = ConsoleLine.retryLine wanted n) →
      ConsoleLine.portsTold text = if n ≤ 65535 then [UInt16.ofNat n] else []) ∧
    (∀ before env a after, steps = before ++ (env, a) :: after →
      Announces ref (start.run before) env a) ∧
    ((∀ text ∈ collect (heard ref) start steps, .initialized ∉ ConsoleLine.recognize text) →
      collect (enrolments ref) start steps = [] ∧ collect (announced ref) start steps = []) ∧
    ∀ before env text after, steps = before ++ (env, .line ref text) :: after →
      (start.run before).isReading ref = true → .initialized ∈ ConsoleLine.recognize text →
      (∀ earlier ∈ collect (heard ref) start before,
        .initialized ∉ ConsoleLine.recognize earlier) →
      ∃ s v, (start.run before).fleet.server? ref = some s ∧
        (start.run before).fleet.supervisor? ref = some v ∧
        v.holdsClaim = true ∧ v.launchPort ≠ 0 ∧
        (∀ early late s', before = early ++ late → (start.run early).fleet.server? ref = some s' →
          s'.isRecovering = s.isRecovering) ∧
        let told := ConsoleLine.lastPort (collect (heard ref) start before)
        let port := if told = 0 then v.launchPort else told
        collect (enrolments ref) start steps = [port] ∧
        (s.isRecovering = true ∨ .finishStart ref ∉ after.map (·.2) →
          collect (announced ref) start steps = []) ∧
        (s.isRecovering = false → .finishStart ref ∈ after.map (·.2) →
          ∃ s', collect (announced ref) start steps = [s'] ∧ s'.port = port ∧ s'.spec = s.spec) ∧
        ∀ early late, after = early ++ late →
          (start.run (before ++ (env, .line ref text) :: early)).IsStartedOn ref port := by
  intro start
  refine ⟨fun n text h => ConsoleLine.portsTold_number h, ?_, ?_, ?_⟩
  · intro before env a after hsplit
    rw [hsplit] at hdrawn hfree
    exact (sound_run logDir files hmin (nodup_drawn_left hdrawn)).announces env a
      (eq_nil_of_collect hfree)
  · exact fun hquiet => nothing_of_quiet hmin hdrawn hquiet
  · intro before env text after hsplit hreads hstart hearlier
    subst hsplit
    have hdrawn' := nodup_drawn_left hdrawn
    have hsound : (start.run before).Sound := sound_run logDir files hmin hdrawn'
    have hunstarted : Unstarted ref (start.run before) _ := unstarted_after hmin hdrawn' hearlier
    obtain ⟨l, hl, hphase, -⟩ := (isReading_iff hsound.crew).1 hreads
    obtain ⟨s, v, hs, hv, rfl⟩ := life?_eq_some_iff.1 hl
    have hok := hsound.ok ref _ hl
    obtain ⟨hsilent, htold⟩ : s.isRunning = false ∧ s.port = _ :=
      hunstarted.fate s.fate (by rw [Fleet.fate?, hs, Option.map_some])
    have hstarts : startsNow (start.run before).fleet ref (ConsoleLine.recognize text) = true := by
      simp [startsNow, ConsoleLine.recognize_of_initialized hstart, hs, hsilent]
    refine ⟨s, v, hs, hv, hok.claim_of_silent hphase hsilent, hok.launchPort_ne, ?_, ?_⟩
    · rintro early late s' rfl hs'
      exact recovering_until hmin hdrawn' hs' hs hsilent
    · intro told port
      have hport : (start.run before).fleet.startPort? ref = some port := by
        rw [Fleet.startPort?_eq_some_iff]
        exact ⟨s, v, hs, hv, by rw [htold]⟩
      -- Nobody is registered under its port.
      have hopen : collisions ref (start.run before) env (.line ref text) = [] :=
        eq_nil_of_collect hfree
      have huntaken : port ∉ (start.run before).fleet.registry.ports := fun htaken => by
        simp [collisions, hreads, hstarts, hport, htaken] at hopen
      obtain ⟨hs', hstarting, henrolled⟩ :=
        hsound.registered_now env hreads hport hstarts huntaken hs
      obtain ⟨hgoes, hlater⟩ := hsound.fresh_cons (fresh_run logDir files hmin hdrawn)
      obtain ⟨l', hl', hstanding⟩ := life_of_server? hgoes.sound.crew hs'
      have hrunning : l'.standing.isRunning = true := by
        rw [← hstanding]
        rfl
      have hfixed : l'.standing.port = port := by
        rw [← hstanding]
        rfl
      obtain ⟨hnone, hunannounced⟩ := nothing_of_quiet hmin hdrawn' hearlier
      have hunheard : announced ref (start.run before) env (.line ref text) = [] := rfl
      refine ⟨?_, ?_, ?_, ?_⟩
      · rw [collect_append, collect, hnone, henrolled,
          (hgoes.sound.started_run hl' hrunning hlater).2]
        rfl
      · intro hquiet
        rw [collect_append, collect, hunannounced, hunheard, List.nil_append, List.nil_append]
        by_cases hfinish : .finishStart ref ∈ after.map (·.2)
        · obtain ⟨s', -, -, hannounced⟩ :=
            hgoes.sound.announced_starting hstarting hs' hlater hfinish
          rw [hannounced]
          exact if_pos (hquiet.resolve_right fun hnot => hnot hfinish)
        · exact announced_of_unfinished hfinish
      · intro hshown hfinish
        obtain ⟨s', hport', hspec, hannounced⟩ :=
          hgoes.sound.announced_starting hstarting hs' hlater hfinish
        refine ⟨s', ?_, hport', hspec⟩
        rw [collect_append, collect, hunannounced, hunheard, List.nil_append, List.nil_append,
          hannounced]
        exact if_neg (by simp [hshown])
      · intro early late hsplit
        subst hsplit
        rw [← List.cons_append, ← List.append_assoc] at hdrawn
        have hdrawn'' := nodup_drawn_left hdrawn
        obtain ⟨-, hsoon⟩ := hsound.fresh_cons (fresh_run logDir files hmin hdrawn'')
        rw [run_append]
        exact hfixed ▸ (hgoes.sound.started_run hl' hrunning hsoon).1

/-- On the small machine a server that tells another port before its startup line than after it is
    registered once, under the first of them, and announced once. -/
theorem startup_of_small_run :
    let steps := smallSteps (smallHosting ++ [.line 0 "using alternate port 15.",
      .line 0 "using alternate port 70000.", .line 0 "UDP Initialized.",
      .line 0 "using alternate port 16.", .finishStart 0, .line 0 "UDP Initialized."])
    collect (enrolments 0) (smallStart 1) steps = [15] ∧
      ∃ s, collect (announced 0) (smallStart 1) steps = [s] ∧ s.port = 15 := by
  intro steps
  have hrun := startup_of_run (smallConfig 1) "/l" smallFiles (by decide) steps
    (by decide +kernel) 0 (by decide +kernel)
  obtain ⟨s, v, hs, -, -, -, -, hregistered, -, hannounced, -⟩ :=
    hrun.2.2.2 (steps.take 11) _ "UDP Initialized." (steps.drop 12) rfl (by decide +kernel)
      (by decide +kernel) (by decide +kernel)
  have htold : ConsoleLine.lastPort (collect (heard 0) (smallStart 1) (steps.take 11)) = 15 := by
    decide +kernel
  have hshown : (((smallStart 1).run (steps.take 11)).fleet.server? 0).map (·.isRecovering) =
      some false := by decide +kernel
  have hrecovering : s.isRecovering = false := by
    change ((smallStart 1).run (steps.take 11)).fleet.server? 0 = some s at hs
    rw [hs] at hshown
    exact Option.some.inj hshown
  obtain ⟨s', hannounced, hport, -⟩ := hannounced hrecovering (List.mem_of_getElem? (i := 1) rfl)
  have hfifteen : ∀ launchPort : UInt16,
      (if ConsoleLine.lastPort (collect (heard 0) (smallStart 1) (steps.take 11)) = 0 then launchPort
        else ConsoleLine.lastPort (collect (heard 0) (smallStart 1) (steps.take 11))) = 15 := by
    intro launchPort
    rw [htold]
    exact if_neg (by decide)
  exact ⟨hregistered.trans (congrArg (fun port => [port]) (hfifteen _)), s', hannounced,
    hport.trans (hfifteen _)⟩

end Traffic

end HostDaemon
