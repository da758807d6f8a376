import HostDaemon.Proofs.Fleet.Passwords
import HostDaemon.Proofs.Traffic.Edits
import HostDaemon.Proofs.Traffic.Fates
import HostDaemon.Proofs.Traffic.Names

/-! # Passwords over whole runs

  There is one configuration in a whole run, and so one least length of passwords. Nothing but a
  line changes a password, and a server that is launched begins with those of its launch.

  - `Traffic.config_step` says that the configuration stays.
  - `Traffic.guarded_step` says that the passwords are guarded in every step, and
    `Traffic.passwords_of_run` is the result. -/

namespace HostDaemon

namespace Fleet

variable {f : Fleet} {least : UInt64}

/-! ### Launches -/

/-- A launch adds a server with the passwords of its launch. -/
theorem servers_adopt (f : Fleet) (env : Surroundings) (spec : LaunchSpec) (restarts : UInt32)
    (isRecovering : Bool) (port : UInt16) (logFile : Path) (log : Location) :
    ∃ s : Server, s.settings = .ofSpec s.spec ∧
      (f.adopt env spec restarts isRecovering port logFile log).2.servers = f.servers ++ [s] := by
  refine ⟨{ (Server.create spec logFile restarts isRecovering env.now).setPid
    (some env.freshPid) with console := .opened }, rfl, ?_⟩
  simp only [adopt, addServer, enterLaunching, server?, List.getElem?_concat_length]

theorem Guarded.launch (h : f.Guarded least) (env : Surroundings) (spec : LaunchSpec)
    (restarts : UInt32) (isRecovering : Bool) (port : UInt16) :
    (f.launch env spec restarts isRecovering port).2.Guarded least := by
  rcases f.launch_cases env spec restarts isRecovering port with
    ⟨e, files, hlaunch⟩ | ⟨files, logFile, log, hlaunch⟩
  · rw [hlaunch]
    exact h
  · obtain ⟨s, hfirst, hservers⟩ := servers_adopt { f with files := files } env spec restarts
      isRecovering port logFile log
    rw [hlaunch, Guarded, hservers]
    intro s' hs'
    rcases List.mem_append.1 hs' with hold | hnew
    · exact h s' hold
    · rw [List.mem_singleton.1 hnew]
      intro credential _
      left
      rw [hfirst]

theorem Guarded.relaunch (h : f.Guarded least) (env : Surroundings) (s : Server) (port : UInt16) :
    (f.relaunch env s port).Guarded least := by
  rw [Guarded, servers_relaunch]
  exact h.launch env _ _ false port

/-! ### One configuration -/

theorem config_launch (f : Fleet) (env : Surroundings) (spec : LaunchSpec) (restarts : UInt32)
    (isRecovering : Bool) (port : UInt16) :
    (f.launch env spec restarts isRecovering port).2.config = f.config := by
  rcases f.launch_cases env spec restarts isRecovering port with
    ⟨e, files, hlaunch⟩ | ⟨files, logFile, log, hlaunch⟩
  · rw [hlaunch]
  · obtain ⟨s, -, hadopt⟩ := adopt_eq { f with files := files } env spec restarts isRecovering port
      logFile log
    rw [hlaunch, hadopt]

theorem config_relaunch (f : Fleet) (env : Surroundings) (s : Server) (port : UInt16) :
    (f.relaunch env s port).config = f.config := by
  obtain ⟨g, notices, hlaunch, hrelaunch⟩ := f.exists_relaunch_eq env s port
  have hg : g.config = f.config := by rw [← hlaunch, config_launch]
  rw [hrelaunch]
  exact hg

theorem config_unregister (f : Fleet) (ref : ServerRef) :
    (f.unregister ref).2.config = f.config := by
  unfold unregister
  split <;> rfl

theorem config_call (f : Fleet) (k : KillCall) : (f.call k).2.config = f.config := by
  have hquiet : (if k.isQuiet then f.update k.server ({ · with hidesStop := true }) else f).config =
      f.config := by
    split <;> rfl
  have hkilled : ∀ g : Fleet, (g.kill k.server k.byOwner).2.config = g.config := fun g =>
    (discreet_killProcess _ k.server).config.trans
      (config_unregister (g.update k.server (·.markKilled k.byOwner)) k.server)
  exact (hkilled _).trans hquiet

theorem config_callAll (f : Fleet) (ks : List KillCall) : (f.callAll ks).config = f.config :=
  List.foldlRecOn (motive := fun g : Fleet => g.config = f.config) ks _ rfl fun g hg k _ =>
    (g.config_call k).trans hg

/-- A supervisor does nothing about the configuration. -/
theorem config_advance (f : Fleet) (env : Surroundings) (ref : ServerRef) :
    (f.advance env ref).config = f.config := by
  have hclosed : ∀ v, (f.closeRun env ref v).config = f.config := by
    intro v
    unfold closeRun
    split
    · rfl
    · exact (discreet_leaveLaunching _ ref).config.trans (f.discreet_releaseClaim ref).config
  have hplanned : ∀ v s, (f.planRestart env v s).2.config = f.config := by
    intro v s
    unfold planRestart
    repeat' split
    all_goals rfl
  have hphase : ∀ (g : Fleet) phase, (g.setPhase ref phase).config = g.config := fun _ _ => rfl
  unfold advance
  split
  next v s _ _ =>
    cases v.phase with
    | reading =>
      simp only
      split
      · rfl
      · exact (hphase _ _).trans (hclosed v)
    | ended => rfl
    | reported => exact (hphase _ _).trans (f.config_unregister ref)
    | removed => exact (hphase _ _).trans (hplanned v s)
    | restarting port => exact (hphase _ _).trans (f.config_relaunch env s port)
    | done => rfl
  next => rfl

end Fleet

namespace Traffic

variable {t : Traffic}

/-- There is one configuration. -/
theorem config_step (t : Traffic) (env : Surroundings) (a : Action) :
    (t.step env a).fleet.config = t.fleet.config := by
  cases a with
  | request r => exact (t.alike_stepRequest env r).config.trans (t.fleet.config_callAll _)
  | hosting i =>
    change (t.stepHosting env i).fleet.config = _
    rcases t.fleet_stepHosting env i with
      ⟨pending, ports, hstill⟩ | ⟨spec, isRecovering, port, hlaunch⟩
    · rw [hstill]
    · rw [hlaunch, Fleet.config_launch]
  | line server text =>
    change (t.stepLine env server text).fleet.config = _
    have hheard : Fleet.Hears server _ t.fleet (t.fleet.onLine env server text) :=
      t.fleet.hears_onLine env server text
    have hlogged := (t.fleet.discreet_logLine env server text).config
    have hbegun := ((t.fleet.logLine env server text).discreet_beginStart server).config.trans hlogged
    unfold stepLine register
    repeat' split
    next => rfl
    next hregister => exact (Fleet.discreet_register hregister).config.trans hbegun
    next => exact (Fleet.discreet_rejectStart _ server _).config.trans hbegun
    next => exact hheard.config
  | finishStart server =>
    change (t.stepStart server).fleet.config = _
    unfold stepStart
    split
    · exact (t.fleet.discreet_finishStart server).config
    · rfl
  | processEnds server => rfl
  | supervise server =>
    change (t.stepSupervisor env server).fleet.config = _
    unfold stepSupervisor
    split
    · rfl
    · exact t.fleet.config_advance env server
  | beginLookup i => exact (t.fleet.alike_beginLookup i).config
  | finishLookup i => exact (t.fleet.alike_finishLookup env i).config
  | beginKill server byOwner =>
    change (t.beginKill server byOwner).fleet.config = _
    unfold beginKill
    split <;> rfl
  | kill i =>
    change (t.stepKill i).fleet.config = _
    unfold stepKill
    split
    next => rfl
    next k _ =>
      unfold nextKillStage
      cases k.stage with
      | begun => cases k.byOwner <;> rfl
      | marked => exact t.fleet.config_unregister k.server
      | unregistered removed => exact (t.fleet.discreet_killProcess k.server).config
      | finished removed => rfl
  | sweep => exact (t.fleet.alike_sweepAfter _ env.now).config.trans (t.fleet.config_callAll _)
  | shutdown =>
    change t.stepShutdown.fleet.config = _
    unfold stepShutdown
    split
    next => rfl
    next => rfl
    next => rfl
    next ref refs _ => exact t.fleet.config_call ⟨ref, false, true⟩
    next => rfl

/-! ### Steps -/

/-- Nobody but the console of a server changes its settings. -/
theorem Action.not_mayEdit_setting {a : Action} (ha : ∀ server text, a ≠ .line server text)
    (ref : ServerRef) : ¬ a.mayEdit .setting ref := by
  cases a with
  | line server text => exact absurd rfl (ha server text)
  | finishStart | supervise => exact fun hmay => nomatch hmay.2
  | request | finishLookup | kill | sweep | shutdown => exact fun hmay => nomatch hmay
  | hosting | processEnds | beginLookup | beginKill => exact fun hmay => hmay

/-- The passwords are guarded in every line. -/
theorem guarded_stepLine (h : t.fleet.Guarded t.fleet.config.host.passwordMinLength)
    (env : Surroundings) (server : ServerRef) (text : String) :
    (t.stepLine env server text).fleet.Guarded t.fleet.config.host.passwordMinLength := by
  have hkept : ∀ {f f' : Fleet}, f.Edits (fun topic _ => topic ≠ .setting) f' →
      f'.passwords = f.passwords := fun hedits => hedits.passwords (by simp)
  have hlogged : (t.fleet.logLine env server text).passwords = t.fleet.passwords :=
    hkept (t.fleet.edits_logLine env server text)
  unfold stepLine
  split
  next => exact h
  next =>
    split
    next =>
      have hregistered : (t.register (t.fleet.logLine env server text) server).fleet.passwords =
          (t.fleet.logLine env server text).passwords :=
        hkept (edits_register (by simp) (by simp) (by simp) t _)
      exact h.of_passwords (hregistered.trans hlogged)
    next =>
      -- The least length is that of the fleet before, in each event once more.
      have hevents : ∀ f : Fleet, f.config = t.fleet.config →
          f.Guarded t.fleet.config.host.passwordMinLength →
          (((ConsoleLine.recognize text).foldl (fun f event => f.onEvent env server event)
            f)).Guarded t.fleet.config.host.passwordMinLength := by
        induction ConsoleLine.recognize text with
        | nil => exact fun f _ hf => hf
        | cons event events ih =>
          intro f hconfig hf
          have hheard : Fleet.Hears server _ f (f.onEvent env server event) :=
            f.hears_onEvent env server event
          refine ih _ (hheard.config.trans hconfig) ?_
          rw [← hconfig] at hf ⊢
          exact hf.onEvent env server event
      exact hevents _ (t.fleet.discreet_logLine env server text).config (h.of_passwords hlogged)

/-- The passwords are guarded in every step. -/
theorem guarded_step (h : t.fleet.Guarded t.fleet.config.host.passwordMinLength)
    (env : Surroundings) (a : Action) :
    (t.step env a).fleet.Guarded t.fleet.config.host.passwordMinLength := by
  by_cases hline : ∃ server text, a = .line server text
  · obtain ⟨server, text, rfl⟩ := hline
    exact guarded_stepLine h env server text
  by_cases hhosting : ∃ i, a = .hosting i
  · obtain ⟨i, rfl⟩ := hhosting
    change (t.stepHosting env i).fleet.Guarded _
    rcases t.fleet_stepHosting env i with
      ⟨pending, ports, hstill⟩ | ⟨spec, isRecovering, port, hlaunch⟩
    · rw [hstill]
      exact h
    · rw [hlaunch]
      exact h.launch env spec 0 isRecovering port
  by_cases hsupervise : ∃ server, a = .supervise server
  · obtain ⟨server, rfl⟩ := hsupervise
    change (t.stepSupervisor env server).fleet.Guarded _
    unfold stepSupervisor
    split
    · exact h
    · rcases t.fleet.advance_cases env server with hedits | ⟨s, port, hrelaunch⟩
      · exact h.of_passwords (hedits.passwords fun _ hmay => nomatch hmay.2.1)
      · have hphase : ∀ g : Fleet, g.Guarded t.fleet.config.host.passwordMinLength →
            (g.setPhase server .done).Guarded t.fleet.config.host.passwordMinLength := fun _ hg => hg
        rw [hrelaunch]
        exact hphase _ (h.relaunch env s port)
  · -- Nobody is launched, and nothing was printed that could tell of a setting.
    have hedits := t.edits_of_still env a (fun i heq => hhosting ⟨i, heq⟩)
      fun server heq => hsupervise ⟨server, heq⟩
    exact h.of_passwords (hedits.passwords
      (Action.not_mayEdit_setting fun server text heq => hline ⟨server, text, heq⟩))

/-! ### Over whole runs -/

/-- The passwords are guarded in every run, and the configuration is the one at its start. -/
theorem guarded_run (config : Config) (logDir : Path) (files : FileSystem)
    (steps : List (Surroundings × Action)) :
    let t := (Traffic.start (.start config logDir files)).run steps
    t.fleet.config = config ∧ t.fleet.Guarded config.host.passwordMinLength := by
  induction steps using List.reverseRecOn with
  | nil =>
    refine ⟨rfl, ?_⟩
    intro s hs
    cases hs
  | append_singleton steps last ih =>
    obtain ⟨env, a⟩ := last
    obtain ⟨hconfig, hguarded⟩ := ih
    rw [run_append]
    refine ⟨(config_step _ env a).trans hconfig, ?_⟩
    have hstep := guarded_step (by rwa [hconfig]) env a
    rwa [hconfig] at hstep

/-- What becomes of passwords. Of a password that a console tells, whatever the fleet, one outcome
    comes, which is the one that is due, and no other; no other event changes a password of any
    server. After every run each password of each server is the one that the server was launched
    with, or one that is not blank and long enough. -/
theorem passwords_of_run :
    (∀ (f : Fleet) (env : Surroundings) (ref : ServerRef),
      (∀ s, f.server? ref = some s → ∀ credential, credential ≠ .hostname → ∀ value : String,
        let f' := f.onEvent env ref (.credentialChanged credential value)
        (∃! outcome : PasswordOutcome, outcome.Yields f ref s credential value f') ∧
        ∀ outcome : PasswordOutcome, outcome.Yields f ref s credential value f' ↔
          outcome.IsDue f.config.host.passwordMinLength (s.settings.get credential) value) ∧
      ∀ event : ConsoleEvent,
        (∀ credential value, event = .credentialChanged credential value →
          credential = .hostname) →
        (f.onEvent env ref event).passwords = f.passwords) ∧
    ∀ (config : Config) (logDir : Path) (files : FileSystem) (steps : List (Surroundings × Action)),
      ((Traffic.start (.start config logDir files)).run steps).fleet.Guarded
        config.host.passwordMinLength := by
  constructor
  · intro f env ref
    constructor
    · intro s hs credential hpassword value f'
      have hiff : ∀ outcome : PasswordOutcome, outcome.Yields f ref s credential value f' ↔
          outcome.IsDue f.config.host.passwordMinLength (s.settings.get credential) value :=
        Fleet.yields_iff_isDue hs hpassword env value
      refine ⟨?_, hiff⟩
      obtain ⟨outcome, hdue, honly⟩ := PasswordOutcome.existsUnique_isDue
        f.config.host.passwordMinLength (s.settings.get credential) value
      exact ⟨outcome, (hiff outcome).2 hdue, fun other hother => honly other ((hiff other).1 hother)⟩
    · intro event hother
      exact f.passwords_onEvent env ref hother
  · exact fun config logDir files steps => (guarded_run config logDir files steps).2

/-- Three characters are too few on the small machine, and four are enough. Blanks are passed over. -/
example :
    let f := Fleet.namedFleet "sv_hostname Other"
    let told := fun value =>
      (f.onEvent Fleet.namedSurroundings 0 (.credentialChanged .joinPassword value)).notices.drop
        f.notices.length
    told "     " = [] ∧
    told "abc" = [.error
      "Join Password change for 'Plain' on port 10 failed: Must be 4 or more characters!"] ∧
    told "abcd" =
      [.owner "al" "Join Password for 'Plain' on port 10 has been changed to: 'abcd'"] := by
  decide +kernel

end Traffic

end HostDaemon
