import HostDaemon.Proofs.Traffic.Fates
import HostDaemon.Proofs.Traffic.Restarts

/-! # Kills in any order

  Kills of a registered server, its lines, and the end of its process, in any order and number.

  - `Traffic.removals` lists what the attempts to take the server out of the registry answer, those
    of kills and that of its own supervisor: only the first finds it (`Traffic.Sound.removals_step`).
  - `Traffic.Noted` says that what is noted on the server tells of the kills so far.
  - `Traffic.reports` lists the reports of its end. There is at most one.
  - `Traffic.kills_of_run` is the result for every run. -/

namespace HostDaemon

/-- A supervisor in this phase has not reported the end of its server. -/
def SupervisorPhase.isBeforeReport : SupervisorPhase → Bool
  | .reading | .ended => true
  | .reported | .removed | .restarting _ | .done => false

namespace Life

variable {most : UInt32} {l l' : Life}

/-- A server that runs and is not registered is never registered again. -/
theorem Next.unregistered (h : Next most l l')
    (hl : l.standing.isRunning = true ∧ l.keys = []) :
    l'.standing.isRunning = true ∧ l'.keys = [] := by
  obtain ⟨hrunning, hkeys⟩ := hl
  cases h with
  | tellPort _ _ hsilent | start _ hsilent | reject _ hsilent =>
    rw [hrunning] at hsilent
    cases hsilent
  | evict | remove => exact ⟨hrunning, rfl⟩
  | _ => exact ⟨hrunning, hkeys⟩

/-- An end that was reported stays reported. -/
theorem Next.isBeforeReport (h : Next most l l') (hl : l.watch.phase.isBeforeReport = false) :
    l'.watch.phase.isBeforeReport = false := by
  cases h with
  | close hphase | report hphase =>
    rw [hphase] at hl
    cases hl
  | remove | giveUp | restart | relaunched => rfl
  | _ => exact hl

end Life

namespace Fleet

variable {f : Fleet} {ref : ServerRef}

/-- Whoever is taken out of the registry is the only one that is. -/
theorem mem_servers_unregister (hcrew : f.Crew) (ref other : ServerRef) :
    other ∈ (f.unregister ref).2.registry.servers ↔
      other ∈ f.registry.servers ∧ other ≠ ref := by
  rw [unregister_snd hcrew.faithful hcrew.registered_lt, Registry.mem_servers_iff,
    Registry.mem_servers_iff]
  simp

/-- An attempt to take a server out of the registry. -/
theorem answered_unregister (hcrew : f.Crew) (ref : ServerRef) :
    Answered (decide (ref ∈ f.registry.servers))
      (decide (ref ∈ (f.unregister ref).2.registry.servers)) [(f.unregister ref).1] := by
  have hgone : ref ∉ (f.unregister ref).2.registry.servers :=
    fun hstill => ((mem_servers_unregister hcrew ref ref).1 hstill).2 rfl
  rw [unregister_fst hcrew.faithful hcrew.registered_lt, decide_eq_false hgone]
  exact .single _

/-- A server that is not registered is found under no port and is not listed. -/
theorem not_found_of_not_mem (hcrew : f.Crew) (hgone : ref ∉ f.registry.servers) :
    (∀ port s, f.lookup port ≠ some (ref, s)) ∧ ref ∉ f.all.map (·.1) := by
  constructor
  · intro port s hfound
    obtain ⟨found, hlookup, heq⟩ := Option.bind_eq_some_iff.1 hfound
    obtain ⟨s', -, heq⟩ := Option.map_eq_some_iff.1 heq
    cases heq
    exact hgone (Registry.mem_servers_iff.2 ⟨port, hcrew.faithful.lookup_eq_some_iff.1 hlookup⟩)
  · intro hmem
    obtain ⟨⟨_, s⟩, hall, rfl⟩ := List.mem_map.1 hmem
    exact hgone (mem_all_iff.1 hall).1

/-- The notices about the end of a server that has a port, where what is noted on it tells of some
    kills. -/
theorem exitNotices_of_tells {s : Server} {kills : List Bool} {now : Int64} (hport : s.port ≠ 0)
    (htells : s.fate.Tells kills) :
    exitNotices s now =
      if s.hidesStop then []
      else if kills = [] then crashNotices s now
      else stopNotices s now (decide (true ∈ kills)) := by
  have hkilled : s.isKilled = true ↔ kills ≠ [] := htells.isKilled
  have howner : s.isKilledByOwner = decide (true ∈ kills) := by
    rw [Bool.eq_iff_iff, decide_eq_true_iff]
    exact htells.isKilledByOwner
  rw [exitNotices_eq, if_pos hport, howner]
  by_cases hnone : kills = []
  · have halive : s.isKilled = false := by
      rw [← Bool.not_eq_true, hkilled, not_not]
      exact hnone
    simp [halive, hnone]
  · simp [hkilled.2 hnone, hnone]

/-- A server that was just launched was killed by nobody. -/
theorem fate?_launch (f : Fleet) (env : Surroundings) (spec : LaunchSpec) (restarts : UInt32)
    (isRecovering : Bool) (port : UInt16) {m : Fate}
    (hm : (f.launch env spec restarts isRecovering port).2.fate? f.servers.length = some m) :
    m.Tells [] := by
  rcases f.launch_cases env spec restarts isRecovering port with
    ⟨e, files, hlaunch⟩ | ⟨files, logFile, log, hlaunch⟩
  · rw [hlaunch, fate?, server?, List.getElem?_eq_none (Nat.le_refl _)] at hm
    cases hm
  · rw [hlaunch] at hm
    simp only [fate?, adopt, addServer, enterLaunching, server?, List.getElem?_concat_length,
      Option.map_some, Option.some.injEq] at hm
    subst hm
    constructor <;> simp [Server.fate, Server.standing, Server.setPid, Server.create]

theorem fate?_relaunch (f : Fleet) (env : Surroundings) (s : Server) (port : UInt16) {m : Fate}
    (hm : (f.relaunch env s port).fate? f.servers.length = some m) : m.Tells [] := by
  rw [fate?_congr (f.servers_relaunch env s port)] at hm
  exact f.fate?_launch env _ _ _ _ hm

/-- The first startup line of a server fixes its port, and notes no kill. -/
theorem fate?_beginStart_self {m : Fate} (hm : f.fate? ref = some m) :
    ∃ m', (f.beginStart ref).fate? ref = some m' ∧
      m'.standing.isKilled = m.standing.isKilled ∧ m'.isKilledByOwner = m.isKilledByOwner := by
  have hsettle : ∃ m', (f.settlePort ref).fate? ref = some m' ∧
      m'.standing.isKilled = m.standing.isKilled ∧ m'.isKilledByOwner = m.isKilledByOwner := by
    unfold settlePort
    split
    next => exact ⟨m, hm, rfl, rfl⟩
    next v _ =>
      split
      next =>
        rw [fate?_update f ref _ (fun m => { m with standing := { m.standing with
          port := if m.standing.port = 0 then v.launchPort else m.standing.port } }) ?_ ref,
          if_pos rfl, hm]
        · exact ⟨_, rfl, rfl, rfl⟩
        · intro s
          by_cases hzero : s.port = 0 <;> simp [Server.fate, Server.standing, hzero]
      next => exact ⟨m, hm, rfl, rfl⟩
  obtain ⟨m', hm', hkilled, howner⟩ := hsettle
  rw [beginStart, fate?_update _ ref _ (fun m => { m with standing := { m.standing with
    isRunning := true } }) (fun _ => rfl) ref, if_pos rfl, hm']
  exact ⟨_, rfl, hkilled, howner⟩

/-! ### Lines of a server that runs -/

/-- An event of a server that runs notes nothing on it. -/
theorem fate?_onEvent_running (f : Fleet) (env : Surroundings) (event : ConsoleEvent) {m : Fate}
    (hm : f.fate? ref = some m) (hrunning : m.standing.isRunning = true) :
    (f.onEvent env ref event).fate? ref = some m := by
  cases event with
  | alternatePort port | bindRetry port =>
    rw [onEvent, fate?_tellPort, hm, Option.map_some, hrunning, if_pos rfl]
  | boundAddress address =>
    exact ((f.alike_update ref ({ · with address := some address }) fun _ => rfl).fate? ref).trans hm
  | initialized =>
    obtain ⟨s, hs, rfl⟩ := Option.map_eq_some_iff.1 hm
    have hrunning : s.isRunning = true := hrunning
    simp only [onEvent, hs, hrunning, if_true]
    exact hm
  | playerSeen name ip checkReputation =>
    exact ((f.alike_onPlayer ref ip checkReputation).fate? ref).trans hm
  | credentialChanged credential value =>
    exact ((f.alike_onCredential ref credential value).fate? ref).trans hm
  | activity => exact ((f.alike_update ref _ fun s => s.fate_touch env.now).fate? ref).trans hm

theorem fate?_onLine_running (f : Fleet) (env : Surroundings) (line : String) {m : Fate}
    (hm : f.fate? ref = some m) (hrunning : m.standing.isRunning = true) :
    (f.onLine env ref line).fate? ref = some m :=
  f.onLine_induction (P := fun f => f.fate? ref = some m) env ref line
    (((f.alike_logLine env ref line).fate? ref).trans hm)
    fun f event hm => f.fate?_onEvent_running env event hm hrunning

/-- Who finishes a start registers nobody. -/
@[simp] theorem registry_finishStart (f : Fleet) (ref : ServerRef) :
    (f.finishStart ref).registry = f.registry := by
  have hleave : (f.leaveLaunching ref).registry = f.registry := by
    unfold leaveLaunching
    split <;> rfl
  have hrelease : ∀ g : Fleet, (g.releaseClaim ref).registry = g.registry := by
    intro g
    unfold releaseClaim
    repeat' split
    all_goals rfl
  rw [finishStart, hrelease, (alike_announceStart _ ref).registry, hleave]

end Fleet

namespace Traffic

variable {t : Traffic} {ref : ServerRef} {l : Life}

/-! ### One removal -/

/-- What the attempts of an action to take a server out of the registry answer. -/
def removals (ref : ServerRef) (t : Traffic) (env : Surroundings) : Action → List Bool
  | .kill i =>
    match t.kills[i]? with
    | some k => if k.server = ref ∧ k.stage = .marked then [(t.fleet.unregister ref).1] else []
    | none => []
  | .supervise server =>
    if server = ref ∧ (t.fleet.supervisor? ref).any (·.phase = .reported) then
      [(t.fleet.unregister ref).1]
    else []
  | a => t.fleet.answers ref (t.calls env a)

/-- A server is registered where it stands in the registry. -/
theorem isRegistered_iff_mem : t.fleet.IsRegistered ref ↔ ref ∈ t.fleet.registry.servers :=
  Registry.mem_servers_iff.symm

/-- A server that runs is never registered again. -/
theorem Goes.registered_before {scope : Scope} {t' : Traffic} (h : Goes scope t t')
    (hl : t.life? ref = some l) (hrunning : l.standing.isRunning = true)
    (hregistered : ref ∈ t'.fleet.registry.servers) : ref ∈ t.fleet.registry.servers := by
  obtain ⟨l', hl', hpath, -⟩ := h.lives ref l hl
  rw [← isRegistered_iff_mem] at hregistered ⊢
  by_contra hnot
  rw [isRegistered_iff hl, not_not] at hnot
  -- Only a server that does not run yet is registered.
  have hkept := hpath.keeps (P := fun m => m.standing.isRunning = true ∧ m.keys = [])
    (fun _ _ hnext => hnext.unregistered) ⟨hrunning, hnot⟩
  exact (isRegistered_iff hl').1 hregistered hkept.2

/-- Where nobody takes it out of the registry a server that runs is registered or not as before. -/
theorem Sound.registered_step (h : t.Sound) {env : Surroundings} {a : Action}
    (hgoes : Goes (t.scope env a) t (t.step env a)) (hl : t.life? ref = some l)
    (hrunning : l.standing.isRunning = true) (hspared : ¬ t.Ends env a ref) :
    ref ∈ (t.step env a).fleet.registry.servers ↔ ref ∈ t.fleet.registry.servers := by
  refine ⟨hgoes.registered_before hl hrunning, ?_⟩
  rw [← isRegistered_iff_mem, ← isRegistered_iff_mem]
  rintro ⟨port, hentry⟩
  by_contra hnot
  exact hspared (h.ends_of_lost hgoes hentry fun hstill => hnot ⟨port, hstill⟩)

/-- Attempts to take a server that runs out of the registry: the first is told whether it is
    registered, and all others find it gone. -/
theorem Sound.removals_step (h : t.Sound) {env : Surroundings} {a : Action}
    (hgoes : Goes (t.scope env a) t (t.step env a)) (hl : t.life? ref = some l)
    (hrunning : l.standing.isRunning = true) :
    Fleet.Answered (decide (ref ∈ t.fleet.registry.servers))
      (decide (ref ∈ (t.step env a).fleet.registry.servers)) (t.removals ref env a) := by
  -- Where there is no attempt nothing happens to its entry.
  have hspared : ¬ t.Ends env a ref → t.removals ref env a = [] →
      Fleet.Answered (decide (ref ∈ t.fleet.registry.servers))
        (decide (ref ∈ (t.step env a).fleet.registry.servers)) (t.removals ref env a) := by
    intro hspared hnone
    rw [hnone, decide_eq_decide.2 (h.registered_step hgoes hl hrunning hspared)]
    exact .nil _
  have hcalls := fun ks => Fleet.answered_callAll h.crew ref ks
  cases a with
  | request r =>
    have hregistry : (t.step env (.request r)).fleet.registry =
        (t.fleet.callAll (t.fleet.calls env r)).registry := (t.alike_stepRequest env r).registry
    rw [hregistry]
    exact hcalls _
  | sweep =>
    have hregistry := (t.fleet.alike_sweepAfter t.fleet.config.host.cleanupIntervalDays
      env.now).registry
    change Fleet.Answered _ (decide (ref ∈ (t.fleet.sweepAfter _ env.now).2.registry.servers)) _
    rw [hregistry]
    exact hcalls _
  | shutdown =>
    change Fleet.Answered _ (decide (ref ∈ t.stepShutdown.fleet.registry.servers))
      (t.fleet.answers ref (t.calls env .shutdown))
    cases hstage : t.shutdown with
    | notBegun | listed | finished =>
      simp only [stepShutdown, calls, hstage]
      exact .nil _
    | killing refs =>
      cases refs with
      | nil =>
        simp only [stepShutdown, calls, hstage]
        exact .nil _
      | cons server rest =>
        simp only [stepShutdown, calls, hstage]
        exact hcalls [⟨server, false, true⟩]
  | kill i =>
    cases hk : t.kills[i]? with
    | none =>
      refine hspared ?_ (by simp [removals, hk])
      rintro ⟨k, hk', -⟩
      rw [hk] at hk'
      cases hk'
    | some k =>
      by_cases hmine : k.server = ref ∧ k.stage = .marked
      · have hstep : (t.step env (.kill i)).fleet = (t.fleet.unregister ref).2 := by
          change (t.stepKill i).fleet = _
          simp only [stepKill, hk, nextKillStage, hmine.2, hmine.1]
        rw [hstep]
        simp only [removals, hk, hmine, and_self, if_true]
        exact Fleet.answered_unregister h.crew ref
      · refine hspared ?_ (by simp [removals, hk, hmine])
        rintro ⟨k', hk', hserver, hmarked⟩
        rw [hk, Option.some.injEq] at hk'
        exact hmine (hk' ▸ ⟨hserver, hmarked⟩)
  | supervise server =>
    by_cases hmine : server = ref ∧ l.watch.phase = .reported
    · obtain ⟨rfl, hreported⟩ := hmine
      have hv := watch_of_life? hl
      obtain ⟨s, hs, -⟩ := standing_of_life? hl
      have hstep : (t.step env (.supervise server)).fleet.registry =
          (t.fleet.unregister server).2.registry := by
        simp only [h.step_supervise env hv (by simp [hreported]), Fleet.advance, hs, hv, hreported]
        rfl
      rw [hstep]
      simp only [removals, hv, Option.any_some, hreported, decide_true, and_self, if_true]
      exact Fleet.answered_unregister h.crew server
    · refine hspared ?_ ?_
      · rintro ⟨rfl, v, hv, hreported⟩
        rw [watch_of_life? hl, Option.some.injEq] at hv
        exact hmine ⟨rfl, hv ▸ hreported⟩
      · simp only [removals, watch_of_life? hl, Option.any_some, decide_eq_true_eq, hmine, if_false]
  | hosting | line | finishStart | processEnds | beginLookup | finishLookup | beginKill =>
    exact hspared (fun hfalse => hfalse) rfl

/-! ### What is noted before it is registered -/

/-- What is noted on a server that does not run yet, or that is registered, tells of some kills. One
    that was turned away runs and is not registered: that it was killed tells of no kill. -/
def Noted (ref : ServerRef) (f : Fleet) (seen : List Bool) : Prop :=
  ∀ m, f.fate? ref = some m → (m.standing.isRunning = false ∨ ref ∈ f.registry.servers) →
    m.Tells seen

/-- What notes nothing and registers nobody leaves it so. -/
theorem Noted.congr {f f' : Fleet} {seen : List Bool} (h : Noted ref f seen)
    (hfate : f'.fate? ref = f.fate? ref)
    (hregistry : ref ∈ f'.registry.servers → ref ∈ f.registry.servers) : Noted ref f' seen :=
  fun m hm hcase => h m (hfate ▸ hm) (hcase.imp_right hregistry)

theorem Noted.alike {f f' : Fleet} {seen : List Bool} (h : Noted ref f seen)
    (halike : f.Alike f') : Noted ref f' seen :=
  h.congr (halike.fate? ref) fun hmem => halike.registry ▸ hmem

/-- The first startup line of a server notes no kill, unless the server is turned away. -/
theorem Sound.noted_start (h : t.Sound) (hl : t.life? ref = some l)
    (hphase : l.watch.phase = .reading) (hsilent : l.standing.isRunning = false)
    {seen : List Bool} (hnoted : Noted ref t.fleet seen) :
    (∀ f, (t.fleet.beginStart ref).register ref = .ok f → Noted ref f seen) ∧
      ∀ e, (t.fleet.beginStart ref).register ref = .error e →
        Noted ref ((t.fleet.beginStart ref).rejectStart ref e) seen := by
  obtain ⟨m, hm, hstanding⟩ := fate?_of_life? hl
  have htells : m.Tells seen := hnoted m hm (Or.inl (hstanding ▸ hsilent))
  constructor
  · intro f hregister m' hm' _
    obtain ⟨m'', hm'', hkilled, howner⟩ := Fleet.fate?_beginStart_self hm
    rw [Fleet.fate?_congr (Fleet.servers_register hregister), hm'', Option.some.injEq] at hm'
    subst hm'
    exact ⟨hkilled ▸ htells.isKilled, howner ▸ htells.isKilledByOwner⟩
  · intro e hregister m' hm' hcase
    rcases h.start_cases hl hphase hsilent with ⟨f, hok, -, -⟩ | ⟨e', move, herror, hmoves, hmove⟩
    · rw [hregister] at hok
      cases hok
    · rw [hregister, Except.error.injEq] at herror
      subst herror
      -- From here on it runs, and is registered nowhere.
      have hkeys := (h.ok ref l hl).keys_of_silent hsilent
      have hgone := (hmove l).1.keeps
        (P := fun m => m.standing.isRunning = true ∧ m.keys = [])
        (fun _ _ hnext => hnext.unregistered) ⟨rfl, hkeys⟩
      have hl' : life? { t with fleet := (t.fleet.beginStart ref).rejectStart ref e } ref =
          some (move l) := by
        have hlives := hmoves.lives (t.starting.contains ref) (t.isOusted ref)
        exact (congrFun hlives ref).trans (by rw [Life.moveAt, if_pos rfl, ← life?, hl]; rfl)
      obtain ⟨m'', hm'', hsame⟩ := fate?_of_life? hl'
      rw [hm', Option.some.injEq] at hm''
      subst hm''
      rcases hcase with hsilent' | hmem
      · rw [hsame, hgone.1] at hsilent'
        cases hsilent'
      · exact absurd hgone.2 ((isRegistered_iff hl').1 (isRegistered_iff_mem.2 hmem))

/-- An event of a server notes no kill, unless the server is turned away. -/
theorem Sound.noted_event (h : t.Sound) (hl : t.life? ref = some l)
    (hphase : l.watch.phase = .reading) (env : Surroundings) (event : ConsoleEvent)
    {seen : List Bool} (hnoted : Noted ref t.fleet seen) :
    Noted ref (t.fleet.onEvent env ref event) seen := by
  cases event with
  | alternatePort port | bindRetry port =>
    intro m' hm' hcase
    rw [Fleet.onEvent, Fleet.fate?_tellPort] at hm'
    obtain ⟨m, hm, rfl⟩ := Option.map_eq_some_iff.1 hm'
    have hrunning : (if m.standing.isRunning then m else m.tell port).standing.isRunning =
        m.standing.isRunning := by split <;> rfl
    rw [hrunning] at hcase
    have htells := hnoted m hm hcase
    split
    · exact htells
    · exact ⟨htells.isKilled, htells.isKilledByOwner⟩
  | boundAddress address =>
    exact hnoted.alike (t.fleet.alike_update ref ({ · with address := some address }) fun _ => rfl)
  | initialized =>
    obtain ⟨s, hs, hstanding⟩ := standing_of_life? hl
    simp only [Fleet.onEvent, hs]
    split
    next => exact hnoted
    next hnot =>
      have hsilent : l.standing.isRunning = false := by
        rw [← hstanding]
        simpa [Server.standing] using hnot
      obtain ⟨hok, herror⟩ := h.noted_start hl hphase hsilent hnoted
      unfold Fleet.onStarted
      simp only
      split
      next f hregister =>
        exact (hok f hregister).congr (Fleet.fate?_finishStart _ ref ref) fun hmem => by
          rwa [Fleet.registry_finishStart] at hmem
      next e hregister => exact herror e hregister
  | playerSeen name ip checkReputation =>
    exact hnoted.alike (t.fleet.alike_onPlayer ref ip checkReputation)
  | credentialChanged credential value =>
    exact hnoted.alike (t.fleet.alike_onCredential ref credential value)
  | activity =>
    exact hnoted.alike
      (t.fleet.alike_update ref (·.touch env.now) fun s => s.fate_touch env.now)

/-- A line of a server notes no kill, unless the server is turned away. -/
theorem Sound.noted_line (h : t.Sound) (env : Surroundings) (text : String) {seen : List Bool}
    (hnoted : Noted ref t.fleet seen) : Noted ref (t.stepLine env ref text).fleet seen := by
  unfold stepLine
  split
  next => exact hnoted
  next hreads =>
    obtain ⟨l, hl, hreading⟩ := (isReading_iff h.crew).1 (by simpa using hreads)
    -- The line is logged first.
    have halike := t.fleet.alike_logLine env ref text
    have hlogged : Follows (t.scope env .sweep) t { t with fleet := t.fleet.logLine env ref text } :=
      Follows.of_alike h halike
    have hl' : life? { t with fleet := t.fleet.logLine env ref text } ref = some l :=
      (halike.life? (t.starting.contains ref) (t.isOusted ref) ref).trans hl
    have hnoted' := hnoted.alike halike
    have hsound' := h.follows_fleet hlogged
    split
    next hstarts =>
      obtain ⟨hok, herror⟩ :=
        hsound'.noted_start hl' hreading.1 (silent_of_startsNow hl hstarts) hnoted'
      unfold register
      split
      next f hregister => exact hok f hregister
      next e hregister => exact herror e hregister
    next =>
      refine (t.fleet.onLine_induction (P := fun f => Noted ref f seen ∧ Sound { t with fleet := f } ∧
        ∃ l', life? { t with fleet := f } ref = some l' ∧ l'.IsReading) env ref text
        ⟨hnoted', hsound', l, hl', hreading⟩ ?_).1
      rintro f event ⟨hnoted, hsound, l', hl', hreading'⟩
      obtain ⟨hfollows, hlater⟩ : Follows (t.scope env .sweep) { t with fleet := f } _ ∧ _ :=
        hsound.follows_event hl' hreading' env event
      exact ⟨hsound.noted_event hl' hreading'.1 env event hnoted, hsound.follows_fleet hfollows,
        hlater⟩

/-- Nobody has killed a server that was just launched. -/
theorem Sound.tells_of_new (h : t.Sound) {env : Surroundings} {a : Action}
    (hgoes : Goes (t.scope env a) t (t.step env a)) (hnew : t.fleet.servers.length ≤ ref) {m : Fate}
    (hm : (t.step env a).fleet.fate? ref = some m) : m.Tells [] := by
  obtain ⟨s, hs, rfl⟩ := Option.map_eq_some_iff.1 hm
  obtain ⟨l', hl', -⟩ := life_of_server? hgoes.sound.crew hs
  obtain ⟨rfl, n, v, -, hbegets⟩ := hgoes.born_of_new hl' hnew
  cases hbegets with
  | hosted hhosts =>
    obtain ⟨i, rfl⟩ := hhosts
    change (t.stepHosting env i).fleet.fate? _ = _ at hm
    rcases t.fleet_stepHosting env i with
      ⟨pending, ports, hstill⟩ | ⟨spec, isRecovering, port, hlaunch⟩
    · -- Where nothing is launched nobody is new.
      rw [hstill, Fleet.fate?, Fleet.server?, List.getElem?_eq_none (Nat.le_refl _)] at hm
      cases hm
    · rw [hlaunch] at hm
      exact t.fleet.fate?_launch env spec 0 isRecovering port hm
  | @relaunched server l v hadvances hl hphase =>
    obtain rfl : a = .supervise server := hadvances
    obtain ⟨p, hp, -⟩ := standing_of_life? hl
    have hv := watch_of_life? hl
    simp only [h.step_supervise env hv (by simp [hphase]), Fleet.advance, hp, hv, hphase] at hm
    rw [Fleet.fate?_setPhase] at hm
    exact t.fleet.fate?_relaunch env p _ hm

/-- Every step keeps it so that what is noted on a server tells of the kills until then. -/
theorem Sound.noted_step (h : t.Sound) {env : Surroundings} {a : Action}
    (hgoes : Goes (t.scope env a) t (t.step env a)) {seen : List Bool}
    (hearly : t.fleet.servers.length ≤ ref → seen = []) (hnoted : Noted ref t.fleet seen) :
    Noted ref (t.step env a).fleet (seen ++ t.flags ref env a) := by
  by_cases hold : ref < t.fleet.servers.length
  · by_cases hline : ∃ text, a = .line ref text
    · obtain ⟨text, rfl⟩ := hline
      have hnone : t.flags ref env (.line ref text) = [] := ite_self _
      rw [hnone, List.append_nil]
      exact h.noted_line env text hnoted
    · obtain ⟨l, hl⟩ := exists_life h.crew hold
      obtain ⟨m, hm, hstanding⟩ := fate?_of_life? hl
      intro m' hm' hcase
      rw [fate?_step t env a hold fun text heq => hline ⟨text, heq⟩, hm, Option.map_some,
        Option.some.injEq] at hm'
      subst hm'
      refine (hnoted m hm ?_).markAll _
      -- A server that runs and is registered now was registered before.
      cases hrunning : m.standing.isRunning with
      | false => exact Or.inl rfl
      | true =>
        rw [Fate.isRunning_markAll, hrunning] at hcase
        exact Or.inr (hgoes.registered_before hl (hstanding ▸ hrunning)
          (hcase.resolve_left Bool.noConfusion))
  · have hnew := Nat.le_of_not_lt hold
    rw [flags, if_neg hold, hearly hnew]
    exact fun m hm _ => h.tells_of_new hgoes hnew hm

/-! ### What is noted while it runs -/

/-- What a step notes on a server that runs are its kills. -/
theorem fate?_step_running (t : Traffic) (env : Surroundings) (a : Action)
    (hold : ref < t.fleet.servers.length) {m : Fate} (hm : t.fleet.fate? ref = some m)
    (hrunning : m.standing.isRunning = true) :
    (t.step env a).fleet.fate? ref = some (m.markAll (t.flags ref env a)) := by
  by_cases hline : ∃ text, a = .line ref text
  · obtain ⟨text, rfl⟩ := hline
    have hnone : t.flags ref env (.line ref text) = [] := ite_self _
    rw [hnone]
    change (t.stepLine env ref text).fleet.fate? ref = some m
    obtain ⟨s, hs, hfate⟩ := Option.map_eq_some_iff.1 hm
    have hrunning' : s.isRunning = true := by
      rw [← hfate] at hrunning
      exact hrunning
    have hnot : startsNow t.fleet ref (ConsoleLine.recognize text) = false := by
      simp [startsNow, hs, hrunning']
    unfold stepLine
    rw [hnot]
    split
    · exact hm
    · exact t.fleet.fate?_onLine_running env text hm hrunning
  · rw [fate?_step t env a hold fun text heq => hline ⟨text, heq⟩, hm, Option.map_some]

/-- A server that runs goes on running, what is noted on it tells of the kills until then, and it is
    taken out of the registry once. -/
theorem Sound.run_running (h : t.Sound) {steps : List (Surroundings × Action)}
    (hfresh : t.Fresh steps) {m : Fate} (hm : t.fleet.fate? ref = some m)
    (hrunning : m.standing.isRunning = true) {seen : List Bool} (htells : m.Tells seen) :
    (∃ m', (t.run steps).fleet.fate? ref = some m' ∧ m'.standing.isRunning = true ∧
      m'.Tells (seen ++ collect (flags ref) t steps)) ∧
    Fleet.Answered (decide (ref ∈ t.fleet.registry.servers))
      (decide (ref ∈ (t.run steps).fleet.registry.servers)) (collect (removals ref) t steps) := by
  have hstep : ∀ (t : Traffic) (env : Surroundings) (a : Action), t.Sound → ∀ m : Fate,
      t.fleet.fate? ref = some m → m.standing.isRunning = true →
      (t.step env a).fleet.fate? ref = some (m.markAll (t.flags ref env a)) ∧
        (m.markAll (t.flags ref env a)).standing.isRunning = true := by
    intro t env a hsound m hm hrunning
    obtain ⟨l, hl, -⟩ := life_of_fate? hsound.crew hm
    refine ⟨t.fate?_step_running env a (lt_of_life? hsound.crew hl) hm hrunning, ?_⟩
    rw [Fate.isRunning_markAll, hrunning]
  constructor
  · refine h.run_collects (flags ref) (P := fun t seen => ∃ m,
      t.fleet.fate? ref = some m ∧ m.standing.isRunning = true ∧ m.Tells seen)
      ⟨m, hm, hrunning, htells⟩ hfresh ?_
    rintro t seen env a hsound - ⟨m, hm, hrunning, htells⟩
    obtain ⟨hm', hrunning'⟩ := hstep t env a hsound m hm hrunning
    exact ⟨_, hm', hrunning', htells.markAll _⟩
  · refine (h.run_collects (removals ref) (P := fun t' answers =>
      (∃ m, t'.fleet.fate? ref = some m ∧ m.standing.isRunning = true) ∧
        Fleet.Answered (decide (ref ∈ t.fleet.registry.servers))
          (decide (ref ∈ t'.fleet.registry.servers)) answers)
      ⟨⟨m, hm, hrunning⟩, .nil _⟩ hfresh ?_).2
    rintro t' answers env a hsound hgoes ⟨⟨m, hm, hrunning⟩, hanswered⟩
    obtain ⟨hm', hrunning'⟩ := hstep t' env a hsound m hm hrunning
    obtain ⟨l, hl, hstanding⟩ := life_of_fate? hsound.crew hm
    exact ⟨⟨_, hm', hrunning'⟩,
      hanswered.append (hsound.removals_step hgoes hl (hstanding ▸ hrunning))⟩

/-! ### One report -/

/-- The reports of the end of a server: what the supervisor that reports it gives notice of. -/
def reports (ref : ServerRef) (t : Traffic) (env : Surroundings) : Action → List (List Notice)
  | .supervise server =>
    if server = ref ∧ (t.fleet.supervisor? ref).any (·.phase = .ended) then
      [(t.step env (.supervise ref)).fleet.notices.drop t.fleet.notices.length]
    else []
  | _ => []

/-- The end of a server is reported once, and not again after that. -/
theorem Sound.reports_step (h : t.Sound) {env : Surroundings} {a : Action}
    (hgoes : Goes (t.scope env a) t (t.step env a)) {seen : List (List Notice)}
    (hseen : seen.length ≤ 1)
    (hbeyond : seen ≠ [] → ∃ l, t.life? ref = some l ∧ l.watch.phase.isBeforeReport = false) :
    (seen ++ t.reports ref env a).length ≤ 1 ∧
      (seen ++ t.reports ref env a ≠ [] →
        ∃ l, (t.step env a).life? ref = some l ∧ l.watch.phase.isBeforeReport = false) := by
  by_cases hreports : a = .supervise ref ∧ (t.fleet.supervisor? ref).any (·.phase = .ended) = true
  · obtain ⟨rfl, hended⟩ := hreports
    obtain ⟨v, hv, hphase⟩ := (Option.any_eq_true _ _).1 hended
    rw [decide_eq_true_eq] at hphase
    obtain ⟨l, hl, rfl⟩ := life_of_supervisor? h.crew hv
    -- Nothing was reported until now.
    have hnone : seen = [] := by
      by_contra hsome
      obtain ⟨l', hl', hbefore⟩ := hbeyond hsome
      rw [hl, Option.some.injEq] at hl'
      subst hl'
      rw [hphase] at hbefore
      cases hbefore
    obtain ⟨s, hs, -⟩ := standing_of_life? hl
    obtain ⟨l', hl', -⟩ := hgoes.lives ref l hl
    have hnext : l'.watch.phase = .reported := by
      have hv' := watch_of_life? hl'
      simp only [h.step_supervise env hv (by simp [hphase]), Fleet.advance, hs, hv, hphase] at hv'
      exact phase_setPhase hv'
    refine ⟨?_, fun _ => ⟨l', hl', by rw [hnext]; rfl⟩⟩
    simp [hnone, reports, hended]
  · have hnone : t.reports ref env a = [] := by
      cases a with
      | supervise server =>
        refine if_neg ?_
        rintro ⟨rfl, hended⟩
        exact hreports ⟨rfl, hended⟩
      | _ => rfl
    rw [hnone, List.append_nil]
    refine ⟨hseen, fun hsome => ?_⟩
    obtain ⟨l, hl, hbefore⟩ := hbeyond hsome
    obtain ⟨l', hl', hpath, -⟩ := hgoes.lives ref l hl
    exact ⟨l', hl', hpath.keeps (P := fun m => m.watch.phase.isBeforeReport = false)
      (fun _ _ hnext => hnext.isBeforeReport) hbefore⟩

/-! ### Over whole runs -/

section

variable {config : Config} {logDir : Path} {files : FileSystem} (hmin : 0 < config.host.minPort)

include hmin

/-- What is noted on a server after a run tells of the kills in it. -/
theorem noted_run {steps : List (Surroundings × Action)} (hdrawn : (drawn steps).Nodup) :
    let start := Traffic.start (.start config logDir files)
    Noted ref (start.run steps).fleet (collect (flags ref) start steps) := by
  refine (collects_run logDir files hmin (flags ref)
    (P := fun t seen => (t.fleet.servers.length ≤ ref → seen = []) ∧ Noted ref t.fleet seen)
    ⟨fun _ => rfl, fun m hm => by cases hm⟩ hdrawn ?_).2
  rintro t seen env a hsound hgoes ⟨hearly, hnoted⟩
  refine ⟨fun hnew => ?_, hsound.noted_step hgoes hearly hnoted⟩
  have hbefore := Nat.le_trans hgoes.length_le hnew
  rw [hearly hbefore, flags, if_neg (Nat.not_lt.2 hbefore)]
  rfl

/-- The end of a server is reported once at most. -/
theorem length_reports_le {steps : List (Surroundings × Action)} (hdrawn : (drawn steps).Nodup) :
    (collect (reports ref) (Traffic.start (.start config logDir files)) steps).length ≤ 1 := by
  refine (collects_run logDir files hmin (reports ref)
    (P := fun t seen => seen.length ≤ 1 ∧ (seen ≠ [] →
      ∃ l, t.life? ref = some l ∧ l.watch.phase.isBeforeReport = false))
    ⟨Nat.zero_le _, fun hsome => absurd rfl hsome⟩ hdrawn ?_).1
  exact fun t seen env a hsound hgoes hkept => hsound.reports_step hgoes hkept.1 hkept.2

/-- A server that was killed before its supervisor has decided is not launched again. -/
theorem isNewest_run {before after : List (Surroundings × Action)}
    (hdrawn : (drawn (before ++ after)).Nodup)
    (hl : ((Traffic.start (.start config logDir files)).run before).life? ref = some l)
    (hkilled : l.standing.isKilled = true) (hgoes : l.watch.phase ≠ .done)
    (hundecided : ∀ port, l.watch.phase ≠ .restarting port) :
    ((Traffic.start (.start config logDir files)).run (before ++ after)).fleet.IsNewest ref := by
  have hsound := sound_run logDir files hmin (nodup_drawn_left hdrawn)
  rw [run_append]
  refine (hsound.run_keeps (P := fun t => t.fleet.IsNewest ref ∧ ∃ l, t.life? ref = some l ∧
      l.standing.isKilled = true ∧ ∀ port, l.watch.phase ≠ .restarting port)
    ⟨hsound.isNewest hl hgoes, l, hl, hkilled, hundecided⟩ (fresh_run logDir files hmin hdrawn)
    ?_).2.1
  rintro t env a - hsound hgoes ⟨hnewest, l, hl, hkilled, hundecided⟩
  obtain ⟨l', hl', hpath, -⟩ := hgoes.lives ref l hl
  refine ⟨hsound.isNewest_step hgoes hl hnewest hundecided, l', hl', hpath.isKilled hkilled,
    hgoes.undecided_step hl hl' hundecided ?_⟩
  intro _ s hs
  obtain ⟨s', hs', hstanding⟩ := standing_of_life? hl
  rw [hs, Option.some.injEq] at hs'
  subst hs'
  have hkilled' : s.isKilled = true := (congrArg Standing.isKilled hstanding).trans hkilled
  simp [Fleet.wantsRestart, hkilled']

end

/-- A server that is registered after some part of a run, and what comes of it after any further
    steps, in which it may be killed as often as you like while it prints lines and ends.

    As long as it is registered there was no attempt to take it out of the registry. Of all attempts
    only the first finds it, and from then on it is nowhere to be found; that of its own supervisor
    is one of them. Its end is reported once at most. The report gives no notice where somebody has
    asked for that; it says that the server crashed where nobody has killed it, and otherwise that it
    was stopped, to the moderators as well where none of those who killed it was its owner. Where it
    was killed before the report it is never launched again. -/
theorem kills_of_run (config : Config) (logDir : Path) (files : FileSystem)
    (hmin : 0 < config.host.minPort) (before after : List (Surroundings × Action))
    (hdrawn : (drawn (before ++ after)).Nodup) (ref : ServerRef)
    (hregistered : ((Traffic.start (.start config logDir files)).run before).fleet.IsRegistered ref) :
    let start := Traffic.start (.start config logDir files)
    let t := start.run (before ++ after)
    let kills := collect (flags ref) start (before ++ after)
    let removed := collect (removals ref) (start.run before) after
    (t.fleet.IsRegistered ref ∧ removed = [] ∨
      ¬ t.fleet.IsRegistered ref ∧ ∃ n, removed = true :: List.replicate n false) ∧
    (¬ t.fleet.IsRegistered ref →
      (∀ port s, t.fleet.lookup port ≠ some (ref, s)) ∧ ref ∉ t.fleet.all.map (·.1)) ∧
    (collect (reports ref) start (before ++ after)).length ≤ 1 ∧
    ∃ s v, t.fleet.server? ref = some s ∧ t.fleet.supervisor? ref = some v ∧
      (v.phase.isBeforeRemoval = false → ¬ t.fleet.IsRegistered ref) ∧
      (v.phase = .ended → ∀ env,
        (t.step env (.supervise ref)).fleet.notices = t.fleet.notices ++
          if s.hidesStop then []
          else if kills = [] then Fleet.crashNotices s env.now
          else Fleet.stopNotices s env.now (decide (true ∈ kills))) ∧
      (v.phase.isBeforeReport = true → kills ≠ [] → ∀ later,
        (drawn (before ++ after ++ later)).Nodup →
        (start.run (before ++ after ++ later)).fleet.IsNewest ref) := by
  intro start t kills removed
  have hbefore := nodup_drawn_left hdrawn
  have hsound₀ : (start.run before).Sound := sound_run logDir files hmin hbefore
  have hsound : t.Sound := sound_run logDir files hmin hdrawn
  have ht : t = (start.run before).run after := run_append start before after
  -- A server that is registered runs, and what is noted on it tells of the kills until then.
  obtain ⟨port, hentry⟩ := hregistered
  obtain ⟨s₀, hs₀, -, -, hrunning₀⟩ := hsound₀.entry hentry
  have hfate₀ : (start.run before).fleet.fate? ref = some s₀.fate := by
    rw [Fleet.fate?, hs₀, Option.map_some]
  have hmem₀ : ref ∈ (start.run before).fleet.registry.servers :=
    Registry.mem_servers_iff.2 ⟨port, hentry⟩
  have htells₀ := noted_run hmin hbefore s₀.fate hfate₀ (Or.inr hmem₀)
  obtain ⟨⟨m, hm, hrunning, htells⟩, hanswered⟩ := hsound₀.run_running
    (fresh_run logDir files hmin hdrawn) hfate₀ hrunning₀ htells₀
  rw [← collect_append] at htells
  rw [← ht] at hm hanswered
  rw [decide_eq_true hmem₀] at hanswered
  -- So it is after all further steps.
  obtain ⟨s, hs, rfl⟩ := Option.map_eq_some_iff.1 hm
  obtain ⟨l, hl, hstanding⟩ := life_of_server? hsound.crew hs
  have hv := watch_of_life? hl
  refine ⟨?_, ?_, length_reports_le hmin hdrawn, s, l.watch, hs, hv, ?_, ?_, ?_⟩
  · rcases hanswered with ⟨hnone, hstill⟩ | ⟨n, hsome, hgone⟩
    · exact Or.inl ⟨isRegistered_iff_mem.2 (of_decide_eq_true hstill), hnone⟩
    · refine Or.inr ⟨fun hregistered => ?_, n, hsome⟩
      exact of_decide_eq_false hgone (isRegistered_iff_mem.1 hregistered)
  · intro hgone
    rw [isRegistered_iff_mem] at hgone
    exact Fleet.not_found_of_not_mem hsound.crew hgone
  · intro hremoved hregistered
    have hbefore := ((hsound.ok ref l hl).of_key ((isRegistered_iff hl).1 hregistered)).2
    rw [hremoved] at hbefore
    cases hbefore
  · intro hended env
    have hport : s.port ≠ 0 := by
      have hok := (hsound.ok ref l hl).port_ne (hstanding ▸ hrunning)
      rw [← hstanding] at hok
      exact hok
    rw [hsound.notices_report env hs hv hended, Fleet.exitNotices_of_tells hport htells]
  · intro hunreported hsome later hlater
    refine isNewest_run hmin hlater hl ?_ ?_ ?_
    · rw [← hstanding]
      exact htells.isKilled.2 hsome
    · intro hdone
      rw [hdone] at hunreported
      cases hunreported
    · intro port hrestarting
      rw [hrestarting] at hunreported
      cases hunreported

/-- On the small machine a server that was registered in the first eleven steps is killed three times
    at once: by a moderator, by its owner, and by somebody who only makes its process end. One of them
    finds it in the registry. It is reported as stopped to its owner alone, and is not launched again,
    though it asked for that. -/
theorem kills_of_small_run :
    let steps := smallSteps (smallHosting ++ [.line 0 "UDP Initialized.", .finishStart 0,
      .beginKill 0 (some false), .beginKill 0 (some true), .beginKill 0 none, .kill 0, .kill 1,
      .kill 1, .kill 0, .kill 2, .kill 2, .processEnds 0, .supervise 0])
    let t := (smallStart 1).run steps
    collect (removals 0) ((smallStart 1).run (steps.take 11)) (steps.drop 11) =
        [true, false, false] ∧
      ¬ t.fleet.IsRegistered 0 ∧
      (∃ s, t.fleet.server? 0 = some s ∧ s.spec.autoRestart = true ∧ ∀ env,
        (t.step env (.supervise 0)).fleet.notices =
          t.fleet.notices ++ Fleet.stopNotices s env.now true) ∧
      t.fleet.IsNewest 0 := by
  intro steps t
  obtain ⟨hentry, hremoved, hflags, hended, hauto⟩ :
      (10, 0) ∈ ((smallStart 1).run (steps.take 11)).fleet.registry.entries ∧
      collect (removals 0) ((smallStart 1).run (steps.take 11)) (steps.drop 11) =
        [true, false, false] ∧
      collect (flags 0) (smallStart 1) steps = [false, true] ∧
      (t.fleet.supervisor? 0).map (·.phase) = some .ended ∧
      (t.fleet.server? 0).map (fun s => (s.spec.autoRestart, s.hidesStop)) = some (true, false) := by
    decide +kernel
  have hrun := kills_of_run (smallConfig 1) "/l" smallFiles (by decide) (steps.take 11)
    (steps.drop 11) (by decide +kernel) 0 ⟨10, hentry⟩
  simp only [List.take_append_drop] at hrun
  obtain ⟨hregistry, -, -, s, v, hs, hv, -, hreport, hnewest⟩ := hrun
  change t.fleet.server? 0 = some s at hs
  change t.fleet.supervisor? 0 = some v at hv
  rw [hs, Option.map_some, Option.some.injEq, Prod.mk.injEq] at hauto
  rw [hv, Option.map_some, Option.some.injEq] at hended
  change collect (flags 0) (Traffic.start (.start (smallConfig 1) "/l" smallFiles)) steps = _ at hflags
  rw [hflags] at hreport hnewest
  refine ⟨hremoved, ?_, ⟨s, hs, hauto.1, ?_⟩, ?_⟩
  · rcases hregistry with ⟨-, hnone⟩ | ⟨hgone, -⟩
    · change collect (removals 0) ((smallStart 1).run (steps.take 11)) (steps.drop 11) = [] at hnone
      rw [hremoved] at hnone
      cases hnone
    · exact hgone
  · intro env
    have hnotices := hreport hended env
    rw [hauto.2] at hnotices
    exact hnotices
  · have hlast := hnewest (by rw [hended]; rfl) (List.cons_ne_nil _ _) []
    rw [List.append_nil] at hlast
    exact hlast (by decide +kernel)

end Traffic

end HostDaemon
