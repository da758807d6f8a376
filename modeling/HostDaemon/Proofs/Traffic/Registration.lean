import HostDaemon.Proofs.Traffic.Runs

/-! # Who is registered

  The registry over whole runs, for any number of servers, lines, kills, ends and launches after
  an end, in any order.

  - A registered server runs, under its own port and no other, and a port has one server.
  - A live server that is not being killed is launching or registered. It is both only while its
    supervisor is in the middle of handling its startup line.
  - An entry goes only with a kill of its own server, or with this server's own end. -/

namespace HostDaemon

/-- Is a server registered, under whatever port? -/
def Fleet.IsRegistered (f : Fleet) (ref : ServerRef) : Prop :=
  ∃ port, (port, ref) ∈ f.registry.entries

namespace Traffic

/-- A server is live from the launch of its process until the end of the process is noticed. -/
def IsLive (t : Traffic) (ref : ServerRef) : Prop :=
  ∃ v, t.fleet.supervisor? ref = some v ∧ v.phase = .reading

/-- The server was killed on purpose. -/
def IsMarked (t : Traffic) (ref : ServerRef) : Prop :=
  ∃ s, t.fleet.server? ref = some s ∧ s.isKilled = true

variable {t : Traffic} {ref : ServerRef} {l : Life}

/-! ### The registry and the lives of servers -/

theorem mem_keys_iff (hl : t.life? ref = some l) {port : UInt16} :
    port ∈ l.keys ↔ (port, ref) ∈ t.fleet.registry.entries := by
  obtain ⟨s, v, -, -, rfl⟩ := life?_eq_some_iff.1 hl
  exact Registry.mem_keysOf_iff

theorem isLaunching_of_life? (hl : t.life? ref = some l) :
    l.isLaunching = t.fleet.isLaunching ref := by
  obtain ⟨s, v, -, -, rfl⟩ := life?_eq_some_iff.1 hl
  rfl

theorem isRegistered_iff (hl : t.life? ref = some l) :
    t.fleet.IsRegistered ref ↔ l.keys ≠ [] := by
  constructor
  · rintro ⟨port, hentry⟩
    exact List.ne_nil_of_mem ((mem_keys_iff hl).2 hentry)
  · intro hkeys
    obtain ⟨port, hkey⟩ := List.exists_mem_of_ne_nil l.keys hkeys
    exact ⟨port, (mem_keys_iff hl).1 hkey⟩

/-- Every entry is that of a server, with all that is known of it. -/
theorem Sound.life_of_entry (h : t.Sound) {port : UInt16}
    (hentry : (port, ref) ∈ t.fleet.registry.entries) :
    ∃ l, t.life? ref = some l ∧ port ∈ l.keys ∧ l.Ok t.most := by
  obtain ⟨l, hl⟩ := exists_life h.crew (h.crew.registered_lt _ hentry)
  exact ⟨l, hl, (mem_keys_iff hl).2 hentry, h.ok ref l hl⟩

/-- A registered server runs, and is registered under its port, which is a real one. -/
theorem Sound.entry (h : t.Sound) {port : UInt16}
    (hentry : (port, ref) ∈ t.fleet.registry.entries) :
    ∃ s, t.fleet.server? ref = some s ∧ port = s.port ∧ port ≠ 0 ∧ s.isRunning = true := by
  obtain ⟨l, hl, hkey, hok⟩ := h.life_of_entry hentry
  obtain ⟨s, hs, hstanding⟩ := standing_of_life? hl
  -- Its entry is the only one of its server.
  have hkeys : l.keys = [l.standing.port] := by
    rcases hok.keys_eq with hnone | hkeys
    · rw [hnone] at hkey
      cases hkey
    · exact hkeys
  have hrunning := (hok.of_key (List.ne_nil_of_mem hkey)).1
  have hport : port = l.standing.port := by
    rw [hkeys, List.mem_singleton] at hkey
    exact hkey
  refine ⟨s, hs, ?_, ?_, ?_⟩
  · rw [hport, ← hstanding]
    rfl
  · rw [hport]
    exact hok.port_ne hrunning
  · rw [← hstanding] at hrunning
    exact hrunning

/-- No server has two ports, and no port has two servers. -/
theorem Sound.entry_unique (h : t.Sound) {port port' : UInt16} {ref' : ServerRef}
    (hentry : (port, ref) ∈ t.fleet.registry.entries)
    (hentry' : (port', ref') ∈ t.fleet.registry.entries) : ref = ref' ↔ port = port' := by
  constructor
  · rintro rfl
    exact congrArg Prod.fst
      (List.inj_on_of_nodup_map h.crew.faithful.servers_nodup hentry hentry' rfl)
  · rintro rfl
    exact congrArg Prod.snd
      (List.inj_on_of_nodup_map h.crew.faithful.ports_nodup hentry hentry' rfl)

/-- A server that is launching and registered at once is in the middle of its start. -/
theorem Sound.starting_of_both (h : t.Sound) (hregistered : t.fleet.IsRegistered ref)
    (hlaunching : t.fleet.isLaunching ref = true) : ref ∈ t.starting := by
  obtain ⟨port, hentry⟩ := hregistered
  obtain ⟨l, hl, hkey, hok⟩ := h.life_of_entry hentry
  have hrunning := (hok.of_key (List.ne_nil_of_mem hkey)).1
  rw [← isLaunching_of_life? hl] at hlaunching
  rcases (hok.launching_iff.1 hlaunching).2 with hsilent | hstarting
  · rw [hrunning] at hsilent
    cases hsilent
  · rw [isStarting_of_life? hl] at hstarting
    simpa using hstarting

/-- A live server that nobody kills is launching or registered, and both only in the middle of its
    start. -/
theorem Sound.launching_or_registered (h : t.Sound) (hlive : t.IsLive ref)
    (hspared : ¬ t.IsMarked ref) (hkept : t.isOusted ref = false) :
    (t.fleet.isLaunching ref = true ∨ t.fleet.IsRegistered ref) ∧
      (t.fleet.isLaunching ref = true ∧ t.fleet.IsRegistered ref ↔ ref ∈ t.starting) := by
  obtain ⟨v, hv, hreading⟩ := hlive
  obtain ⟨l, hl, rfl⟩ := life_of_supervisor? h.crew hv
  have hok := h.ok ref l hl
  rw [← isOusted_of_life? hl] at hkept
  have halive : l.standing.isKilled = false := by
    by_contra hkilled
    obtain ⟨s, hs, hstanding⟩ := standing_of_life? hl
    rw [Bool.not_eq_false, ← hstanding] at hkilled
    exact hspared ⟨s, hs, hkilled⟩
  -- As soon as it runs it is registered.
  have hregistered : l.standing.isRunning = true → t.fleet.IsRegistered ref := by
    intro hrunning
    have hkeys := hok.registered hrunning (by rw [hreading]; rfl) halive hkept
    rw [isRegistered_iff hl, hkeys]
    exact List.cons_ne_nil _ _
  rw [← isLaunching_of_life? hl]
  constructor
  · cases hrunning : l.standing.isRunning with
    -- Until it runs it is launching, and then it is registered.
    | true => exact Or.inr (hregistered hrunning)
    | false => exact Or.inl (hok.launching_iff.2 ⟨hreading, Or.inl hrunning⟩)
  · constructor
    · rintro ⟨hlaunching, hregistered⟩
      rw [isLaunching_of_life? hl] at hlaunching
      exact h.starting_of_both hregistered hlaunching
    · intro hstarting
      have hidle : l.isStarting = true := by
        rw [isStarting_of_life? hl]
        simpa using hstarting
      exact ⟨hok.launching_iff.2 ⟨hreading, Or.inr hidle⟩,
        hregistered (hok.of_starting hidle).2⟩

/-- A step takes an entry out of the registry only where it ends the entry's own server. -/
theorem Sound.ends_of_lost (h : t.Sound) {t' : Traffic} {scope : Scope}
    (hgoes : Goes scope t t') {port : UInt16} (hentry : (port, ref) ∈ t.fleet.registry.entries)
    (hlost : (port, ref) ∉ t'.fleet.registry.entries) : scope.ends ref := by
  obtain ⟨l, hl, hkey, -⟩ := h.life_of_entry hentry
  obtain ⟨l', hl', -, hadmits⟩ := hgoes.lives ref l hl
  -- Either the step ends this server, or it keeps its entries.
  rcases hadmits.keys with hends | hkeys
  · exact hends
  · exact absurd ((mem_keys_iff hl').1 (hkeys port hkey)) hlost

/-! ### Over whole runs -/

/-- Whose process is made to end without a kill on purpose changes with the beginning of that
    alone. -/
theorem isOusted_step (env : Surroundings) (a : Action)
    (housted : (t.step env a).isOusted ref = true) :
    t.isOusted ref = true ∨ a = .beginKill ref none := by
  -- All other actions leave the list of kills as it is, or let one of them go on.
  have hsame : ∀ {t' : Traffic}, t'.kills = t.kills → t'.isOusted ref = true →
      t.isOusted ref = true ∨ a = .beginKill ref none := by
    intro t' hkills housted'
    rw [isOusted, hkills] at housted'
    exact Or.inl housted'
  cases a with
  | beginKill server byOwner =>
    change (t.beginKill server byOwner).isOusted ref = true at housted
    unfold beginKill at housted
    split at housted
    next =>
      simp only [isOusted, List.any_append, List.any_cons, List.any_nil, Bool.or_false,
        Bool.or_eq_true, Bool.and_eq_true, decide_eq_true_eq] at housted
      rcases housted with hold | ⟨rfl, hnone⟩
      · exact Or.inl hold
      · rw [Option.isNone_iff_eq_none] at hnone
        rw [hnone]
        exact Or.inr rfl
    next => exact Or.inl housted
  | kill i =>
    change (t.stepKill i).isOusted ref = true at housted
    unfold stepKill at housted
    cases hk : t.kills[i]? with
    | none =>
      simp only [hk] at housted
      exact Or.inl housted
    | some k =>
      simp only [hk] at housted
      rw [isOusted_set hk] at housted
      exact Or.inl housted
  | request r =>
    refine hsame ?_ housted
    cases r <;> rfl
  | hosting i =>
    refine hsame ?_ housted
    change (t.stepHosting env i).kills = _
    unfold stepHosting
    repeat' split
    all_goals rfl
  | line server text =>
    refine hsame ?_ housted
    change (t.stepLine env server text).kills = _
    unfold stepLine register
    repeat' split
    all_goals rfl
  | finishStart server =>
    refine hsame ?_ housted
    change (t.stepStart server).kills = _
    unfold stepStart
    split <;> rfl
  | supervise server =>
    refine hsame ?_ housted
    change (t.stepSupervisor env server).kills = _
    unfold stepSupervisor
    split <;> rfl
  | shutdown =>
    refine hsame ?_ housted
    change t.stepShutdown.kills = _
    unfold stepShutdown
    split <;> rfl
  | processEnds | beginLookup | finishLookup | sweep => exact hsame rfl housted

theorem isOusted_run (steps : List (Surroundings × Action))
    (housted : (t.run steps).isOusted ref = true) :
    t.isOusted ref = true ∨ .beginKill ref none ∈ steps.map (·.2) := by
  induction steps generalizing t with
  | nil => exact Or.inl housted
  | cons first steps ih =>
    obtain ⟨env, a⟩ := first
    rw [List.map_cons, List.mem_cons]
    rcases ih housted with hstep | hlater
    · rcases isOusted_step env a hstep with hbefore | hnow
      · exact Or.inl hbefore
      · exact Or.inr (Or.inl hnow.symm)
    · exact Or.inr (Or.inr hlater)

/-- The registry after every run in which no identifier is drawn twice, and in every step after
    it. That somebody makes a process end without killing its server on purpose is nothing that
    the daemon does by itself. -/
theorem registry_of_run (config : Config) (logDir : Path) (files : FileSystem)
    (hmin : 0 < config.host.minPort) (steps : List (Surroundings × Action)) (env : Surroundings)
    (a : Action) (hdrawn : (drawn (steps ++ [(env, a)])).Nodup) :
    let t := (Traffic.start (.start config logDir files)).run steps
    (∀ port ref, (port, ref) ∈ t.fleet.registry.entries →
      ∃ s, t.fleet.server? ref = some s ∧ port = s.port ∧ port ≠ 0 ∧ s.isRunning = true) ∧
    (∀ port ref port' ref', (port, ref) ∈ t.fleet.registry.entries →
      (port', ref') ∈ t.fleet.registry.entries → (ref = ref' ↔ port = port')) ∧
    (∀ ref, t.fleet.IsRegistered ref → t.fleet.isLaunching ref = true → ref ∈ t.starting) ∧
    (∀ ref, t.IsLive ref → ¬ t.IsMarked ref → .beginKill ref none ∉ steps.map (·.2) →
      (t.fleet.isLaunching ref = true ∨ t.fleet.IsRegistered ref) ∧
        (t.fleet.isLaunching ref = true ∧ t.fleet.IsRegistered ref ↔ ref ∈ t.starting)) ∧
    ∀ port ref, (port, ref) ∈ t.fleet.registry.entries →
      (port, ref) ∉ (t.step env a).fleet.registry.entries → t.Ends env a ref := by
  intro t
  have hsound : t.Sound := sound_run logDir files hmin (nodup_drawn_left hdrawn)
  refine ⟨?_, ?_, ?_, ?_, ?_⟩
  · exact fun port ref hentry => hsound.entry hentry
  · exact fun port ref port' ref' hentry hentry' => hsound.entry_unique hentry hentry'
  · exact fun ref hregistered hlaunching => hsound.starting_of_both hregistered hlaunching
  · intro ref hlive hspared hkept
    refine hsound.launching_or_registered hlive hspared ?_
    by_contra housted
    rw [Bool.not_eq_false] at housted
    rcases isOusted_run steps housted with hstart | hbegun
    · cases hstart
    · exact hkept hbegun
  · intro port ref hentry hlost
    exact hsound.ends_of_lost (goes_run logDir files hmin hdrawn) hentry hlost

/-! ### A small machine

  One account, one engine build and one main game file, for runs that can be computed. -/

/-- A configuration with ten ports, where servers are launched again a number of times. -/
def smallConfig (most : UInt32) : Config where
  host :=
    { minPort := 10, maxPort := 20, wadDir := "/w", iwadDir := "/i", configDir := "/c"
      banlistDir := "/b", whitelistDir := "/b", adminlistDir := "/b", logDir := none
      hostnameBase := "", extraWads := [], iwads := [], maxRestarts := most
      cleanupIntervalDays := 0, cleanupPeriodSecs := 0, defaultQuota := 1, strictOptions := true
      unknownGamemode := .reject, hostnameFallback := true, gameAddress := "h"
      passwordMinLength := 4 }
  service := ⟨"service", "s", "node"⟩
  reputation := ⟨false, "", "", 1⟩
  policy := ⟨[], [("al", .registered)], [], [], []⟩
  catalog := ⟨[⟨"3.1", "/e/zand", "", true, []⟩], ⟨"3.1", "/e/zand", "", true, []⟩, by simp⟩

/-- The files that a launch needs. -/
def smallFiles : FileSystem :=
  ⟨[(["e"], .directory), (["e", "zand"], .file [] true), (["i"], .directory),
    (["i", "doom2.wad"], .file [] false), (["b"], .directory), (["l"], .directory)]⟩

/-- Nothing goes on on the small machine. -/
def smallStart (most : UInt32) : Traffic := .start (.start (smallConfig most) "/l" smallFiles)

/-- The same surroundings all the time, but for the identifiers. -/
def smallSteps (actions : List Action) : List (Surroundings × Action) :=
  actions.zipIdx.map fun (a, n) =>
    (⟨0, fun _ => true, fun _ => none, String.ofList (List.replicate n 'x'), 1⟩, a)

/-- The only account hosts a server that is launched again when it ends on its own. -/
def smallHosting : List Action :=
  .request (.host "al" "iwad=doom2 autorestart=on" none false) :: List.replicate 8 (.hosting 0)

/-- A server runs and ends, up to the report of its end. -/
def smallEnd (ref : ServerRef) : List Action :=
  [.line ref "UDP Initialized.", .finishStart ref, .processEnds ref, .supervise ref, .supervise ref]

/-- On the small machine the only entry goes with the end of its own server. -/
theorem registry_of_small_run :
    let env : Surroundings := ⟨0, fun _ => true, fun _ => none, "y", 1⟩
    let t := (smallStart 1).run (smallSteps (smallHosting ++ smallEnd 0))
    (10, 0) ∈ t.fleet.registry.entries ∧
      (10, 0) ∉ (t.step env (.supervise 0)).fleet.registry.entries ∧
      t.Ends env (.supervise 0) 0 := by
  intro env t
  have hentry : (10, 0) ∈ t.fleet.registry.entries := by decide +kernel
  have hlost : (10, 0) ∉ (t.step env (.supervise 0)).fleet.registry.entries := by decide +kernel
  have hrun := registry_of_run (smallConfig 1) "/l" smallFiles (by decide)
    (smallSteps (smallHosting ++ smallEnd 0)) env (.supervise 0) (by decide +kernel)
  exact ⟨hentry, hlost, hrun.2.2.2.2 10 0 hentry hlost⟩

end Traffic

end HostDaemon
