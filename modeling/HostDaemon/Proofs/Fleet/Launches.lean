import HostDaemon.Fleet.Exit
import HostDaemon.Proofs.Fleet.Operations

/-! # Launches and their ends

  What the launch of a server adds to a fleet, and what a supervisor does after the process of its
  server has ended.

  - `Fleet.Bears` says that a server was launched, while at most one other life moved. It is proved
    of a first launch (`Fleet.bears_adopt`) and of a launch after an end (`Fleet.relaunch_cases`).
  - `Fleet.planRestart_cases` says when a server is to be launched again. -/

namespace HostDaemon.Fleet

variable {f f' : Fleet} {ref : ServerRef}

/-! ### Launches -/

/-- A launch that fails gives the claim on its port back, and leaves nothing but files. One that
    succeeds makes a server. -/
theorem launch_cases (f : Fleet) (env : Surroundings) (spec : LaunchSpec) (restarts : UInt32)
    (isRecovering : Bool) (port : UInt16) :
    (∃ e files, f.launch env spec restarts isRecovering port =
      (.error e, { f with files := files, ports := f.ports.release port })) ∨
    ∃ files logFile log, f.launch env spec restarts isRecovering port =
      (.ok f.servers.length,
        ({ f with files := files }.adopt env spec restarts isRecovering port logFile log).2) := by
  unfold launch
  simp only
  split
  · exact Or.inl ⟨_, _, rfl⟩
  · split
    · exact Or.inl ⟨_, _, rfl⟩
    · split
      · exact Or.inl ⟨_, _, rfl⟩
      · split
        · exact Or.inl ⟨_, _, rfl⟩
        · exact Or.inr ⟨_, _, _, rfl⟩

/-- The next launch of a server is a launch; where it fails, that is announced. -/
theorem exists_relaunch_eq (f : Fleet) (env : Surroundings) (s : Server) (port : UInt16) :
    ∃ g notices, (f.launch env { s.spec with requestedPort := some s.port } (s.restarts + 1) false
      port).2 = g ∧ f.relaunch env s port = { g with notices := notices } := by
  unfold relaunch
  simp only
  split
  next heq =>
    rw [heq]
    exact ⟨_, _, rfl, rfl⟩
  next heq =>
    rw [heq]
    exact ⟨_, _, rfl, rfl⟩

theorem servers_relaunch (f : Fleet) (env : Surroundings) (s : Server) (port : UInt16) :
    (f.relaunch env s port).servers = (f.launch env { s.spec with requestedPort := some s.port }
      (s.restarts + 1) false port).2.servers := by
  obtain ⟨g, notices, hlaunch, hrelaunch⟩ := f.exists_relaunch_eq env s port
  rw [hrelaunch, hlaunch]

/-- A fleet in which a server was launched, while something happened to another one. Before the
    launch some ports were claimed for it from outside. -/
structure Bears (ref : ServerRef) (move : Life → Life) (given : List UInt16) (s : Standing)
    (v : Supervisor) (f f' : Fleet) : Prop where
  /-- The life of the server begins, and all others go on. -/
  lives : ∀ isStarting isOusted other, f'.life? isStarting isOusted other =
    if other = f.servers.length then
      some { Life.born s v with isStarting := isStarting, isOusted := isOusted }
    else Life.moveAt ref move (f.life? isStarting isOusted) other
  /-- The server comes last. -/
  specs : f'.specs = f.specs ++ [(s.spec, s.restarts)]
  /-- The tables belong together still. -/
  crew : f'.Crew
  /-- The claim on its port passes to the launch. -/
  accounts : ∀ others, f.Accounts (given ++ others) → f'.Accounts others
  /-- The configuration is what it was. -/
  config : f'.config = f.config
  /-- Every account may have as many servers. -/
  quota : f'.store.quota = f.store.quota
  /-- The same requests hold a place. -/
  pending : f'.pending = f.pending

/-- What is known of a server that has just been launched. -/
def standingOf (spec : LaunchSpec) (restarts : UInt32) : Standing where
  spec := spec
  restarts := restarts
  port := 0
  isRunning := false
  isKilled := false
  autoRestart := spec.autoRestart

/-- A server that has just been launched is launched as it was asked for. -/
theorem spec_of_standingOf {s : Server} {spec : LaunchSpec} {restarts : UInt32}
    (hstanding : s.standing = standingOf spec restarts) :
    (s.spec, s.restarts) = (spec, restarts) :=
  Prod.ext (congrArg Standing.spec hstanding) (congrArg Standing.restarts hstanding)

/-- What a launch adds to the tables. -/
theorem adopt_eq (f : Fleet) (env : Surroundings) (spec : LaunchSpec) (restarts : UInt32)
    (isRecovering : Bool) (port : UInt16) (logFile : Path) (log : Location) :
    ∃ s : Server, s.standing = standingOf spec restarts ∧
      (f.adopt env spec restarts isRecovering port logFile log).2 =
        { f with
          servers := f.servers ++ [s]
          supervisors := f.supervisors ++ [⟨f.servers.length, log, port, true, true, .reading⟩]
          launching := (spec.credentials.id, f.servers.length) ::
            f.launching.filter fun e => decide (e.1 ≠ spec.credentials.id) } := by
  refine ⟨{ (Server.create spec logFile restarts isRecovering env.now).setPid
    (some env.freshPid) with console := .opened }, rfl, ?_⟩
  simp only [adopt, addServer, enterLaunching, server?, List.getElem?_concat_length]
  rfl

/-- A launch comes last, and is nothing to the places in the quota. -/
theorem specs_adopt (f : Fleet) (env : Surroundings) (spec : LaunchSpec) (restarts : UInt32)
    (isRecovering : Bool) (port : UInt16) (logFile : Path) (log : Location) :
    (f.adopt env spec restarts isRecovering port logFile log).2.specs =
        f.specs ++ [(spec, restarts)] ∧
      (f.adopt env spec restarts isRecovering port logFile log).2.pending = f.pending := by
  obtain ⟨s, hstanding, hadopt⟩ := f.adopt_eq env spec restarts isRecovering port logFile log
  rw [hadopt]
  refine ⟨?_, rfl⟩
  rw [specs, List.map_append, List.map_singleton, spec_of_standingOf hstanding]
  rfl

/-- A launch makes a server with a life of its own, where no other launching server has its
    identifier. -/
theorem bears_adopt (hcrew : f.Crew) (env : Surroundings) (spec : LaunchSpec) (restarts : UInt32)
    (isRecovering : Bool) (port : UInt16) (logFile : Path) (log : Location)
    (halone : ∀ other, f.isLaunching other = true →
      (f.server? other).map Server.id ≠ some spec.credentials.id) :
    Bears f.servers.length id [port] (standingOf spec restarts)
      ⟨f.servers.length, log, port, true, true, .reading⟩ f
      (f.adopt env spec restarts isRecovering port logFile log).2 := by
  -- No entry of the launching servers has to give way.
  have hkeep : f.launching.filter (fun e => decide (e.1 ≠ spec.credentials.id)) = f.launching := by
    rw [List.filter_eq_self]
    intro e he
    rw [decide_eq_true_eq]
    intro heq
    refine halone e.2 ?_ ?_
    · exact List.any_eq_true.2 ⟨e, he, by simp⟩
    · rw [hcrew.launching_ids e he, heq]
  have hspecs := (f.specs_adopt env spec restarts isRecovering port logFile log).1
  obtain ⟨s, hstanding, hadopt⟩ := f.adopt_eq env spec restarts isRecovering port logFile log
  rw [hkeep] at hadopt
  rw [hadopt] at hspecs ⊢
  have hid : s.id = spec.credentials.id :=
    congrArg (fun e => e.1.credentials.id) (spec_of_standingOf hstanding)
  -- The new server comes last, and all others are found where they were.
  have hserver : ∀ other, (f.servers ++ [s])[other]? =
      if other = f.servers.length then some s else f.servers[other]? := by
    intro other
    split
    next heq => rw [heq, List.getElem?_concat_length]
    next hne =>
      rcases Nat.lt_or_gt_of_ne hne with hlt | hgt
      · rw [List.getElem?_append_left hlt]
      · rw [List.getElem?_eq_none_iff.2 (Nat.le_of_lt hgt), List.getElem?_eq_none_iff.2]
        rw [List.length_append, List.length_singleton]
        omega
  refine ⟨?_, ?_, ?_, ?_, rfl, rfl, rfl⟩
  · intro isStarting isOusted other
    rw [Life.moveAt_eq_self (fun _ _ => by rfl)]
    unfold life? server? supervisor? isLaunching
    simp only [hserver, List.find?_append, List.any_cons]
    by_cases heq : other = f.servers.length
    · subst heq
      rw [if_pos rfl, if_pos rfl]
      -- Nobody looks after the new server yet, and it is registered nowhere.
      have hnone : f.supervisors.find? (fun v => decide (v.server = f.servers.length)) = none := by
        have habsent := not_congr (hcrew.isSupervised.supervisor?_isSome_iff f.servers.length)
        rw [Bool.not_eq_true, Option.isSome_eq_false_iff, Option.isNone_iff_eq_none] at habsent
        exact habsent.2 (Nat.lt_irrefl _)
      have hkeys : f.registry.keysOf f.servers.length = [] := by
        rw [List.eq_nil_iff_forall_not_mem]
        intro key hkey
        exact Nat.lt_irrefl _ (hcrew.registered_lt _ (Registry.mem_keysOf_iff.1 hkey))
      simp [hnone, hkeys, hstanding, Life.born]
    · rw [if_neg heq, if_neg heq]
      simp [Ne.symm heq]
  · exact hspecs
  · refine ⟨?_, hcrew.faithful, ?_, ?_, ?_, hcrew.claimed_nodup, hcrew.minPort_ne,
      hcrew.zero_free⟩
    · simp [hcrew.supervised, List.range_succ]
    · intro e he
      rw [List.length_append, List.length_singleton]
      exact Nat.lt_succ_of_lt (hcrew.registered_lt e he)
    · intro e he
      rw [server?, hserver]
      rcases List.mem_cons.1 he with rfl | hold
      · simp [hid]
      · have hids := hcrew.launching_ids e hold
        split
        next heq =>
          rw [heq, server?, List.getElem?_eq_none_iff.2 (Nat.le_refl _)] at hids
          cases hids
        next => exact hids
    · rw [List.map_cons, List.nodup_cons]
      refine ⟨?_, hcrew.launching_nodup⟩
      intro hmem
      obtain ⟨e, he, heq⟩ := List.mem_map.1 hmem
      -- Another launching server with this identifier is what was ruled out.
      refine halone e.2 (List.any_eq_true.2 ⟨e, he, by simp⟩) ?_
      rw [hcrew.launching_ids e he, heq]
  · intro others haccounts
    have hclaims : ({ f with
        servers := f.servers ++ [s]
        supervisors := f.supervisors ++ [⟨f.servers.length, log, port, true, true, .reading⟩]
        launching := (spec.credentials.id, f.servers.length) :: f.launching } : Fleet).claims =
        f.claims ++ [port] := by
      simp [claims, Supervisor.claims, SupervisorPhase.claims]
    rw [Accounts, hclaims, List.append_assoc]
    exact haccounts

/-! ### After the end of a process -/

/-- A port for the next launch is one that can be handed out. -/
theorem reserveForRestart_gives {env : Surroundings} {bound launchPort port : UInt16}
    {ports : PortPool} (h : f.reserveForRestart env bound launchPort = some (port, ports)) :
    f.ports.Gives env.isFree port ∧ ports = { f.ports with claimed := port :: f.ports.claimed } := by
  unfold reserveForRestart at h
  split at h
  next hbound =>
    cases h
    exact PortPool.reserve_eq_ok_iff.1 hbound
  next =>
    split at h
    next hlaunch =>
      cases h
      exact PortPool.reserve_eq_ok_iff.1 hlaunch
    next => exact ⟨(PortPool.reserveFirst?_eq_some_iff.1 h).1.1,
      (PortPool.reserveFirst?_eq_some_iff.1 h).2⟩

/-- Either a supervisor gives up, because its server is not to be launched again or because there is
    no port, or a port is claimed for the next launch. -/
theorem planRestart_cases (f : Fleet) (env : Surroundings) (v : Supervisor) (s : Server) :
    (∃ f', Alike f f' ∧ f.planRestart env v s = (.done, f') ∧
      (f.wantsRestart s = false ∨ f.reserveForRestart env s.port v.launchPort = none)) ∨
    ∃ port notice, f.wantsRestart s = true ∧ f.ports.Gives env.isFree port ∧
      f.planRestart env v s = (.restarting port,
        Fleet.notify { f with ports := { f.ports with claimed := port :: f.ports.claimed } }
          notice) := by
  unfold planRestart
  cases hwants : f.wantsRestart s with
  | false => exact Or.inl ⟨f, .refl f, by simp, Or.inl rfl⟩
  | true =>
    rw [if_neg (by simp)]
    cases hreserve : f.reserveForRestart env s.port v.launchPort with
    | none => exact Or.inl ⟨_, f.alike_notify _, rfl, Or.inr rfl⟩
    | some claim =>
      obtain ⟨port, ports⟩ := claim
      obtain ⟨hgives, rfl⟩ := reserveForRestart_gives hreserve
      exact Or.inr ⟨port, _, rfl, hgives, rfl⟩

/-- A port is claimed for the next launch where the server is to be launched again and there is
    one. -/
theorem planRestart_restarting_iff (f : Fleet) (env : Surroundings) (v : Supervisor) (s : Server) :
    (∃ port, (f.planRestart env v s).1 = .restarting port) ↔
      f.wantsRestart s = true ∧ (f.reserveForRestart env s.port v.launchPort).isSome = true := by
  unfold planRestart
  cases f.wantsRestart s with
  | false => simp
  | true => cases f.reserveForRestart env s.port v.launchPort <;> simp

/-- A supervisor for which a port is claimed announces the next launch. -/
theorem moves_restart (hcrew : f.Crew) {v : Supervisor} (hv : f.supervisor? ref = some v)
    (hphase : v.phase = .removed) {isFree : UInt16 → Bool} {port : UInt16}
    (hgives : f.ports.Gives isFree port) (notice : Notice) :
    Moves ref (·.setPhase (.restarting port)) f
      ((Fleet.notify { f with ports := { f.ports with claimed := port :: f.ports.claimed } }
        notice).setPhase ref (.restarting port)) := by
  have hclaimed := hcrew.claim hgives
  have hsame : (v.claims ++ [port]).Perm
      (({ v with phase := .restarting port } : Supervisor).claims ++ []) := by
    simp [Supervisor.claims, SupervisorPhase.claims, hphase]
  refine ⟨?_, rfl, ?_, ?_, rfl, rfl, rfl⟩
  · intro isStarting isOusted
    exact life?_updateSupervisor _ ref ({ · with phase := .restarting port }) (fun _ => rfl) ..
  · intro _
    exact hclaimed.congr rfl (map_server_updateSupervisor _ ref fun _ => rfl) rfl rfl rfl
  · intro _ others haccounts
    exact hclaimed.isSupervised.accounts_updateSupervisor hv ({ · with phase := .restarting port })
      hsame (haccounts.claim port)

/-- A supervisor that is done leaves the port for the next launch to others. -/
theorem accounts_restarted (hcrew : f.Crew) {v : Supervisor} (hv : f.supervisor? ref = some v)
    {port : UInt16} (hphase : v.phase = .restarting port) {others : List UInt16}
    (haccounts : f.Accounts others) : (f.setPhase ref .done).Accounts (port :: others) := by
  have hsame : (v.claims ++ []).Perm
      (({ v with phase := .done } : Supervisor).claims ++ [port]) := by
    simp [Supervisor.claims, SupervisorPhase.claims, hphase]
  exact hcrew.isSupervised.accounts_updateSupervisor hv ({ · with phase := .done }) hsame haccounts

/-- A supervisor comes into a phase before or after somebody else's server is made. -/
theorem setPhase_adopt (hlt : ref < f.servers.length) (env : Surroundings) (spec : LaunchSpec)
    (restarts : UInt32) (isRecovering : Bool) (port : UInt16) (logFile : Path) (log : Location)
    (phase : SupervisorPhase) :
    (f.adopt env spec restarts isRecovering port logFile log).2.setPhase ref phase =
      ((f.setPhase ref phase).adopt env spec restarts isRecovering port logFile log).2 := by
  have hne : f.servers.length ≠ ref := Nat.ne_of_gt hlt
  simp [adopt, addServer, enterLaunching, server?, setPhase, updateSupervisor, hne]

/-- The next launch either fails, and the port that was claimed for it is given back, or makes a
    server with the same identifier. -/
theorem relaunch_cases (hcrew : f.Crew) {v : Supervisor} {s : Server} {port : UInt16}
    (hv : f.supervisor? ref = some v) (hs : f.server? ref = some s)
    (hphase : v.phase = .restarting port) (env : Surroundings)
    (halone : ∀ other, f.isLaunching other = true →
      (f.server? other).map Server.id ≠ some s.id) :
    ((f.launch env { s.spec with requestedPort := some s.port } (s.restarts + 1) false port).1.isOk
        = false ∧
      Moves ref (·.setPhase .done) f ((f.relaunch env s port).setPhase ref .done)) ∨
    ∃ log, Bears ref (·.setPhase .done) []
      (standingOf { s.spec with requestedPort := some s.port } (s.restarts + 1))
      ⟨f.servers.length, log, port, true, true, .reading⟩ f
      ((f.relaunch env s port).setPhase ref .done) := by
  have hlt : ref < f.servers.length := (List.getElem?_eq_some_iff.1 hs).1
  have hdone : ∀ files, (Fleet.setPhase { f with files := files } ref .done).Crew := fun files =>
    hcrew.congr rfl (map_server_updateSupervisor _ ref fun _ => rfl) rfl rfl rfl
  unfold relaunch
  rcases f.launch_cases env { s.spec with requestedPort := some s.port } (s.restarts + 1) false port
    with ⟨e, files, hlaunch⟩ | ⟨files, logFile, log, hlaunch⟩
  · left
    simp only [hlaunch]
    refine ⟨rfl, ?_, rfl, ?_, ?_, rfl, rfl, rfl⟩
    · intro isStarting isOusted
      exact life?_updateSupervisor _ ref ({ · with phase := .done }) (fun _ => rfl) ..
    · intro _
      exact (hcrew.release port).congr rfl (map_server_updateSupervisor _ ref fun _ => rfl)
        rfl rfl rfl
    · intro _ others haccounts
      have hgiven := accounts_restarted hcrew hv hphase haccounts
      exact hgiven.release hcrew.claimed_nodup
  · right
    simp only [hlaunch]
    have hlength : (Fleet.setPhase { f with files := files } ref .done).servers.length =
        f.servers.length := rfl
    -- The end of the one before and the launch may be taken in either order.
    have hbears := bears_adopt (hdone files) env { s.spec with requestedPort := some s.port }
      (s.restarts + 1) false port logFile log halone
    refine ⟨log, ?_⟩
    rw [setPhase_adopt (f := { f with files := files }) hlt]
    refine ⟨?_, hbears.specs, hbears.crew, ?_, hbears.config, hbears.quota, hbears.pending⟩
    · intro isStarting isOusted other
      rw [hbears.lives, hlength, Life.moveAt_eq_self (fun _ _ => by rfl)]
      have hparent : (Fleet.setPhase { f with files := files } ref .done).life? isStarting isOusted
          = Life.moveAt ref (·.setPhase .done) (f.life? isStarting isOusted) :=
        life?_updateSupervisor _ ref ({ · with phase := .done }) (fun _ => rfl) ..
      rw [hparent]
    · intro others haccounts
      exact hbears.accounts others (accounts_restarted hcrew hv hphase haccounts)

end HostDaemon.Fleet
