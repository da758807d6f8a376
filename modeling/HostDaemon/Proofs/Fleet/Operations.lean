import HostDaemon.Proofs.Fleet.Crew

/-! # What the operations do to the lives of servers

  One lemma for each operation of a fleet: which life it moves, and how. An operation on a server
  moves the life of that server and of no other. -/

namespace HostDaemon.Fleet

variable {f : Fleet} {ref other : ServerRef} {isStarting isOusted : Bool}

/-! ### Servers and supervisors -/

theorem server?_update (f : Fleet) (ref : ServerRef) (change : Server → Server)
    (other : ServerRef) :
    (f.update ref change).server? other =
      if other = ref then (f.server? ref).map change else f.server? other := by
  by_cases h : other = ref
  · rw [if_pos h, h]
    exact List.getElem?_modify_eq ..
  · rw [if_neg h]
    exact List.getElem?_modify_ne _ _ (Ne.symm h)

theorem supervisor?_updateSupervisor (f : Fleet) (ref : ServerRef)
    {change : Supervisor → Supervisor} (hchange : ∀ v, (change v).server = v.server)
    (other : ServerRef) :
    (f.updateSupervisor ref change).supervisor? other =
      if other = ref then (f.supervisor? ref).map change else f.supervisor? other := by
  -- A supervisor is found by its server, which no change touches.
  have hsame : ∀ v : Supervisor, (if v.server = ref then change v else v).server = v.server := by
    intro v
    split
    · exact hchange v
    · rfl
  simp only [supervisor?, updateSupervisor, List.find?_map, Function.comp_def, hsame]
  by_cases h : other = ref
  · rw [if_pos h, h]
    cases hfind : f.supervisors.find? fun v => decide (v.server = ref) with
    | none => rfl
    | some v =>
      have hv : v.server = ref := by simpa using List.find?_some hfind
      simp [hv]
  · rw [if_neg h]
    cases hfind : f.supervisors.find? fun v => decide (v.server = other) with
    | none => rfl
    | some v =>
      have hv : v.server = other := by simpa using List.find?_some hfind
      simp [hv, h]

/-- Where there is no process to end that is noted on the server, and on no other. -/
theorem server?_killProcess (f : Fleet) (ref other : ServerRef) :
    (f.killProcess ref).server? other =
      if other = ref then (f.server? ref).map fun s =>
        { s with isKillRequested := s.isKillRequested || s.pid.isNone }
      else f.server? other := by
  unfold killProcess
  cases hs : f.server? ref with
  | none => by_cases h : other = ref <;> simp [h, hs]
  | some s =>
    simp only
    split
    next hknown =>
      have hpid : s.pid.isNone = false := by simpa using hknown
      show f.server? other = _
      by_cases h : other = ref <;> simp [h, hs, hpid]
    next hunknown =>
      have hpid : s.pid.isNone = true := by simpa using hunknown
      rw [server?_update]
      by_cases h : other = ref <;> simp [h, hs, hpid]

/-- The process of a server ends where it is known, and no other does. -/
theorem supervisor?_killProcess (f : Fleet) (ref other : ServerRef) :
    (f.killProcess ref).supervisor? other =
      if other = ref then (f.supervisor? ref).map fun v =>
        { v with isProcessAlive := v.isProcessAlive && (f.server? ref).all (·.pid.isNone) }
      else f.supervisor? other := by
  unfold killProcess
  cases hs : f.server? ref with
  | none => by_cases h : other = ref <;> simp [h]
  | some s =>
    simp only
    split
    next hknown =>
      have hpid : s.pid.isNone = false := by simpa using hknown
      rw [supervisor?_updateSupervisor f ref (by intro v; rfl)]
      by_cases h : other = ref <;> simp [h, hpid]
    next hunknown =>
      have hpid : s.pid.isNone = true := by simpa using hunknown
      show f.supervisor? other = _
      by_cases h : other = ref <;> simp [h, hpid]

theorem map_server_updateSupervisor (f : Fleet) (ref : ServerRef)
    {change : Supervisor → Supervisor} (hchange : ∀ v, (change v).server = v.server) :
    (f.updateSupervisor ref change).supervisors.map (·.server) =
      f.supervisors.map (·.server) := by
  rw [updateSupervisor, List.map_map]
  apply List.map_congr_left
  intro v _
  simp only [Function.comp_apply]
  split
  · exact hchange v
  · rfl

/-- Where there is no supervisor none changes. -/
theorem updateSupervisor_of_none {change : Supervisor → Supervisor}
    (hnone : f.supervisor? ref = none) : f.updateSupervisor ref change = f := by
  have hkeep : f.supervisors.map (fun v => if v.server = ref then change v else v) =
      f.supervisors := by
    rw [supervisor?, List.find?_eq_none] at hnone
    rw [List.map_congr_left fun v hv => if_neg (by simpa using hnone v hv), List.map_id']
  rw [updateSupervisor, hkeep]

/-! ### Lives -/

/-- A life is put together from a server and its supervisor. -/
theorem life?_eq_some_iff {l : Life} :
    f.life? isStarting isOusted ref = some l ↔
      ∃ s v, f.server? ref = some s ∧ f.supervisor? ref = some v ∧
        l = ⟨s.standing, v, f.isLaunching ref, f.registry.keysOf ref, isStarting, isOusted⟩ := by
  unfold life?
  cases hs : f.server? ref with
  | none => simp
  | some s =>
    cases hv : f.supervisor? ref with
    | none => simp
    | some v => simp [eq_comm]

/-- Where there is no server nothing that happens to it shows. -/
theorem moves_of_nobody (hnone : f.server? ref = none) (move : Life → Life) :
    Moves ref move f f := by
  refine (Moves.refl ref f).congr ?_
  intro isStarting isOusted l hl
  obtain ⟨s, v, hs, -, -⟩ := life?_eq_some_iff.1 hl
  rw [hnone] at hs
  cases hs

/-- A change of one server moves its life. -/
theorem life?_update (f : Fleet) (ref : ServerRef) (change : Server → Server)
    (move : Standing → Standing) (hmove : ∀ s, (change s).standing = move s.standing)
    (isStarting isOusted : Bool) :
    (f.update ref change).life? isStarting isOusted =
      Life.moveAt ref (fun l => { l with standing := move l.standing })
        (f.life? isStarting isOusted) := by
  funext other
  have hkeep : (f.update ref change).supervisor? other = f.supervisor? other := rfl
  have hlaunching : (f.update ref change).isLaunching other = f.isLaunching other := rfl
  have hregistry : (f.update ref change).registry = f.registry := rfl
  unfold Life.moveAt life?
  rw [server?_update, hkeep, hlaunching, hregistry]
  by_cases h : other = ref
  · rw [if_pos h, if_pos h, h]
    cases f.server? ref <;> cases f.supervisor? ref <;> simp [hmove]
  · rw [if_neg h, if_neg h]

/-- A change of one supervisor moves the life of its server. -/
theorem life?_updateSupervisor (f : Fleet) (ref : ServerRef) (change : Supervisor → Supervisor)
    (hchange : ∀ v, (change v).server = v.server) (isStarting isOusted : Bool) :
    (f.updateSupervisor ref change).life? isStarting isOusted =
      Life.moveAt ref (fun l => { l with watch := change l.watch })
        (f.life? isStarting isOusted) := by
  funext other
  have hkeep : (f.updateSupervisor ref change).server? other = f.server? other := rfl
  have hlaunching : (f.updateSupervisor ref change).isLaunching other = f.isLaunching other := rfl
  have hregistry : (f.updateSupervisor ref change).registry = f.registry := rfl
  unfold Life.moveAt life?
  rw [supervisor?_updateSupervisor f ref hchange, hkeep, hlaunching, hregistry]
  by_cases h : other = ref
  · rw [if_pos h, if_pos h, h]
    cases f.server? ref <;> cases f.supervisor? ref <;> simp
  · rw [if_neg h, if_neg h]

/-- A note about a server that it is launched as it was moves its life. -/
theorem moves_update (f : Fleet) (ref : ServerRef) (change : Server → Server)
    (move : Standing → Standing) (hmove : ∀ s, (change s).standing = move s.standing)
    (hkeep : ∀ s, (move s).spec = s.spec ∧ (move s).restarts = s.restarts) :
    Moves ref (fun l => { l with standing := move l.standing }) f (f.update ref change) := by
  -- Seen from outside the server only what is said of its standing matters.
  have hsame : ∀ s : Server, ((change s).spec, (change s).restarts) = (s.spec, s.restarts) := by
    intro s
    have hspec : (change s).standing.spec = s.standing.spec := by
      rw [hmove, (hkeep _).1]
    have hrestarts : (change s).standing.restarts = s.standing.restarts := by
      rw [hmove, (hkeep _).2]
    exact Prod.ext hspec hrestarts
  have hspecs : (f.update ref change).specs = f.specs := by
    apply List.ext_getElem?
    intro i
    simp only [specs, update, List.getElem?_map, List.getElem?_modify]
    split
    · cases f.servers[i]? with
      | none => rfl
      | some s => exact congrArg some (hsame s)
    · simp
  exact ⟨fun _ _ => f.life?_update ref change move hmove .., hspecs,
    fun hcrew => hcrew.congr hspecs rfl rfl rfl rfl, fun _ _ => id, rfl, rfl, rfl⟩

/-- A change of a supervisor that claims what it did moves the life of its server. -/
theorem moves_updateSupervisor (f : Fleet) (ref : ServerRef) (change : Supervisor → Supervisor)
    (hchange : ∀ v, (change v).server = v.server)
    (hclaims : ∀ v, f.supervisor? ref = some v → (change v).claims = v.claims) :
    Moves ref (fun l => { l with watch := change l.watch }) f (f.updateSupervisor ref change) := by
  refine ⟨fun _ _ => f.life?_updateSupervisor ref change hchange .., rfl, ?_, ?_, rfl, rfl, rfl⟩
  · intro hcrew
    exact hcrew.congr rfl (f.map_server_updateSupervisor ref hchange) rfl rfl rfl
  · intro hcrew others haccounts
    cases hv : f.supervisor? ref with
    | none =>
      rw [updateSupervisor_of_none hv]
      exact haccounts
    | some v =>
      have hsame : (v.claims ++ []).Perm ((change v).claims ++ []) := by
        rw [hclaims v hv]
      exact hcrew.isSupervised.accounts_updateSupervisor hv change hsame haccounts

/-! ### Steps of a life -/

theorem moves_mark (f : Fleet) (ref : ServerRef) (byOwner : Bool) :
    Moves ref Life.mark f (f.update ref (·.markKilled byOwner)) :=
  f.moves_update ref _ (fun s => { s with isKilled := true, autoRestart := false })
    (fun _ => rfl) fun _ => ⟨rfl, rfl⟩

theorem moves_endProcess (f : Fleet) (ref : ServerRef) :
    Moves ref Life.endProcess f (f.endProcess ref) :=
  f.moves_updateSupervisor ref ({ · with isProcessAlive := false }) (fun _ => rfl) fun _ _ => rfl

/-- A supervisor comes into another phase in which nothing is claimed for the next launch. -/
theorem moves_setPhase (f : Fleet) (ref : ServerRef) (phase : SupervisorPhase)
    (hclaims : phase.claims = [])
    (hbefore : ∀ v, f.supervisor? ref = some v → v.phase.claims = []) :
    Moves ref (·.setPhase phase) f (f.setPhase ref phase) := by
  refine f.moves_updateSupervisor ref ({ · with phase := phase }) (fun _ => rfl) ?_
  intro v hv
  simp [Supervisor.claims, hclaims, hbefore v hv]

/-- A claim on a port that a launch gives back is nobody's. -/
theorem Supervised.accounts_releaseClaim (h : f.Supervised) (hnodup : f.ports.claimed.Nodup)
    {others : List UInt16} (haccounts : f.Accounts others) (ref : ServerRef) :
    (f.releaseClaim ref).Accounts others := by
  unfold releaseClaim
  split
  next v hv =>
    split
    next hheld =>
      have hsame : (v.claims ++ []).Perm
          (({ v with holdsClaim := false } : Supervisor).claims ++ [v.launchPort]) := by
        simp only [Supervisor.claims, hheld, if_true, List.append_nil]
        exact List.perm_append_comm
      have hgiven := h.accounts_updateSupervisor hv ({ · with holdsClaim := false })
        hsame haccounts
      exact hgiven.release hnodup
    next => exact haccounts
  next => exact haccounts

/-- Giving a claim back moves one life, whether the claim was held or not. -/
theorem moves_releaseClaim (f : Fleet) (ref : ServerRef) :
    Moves ref Life.release f (f.releaseClaim ref) := by
  -- Where nothing is held nothing changes, and releasing a life that holds nothing changes nothing.
  have hfree : (∀ v, f.supervisor? ref = some v → v.holdsClaim = false) →
      Moves ref Life.release f f := by
    intro hnot
    refine (Moves.refl ref f).congr ?_
    intro isStarting isOusted l hl
    obtain ⟨s, v, -, hv, rfl⟩ := life?_eq_some_iff.1 hl
    rw [Life.release, ← hnot v hv]
    rfl
  unfold releaseClaim
  split
  next v hv =>
    split
    next hheld =>
      have hreleased : f.releaseClaim ref = { f.updateSupervisor ref ({ · with holdsClaim := false })
          with ports := f.ports.release v.launchPort } := by
        simp only [releaseClaim, hv, hheld, if_true]
      have hkept : f.Crew → (f.updateSupervisor ref ({ · with holdsClaim := false })).Crew :=
        fun hcrew => hcrew.congr rfl (f.map_server_updateSupervisor ref fun _ => rfl) rfl rfl rfl
      refine ⟨?_, rfl, fun hcrew => (hkept hcrew).release _, ?_, rfl, rfl, rfl⟩
      · intro isStarting isOusted
        exact f.life?_updateSupervisor ref ({ · with holdsClaim := false }) (fun _ => rfl) ..
      · intro hcrew others haccounts
        rw [← hreleased]
        exact hcrew.isSupervised.accounts_releaseClaim hcrew.claimed_nodup haccounts ref
    next hnot =>
      apply hfree
      intro v' hv'
      rw [hv, Option.some.injEq] at hv'
      simpa [hv'] using hnot
  next hnone =>
    apply hfree
    intro v hv
    rw [hnone] at hv
    cases hv

/-- A server that has told no port is put on the one that is claimed for it. -/
theorem moves_settlePort (f : Fleet) (ref : ServerRef) :
    Moves ref Life.settle f (f.settlePort ref) := by
  -- What the life of the server knows of its supervisor is what is found.
  have hwatch : ∀ isStarting isOusted l, f.life? isStarting isOusted ref = some l →
      f.supervisor? ref = some l.watch := by
    intro isStarting isOusted l hl
    obtain ⟨s, v, -, hv, rfl⟩ := life?_eq_some_iff.1 hl
    exact hv
  unfold settlePort
  split
  next hnone =>
    refine (Moves.refl ref f).congr ?_
    intro isStarting isOusted l hl
    have hv := hwatch isStarting isOusted l hl
    rw [hnone] at hv
    cases hv
  next v hv =>
    split
    next hclaim =>
      have hmove := f.moves_update ref
        (fun s => if s.port = 0 then { s with port := v.launchPort } else s)
        (fun s => { s with port := if s.port = 0 then v.launchPort else s.port })
        (fun s => by by_cases hzero : s.port = 0 <;> simp [Server.standing, hzero])
        fun _ => ⟨rfl, rfl⟩
      refine hmove.congr ?_
      intro isStarting isOusted l hl
      have hv' := hwatch isStarting isOusted l hl
      rw [hv, Option.some.injEq] at hv'
      rw [hv'] at hclaim
      simp [Life.settle, Life.tellPort, hv', hclaim]
    next hclaim =>
      refine (Moves.refl ref f).congr ?_
      intro isStarting isOusted l hl
      have hv' := hwatch isStarting isOusted l hl
      rw [hv, Option.some.injEq] at hv'
      rw [hv'] at hclaim
      simp [Life.settle, Life.tellPort, hclaim]

/-- The port of a server is fixed by its first startup line. -/
theorem moves_beginStart (f : Fleet) (ref : ServerRef) :
    Moves ref Life.begin f (f.beginStart ref) := by
  have hrun := (f.settlePort ref).moves_update ref ({ · with isRunning := true })
    (fun s => { s with isRunning := true }) (fun _ => rfl) fun _ => ⟨rfl, rfl⟩
  exact (f.moves_settlePort ref).trans hrun

/-! ### The registry and the launching servers -/

/-- A server is registered under its port where that is not taken. -/
theorem register_cases {s : Server} (hs : f.server? ref = some s) :
    (s.port ∉ f.registry.ports ∧ f.register ref =
      .ok { f with registry := ⟨f.registry.entries ++ [(s.port, ref)]⟩ }) ∨
    (s.port ∈ f.registry.ports ∧ f.register ref = .error ⟨s.port⟩) := by
  unfold register
  rw [hs]
  by_cases htaken : s.port ∈ f.registry.ports
  · right
    simp [Registry.insert_eq_error_iff.2 ⟨htaken, rfl⟩, htaken, Except.map]
  · left
    simp [Registry.insert_eq_ok_iff.2 ⟨htaken, rfl⟩, htaken, Except.map]

/-- Registering a server changes nothing but the registry. -/
theorem exists_registry_of_register {f' : Fleet} (h : f.register ref = .ok f') :
    ∃ registry, f' = { f with registry := registry } := by
  unfold register at h
  split at h
  next =>
    cases h
    exact ⟨f.registry, rfl⟩
  next s _ =>
    cases hinsert : f.registry.insert s.port ref with
    | error e =>
      rw [hinsert] at h
      cases h
    | ok registry =>
      rw [hinsert] at h
      cases h
      exact ⟨registry, rfl⟩

/-- A new entry moves the life of its server. -/
theorem life?_enroll (f : Fleet) {s : Server} (hs : f.server? ref = some s) :
    ({ f with registry := ⟨f.registry.entries ++ [(s.port, ref)]⟩ } : Fleet).life?
        isStarting isOusted =
      Life.moveAt ref Life.enroll (f.life? isStarting isOusted) := by
  funext other
  unfold Life.moveAt
  by_cases h : other = ref
  · rw [if_pos h, h]
    unfold life? server? supervisor? isLaunching
    rw [server?] at hs
    simp only [hs, Registry.keysOf_append, if_true]
    cases f.supervisors.find? fun v => decide (v.server = ref) <;> rfl
  · rw [if_neg h]
    unfold life? server? supervisor? isLaunching
    simp only [Registry.keysOf_append, if_neg h]

@[simp] theorem server?_unregister (f : Fleet) (ref other : ServerRef) :
    (f.unregister ref).2.server? other = f.server? other := by
  unfold unregister
  split <;> rfl

@[simp] theorem supervisor?_unregister (f : Fleet) (ref other : ServerRef) :
    (f.unregister ref).2.supervisor? other = f.supervisor? other := by
  unfold unregister
  split <;> rfl

/-- Taking a server out of the registry leaves everything else as it is. -/
theorem unregister_snd (hregistry : f.registry.Faithful)
    (hregistered : ∀ e ∈ f.registry.entries, e.2 < f.servers.length) :
    (f.unregister ref).2 =
      { f with registry := ⟨f.registry.entries.filter fun e => decide (e.2 ≠ ref)⟩ } := by
  unfold unregister
  cases hs : f.server? ref with
  | some s => simp only [hregistry.remove_eq]
  | none =>
    -- No entry is that of a server that was never made.
    have hlarge : f.servers.length ≤ ref := List.getElem?_eq_none_iff.1 hs
    have habsent : ref ∉ f.registry.servers := by
      rw [Registry.mem_servers_iff]
      rintro ⟨port, hentry⟩
      exact Nat.not_lt.2 hlarge (hregistered _ hentry)
    rw [Registry.filter_eq_self_of_not_mem habsent]

/-- An entry that is taken out moves the life of its server. -/
theorem life?_evict (f : Fleet) (ref : ServerRef) :
    ({ f with registry := ⟨f.registry.entries.filter fun e => decide (e.2 ≠ ref)⟩ } : Fleet).life?
        isStarting isOusted =
      Life.moveAt ref Life.evict (f.life? isStarting isOusted) := by
  funext other
  unfold Life.moveAt
  by_cases h : other = ref
  · rw [if_pos h, h]
    unfold life? server? supervisor? isLaunching
    simp only [Registry.keysOf_filter, if_true]
    cases f.servers[ref]? <;> cases f.supervisors.find? (fun v => decide (v.server = ref)) <;> rfl
  · rw [if_neg h]
    unfold life? server? supervisor? isLaunching
    simp only [Registry.keysOf_filter, if_neg h]

/-- A server that leaves the launching ones leaves alone, where no other launching server has its
    identifier. -/
theorem life?_leaveLaunching
    (hids : ∀ e ∈ f.launching, (f.server? e.2).map Server.id = some e.1)
    (hapart : ∀ other, other ≠ ref → f.isLaunching other = true →
      (f.server? other).map Server.id ≠ (f.server? ref).map Server.id) :
    (f.leaveLaunching ref).life? isStarting isOusted =
      Life.moveAt ref Life.leave (f.life? isStarting isOusted) := by
  unfold leaveLaunching
  split
  next hnone => exact (moves_of_nobody hnone Life.leave).lives isStarting isOusted
  next s hs =>
    -- Who is launching afterwards: all but this one.
    have hlaunching : ∀ other, ({ f with
          launching := f.launching.filter fun e => decide (e.1 ≠ s.id) } : Fleet).isLaunching other =
        if other = ref then false else f.isLaunching other := by
      intro other
      unfold isLaunching
      rw [List.any_filter]
      split
      next h =>
        rw [List.any_eq_false]
        intro e he hboth
        simp only [Bool.and_eq_true, decide_eq_true_eq] at hboth
        -- An entry of this server is listed under its identifier, and was left out.
        have hid := hids e he
        rw [hboth.2, h, hs, Option.map_some, Option.some.injEq] at hid
        exact hboth.1 hid.symm
      next h =>
        rw [Bool.eq_iff_iff, List.any_eq_true, List.any_eq_true]
        constructor
        · rintro ⟨e, he, hboth⟩
          rw [Bool.and_eq_true] at hboth
          exact ⟨e, he, hboth.2⟩
        · rintro ⟨e, he, hother⟩
          refine ⟨e, he, ?_⟩
          rw [hother, Bool.and_true, decide_eq_true_eq]
          rw [decide_eq_true_eq] at hother
          -- An entry of another server is listed under another identifier, and was kept.
          have hid := hids e he
          have hne := hapart other h (List.any_eq_true.2 ⟨e, he, by simpa using hother⟩)
          rw [← hother, hid, hs, Option.map_some] at hne
          exact fun heq => hne (congrArg some heq)
    funext other
    unfold Life.moveAt life?
    rw [hlaunching]
    by_cases h : other = ref
    · rw [if_pos h, if_pos h, h]
      unfold server? supervisor?
      cases f.servers[ref]? <;> cases f.supervisors.find? (fun v => decide (v.server = ref)) <;> rfl
    · rw [if_neg h, if_neg h]
      rfl

theorem moves_enroll (f : Fleet) {s : Server} (hs : f.server? ref = some s)
    (hport : s.port ∉ f.registry.ports) (hfresh : f.registry.keysOf ref = []) :
    Moves ref Life.enroll f
      { f with registry := ⟨f.registry.entries ++ [(s.port, ref)]⟩ } := by
  -- A second entry of the server would make the registry ambiguous.
  have habsent : ref ∉ f.registry.servers := by
    rw [Registry.mem_servers_iff]
    rintro ⟨key, hkey⟩
    rw [← Registry.mem_keysOf_iff, hfresh] at hkey
    cases hkey
  refine ⟨fun _ _ => f.life?_enroll hs, rfl, ?_, fun _ _ => id, rfl, rfl, rfl⟩
  intro hcrew
  refine { hcrew with faithful := hcrew.faithful.append hport habsent, registered_lt := ?_ }
  intro e he
  rcases List.mem_append.1 he with hold | hnew
  · exact hcrew.registered_lt e hold
  · rw [List.mem_singleton] at hnew
    rw [hnew]
    exact (List.getElem?_eq_some_iff.1 hs).1

theorem moves_unregister (hcrew : f.Crew) (ref : ServerRef) :
    Moves ref Life.evict f (f.unregister ref).2 := by
  rw [unregister_snd hcrew.faithful hcrew.registered_lt]
  refine ⟨fun _ _ => f.life?_evict ref, rfl, ?_, fun _ _ => id, rfl, rfl, rfl⟩
  intro _
  exact { hcrew with
    faithful := hcrew.faithful.filter _
    registered_lt := fun e he => hcrew.registered_lt e (List.mem_of_mem_filter he) }

theorem moves_leaveLaunching (hcrew : f.Crew) (halone : f.IsAlone ref) :
    Moves ref Life.leave f (f.leaveLaunching ref) := by
  have hlives : ∀ isStarting isOusted, (f.leaveLaunching ref).life? isStarting isOusted =
      Life.moveAt ref Life.leave (f.life? isStarting isOusted) :=
    fun _ _ => life?_leaveLaunching hcrew.launching_ids halone
  revert hlives
  unfold leaveLaunching
  split
  next =>
    intro hlives
    exact ⟨hlives, rfl, id, fun _ _ => id, rfl, rfl, rfl⟩
  next s _ =>
    intro hlives
    refine ⟨hlives, rfl, ?_, fun _ _ => id, rfl, rfl, rfl⟩
    intro _
    exact { hcrew with
      launching_ids := fun e he => hcrew.launching_ids e (List.mem_of_mem_filter he)
      launching_nodup := (List.filter_sublist.map _).nodup hcrew.launching_nodup }

/-- Whether a server is alone depends only on the identifiers and on who is launching. -/
theorem IsAlone.congr {f' : Fleet} (h : f.IsAlone ref)
    (hids : ∀ other, (f'.server? other).map Server.id = (f.server? other).map Server.id)
    (hlaunching : f'.launching = f.launching) : f'.IsAlone ref := by
  intro other hother hlaunches
  rw [hids, hids]
  refine h other hother ?_
  rw [isLaunching, hlaunching] at hlaunches
  exact hlaunches

/-! ### Kills -/

/-- Killing a process ends it, or notes that it is to end. -/
theorem moves_killProcess (f : Fleet) (ref : ServerRef) :
    Moves ref Life.endProcess f (f.killProcess ref) ∨ Moves ref id f (f.killProcess ref) := by
  unfold killProcess
  split
  · exact Or.inr (Moves.refl ref f)
  · split
    · exact Or.inl (f.moves_endProcess ref)
    · exact Or.inr
        ((f.alike_update ref ({ · with isKillRequested := true }) fun _ => rfl).moves ref)

/-- A kill marks its server, takes it out of the registry, and makes its process end. -/
theorem moves_killQuietly (hcrew : f.Crew) (ref : ServerRef) (byOwner : Bool) :
    Moves ref (fun l => l.mark.evict.endProcess) f (f.killQuietly ref byOwner) ∨
      Moves ref (fun l => l.mark.evict) f (f.killQuietly ref byOwner) := by
  have hquiet := (f.alike_update ref ({ · with hidesStop := true }) fun _ => rfl).moves ref
  have hmark := hquiet.trans (moves_mark _ ref byOwner)
  have hevict := hmark.trans (moves_unregister (hmark.crew hcrew) ref)
  rcases moves_killProcess _ ref with hend | hnoted
  · exact Or.inl (hevict.trans hend)
  · exact Or.inr (hevict.trans hnoted)

/-- A kill that is reported does the same. -/
theorem moves_kill (hcrew : f.Crew) (ref : ServerRef) (byOwner : Bool) :
    Moves ref (fun l => l.mark.evict.endProcess) f (f.kill ref byOwner).2 ∨
      Moves ref (fun l => l.mark.evict) f (f.kill ref byOwner).2 := by
  have hmark := moves_mark f ref byOwner
  have hevict := hmark.trans (moves_unregister (hmark.crew hcrew) ref)
  rcases moves_killProcess _ ref with hend | hnoted
  · exact Or.inl (hevict.trans hend)
  · exact Or.inr (hevict.trans hnoted)

/-! ### Start and end -/

/-- The last part of a start: the server leaves the launching ones, and its claim is given back. -/
theorem moves_finishStart (hcrew : f.Crew) (halone : f.IsAlone ref) :
    Moves ref (fun l => l.leave.release) f (f.finishStart ref) :=
  ((moves_leaveLaunching hcrew halone).trans
    ((alike_announceStart _ ref).moves ref)).trans (moves_releaseClaim _ ref)

/-- A server whose port is taken leaves the launching ones, is killed, and gives its claim back. -/
theorem moves_rejectStart (hcrew : f.Crew) (halone : f.IsAlone ref) (e : PortTaken) :
    Moves ref (fun l => l.leave.mark.release) f (f.rejectStart ref e) ∨
      Moves ref (fun l => l.leave.mark.endProcess.release) f (f.rejectStart ref e) := by
  have hleave := moves_leaveLaunching hcrew halone
  -- The kill comes between the launching servers and the claim.
  have hrefuse : ∀ f : Fleet, Moves ref Life.mark f (f.refuseStart ref e) ∨
      Moves ref (fun l => l.mark.endProcess) f (f.refuseStart ref e) := by
    intro f
    unfold refuseStart
    split
    next hnone => exact Or.inl (moves_of_nobody hnone Life.mark)
    next s _ =>
      have hnotice := (f.alike_notify (.error
        (s!"{s.owner}'s server '{s.hostname}' could not be registered: " ++ e.message))).moves ref
      have hmark := hnotice.trans (moves_update _ ref
        (fun s => { s with hidesStop := true }.markKilled false)
        (fun s => { s with isKilled := true, autoRestart := false }) (fun _ => rfl)
        fun _ => ⟨rfl, rfl⟩)
      rcases moves_killProcess _ ref with hend | hnoted
      · exact Or.inr (hmark.trans hend)
      · exact Or.inl (hmark.trans hnoted)
  rcases hrefuse (f.leaveLaunching ref) with hmark | hend
  · exact Or.inl ((hleave.trans hmark).trans (moves_releaseClaim _ ref))
  · exact Or.inr ((hleave.trans hend).trans (moves_releaseClaim _ ref))

/-- The end of a process gives back what it held. -/
theorem moves_closeRun (hcrew : f.Crew) (halone : f.IsAlone ref) (env : Surroundings)
    (v : Supervisor) : Moves ref (fun l => l.leave.release) f (f.closeRun env ref v) := by
  unfold closeRun
  split
  next hnone => exact moves_of_nobody hnone _
  next s _ =>
    have hrelease := moves_releaseClaim f ref
    -- The footer of the log and the closed console are of no consequence.
    have hfooter : Alike (f.releaseClaim ref) { f.releaseClaim ref with
        files := (f.releaseClaim ref).files.appendAt v.log
          (Text.Utf8.bytesOf (Log.footer env.nowSeconds (s.uptime env.now).toNat)) } :=
      ⟨rfl, rfl, rfl, rfl, rfl, rfl, rfl, rfl⟩
    have hclosed := hrelease.trans ((hfooter.trans (alike_update _ ref
      (fun s => { s with console := s.console.close, pid := none }) fun _ => rfl)).moves ref)
    have hlaunching : (f.releaseClaim ref).launching = f.launching := by
      unfold releaseClaim
      repeat' split
      all_goals rfl
    exact hclosed.trans (moves_leaveLaunching (hclosed.crew hcrew)
      (halone.congr hclosed.ids hlaunching))

end HostDaemon.Fleet
