import HostDaemon.Proofs.Fleet.Quiet
import HostDaemon.Proofs.Ports

/-! # Who belongs to a fleet

  - `Fleet.Crew` relates the tables of a fleet: every server has one supervisor, and only servers
    that were made are registered or launching.
  - `Fleet.Accounts` says whose the claimed ports are.
  - `Fleet.Moves` says that one fleet became another by something that happened to one server. It
    is proved for every change of a table here, and for the operations by composition. -/

namespace HostDaemon

/-! ### Claims on ports -/

/-- The ports that are claimed for the next launch. -/
def SupervisorPhase.claims : SupervisorPhase → List UInt16
  | .restarting port => [port]
  | _ => []

/-- The ports that are claimed for a launch and for the one after it. -/
def Supervisor.claims (v : Supervisor) : List UInt16 :=
  (if v.holdsClaim then [v.launchPort] else []) ++ v.phase.claims

namespace Fleet

/-- The ports that are claimed for all launches. -/
def claims (f : Fleet) : List UInt16 := f.supervisors.flatMap Supervisor.claims

/-- How the servers of a fleet were launched. -/
def specs (f : Fleet) : List (LaunchSpec × UInt32) := f.servers.map fun s => (s.spec, s.restarts)

/-- Every claimed port is claimed once: for a launch, or by one of some others. -/
def Accounts (f : Fleet) (others : List UInt16) : Prop :=
  f.ports.claimed.Perm (f.claims ++ others)

/-! ### The tables of a fleet -/

/-- Every server has one supervisor. -/
def Supervised (f : Fleet) : Prop := f.supervisors.map (·.server) = List.range f.servers.length

/-- How the tables of a fleet belong together. -/
structure Crew (f : Fleet) : Prop where
  /-- Every server has one supervisor. -/
  supervised : f.supervisors.map (·.server) = List.range f.servers.length
  /-- No port and no server is registered twice. -/
  faithful : f.registry.Faithful
  /-- Only servers that were made are registered. -/
  registered_lt : ∀ e ∈ f.registry.entries, e.2 < f.servers.length
  /-- Launching servers are listed under their identifiers. -/
  launching_ids : ∀ e ∈ f.launching, (f.server? e.2).map Server.id = some e.1
  /-- No identifier is launching twice. -/
  launching_nodup : (f.launching.map (·.1)).Nodup
  /-- No port is claimed twice. -/
  claimed_nodup : f.ports.claimed.Nodup
  /-- Port zero is not in the range. -/
  minPort_ne : f.ports.min ≠ 0
  /-- Port zero is not claimed. -/
  zero_free : 0 ∉ f.ports.claimed

/-- No other launching server has the identifier of this one. -/
def IsAlone (f : Fleet) (ref : ServerRef) : Prop :=
  ∀ other, other ≠ ref → f.isLaunching other = true →
    (f.server? other).map Server.id ≠ (f.server? ref).map Server.id

/-- A fleet became another by something that happened to one server. -/
structure Moves (ref : ServerRef) (move : Life → Life) (f f' : Fleet) : Prop where
  /-- The life of that server moved, and no other. -/
  lives : ∀ isStarting isOusted, f'.life? isStarting isOusted =
    Life.moveAt ref move (f.life? isStarting isOusted)
  /-- Every server is launched as it was. -/
  specs : f'.specs = f.specs
  /-- The tables belong together still. -/
  crew : f.Crew → f'.Crew
  /-- Whoever claimed a port has either given it back or not. -/
  accounts : f.Crew → ∀ others, f.Accounts others → f'.Accounts others
  /-- The configuration is what it was. -/
  config : f'.config = f.config
  /-- Every account may have as many servers. -/
  quota : f'.store.quota = f.store.quota
  /-- The same requests hold a place. -/
  pending : f'.pending = f.pending

variable {f f' f'' : Fleet} {ref other : ServerRef}

@[simp] theorem length_specs (f : Fleet) : f.specs.length = f.servers.length := by simp [specs]

theorem map_id_specs (f : Fleet) :
    f.specs.map (fun e => e.1.credentials.id) = f.servers.map Server.id := by
  rw [specs, List.map_map]
  rfl

/-- Servers that are launched as they were keep their identifiers. -/
theorem ids_of_specs (hspecs : f'.specs = f.specs) :
    f'.servers.map Server.id = f.servers.map Server.id := by
  rw [← map_id_specs, ← map_id_specs, hspecs]

theorem map_id_of_specs (hspecs : f'.specs = f.specs) (ref : ServerRef) :
    (f'.server? ref).map Server.id = (f.server? ref).map Server.id := by
  have hget := congrArg (·[ref]?) (ids_of_specs hspecs)
  simpa [server?] using hget

/-! ### Supervisors -/

/-- Every server of a crew has one supervisor. -/
theorem Crew.isSupervised (h : f.Crew) : f.Supervised := h.supervised

theorem Supervised.supervisor?_isSome_iff (h : f.Supervised) (ref : ServerRef) :
    (f.supervisor? ref).isSome ↔ ref < f.servers.length := by
  rw [supervisor?, List.find?_isSome]
  have hmem : ref ∈ f.supervisors.map (·.server) ↔ ref < f.servers.length := by
    rw [h, List.mem_range]
  rw [← hmem, List.mem_map]
  simp

theorem supervisor?_server {v : Supervisor} (hv : f.supervisor? ref = some v) : v.server = ref := by
  simpa using List.find?_some hv

/-- A supervisor stands in the table where it is found. -/
theorem Supervised.mem_supervisors_iff (h : f.Supervised) {v : Supervisor} :
    v ∈ f.supervisors ↔ f.supervisor? v.server = some v := by
  refine ⟨fun hmem => ?_, List.mem_of_find?_eq_some⟩
  have hlt : v.server < f.servers.length := by
    rw [← List.mem_range, ← h]
    exact List.mem_map_of_mem hmem
  obtain ⟨w, hw⟩ := Option.isSome_iff_exists.1 ((h.supervisor?_isSome_iff v.server).2 hlt)
  -- Servers are supervised in their order, so that none is supervised twice.
  have hnodup : (f.supervisors.map (·.server)).Nodup := by
    rw [h]
    exact List.nodup_range
  rw [hw, List.inj_on_of_nodup_map hnodup (List.mem_of_find?_eq_some hw) hmem
    (supervisor?_server hw)]

/-- The supervisor of a server stands once in the table. -/
theorem Supervised.split_supervisors (h : f.Supervised) {v : Supervisor}
    (hv : f.supervisor? ref = some v) :
    ∃ before after, f.supervisors = before ++ v :: after ∧
      ∀ w ∈ before ++ after, w.server ≠ ref := by
  obtain ⟨hserver, before, after, hsplit, -⟩ := List.find?_eq_some_iff_append.1 hv
  simp only [decide_eq_true_eq] at hserver
  refine ⟨before, after, hsplit, ?_⟩
  -- Servers are supervised in their order, so that none is supervised twice.
  have hnodup : (f.supervisors.map (·.server)).Nodup := by
    rw [h]
    exact List.nodup_range
  rw [hsplit, List.map_append, List.map_cons, List.nodup_middle, hserver, List.nodup_cons,
    ← List.map_append] at hnodup
  intro w hw heq
  exact hnodup.1 (List.mem_map.2 ⟨w, hw, heq⟩)

/-- What is claimed for the other launches does not change with a supervisor. -/
theorem Supervised.claims_updateSupervisor (h : f.Supervised) {v : Supervisor}
    (hv : f.supervisor? ref = some v) (change : Supervisor → Supervisor) :
    ∃ rest, f.claims.Perm (v.claims ++ rest) ∧
      (f.updateSupervisor ref change).claims.Perm ((change v).claims ++ rest) := by
  obtain ⟨before, after, hsplit, hothers⟩ := h.split_supervisors hv
  -- The supervisors before and after it are those of other servers.
  have hkeep : ∀ ws : List Supervisor, (∀ w ∈ ws, w.server ≠ ref) →
      ws.map (fun w => if w.server = ref then change w else w) = ws := by
    intro ws hws
    rw [List.map_congr_left fun w hw => if_neg (hws w hw), List.map_id']
  refine ⟨before.flatMap Supervisor.claims ++ after.flatMap Supervisor.claims, ?_, ?_⟩
  · rw [claims, hsplit, List.flatMap_append, List.flatMap_cons]
    exact (List.perm_append_comm_assoc _ _ _)
  · have hserver := supervisor?_server hv
    rw [claims, updateSupervisor, hsplit, List.map_append, List.map_cons,
      hkeep before fun w hw => hothers w (List.mem_append_left _ hw),
      hkeep after fun w hw => hothers w (List.mem_append_right _ hw), if_pos hserver,
      List.flatMap_append, List.flatMap_cons]
    exact (List.perm_append_comm_assoc _ _ _)

/-- A supervisor may take claims over from others, or leave them to others. -/
theorem Supervised.accounts_updateSupervisor (h : f.Supervised) {v : Supervisor}
    (hv : f.supervisor? ref = some v) (change : Supervisor → Supervisor)
    {given left others : List UInt16}
    (hsame : (v.claims ++ given).Perm ((change v).claims ++ left))
    (haccounts : f.Accounts (given ++ others)) :
    (f.updateSupervisor ref change).Accounts (left ++ others) := by
  obtain ⟨rest, hbefore, hafter⟩ := h.claims_updateSupervisor hv change
  have hports : (f.updateSupervisor ref change).ports = f.ports := rfl
  -- The claims are compared port by port, by how often each is claimed.
  rw [Accounts, List.perm_iff_count] at haccounts ⊢
  rw [List.perm_iff_count] at hsame hbefore hafter
  intro port
  have hclaimed := haccounts port
  have hport := hsame port
  have hport' := hbefore port
  have hport'' := hafter port
  rw [hports]
  simp only [List.count_append] at hclaimed hport hport' hport'' ⊢
  omega

/-- A claim that is given back is nobody's. -/
theorem Accounts.release {port : UInt16} {others : List UInt16}
    (haccounts : f.Accounts (port :: others)) (hnodup : f.ports.claimed.Nodup) :
    Accounts { f with ports := f.ports.release port } others := by
  have hfirst : f.ports.claimed.Perm (port :: (f.claims ++ others)) :=
    haccounts.trans List.perm_middle
  -- The port stands once in the table, so that leaving it out leaves the others.
  have hother := (List.nodup_cons.1 (hfirst.nodup_iff.1 hnodup)).1
  have hkeep : (f.claims ++ others).filter (fun other => decide (other ≠ port)) =
      f.claims ++ others := by
    rw [List.filter_eq_self]
    intro other hmem
    rw [decide_eq_true_eq]
    rintro rfl
    exact hother hmem
  have hfilter := hfirst.filter fun other => decide (other ≠ port)
  rw [List.filter_cons_of_neg (by simp), hkeep] at hfilter
  exact hfilter

/-- A claim that is given back leaves the tables as they belong. -/
theorem Crew.release (h : f.Crew) (port : UInt16) :
    Crew { f with ports := f.ports.release port } :=
  { h with
    claimed_nodup := h.claimed_nodup.filter _
    zero_free := fun hzero => h.zero_free (List.mem_of_mem_filter hzero) }

/-- A port that is claimed anew leaves the tables as they belong. -/
theorem Crew.claim (h : f.Crew) {isFree : UInt16 → Bool} {port : UInt16}
    (hgives : f.ports.Gives isFree port) :
    Crew { f with ports := { f.ports with claimed := port :: f.ports.claimed } } := by
  obtain ⟨⟨hmin, -⟩, hfresh, -⟩ := hgives
  refine { h with
    claimed_nodup := List.nodup_cons.2 ⟨hfresh, h.claimed_nodup⟩
    zero_free := ?_ }
  intro hzero
  rcases List.mem_cons.1 hzero with rfl | hclaimed
  -- Port zero lies below every range.
  · rw [UInt16.le_iff_toNat_le] at hmin
    exact h.minPort_ne (UInt16.toNat_inj.1 (Nat.le_zero.1 hmin))
  · exact h.zero_free hclaimed

/-- A port that is claimed anew is whoever's claimed it. -/
theorem Accounts.claim {others : List UInt16} (haccounts : f.Accounts others) (port : UInt16) :
    Accounts { f with ports := { f.ports with claimed := port :: f.ports.claimed } }
      (port :: others) :=
  (haccounts.cons port).trans List.perm_middle.symm

/-! ### Composition -/

namespace Moves

variable {move move' : Life → Life}

theorem refl (ref : ServerRef) (f : Fleet) : Moves ref id f f where
  lives := fun _ _ => (Life.moveAt_eq_self fun _ _ => rfl).symm
  specs := rfl
  crew := id
  accounts := fun _ _ => id
  config := rfl
  quota := rfl
  pending := rfl

theorem trans (h : Moves ref move f f') (h' : Moves ref move' f' f'') :
    Moves ref (fun l => move' (move l)) f f'' where
  lives := fun isStarting isOusted => by
    rw [h'.lives, h.lives, Life.moveAt_moveAt]
  specs := h'.specs.trans h.specs
  crew := fun hcrew => h'.crew (h.crew hcrew)
  accounts := fun hcrew others haccounts =>
    h'.accounts (h.crew hcrew) others (h.accounts hcrew others haccounts)
  config := h'.config.trans h.config
  quota := h'.quota.trans h.quota
  pending := h'.pending.trans h.pending

theorem length_servers (h : Moves ref move f f') : f'.servers.length = f.servers.length := by
  simpa using congrArg List.length h.specs

/-- Servers keep their identifiers. -/
theorem ids (h : Moves ref move f f') (other : ServerRef) :
    (f'.server? other).map Server.id = (f.server? other).map Server.id :=
  map_id_of_specs h.specs other

/-- The supervisor of the server moved with its life. -/
theorem supervisor? {isStarting isOusted : Bool} {l : Life} (h : Moves ref move f f')
    (hl : f.life? isStarting isOusted ref = some l) :
    f'.supervisor? ref = some (move l).watch := by
  have hlife := congrFun (h.lives isStarting isOusted) ref
  rw [Life.moveAt, if_pos rfl, hl, Option.map_some] at hlife
  unfold Fleet.life? at hlife
  split at hlife
  next s v _ hv =>
    rw [Option.some.injEq] at hlife
    rw [hv, ← hlife]
  next => cases hlife

/-- Only what happens to the life that there is matters. -/
theorem congr (h : Moves ref move f f')
    (hmove : ∀ isStarting isOusted l, f.life? isStarting isOusted ref = some l →
      move l = move' l) : Moves ref move' f f' :=
  { h with
    lives := fun isStarting isOusted => by
      rw [h.lives, Life.moveAt_congr (hmove isStarting isOusted)] }

end Moves

/-- A crew depends only on the tables and on the identifiers. -/
theorem Crew.congr (h : f.Crew)
    (hspecs : f'.specs = f.specs)
    (hsupervisors : f'.supervisors.map (·.server) = f.supervisors.map (·.server))
    (hregistry : f'.registry = f.registry) (hlaunching : f'.launching = f.launching)
    (hports : f'.ports = f.ports) : f'.Crew := by
  have hlength : f'.servers.length = f.servers.length := by
    simpa using congrArg List.length hspecs
  refine ⟨?_, ?_, ?_, ?_, ?_, ?_, ?_, ?_⟩
  · rw [hsupervisors, hlength, h.supervised]
  · rw [hregistry]
    exact h.faithful
  · rw [hregistry, hlength]
    exact h.registered_lt
  · rw [hlaunching]
    intro e he
    rw [← h.launching_ids e he]
    exact map_id_of_specs hspecs e.2
  · rw [hlaunching]
    exact h.launching_nodup
  · rw [hports]
    exact h.claimed_nodup
  · rw [hports]
    exact h.minPort_ne
  · rw [hports]
    exact h.zero_free

/-- What changes nothing of consequence moves nothing. -/
theorem Alike.moves (h : Alike f f') (ref : ServerRef) : Moves ref id f f' := by
  have hspecs : f'.specs = f.specs := by
    have hmap := congrArg (List.map fun s : Standing => (s.spec, s.restarts)) h.standings
    simpa [specs, Function.comp_def, Server.standing] using hmap
  refine ⟨?_, hspecs, ?_, ?_, h.config, h.quota, h.pending⟩
  · intro isStarting isOusted
    funext other
    rw [h.life?, Life.moveAt_eq_self (fun _ _ => by rfl)]
  · intro hcrew
    exact hcrew.congr hspecs (by rw [h.supervisors]) h.registry h.launching h.ports
  · intro _ others haccounts
    rw [Accounts, claims, h.supervisors, h.ports]
    exact haccounts

end Fleet

end HostDaemon
