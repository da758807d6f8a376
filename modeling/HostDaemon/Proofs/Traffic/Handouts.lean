import HostDaemon.Proofs.Fleet.Hosting
import HostDaemon.Proofs.Traffic.Restarts

/-! # Which ports are handed out

  A port is handed out where it is claimed for a hosting request or for the next launch of a server.
  Whoever claims a port looks at the table of claims and asks whether another program holds the
  port. A server that runs has no claim, it holds its port itself. Only a port that an option names
  is compared with the registry, and that is done when the request looks at its options.

  - `Traffic.CanHandOut` says which ports can be handed out at a moment.
    `Traffic.Sound.canHandOut_of_request` and `Traffic.Sound.canHandOut_of_restart` say that no
    others are.
  - `Traffic.Sighted` is the record of what requests have seen of the registry. Every step keeps it.
  - `Traffic.ports_of_run` is the result for every run in which no identifier is drawn twice. -/

namespace HostDaemon

/-- Does the option line of a request name a port? -/
def Hosting.NamesPort (asked : Hosting) : Prop :=
  ∃ options value, OptionList.parse asked.optionLine = .ok options ∧ ("port", value) ∈ options

namespace Traffic

/-- A port is claimed for a hosting request. -/
def IsClaimedForRequest (t : Traffic) (i : Nat) (port : UInt16) : Prop :=
  ∃ asked, t.hostings[i]? = some asked ∧ port ∈ asked.stage.claims

/-- A port is claimed for the next launch of a server. -/
def IsClaimedForRestart (t : Traffic) (ref : ServerRef) (port : UInt16) : Prop :=
  ∃ v, t.fleet.supervisor? ref = some v ∧ port ∈ v.phase.claims

instance (t : Traffic) (i : Nat) (port : UInt16) : Decidable (t.IsClaimedForRequest i port) :=
  decidable_of_iff ((t.hostings[i]?).any (fun asked => decide (port ∈ asked.stage.claims)) = true)
    (by simp only [Option.any_eq_true, decide_eq_true_eq, IsClaimedForRequest])

instance (t : Traffic) (ref : ServerRef) (port : UInt16) :
    Decidable (t.IsClaimedForRestart ref port) :=
  decidable_of_iff ((t.fleet.supervisor? ref).any (fun v => decide (port ∈ v.phase.claims)) = true)
    (by simp only [Option.any_eq_true, decide_eq_true_eq, IsClaimedForRestart])

/-- A port can be handed out. -/
structure CanHandOut (t : Traffic) (env : Surroundings) (port : UInt16) : Prop where
  /-- It is in the range. -/
  inRange : t.fleet.ports.min ≤ port ∧ port < t.fleet.ports.max
  /-- It is claimed for no request. -/
  not_requested : port ∉ t.claims
  /-- It is claimed for no launch. -/
  not_launched : port ∉ t.fleet.claims
  /-- No program holds it. -/
  isFree : env.isFree port = true

variable {t : Traffic} {env : Surroundings} {a : Action} {i : Nat} {ref : ServerRef}
  {asked asked' : Hosting} {stage : HostingStage} {gate : Option Nat} {f f' : Fleet}
  {spec : LaunchSpec} {port : UInt16} {registered : List UInt16}

/-- What the pool hands out is nobody's. -/
theorem Sound.canHandOut (h : t.Sound) (hgives : t.fleet.ports.Gives env.isFree port) :
    t.CanHandOut env port := by
  obtain ⟨hrange, hfresh, hfree⟩ := hgives
  rw [h.accounts.mem_iff, List.mem_append, not_or] at hfresh
  exact ⟨hrange, hfresh.2, hfresh.1, hfree⟩

/-- Where the ports of registered servers are found held none of them can be handed out. -/
theorem CanHandOut.not_registered (h : t.CanHandOut env port)
    (hheld : ∀ key ∈ t.fleet.registry.ports, env.isFree key = false) :
    port ∉ t.fleet.registry.ports := by
  intro hmem
  have hfree := h.isFree
  rw [hheld port hmem] at hfree
  cases hfree

/-- Nobody shares a claim. -/
theorem Sound.claims_nodup (h : t.Sound) : (t.fleet.claims ++ t.claims).Nodup :=
  h.accounts.nodup_iff.1 h.crew.claimed_nodup

/-! ### Hosting requests -/

theorem mem_claims_iff : port ∈ stage.claims ↔ ∃ spec, stage = .claimed spec port := by
  cases stage with
  | claimed spec other => simp [HostingStage.claims, eq_comm]
  | _ => simp [HostingStage.claims]

/-- Whoever has come further than to be permitted was working before. -/
theorem Advance.isWorking_before (h : Advance t i asked stage gate f)
    (hworking : stage.isWorking = true) (hbeyond : stage ≠ .permitted) :
    asked.stage.isWorking = true := by
  cases h with
  | stay => exact hworking
  | work hbefore => exact hbefore
  | grant => exact absurd rfl hbeyond
  | enter | count | refuse | launch | finish => cases hworking

/-- A request that works goes on to its next stage. -/
theorem stepHosting_of_isWorking (env : Surroundings) (hget : t.hostings[i]? = some asked)
    (hworking : asked.stage.isWorking = true) :
    t.stepHosting env i = { t.setStage i (nextStage t.fleet env asked).1 with
      fleet := (nextStage t.fleet env asked).2 } := by
  unfold stepHosting
  simp only [hget]
  cases hstage : asked.stage with
  | permitted | looked | built | claimed | failed | launched | answered => rfl
  | waiting | countedPending | countedLaunching =>
    rw [hstage] at hworking
    cases hworking

/-- A request that has come further than to be permitted was there before, or its stage is the next
    one. -/
theorem Goes.working_before (h : Goes (t.scope env a) t (t.step env a))
    (hget' : (t.step env a).hostings[i]? = some asked') (hworking : asked'.stage.isWorking = true)
    (hbeyond : asked'.stage ≠ .permitted) :
    t.hostings[i]? = some asked' ∨ a = .hosting i ∧ ∃ asked, t.hostings[i]? = some asked ∧
      asked' = { asked with stage := asked'.stage } ∧
      nextStage t.fleet env asked = (asked'.stage, (t.step env a).fleet) := by
  rcases h.serves.before hget' with ⟨hfirst, -⟩ | ⟨asked, hget, hmoved, hsame | ⟨rfl, hadvance⟩⟩
  · -- A request that has just come is permitted at most.
    cases hstage : asked'.stage with
    | permitted => exact absurd hstage hbeyond
    | looked | built | claimed | failed =>
      rw [hstage] at hfirst
      exact hfirst.elim
    | waiting | countedPending | countedLaunching | launched | answered =>
      rw [hstage] at hworking
      cases hworking
  · left
    rw [hsame] at hmoved
    rw [hget, hmoved]
  · right
    refine ⟨rfl, asked, hget, hmoved, ?_⟩
    have hstep := stepHosting_of_isWorking env hget (hadvance.isWorking_before hworking hbeyond)
    change (t.stepHosting env i).hostings[i]? = _ at hget'
    change _ = (_, (t.stepHosting env i).fleet)
    rw [hstep] at hget' ⊢
    change (t.setStage i (nextStage t.fleet env asked).1).hostings[i]? = _ at hget'
    rw [getElem?_setStage, if_pos rfl, hget, Option.map_some, Option.some.injEq] at hget'
    rw [← hget']

/-- A request has seen the registry as it is. -/
theorem nextStage_eq_looked (h : nextStage f env asked = (.looked registered, f')) :
    asked.stage = .permitted ∧ registered = f.registry.ports := by
  cases hstage : asked.stage with
  | permitted =>
    simp only [nextStage, hstage] at h
    cases h
    exact ⟨rfl, rfl⟩
  | looked | built | claimed =>
    simp only [nextStage, hstage] at h
    split at h <;> cases h
  | _ =>
    simp only [nextStage, hstage] at h
    cases h

/-- The specification of a request is built against the ports that it has seen. -/
theorem nextStage_eq_built (h : nextStage f env asked = (.built spec, f')) :
    ∃ registered, asked.stage = .looked registered ∧
      f.buildSpec env registered asked.owner asked.level asked.optionLine asked.port
        asked.recovering = .ok spec := by
  cases hstage : asked.stage with
  | looked registered =>
    simp only [nextStage, hstage] at h
    split at h
    next hbuild =>
      cases h
      exact ⟨registered, rfl, hbuild⟩
    next => cases h
  | built | claimed =>
    simp only [nextStage, hstage] at h
    split at h <;> cases h
  | _ =>
    simp only [nextStage, hstage] at h
    cases h

/-- The port of a request is claimed for its specification. -/
theorem nextStage_eq_claimed (h : nextStage f env asked = (.claimed spec port, f')) :
    asked.stage = .built spec ∧ f.reserveFor env spec = .ok (port, f') := by
  cases hstage : asked.stage with
  | built other =>
    simp only [nextStage, hstage] at h
    split at h
    next hreserve =>
      cases h
      exact ⟨rfl, hreserve⟩
    next => cases h
  | looked | claimed =>
    simp only [nextStage, hstage] at h
    split at h <;> cases h
  | _ =>
    simp only [nextStage, hstage] at h
    cases h

/-- A port is claimed for a request only if it can be handed out. -/
theorem Sound.canHandOut_of_request (h : t.Sound) (hgoes : Goes (t.scope env a) t (t.step env a))
    (hclaimed : (t.step env a).IsClaimedForRequest i port) :
    t.IsClaimedForRequest i port ∨ t.CanHandOut env port := by
  obtain ⟨asked', hget', hport⟩ := hclaimed
  obtain ⟨spec, hstage'⟩ := mem_claims_iff.1 hport
  rcases hgoes.working_before hget' (by rw [hstage']; rfl) (by simp [hstage']) with
    hbefore | ⟨-, asked, hget, -, hnext⟩
  · exact Or.inl ⟨asked', hbefore, hport⟩
  · rw [hstage'] at hnext
    exact Or.inr (h.canHandOut (Fleet.reserveFor_eq_ok (nextStage_eq_claimed hnext).2).1)

/-! ### Launches after an end -/

theorem mem_phase_claims_iff {phase : SupervisorPhase} :
    port ∈ phase.claims ↔ phase = .restarting port := by
  cases phase <;> simp [SupervisorPhase.claims, eq_comm]

/-- A supervisor comes to claim a port only if the pool hands it out. -/
theorem gives_of_advance {s : Server} {v v' : Supervisor} (hs : f.server? ref = some s)
    (hv : f.supervisor? ref = some v) (hv' : (f.advance env ref).supervisor? ref = some v')
    (hphase' : v'.phase = .restarting port) (hnew : v.phase ≠ .restarting port) :
    f.ports.Gives env.isFree port := by
  simp only [Fleet.advance, hv, hs] at hv'
  cases hphase : v.phase with
  | reading =>
    simp only [hphase] at hv'
    split at hv'
    · rw [hv, Option.some.injEq] at hv'
      rw [hv'] at hnew
      exact absurd hphase' hnew
    · have hended := phase_setPhase hv'
      rw [hphase'] at hended
      cases hended
  | ended | reported | restarting =>
    simp only [hphase] at hv'
    have hnext := phase_setPhase hv'
    rw [hphase'] at hnext
    cases hnext
  | removed =>
    simp only [hphase] at hv'
    have hnext := phase_setPhase hv'
    rcases f.planRestart_cases env v s with ⟨f', -, hplan, -⟩ | ⟨other, notice, -, hgives, hplan⟩
    · rw [hphase', hplan] at hnext
      cases hnext
    · rw [hphase', hplan, SupervisorPhase.restarting.injEq] at hnext
      rw [hnext]
      exact hgives
  | done =>
    simp only [hphase] at hv'
    rw [hv, Option.some.injEq] at hv'
    rw [hv'] at hnew
    exact absurd hphase' hnew

/-- A port is claimed for the next launch of a server only if it can be handed out. -/
theorem Sound.canHandOut_of_restart (h : t.Sound) (hgoes : Goes (t.scope env a) t (t.step env a))
    (hclaimed : (t.step env a).IsClaimedForRestart ref port) :
    t.IsClaimedForRestart ref port ∨ t.CanHandOut env port := by
  obtain ⟨v', hv', hport⟩ := hclaimed
  have hphase' := mem_phase_claims_iff.1 hport
  obtain ⟨l', hl', rfl⟩ := life_of_supervisor? hgoes.sound.crew hv'
  rcases Nat.lt_or_ge ref t.fleet.servers.length with hlt | hnew
  · obtain ⟨l, hl⟩ := exists_life h.crew hlt
    by_cases hold : l.watch.phase = .restarting port
    · exact Or.inl ⟨l.watch, watch_of_life? hl, mem_phase_claims_iff.2 hold⟩
    · -- Only its own supervisor can have claimed the port.
      right
      obtain ⟨rfl, hstep⟩ :=
        hgoes.advance_of_phase_ne hl hl' (by rw [hphase']; exact Ne.symm hold)
      rw [hstep] at hv'
      obtain ⟨s, hs, -⟩ := standing_of_life? hl
      exact h.canHandOut (gives_of_advance hs (watch_of_life? hl) hv' hphase' hold)
  · have hreading := hgoes.reading_of_new hl' hnew
    rw [hphase'] at hreading
    cases hreading

/-- Every server is launched on a port that was claimed for it. -/
theorem Sound.claimed_of_launch (h : t.Sound) (hgoes : Goes (t.scope env a) t (t.step env a))
    {v : Supervisor} (hv : (t.step env a).fleet.supervisor? ref = some v)
    (hnew : t.fleet.supervisor? ref = none) :
    (∃ i, t.IsClaimedForRequest i v.launchPort) ∨
      ∃ other, t.IsClaimedForRestart other v.launchPort := by
  have hge : t.fleet.servers.length ≤ ref := by
    rw [← Nat.not_lt, ← h.crew.isSupervised.supervisor?_isSome_iff, hnew]
    exact Bool.false_ne_true
  obtain ⟨l', hl', rfl⟩ := life_of_supervisor? hgoes.sound.crew hv
  obtain ⟨-, s, w, rfl, hbegets⟩ := hgoes.born_of_new hl' hge
  cases hbegets with
  | @hosted asked spec _ _ hmem hstage =>
    obtain ⟨i, hget⟩ := List.getElem?_of_mem hmem
    exact Or.inl ⟨i, asked, hget, mem_claims_iff.2 ⟨spec, hstage⟩⟩
  | @relaunched other l _ _ hlife hphase =>
    exact Or.inr ⟨other, l.watch, watch_of_life? hlife, mem_phase_claims_iff.2 hphase⟩

/-! ### What requests have seen of the registry -/

/-- At some moment of a run a request that was permitted has seen which ports are registered. -/
def Saw (s : Traffic) (steps : List (Surroundings × Action)) (i : Nat) (asked : Hosting)
    (registered : List UInt16) : Prop :=
  ∃ before env after, steps = before ++ (env, .hosting i) :: after ∧
    (s.run before).hostings[i]? = some { asked with stage := .permitted } ∧
    registered = (s.run before).fleet.registry.ports

/-- What the requests have seen of the registry, and what has come of it. -/
structure Sighted (s : Traffic) (steps : List (Surroundings × Action)) : Prop where
  /-- The ports that a request has seen were registered. -/
  looked : ∀ (i : Nat) (asked : Hosting) (registered : List UInt16),
    (s.run steps).hostings[i]? = some asked → asked.stage = .looked registered →
    Saw s steps i asked registered
  /-- The port that an option names was not registered. -/
  named : ∀ (i : Nat) (asked : Hosting) (spec : LaunchSpec),
    (s.run steps).hostings[i]? = some asked → asked.stage = .built spec → asked.NamesPort →
    ∃ registered port, Saw s steps i asked registered ∧ spec.requestedPort = some port ∧
      port ∉ registered
  /-- The port that is claimed for a request with such an option was not registered. -/
  claimed : ∀ (i : Nat) (asked : Hosting) (port : UInt16),
    (s.run steps).hostings[i]? = some asked → port ∈ asked.stage.claims → asked.NamesPort →
    ∃ registered, Saw s steps i asked registered ∧ port ∉ registered

theorem Saw.extend {s : Traffic} {steps : List (Surroundings × Action)}
    (h : Saw s steps i asked registered) (last : Surroundings × Action) :
    Saw s (steps ++ [last]) i asked registered := by
  obtain ⟨before, env, after, hsplit, hpermitted, hregistered⟩ := h
  refine ⟨before, env, after ++ [last], ?_, hpermitted, hregistered⟩
  rw [hsplit, List.append_assoc, List.cons_append]

/-- What a request has seen does not depend on how far it has come since. -/
theorem Saw.of_moved {s : Traffic} {steps : List (Surroundings × Action)}
    (h : Saw s steps i asked registered) (hmoved : asked' = { asked with stage := stage }) :
    Saw s steps i asked' registered := by
  subst hmoved
  exact h

/-- Every step keeps the record of what the requests have seen. -/
theorem Sighted.step {s : Traffic} {steps : List (Surroundings × Action)} (h : Sighted s steps)
    (hgoes : Goes ((s.run steps).scope env a) (s.run steps) ((s.run steps).step env a)) :
    Sighted s (steps ++ [(env, a)]) := by
  have hrun : s.run (steps ++ [(env, a)]) = (s.run steps).step env a := by
    rw [run_append]
    rfl
  refine ⟨?_, ?_, ?_⟩
  · intro i asked' registered hget' hstage'
    rw [hrun] at hget'
    rcases hgoes.working_before hget' (by rw [hstage']; rfl) (by simp [hstage']) with
      hbefore | ⟨rfl, asked, hget, hmoved, hnext⟩
    · exact (h.looked i asked' registered hbefore hstage').extend _
    · -- It has looked with this step.
      rw [hstage'] at hnext
      obtain ⟨hpermitted, hregistered⟩ := nextStage_eq_looked hnext
      refine ⟨steps, env, [], rfl, ?_, hregistered⟩
      rw [hget, hmoved, ← hpermitted]
  · intro i asked' spec hget' hstage' hnames
    rw [hrun] at hget'
    rcases hgoes.working_before hget' (by rw [hstage']; rfl) (by simp [hstage']) with
      hbefore | ⟨rfl, asked, hget, hmoved, hnext⟩
    · obtain ⟨registered, port, hsaw, hrest⟩ := h.named i asked' spec hbefore hstage' hnames
      exact ⟨registered, port, hsaw.extend _, hrest⟩
    · -- Its options were checked with this step, against what it has seen.
      rw [hstage'] at hnext
      obtain ⟨registered, hlooked, hbuild⟩ := nextStage_eq_built hnext
      rw [hmoved] at hnames
      obtain ⟨options, value, hparse, hmem⟩ := hnames
      obtain ⟨port, hport, hfresh⟩ := Fleet.buildSpec_asksUnregistered hbuild hparse hmem
      have hsaw := h.looked i asked registered hget hlooked
      exact ⟨registered, port, (hsaw.of_moved hmoved).extend _, hport, hfresh⟩
  · intro i asked' port hget' hport hnames
    obtain ⟨spec, hstage'⟩ := mem_claims_iff.1 hport
    rw [hrun] at hget'
    rcases hgoes.working_before hget' (by rw [hstage']; rfl) (by simp [hstage']) with
      hbefore | ⟨rfl, asked, hget, hmoved, hnext⟩
    · obtain ⟨registered, hsaw, hfresh⟩ := h.claimed i asked' port hbefore hport hnames
      exact ⟨registered, hsaw.extend _, hfresh⟩
    · -- It has claimed the port for which its specification asks.
      rw [hstage'] at hnext
      obtain ⟨hbuilt, hreserve⟩ := nextStage_eq_claimed hnext
      rw [hmoved] at hnames
      obtain ⟨registered, named, hsaw, hasked, hfresh⟩ := h.named i asked spec hget hbuilt hnames
      obtain rfl := Fleet.reserveFor_named hreserve hasked
      exact ⟨registered, (hsaw.of_moved hmoved).extend _, hfresh⟩

/-! ### Over whole runs -/

/-- What the requests have seen is on record in every run in which no identifier is drawn twice. -/
theorem sighted_run {config : Config} (logDir : Path) (files : FileSystem)
    (hmin : 0 < config.host.minPort) {steps : List (Surroundings × Action)}
    (hdrawn : (drawn steps).Nodup) :
    Sighted (Traffic.start (.start config logDir files)) steps := by
  induction steps using List.reverseRecOn with
  | nil =>
    refine ⟨?_, ?_, ?_⟩
    · intro i asked registered hget
      cases hget
    · intro i asked spec hget
      cases hget
    · intro i asked port hget
      cases hget
  | append_singleton steps last ih =>
    obtain ⟨env, a⟩ := last
    exact (ih (nodup_drawn_left hdrawn)).step (goes_run logDir files hmin hdrawn)

/-- The ports that are handed out in any step after any run in which no identifier is drawn twice.

    - Nobody ever shares a claim, whoever claims it for a request, for a launch or for the next one.
    - A port that comes to be claimed for a request or for the next launch of a server is in the
      range, is claimed for nobody else, and no program holds it. So it is no registered one where
      the registered ports are found held.
    - A port that is claimed for a request whose options name one was not registered when the request
      looked at the registry.
    - Every server is launched on a port that was claimed in this way. -/
theorem ports_of_run (config : Config) (logDir : Path) (files : FileSystem)
    (hmin : 0 < config.host.minPort) (steps : List (Surroundings × Action)) (env : Surroundings)
    (a : Action) (hdrawn : (drawn (steps ++ [(env, a)])).Nodup) :
    let start := Traffic.start (.start config logDir files)
    let t := start.run steps
    let t' := t.step env a
    (t'.fleet.claims ++ t'.claims).Nodup ∧
    (∀ i port, t'.IsClaimedForRequest i port →
      t.IsClaimedForRequest i port ∨ t.CanHandOut env port) ∧
    (∀ ref port, t'.IsClaimedForRestart ref port →
      t.IsClaimedForRestart ref port ∨ t.CanHandOut env port) ∧
    ((∀ key ∈ t.fleet.registry.ports, env.isFree key = false) →
      ∀ port, t.CanHandOut env port → port ∉ t.fleet.registry.ports) ∧
    (∀ (i : Nat) (asked : Hosting) (port : UInt16), t'.hostings[i]? = some asked →
      port ∈ asked.stage.claims → asked.NamesPort →
      ∃ before env' after, steps ++ [(env, a)] = before ++ (env', .hosting i) :: after ∧
        (start.run before).hostings[i]? = some { asked with stage := .permitted } ∧
        port ∉ (start.run before).fleet.registry.ports) ∧
    ∀ ref v, t'.fleet.supervisor? ref = some v → t.fleet.supervisor? ref = none →
      (∃ i, t.IsClaimedForRequest i v.launchPort) ∨
        ∃ other, t.IsClaimedForRestart other v.launchPort := by
  intro start t t'
  have hsound : t.Sound := sound_run logDir files hmin (nodup_drawn_left hdrawn)
  have hgoes : Goes (t.scope env a) t t' := goes_run logDir files hmin hdrawn
  refine ⟨hgoes.sound.claims_nodup, ?_, ?_, ?_, ?_, ?_⟩
  · exact fun i port hclaimed => hsound.canHandOut_of_request hgoes hclaimed
  · exact fun ref port hclaimed => hsound.canHandOut_of_restart hgoes hclaimed
  · exact fun hheld port hcan => hcan.not_registered hheld
  · intro i asked port hget hport hnames
    have hrun : start.run (steps ++ [(env, a)]) = t' := by
      rw [run_append]
      rfl
    rw [← hrun] at hget
    obtain ⟨registered, ⟨before, env', after, hsplit, hpermitted, rfl⟩, hfresh⟩ :=
      (sighted_run logDir files hmin hdrawn).claimed i asked port hget hport hnames
    exact ⟨before, env', after, hsplit, hpermitted, hfresh⟩
  · exact fun ref v hv hnew => hsound.claimed_of_launch hgoes hv hnew

/-- On the small machine the first server reports its start. It gives up its claim with that, and is
    registered. -/
def smallRunning : List Action := [.line 0 "UDP Initialized.", .finishStart 0]

/-- A second server is asked for. Its request looks at the registry, and its options are checked. -/
def smallSecond (optionLine : String) (port : Option UInt16) : List Action :=
  [.request (.host "al" optionLine port true), .hosting 1, .hosting 1]

/-- On the small machine a port that an option names is claimed where it can be handed out and was not
    registered. -/
theorem ports_of_small_run :
    let env : Surroundings := ⟨0, fun _ => true, fun _ => none, "y", 1⟩
    let steps := smallSteps
      (smallHosting ++ smallRunning ++ smallSecond "iwad=doom2 port=12" none)
    let t := (smallStart 0).run steps
    (t.step env (.hosting 1)).IsClaimedForRequest 1 12 ∧ t.CanHandOut env 12 ∧
      ∃ before env' after, steps ++ [(env, .hosting 1)] = before ++ (env', .hosting 1) :: after ∧
        12 ∉ ((smallStart 0).run before).fleet.registry.ports := by
  intro env steps t
  have hclaimed : (t.step env (.hosting 1)).IsClaimedForRequest 1 12 := by decide +kernel
  have hunclaimed : ¬ t.IsClaimedForRequest 1 12 := by decide +kernel
  have hline : ((t.step env (.hosting 1)).hostings[1]?).map (·.optionLine) =
      some "iwad=doom2 port=12" := by decide +kernel
  have hparse : OptionList.parse "iwad=doom2 port=12" = .ok [("iwad", "doom2"), ("port", "12")] := by
    decide +kernel
  have hrun := ports_of_run (smallConfig 0) "/l" smallFiles (by decide) steps env (.hosting 1)
    (by decide +kernel)
  obtain ⟨asked, hget, hport⟩ := id hclaimed
  rw [hget, Option.map_some, Option.some.injEq] at hline
  obtain ⟨before, env', after, hsplit, -, hfresh⟩ := hrun.2.2.2.2.1 1 asked 12 hget hport
    ⟨_, "12", hline ▸ hparse, by simp⟩
  exact ⟨hclaimed, (hrun.2.1 1 12 hclaimed).resolve_left hunclaimed, before, env', after, hsplit,
    hfresh⟩

/-- Where all ports are found free, one that is registered can be handed out: to a request that names
    none, or names one beside its options, and to a server that is launched again. So can a port that
    an option names, where it is registered after the request has looked. -/
theorem hands_out_registered_ports :
    let env : Surroundings := ⟨0, fun _ => true, fun _ => none, "y", 1⟩
    let least := smallHosting ++ smallRunning ++ smallSecond "iwad=doom2" none
    let beside := smallHosting ++ smallRunning ++ smallSecond "iwad=doom2" (some 10)
    let late := smallHosting.take 1 ++ smallSecond "iwad=doom2 port=10" none ++
      smallHosting.drop 1 ++ smallRunning
    let again := smallHosting ++ smallEnd 0 ++ [.supervise 0] ++ smallSecond "iwad=doom2" none ++
      [.hosting 1, .hosting 1, .line 1 "UDP Initialized.", .finishStart 1]
    (∀ actions ∈ [least, beside, late],
      let t := (smallStart 0).run (smallSteps actions)
      let t' := t.step env (.hosting 1)
      10 ∈ t.fleet.registry.ports ∧ ¬ t.IsClaimedForRequest 1 10 ∧ t'.IsClaimedForRequest 1 10 ∧
        ((t'.step env (.hosting 1)).fleet.supervisor? 1).map (·.launchPort) = some 10) ∧
    let t := (smallStart 1).run (smallSteps again)
    10 ∈ t.fleet.registry.ports ∧ ¬ t.IsClaimedForRestart 0 10 ∧
      (t.step env (.supervise 0)).IsClaimedForRestart 0 10 := by
  decide +kernel

end Traffic

end HostDaemon
