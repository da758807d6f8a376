import HostDaemon.Proofs.Traffic.Attended
import HostDaemon.Proofs.Traffic.Claims

/-! # The end of the daemon

  The registered servers are listed, then the launching ones, and then all of them are killed, while
  everything else goes on.

  - `Traffic.Ending` says how far that has come in a run, and who was listed at which moment. It is
    kept by every step (`Traffic.ending_step`).
  - `Traffic.Missed` lists the ways in which a server is not listed that has a process afterwards.
  - `Traffic.AtRest` is the condition under which nothing follows on the end of the daemon.
  - `Traffic.shutdown_of_run` is the result for every run. -/

namespace HostDaemon

namespace Fleet

variable {f : Fleet} {ref : ServerRef}

/-! ### Who is listed -/

/-- All registered servers are listed. -/
theorem mem_map_all_iff (hcrew : f.Crew) : ref ∈ f.all.map (·.1) ↔ f.IsRegistered ref := by
  rw [List.mem_map]
  constructor
  · rintro ⟨⟨ref, s⟩, hmem, rfl⟩
    exact Registry.mem_servers_iff.1 (mem_all_iff.1 hmem).1
  · rintro ⟨port, hentry⟩
    have hlt := hcrew.registered_lt _ hentry
    refine ⟨(ref, f.servers[ref]), mem_all_iff.2 ⟨?_, List.getElem?_eq_getElem hlt⟩, rfl⟩
    exact Registry.mem_servers_iff.2 ⟨port, hentry⟩

/-- All launching servers are listed that are not listed already. -/
theorem mem_launchingBeside_iff (hcrew : f.Crew) {refs : List ServerRef} :
    ref ∈ f.launchingBeside refs ↔ f.isLaunching ref = true ∧ ref ∉ refs := by
  rw [launchingBeside, List.mem_filter, Bool.not_eq_true', ← Bool.not_eq_true,
    List.contains_iff_mem]
  refine and_congr_left fun _ => ?_
  rw [isLaunching, List.any_eq_true, List.mem_map]
  constructor
  · rintro ⟨⟨ref, s⟩, hmem, rfl⟩
    obtain ⟨e, he, hfound⟩ := List.mem_filterMap.1 hmem
    obtain ⟨found, -, heq⟩ := Option.map_eq_some_iff.1 hfound
    cases heq
    exact ⟨e, he, decide_eq_true rfl⟩
  · rintro ⟨e, he, heq⟩
    rw [decide_eq_true_eq] at heq
    obtain ⟨s, hs, -⟩ := Option.map_eq_some_iff.1 (hcrew.launching_ids e he)
    refine ⟨(ref, s), List.mem_filterMap.2 ⟨e, he, ?_⟩, rfl⟩
    rw [heq] at hs
    simp only [heq, hs, Option.map_some]

theorem lt_of_isLaunching (hcrew : f.Crew) (hlaunching : f.isLaunching ref = true) :
    ref < f.servers.length := by
  obtain ⟨e, he, heq⟩ := List.any_eq_true.1 hlaunching
  obtain ⟨server, hserver, -⟩ := Option.map_eq_some_iff.1 (hcrew.launching_ids e he)
  rw [of_decide_eq_true heq] at hserver
  exact (List.getElem?_eq_some_iff.1 hserver).1

end Fleet

namespace Traffic

variable {s t t' : Traffic} {ref : ServerRef} {l : Life}

/-! ### Servers that are put down -/

/-- A server that was killed on purpose, and whose process has ended. -/
def IsPutDown (t : Traffic) (ref : ServerRef) : Prop :=
  t.IsMarked ref ∧ t.fleet.hasProcess ref = false

theorem isMarked_iff (hl : t.life? ref = some l) :
    t.IsMarked ref ↔ l.standing.isKilled = true := by
  obtain ⟨server, hserver, hstanding⟩ := standing_of_life? hl
  rw [← hstanding]
  constructor
  · rintro ⟨server', hserver', hkilled⟩
    rw [hserver, Option.some.injEq] at hserver'
    exact hserver' ▸ hkilled
  · exact fun hkilled => ⟨server, hserver, hkilled⟩

/-- Whoever is put down stays so. -/
theorem IsPutDown.later (h : t.IsPutDown ref) (hcrew : t.fleet.Crew) (hlater : Later t t') :
    t'.IsPutDown ref := by
  obtain ⟨⟨server, hserver, hkilled⟩, hdead⟩ := h
  obtain ⟨l, hl, hstanding⟩ := life_of_server? hcrew hserver
  obtain ⟨l', hl', hpath⟩ := hlater.lives ref l hl
  rw [hasProcess_of_life? hl] at hdead
  refine ⟨(isMarked_iff hl').2 (hpath.isKilled ?_), ?_⟩
  · rw [← hstanding]
    exact hkilled
  · rw [hasProcess_of_life? hl']
    exact hpath.dead hdead

/-- A server that is killed at the end of the daemon is put down. -/
theorem Sound.isPutDown_killQuietly (h : t.Sound) (hidentified : t.Identified)
    (hold : ref < t.fleet.servers.length) :
    IsPutDown { t with fleet := t.fleet.killQuietly ref false } ref := by
  constructor
  · obtain ⟨l, hl⟩ := exists_life h.crew hold
    obtain ⟨m, hm, -⟩ := fate?_of_life? hl
    have hfate := t.fleet.fate?_call ⟨ref, false, true⟩ ref
    rw [if_pos rfl, hm, Option.map_some] at hfate
    obtain ⟨server, hserver, heq⟩ := Option.map_eq_some_iff.1 hfate
    exact ⟨server, hserver, congrArg (·.standing.isKilled) heq⟩
  · by_contra hprocess
    rw [Bool.not_eq_false] at hprocess
    have hkilled : (t.fleet.call ⟨ref, false, true⟩).2.hasProcess ref = true := hprocess
    obtain ⟨hbefore, hnone⟩ := Fleet.hasProcess_call hkilled
    obtain ⟨pid, hpid⟩ := hidentified ref hbefore
    rw [hnone rfl] at hpid
    cases hpid

/-! ### How far the end of the daemon has come -/

/-- Nothing but the end of the daemon brings it further. -/
theorem shutdown_step (t : Traffic) (env : Surroundings) {a : Action} (ha : a ≠ .shutdown) :
    (t.step env a).shutdown = t.shutdown := by
  cases a with
  | shutdown => exact absurd rfl ha
  | request r => cases r <;> rfl
  | hosting i =>
    change (t.stepHosting env i).shutdown = _
    unfold stepHosting
    repeat' split
    all_goals rfl
  | line server text =>
    change (t.stepLine env server text).shutdown = _
    unfold stepLine register
    repeat' split
    all_goals rfl
  | finishStart server =>
    change (t.stepStart server).shutdown = _
    unfold stepStart
    split <;> rfl
  | supervise server =>
    change (t.stepSupervisor env server).shutdown = _
    unfold stepSupervisor
    split <;> rfl
  | beginKill server byOwner =>
    change (t.beginKill server byOwner).shutdown = _
    unfold beginKill
    split <;> rfl
  | kill i =>
    change (t.stepKill i).shutdown = _
    unfold stepKill
    split <;> rfl
  | processEnds | beginLookup | finishLookup | sweep => rfl

/-- In a run from `s` the registered servers were listed right after some first steps, and the
    launching ones right after some more. -/
structure ListedAt (s : Traffic) (steps first second : List (Surroundings × Action)) : Prop where
  /-- The end of the daemon begins with the registered servers. -/
  notBegun : (s.run first).shutdown = .notBegun
  /-- They are listed next. -/
  first_step : ∃ env, first ++ [(env, .shutdown)] <+: second
  /-- It goes on with the launching servers. -/
  listed : ∃ registered, (s.run second).shutdown = .listed registered
  /-- They are listed next. -/
  second_step : ∃ env, second ++ [(env, .shutdown)] <+: steps

/-- A server that was registered when the registered servers were listed, or launching when the
    launching ones were. -/
def Targeted (t₁ t₂ : Traffic) (ref : ServerRef) : Prop :=
  t₁.fleet.IsRegistered ref ∨ t₂.fleet.isLaunching ref = true

/-- What is known of a run by how far the end of the daemon has come. -/
def Ending (s : Traffic) (steps : List (Surroundings × Action)) : ShutdownStage → Prop
  | .notBegun => True
  | .listed registered => ∃ first env, first ++ [(env, .shutdown)] <+: steps ∧
      (s.run first).shutdown = .notBegun ∧ registered = (s.run first).fleet.all.map (·.1)
  | .killing targets => ∃ first second, ListedAt s steps first second ∧
      ∀ ref, Targeted (s.run first) (s.run second) ref → (s.run steps).IsPutDown ref ∨ ref ∈ targets
  | .finished => ∃ first second, ListedAt s steps first second ∧
      ∀ ref, Targeted (s.run first) (s.run second) ref → (s.run steps).IsPutDown ref

/-- Who was listed when does not depend on what comes later. -/
theorem ListedAt.extend {steps first second : List (Surroundings × Action)}
    (h : ListedAt s steps first second) (more : List (Surroundings × Action)) :
    ListedAt s (steps ++ more) first second := by
  obtain ⟨hnotBegun, hfirst, hlisted, env, hsecond⟩ := h
  exact ⟨hnotBegun, hfirst, hlisted, env, hsecond.trans (List.prefix_append ..)⟩

/-- What is known stays so where nobody comes back, with more steps of others. -/
theorem Ending.extend {steps : List (Surroundings × Action)} {stage : ShutdownStage}
    (h : Ending s steps stage) (more : List (Surroundings × Action))
    (hkept : ∀ ref, (s.run steps).IsPutDown ref → (s.run (steps ++ more)).IsPutDown ref) :
    Ending s (steps ++ more) stage := by
  cases stage with
  | notBegun => trivial
  | listed registered =>
    obtain ⟨first, env, hfirst, hrest⟩ := h
    exact ⟨first, env, hfirst.trans (List.prefix_append ..), hrest⟩
  | killing targets =>
    obtain ⟨first, second, hat, htargets⟩ := h
    exact ⟨first, second, hat.extend more, fun ref href => (htargets ref href).imp_left (hkept ref)⟩
  | finished =>
    obtain ⟨first, second, hat, htargets⟩ := h
    exact ⟨first, second, hat.extend more, fun ref href => hkept ref (htargets ref href)⟩

/-- Whoever is to be listed is listed. -/
theorem Targeted.mem_targets {t₁ t₂ : Traffic} (h : Targeted t₁ t₂ ref) (hcrew₁ : t₁.fleet.Crew)
    (hcrew₂ : t₂.fleet.Crew) :
    ref ∈ t₁.fleet.all.map (·.1) ++ t₂.fleet.launchingBeside (t₁.fleet.all.map (·.1)) := by
  rw [List.mem_append, Fleet.mem_launchingBeside_iff hcrew₂, Fleet.mem_map_all_iff hcrew₁]
  rcases h with hregistered | hlaunching
  · exact Or.inl hregistered
  · by_cases hregistered : t₁.fleet.IsRegistered ref
    · exact Or.inl hregistered
    · exact Or.inr ⟨hlaunching, hregistered⟩

/-- Whoever was listed is there at all later moments. -/
theorem Targeted.lt {t₁ t₂ : Traffic} (h : Targeted t₁ t₂ ref) (hcrew₁ : t₁.fleet.Crew)
    (hcrew₂ : t₂.fleet.Crew) (hcrew : t.fleet.Crew) (hlater₁ : Later t₁ t) (hlater₂ : Later t₂ t) :
    ref < t.fleet.servers.length := by
  have hlife : (∃ l, t₁.life? ref = some l) ∨ ∃ l, t₂.life? ref = some l := by
    rcases h with ⟨port, hentry⟩ | hlaunching
    · exact Or.inl (exists_life hcrew₁ (hcrew₁.registered_lt _ hentry))
    · exact Or.inr (exists_life hcrew₂ (Fleet.lt_of_isLaunching hcrew₂ hlaunching))
  rcases hlife with ⟨l, hl⟩ | ⟨l, hl⟩
  · obtain ⟨l', hl', -⟩ := hlater₁.lives ref l hl
    exact lt_of_life? hcrew hl'
  · obtain ⟨l', hl', -⟩ := hlater₂.lives ref l hl
    exact lt_of_life? hcrew hl'

section

variable {config : Config} (logDir : Path) (files : FileSystem) (hmin : 0 < config.host.minPort)

include hmin

/-- The moments of a run at which servers were listed come before its end, and all that holds at
    every moment holds at them. -/
theorem listedAt_run {steps first second : List (Surroundings × Action)}
    (hdrawn : (drawn steps).Nodup)
    (hat : ListedAt (.start (.start config logDir files)) steps first second) :
    let start := Traffic.start (.start config logDir files)
    (start.run first).Sound ∧ (start.run second).Sound ∧
      Later (start.run first) (start.run second) ∧ Later (start.run second) (start.run steps) := by
  obtain ⟨-, ⟨env, between, rfl⟩, -, env', rest, rfl⟩ := hat
  have hsecond := nodup_drawn_left (nodup_drawn_left hdrawn)
  rw [List.append_assoc] at hsecond
  refine ⟨sound_run logDir files hmin (nodup_drawn_left hsecond), ?_, ?_, ?_⟩
  · exact sound_run logDir files hmin (nodup_drawn_left (nodup_drawn_left hdrawn))
  · rw [List.append_assoc]
    exact later_run logDir files hmin hsecond
  · rw [List.append_assoc _ [(env', Action.shutdown)]] at hdrawn ⊢
    exact later_run logDir files hmin hdrawn

/-- Each step keeps what is known of the end of the daemon. -/
theorem ending_step {steps : List (Surroundings × Action)} {env : Surroundings} {a : Action}
    (hdrawn : (drawn (steps ++ [(env, a)])).Nodup) (hpids : ∀ e ∈ steps, e.1.freshPid ≠ 0)
    (hending : Ending (.start (.start config logDir files)) steps
      ((Traffic.start (.start config logDir files)).run steps).shutdown) :
    Ending (.start (.start config logDir files)) (steps ++ [(env, a)])
      ((Traffic.start (.start config logDir files)).run (steps ++ [(env, a)])).shutdown := by
  have hbefore := nodup_drawn_left hdrawn
  have hsound := sound_run logDir files hmin hbefore
  have hkept := fun ref (hdown : IsPutDown _ ref) =>
    hdown.later hsound.crew (later_run logDir files hmin hdrawn)
  have hextended := hending.extend [(env, a)] hkept
  have hrun : (Traffic.start (.start config logDir files)).run (steps ++ [(env, a)]) =
      ((Traffic.start (.start config logDir files)).run steps).step env a := by
    rw [run_append]
    rfl
  by_cases ha : a = .shutdown
  · subst ha
    generalize hstage : ((Traffic.start (.start config logDir files)).run steps).shutdown = stage
      at hending hextended
    simp only [step, stepShutdown, hstage] at hrun
    cases stage with
    | notBegun =>
      rw [hrun]
      exact ⟨steps, env, List.prefix_rfl, hstage, rfl⟩
    | listed registered =>
      rw [hrun]
      obtain ⟨first, env', ⟨rest, hfirst⟩, hnotBegun, rfl⟩ := hending
      have hsound₁ := sound_run logDir files hmin
        (nodup_drawn_left (nodup_drawn_left (hfirst ▸ hbefore)))
      exact ⟨first, steps, ⟨hnotBegun, ⟨env', rest, hfirst⟩, ⟨_, hstage⟩, env, List.prefix_rfl⟩,
        fun ref htargeted => Or.inr (htargeted.mem_targets hsound₁.crew hsound.crew)⟩
    | killing targets =>
      obtain ⟨first, second, hat, htargets⟩ := hending
      cases targets with
      | nil =>
        rw [hrun]
        refine ⟨first, second, hat.extend _, fun ref htargeted => hkept ref ?_⟩
        exact (htargets ref htargeted).resolve_right List.not_mem_nil
      | cons target targets =>
        have hstage' : ((Traffic.start (.start config logDir files)).run
            (steps ++ [(env, .shutdown)])).shutdown = .killing targets := by rw [hrun]
        rw [hstage']
        refine ⟨first, second, hat.extend _, fun ref htargeted => ?_⟩
        rcases htargets ref htargeted with hdown | hmem
        · exact Or.inl (hkept ref hdown)
        · rcases List.mem_cons.1 hmem with rfl | hmem
          · -- It is killed in this step.
            obtain ⟨hfirst, hsecond, hbetween, hsince⟩ := listedAt_run logDir files hmin hbefore hat
            have hold := htargeted.lt hfirst.crew hsecond.crew hsound.crew
              (hbetween.trans hsince) hsince
            rw [hrun]
            exact Or.inl (hsound.isPutDown_killQuietly
              (identified_run logDir files hmin hbefore hpids) hold)
          · exact Or.inr hmem
    | finished =>
      rw [hrun, hstage]
      exact hextended
  · -- Everybody else leaves it where it is.
    rw [hrun, shutdown_step _ env ha]
    exact hextended

theorem ending_run {steps : List (Surroundings × Action)} (hdrawn : (drawn steps).Nodup)
    (hpids : ∀ e ∈ steps, e.1.freshPid ≠ 0) :
    Ending (.start (.start config logDir files)) steps
      ((Traffic.start (.start config logDir files)).run steps).shutdown := by
  induction steps using List.reverseRecOn with
  | nil => trivial
  | append_singleton steps e ih =>
    have hbefore : ∀ e ∈ steps, e.1.freshPid ≠ 0 :=
      fun e hmem => hpids e (List.mem_append_left _ hmem)
    exact ending_step logDir files hmin hdrawn hbefore (ih (nodup_drawn_left hdrawn) hbefore)

end

/-! ### What comes after -/

/-- The ways in which a server is missed that has a process afterwards: it was launched when all
    were listed, or registered when only the registered ones were listed, or a kill had just taken it
    out of the registry. -/
def Missed (t₁ t₂ : Traffic) (ref : ServerRef) : Prop :=
  t₂.fleet.servers.length ≤ ref ∨ t₂.fleet.IsRegistered ref ∧ ¬ t₁.fleet.IsRegistered ref ∨
    t₂.IsCondemned ref

/-- Whoever has a process was missed where it was not listed. -/
theorem Sound.missed {t₁ t₂ : Traffic} (h : t₂.Sound) (hattended : t₂.Attended)
    (hlater : Later t₂ t) (hspared : ¬ Targeted t₁ t₂ ref)
    (hprocess : t.fleet.hasProcess ref = true) : Missed t₁ t₂ ref := by
  rcases Nat.lt_or_ge ref t₂.fleet.servers.length with hold | hnew
  · have hbefore := hlater.hasProcess_before h.crew hold hprocess
    obtain ⟨l, hl, halive⟩ := life_of_hasProcess h.crew hbefore
    have hok := h.ok ref l hl
    cases hrunning : l.standing.isRunning with
    | false =>
      -- Until it runs it is launching.
      refine absurd (Or.inr ?_) hspared
      rw [← isLaunching_of_life? hl]
      exact hok.launching_iff.2 ⟨hok.reading_of_alive halive, Or.inl hrunning⟩
    | true =>
      rcases hattended ref l hl hrunning halive with hregistered | hcondemned
      · exact Or.inr (Or.inl ⟨hregistered, fun hbefore => hspared (Or.inl hbefore)⟩)
      · exact Or.inr (Or.inr hcondemned)
  · exact Or.inl hnew

/-- A step in which a server is launched is one for which a port is claimed. -/
theorem Goes.launches_claimed {env : Surroundings} {a : Action}
    (h : Goes (t.scope env a) t (t.step env a))
    (hmade : t.fleet.servers.length < (t.step env a).fleet.servers.length) :
    (∃ i port, a = .hosting i ∧ t.IsClaimedForRequest i port) ∨
      ∃ ref port, a = .supervise ref ∧ t.IsClaimedForRestart ref port := by
  rcases h.launches hmade with
    ⟨i, asked, spec, port, ha, hget, hstage⟩ | ⟨ref, l, port, ha, hl, hphase⟩
  · refine Or.inl ⟨i, port, ha, asked, hget, ?_⟩
    rw [hstage]
    exact List.mem_singleton_self _
  · refine Or.inr ⟨ref, port, ha, l.watch, watch_of_life? hl, ?_⟩
    rw [hphase]
    exact List.mem_singleton_self _

theorem phase_of_mem_claims {phase : SupervisorPhase} {port : UInt16} (hmem : port ∈ phase.claims) :
    phase = .restarting port := by
  cases phase with
  | restarting p => rw [List.mem_singleton.1 hmem]
  | reading | ended | reported | removed | done => cases hmem

/-- A server that was killed is launched again only where that was decided before. -/
theorem Later.restart_before (h : Later t t') (hcrew : t.fleet.Crew) (hmarked : t.IsMarked ref)
    {port : UInt16} (hclaimed : t'.IsClaimedForRestart ref port) :
    ∃ port, t.IsClaimedForRestart ref port := by
  obtain ⟨server, hserver, -⟩ := id hmarked
  obtain ⟨l, hl, -⟩ := life_of_server? hcrew hserver
  obtain ⟨l', hl', hpath⟩ := h.lives ref l hl
  obtain ⟨v, hv, hmem⟩ := hclaimed
  rw [watch_of_life? hl', Option.some.injEq] at hv
  have hphase : l'.watch.phase = .restarting port := hv ▸ phase_of_mem_claims hmem
  by_contra hnone
  have hfinal : l.IsFinal := by
    refine Or.inr ⟨(isMarked_iff hl).1 hmarked, fun port' hrestarting => ?_⟩
    refine hnone ⟨port', l.watch, watch_of_life? hl, ?_⟩
    rw [hrestarting]
    exact List.mem_singleton_self _
  rcases hpath.keeps (fun _ _ hnext => hnext.isFinal) hfinal with hdone | ⟨-, hundecided⟩
  · rw [hphase] at hdone
    cases hdone
  · exact hundecided port hphase

/-- Has a server reported its startup? -/
theorem isUp_iff (hl : t.life? ref = some l) : t.IsUp ref ↔ l.standing.isRunning = true := by
  obtain ⟨s, hs, hstanding⟩ := standing_of_life? hl
  have hc : t.fleet.tenure? ref = some ⟨s.isRunning, l.watch.holdsClaim, l.watch.phase⟩ :=
    Fleet.tenure?_eq_some_iff.2 ⟨s, l.watch, hs, watch_of_life? hl, rfl⟩
  rw [IsUp, hc, ← hstanding]
  simp [Server.standing]

/-- A server begins to run where a startup line of it is handled. -/
theorem Tenable.starts_of_running (h : t.Tenable) {env : Surroundings} {a : Action}
    (hl : t.life? ref = some l) (hsilent : l.standing.isRunning = false) {l' : Life}
    (hl' : (t.step env a).life? ref = some l') (hrunning : l'.standing.isRunning = true) :
    t.Starts env a ref := by
  rcases ((h.step env a).isUp_iff ref).1 ((isUp_iff hl').2 hrunning) with hup | hstarts
  · rw [isUp_iff hl, hsilent] at hup
    cases hup
  · exact hstarts

/-- A server that is registered in a step was launching, and tells of its start. -/
theorem Sound.starts_of_registered (h : t.Sound) (htenable : t.Tenable) {env : Surroundings}
    {a : Action} (hgoes : Goes (t.scope env a) t (t.step env a))
    (hnot : ¬ t.fleet.IsRegistered ref)
    (hregistered : (t.step env a).fleet.IsRegistered ref) :
    t.fleet.isLaunching ref = true ∧ t.Starts env a ref := by
  obtain ⟨port, hentry⟩ := id hregistered
  obtain ⟨l', hl', -, hok'⟩ := hgoes.sound.life_of_entry hentry
  have hkeys := (isRegistered_iff hl').1 hregistered
  by_cases hold : ref < t.fleet.servers.length
  · obtain ⟨l, hl⟩ := exists_life h.crew hold
    obtain ⟨m, hm, hpath, -⟩ := hgoes.lives ref l hl
    rw [hl', Option.some.injEq] at hm
    subst hm
    rw [isRegistered_iff hl] at hnot
    have hlaunching := ((hpath.fades (h.ok ref l hl)).2 hkeys).resolve_left hnot
    refine ⟨isLaunching_of_life? hl ▸ hlaunching, ?_⟩
    refine htenable.starts_of_running hl ?_ hl' (hok'.of_key hkeys).1
    -- A server that runs is never registered again.
    by_contra hrunning
    exact (hpath.keeps (P := fun m => m.standing.isRunning = true ∧ m.keys = [])
      (fun _ _ hnext => hnext.unregistered)
      ⟨by simpa using hrunning, not_not.1 hnot⟩ |> fun hkept => hkeys hkept.2)
  · obtain ⟨-, s, v, rfl, -⟩ := hgoes.born_of_new hl' (Nat.le_of_not_lt hold)
    exact absurd rfl hkeys

/-- The start of a server is recorded by the supervisor that finishes it. -/
theorem starting_of_recorded {env : Surroundings} {a : Action}
    (hrecorded : (t.step env a).fleet.store ≠ t.fleet.store) :
    ∃ ref, a = .finishStart ref ∧ ref ∈ t.starting := by
  by_contra hnobody
  exact hrecorded (t.store_step env a fun ref hmem ha => hnobody ⟨ref, ha, hmem⟩)

/-! ### Rest -/

/-- Nothing is under way from which another server could come: every hosting request is answered, no
    server is to be launched again, and none is in the middle of its start. -/
structure AtRest (t : Traffic) : Prop where
  /-- Every hosting request is answered. -/
  answered : ∀ asked ∈ t.hostings, ∃ outcome, asked.stage = .answered outcome
  /-- No server is launched again. -/
  final : ∀ ref l, t.life? ref = some l → l.IsFinal
  /-- No server is in the middle of its start. -/
  idle : t.starting = []

/-- Answered requests stay answered, and no other comes by itself. -/
theorem answered_step (env : Surroundings) {a : Action}
    (hunasked : ∀ owner options port recovering, a ≠ .request (.host owner options port recovering))
    (hanswered : ∀ asked ∈ t.hostings, ∃ outcome, asked.stage = .answered outcome) :
    ∀ asked ∈ (t.step env a).hostings, ∃ outcome, asked.stage = .answered outcome := by
  by_cases hdraws : a.draws = true
  · cases a with
    | hosting i =>
      change ∀ asked ∈ (t.stepHosting env i).hostings, _
      cases hget : t.hostings[i]? with
      | none =>
        rw [stepHosting, hget]
        exact hanswered
      | some asked =>
        obtain ⟨outcome, hstage⟩ := hanswered asked (List.mem_of_getElem? hget)
        obtain ⟨stage, gate, f, hadvance, heq⟩ := stepHosting_cases env hget
        rw [heq]
        intro other hmem
        obtain ⟨j, hj⟩ := List.mem_iff_getElem?.1 hmem
        change (t.setStage i stage).hostings[j]? = some other at hj
        rw [getElem?_setStage] at hj
        split at hj
        · rw [hget, Option.map_some, Option.some.injEq] at hj
          exact hj ▸ ⟨outcome, hadvance.answered hstage⟩
        · exact hanswered other (List.mem_of_getElem? hj)
    | _ => cases hdraws
  · rw [(requests_still (t := t) env a (by simpa using hdraws) hunasked).1]
    exact hanswered

/-- Where all is at rest a step launches, registers and announces nobody, unless another server is
    asked for or a startup line is handled of a server that is launching. -/
theorem AtRest.step (hrest : t.AtRest) (h : t.Sound) (htenable : t.Tenable) {env : Surroundings}
    {a : Action} (hgoes : Goes (t.scope env a) t (t.step env a))
    (hunasked : ∀ owner options port recovering, a ≠ .request (.host owner options port recovering))
    (hunheard : ∀ ref, t.fleet.isLaunching ref = true → ¬ t.Starts env a ref) :
    (t.step env a).AtRest ∧ (t.step env a).fleet.servers.length = t.fleet.servers.length ∧
      (∀ ref, (t.step env a).fleet.IsRegistered ref → t.fleet.IsRegistered ref) ∧
      (t.step env a).fleet.store = t.fleet.store := by
  have hlength : (t.step env a).fleet.servers.length = t.fleet.servers.length := by
    by_contra hne
    have hmade : t.fleet.servers.length < (t.step env a).fleet.servers.length := by
      have hspecs : t.fleet.specs.length ≤ (t.step env a).fleet.specs.length := by
        rcases hgoes.made with hsame | ⟨s, v, hmore, -⟩
        · exact Nat.le_of_eq (congrArg List.length hsame).symm
        · rw [hmore, List.length_append]
          exact Nat.le_add_right ..
      rw [Fleet.length_specs, Fleet.length_specs] at hspecs
      omega
    rcases hgoes.launches hmade with
      ⟨i, asked, spec, port, -, hget, hstage⟩ | ⟨ref, l, port, -, hl, hphase⟩
    · obtain ⟨outcome, hanswered⟩ := hrest.answered asked (List.mem_of_getElem? hget)
      rw [hstage] at hanswered
      cases hanswered
    · rcases hrest.final ref l hl with hdone | ⟨-, hundecided⟩
      · rw [hphase] at hdone
        cases hdone
      · exact hundecided port hphase
  have hlife : ∀ ref l', (t.step env a).life? ref = some l' →
      ∃ l, t.life? ref = some l ∧ Life.Path t.most l l' := by
    intro ref l' hl'
    have hold := lt_of_life? hgoes.sound.crew hl'
    rw [hlength] at hold
    obtain ⟨l, hl⟩ := exists_life h.crew hold
    obtain ⟨m, hm, hpath, -⟩ := hgoes.lives ref l hl
    rw [hl', Option.some.injEq] at hm
    exact ⟨l, hl, hm ▸ hpath⟩
  refine ⟨⟨answered_step env hunasked hrest.answered, ?_, ?_⟩, hlength, ?_, ?_⟩
  · intro ref l' hl'
    obtain ⟨l, hl, hpath⟩ := hlife ref l' hl'
    exact hpath.keeps (fun _ _ hnext => hnext.isFinal) (hrest.final ref l hl)
  · rw [List.eq_nil_iff_forall_not_mem]
    intro ref hmem
    obtain ⟨l', hl'⟩ := exists_life hgoes.sound.crew (hgoes.sound.starting_lt ref hmem)
    obtain ⟨l, hl, hpath⟩ := hlife ref l' hl'
    have hok := h.ok ref l hl
    have hstarting : l'.isStarting = true := by
      rw [isStarting_of_life? hl', List.contains_iff_mem]
      exact hmem
    obtain ⟨hphase, hrunning⟩ := (hgoes.sound.ok ref l' hl').of_starting hstarting
    have hlaunching := (hpath.fades hok).1
      ((hgoes.sound.ok ref l' hl').launching_iff.2 ⟨hphase, Or.inr hstarting⟩)
    -- It was not in the middle of its start, so that it did not run.
    have hsilent : l.standing.isRunning = false := by
      refine (hok.launching_iff.1 hlaunching).2.resolve_right fun hidle => ?_
      rw [isStarting_of_life? hl, hrest.idle] at hidle
      cases hidle
    refine hunheard ref ?_ (htenable.starts_of_running hl hsilent hl' hrunning)
    rw [← isLaunching_of_life? hl]
    exact hlaunching
  · intro ref hregistered
    by_contra hnot
    obtain ⟨hlaunching, hstarts⟩ := h.starts_of_registered htenable hgoes hnot hregistered
    exact hunheard ref hlaunching hstarts
  · by_contra hrecorded
    obtain ⟨ref, -, hmem⟩ := starting_of_recorded hrecorded
    rw [hrest.idle] at hmem
    cases hmem

/-- The startup lines of a run are those of all its steps. -/
theorem hasReported_snoc {s : Traffic} {steps : List (Surroundings × Action)} {env : Surroundings}
    {a : Action} : s.HasReported (steps ++ [(env, a)]) ref ↔
      s.HasReported steps ref ∨ (s.run steps).Starts env a ref := by
  have hheard : collect (heard ref) s (steps ++ [(env, a)]) =
      collect (heard ref) s steps ++ heard ref (s.run steps) env a := by
    rw [collect_append, collect, collect, List.append_nil]
  simp only [HasReported, Starts, hheard, List.mem_append, or_and_right, exists_or]

section

variable {config : Config} (logDir : Path) (files : FileSystem) (hmin : 0 < config.host.minPort)

include hmin

/-- Once all is at rest nobody is launched, registered or announced, as long as no other server is
    asked for and nobody who was launching tells of a start. -/
theorem rest_run {steps later : List (Surroundings × Action)}
    (hdrawn : (drawn (steps ++ later)).Nodup) {t : Traffic}
    (ht : t = (Traffic.start (.start config logDir files)).run steps) (hrest : t.AtRest)
    (hunasked : ∀ e ∈ later, ∀ owner options port recovering,
      e.2 ≠ .request (.host owner options port recovering))
    (hunheard : ∀ ref, t.fleet.isLaunching ref = true → ¬ t.HasReported later ref) :
    (t.run later).AtRest ∧ (t.run later).fleet.servers.length = t.fleet.servers.length ∧
      (∀ ref, (t.run later).fleet.IsRegistered ref → t.fleet.IsRegistered ref) ∧
      (t.run later).fleet.store = t.fleet.store := by
  induction later using List.reverseRecOn with
  | nil => exact ⟨hrest, rfl, fun _ => id, rfl⟩
  | append_singleton later e ih =>
    obtain ⟨env, a⟩ := e
    rw [← List.append_assoc] at hdrawn
    have hbefore := nodup_drawn_left hdrawn
    obtain ⟨hstill, hlength, hregistered, hstore⟩ := ih hbefore
      (fun e hmem => hunasked e (List.mem_append_left _ hmem))
      fun ref hlaunching hreported =>
        hunheard ref hlaunching (hasReported_snoc.2 (Or.inl hreported))
    have hrun : t.run later = (Traffic.start (.start config logDir files)).run (steps ++ later) := by
      rw [ht, run_append]
    have hsound := sound_run logDir files hmin hbefore
    have hgoes := goes_run logDir files hmin hdrawn
    have hlater := later_run logDir files hmin hbefore
    have htenable := (tenable_run config logDir files (steps ++ later)).1
    have hfirst := sound_run logDir files hmin (nodup_drawn_left hbefore)
    rw [← ht] at hlater hfirst
    rw [← hrun] at hsound hgoes hlater htenable
    have hnobody : ∀ ref, (t.run later).fleet.isLaunching ref = true →
        ¬ (t.run later).Starts env a ref := by
      intro ref hlaunching hstarts
      refine hunheard ref ?_ (hasReported_snoc.2 (Or.inr hstarts))
      -- Whoever is launching was there, and launching before.
      have hold := Fleet.lt_of_isLaunching hsound.crew hlaunching
      rw [hlength] at hold
      obtain ⟨l, hl⟩ := exists_life hfirst.crew hold
      obtain ⟨l', hl', hpath⟩ := hlater.lives ref l hl
      rw [← isLaunching_of_life? hl'] at hlaunching
      rw [← isLaunching_of_life? hl]
      exact (hpath.fades (hfirst.ok ref l hl)).1 hlaunching
    obtain ⟨hstill', hlength', hregistered', hstore'⟩ := hstill.step hsound htenable hgoes
      (fun owner options port recovering => hunasked (env, a)
        (List.mem_append_right _ (List.mem_singleton_self _)) owner options port recovering) hnobody
    rw [run_append]
    exact ⟨hstill', hlength'.trans hlength, fun ref h => hregistered ref (hregistered' ref h),
      hstore'.trans hstore⟩

end

/-- What the end of the daemon leaves, after every run in which no identifier is drawn twice and every
    process has one, and in every step after it.

    Whoever was listed is killed on purpose and has no process any more, and is launched again only
    where that was decided before. Whoever has a process was missed. Another server is launched only
    for a request or after an end for which a port is claimed, and one is registered or announced only
    with a startup line of a launching server, or by the supervisor that is in the middle of its
    start. None of this comes where all was at rest, no other server is asked for, and nobody who was
    launching tells of a start. -/
theorem shutdown_of_run (config : Config) (logDir : Path) (files : FileSystem)
    (hmin : 0 < config.host.minPort) (steps later : List (Surroundings × Action))
    (env : Surroundings) (a : Action) (hdrawn : (drawn (steps ++ later ++ [(env, a)])).Nodup)
    (hpids : ∀ e ∈ steps, e.1.freshPid ≠ 0)
    (hfinished : ((Traffic.start (.start config logDir files)).run steps).shutdown = .finished) :
    let start := Traffic.start (.start config logDir files)
    let t := start.run steps
    let u := t.run later
    (∃ first second, ListedAt start steps first second ∧
      (∀ ref, Targeted (start.run first) (start.run second) ref →
        t.IsPutDown ref ∧ u.IsPutDown ref ∧
          ∀ port, u.IsClaimedForRestart ref port → ∃ port', t.IsClaimedForRestart ref port') ∧
      ∀ ref, u.fleet.hasProcess ref = true → Missed (start.run first) (start.run second) ref) ∧
    (u.fleet.servers.length < (u.step env a).fleet.servers.length →
      (∃ i port, a = .hosting i ∧ u.IsClaimedForRequest i port) ∨
        ∃ ref port, a = .supervise ref ∧ u.IsClaimedForRestart ref port) ∧
    (∀ ref, ¬ u.fleet.IsRegistered ref → (u.step env a).fleet.IsRegistered ref →
      u.fleet.isLaunching ref = true ∧ u.Starts env a ref) ∧
    ((u.step env a).fleet.store ≠ u.fleet.store →
      ∃ ref, a = .finishStart ref ∧ ref ∈ u.starting ∨
        u.fleet.isLaunching ref = true ∧ u.Starts env a ref) ∧
    (t.AtRest →
      (∀ e ∈ later, ∀ owner options port recovering,
        e.2 ≠ .request (.host owner options port recovering)) →
      (∀ ref, t.fleet.isLaunching ref = true → ¬ t.HasReported later ref) →
      u.fleet.servers.length = t.fleet.servers.length ∧
        (∀ ref, u.fleet.IsRegistered ref → t.fleet.IsRegistered ref) ∧
        u.fleet.store = t.fleet.store) := by
  intro start t u
  have hbefore := nodup_drawn_left hdrawn
  have hfirst := nodup_drawn_left hbefore
  have hu : u = start.run (steps ++ later) := by rw [run_append]
  have hsound : t.Sound := sound_run logDir files hmin hfirst
  have hsound' : u.Sound := hu ▸ sound_run logDir files hmin hbefore
  have hlater : Later t u := hu ▸ later_run logDir files hmin hbefore
  have hgoes : Goes (u.scope env a) u (u.step env a) := hu ▸ goes_run logDir files hmin hdrawn
  have htenable : u.Tenable := hu ▸ (tenable_run config logDir files (steps ++ later)).1
  refine ⟨?_, hgoes.launches_claimed, ?_, ?_, ?_⟩
  · have hending := ending_run logDir files hmin hfirst hpids
    rw [hfinished] at hending
    obtain ⟨first, second, hat, htargets⟩ := hending
    obtain ⟨-, hsecond, -, hsince⟩ := listedAt_run logDir files hmin hfirst hat
    refine ⟨first, second, hat, ?_, ?_⟩
    · intro ref htargeted
      have hdown := htargets ref htargeted
      exact ⟨hdown, hdown.later hsound.crew hlater,
        fun port hclaimed => hlater.restart_before hsound.crew hdown.1 hclaimed⟩
    · intro ref hprocess
      have hattended : (start.run second).Attended := by
        obtain ⟨env', rest, hprefix⟩ := hat.second_step
        rw [← hprefix, List.append_assoc] at hfirst hpids
        exact attended_run logDir files hmin (nodup_drawn_left hfirst)
          fun e hmem => hpids e (List.mem_append_left _ hmem)
      refine hsecond.missed hattended (hsince.trans hlater) ?_ hprocess
      intro htargeted
      rw [((htargets ref htargeted).later hsound.crew hlater).2] at hprocess
      cases hprocess
  · exact fun ref hnot hregistered =>
      hsound'.starts_of_registered htenable hgoes hnot hregistered
  · intro hrecorded
    obtain ⟨ref, hstarting⟩ := starting_of_recorded hrecorded
    exact ⟨ref, Or.inl hstarting⟩
  · intro hrest hunasked hunheard
    exact (rest_run logDir files hmin hbefore rfl hrest hunasked hunheard).2

/-! ### On a small machine -/

/-- A server starts, and the daemon ends: the server is listed and killed, and its supervisor is
    done. -/
def smallShutdown : List Action :=
  smallHosting ++ [.line 0 "UDP Initialized.", .finishStart 0] ++ List.replicate 4 .shutdown ++
    List.replicate 4 (.supervise 0)

theorem atRest_smallShutdown : ((smallStart 1).run (smallSteps smallShutdown)).AtRest := by
  obtain ⟨hdone, hanswered, hidle⟩ :
      ((smallStart 1).run (smallSteps smallShutdown)).fleet.supervisors.map (·.phase) = [.done] ∧
      ((smallStart 1).run (smallSteps smallShutdown)).hostings.all
        (fun asked => match asked.stage with | .answered _ => true | _ => false) = true ∧
      ((smallStart 1).run (smallSteps smallShutdown)).starting = [] := by
    decide +kernel
  generalize (smallStart 1).run (smallSteps smallShutdown) = t at hdone hanswered hidle
  refine ⟨fun asked hmem => ?_, fun ref l hl => Or.inl ?_, hidle⟩
  · have hstage := List.all_eq_true.1 hanswered asked hmem
    cases hcase : asked.stage with
    | answered outcome => exact ⟨outcome, rfl⟩
    | _ =>
      rw [hcase] at hstage
      cases hstage
  · have hmem := List.mem_map_of_mem (f := (·.phase)) (List.mem_of_find?_eq_some (watch_of_life? hl))
    rw [hdone, List.mem_singleton] at hmem
    exact hmem

/-- On the small machine the server is put down, and another step changes nothing. -/
theorem shutdown_of_small_run :
    let t := (smallStart 1).run (smallSteps smallShutdown)
    let env : Surroundings := ⟨0, fun _ => true, fun _ => none, "y", 1⟩
    t.shutdown = .finished ∧ (∀ ref, ¬ t.fleet.IsRegistered ref) ∧
      (∃ first second, ListedAt (smallStart 1) (smallSteps smallShutdown) first second ∧
        ∀ ref, Targeted ((smallStart 1).run first) ((smallStart 1).run second) ref →
          t.IsPutDown ref) ∧
      (t.run [(env, .supervise 0)]).fleet.servers.length = t.fleet.servers.length := by
  intro t env
  obtain ⟨hfinished, hnobody⟩ : t.shutdown = .finished ∧ t.fleet.registry.entries = [] := by
    decide +kernel
  have hrun := shutdown_of_run (smallConfig 1) "/l" smallFiles (by decide) (smallSteps smallShutdown)
    [(env, .supervise 0)] env (.supervise 0) (by decide +kernel) (by decide +kernel) hfinished
  obtain ⟨⟨first, second, hat, hdown, -⟩, -, -, -, hrest⟩ := hrun
  refine ⟨hfinished, ?_, ⟨first, second, hat, fun ref href => (hdown ref href).1⟩, ?_⟩
  · rintro ref ⟨port, hentry⟩
    rw [hnobody] at hentry
    cases hentry
  · refine (hrest atRest_smallShutdown ?_ ?_).1
    · intro e hmem
      cases List.mem_singleton.1 hmem
      exact fun _ _ _ _ heq => by cases heq
    · rintro ref - ⟨text, htext, -⟩
      cases htext

/-- What comes of some actions on the small machine. -/
def smallRun (actions : List Action) : Traffic := (smallStart 1).run (smallSteps actions)

/-- The end of the daemon is passed on every way that is left open. A server starts between the two
    lists. A request is hosted for which a port was claimed, or which comes later. A server that was
    killed while it was launching tells of its start. A server is launched again. -/
theorem shutdown_is_passed :
    let started : List Action := [.line 0 "UDP Initialized.", .finishStart 0]
    let ends (n : Nat) : List Action := List.replicate n .shutdown
    let between := smallRun (smallHosting ++ ends 1 ++ started ++ ends 2)
    let claimed := smallHosting.take 7 ++ ends 3
    let killed := smallHosting ++ ends 4
    let ended := smallHosting ++ smallEnd 0 ++ List.replicate 2 (.supervise 0) ++ ends 3
    (between.shutdown = .finished ∧ between.fleet.hasProcess 0 = true ∧
      (10, 0) ∈ between.fleet.registry.entries) ∧
    ((smallRun claimed).shutdown = .finished ∧ (smallRun claimed).fleet.servers.length = 0 ∧
      (smallRun (claimed ++ [.hosting 0])).fleet.hasProcess 0 = true) ∧
    ((smallRun (ends 3)).shutdown = .finished ∧
      (smallRun (ends 3 ++ smallHosting)).fleet.hasProcess 0 = true) ∧
    ((smallRun killed).shutdown = .finished ∧ (smallRun killed).fleet.hasProcess 0 = false ∧
      (smallRun killed).fleet.registry.entries = [] ∧
      (smallRun killed).fleet.store.starts.length = 0 ∧
      (10, 0) ∈ (smallRun (killed ++ started)).fleet.registry.entries ∧
      (smallRun (killed ++ started)).fleet.store.starts.length = 1) ∧
    (smallRun ended).shutdown = .finished ∧ (smallRun ended).fleet.hasProcess 0 = false ∧
      (smallRun ended).fleet.servers.length = 1 ∧
      (smallRun (ended ++ [.supervise 0])).fleet.hasProcess 1 = true := by
  decide +kernel

end Traffic

end HostDaemon
