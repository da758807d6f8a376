import HostDaemon.Proofs.Fleet.Kills
import HostDaemon.Proofs.Traffic.Lines

/-! # Kills and ends

  Who takes a server out of the registry: a kill of this server, or its own supervisor after its
  process has ended.

  - `Traffic.Ends` says of every action whom it takes out of the registry.
  - `Traffic.Sound.follows_dispatch`, `Traffic.Sound.goes_kill`, `Traffic.Sound.goes_shutdown` and
    `Traffic.Sound.goes_supervisor` say that it takes out nobody else. -/

namespace HostDaemon

namespace Traffic

/-- Whom an action takes out of the registry: those that it kills, or the server whose own end is
    handled. -/
def Ends (t : Traffic) (env : Surroundings) : Action → ServerRef → Prop
  | .request r, ref => ref ∈ t.fleet.targets env r
  | .kill i, ref => ∃ k, t.kills[i]? = some k ∧ k.server = ref ∧ k.stage = .marked
  | .sweep, ref => ref ∈ t.fleet.idleServers t.fleet.config.host.cleanupIntervalDays env.now
  | .shutdown, ref => ∃ refs, t.shutdown = .killing (ref :: refs)
  | .supervise server, ref =>
    server = ref ∧ ∃ v, t.fleet.supervisor? ref = some v ∧ v.phase = .reported
  | _, _ => False

/-- What an action may do: only the supervisor that goes on comes into another phase, and only
    hosting requests that go on take places and have servers launched for them. -/
def scope (t : Traffic) (env : Surroundings) (a : Action) : Scope where
  ends := t.Ends env a
  advances := fun ref => a = .supervise ref
  hosts := ∃ i, a = .hosting i

variable {t t' : Traffic} {ref : ServerRef} {l : Life} {scope : Scope}

/-! ### Kills at once -/

/-- What a kill on purpose does to a life. -/
theorem path_kill (most : UInt32) (l : Life) : Life.Path most l l.mark.evict ∧
    Life.Path most l l.mark.evict.endProcess := by
  have hmark : Life.Path most l l.mark := .single .mark
  have hevict : Life.Path most l l.mark.evict := hmark.tail (.evict (Or.inl rfl))
  exact ⟨hevict, hevict.tail .endProcess⟩

/-- A kill takes out its own server. -/
theorem Sound.follows_call (h : t.Sound) (k : KillCall) (hends : scope.ends k.server) :
    Follows scope t { t with fleet := (t.fleet.call k).2 } := by
  rcases Fleet.moves_call h.crew k with hmoves | hmoves
  · exact Follows.of_fleet h hmoves (fun l _ => (path_kill t.most l).2)
      fun _ => ⟨Or.inl hends, Or.inr rfl⟩
  · exact Follows.of_fleet h hmoves (fun l _ => (path_kill t.most l).1)
      fun _ => ⟨Or.inl hends, Or.inr rfl⟩

/-- Several kills take out their servers. What follows on them is of no consequence. -/
theorem Sound.follows_callAll {f : Fleet} (h : t.Sound) (ks : List KillCall)
    (halike : (t.fleet.callAll ks).Alike f) (hends : ∀ k ∈ ks, scope.ends k.server) :
    Follows scope t { t with fleet := f } := by
  induction ks generalizing t with
  | nil => exact Follows.of_alike h halike
  | cons k ks ih =>
    have hfirst := h.follows_call k (hends k List.mem_cons_self)
    exact hfirst.trans (ih (h.follows_fleet hfirst) halike fun other hother =>
      hends other (List.mem_cons_of_mem k hother))

/-- A sweep takes out the servers that were idle for too long. -/
theorem Sound.follows_sweepAfter (h : t.Sound) (days : UInt64) (now : Int64)
    (hends : ∀ ref ∈ t.fleet.idleServers days now, scope.ends ref) :
    Follows scope t { t with fleet := (t.fleet.sweepAfter days now).2 } := by
  refine h.follows_callAll _ (t.fleet.alike_sweepAfter days now) ?_
  intro k hk
  obtain ⟨ref, href, rfl⟩ := List.mem_map.1 hk
  exact hends ref href

/-- A request that is answered at once takes out those whom it kills. -/
theorem Sound.follows_dispatch (h : t.Sound) (env : Surroundings) (r : Request)
    (hother : ∀ owner options port recovering, r ≠ .host owner options port recovering)
    (hends : ∀ ref ∈ t.fleet.targets env r, scope.ends ref) :
    Follows scope t { t with fleet := (t.fleet.dispatch env r).2 } := by
  refine h.follows_callAll _ (t.fleet.alike_dispatch env r hother) ?_
  intro k hk
  apply hends
  rw [← Fleet.map_server_calls]
  exact List.mem_map_of_mem hk

/-! ### Kills in steps -/

/-- A kill that begins marks nobody yet. One that is not on purpose makes its server end. -/
theorem Sound.goes_beginKill (h : t.Sound) (ref : ServerRef) (byOwner : Option Bool) :
    Goes scope t (t.beginKill ref byOwner) := by
  unfold beginKill
  split
  next hserver =>
    have hlt : ref < t.fleet.servers.length := by
      obtain ⟨s, hs⟩ := Option.isSome_iff_exists.1 hserver
      exact (List.getElem?_eq_some_iff.1 hs).1
    have hfollows : Follows scope t { t with kills := t.kills ++ [⟨ref, byOwner, .begun⟩] } := by
      -- The fleet is as it was, but whom somebody makes end may not be.
      refine Follows.of_moves h (Fleet.Moves.refl ref t.fleet) rfl ?_ ?_ fun _ => .of_eq rfl rfl
      · intro other hother
        refine ⟨rfl, ?_⟩
        simp [isOusted, Ne.symm hother]
      · intro l hl
        have hflag : isOusted { t with kills := t.kills ++ [⟨ref, byOwner, .begun⟩] } ref =
            (l.isOusted || byOwner.isNone) := by
          rw [isOusted_of_life? hl]
          simp [isOusted]
        rw [hflag]
        have hidle : t.starting.contains ref = l.isStarting := (isStarting_of_life? hl).symm
        simp only [hidle]
        cases byOwner with
        | none =>
          rw [Option.isNone_none, Bool.or_true]
          exact .single .oust
        | some byOwner =>
          rw [Option.isNone_some, Bool.or_false]
          exact .refl
    refine hfollows.goes (h.follows hfollows h.starting_lt ?_ h.drafts_fresh h.drafts_nodup)
    intro k hk
    rcases List.mem_append.1 hk with hold | hnew
    · exact h.kills_kept hfollows k hold
    · rw [List.mem_singleton] at hnew
      subst hnew
      exact ⟨hlt, fun hstage => absurd rfl hstage⟩
  next => exact (Follows.refl h).goes h

/-- Who makes whom end does not change while a kill goes on. -/
theorem isOusted_set {i : Nat} {k : KillTask} (hk : t.kills[i]? = some k) (f : Fleet)
    (stage : KillStage) (ref : ServerRef) :
    isOusted { t with fleet := f, kills := t.kills.set i { k with stage := stage } } ref =
      t.isOusted ref := by
  have hsame : (t.kills.set i { k with stage := stage }).map (fun k => (k.server, k.byOwner)) =
      t.kills.map fun k => (k.server, k.byOwner) := by
    apply List.ext_getElem?
    intro j
    rw [List.getElem?_map, List.getElem?_map, List.getElem?_set]
    split
    next heq =>
      subst heq
      rw [hk, if_pos (List.getElem?_eq_some_iff.1 hk).1]
      rfl
    next => rfl
  have hany := congrArg (List.any · fun e => decide (e.1 = ref) && e.2.isNone) hsame
  rw [List.any_map, List.any_map] at hany
  exact hany

/-- A kill that goes on stays one of the same server and of the same kind. -/
theorem Sound.goes_nextKill (h : t.Sound) {i : Nat} {k : KillTask} (hk : t.kills[i]? = some k)
    {f : Fleet} {move : Life → Life} (stage : KillStage)
    (hmoves : Fleet.Moves k.server move t.fleet f)
    (hpath : ∀ l, t.life? k.server = some l → Life.Path t.most l (move l))
    (hadmits : ∀ l, scope.Admits k.server l (move l))
    (hmarked : k.byOwner.isSome = true → k.stage = .begun → ∀ l, (move l).standing.isKilled = true) :
    Goes scope t { t with fleet := f, kills := t.kills.set i { k with stage := stage } } := by
  have hmem : k ∈ t.kills := List.mem_of_getElem? hk
  have hflags : ∀ l, t.life? k.server = some l → { l with
      isStarting := t.starting.contains k.server, isOusted := t.isOusted k.server } = l := by
    intro l hl
    rw [← isStarting_of_life? hl, ← isOusted_of_life? hl]
  have hfollows : Follows scope t { t with
      fleet := f, kills := t.kills.set i { k with stage := stage } } := by
    refine Follows.of_moves h hmoves rfl (fun other _ => ⟨rfl, isOusted_set hk f stage other⟩) ?_
      hadmits
    intro l hl
    rw [isOusted_set hk f stage, hflags l hl]
    exact hpath l hl
  refine hfollows.goes (h.follows hfollows h.starting_lt ?_ h.drafts_fresh h.drafts_nodup)
  intro k' hk'
  rcases List.mem_or_eq_of_mem_set hk' with hold | rfl
  · exact h.kills_kept hfollows k' hold
  · refine ⟨h.kills_lt k hmem, ?_⟩
    intro _ howner l' hl'
    obtain ⟨l, hl, hpath', -⟩ := hfollows.lives_before h.crew hl'
    -- A kill on purpose is noted in its first step, and was noted before in all later ones.
    by_cases hbegun : k.stage = .begun
    · have hlives := congrFun (hmoves.lives (t.starting.contains k.server) (t.isOusted k.server))
        k.server
      rw [life?, isOusted_set hk f stage] at hl'
      rw [Life.moveAt, if_pos rfl, ← life?, hl] at hlives
      rw [hlives, Option.map_some, Option.some.injEq] at hl'
      rw [← hl']
      exact hmarked howner hbegun l
    · exact hpath'.isKilled (h.kills_marked k hmem hbegun howner l hl)

/-- A kill that goes on takes out its own server, once it is noted on it. -/
theorem Sound.goes_kill (h : t.Sound) (env : Surroundings) (i : Nat) :
    Goes (t.scope env (.kill i)) t (t.stepKill i) := by
  unfold stepKill
  cases hk : t.kills[i]? with
  | none => exact (Follows.refl h).goes h
  | some k =>
    have hmem : k ∈ t.kills := List.mem_of_getElem? hk
    simp only [nextKillStage]
    cases hstage : k.stage with
    | begun =>
      obtain howner | ⟨byOwner, howner⟩ := k.byOwner.eq_none_or_eq_some
      · simp only [howner]
        rw [← howner]
        refine h.goes_nextKill hk .marked (Fleet.Moves.refl k.server t.fleet) (fun _ _ => .refl)
          (fun _ => .of_eq rfl rfl) ?_
        rw [howner]
        exact fun hfalse => by cases hfalse
      · simp only [howner]
        rw [← howner]
        exact h.goes_nextKill hk .marked (t.fleet.moves_mark k.server byOwner)
          (fun _ _ => .single .mark) (fun _ => .of_eq rfl rfl) fun _ _ _ => rfl
    | marked =>
      refine h.goes_nextKill hk _ (Fleet.moves_unregister h.crew k.server) ?_
        (fun _ => ⟨Or.inl ⟨k, hk, rfl, hstage⟩, Or.inr rfl⟩)
        fun _ hbegun => by simp [hstage] at hbegun
      intro l hl
      refine .single (.evict ?_)
      -- Either the kill is noted on the server, or it is one that is not.
      cases howner : k.byOwner with
      | some byOwner =>
        left
        exact h.kills_marked k hmem (by simp [hstage]) (by simp [howner]) l hl
      | none =>
        right
        rw [isOusted_of_life? hl, isOusted, List.any_eq_true]
        exact ⟨k, hmem, by simp [howner]⟩
    | unregistered removed =>
      have hbegun : k.stage ≠ .begun := by simp [hstage]
      rcases t.fleet.moves_killProcess k.server with hend | hnoted
      · exact h.goes_nextKill hk _ hend (fun _ _ => .single .endProcess) (fun _ => .of_eq rfl rfl)
          fun _ hfalse => absurd hfalse hbegun
      · exact h.goes_nextKill hk _ hnoted (fun _ _ => .refl) (fun _ => .of_eq rfl rfl)
          fun _ hfalse => absurd hfalse hbegun
    | finished removed =>
      exact h.goes_nextKill hk _ (Fleet.Moves.refl k.server t.fleet) (fun _ _ => .refl)
        (fun _ => .of_eq rfl rfl) fun _ hfalse => by simp [hstage] at hfalse

/-- The end of the daemon takes out one server after the other. -/
theorem Sound.goes_shutdown (h : t.Sound) (env : Surroundings) :
    Goes (t.scope env .shutdown) t t.stepShutdown := by
  -- Listing who is to be killed does nothing to anybody.
  have hquiet : ∀ stage, Goes (t.scope env .shutdown) t { t with shutdown := stage } := by
    intro stage
    have hfollows : Follows (t.scope env .shutdown) t { t with shutdown := stage } :=
      Follows.of_moves h (Fleet.Moves.refl 0 t.fleet) rfl (fun _ _ => ⟨rfl, rfl⟩)
        (fun l hl => by
          have hflags : { l with
              isStarting := t.starting.contains 0, isOusted := t.isOusted 0 } = l := by
            rw [← isStarting_of_life? hl, ← isOusted_of_life? hl]
          exact hflags ▸ .refl) fun _ => .of_eq rfl rfl
    exact hfollows.goes (h.follows hfollows h.starting_lt (h.kills_kept hfollows) h.drafts_fresh
      h.drafts_nodup)
  unfold stepShutdown
  split
  next => exact hquiet _
  next => exact hquiet _
  next => exact hquiet _
  next ref refs hstage =>
    have hkilled : Follows (t.scope env .shutdown) t
        { t with fleet := t.fleet.killQuietly ref false } :=
      h.follows_call ⟨ref, false, true⟩ ⟨refs, hstage⟩
    have hfollows : Follows (t.scope env .shutdown) t { t with
        fleet := t.fleet.killQuietly ref false, shutdown := .killing refs } :=
      ⟨hkilled.lives, hkilled.specs, hkilled.crew, hkilled.accounts, hkilled.config, hkilled.quota,
        hkilled.pending⟩
    exact hfollows.goes (h.follows hfollows h.starting_lt (h.kills_kept hfollows) h.drafts_fresh
      h.drafts_nodup)
  next => exact (Follows.refl h).goes h

/-! ### The end of a launch -/

/-- The next launch either fails or makes a server with the same identifier. -/
theorem Sound.relaunch_cases (h : t.Sound) (env : Surroundings) (hl : t.life? ref = some l)
    {s : Server} (hs : t.fleet.server? ref = some s) {port : UInt16}
    (hphase : l.watch.phase = .restarting port) :
    ((t.fleet.launch env { s.spec with requestedPort := some s.port } (s.restarts + 1) false
        port).1.isOk = false ∧
      Fleet.Moves ref (·.setPhase .done) t.fleet
        ((t.fleet.relaunch env s port).setPhase ref .done)) ∨
    ∃ log, Fleet.Bears ref (·.setPhase .done) []
      (Fleet.standingOf { s.spec with requestedPort := some s.port } (s.restarts + 1))
      ⟨t.fleet.servers.length, log, port, true, true, .reading⟩ t.fleet
      ((t.fleet.relaunch env s port).setPhase ref .done) := by
  refine Fleet.relaunch_cases h.crew (watch_of_life? hl) hs hphase env ?_
  -- Nobody with this identifier is launching: not this server, and no other.
  intro other hlaunching
  by_cases hother : other = ref
  · subst hother
    have hleft := (h.ok other l hl).not_launching (by simp [hphase])
    obtain ⟨s, v, -, -, rfl⟩ := life?_eq_some_iff.1 hl
    rw [hlaunching] at hleft
    cases hleft
  · have hne := h.isAlone hl (by simp [hphase]) other hother hlaunching
    rw [hs] at hne
    exact hne

/-- What a supervisor does to the life of its own server alone is a step. -/
theorem Sound.goes_moves (h : t.Sound) (env : Surroundings) (hl : t.life? ref = some l) {f : Fleet}
    {move : Life → Life} (hmoves : Fleet.Moves ref move t.fleet f)
    (hpath : Life.Path t.most l (move l))
    (hkeys : t.Ends env (.supervise ref) ref ∨ ∀ m : Life, ∀ key ∈ m.keys, key ∈ (move m).keys) :
    Goes (t.scope env (.supervise ref)) t { t with fleet := f } := by
  refine h.goes_fleet (Follows.of_fleet h hmoves ?_ fun m =>
    ⟨hkeys.imp_right fun hkeep => hkeep m, Or.inl rfl⟩)
  intro m hm
  rw [hl, Option.some.injEq] at hm
  exact hm ▸ hpath

/-- The next launch of a server is a step: the server is done, and a new one may go on with its
    identifier. -/
theorem Sound.goes_relaunch (h : t.Sound) (env : Surroundings) (hl : t.life? ref = some l)
    {s : Server} (hs : t.fleet.server? ref = some s) (hstanding : s.standing = l.standing)
    {port : UInt16} (hphase : l.watch.phase = .restarting port) :
    Goes (t.scope env (.supervise ref)) t
      { t with fleet := (t.fleet.relaunch env s port).setPhase ref .done } := by
  have hgoes : l.watch.phase ≠ .done := by simp [hphase]
  rcases h.relaunch_cases env hl hs hphase with ⟨-, hmoves⟩ | ⟨log, hbears⟩
  · exact h.goes_moves env hl hmoves (.single (.relaunched hphase)) (Or.inr fun _ _ => id)
  · have hid : s.id = l.standing.id := congrArg Standing.id hstanding
    refine h.bears hbears ?_ ?_ ?_ (fun _ => ⟨Or.inr fun _ => id, Or.inl rfl⟩) ?_
      (List.Perm.refl _) rfl rfl ?_ h.drafts_nodup
    · -- It is the next launch of the server that has ended.
      have hadvances : (t.scope env (.supervise ref)).advances ref := rfl
      have hbegets := Begets.relaunched (t := t)
        (v := ⟨t.fleet.servers.length, log, port, true, true, .reading⟩) hadvances hl hphase
      rw [← hstanding] at hbegets
      exact hbegets
    · exact Life.ok_born ((h.ok ref l hl).of_restarting port hphase).1 rfl rfl rfl rfl
    · intro m hm
      rw [hl, Option.some.injEq] at hm
      exact hm ▸ .single (.relaunched hphase)
    · intro i m hm hsame
      by_cases hi : i = ref
      · exact Or.inr ⟨hi, rfl⟩
      · left
        have hsame' : m.standing.id = l.standing.id := hsame.trans hid
        -- An earlier launch is over, and a later one there cannot be.
        rcases Nat.lt_or_gt_of_ne hi with hbefore | hafter
        · exact h.apart i ref m l hbefore hm hl hsame'
        · exact absurd (h.apart ref i l m hafter hl hm hsame'.symm) hgoes
    · intro spec hspec'
      refine ⟨?_, h.drafts_fresh spec hspec'⟩
      have hfresh := h.drafts_fresh spec hspec' s (List.mem_of_getElem? hs)
      exact fun heq => hfresh heq.symm

/-- What a supervisor is to do next is done to the life of its own server. A server is taken out of
    the registry only after its end was reported. -/
theorem Sound.goes_advance (h : t.Sound) (env : Surroundings) (hl : t.life? ref = some l)
    (hidle : l.isStarting = false) :
    Goes (t.scope env (.supervise ref)) t { t with fleet := t.fleet.advance env ref } := by
  obtain ⟨s, hs, hstanding⟩ := standing_of_life? hl
  have hv := watch_of_life? hl
  -- Whatever was done to the life, the supervisor comes into its next phase after it.
  have hphased : ∀ {f : Fleet} {move : Life → Life} (phase : SupervisorPhase),
      Fleet.Moves ref move t.fleet f → (move l).watch.phase.claims = [] → phase.claims = [] →
      Fleet.Moves ref (fun l => (move l).setPhase phase) t.fleet (f.setPhase ref phase) := by
    intro f move phase hmoves hbefore hclaims
    refine hmoves.trans (f.moves_setPhase ref phase hclaims ?_)
    intro v' hv'
    rw [hmoves.supervisor? hl, Option.some.injEq] at hv'
    rw [← hv', hbefore]
  have hquiet : ∀ {f : Fleet}, t.fleet.Alike f → ∀ phase : SupervisorPhase, phase.claims = [] →
      l.watch.phase.claims = [] → Life.Path t.most l (l.setPhase phase) →
      Goes (t.scope env (.supervise ref)) t { t with fleet := f.setPhase ref phase } :=
    fun halike phase hclaims hbefore hpath =>
      h.goes_moves env hl (hphased phase (halike.moves ref) hbefore hclaims) hpath
        (Or.inr fun _ _ => id)
  simp only [Fleet.advance, hv, hs]
  cases hphase : l.watch.phase with
  | reading =>
    cases hdead : l.watch.isProcessAlive with
    | true => exact (Follows.refl h).goes h
    | false =>
      -- The process has ended: what it held is given back.
      have hclosed := Fleet.moves_closeRun h.crew (h.isAlone hl (by simp [hphase])) env l.watch
      refine h.goes_moves env hl (hphased .ended hclosed ?_ rfl) ?_ (Or.inr fun _ _ => id)
      · change l.watch.phase.claims = []
        rw [hphase]
        rfl
      · exact .single (.close hphase hdead hidle)
  | ended =>
    exact hquiet (t.fleet.alike_reportExit env s) .reported rfl (by rw [hphase]; rfl)
      (.single (.report hphase))
  | reported =>
    have hevict := Fleet.moves_unregister h.crew ref
    refine h.goes_moves env hl (hphased .removed hevict ?_ rfl) (.single (.remove hphase))
      (Or.inl ⟨rfl, _, hv, hphase⟩)
    change l.watch.phase.claims = []
    rw [hphase]
    rfl
  | removed =>
    rcases t.fleet.planRestart_cases env l.watch s with
      ⟨f, halike, hplan, -⟩ | ⟨port, notice, hwants, hgives, hplan⟩
    · simp only [hplan]
      exact hquiet halike .done rfl (by rw [hphase]; rfl) (.single (.giveUp hphase))
    · simp only [hplan]
      -- A port that can be claimed is a real one.
      have hport : port ≠ 0 := by
        intro hzero
        have hclaimed := (h.crew.claim hgives).zero_free
        rw [hzero] at hclaimed
        exact hclaimed List.mem_cons_self
      simp only [Fleet.wantsRestart, Bool.and_eq_true, Bool.not_eq_true',
        decide_eq_true_eq] at hwants
      obtain ⟨⟨⟨hauto, halive⟩, -⟩, hfew⟩ := hwants
      refine h.goes_moves env hl (Fleet.moves_restart h.crew hv hphase hgives notice) ?_
        (Or.inr fun _ _ => id)
      refine .single (.restart hphase ?_ ?_ ?_ hport)
      · rw [← hstanding]
        exact hauto
      · rw [← hstanding]
        exact halive
      · rw [← hstanding]
        exact hfew
  | restarting port => exact h.goes_relaunch env hl hs hstanding hphase
  | done => exact (Follows.refl h).goes h

/-- A supervisor takes out its own server alone. -/
theorem Sound.goes_supervisor (h : t.Sound) (env : Surroundings) (ref : ServerRef) :
    Goes (t.scope env (.supervise ref)) t (t.stepSupervisor env ref) := by
  unfold stepSupervisor
  split
  next => exact (Follows.refl h).goes h
  next hidle =>
    by_cases hlt : ref < t.fleet.servers.length
    · obtain ⟨l, hl⟩ := exists_life h.crew hlt
      exact h.goes_advance env hl (by simpa [isStarting_of_life? hl] using hidle)
    · -- There is no such server.
      have hnone : t.fleet.server? ref = none := List.getElem?_eq_none_iff.2 (Nat.le_of_not_lt hlt)
      have hsame : t.fleet.advance env ref = t.fleet := by
        unfold Fleet.advance
        rw [hnone]
        cases t.fleet.supervisor? ref <;> rfl
      rw [hsame]
      exact (Follows.refl h).goes h

end Traffic

end HostDaemon
