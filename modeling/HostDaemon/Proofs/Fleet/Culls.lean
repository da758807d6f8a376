import HostDaemon.Proofs.Requests.Integrity

/-! # Killing all servers of a kind

  A sweep, and every request that kills several servers, lists the registered servers that it is
  about and kills one after the other. The list is made once, while every kill takes an entry out of
  the registry that it was made from.

  - `Fleet.Culls` says what has to come of it: the servers that are meant are marked and leave the
    registry, and nothing happens to the others.
  - `Fleet.culls_killEach` is the run lemma. It holds of every registry, also of one in which a
    server stands under two ports.
  - `Fleet.Culled` says how a request is answered that kills several servers, and
    `Fleet.culled_of_listed` that one is answered so that does as `culls_killEach` says.
  - `Fleet.isIdle_eq` compares the limit of 64 bits with exact arithmetic, and
    `Fleet.culls_killIdle` is the result for sweeps. -/

namespace HostDaemon

/-- A server that was killed on purpose, without a report of its end. Where there is no process to
    end, the wish is noted on it. -/
def Server.killedQuietly (s : Server) (byOwner : Bool) : Server :=
  { s with
    hidesStop := true
    isKilled := true
    isKilledByOwner := s.isKilledByOwner || byOwner
    autoRestart := false
    isKillRequested := s.isKillRequested || s.pid.isNone }

/-- A second kill finds nothing more to note. -/
@[simp] theorem Server.killedQuietly_killedQuietly (s : Server) (byOwner : Bool) :
    (s.killedQuietly byOwner).killedQuietly byOwner = s.killedQuietly byOwner := by
  simp [killedQuietly]

namespace Fleet

variable {f f' : Fleet} {ref other : ServerRef} {byOwner : Bool} {p : Server → Bool}

/-! ### One kill -/

/-- A kill is noted on its server and on no other. -/
theorem server?_killQuietly (f : Fleet) (ref : ServerRef) (byOwner : Bool) (other : ServerRef) :
    (f.killQuietly ref byOwner).server? other =
      if other = ref then (f.server? ref).map (·.killedQuietly byOwner) else f.server? other := by
  simp only [killQuietly, kill, terminate, server?_killProcess, server?_unregister, server?_update]
  by_cases h : other = ref
  · simp only [h, if_true, Option.map_map]
    exact Option.map_congr fun s _ => by simp [Server.killedQuietly, Server.markKilled]
  · simp [h]

/-- A kill ends the process of its server, where one is known, and no other. -/
theorem supervisor?_killQuietly (f : Fleet) (ref : ServerRef) (byOwner : Bool)
    (other : ServerRef) :
    (f.killQuietly ref byOwner).supervisor? other =
      if other = ref then (f.supervisor? ref).map fun v =>
        { v with isProcessAlive := v.isProcessAlive && (f.server? ref).all (·.pid.isNone) }
      else f.supervisor? other := by
  have hmarked : ∀ other, ((f.update ref ({ · with hidesStop := true })).update ref
      (·.markKilled byOwner)).supervisor? other = f.supervisor? other := fun _ => rfl
  simp only [killQuietly, kill, terminate, supervisor?_killProcess, supervisor?_unregister, hmarked,
    server?_unregister, server?_update, if_true, Option.map_map, Option.all_map]
  rfl

/-- A kill takes its server out of the registry. -/
theorem registry_killQuietly {s : Server} (hs : f.server? ref = some s) (byOwner : Bool) :
    (f.killQuietly ref byOwner).registry = (f.registry.remove s.port ref).2 := by
  simp only [killQuietly, kill, terminate, registry_killProcess, unregister, server?_update, hs,
    if_true, Option.map_some]
  rfl

/-- Kills change servers, supervisors and the registry. -/
theorem killQuietly_eq (f : Fleet) (ref : ServerRef) (byOwner : Bool) :
    f.killQuietly ref byOwner = { f with
      servers := (f.killQuietly ref byOwner).servers
      supervisors := (f.killQuietly ref byOwner).supervisors
      registry := (f.killQuietly ref byOwner).registry } := by
  simp only [killQuietly, kill, terminate, unregister, killProcess, update, updateSupervisor]
  repeat' split
  all_goals rfl

/-! ### Several kills -/

/-- However often a server is killed, once is enough. -/
theorem server?_killEach (f : Fleet) (refs : List ServerRef) (byOwner : Bool) (ref : ServerRef) :
    (f.killEach refs byOwner).server? ref =
      if ref ∈ refs then (f.server? ref).map (·.killedQuietly byOwner) else f.server? ref := by
  induction refs generalizing f with
  | nil => rfl
  | cons first rest ih =>
    show ((f.killQuietly first byOwner).killEach rest byOwner).server? ref = _
    rw [ih, server?_killQuietly]
    by_cases hfirst : ref = first
    · subst hfirst
      simp [Function.comp_def]
    · simp [hfirst]

theorem supervisor?_killEach (f : Fleet) (refs : List ServerRef) (byOwner : Bool)
    (ref : ServerRef) :
    (f.killEach refs byOwner).supervisor? ref =
      if ref ∈ refs then (f.supervisor? ref).map fun v =>
        { v with isProcessAlive := v.isProcessAlive && (f.server? ref).all (·.pid.isNone) }
      else f.supervisor? ref := by
  induction refs generalizing f with
  | nil => rfl
  | cons first rest ih =>
    show ((f.killQuietly first byOwner).killEach rest byOwner).supervisor? ref = _
    -- A kill leaves it known or unknown which process is the server's.
    have hpid : ((f.killQuietly first byOwner).server? ref).all (·.pid.isNone) =
        (f.server? ref).all (·.pid.isNone) := by
      rw [server?_killQuietly]
      by_cases hfirst : ref = first
      · rw [if_pos hfirst, hfirst, Option.all_map]
        rfl
      · rw [if_neg hfirst]
    rw [ih, hpid, supervisor?_killQuietly]
    by_cases hfirst : ref = first
    · subst hfirst
      simp [Function.comp_def]
    · simp [hfirst]

theorem killEach_eq_with (f : Fleet) (refs : List ServerRef) (byOwner : Bool) :
    f.killEach refs byOwner = { f with
      servers := (f.killEach refs byOwner).servers
      supervisors := (f.killEach refs byOwner).supervisors
      registry := (f.killEach refs byOwner).registry } := by
  induction refs generalizing f with
  | nil => rfl
  | cons first rest ih =>
    have hfirst := f.killQuietly_eq first byOwner
    generalize hg : f.killQuietly first byOwner = g at hfirst
    have hrest := ih g
    show (f.killQuietly first byOwner).killEach rest byOwner = { f with
      servers := ((f.killQuietly first byOwner).killEach rest byOwner).servers
      supervisors := ((f.killQuietly first byOwner).killEach rest byOwner).supervisors
      registry := ((f.killQuietly first byOwner).killEach rest byOwner).registry }
    rw [hg, hrest, hfirst]

/-- A server is out of the registry after as many kills as it has entries there, and nobody else is
    taken out. -/
theorem registry_killEach {refs : List ServerRef} (hports : f.registry.ports.Nodup)
    (hmade : ∀ ref ∈ refs, (f.server? ref).isSome)
    (hoften : ∀ ref ∈ refs, f.registry.servers.count ref ≤ refs.count ref) (byOwner : Bool) :
    (f.killEach refs byOwner).registry.entries =
      f.registry.entries.filter fun e => decide (e.2 ∉ refs) := by
  induction refs generalizing f with
  | nil => exact (List.filter_eq_self.2 fun _ _ => by simp).symm
  | cons first rest ih =>
    show ((f.killQuietly first byOwner).killEach rest byOwner).registry.entries = _
    obtain ⟨s, hs⟩ := Option.isSome_iff_exists.1 (hmade first List.mem_cons_self)
    have hregistry := registry_killQuietly hs byOwner
    have hcount : ∀ ref, (f.killQuietly first byOwner).registry.servers.count ref =
        f.registry.servers.count ref - if ref = first then 1 else 0 := by
      intro ref
      rw [hregistry, Registry.count_servers_remove hports]
    have hports' : (f.killQuietly first byOwner).registry.ports.Nodup := by
      rw [hregistry]
      exact Registry.ports_nodup_remove hports s.port first
    have hmade' : ∀ ref ∈ rest, ((f.killQuietly first byOwner).server? ref).isSome := by
      intro ref href
      have hbefore := hmade ref (List.mem_cons_of_mem _ href)
      rw [server?_killQuietly]
      by_cases h : ref = first
      · rwa [if_pos h, Option.isSome_map, ← h]
      · rwa [if_neg h]
    have hoften' : ∀ ref, ref ∈ first :: rest →
        (f.killQuietly first byOwner).registry.servers.count ref ≤ rest.count ref := by
      intro ref href
      have hbefore := hoften ref href
      rw [hcount]
      by_cases h : ref = first
      · rw [h, List.count_cons_self] at hbefore
        rw [if_pos h, h]
        omega
      · rw [if_neg h, Nat.sub_zero]
        rwa [List.count_cons_of_ne (Ne.symm h)] at hbefore
    rw [ih hports' hmade' fun ref href => hoften' ref (List.mem_cons_of_mem _ href)]
    -- Entries of the first server that are left after its kill are left to later kills of it.
    have hlater : ∀ e ∈ (f.killQuietly first byOwner).registry.entries,
        decide (e.2 ∉ rest) = decide (e.2 ∉ first :: rest) := by
      intro e he
      by_cases h : e.2 = first
      · have hstill : 0 < (f.killQuietly first byOwner).registry.servers.count first :=
          List.count_pos_iff.2 (List.mem_map.2 ⟨e, he, h⟩)
        have hmem : first ∈ rest :=
          List.count_pos_iff.1 (Nat.lt_of_lt_of_le hstill (hoften' first List.mem_cons_self))
        simp [h, hmem]
      · simp [h]
    rw [List.filter_congr hlater, hregistry]
    exact Registry.filter_entries_remove hports s.port first
      (fun ref => decide (ref ∉ first :: rest)) (by simp)

/-! ### All servers of a kind -/

/-- Is a server one that fulfils a condition? -/
def fits (f : Fleet) (p : Server → Bool) (ref : ServerRef) : Bool := (f.server? ref).any p

/-- How many registered servers fulfil a condition? -/
def numberOf (f : Fleet) (p : Server → Bool) : Nat := (f.registry.servers.filter (f.fits p)).length

/-- The registered servers that fulfil a condition were killed without reports of their ends, and
    nothing else was done. -/
structure Culls (p : Server → Bool) (byOwner : Bool) (f f' : Fleet) : Prop where
  /-- Their entries are gone from the registry, and all others stay. -/
  entries : f'.registry.entries = f.registry.entries.filter fun e => !f.fits p e.2
  /-- The kill is noted on them. -/
  killed : ∀ ref ∈ f.registry.servers, ∀ s, f.server? ref = some s → p s = true →
    f'.server? ref = some (s.killedQuietly byOwner)
  /-- Their processes end, as far as they are known. -/
  ended : ∀ ref ∈ f.registry.servers, ∀ s v, f.server? ref = some s → p s = true →
    f.supervisor? ref = some v → f'.supervisor? ref = some { v with
      isProcessAlive := v.isProcessAlive && s.pid.isNone }
  /-- Every other server is as it was, and so is who looks after it. -/
  spared : ∀ ref, ¬ (ref ∈ f.registry.servers ∧ f.fits p ref = true) →
    f'.server? ref = f.server? ref ∧ f'.supervisor? ref = f.supervisor? ref
  /-- All else is as it was. -/
  rest : f' = { f with
    servers := f'.servers, supervisors := f'.supervisors, registry := f'.registry }

/-- Every entry of a registered server that fulfils the condition is listed. -/
theorem perm_listed (f : Fleet) (p : Server → Bool) :
    ((f.all.filter fun e => p e.2).map (·.1)).Perm (f.registry.servers.filter (f.fits p)) := by
  have hlisted : ∀ refs : List ServerRef,
      ((refs.filterMap fun ref => (f.server? ref).map (ref, ·)).filter fun e => p e.2).map (·.1) =
        refs.filter (f.fits p) := by
    intro refs
    induction refs with
    | nil => rfl
    | cons ref refs ih =>
      cases hs : f.server? ref with
      | none => simpa [fits, hs] using ih
      | some s =>
        by_cases hp : p s = true
        · simpa [fits, hs, hp] using ih
        · simpa [fits, hs, hp] using ih
  rw [← hlisted]
  exact ((List.mergeSort_perm _ _).filter _).map _

theorem length_listed (f : Fleet) (p : Server → Bool) :
    (f.all.filter fun e => p e.2).length = f.numberOf p := by
  rw [numberOf, ← (f.perm_listed p).length_eq, List.length_map]

/-- Whoever lists all servers of a kind and kills them one after the other kills these and no
    others. -/
theorem culls_killEach (hports : f.registry.ports.Nodup) (p : Server → Bool) (byOwner : Bool) :
    f.Culls p byOwner (f.killEach ((f.all.filter fun e => p e.2).map (·.1)) byOwner) := by
  have hperm := f.perm_listed p
  generalize (f.all.filter fun e => p e.2).map (·.1) = refs at hperm
  have hmem : ∀ ref, ref ∈ refs ↔ ref ∈ f.registry.servers ∧ f.fits p ref = true := by
    intro ref
    rw [hperm.mem_iff, List.mem_filter]
  have hmade : ∀ ref ∈ refs, (f.server? ref).isSome := by
    intro ref href
    obtain ⟨s, hs, -⟩ := (Option.any_eq_true _ _).1 ((hmem ref).1 href).2
    rw [hs]
    rfl
  have hoften : ∀ ref ∈ refs, f.registry.servers.count ref ≤ refs.count ref := by
    intro ref href
    have hcount : refs.count ref = f.registry.servers.count ref := by
      rw [hperm.count_eq, List.count_filter ((hmem ref).1 href).2]
    exact Nat.le_of_eq hcount.symm
  have hfits : ∀ ref s, f.server? ref = some s → p s = true → f.fits p ref = true := by
    intro ref s hs hp
    rw [fits, hs]
    exact hp
  refine ⟨?_, ?_, ?_, ?_, f.killEach_eq_with refs byOwner⟩
  · rw [registry_killEach hports hmade hoften]
    apply List.filter_congr
    intro e he
    have hregistered : e.2 ∈ f.registry.servers := List.mem_map_of_mem he
    simp [hmem, hregistered]
  · intro ref hregistered s hs hp
    rw [server?_killEach, if_pos ((hmem ref).2 ⟨hregistered, hfits ref s hs hp⟩), hs]
    rfl
  · intro ref hregistered s v hs hp hv
    rw [supervisor?_killEach, if_pos ((hmem ref).2 ⟨hregistered, hfits ref s hs hp⟩), hv, hs]
    rfl
  · intro ref hother
    have habsent : ref ∉ refs := fun href => hother ((hmem ref).1 href)
    have hspared := spares_killEach habsent hports byOwner
    exact ⟨hspared.server, hspared.supervisor⟩

/-! ### Requests -/

/-- A request was answered that kills the registered servers of a kind: those were killed, and the
    answer gives their number, as the notices do. Where there are none it has words of its own, and
    nobody is told. -/
def Culled (p : Server → Bool) (byOwner : Bool) (nobody : String) (text : Nat → String)
    (notices : Nat → List Notice) (f : Fleet) (answer : Response × Fleet) : Prop :=
  ∃ g, f.Culls p byOwner g ∧ answer =
    if f.numberOf p = 0 then (.success (some nobody), g)
    else (.success (some (text (f.numberOf p))),
      { g with notices := g.notices ++ notices (f.numberOf p) })

/-- Whoever lists all servers of a kind, kills them if there are any, and answers how many were
    listed. -/
theorem culled_of_listed (hports : f.registry.ports.Nodup) (p : Server → Bool) (byOwner : Bool)
    (nobody : String) (text : Nat → String) (notices : Nat → List Notice)
    {listed : List (ServerRef × Server)} (hlisted : listed = f.all.filter fun e => p e.2) :
    let g := f.killEach (listed.map (·.1)) byOwner
    f.Culled p byOwner nobody text notices (f.changed id
      (if listed.isEmpty then .ok (nobody, f)
        else .ok (text listed.length,
          { g with notices := g.notices ++ notices listed.length }))) := by
  intro g
  have hculls : f.Culls p byOwner g := by
    have hall := culls_killEach hports p byOwner
    rwa [← hlisted] at hall
  have hnumber : f.numberOf p = listed.length := by rw [hlisted, f.length_listed]
  refine ⟨g, hculls, ?_⟩
  rw [hnumber]
  cases listed with
  | nil => rfl
  | cons first rest => rfl

theorem require_of_atLeast {who : String} {required : AccountLevel}
    (hlevel : (f.store.level who).atLeast required = true) :
    f.require who required = .ok (f.store.level who) := by
  rw [require, if_pos hlevel]

theorem culled_killAll (hports : f.registry.ports.Nodup) (env : Surroundings) {who : String}
    (hlevel : (f.store.level who).atLeast .admin = true) :
    f.Culled (fun _ => true) false "There are no servers running." killedText
      (fun n => [.moderation s!"{who}: {killedText n}"]) (f.dispatch env (.killAll who)) := by
  show f.Culled _ _ _ _ _ (f.changed id (f.killAll who))
  rw [killAll, require_of_atLeast hlevel]
  exact culled_of_listed hports (fun _ => true) false _ killedText _ (List.filter_true _).symm

/-- A version is found by its name in any case of the letters A to Z. -/
theorem culled_killVersion (hports : f.registry.ports.Nodup) (env : Surroundings) {who : String}
    (hlevel : (f.store.level who).atLeast .admin = true) {v : Version}
    (hv : v ∈ f.config.catalog.entries) {version : String}
    (hname : Text.sameLetters v.name version = true) :
    ∃ found ∈ f.config.catalog.entries, Text.sameLetters found.name v.name = true ∧
      f.Culled (fun s => Text.sameLetters s.versionName v.name) false "No servers to kill."
        killedText (fun n => [.moderation s!"{who} killed all {n} {found.name} servers"])
        (f.dispatch env (.killVersion who version)) := by
  obtain ⟨found, hfound⟩ : ∃ found, f.config.catalog.get? version = some found := by
    rw [← Option.isSome_iff_exists, Catalog.get?, List.find?_isSome]
    exact ⟨v, hv, hname⟩
  have hfind : f.config.catalog.entries.find? (fun v => Text.sameLetters v.name version) =
      some found := hfound
  have hsame : Text.asciiLower found.name = Text.asciiLower v.name := by
    have hletters := List.find?_some hfind
    exact (Text.sameLetters_iff.1 hletters).trans (Text.sameLetters_iff.1 hname).symm
  refine ⟨found, List.mem_of_find?_eq_some hfind, Text.sameLetters_iff.2 hsame, ?_⟩
  show f.Culled _ _ _ _ _ (f.changed id (f.killVersion version who))
  rw [killVersion, require_of_atLeast hlevel, hfound]
  refine culled_of_listed hports _ false _ killedText _ (List.filter_congr fun e _ => ?_)
  rw [Bool.eq_iff_iff, Text.sameLetters_iff, Text.sameLetters_iff, hsame]

theorem culled_killMine (hports : f.registry.ports.Nodup) (env : Surroundings) {who : String}
    (hlevel : (f.store.level who).atLeast .registered = true) :
    let ports := Text.joinWith ", " ((f.ofOwner who).map fun e => toString e.2.port)
    f.Culled (fun s => Text.sameLetters s.owner who) true "You do not have any servers running."
      (fun n => s!"Killed your {n} server{pluralEnding n} ({ports})") (fun _ => [])
      (f.dispatch env (.killMine who)) := by
  intro ports
  show f.Culled _ _ _ _ _ (f.changed id (f.killMine who))
  rw [killMine, require_of_atLeast hlevel]
  have hlisted : f.ofOwner who = f.all.filter fun e => Text.sameLetters e.2.owner who := rfl
  have hculled := culled_of_listed hports (fun s => Text.sameLetters s.owner who) true
    "You do not have any servers running."
    (fun n => s!"Killed your {n} server{pluralEnding n} ({ports})") (fun _ => []) hlisted
  simpa only [List.append_nil] using hculled

/-! ### Idle servers -/

/-- Is a server to be killed for being idle? It is not protected, and its last activity is more than
    some days ago, counted in whole numbers of any size. -/
def isOverdue (days : UInt64) (now : Int64) (s : Server) : Bool :=
  !s.isProtected && decide ((days.toNat : Int) * 86400000 < now.toInt - s.lastActivity.toInt)

/-- A time that fits into 64 bits is never beyond a limit that does not. -/
theorem idleLimit_lt_iff {days : UInt64} {time : Int} (htime : time ≤ Int64.maxValue.toInt) :
    idleLimit days < time ↔ (days.toNat : Int) * 86400000 < time := by
  rw [Int64.toInt_maxValue] at htime
  simp only [idleLimit, dayMillis]
  omega

/-- Where the time since the last activity fits into 64 bits, no server is taken for another. -/
theorem isIdle_eq {days : UInt64} {now : Int64} {s : Server}
    (hleast : Int64.minValue.toInt ≤ now.toInt - s.lastActivity.toInt)
    (hmost : now.toInt - s.lastActivity.toInt ≤ Int64.maxValue.toInt) :
    isIdle days now s = isOverdue days now s := by
  have hexact : (now - s.lastActivity).toInt = now.toInt - s.lastActivity.toInt := by
    have hmin := Int64.toInt_minValue
    have hmax := Int64.toInt_maxValue
    rw [Int64.toInt_sub, Int.bmod_eq_of_le (by omega) (by omega)]
  rw [isIdle, isOverdue, hexact]
  congr 1
  exact decide_eq_decide.2 (idleLimit_lt_iff hmost)

/-- Idle servers are swept exactly: those that are registered, not protected, and idle for longer
    than the days are killed, not by their owners, and nothing happens to the others. As many are
    counted as leave the registry. No port stands twice in a registry; a server might. -/
theorem culls_killIdle (f : Fleet) (days : UInt64) (now : Int64) (hports : f.registry.ports.Nodup)
    (htimes : ∀ ref ∈ f.registry.servers, ∀ s, f.server? ref = some s →
      Int64.minValue.toInt ≤ now.toInt - s.lastActivity.toInt ∧
        now.toInt - s.lastActivity.toInt ≤ Int64.maxValue.toInt) :
    f.Culls (isOverdue days now) false (f.killIdle days now).2 ∧
      (f.killIdle days now).1 = f.numberOf (isOverdue days now) := by
  have hlist : (f.all.filter fun e => isIdle days now e.2) =
      f.all.filter fun e => isOverdue days now e.2 := by
    apply List.filter_congr
    intro e he
    obtain ⟨hregistered, hs⟩ := mem_all_iff.1 he
    obtain ⟨hleast, hmost⟩ := htimes e.1 hregistered e.2 hs
    exact isIdle_eq hleast hmost
  constructor
  · show f.Culls _ false (f.killEach ((f.all.filter fun e => isIdle days now e.2).map (·.1)) false)
    rw [hlist]
    exact culls_killEach hports _ false
  · show (f.all.filter fun e => isIdle days now e.2).length = _
    rw [hlist]
    exact f.length_listed _

/-- Of two servers with a millisecond between their last activities a sweep after just one day takes
    the one that was idle for longer. -/
theorem culls_after_one_day :
    let f := sharedFleet.update 1 ({ · with lastActivity := -1 })
    let swept := f.killIdle 1 86400000
    f.registry.entries = [(10, 0), (11, 1)] ∧ swept.2.registry.entries = [(10, 0)] ∧
      f.Culls (isOverdue 1 86400000) false swept.2 ∧ swept.1 = 1 := by
  intro f swept
  obtain ⟨hentries, hkept, hports, hactive, hidle, hone⟩ :
      f.registry.entries = [(10, 0), (11, 1)] ∧
      (f.registry.entries.filter fun e => !f.fits (isOverdue 1 86400000) e.2) = [(10, 0)] ∧
      f.registry.ports.Nodup ∧ (f.server? 0).map (·.lastActivity) = some 0 ∧
      (f.server? 1).map (·.lastActivity) = some (-1) ∧
      f.numberOf (isOverdue 1 86400000) = 1 := by decide +kernel
  have htimes : ∀ ref ∈ f.registry.servers, ∀ s, f.server? ref = some s →
      s.lastActivity = 0 ∨ s.lastActivity = -1 := by
    intro ref hregistered s hs
    rw [Registry.servers, hentries] at hregistered
    obtain rfl | rfl : ref = 0 ∨ ref = 1 := by simpa using hregistered
    · rw [hs] at hactive
      exact Or.inl (Option.some.inj hactive)
    · rw [hs] at hidle
      exact Or.inr (Option.some.inj hidle)
  have hresult := culls_killIdle f 1 86400000 hports fun ref hregistered s hs => by
    obtain h | h := htimes ref hregistered s hs <;> rw [h] <;> decide
  exact ⟨hentries, hresult.1.entries.trans hkept, hresult.1, hresult.2.trans hone⟩

end Fleet

end HostDaemon
