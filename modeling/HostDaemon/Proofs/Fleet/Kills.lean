import HostDaemon.Fleet.Control
import HostDaemon.Proofs.Fleet.Operations

/-! # Kills

  What the daemon does to a server when it kills it, whoever asks for it.

  - `Fleet.calls` lists the kills that a request asks for, and `Fleet.alike_dispatch` says that the
    request does nothing else of consequence.
  - `Fleet.answered_callAll` says what kills answer that are done one after the other: only the
    first finds a server that is registered.
  - `Fleet.fate?_callAll` says what they note on it. -/

namespace HostDaemon

/-- A kill on purpose that is done at once. -/
structure KillCall where
  /-- The server. -/
  server : ServerRef
  /-- Is it its owner who kills it? -/
  byOwner : Bool
  /-- Is its end not to be reported? -/
  isQuiet : Bool

namespace Fleet

variable {f f' : Fleet} {ref : ServerRef}

/-! ### Who is killed -/

/-- The servers that have been idle for more than some days. -/
def idleServers (f : Fleet) (days : UInt64) (now : Int64) : List ServerRef :=
  (f.all.filter fun (_, s) => isIdle days now s).map (·.1)

/-- The servers that a request kills. -/
def targets (f : Fleet) (env : Surroundings) : Request → List ServerRef
  | .kill who port =>
    match f.authorized port who .registered with
    | .ok (ref, _, _) => [ref]
    | .error _ => []
  | .killMine who =>
    match f.require who .registered with
    | .ok _ => (f.ofOwner who).map (·.1)
    | .error _ => []
  | .killAll who =>
    match f.require who .admin with
    | .ok _ => f.all.map (·.1)
    | .error _ => []
  | .killVersion who version =>
    match f.require who .admin, f.config.catalog.get? version with
    | .ok _, some v => (f.ofVersion v.name).map (·.1)
    | _, _ => []
  | .killInactive who days =>
    match f.require who .moderator with
    | .ok _ => if days = 0 then [] else f.idleServers days env.now
    | .error _ => []
  | .cleanup who =>
    match f.require who .moderator with
    | .ok _ =>
      if f.config.host.cleanupIntervalDays = 0 then []
      else f.idleServers f.config.host.cleanupIntervalDays env.now
    | .error _ => []
  | _ => []

/-- The kills that a request asks for. Only the kill of a single server has its end reported. -/
def calls (f : Fleet) (env : Surroundings) : Request → List KillCall
  | .kill who port =>
    match f.authorized port who .registered with
    | .ok (ref, _, owns) => [⟨ref, owns, false⟩]
    | .error _ => []
  | .killMine who => (f.targets env (.killMine who)).map (⟨·, true, true⟩)
  | r => (f.targets env r).map (⟨·, false, true⟩)

/-- The kills that a request asks for are those of the servers that it kills. -/
theorem map_server_calls (f : Fleet) (env : Surroundings) (r : Request) :
    (f.calls env r).map (·.server) = f.targets env r := by
  cases r with
  | kill who port =>
    simp only [calls, targets]
    split <;> rfl
  | _ => simp [calls, Function.comp_def]

/-! ### Kills at once -/

/-- Do a kill. Says whether it took the server out of the registry. -/
def call (f : Fleet) (k : KillCall) : Bool × Fleet :=
  (if k.isQuiet then f.update k.server ({ · with hidesStop := true }) else f).kill k.server
    k.byOwner

/-- Do several kills, one after the other. -/
def callAll (f : Fleet) (ks : List KillCall) : Fleet := ks.foldl (fun f k => (f.call k).2) f

/-- What several kills answer that are kills of one server. -/
def answers (ref : ServerRef) : Fleet → List KillCall → List Bool
  | _, [] => []
  | f, k :: ks => (if k.server = ref then [(f.call k).1] else []) ++ answers ref (f.call k).2 ks

theorem killEach_eq (f : Fleet) (refs : List ServerRef) (byOwner : Bool) :
    f.killEach refs byOwner = f.callAll (refs.map (⟨·, byOwner, true⟩)) := by
  rw [killEach, callAll, List.foldl_map]
  rfl

/-- A kill marks its server, takes it out of the registry, and makes its process end. -/
theorem moves_call (hcrew : f.Crew) (k : KillCall) :
    Moves k.server (fun l => l.mark.evict.endProcess) f (f.call k).2 ∨
      Moves k.server (fun l => l.mark.evict) f (f.call k).2 := by
  obtain ⟨ref, byOwner, isQuiet⟩ := k
  cases isQuiet with
  | false => exact moves_kill hcrew ref byOwner
  | true => exact moves_killQuietly hcrew ref byOwner

/-- A kill leaves the tables as they belong. -/
theorem crew_call (hcrew : f.Crew) (k : KillCall) : (f.call k).2.Crew := by
  rcases moves_call hcrew k with hmoves | hmoves
  · exact hmoves.crew hcrew
  · exact hmoves.crew hcrew

/-! ### What kills answer -/

/-- Killing a process leaves the registry as it is. -/
@[simp] theorem registry_killProcess (f : Fleet) (ref : ServerRef) :
    (f.killProcess ref).registry = f.registry := by
  unfold killProcess
  repeat' split
  all_goals rfl

/-- Whoever takes a server out of the registry is told whether it was there. -/
theorem unregister_fst (hregistry : f.registry.Faithful)
    (hregistered : ∀ e ∈ f.registry.entries, e.2 < f.servers.length) (ref : ServerRef) :
    (f.unregister ref).1 = decide (ref ∈ f.registry.servers) := by
  unfold unregister
  cases hs : f.server? ref with
  | some s => simp only [hregistry.remove_eq]
  | none =>
    -- No entry is that of a server that was never made.
    have hlarge : f.servers.length ≤ ref := List.getElem?_eq_none_iff.1 hs
    symm
    rw [decide_eq_false_iff_not, Registry.mem_servers_iff]
    rintro ⟨port, hentry⟩
    exact Nat.not_lt.2 hlarge (hregistered _ hentry)

/-- A kill answers whether its server was registered, and leaves it unregistered. -/
theorem call_eq (hcrew : f.Crew) (k : KillCall) :
    (f.call k).1 = decide (k.server ∈ f.registry.servers) ∧
      (f.call k).2.registry = ⟨f.registry.entries.filter fun e => decide (e.2 ≠ k.server)⟩ := by
  -- What is noted on the server before does not touch the registry.
  have hnoted : ∀ g : Fleet, g.registry = f.registry → g.servers.length = f.servers.length →
      (g.unregister k.server).1 = decide (k.server ∈ f.registry.servers) ∧
        (g.unregister k.server).2.registry =
          ⟨f.registry.entries.filter fun e => decide (e.2 ≠ k.server)⟩ := by
    intro g hregistry hlength
    have hfaithful : g.registry.Faithful := by
      rw [hregistry]
      exact hcrew.faithful
    have hlt : ∀ e ∈ g.registry.entries, e.2 < g.servers.length := by
      rw [hregistry, hlength]
      exact hcrew.registered_lt
    rw [unregister_fst hfaithful hlt, unregister_snd hfaithful hlt, hregistry]
    exact ⟨rfl, rfl⟩
  simp only [call, kill, terminate, registry_killProcess]
  refine hnoted _ ?_ ?_
  · split <;> rfl
  · split <;> simp [update]

/-- Whether a server is registered before and after some attempts to take it out of the registry,
    and what they answer: the first is told whether it was there, and all others find it gone. -/
def Answered (before after : Bool) (answers : List Bool) : Prop :=
  answers = [] ∧ after = before ∨ ∃ n, answers = before :: List.replicate n false ∧ after = false

namespace Answered

theorem nil (registered : Bool) : Answered registered registered [] := Or.inl ⟨rfl, rfl⟩

theorem single (registered : Bool) : Answered registered false [registered] :=
  Or.inr ⟨0, rfl, rfl⟩

/-- Attempts that follow on others. -/
theorem append {before middle after : Bool} {answers answers' : List Bool}
    (h : Answered before middle answers) (h' : Answered middle after answers') :
    Answered before after (answers ++ answers') := by
  obtain ⟨rfl, rfl⟩ | ⟨n, rfl, rfl⟩ := h
  · exact h'
  · obtain ⟨rfl, rfl⟩ | ⟨n', rfl, rfl⟩ := h'
    · exact Or.inr ⟨n, List.append_nil _, rfl⟩
    · refine Or.inr ⟨n + (n' + 1), ?_, rfl⟩
      rw [← List.replicate_succ, List.cons_append, List.replicate_append_replicate]

end Answered

/-- Several kills answer as attempts to take a server out of the registry do. -/
theorem answered_callAll (hcrew : f.Crew) (ref : ServerRef) (ks : List KillCall) :
    Answered (decide (ref ∈ f.registry.servers))
      (decide (ref ∈ (f.callAll ks).registry.servers)) (f.answers ref ks) := by
  induction ks generalizing f with
  | nil => exact .nil _
  | cons k ks ih =>
    obtain ⟨hanswer, hregistry⟩ := call_eq hcrew k
    refine Answered.append ?_ (ih (crew_call hcrew k))
    have hmem : ref ∈ (f.call k).2.registry.servers ↔
        ref ∈ f.registry.servers ∧ ref ≠ k.server := by
      rw [hregistry, Registry.mem_servers_iff, Registry.mem_servers_iff]
      simp
    by_cases hsame : k.server = ref
    · have hgone : ref ∉ (f.call k).2.registry.servers := fun hstill => (hmem.1 hstill).2 hsame.symm
      rw [if_pos hsame, hanswer, hsame, decide_eq_false hgone]
      exact .single _
    · -- The kill of another server changes nothing for this one.
      have hkept : ref ∈ (f.call k).2.registry.servers ↔ ref ∈ f.registry.servers := by
        rw [hmem, and_iff_left (Ne.symm hsame)]
      rw [if_neg hsame, decide_eq_decide.2 hkept]
      exact .nil _

/-! ### What kills note -/

end Fleet

namespace Fate

/-- A kill on purpose is noted. -/
def mark (m : Fate) (byOwner : Bool) : Fate where
  standing := { m.standing with isKilled := true, autoRestart := false }
  isKilledByOwner := m.isKilledByOwner || byOwner

/-- Several kills are noted, each with whether it was one by the owner. -/
def markAll (m : Fate) (flags : List Bool) : Fate := flags.foldl mark m

@[simp] theorem port_markAll (m : Fate) (flags : List Bool) :
    (m.markAll flags).standing.port = m.standing.port := by
  induction flags generalizing m with
  | nil => rfl
  | cons flag flags ih => exact ih (m.mark flag)

@[simp] theorem isRunning_markAll (m : Fate) (flags : List Bool) :
    (m.markAll flags).standing.isRunning = m.standing.isRunning := by
  induction flags generalizing m with
  | nil => rfl
  | cons flag flags ih => exact ih (m.mark flag)

/-- The fate of a server tells of the kills that came before, each given by whether it was one by
    the owner. -/
structure Tells (m : Fate) (flags : List Bool) : Prop where
  /-- The server was killed where there was a kill. -/
  isKilled : m.standing.isKilled = true ↔ flags ≠ []
  /-- Its owner killed it where one of them was by the owner. -/
  isKilledByOwner : m.isKilledByOwner = true ↔ true ∈ flags

/-- Whoever notes kills tells of these as well. -/
theorem Tells.markAll {m : Fate} {flags : List Bool} (h : m.Tells flags) (more : List Bool) :
    (m.markAll more).Tells (flags ++ more) := by
  induction more generalizing m flags with
  | nil =>
    rw [List.append_nil]
    exact h
  | cons flag more ih =>
    have hmark : (m.mark flag).Tells (flags ++ [flag]) := by
      refine ⟨by simp [mark], ?_⟩
      simp only [mark, Bool.or_eq_true, h.isKilledByOwner, List.mem_append, List.mem_singleton]
      exact or_congr_right eq_comm
    have hall := ih hmark
    rw [List.append_assoc, List.singleton_append] at hall
    exact hall

end Fate

/-- A kill on purpose is noted on a server. -/
theorem Server.fate_markKilled (s : Server) (byOwner : Bool) :
    (s.markKilled byOwner).fate = s.fate.mark byOwner := rfl

namespace Fleet

variable {f f' : Fleet} {ref : ServerRef}

/-- What the end of a server depends on. -/
def fate? (f : Fleet) (ref : ServerRef) : Option Fate := (f.server? ref).map Server.fate

/-- The kills of one server among several, each given by whether it was one by the owner. -/
def flagsOf (ref : ServerRef) (ks : List KillCall) : List Bool :=
  (ks.filter fun k => decide (k.server = ref)).map (·.byOwner)

/-- What changes nothing of consequence leaves every fate as it is. -/
theorem Alike.fate? (h : Alike f f') (ref : ServerRef) : f'.fate? ref = f.fate? ref := by
  have hget := congrArg (·[ref]?) h.fates
  simpa [Fleet.fate?, Fleet.server?] using hget

theorem fate?_congr (hservers : f'.servers = f.servers) (ref : ServerRef) :
    f'.fate? ref = f.fate? ref := by
  rw [fate?, server?, hservers, fate?, server?]

/-- What is noted on one server is noted on no other. -/
theorem fate?_update (f : Fleet) (server : ServerRef) (change : Server → Server) (move : Fate → Fate)
    (hmove : ∀ s, (change s).fate = move s.fate) (ref : ServerRef) :
    (f.update server change).fate? ref =
      if ref = server then (f.fate? ref).map move else f.fate? ref := by
  rw [fate?, server?_update]
  split
  next heq =>
    subst heq
    rw [fate?, Option.map_map, Option.map_map]
    exact Option.map_congr fun s _ => hmove s
  next => rfl

@[simp] theorem fate?_killProcess (f : Fleet) (server ref : ServerRef) :
    (f.killProcess server).fate? ref = f.fate? ref := by
  unfold killProcess
  split
  · rfl
  · split
    · rfl
    · exact (f.alike_update server ({ · with isKillRequested := true }) fun _ => rfl).fate? ref

@[simp] theorem fate?_unregister (f : Fleet) (server ref : ServerRef) :
    (f.unregister server).2.fate? ref = f.fate? ref := by
  unfold unregister
  split <;> rfl

/-- A kill is noted on its server and on no other. -/
theorem fate?_call (f : Fleet) (k : KillCall) (ref : ServerRef) :
    (f.call k).2.fate? ref =
      if ref = k.server then (f.fate? ref).map (·.mark k.byOwner) else f.fate? ref := by
  have hquiet : Fleet.fate? (if k.isQuiet then f.update k.server ({ · with hidesStop := true })
      else f) ref = f.fate? ref := by
    split
    · exact (f.alike_update k.server ({ · with hidesStop := true }) fun _ => rfl).fate? ref
    · rfl
  simp only [call, kill, terminate, fate?_killProcess, fate?_unregister]
  rw [fate?_update _ k.server _ (·.mark k.byOwner) fun s => s.fate_markKilled k.byOwner, hquiet]

/-- Several kills are noted on their servers. -/
theorem fate?_callAll (f : Fleet) (ks : List KillCall) (ref : ServerRef) :
    (f.callAll ks).fate? ref = (f.fate? ref).map (·.markAll (flagsOf ref ks)) := by
  induction ks generalizing f with
  | nil => exact Option.map_id'.symm
  | cons k ks ih =>
    refine (ih (f.call k).2).trans ?_
    rw [fate?_call, flagsOf, flagsOf, List.filter_cons]
    by_cases hsame : k.server = ref
    · rw [if_pos hsame.symm, if_pos (decide_eq_true hsame), Option.map_map]
      rfl
    · rw [if_neg (Ne.symm hsame), if_neg (by simpa using hsame)]

/-! ### Requests -/

/-- A sweep kills the servers that were idle for too long. -/
theorem alike_sweepAfter (f : Fleet) (days : UInt64) (now : Int64) :
    (f.callAll ((f.idleServers days now).map (⟨·, false, true⟩))).Alike (f.sweepAfter days now).2 := by
  rw [← killEach_eq]
  simp only [sweepAfter]
  split
  · exact alike_notify _ _
  · exact .refl _

/-- Where there is nobody to kill the answer is another one, and nothing is done. -/
theorem alike_killEach {targets : List (ServerRef × Server)} {byOwner : Bool} (nobody text : String)
    (hdone : (f.killEach (targets.map (·.1)) byOwner).Alike f') :
    (f.killEach (targets.map (·.1)) byOwner).Alike
      (f.changed id (if targets.isEmpty then .ok (nobody, f) else .ok (text, f'))).2 := by
  cases targets with
  | nil => exact .refl f
  | cons first rest => exact hdone

/-- A request that is answered at once does the kills that it asks for, and nothing else of
    consequence. -/
theorem alike_dispatch (f : Fleet) (env : Surroundings) (r : Request)
    (hother : ∀ owner options port recovering, r ≠ .host owner options port recovering) :
    (f.callAll (f.calls env r)).Alike (f.dispatch env r).2 := by
  cases r with
  | host owner options port recovering => exact absurd rfl (hother owner options port recovering)
  | list | info | log | query | shutdown =>
    simp only [dispatch, answered]
    first
      -- Who only asks changes nothing.
      | exact .refl f
      | split <;> exact .refl f
  | kill who port =>
    simp only [dispatch, killOn, calls]
    cases f.authorized port who .registered with
    | error e => exact .refl f
    | ok found => exact .refl _
  | killMine who =>
    simp only [dispatch, killMine, calls, targets]
    cases f.require who .registered with
    | error e => exact .refl f
    | ok level =>
      rw [← killEach_eq]
      exact alike_killEach _ _ (.refl _)
  | killAll who =>
    simp only [dispatch, killAll, calls, targets]
    cases f.require who .admin with
    | error e => exact .refl f
    | ok level =>
      rw [← killEach_eq]
      exact alike_killEach _ _ (alike_notify _ _)
  | killVersion who version =>
    simp only [dispatch, killVersion, calls, targets]
    cases f.require who .admin with
    | error e => exact .refl f
    | ok level =>
      cases f.config.catalog.get? version with
      | none => exact .refl f
      | some v =>
        simp only
        rw [← killEach_eq]
        exact alike_killEach _ _ (alike_notify _ _)
  | killInactive who days =>
    simp only [dispatch, killInactive, calls, targets]
    cases f.require who .moderator with
    | error e => exact .refl f
    | ok level =>
      rw [← killEach_eq]
      by_cases hzero : days = 0
      · simp only [hzero, if_true, changed]
        exact .refl f
      · simp only [hzero, if_false, killIdle]
        by_cases hnobody : (f.all.filter fun e => isIdle days env.now e.2).length = 0
        · simp only [hnobody, if_true]
          exact .refl _
        · simp only [hnobody, if_false]
          exact alike_notify _ _
  | cleanup who =>
    simp only [dispatch, cleanUp, calls, targets]
    cases f.require who .moderator with
    | error e => exact .refl f
    | ok level =>
      by_cases hzero : f.config.host.cleanupIntervalDays = 0
      · simp only [hzero, if_true, changed]
        exact .refl f
      · simp only [hzero, if_false]
        exact f.alike_sweepAfter _ env.now
  | send who port command =>
    simp only [dispatch, send]
    cases f.authorized port who .registered with
    | error e => exact .refl f
    | ok found =>
      obtain ⟨ref, s, owns⟩ := found
      cases ConsoleCommand.prepare? command who (some f.config.host.hostnameBase) with
      | none => exact .refl f
      | some lines =>
        have hwritten := f.alike_writeLines ref lines
        -- Whether the lines were taken is answered, and changes nothing else.
        cases hlines : f.writeLines ref lines with
        | mk taken f' =>
          rw [hlines] at hwritten
          simp only [hlines]
          cases taken <;> exact hwritten
  | sendAll who command =>
    simp only [dispatch, sendAll]
    cases f.require who .admin with
    | error e => exact .refl f
    | ok level =>
      cases linesForAll command who with
      | error e => exact .refl f
      | ok lines => exact f.alike_writeToEach lines _
  | broadcast who message =>
    simp only [dispatch, broadcast]
    cases f.require who .moderator with
    | error e => exact .refl f
    | ok level => exact f.alike_writeToEach _ _
  | protect who port =>
    simp only [dispatch, protect]
    cases f.authorized port who .vip with
    | error e => exact .refl f
    | ok found =>
      obtain ⟨ref, s, owns⟩ := found
      exact f.alike_update ref ({ · with isProtected := !s.isProtected }) fun _ => rfl
  | accepting who enabled =>
    simp only [dispatch, setAccepting]
    cases f.require who .admin with
    | error e => exact .refl f
    | ok level =>
      have hchanged : f.Alike { f with isAccepting := enabled } :=
        ⟨rfl, rfl, rfl, rfl, rfl, rfl, rfl, rfl⟩
      simp only [changed]
      split
      · exact hchanged
      · exact hchanged.trans (alike_notify _ _)

end Fleet

end HostDaemon
