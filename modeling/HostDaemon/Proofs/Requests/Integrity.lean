import HostDaemon.Proofs.Requests.Refusals

/-! # Whose servers a request touches

  Below the level of moderators an account acts on its own servers and on no others.

  - `Fleet.Spares` says that a server is as it was, with all that is noted about it.
  - `Fleet.spares_killEach` says that killing some servers spares all others.
  - `Fleet.spares_servers_of_others` is the main result, for every fleet and every request. -/

namespace HostDaemon

/-- In whose name a request is made. To list servers, to ask for their status and to stop the daemon
    no name is needed. -/
def Request.requester? : Request → Option String
  | .host owner .. => some owner
  | .kill who _ | .killMine who | .send who _ _ | .sendAll who _ | .broadcast who _ | .killAll who
  | .killVersion who _ | .killInactive who _ | .protect who _ | .info who _ | .log who _ _
  | .cleanup who | .accepting who _ => some who
  | .list _ | .query _ | .shutdown => none

/-- Who is not as high as a level is not as high as one above it. -/
theorem AccountLevel.atLeast_eq_false {level low high : AccountLevel}
    (hlow : level.atLeast low = false) (hle : low.rank ≤ high.rank) :
    level.atLeast high = false := by
  simp only [atLeast, decide_eq_false_iff_not] at hlow ⊢
  omega

namespace Fleet

/-- A server is as it was, with all that is noted about it. -/
structure Spares (ref : ServerRef) (f f' : Fleet) : Prop where
  /-- Its flags, its port, its settings and what was written to its console. -/
  server : f'.server? ref = f.server? ref
  /-- Whether it is registered, and under which port. -/
  entries : ∀ port, (port, ref) ∈ f'.registry.entries ↔ (port, ref) ∈ f.registry.entries
  /-- Who looks after it, and how far that has come. -/
  supervisor : f'.supervisor? ref = f.supervisor? ref
  /-- No port comes to stand twice in the registry. -/
  ports_nodup : f.registry.ports.Nodup → f'.registry.ports.Nodup

namespace Spares

variable {f f' f'' : Fleet} {ref : ServerRef}

theorem refl (ref : ServerRef) (f : Fleet) : Spares ref f f :=
  ⟨rfl, fun _ => Iff.rfl, rfl, id⟩

theorem trans (h : Spares ref f f') (h' : Spares ref f' f'') : Spares ref f f'' where
  server := h'.server.trans h.server
  entries := fun port => (h'.entries port).trans (h.entries port)
  supervisor := h'.supervisor.trans h.supervisor
  ports_nodup := fun hnodup => h'.ports_nodup (h.ports_nodup hnodup)

/-- Files, notices, claims and places are nothing to a server. -/
theorem of_eq (hservers : f'.servers = f.servers) (hsupervisors : f'.supervisors = f.supervisors)
    (hregistry : f'.registry = f.registry) : Spares ref f f' where
  server := by rw [server?, server?, hservers]
  entries := fun port => by rw [hregistry]
  supervisor := by rw [supervisor?, supervisor?, hsupervisors]
  ports_nodup := fun hnodup => by rwa [hregistry]

end Spares

variable {f : Fleet} {ref other : ServerRef}

/-! ### Kills and consoles -/

theorem spares_update (f : Fleet) (hne : ref ≠ other) (change : Server → Server) :
    Spares ref f (f.update other change) where
  server := by rw [server?_update, if_neg hne]
  entries := fun _ => Iff.rfl
  supervisor := rfl
  ports_nodup := id

theorem spares_updateSupervisor (f : Fleet) (hne : ref ≠ other) {change : Supervisor → Supervisor}
    (hchange : ∀ v, (change v).server = v.server) :
    Spares ref f (f.updateSupervisor other change) where
  server := rfl
  entries := fun _ => Iff.rfl
  supervisor := by rw [supervisor?_updateSupervisor f other hchange, if_neg hne]
  ports_nodup := id

theorem spares_unregister (hne : ref ≠ other) (hnodup : f.registry.ports.Nodup) :
    Spares ref f (f.unregister other).2 := by
  unfold unregister
  split
  next => exact .refl ref f
  next s _ =>
    exact ⟨rfl, fun _ => Registry.mem_remove_iff hnodup hne, rfl,
      fun _ => Registry.ports_nodup_remove hnodup s.port other⟩

theorem spares_killProcess (f : Fleet) (hne : ref ≠ other) : Spares ref f (f.killProcess other) := by
  unfold killProcess
  split
  · exact .refl ref f
  · split
    · exact f.spares_updateSupervisor hne fun _ => rfl
    · exact f.spares_update hne _

theorem spares_kill (hne : ref ≠ other) (hnodup : f.registry.ports.Nodup) (byOwner : Bool) :
    Spares ref f (f.kill other byOwner).2 := by
  have hmark := f.spares_update hne (·.markKilled byOwner)
  have hout := spares_unregister hne (hmark.ports_nodup hnodup)
  exact (hmark.trans hout).trans (spares_killProcess _ hne)

theorem spares_killQuietly (hne : ref ≠ other) (hnodup : f.registry.ports.Nodup)
    (byOwner : Bool) : Spares ref f (f.killQuietly other byOwner) := by
  have hquiet := f.spares_update hne ({ · with hidesStop := true })
  exact hquiet.trans (spares_kill hne (hquiet.ports_nodup hnodup) byOwner)

/-- Killing some servers spares all others. -/
theorem spares_killEach {refs : List ServerRef} (habsent : ref ∉ refs)
    (hnodup : f.registry.ports.Nodup) (byOwner : Bool) :
    Spares ref f (f.killEach refs byOwner) := by
  induction refs generalizing f with
  | nil => exact .refl ref f
  | cons first rest ih =>
    rw [List.mem_cons, not_or] at habsent
    obtain ⟨hne, hrest⟩ := habsent
    have hfirst := spares_killQuietly hne hnodup byOwner
    exact hfirst.trans (ih hrest (hfirst.ports_nodup hnodup))

theorem spares_writeLines (f : Fleet) (hne : ref ≠ other) (lines : List String) :
    Spares ref f (f.writeLines other lines).2 := by
  unfold writeLines
  split
  · exact .refl ref f
  · exact f.spares_update hne _

/-! ### Hosting requests -/

theorem spares_setPending (f : Fleet) (owner : String) (n : Nat) :
    Spares ref f (f.setPending owner n) := .of_eq rfl rfl rfl

/-- Who is launched comes last, and is none of those that were launched before. -/
theorem spares_launch (hold : ref < f.servers.length) (env : Surroundings) (spec : LaunchSpec)
    (restarts : UInt32) (isRecovering : Bool) (port : UInt16) :
    Spares ref f (f.launch env spec restarts isRecovering port).2 := by
  rcases f.launch_cases env spec restarts isRecovering port with
    ⟨e, files, hlaunch⟩ | ⟨files, logFile, log, hlaunch⟩
  · rw [hlaunch]
    exact .of_eq rfl rfl rfl
  · obtain ⟨s, -, hadopt⟩ := adopt_eq { f with files := files } env spec restarts isRecovering port
      logFile log
    rw [hlaunch, hadopt]
    refine ⟨?_, fun _ => Iff.rfl, ?_, id⟩
    · exact List.getElem?_append_left hold
    · have hne : f.servers.length ≠ ref := Nat.ne_of_gt hold
      simp [supervisor?, List.find?_append, hne]

theorem spares_hostChecked (hold : ref < f.servers.length) (env : Surroundings) (owner : String)
    (level : AccountLevel) (optionLine : String) (port : Option UInt16) (recovering : Bool) :
    Spares ref f (f.hostChecked env owner level optionLine port recovering).2 := by
  unfold hostChecked
  cases f.buildSpec env f.registry.ports owner level optionLine port recovering with
  | error e => exact .refl ref f
  | ok spec =>
    simp only
    cases hreserve : f.reserveFor env spec with
    | error e => exact .refl ref f
    | ok claim =>
      obtain ⟨port, claimed⟩ := claim
      obtain ⟨-, rfl⟩ := reserveFor_eq_ok hreserve
      have hlaunch := spares_launch
        (f := { f with ports := { f.ports with claimed := port :: f.ports.claimed } })
        hold env spec 0 recovering port
      have hclaim : Spares ref f
          { f with ports := { f.ports with claimed := port :: f.ports.claimed } } :=
        .of_eq rfl rfl rfl
      simp only
      split
      next hfail =>
        rw [hfail] at hlaunch
        exact hclaim.trans hlaunch
      next hdone =>
        rw [hdone] at hlaunch
        split
        · exact hclaim.trans hlaunch
        · exact hclaim.trans hlaunch

/-- A hosting request touches no server that was launched before it. -/
theorem spares_host (hold : ref < f.servers.length) (env : Surroundings)
    (owner optionLine : String) (port : Option UInt16) (recovering : Bool) :
    Spares ref f (f.host env owner optionLine port recovering).2 := by
  unfold host
  split
  · exact .refl ref f
  · split
    · exact .refl ref f
    next level _ =>
      split
      · exact spares_hostChecked hold env owner level optionLine port recovering
      · split
        · exact .refl ref f
        next held hclaim =>
          rw [claimQuota, grantPlace] at hclaim
          split at hclaim
          · cases hclaim
          · cases hclaim
            have hheld : Spares ref f (f.holdPlace owner) := f.spares_setPending owner _
            have hhosted := spares_hostChecked (f := f.holdPlace owner) hold env owner level
              optionLine port recovering
            exact (hheld.trans hhosted).trans (spares_setPending _ owner _)

/-! ### All requests -/

/-- Who has the level that is required is as high as it. -/
theorem require_eq_ok {who : String} {required level : AccountLevel}
    (h : f.require who required = .ok level) :
    level = f.store.level who ∧ level.atLeast required = true := by
  unfold require at h
  simp only at h
  split at h
  next hlevel =>
    cases h
    exact ⟨rfl, hlevel⟩
  next => cases h

/-- Who acts on a server without being a moderator owns it. -/
theorem owns_of_authorized {port : UInt16} {who : String} {required : AccountLevel} {s : Server}
    {owns : Bool} (hlevel : (f.store.level who).atLeast .moderator = false)
    (h : f.authorized port who required = .ok (ref, s, owns)) :
    f.server? ref = some s ∧ s.isOwnedBy who = true := by
  unfold authorized at h
  cases hrequire : f.require who required with
  | error e =>
    rw [hrequire] at h
    cases h
  | ok level =>
    rw [hrequire] at h
    obtain ⟨rfl, -⟩ := require_eq_ok hrequire
    simp only [controlled] at h
    split at h
    next => cases h
    next found s' hlookup =>
      split at h
      next => cases h
      next hallowed =>
        cases h
        rw [lookup, Option.bind_eq_some_iff] at hlookup
        obtain ⟨found, -, hfound⟩ := hlookup
        rw [Option.map_eq_some_iff] at hfound
        obtain ⟨s', hs', heq⟩ := hfound
        cases heq
        refine ⟨hs', ?_⟩
        simpa [hlevel] using hallowed

/-- The servers of an owner are those that belong to the owner. -/
theorem owns_of_mem_ofOwner {owner : String} {s : Server} (h : (ref, s) ∈ f.ofOwner owner) :
    f.server? ref = some s ∧ s.isOwnedBy owner = true := by
  obtain ⟨hall, howner⟩ := List.mem_filter.1 h
  exact ⟨(mem_all_iff.1 hall).2, howner⟩

/-- What an operation with a response spares, its request spares. -/
theorem spares_changed {α : Type} {result : Except RequestError (α × Fleet)} (text : α → String)
    (h : ∀ a f', result = .ok (a, f') → Spares ref f f') :
    Spares ref f (f.changed text result).2 := by
  cases result with
  | error e => exact .refl ref f
  | ok done => exact h done.1 done.2 rfl

/-- Who is not as high as is required is refused. -/
theorem require_eq_error {who : String} {required : AccountLevel}
    (hlow : (f.store.level who).atLeast required = false) :
    f.require who required = .error (.permission required) := by
  simp [require, hlow]

section

variable {who : String} {s : Server}
  (hlevel : (f.store.level who).atLeast .moderator = false) (hs : f.server? ref = some s)
  (hother : s.isOwnedBy who = false)

include hs hother

/-- A server of another owner is not among those of the requester. -/
theorem not_mem_ofOwner : ref ∉ (f.ofOwner who).map (·.1) := by
  intro hmine
  obtain ⟨⟨mine, s'⟩, hmem, rfl⟩ := List.mem_map.1 hmine
  obtain ⟨hs', howner⟩ := owns_of_mem_ofOwner hmem
  rw [hs, Option.some.injEq] at hs'
  rw [← hs', hother] at howner
  cases howner

theorem spares_killMine (hnodup : f.registry.ports.Nodup) {text : String} {f' : Fleet}
    (h : f.killMine who = .ok (text, f')) : Spares ref f f' := by
  unfold killMine at h
  split at h
  next => cases h
  next =>
    simp only at h
    split at h
    next =>
      cases h
      exact .refl ref f
    next =>
      cases h
      exact spares_killEach (not_mem_ofOwner hs hother) hnodup true

include hlevel

/-- Whoever may act on a server without being a moderator owns it, so that it is another one. -/
theorem ne_of_authorized {port : UInt16} {required : AccountLevel} {found : ServerRef}
    {s' : Server} {owns : Bool} (h : f.authorized port who required = .ok (found, s', owns)) :
    ref ≠ found := by
  rintro rfl
  obtain ⟨hs', howner⟩ := owns_of_authorized hlevel h
  rw [hs, Option.some.injEq] at hs'
  rw [← hs', hother] at howner
  cases howner

theorem spares_killOn (hnodup : f.registry.ports.Nodup) {port : UInt16} {text : String}
    {f' : Fleet} (h : f.killOn port who = .ok (text, f')) : Spares ref f f' := by
  unfold killOn at h
  split at h
  next => cases h
  next found s' owns hfound =>
    cases h
    exact spares_kill (ne_of_authorized hlevel hs hother hfound) hnodup owns

theorem spares_protect {port : UInt16} {text : String} {f' : Fleet}
    (h : f.protect port who = .ok (text, f')) : Spares ref f f' := by
  unfold protect at h
  split at h
  next => cases h
  next found s' owns hfound =>
    cases h
    exact f.spares_update (ne_of_authorized hlevel hs hother hfound) _

theorem spares_send (port : UInt16) (command : String) :
    Spares ref f (f.send port command who).2 := by
  unfold send
  split
  next => exact .refl ref f
  next found s' owns hfound =>
    split
    next => exact .refl ref f
    next lines _ =>
      have hwrite := f.spares_writeLines (ne_of_authorized hlevel hs hother hfound) lines
      split
      next heq => rwa [heq] at hwrite
      next heq => rwa [heq] at hwrite

end

/-- Below the level of moderators a request touches no server of another owner, whatever it asks
    for. In the registry every port stands once. -/
theorem spares_servers_of_others (f : Fleet) (env : Surroundings) (who : String) (r : Request)
    (hnodup : f.registry.ports.Nodup) (hlevel : (f.store.level who).atLeast .moderator = false)
    (hname : ∀ name, r.requester? = some name → name = who) (ref : ServerRef) (s : Server)
    (hs : f.server? ref = some s) (hother : s.isOwnedBy who = false) :
    Spares ref f (f.dispatch env r).2 := by
  have hadmin : (f.store.level who).atLeast .admin = false :=
    AccountLevel.atLeast_eq_false hlevel (by decide)
  cases r with
  | host owner options port recovering =>
    have hold : ref < f.servers.length := (List.getElem?_eq_some_iff.1 hs).1
    have hhost := spares_host hold env owner options port recovering
    simp only [dispatch]
    split
    next heq => rwa [heq] at hhost
    next heq => rwa [heq] at hhost
  | kill name port =>
    obtain rfl := hname name rfl
    exact spares_changed id fun _ _ hkill => spares_killOn hlevel hs hother hnodup hkill
  | killMine name =>
    obtain rfl := hname name rfl
    exact spares_changed id fun _ _ hkill => spares_killMine hs hother hnodup hkill
  | send name port command =>
    obtain rfl := hname name rfl
    have hsend := spares_send hlevel hs hother port command
    simp only [dispatch]
    split
    next heq => rwa [heq] at hsend
    next heq => rwa [heq] at hsend
  | protect name port =>
    obtain rfl := hname name rfl
    exact spares_changed id fun _ _ hprotect => spares_protect hlevel hs hother hprotect
  -- What is done to all servers at once needs a level that the account does not have.
  | killAll name | killVersion name | sendAll name | accepting name =>
    obtain rfl := hname name rfl
    refine spares_changed _ fun a f' hdone => ?_
    simp only [killAll, killVersion, sendAll, setAccepting, require_eq_error hadmin] at hdone
    cases hdone
  | killInactive name | cleanup name | broadcast name =>
    obtain rfl := hname name rfl
    refine spares_changed _ fun a f' hdone => ?_
    simp only [killInactive, cleanUp, broadcast, require_eq_error hlevel] at hdone
    cases hdone
  | info | log | query =>
    simp only [dispatch, answered_snd]
    exact .refl ref f
  | list | shutdown => exact .refl ref f

/-! ### Two accounts on the small machine -/

/-- The configuration of the small machine with a second account. -/
def sharedConfig : Config :=
  { Traffic.smallConfig 1 with policy := ⟨[], [("al", .registered), ("bo", .registered)], [], [], []⟩ }

/-- The same surroundings all the time, but for the identifier. -/
def sharedSurroundings (id : String) : Surroundings := ⟨0, fun _ => true, fun _ => none, id, 1⟩

/-- Each of the two accounts has a server that runs. -/
def sharedFleet : Fleet :=
  let asked := Fleet.start sharedConfig "/l" Traffic.smallFiles
  let first := (asked.dispatch (sharedSurroundings "a") (.host "al" "iwad=doom2" none false)).2
  let both := (first.dispatch (sharedSurroundings "b") (.host "bo" "iwad=doom2" none false)).2
  let started := both.onLine (sharedSurroundings "") 0 "UDP Initialized."
  started.onLine (sharedSurroundings "") 1 "UDP Initialized."

/-- Whoever kills a server of their own touches no other. -/
theorem spares_server_of_al :
    let f' := (sharedFleet.dispatch (sharedSurroundings "c") (.kill "bo" 11)).2
    sharedFleet.registry.entries = [(10, 0), (11, 1)] ∧ f'.registry.entries = [(10, 0)] ∧
      Spares 0 sharedFleet f' := by
  intro f'
  obtain ⟨hentries, hkilled, hlevel, howner⟩ :
      sharedFleet.registry.entries = [(10, 0), (11, 1)] ∧ f'.registry.entries = [(10, 0)] ∧
      (sharedFleet.store.level "bo").atLeast .moderator = false ∧
      (sharedFleet.server? 0).map (·.isOwnedBy "bo") = some false := by decide +kernel
  have hnodup : sharedFleet.registry.ports.Nodup := by
    rw [Registry.ports, hentries]
    decide
  have hname : ∀ name, (Request.kill "bo" 11).requester? = some name → name = "bo" := by
    intro name hname
    cases hname
    rfl
  obtain ⟨s, hs, hother⟩ := Option.map_eq_some_iff.1 howner
  refine ⟨hentries, hkilled, ?_⟩
  exact spares_servers_of_others sharedFleet (sharedSurroundings "c") "bo" (.kill "bo" 11) hnodup
    hlevel hname 0 s hs hother

end Fleet

namespace Traffic

/-- A hosting request that goes on changes nothing but places and claims, or has its server
    launched. -/
theorem fleet_stepHosting (t : Traffic) (env : Surroundings) (i : Nat) :
    (∃ pending ports,
      (t.stepHosting env i).fleet = { t.fleet with pending := pending, ports := ports }) ∨
    ∃ spec isRecovering port,
      (t.stepHosting env i).fleet = (t.fleet.launch env spec 0 isRecovering port).2 := by
  cases hget : t.hostings[i]? with
  | none =>
    simp only [stepHosting, hget]
    exact Or.inl ⟨_, _, rfl⟩
  | some h =>
    cases hstage : h.stage with
    | waiting =>
      simp only [stepHosting, hget, hstage]
      split <;> exact Or.inl ⟨_, _, rfl⟩
    | countedPending n =>
      simp only [stepHosting, hget, hstage]
      exact Or.inl ⟨_, _, rfl⟩
    | countedLaunching n =>
      simp only [stepHosting, hget, hstage, Fleet.grantPlace]
      split
      next hgrant =>
        split at hgrant
        · cases hgrant
        · cases hgrant
          exact Or.inl ⟨_, _, rfl⟩
      next => exact Or.inl ⟨_, _, rfl⟩
    | permitted | answered =>
      simp only [stepHosting, hget, hstage, nextStage]
      exact Or.inl ⟨_, _, rfl⟩
    | looked registered =>
      simp only [stepHosting, hget, hstage, nextStage]
      split <;> exact Or.inl ⟨_, _, rfl⟩
    | built spec =>
      simp only [stepHosting, hget, hstage, nextStage]
      split
      next hreserve =>
        obtain ⟨-, rfl⟩ := Fleet.reserveFor_eq_ok hreserve
        exact Or.inl ⟨_, _, rfl⟩
      next => exact Or.inl ⟨_, _, rfl⟩
    | claimed spec port =>
      right
      refine ⟨spec, h.recovering, port, ?_⟩
      simp only [stepHosting, hget, hstage, nextStage]
      split
      next heq => rw [heq]
      next heq => rw [heq]
    | launched | failed =>
      simp only [stepHosting, hget, hstage, nextStage, leavePlace]
      split <;> exact Or.inl ⟨_, _, rfl⟩

/-- A hosting request that goes on step by step touches no server that was launched before it,
    either. -/
theorem spares_stepHosting (t : Traffic) (env : Surroundings) (i : Nat) {ref : ServerRef}
    (hold : ref < t.fleet.servers.length) : t.fleet.Spares ref (t.stepHosting env i).fleet := by
  rcases t.fleet_stepHosting env i with ⟨pending, ports, hstill⟩ | ⟨spec, isRecovering, port, hlaunch⟩
  · rw [hstill]
    exact .of_eq rfl rfl rfl
  · rw [hlaunch]
    exact Fleet.spares_launch hold env spec 0 isRecovering port

end Traffic

end HostDaemon
