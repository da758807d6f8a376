import HostDaemon.Proofs.Fleet.Quota
import HostDaemon.Proofs.Traffic.Registration

/-! # What a refused request leaves behind

  A request that is refused or fails leaves the fleet as it was, at whatever point it fails: places
  in the quota and claimed ports are given back, and no server is made. Only files that were made on
  the way stay, and lines that a console took before it took no more.

  - `Fleet.Undisturbed` says what is as it was.
  - `Fleet.undisturbed_of_error` is the main result, for every fleet and every request.
  - `Traffic.undisturbed_of_answered_error` says the same of a hosting request that goes on step by
    step, each time in other surroundings. -/

namespace HostDaemon

/-! ### Consoles and ports -/

/-- What was written to a console stays written. -/
theorem Console.prefix_writeAll (c : Console) (lines : List String) :
    c.lines <+: (c.writeAll lines).2.lines := by
  induction lines generalizing c with
  | nil => exact List.prefix_refl _
  | cons line lines ih =>
    unfold writeAll
    cases hwrite : c.write? line with
    | none => exact List.prefix_refl _
    | some c' =>
      have hline : c'.lines = c.lines ++ [line] := by
        unfold write? at hwrite
        split at hwrite
        · cases hwrite
        · cases hwrite
          rfl
        · cases hwrite
          rfl
      have hbefore : c.lines <+: c'.lines := by
        rw [hline]
        exact List.prefix_append _ _
      exact hbefore.trans (ih c')

/-- A port that is given back at once leaves the table as it was. -/
theorem PortPool.release_claim {p : PortPool} {port : UInt16} (hfresh : port ∉ p.claimed) :
    PortPool.release { p with claimed := port :: p.claimed } port = p := by
  have hkeep : p.claimed.filter (fun other => decide (other ≠ port)) = p.claimed := by
    rw [List.filter_eq_self]
    intro other hother
    rw [decide_eq_true_eq]
    rintro rfl
    exact hfresh hother
  rw [release, List.filter_cons_of_neg (by simp), hkeep]

namespace Fleet

variable {f f' : Fleet} {env : Surroundings}

/-- Two fleets that differ in nothing but files and lines on consoles. -/
structure Undisturbed (f f' : Fleet) : Prop where
  /-- They have one configuration. -/
  config : f'.config = f.config
  /-- The log files lie in the same directory. -/
  logDir : f'.logDir = f.logDir
  /-- The policy is the same, and so are the start records. -/
  store : f'.store = f.store
  /-- No server was made. -/
  servers_length : f'.servers.length = f.servers.length
  /-- Every server is as it was, but for lines that were added on its console. -/
  server : ∀ ref s, f.server? ref = some s → ∃ console, s.console.lines <+: console.lines ∧
    f'.server? ref = some { s with console := console }
  /-- Every supervisor is as far as it was. -/
  supervisors : f'.supervisors = f.supervisors
  /-- The same servers are registered. -/
  registry : f'.registry = f.registry
  /-- The same servers are launching. -/
  launching : f'.launching = f.launching
  /-- As many requests of every owner hold a place. -/
  pendingOf : ∀ owner, f'.pendingOf owner = f.pendingOf owner
  /-- The same ports are claimed. -/
  ports : f'.ports = f.ports
  /-- Hosting is turned on or off as it was. -/
  isAccepting : f'.isAccepting = f.isAccepting
  /-- What is known of the reputation of addresses is the same. -/
  checker : f'.checker = f.checker
  /-- The same questions about addresses are open. -/
  lookups : f'.lookups = f.lookups
  /-- No notice went out. -/
  notices : f'.notices = f.notices

namespace Undisturbed

/-- Files and the order of the table of places are nothing of consequence. -/
theorem of_tables (files : FileSystem) (pending : List (String × Nat))
    (hpending : ∀ owner, Fleet.pendingOf { f with pending := pending } owner = f.pendingOf owner) :
    Undisturbed f { f with files := files, pending := pending } where
  config := rfl
  logDir := rfl
  store := rfl
  servers_length := rfl
  server := fun _ s hs => ⟨s.console, List.prefix_refl _, hs⟩
  supervisors := rfl
  registry := rfl
  launching := rfl
  pendingOf := hpending
  ports := rfl
  isAccepting := rfl
  checker := rfl
  lookups := rfl
  notices := rfl

theorem of_files (f : Fleet) (files : FileSystem) : Undisturbed f { f with files := files } :=
  of_tables files f.pending fun _ => rfl

theorem refl (f : Fleet) : Undisturbed f f := of_files f f.files

/-- A place that is given back at once is as if it had not been taken. -/
theorem of_place (f : Fleet) (owner : String) (files : FileSystem) :
    Undisturbed f (givePlaceBack { f.holdPlace owner with files := files } owner) := by
  refine of_tables files _ fun other => ?_
  have hback := pendingOf_givePlaceBack (f.holdPlace owner) owner other
  rw [pendingOf_holdPlace, Nat.add_sub_cancel] at hback
  exact hback

end Undisturbed

/-- Lines for a console change nothing else. -/
theorem undisturbed_writeLines (f : Fleet) (ref : ServerRef) (lines : List String) :
    Undisturbed f (f.writeLines ref lines).2 := by
  unfold writeLines
  split
  next => exact .refl f
  next s hs =>
    refine ⟨rfl, rfl, rfl, ?_, ?_, rfl, rfl, rfl, fun _ => rfl, rfl, rfl, rfl, rfl, rfl⟩
    · exact List.length_modify ..
    · intro other s' hs'
      rw [server?_update]
      split
      next heq =>
        rw [heq, hs, Option.some.injEq] at hs'
        subst hs'
        exact ⟨_, s.console.prefix_writeAll lines, by rw [hs, Option.map_some]⟩
      next => exact ⟨s'.console, List.prefix_refl _, hs'⟩

/-! ### Hosting requests -/

/-- A launch that fails gives the port back that was claimed for it. -/
theorem launch_eq_error {spec : LaunchSpec} {restarts : UInt32} {isRecovering : Bool}
    {port : UInt16} {e : StartError} (hfresh : port ∉ f.ports.claimed)
    (h : launch { f with ports := { f.ports with claimed := port :: f.ports.claimed } } env spec
      restarts isRecovering port = (.error e, f')) : ∃ files, f' = { f with files := files } := by
  rcases launch_cases { f with ports := { f.ports with claimed := port :: f.ports.claimed } } env
    spec restarts isRecovering port with ⟨e', files, hlaunch⟩ | ⟨files, logFile, log, hlaunch⟩
  · rw [hlaunch] at h
    obtain ⟨-, rfl⟩ := Prod.mk.inj h
    exact ⟨files, by rw [PortPool.release_claim hfresh]⟩
  · rw [hlaunch] at h
    cases h

/-- Who was just launched is a server. -/
theorem server?_of_launch {spec : LaunchSpec} {restarts : UInt32} {isRecovering : Bool}
    {port : UInt16} {ref : ServerRef}
    (h : f.launch env spec restarts isRecovering port = (.ok ref, f')) :
    ∃ s, f'.server? ref = some s := by
  rcases f.launch_cases env spec restarts isRecovering port with
    ⟨e, files, hlaunch⟩ | ⟨files, logFile, log, hlaunch⟩
  · rw [hlaunch] at h
    cases h
  · obtain ⟨s, -, hadopt⟩ := adopt_eq { f with files := files } env spec restarts isRecovering port
      logFile log
    rw [hlaunch, hadopt] at h
    obtain ⟨href, rfl⟩ := Prod.mk.inj h
    cases href
    exact ⟨s, List.getElem?_concat_length⟩

/-- A request that fails after it was permitted leaves nothing but files. -/
theorem hostChecked_eq_error {owner optionLine : String} {level : AccountLevel}
    {port : Option UInt16} {recovering : Bool} {e : RequestError}
    (h : f.hostChecked env owner level optionLine port recovering = (.error e, f')) :
    ∃ files, f' = { f with files := files } := by
  unfold hostChecked at h
  split at h
  next =>
    cases h
    exact ⟨f.files, rfl⟩
  next spec _ =>
    split at h
    next =>
      cases h
      exact ⟨f.files, rfl⟩
    next claim claimed hreserve =>
      obtain ⟨hgives, rfl⟩ := reserveFor_eq_ok hreserve
      split at h
      next failed hlaunch =>
        obtain ⟨-, rfl⟩ := Prod.mk.inj h
        exact launch_eq_error hgives.2.1 hlaunch
      next ref launched hlaunch =>
        obtain ⟨s, hs⟩ := server?_of_launch hlaunch
        rw [hs] at h
        cases h

/-- A hosting request that fails leaves nothing but files. -/
theorem undisturbed_host {owner optionLine : String} {port : Option UInt16} {recovering : Bool}
    {e : RequestError} (h : f.host env owner optionLine port recovering = (.error e, f')) :
    Undisturbed f f' := by
  unfold host at h
  split at h
  next =>
    cases h
    exact .refl f
  next =>
    split at h
    next =>
      cases h
      exact .refl f
    next level _ =>
      split at h
      next =>
        obtain ⟨files, rfl⟩ := hostChecked_eq_error h
        exact .of_files f files
      next =>
        split at h
        next =>
          cases h
          exact .refl f
        next held hclaim =>
          rw [claimQuota, grantPlace] at hclaim
          split at hclaim
          · cases hclaim
          · cases hclaim
            -- The place that was taken is given back, however the request fails.
            cases hchecked : (f.holdPlace owner).hostChecked env owner level optionLine port
              recovering with
            | mk result left =>
              rw [hchecked] at h
              cases h
              obtain ⟨files, rfl⟩ := hostChecked_eq_error hchecked
              exact .of_place f owner files

/-! ### All requests -/

/-- An operation that fails leaves the fleet as it is. -/
theorem changed_eq_error {α : Type} {text : α → String} {result : Except RequestError (α × Fleet)}
    {message : String} (h : f.changed text result = (.error message, f')) : f' = f := by
  cases result with
  | error e =>
    cases h
    rfl
  | ok done => cases h

/-- Who only looks changes nothing. -/
theorem answered_snd {α : Type} (respond : α → Response) (result : Except RequestError α) :
    (f.answered respond result).2 = f := by
  cases result <;> rfl

/-- A command that is not sent changes nothing but a console that took some of its lines. -/
theorem undisturbed_send {port : UInt16} {command who : String} {result : Except RequestError Unit}
    (h : f.send port command who = (result, f')) : Undisturbed f f' := by
  unfold send at h
  split at h
  next =>
    cases h
    exact .refl f
  next ref s owns _ =>
    split at h
    next =>
      cases h
      exact .refl f
    next lines _ =>
      have hwrite := f.undisturbed_writeLines ref lines
      split at h
      next heq =>
        cases h
        rwa [heq] at hwrite
      next heq =>
        cases h
        rwa [heq] at hwrite

/-- A request that is answered with an error leaves the fleet as it was, whatever the request and
    whatever the reason. -/
theorem undisturbed_of_error (f : Fleet) (env : Surroundings) (r : Request) (message : String)
    (f' : Fleet) (h : f.dispatch env r = (.error message, f')) : Undisturbed f f' := by
  cases r with
  | host owner options port recovering =>
    simp only [dispatch] at h
    split at h
    next => cases h
    next hhost =>
      cases h
      exact undisturbed_host hhost
  | send who port command =>
    simp only [dispatch] at h
    split at h
    next => cases h
    next hsend =>
      cases h
      exact undisturbed_send hsend
  | info who port | log who port lines | query port =>
    have hsame : f = f' := (answered_snd _ _).symm.trans (congrArg Prod.snd h)
    rw [← hsame]
    exact .refl f
  | list | shutdown => cases h
  | kill | killMine | sendAll | broadcast | killAll | killVersion | killInactive | protect | cleanup
  | accepting =>
    obtain rfl := changed_eq_error h
    exact .refl _

/-- On the small machine without the engine's program a request fails after it has taken a place and
    a port, and leaves nothing. -/
theorem undisturbed_of_missing_program :
    let files : FileSystem := ⟨[(["e"], .directory), (["i"], .directory),
      (["i", "doom2.wad"], .file [] false), (["b"], .directory)]⟩
    let f := Fleet.start (Traffic.smallConfig 0) "/l" files
    let asked := f.dispatch ⟨0, fun _ => true, fun _ => none, "x", 1⟩
      (.host "al" "iwad=doom2" none false)
    asked.1 = .error "failed to spawn server: No such file or directory (os error 2)" ∧
      Undisturbed f asked.2 := by
  intro files f asked
  have herror : asked.1 =
      .error "failed to spawn server: No such file or directory (os error 2)" := by decide +kernel
  exact ⟨herror, undisturbed_of_error f _ _ _ asked.2 (Prod.ext herror rfl)⟩

end Fleet

/-! ### Step by step -/

namespace Traffic

open Fleet

variable {f f' : Fleet} {asked : Hosting}

/-- The fleet in which a permitted request works: it holds a place, unless it needs none. -/
def permitted (f : Fleet) (asked : Hosting) : Fleet :=
  if asked.recovering then f else f.holdPlace asked.owner

/-- What a request makes of a fleet until it has come so far, where nobody else goes on. -/
def Leaves (f : Fleet) (asked : Hosting) (f' : Fleet) : Prop :=
  match asked.stage with
  | .waiting | .countedPending _ | .countedLaunching _ => asked.recovering = false ∧ f' = f
  | .permitted | .looked _ | .built _ => f' = permitted f asked
  | .claimed _ port => port ∉ f.ports.claimed ∧
    f' = { permitted f asked with ports := { f.ports with claimed := port :: f.ports.claimed } }
  | .failed _ => ∃ files, f' = { permitted f asked with files := files }
  | .answered (.error _) => Undisturbed f f'
  | .launched _ | .answered (.ok _) => True

theorem ports_permitted (f : Fleet) (asked : Hosting) : (permitted f asked).ports = f.ports := by
  unfold permitted
  split <;> rfl

/-- A request that has failed gives back what it holds. -/
theorem undisturbed_leavePlace (f : Fleet) (asked : Hosting) (files : FileSystem) :
    Undisturbed f (leavePlace { permitted f asked with files := files } asked) := by
  unfold leavePlace permitted
  split
  · exact .of_files f files
  · exact .of_place f asked.owner files

/-- A request that comes has changed nothing. -/
theorem leaves_arrive (f : Fleet) (owner optionLine : String) (port : Option UInt16)
    (recovering : Bool) :
    let first := firstStage f owner recovering
    Leaves f ⟨owner, first.1, optionLine, port, recovering, first.2⟩ f := by
  intro first
  unfold Leaves
  simp only [first, firstStage]
  cases recovering with
  | true =>
    cases f.require owner .registered with
    | error e => exact .refl f
    | ok level => simp [permitted]
  | false =>
    cases f.isAccepting with
    | false => exact .refl f
    | true =>
      cases f.require owner .registered with
      | error e => exact .refl f
      | ok level => simp

/-- One that goes on after it has passed the gate leaves what it may leave. -/
theorem leaves_nextStage (env : Surroundings) (h : Leaves f asked f') :
    Leaves f { asked with stage := (nextStage f' env asked).1 } (nextStage f' env asked).2 := by
  unfold Leaves at h
  unfold nextStage
  cases hstage : asked.stage with
  | waiting | countedPending | countedLaunching | permitted =>
    rw [hstage] at h
    exact h
  | looked registered =>
    rw [hstage] at h
    simp only at h ⊢
    split
    next => exact h
    next => exact ⟨f'.files, by rw [h]; rfl⟩
  | built spec =>
    rw [hstage] at h
    simp only at h ⊢
    cases hreserve : f'.reserveFor env spec with
    | ok claim =>
      obtain ⟨port, claimed⟩ := claim
      obtain ⟨hgives, rfl⟩ := reserveFor_eq_ok hreserve
      have hports : f'.ports = f.ports := by rw [h, ports_permitted]
      have hfresh := hgives.2.1
      rw [hports] at hfresh
      refine ⟨hfresh, ?_⟩
      rw [hports, h]
      rfl
    | error e => exact ⟨f'.files, by rw [h]; rfl⟩
  | claimed spec port =>
    rw [hstage] at h
    obtain ⟨hfresh, rfl⟩ := h
    rw [← ports_permitted f asked] at hfresh
    simp only
    split
    next => exact trivial
    next hlaunch =>
      rw [← ports_permitted f asked] at hlaunch
      exact launch_eq_error hfresh hlaunch
  | launched ref => exact trivial
  | failed e =>
    rw [hstage] at h
    obtain ⟨files, rfl⟩ := h
    exact undisturbed_leavePlace f asked files
  | answered outcome =>
    rw [hstage] at h
    exact h

/-- A request that goes on leaves what it may leave. -/
theorem leaves_stepHosting {t : Traffic} {i : Nat} (env : Surroundings)
    (hget : t.hostings[i]? = some asked) (h : Leaves f asked t.fleet) :
    ∃ asked', (t.stepHosting env i).hostings[i]? = some asked' ∧
      Leaves f asked' (t.stepHosting env i).fleet := by
  have hset : ∀ stage, (t.setStage i stage).hostings[i]? = some { asked with stage := stage } := by
    intro stage
    rw [getElem?_setStage, if_pos rfl, hget, Option.map_some]
  -- Past the gate there are no more stages than those of a request that works.
  have hwork : ∃ asked', (({ t.setStage i (nextStage t.fleet env asked).1 with
        fleet := (nextStage t.fleet env asked).2 } : Traffic).hostings[i]?) = some asked' ∧
      Leaves f asked' (nextStage t.fleet env asked).2 :=
    ⟨_, hset _, leaves_nextStage env h⟩
  unfold stepHosting
  rw [hget]
  unfold Leaves at h
  cases hstage : asked.stage with
  | waiting =>
    simp only [hstage] at h ⊢
    split
    · exact ⟨asked, hget, by simp only [Leaves, hstage]; exact h⟩
    · exact ⟨_, hset _, h⟩
  | countedPending n =>
    simp only [hstage] at h ⊢
    exact ⟨_, hset _, h⟩
  | countedLaunching n =>
    simp only [hstage] at h ⊢
    obtain ⟨hplace, hsame⟩ := h
    rw [hsame, grantPlace]
    split
    next held hgrant =>
      split at hgrant
      · cases hgrant
      · cases hgrant
        refine ⟨_, hset _, ?_⟩
        simp [Leaves, permitted, hplace]
    next => exact ⟨_, hset _, hsame ▸ Undisturbed.refl f⟩
  | permitted | looked | built | claimed | launched | failed | answered =>
    simp only [hstage]
    exact hwork

/-- However many steps a request takes, it leaves what it may leave. -/
theorem leaves_run {t : Traffic} {i : Nat} (steps : List Surroundings)
    (hget : t.hostings[i]? = some asked) (h : Leaves f asked t.fleet) :
    ∃ asked', (t.run (steps.map (·, .hosting i))).hostings[i]? = some asked' ∧
      Leaves f asked' (t.run (steps.map (·, .hosting i))).fleet := by
  induction steps generalizing t asked with
  | nil => exact ⟨asked, hget, h⟩
  | cons env steps ih =>
    obtain ⟨next, hnext, hleaves⟩ := leaves_stepHosting env hget h
    exact ih hnext hleaves

/-- A hosting request that goes on step by step, each time in other surroundings, and is answered
    with an error leaves the fleet as it was when it came, where nobody else goes on. -/
theorem undisturbed_of_answered_error (t : Traffic) (owner optionLine : String)
    (port : Option UInt16) (recovering : Bool) (steps : List Surroundings) {e : RequestError} :
    let i := t.hostings.length
    let t' := (t.arrive owner optionLine port recovering).run (steps.map (·, .hosting i))
    t'.hostings[i]?.map (·.stage) = some (.answered (.error e)) →
      Undisturbed t.fleet t'.fleet := by
  intro i t' herror
  have harrived : (t.arrive owner optionLine port recovering).hostings[i]? = some
      ⟨owner, (firstStage t.fleet owner recovering).1, optionLine, port, recovering,
        (firstStage t.fleet owner recovering).2⟩ :=
    List.getElem?_concat_length
  obtain ⟨asked, hasked, hleaves⟩ := leaves_run steps harrived
    (leaves_arrive t.fleet owner optionLine port recovering)
  obtain ⟨asked', hasked', hstage⟩ := Option.map_eq_some_iff.1 herror
  rw [hasked, Option.some.injEq] at hasked'
  subst hasked'
  unfold Leaves at hleaves
  rw [hstage] at hleaves
  exact hleaves

end Traffic

end HostDaemon
