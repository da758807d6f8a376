import HostDaemon.Proofs.Fleet.Hosting
import HostDaemon.Proofs.Traffic.Ends

/-! # All steps and all runs

  - `Traffic.Sound.goes_hosting` says what a step of a hosting request does to lives and launches.
  - `Traffic.Sound.goes_step` puts all steps together: what holds at every moment is kept, every
    life goes on, at most one server is launched, and only those whom the action ends are taken out
    of the registry.
  - `Traffic.sound_run` is the result for every run in which no identifier is drawn twice. -/

namespace HostDaemon

namespace Traffic

variable {t t' : Traffic} {scope : Scope}

/-! ### One hosting request among many -/

/-- A step of one request changes what is collected from all of them by its own part. -/
theorem perm_setStage {α : Type} {i : Nat} {h : Hosting} (hget : t.hostings[i]? = some h)
    (collect : Hosting → List α) (stage : HostingStage) :
    ∃ rest, (t.hostings.flatMap collect).Perm (collect h ++ rest) ∧
      ((t.setStage i stage).hostings.flatMap collect).Perm
        (collect { h with stage := stage } ++ rest) := by
  obtain ⟨hlt, hget⟩ := List.getElem?_eq_some_iff.1 hget
  refine ⟨(t.hostings.take i).flatMap collect ++ (t.hostings.drop (i + 1)).flatMap collect, ?_, ?_⟩
  · conv_lhs => rw [← List.take_append_drop i t.hostings, List.drop_eq_getElem_cons hlt, hget]
    rw [List.flatMap_append, List.flatMap_cons]
    exact List.perm_append_comm_assoc _ _ _
  · rw [setStage, List.modify_eq_take_cons_drop hlt, hget, List.flatMap_append, List.flatMap_cons]
    exact List.perm_append_comm_assoc _ _ _

theorem getElem?_setStage (t : Traffic) (i : Nat) (stage : HostingStage) (j : Nat) :
    (t.setStage i stage).hostings[j]? =
      if j = i then t.hostings[i]?.map fun h => { h with stage := stage } else t.hostings[j]? := by
  rw [setStage]
  by_cases h : j = i
  · rw [if_pos h, h]
    exact List.getElem?_modify_eq ..
  · rw [if_neg h]
    exact List.getElem?_modify_ne _ _ (Ne.symm h)

/-! ### Steps without a launch -/

/-- The identifiers of all servers and of everything that is about to be launched. -/
def ids (t : Traffic) : List String :=
  t.fleet.servers.map Server.id ++ t.drafts.map (·.credentials.id)

/-- A hosting request that goes on without a launch: nothing happens to servers, and what is about to
    be launched is launched under an identifier that is not in use. -/
theorem Sound.goes_setStage (h : t.Sound) {i : Nat} {asked : Hosting}
    (hget : t.hostings[i]? = some asked) {f : Fleet} {stage : HostingStage} {gate : Option Nat}
    (hlives : ∀ isStarting isOusted ref,
      f.life? isStarting isOusted ref = t.fleet.life? isStarting isOusted ref)
    (hspecs : f.specs = t.fleet.specs) (hcrew : f.Crew) (hconfig : f.config = t.fleet.config)
    (hquota : f.store.quota = t.fleet.store.quota)
    (hpending : scope.hosts ∨ f.pending = t.fleet.pending)
    (haccounts : ∀ others, t.fleet.Accounts (asked.stage.claims ++ others) →
      f.Accounts (stage.claims ++ others))
    (hdrafts : stage.drafts = [] ∨ stage.drafts = asked.stage.drafts ∨
      ∃ spec, stage.drafts = [spec] ∧ spec.credentials.id ∉ t.ids) :
    Goes scope t { t.setStage i stage with fleet := f, gate := gate } := by
  obtain ⟨rest, hbefore, hafter⟩ := perm_setStage hget (fun h => h.stage.claims) stage
  obtain ⟨others, hbefore', hafter'⟩ := perm_setStage hget (fun h => h.stage.drafts) stage
  have hfollows : Follows scope t { t.setStage i stage with fleet := f, gate := gate } :=
    { lives := fun ref l hl => ⟨l, (hlives _ _ ref).trans hl, .refl, .of_eq rfl rfl⟩
      specs := hspecs
      crew := hcrew
      accounts :=
        (haccounts rest (h.accounts.trans (hbefore.append_left _))).trans
          (hafter.symm.append_left _)
      config := hconfig
      quota := hquota
      pending := hpending }
  refine hfollows.goes (h.follows hfollows h.starting_lt (h.kills_kept hfollows) ?_ ?_)
  · intro spec hspec
    rcases List.mem_append.1 (hafter'.mem_iff.1 hspec) with hmine | hother
    · rcases hdrafts with hnone | hsame | ⟨fresh, hfresh, hunused⟩
      · change spec ∈ stage.drafts at hmine
        rw [hnone] at hmine
        cases hmine
      · change spec ∈ stage.drafts at hmine
        rw [hsame] at hmine
        exact h.drafts_fresh spec (hbefore'.mem_iff.2 (List.mem_append_left _ hmine))
      · change spec ∈ stage.drafts at hmine
        rw [hfresh, List.mem_singleton] at hmine
        subst hmine
        intro s hs heq
        exact hunused (List.mem_append_left _ (heq ▸ List.mem_map_of_mem hs))
    · -- What the other requests are about to launch is as it was.
      exact h.drafts_fresh spec (hbefore'.mem_iff.2 (List.mem_append_right _ hother))
  · -- The identifiers that were drawn are those of the others and that of this request.
    have hids := (hafter'.map (·.credentials.id)).nodup_iff.2
    have hids' := (hbefore'.map (·.credentials.id)).nodup_iff.1 h.drafts_nodup
    rw [List.map_append] at hids hids'
    have hothers := (List.nodup_append.1 hids').2.1
    refine hids ?_
    rcases hdrafts with hnone | hsame | ⟨fresh, hfresh, hunused⟩
    · rw [hnone]
      exact hothers
    · rw [hsame]
      exact hids'
    · rw [hfresh, List.map_singleton, List.singleton_append, List.nodup_cons]
      refine ⟨?_, hothers⟩
      intro hmem
      apply hunused
      rw [ids, List.mem_append]
      right
      obtain ⟨spec, hspec, heq⟩ := List.mem_map.1 hmem
      exact List.mem_map.2 ⟨spec, hbefore'.mem_iff.2 (List.mem_append_right _ hspec), heq⟩

/-- A hosting request that comes has nothing yet. -/
theorem arrive_eq (t : Traffic) (owner optionLine : String) (port : Option UInt16)
    (recovering : Bool) :
    ∃ level stage, firstStage t.fleet owner recovering = (level, stage) ∧
      stage.drafts = [] ∧ stage.claims = [] ∧ t.arrive owner optionLine port recovering =
        { t with
          hostings := t.hostings ++ [⟨owner, level, optionLine, port, recovering, stage⟩] } := by
  rw [arrive]
  unfold firstStage
  split
  · exact ⟨_, _, rfl, rfl, rfl, rfl⟩
  · split
    · exact ⟨_, _, rfl, rfl, rfl, rfl⟩
    · cases recovering
      · exact ⟨_, _, rfl, rfl, rfl, rfl⟩
      · exact ⟨_, _, rfl, rfl, rfl, rfl⟩

theorem drafts_append {asked : Hosting} (hdrafts : asked.stage.drafts = []) :
    drafts { t with hostings := t.hostings ++ [asked] } = t.drafts := by
  simp [drafts, hdrafts]

theorem claims_append {asked : Hosting} (hclaims : asked.stage.claims = []) :
    claims { t with hostings := t.hostings ++ [asked] } = t.claims := by
  simp [claims, hclaims]

theorem Sound.goes_arrive (h : t.Sound) (owner optionLine : String) (port : Option UInt16)
    (recovering : Bool) : Goes scope t (t.arrive owner optionLine port recovering) := by
  obtain ⟨level, stage, -, hdrafts, hclaims, heq⟩ := t.arrive_eq owner optionLine port recovering
  rw [heq]
  have hsame : drafts { t with
      hostings := t.hostings ++ [⟨owner, level, optionLine, port, recovering, stage⟩] } =
      t.drafts := drafts_append hdrafts
  have hkept : claims { t with
      hostings := t.hostings ++ [⟨owner, level, optionLine, port, recovering, stage⟩] } =
      t.claims := claims_append hclaims
  have hfollows : Follows scope t { t with
      hostings := t.hostings ++ [⟨owner, level, optionLine, port, recovering, stage⟩] } :=
    { lives := fun ref l hl => ⟨l, hl, .refl, .of_eq rfl rfl⟩
      specs := rfl
      crew := h.crew
      accounts := by
        rw [hkept]
        exact h.accounts
      config := rfl
      quota := rfl
      pending := Or.inr rfl }
  refine hfollows.goes (h.follows hfollows h.starting_lt (h.kills_kept hfollows) ?_ ?_)
  · rw [hsame]
    exact h.drafts_fresh
  · rw [hsame]
    exact h.drafts_nodup

/-! ### Steps of hosting requests -/

/-- A place in the quota is nothing to the servers. -/
theorem Sound.goes_place (h : t.Sound) (hhosts : scope.hosts) {i : Nat} {asked : Hosting}
    (hget : t.hostings[i]? = some asked)
    {pending : List (String × Nat)} {stage : HostingStage} {gate : Option Nat}
    (hclaims : stage.claims = asked.stage.claims)
    (hdrafts : stage.drafts = [] ∨ stage.drafts = asked.stage.drafts) :
    Goes scope t { t.setStage i stage with
      fleet := { t.fleet with pending := pending }, gate := gate } := by
  refine h.goes_setStage hget (fun _ _ _ => rfl) rfl ?_ rfl rfl (Or.inl hhosts) ?_
    (hdrafts.imp_right Or.inl)
  · exact h.crew.congr rfl rfl rfl rfl rfl
  · intro others haccounts
    rw [hclaims]
    exact haccounts

/-- A request that is permitted goes on to the launch of its server. -/
theorem Sound.goes_launch (h : t.Sound) (hhosts : scope.hosts) (env : Surroundings) {i : Nat}
    {asked : Hosting} (hget : t.hostings[i]? = some asked) {spec : LaunchSpec} {port : UInt16}
    (hstage : asked.stage = .claimed spec port) :
    Goes scope t { t.setStage i (nextStage t.fleet env asked).1 with
      fleet := (nextStage t.fleet env asked).2 } := by
  have hdraft : spec ∈ t.drafts := mem_drafts (List.mem_of_getElem? hget) hstage
  -- The claimed port stands in the table, so that it is a real one.
  have hport : port ≠ 0 := by
    rintro rfl
    apply h.crew.zero_free
    rw [h.accounts.mem_iff, List.mem_append]
    right
    rw [claims, List.mem_flatMap]
    exact ⟨asked, List.mem_of_getElem? hget, by simp [hstage, HostingStage.claims]⟩
  simp only [nextStage, hstage]
  rcases t.fleet.launch_cases env spec 0 asked.recovering port with
    ⟨e, files, hlaunch⟩ | ⟨files, logFile, log, hlaunch⟩
  · simp only [hlaunch]
    refine h.goes_setStage hget (fun _ _ _ => rfl) rfl ?_ rfl rfl (Or.inr rfl) ?_ (Or.inl rfl)
    · exact (h.crew.release port).congr rfl rfl rfl rfl rfl
    · intro others haccounts
      rw [hstage] at haccounts
      exact Fleet.Accounts.release haccounts h.crew.claimed_nodup
  · simp only [hlaunch]
    -- Nobody has the identifier that was drawn for the launch.
    have halone : ∀ other, t.fleet.isLaunching other = true →
        (t.fleet.server? other).map Server.id ≠ some spec.credentials.id := by
      intro other _ heq
      obtain ⟨s, hs, hid⟩ := Option.map_eq_some_iff.1 heq
      exact h.drafts_fresh spec hdraft s (List.mem_of_getElem? hs) hid
    have hfiles : Fleet.Crew { t.fleet with files := files } := h.crew.congr rfl rfl rfl rfl rfl
    have hadopt := Fleet.bears_adopt hfiles env spec 0 asked.recovering port logFile log halone
    have hbears : Fleet.Bears t.fleet.servers.length id [port] (Fleet.standingOf spec 0)
        ⟨t.fleet.servers.length, log, port, true, true, .reading⟩ t.fleet
        (Fleet.adopt { t.fleet with files := files } env spec 0 asked.recovering port logFile
          log).2 :=
      ⟨hadopt.lives, hadopt.specs, hadopt.crew, hadopt.accounts, hadopt.config, hadopt.quota,
        hadopt.pending⟩
    obtain ⟨rest, hbefore, hafter⟩ := perm_setStage hget (fun h => h.stage.claims)
      (.launched t.fleet.servers.length)
    obtain ⟨others, hbefore', hafter'⟩ := perm_setStage hget (fun h => h.stage.drafts)
      (.launched t.fleet.servers.length)
    -- What was launched is no longer about to be launched, and all else still is.
    have hdrafts : t.drafts.Perm (spec :: others) := by
      refine hbefore'.trans ?_
      rw [hstage]
      exact .refl _
    have hdrafts' : ((t.setStage i (.launched t.fleet.servers.length)).drafts).Perm others := hafter'
    have hnodup := (hdrafts.map (·.credentials.id)).nodup_iff.1 h.drafts_nodup
    rw [List.map_cons, List.nodup_cons] at hnodup
    refine Sound.bears h hbears ?_ ?_ (fun _ _ => .refl) (fun _ => .of_eq rfl rfl) ?_ ?_ rfl rfl ?_ ?_
    · exact .hosted hhosts (List.mem_of_getElem? hget) hstage
    · exact Life.ok_born hport rfl rfl rfl rfl
    · intro j l hl hid
      obtain ⟨s, hs, hsame⟩ := id_of_life? hl
      exact absurd (hsame.trans hid) (h.drafts_fresh spec hdraft s (List.mem_of_getElem? hs))
    · refine hbefore.trans ?_
      rw [hstage]
      exact hafter.symm.append_left _
    · intro other hother
      have hmem : other ∈ others := hdrafts'.mem_iff.1 hother
      refine ⟨?_, h.drafts_fresh other (hdrafts.mem_iff.2 (List.mem_cons_of_mem _ hmem))⟩
      intro heq
      exact hnodup.1 (List.mem_map.2 ⟨other, hmem, heq⟩)
    · exact (hdrafts'.map (·.credentials.id)).nodup_iff.2 hnodup.2

/-- A hosting request that goes on takes nobody out of the registry, and launches at most one
    server. -/
theorem Sound.goes_hosting (h : t.Sound) (hhosts : scope.hosts) (env : Surroundings) (i : Nat)
    (hfresh : env.freshId ∉ t.ids) : Goes scope t (t.stepHosting env i) := by
  -- A place that is given back changes the table of places alone.
  have hleave : ∀ asked : Hosting, ∃ pending,
      leavePlace t.fleet asked = { t.fleet with pending := pending } := by
    intro asked
    unfold leavePlace
    split
    · exact ⟨t.fleet.pending, rfl⟩
    · exact ⟨_, rfl⟩
  unfold stepHosting
  cases hget : t.hostings[i]? with
  | none => exact (Follows.refl h).goes h
  | some asked =>
    simp only
    cases hstage : asked.stage with
    | waiting =>
      simp only
      split
      · exact (Follows.refl h).goes h
      · exact h.goes_place hhosts hget (by rw [hstage]; rfl) (Or.inl rfl)
    | countedPending n => exact h.goes_place hhosts hget (by rw [hstage]; rfl) (Or.inl rfl)
    | countedLaunching n =>
      simp only [Fleet.grantPlace]
      by_cases hfull : (t.fleet.store.quota asked.owner).toNat ≤ n + t.fleet.registeredOf asked.owner
      · rw [if_pos hfull]
        exact h.goes_place hhosts hget (by rw [hstage]; rfl) (Or.inl rfl)
      · rw [if_neg hfull]
        exact h.goes_place hhosts hget (by rw [hstage]; rfl) (Or.inl rfl)
    | permitted =>
      simp only [nextStage, hstage]
      exact h.goes_place hhosts hget (by rw [hstage]; rfl) (Or.inl rfl)
    | looked registered =>
      simp only [nextStage, hstage]
      cases hbuild : t.fleet.buildSpec env registered asked.owner asked.level asked.optionLine
          asked.port asked.recovering with
      | error e => exact h.goes_place hhosts hget (by rw [hstage]; rfl) (Or.inl rfl)
      | ok spec =>
        have hid := (Fleet.buildSpec_eq_ok hbuild).2
        refine h.goes_setStage hget (fun _ _ _ => rfl) rfl h.crew rfl rfl (Or.inr rfl) ?_
          (Or.inr (Or.inr ⟨spec, rfl, hid ▸ hfresh⟩))
        intro others haccounts
        rw [hstage] at haccounts
        exact haccounts
    | built spec =>
      simp only [nextStage, hstage]
      cases hreserve : t.fleet.reserveFor env spec with
      | error e => exact h.goes_place hhosts hget (by rw [hstage]; rfl) (Or.inl rfl)
      | ok claim =>
        obtain ⟨port, f⟩ := claim
        obtain ⟨hgives, rfl⟩ := Fleet.reserveFor_eq_ok hreserve
        refine h.goes_setStage hget (fun _ _ _ => rfl) rfl (h.crew.claim hgives) rfl rfl
          (Or.inr rfl) ?_ (Or.inr (Or.inl (by rw [hstage]; rfl)))
        intro others haccounts
        rw [hstage] at haccounts
        exact haccounts.claim port
    | claimed spec port =>
      -- Launching is the one step that makes a server.
      have hlaunch : Goes scope t { t.setStage i (nextStage t.fleet env asked).1 with
          fleet := (nextStage t.fleet env asked).2 } := h.goes_launch hhosts env hget hstage
      exact hlaunch
    | launched ref =>
      simp only [nextStage, hstage]
      obtain ⟨pending, hpending⟩ := hleave asked
      rw [hpending]
      exact h.goes_place hhosts hget (by rw [hstage]; rfl) (Or.inl rfl)
    | failed cause =>
      simp only [nextStage, hstage]
      obtain ⟨pending, hpending⟩ := hleave asked
      rw [hpending]
      exact h.goes_place hhosts hget (by rw [hstage]; rfl) (Or.inl rfl)
    | answered outcome =>
      simp only [nextStage, hstage]
      exact h.goes_place hhosts hget (by rw [hstage]) (Or.inl rfl)

/-! ### All steps -/

/-- May an action draw an identifier? -/
def Action.draws : Action → Bool
  | .hosting _ => true
  | _ => false

/-- The identifiers that are drawn in several steps. -/
def drawn (steps : List (Surroundings × Action)) : List String :=
  (steps.filter (·.2.draws)).map (·.1.freshId)

/-- Every action is a step: it keeps what holds at every moment, and takes only those out of the
    registry whom it ends. -/
theorem Sound.goes_step (h : t.Sound) (env : Surroundings) (a : Action)
    (hfresh : a.draws = true → env.freshId ∉ t.ids) : Goes (t.scope env a) t (t.step env a) := by
  cases a with
  | request r =>
    by_cases hhost : ∃ owner options port recovering, r = .host owner options port recovering
    · obtain ⟨owner, options, port, recovering, rfl⟩ := hhost
      exact h.goes_arrive owner options port recovering
    · have hother : ∀ owner options port recovering, r ≠ .host owner options port recovering :=
        fun owner options port recovering heq => hhost ⟨owner, options, port, recovering, heq⟩
      have hgoes : Goes (t.scope env (.request r)) t
          { t with fleet := (t.fleet.dispatch env r).2 } :=
        h.goes_fleet (h.follows_dispatch env r hother fun ref href => href)
      cases r with
      | host owner options port recovering => exact absurd rfl (hother owner options port recovering)
      | _ => exact hgoes
  | hosting i =>
    have hhosts : (t.scope env (.hosting i)).hosts := ⟨i, rfl⟩
    exact h.goes_hosting hhosts env i (hfresh rfl)
  | line ref text => exact h.goes_line env ref text
  | finishStart ref => exact h.goes_finishStart ref
  | processEnds ref =>
    exact h.goes_fleet (Follows.of_fleet h (t.fleet.moves_endProcess ref)
      (fun _ _ => .single .endProcess) fun _ => .of_eq rfl rfl)
  | supervise ref => exact h.goes_supervisor env ref
  | beginLookup i => exact h.goes_fleet (Follows.of_alike h (t.fleet.alike_beginLookup i))
  | finishLookup i => exact h.goes_fleet (Follows.of_alike h (t.fleet.alike_finishLookup env i))
  | beginKill ref byOwner => exact h.goes_beginKill ref byOwner
  | kill i => exact h.goes_kill env i
  | sweep => exact h.goes_fleet (h.follows_sweepAfter _ env.now fun ref href => href)
  | shutdown => exact h.goes_shutdown env

/-! ### What is drawn -/

/-- Only hosting requests that come or go on change the requests and who has passed the gate. -/
theorem requests_still (env : Surroundings) (a : Action) (ha : a.draws = false)
    (hrequest : ∀ owner options port recovering, a ≠ .request (.host owner options port recovering)) :
    (t.step env a).hostings = t.hostings ∧ (t.step env a).gate = t.gate := by
  cases a with
  | request r =>
    cases r with
    | host owner options port recovering => exact absurd rfl (hrequest owner options port recovering)
    | _ => exact ⟨rfl, rfl⟩
  | hosting i => cases ha
  | line ref text =>
    change (t.stepLine env ref text).hostings = _ ∧ (t.stepLine env ref text).gate = _
    unfold stepLine register
    repeat' split
    all_goals exact ⟨rfl, rfl⟩
  | finishStart ref =>
    change (t.stepStart ref).hostings = _ ∧ (t.stepStart ref).gate = _
    unfold stepStart
    split <;> exact ⟨rfl, rfl⟩
  | supervise ref =>
    change (t.stepSupervisor env ref).hostings = _ ∧ (t.stepSupervisor env ref).gate = _
    unfold stepSupervisor
    split <;> exact ⟨rfl, rfl⟩
  | beginKill ref byOwner =>
    change (t.beginKill ref byOwner).hostings = _ ∧ (t.beginKill ref byOwner).gate = _
    unfold beginKill
    split <;> exact ⟨rfl, rfl⟩
  | kill i =>
    change (t.stepKill i).hostings = _ ∧ (t.stepKill i).gate = _
    unfold stepKill
    split <;> exact ⟨rfl, rfl⟩
  | shutdown =>
    change t.stepShutdown.hostings = _ ∧ t.stepShutdown.gate = _
    unfold stepShutdown
    split <;> exact ⟨rfl, rfl⟩
  | processEnds | beginLookup | finishLookup | sweep => exact ⟨rfl, rfl⟩

/-- A hosting request draws at most one identifier at a time. -/
theorem drafts_stepHosting (env : Surroundings) (i : Nat) {spec : LaunchSpec}
    (hspec : spec ∈ (t.stepHosting env i).drafts) :
    spec ∈ t.drafts ∨ spec.credentials.id = env.freshId := by
  unfold stepHosting at hspec
  cases hget : t.hostings[i]? with
  | none =>
    simp only [hget] at hspec
    exact Or.inl hspec
  | some asked =>
    -- What the request is about to launch comes before or is drawn now.
    have hset : ∀ {stage : HostingStage}, (∀ spec ∈ stage.drafts,
        spec ∈ asked.stage.drafts ∨ spec.credentials.id = env.freshId) →
        spec ∈ (t.setStage i stage).drafts → spec ∈ t.drafts ∨ spec.credentials.id = env.freshId := by
      intro stage hstage hmem
      obtain ⟨rest, hbefore, hafter⟩ := perm_setStage hget (fun h => h.stage.drafts) stage
      rcases List.mem_append.1 (hafter.mem_iff.1 hmem) with hmine | hother
      · rcases hstage spec hmine with hold | hnew
        · exact Or.inl (hbefore.mem_iff.2 (List.mem_append_left _ hold))
        · exact Or.inr hnew
      · exact Or.inl (hbefore.mem_iff.2 (List.mem_append_right _ hother))
    have hnothing : ∀ {stage : HostingStage}, stage.drafts = [] →
        spec ∈ (t.setStage i stage).drafts → spec ∈ t.drafts ∨ spec.credentials.id = env.freshId :=
      fun hnone => hset fun spec hmem => by simp [hnone] at hmem
    simp only [hget] at hspec
    cases hstage : asked.stage with
    | waiting =>
      simp only [hstage] at hspec
      split at hspec
      · exact Or.inl hspec
      · exact hnothing rfl hspec
    | countedPending n =>
      simp only [hstage] at hspec
      exact hnothing rfl hspec
    | countedLaunching n =>
      simp only [hstage] at hspec
      split at hspec
      · exact hnothing rfl hspec
      · exact hnothing rfl hspec
    | permitted | launched | failed | answered =>
      simp only [hstage, nextStage] at hspec
      exact hnothing rfl hspec
    | looked registered =>
      simp only [hstage, nextStage] at hspec
      split at hspec
      next built hbuild =>
        refine hset ?_ hspec
        intro other hother
        rw [HostingStage.drafts, List.mem_singleton] at hother
        exact Or.inr (hother ▸ (Fleet.buildSpec_eq_ok hbuild).2)
      next => exact hnothing rfl hspec
    | built spec' =>
      simp only [hstage, nextStage] at hspec
      split at hspec
      next =>
        refine hset ?_ hspec
        intro other hother
        rw [hstage]
        exact Or.inl hother
      next => exact hnothing rfl hspec
    | claimed spec' port =>
      simp only [hstage, nextStage] at hspec
      split at hspec
      · exact hnothing rfl hspec
      · exact hnothing rfl hspec

/-- The identifiers that are in use afterwards were in use before or are drawn now. -/
theorem Sound.ids_step (h : t.Sound) (env : Surroundings) (a : Action)
    (hfresh : a.draws = true → env.freshId ∉ t.ids) {id : String}
    (hid : id ∈ (t.step env a).ids) : id ∈ t.ids ∨ a.draws = true ∧ id = env.freshId := by
  rcases List.mem_append.1 hid with hserver | hdraft
  · left
    rcases (h.goes_step env a hfresh).made with hsame | ⟨s, v, hspecs, -, hbegets⟩
    · rw [Fleet.ids_of_specs hsame] at hserver
      exact List.mem_append_left _ hserver
    · rw [← Fleet.map_id_specs, hspecs, List.map_append, List.mem_append] at hserver
      rcases hserver with hold | hnew
      · rw [Fleet.map_id_specs] at hold
        exact List.mem_append_left _ hold
      · rw [List.map_singleton, List.mem_singleton] at hnew
        subst hnew
        cases hbegets with
        | @hosted asked spec v _ hmem hstage =>
          exact List.mem_append_right _ (List.mem_map.2 ⟨spec, mem_drafts hmem hstage, rfl⟩)
        -- A server that is launched again keeps its identifier.
        | relaunched _ hlife _ =>
          obtain ⟨server, hserver, hid⟩ := id_of_life? hlife
          exact List.mem_append_left _ (List.mem_map.2 ⟨server, List.mem_of_getElem? hserver, hid⟩)
  · obtain ⟨spec, hspec, rfl⟩ := List.mem_map.1 hdraft
    -- Where the requests are as they were, so is what they are about to launch.
    have hold : ∀ {t' : Traffic}, t'.hostings = t.hostings → spec ∈ t'.drafts →
        spec.credentials.id ∈ t.ids := by
      intro t' hsame hmem
      rw [drafts, hsame] at hmem
      exact List.mem_append_right _ (List.mem_map_of_mem hmem)
    by_cases hdraws : a.draws = true
    · cases a with
      | hosting i =>
        rcases drafts_stepHosting env i hspec with hmem | hnew
        · exact Or.inl (List.mem_append_right _ (List.mem_map_of_mem hmem))
        · exact Or.inr ⟨rfl, hnew⟩
      | _ => cases hdraws
    · left
      by_cases hrequest : ∃ owner options port recovering,
          a = .request (.host owner options port recovering)
      · obtain ⟨owner, options, port, recovering, rfl⟩ := hrequest
        obtain ⟨level, stage, -, hdrafts, -, heq⟩ := t.arrive_eq owner options port recovering
        change spec ∈ (t.arrive owner options port recovering).drafts at hspec
        rw [heq, drafts_append hdrafts] at hspec
        exact List.mem_append_right _ (List.mem_map_of_mem hspec)
      · have hstill := requests_still (t := t) env a (by simpa using hdraws)
          fun owner options port recovering heq => hrequest ⟨owner, options, port, recovering, heq⟩
        exact hold hstill.1 hspec

/-! ### All runs -/

/-- Nothing goes on in a fleet without servers. -/
theorem sound_start (config : Config) (logDir : Path) (files : FileSystem)
    (hmin : 0 < config.host.minPort) :
    (Traffic.start (.start config logDir files)).Sound where
  crew := by
    refine ⟨rfl, Registry.faithful_empty, ?_, ?_, List.nodup_nil, List.nodup_nil, ?_, ?_⟩
    · intro e he
      cases he
    · intro e he
      cases he
    · exact (UInt16.pos_iff_ne_zero).1 hmin
    · exact List.not_mem_nil
  accounts := List.Perm.refl _
  ok := fun ref l hl => by
    obtain ⟨s, v, hs, -⟩ := life?_eq_some_iff.1 hl
    cases hs
  apart := fun i j l l' _ hl => by
    obtain ⟨s, v, hs, -⟩ := life?_eq_some_iff.1 hl
    cases hs
  starting_lt := fun ref href => by cases href
  kills_lt := fun k hk => by cases hk
  kills_marked := fun k hk => by cases hk
  drafts_fresh := fun spec hspec => by cases hspec
  drafts_nodup := List.nodup_nil

theorem run_append (t : Traffic) (before after : List (Surroundings × Action)) :
    t.run (before ++ after) = (t.run before).run after := by
  rw [run, run, run, List.foldl_append]

/-- No identifier is drawn twice in some steps, and none that is in use. -/
structure Fresh (t : Traffic) (steps : List (Surroundings × Action)) : Prop where
  /-- No identifier is drawn twice. -/
  drawn_nodup : (drawn steps).Nodup
  /-- No identifier is drawn that is in use. -/
  unused : ∀ id ∈ t.ids, id ∉ drawn steps

theorem fresh_start (config : Config) (logDir : Path) (files : FileSystem)
    {steps : List (Surroundings × Action)} (hdrawn : (drawn steps).Nodup) :
    (Traffic.start (.start config logDir files)).Fresh steps :=
  ⟨hdrawn, fun _ hid => by cases hid⟩

theorem drawn_append (before after : List (Surroundings × Action)) :
    drawn (before ++ after) = drawn before ++ drawn after := by
  rw [drawn, List.filter_append, List.map_append, drawn, drawn]

theorem nodup_drawn_left {before after : List (Surroundings × Action)}
    (hdrawn : (drawn (before ++ after)).Nodup) : (drawn before).Nodup := by
  rw [drawn_append] at hdrawn
  exact (List.nodup_append.1 hdrawn).1

/-- The same for the steps up to one of them. -/
theorem nodup_drawn_snoc {before after : List (Surroundings × Action)} {e : Surroundings × Action}
    (hdrawn : (drawn (before ++ e :: after)).Nodup) : (drawn (before ++ [e])).Nodup := by
  rw [List.append_cons] at hdrawn
  exact nodup_drawn_left hdrawn

/-- The first of some steps is a step, and the others may follow. -/
theorem Sound.fresh_cons (h : t.Sound) {env : Surroundings} {a : Action}
    {steps : List (Surroundings × Action)} (hfresh : t.Fresh ((env, a) :: steps)) :
    Goes (t.scope env a) t (t.step env a) ∧ (t.step env a).Fresh steps := by
  obtain ⟨hdrawn, hunused⟩ := hfresh
  have hfirst : drawn ((env, a) :: steps) =
      (if a.draws then [env.freshId] else []) ++ drawn steps := by
    cases hdraws : a.draws <;> simp [drawn, hdraws]
  rw [hfirst] at hdrawn hunused
  obtain ⟨-, hdrawn, hapart⟩ := List.nodup_append.1 hdrawn
  have hnew : a.draws = true → env.freshId ∈ if a.draws then [env.freshId] else [] := by
    intro hdraws
    rw [if_pos hdraws]
    exact List.mem_cons_self
  have hfresh : a.draws = true → env.freshId ∉ t.ids :=
    fun hdraws hmem => hunused _ hmem (List.mem_append_left _ (hnew hdraws))
  refine ⟨h.goes_step env a hfresh, hdrawn, ?_⟩
  intro id hid hlater
  rcases h.ids_step env a hfresh hid with hold | ⟨hdraws, rfl⟩
  · exact hunused id hold (List.mem_append_right _ hlater)
  · -- An identifier that is drawn now is not drawn again.
    exact hapart env.freshId (hnew hdraws) env.freshId hlater rfl

/-- What every step keeps holds after every run. -/
theorem Sound.run_keeps {P : Traffic → Prop} (h : t.Sound) (hP : P t)
    {steps : List (Surroundings × Action)} (hfresh : t.Fresh steps)
    (hstep : ∀ (t : Traffic) (env : Surroundings) (a : Action), (env, a) ∈ steps → t.Sound →
      Goes (t.scope env a) t (t.step env a) → P t → P (t.step env a)) :
    (t.run steps).Sound ∧ P (t.run steps) := by
  induction steps generalizing t with
  | nil => exact ⟨h, hP⟩
  | cons first steps ih =>
    obtain ⟨env, a⟩ := first
    obtain ⟨hgoes, hlater⟩ := h.fresh_cons hfresh
    exact ih hgoes.sound (hstep t env a List.mem_cons_self h hgoes hP) hlater
      fun t env a hmem => hstep t env a (List.mem_cons_of_mem _ hmem)

/-- After some of the steps the others may follow. -/
theorem Sound.fresh_append (h : t.Sound) {before after : List (Surroundings × Action)}
    (hfresh : t.Fresh (before ++ after)) : (t.run before).Fresh after := by
  induction before generalizing t with
  | nil => exact hfresh
  | cons first before ih =>
    obtain ⟨env, a⟩ := first
    obtain ⟨hgoes, hlater⟩ := h.fresh_cons hfresh
    exact ih hgoes.sound hlater

section

variable {config : Config} (logDir : Path) (files : FileSystem) (hmin : 0 < config.host.minPort)

include hmin

/-- What holds at every moment holds after every run in which no identifier is drawn twice, where
    port zero is not in the range. -/
theorem sound_run {steps : List (Surroundings × Action)} (hdrawn : (drawn steps).Nodup) :
    ((Traffic.start (.start config logDir files)).run steps).Sound :=
  ((sound_start config logDir files hmin).run_keeps (P := fun _ => True) trivial
    (fresh_start config logDir files hdrawn) fun _ _ _ _ _ _ _ => trivial).1

/-- What holds where nothing goes on, and is kept by every step, holds after every run in which no
    identifier is drawn twice. -/
theorem keeps_run {P : Traffic → Prop} (hstart : P (.start (.start config logDir files)))
    {steps : List (Surroundings × Action)} (hdrawn : (drawn steps).Nodup)
    (hstep : ∀ (t : Traffic) (env : Surroundings) (a : Action), t.Sound →
      Goes (t.scope env a) t (t.step env a) → P t → P (t.step env a)) :
    P ((Traffic.start (.start config logDir files)).run steps) :=
  ((sound_start config logDir files hmin).run_keeps hstart (fresh_start config logDir files hdrawn)
    fun t env a _ => hstep t env a).2

/-- After a part of a run in which no identifier is drawn twice the rest may follow. -/
theorem fresh_run {before after : List (Surroundings × Action)}
    (hdrawn : (drawn (before ++ after)).Nodup) :
    ((Traffic.start (.start config logDir files)).run before).Fresh after :=
  (sound_start config logDir files hmin).fresh_append (fresh_start config logDir files hdrawn)

/-- The last action of a run in which no identifier is drawn twice is a step like all others. -/
theorem goes_run {steps : List (Surroundings × Action)} {env : Surroundings} {a : Action}
    (hdrawn : (drawn (steps ++ [(env, a)])).Nodup) :
    let t := (Traffic.start (.start config logDir files)).run steps
    Goes (t.scope env a) t (t.step env a) := by
  have hsound := sound_run logDir files hmin (nodup_drawn_left hdrawn)
  exact (hsound.fresh_cons (fresh_run logDir files hmin hdrawn)).1

end

end Traffic

end HostDaemon
