import HostDaemon.Proofs.Traffic.Places
import HostDaemon.Proofs.Traffic.Registration
import Mathlib.Data.List.Induction

/-! # The quota

  A request counts whoever holds a place, then the launching servers, then the registered ones, at
  three moments between which everything else may go on. Whoever counts moves on in the same order.

  - `Traffic.Counts` says which requests count: those that hold a place, and those whose server is
    launching or registered.
  - `Traffic.Later` is what is known of two moments of one run. `Traffic.length_le_of_later` says
    that nobody who counts at three moments is missed by the three counts.
  - `Traffic.Recorded` says at which moments a request has made its counts. It is kept by every step,
    because nobody else is past the gate in the meantime.
  - `Traffic.quota_of_run` is the result for every run in which no identifier is drawn twice. -/

namespace HostDaemon

namespace Life

variable {most : UInt32} {l l' : Life}

/-- A server enters the registry only while it is launching, and is never launching again. -/
theorem Next.fades (h : Next most l l') (hok : l.Ok most) :
    (l'.isLaunching = true → l.isLaunching = true) ∧
      (l'.keys ≠ [] → l.keys ≠ [] ∨ l.isLaunching = true) := by
  cases h with
  | start hphase hsilent =>
    have hlaunching := hok.launching_iff.2 ⟨hphase, Or.inl hsilent⟩
    exact ⟨fun _ => hlaunching, fun _ => Or.inr hlaunching⟩
  | finishStart | close | reject => exact ⟨fun hfalse => (by cases hfalse), Or.inl⟩
  | evict | remove => exact ⟨id, fun hkeys => absurd rfl hkeys⟩
  | tellPort | mark | oust | endProcess | report | giveUp | restart | relaunched =>
    exact ⟨id, Or.inl⟩

theorem Path.fades (h : Path most l l') (hok : l.Ok most) :
    (l'.isLaunching = true → l.isLaunching = true) ∧
      (l'.keys ≠ [] → l.keys ≠ [] ∨ l.isLaunching = true) := by
  have hkept := h.keeps (P := fun m => m.Ok most ∧ (m.isLaunching = true → l.isLaunching = true) ∧
    (m.keys ≠ [] → l.keys ≠ [] ∨ l.isLaunching = true)) ?_ ⟨hok, id, Or.inl⟩
  · exact hkept.2
  · rintro m m' hnext ⟨hm, hlaunching, hkeys⟩
    obtain ⟨hlaunching', hkeys'⟩ := hnext.fades hm
    refine ⟨hm.next hnext, fun h => hlaunching (hlaunching' h), ?_⟩
    intro h
    rcases hkeys' h with hbefore | hbefore
    · exact hkeys hbefore
    · exact Or.inr (hlaunching hbefore)

end Life

namespace Traffic

variable {t t' t'' : Traffic} {ref : ServerRef} {i j : Nat} {asked : Hosting} {owner : String}

/-! ### Who counts -/

/-- A server that is launching or registered. -/
def IsAround (t : Traffic) (ref : ServerRef) : Prop :=
  t.fleet.isLaunching ref = true ∨ t.fleet.IsRegistered ref

/-- A request of an owner that was granted a place, and still holds it or has a server that is
    launching or registered. -/
def Counts (t : Traffic) (owner : String) (i : Nat) : Prop :=
  ∃ asked, t.hostings[i]? = some asked ∧ Text.sameLetters owner asked.owner = true ∧
    asked.recovering = false ∧
    (asked.stage.isPermitted = true ∨ ∃ ref, asked.stage.server? = some ref ∧ t.IsAround ref)

/-- How the name of the owner is spelled is nothing to who counts. -/
theorem Counts.congr {other : String} (h : t.Counts owner i)
    (hsame : Text.sameLetters owner other = true) : t.Counts other i := by
  obtain ⟨asked, hget, howner, hrest⟩ := h
  refine ⟨asked, hget, ?_, hrest⟩
  rw [Text.sameLetters_iff] at hsame howner ⊢
  rw [← hsame, howner]

/-! ### Two moments -/

/-- What is known of a moment and a later one. -/
structure Later (t t' : Traffic) : Prop where
  /-- Every life went on. -/
  lives : ∀ ref l, t.life? ref = some l → ∃ l', t'.life? ref = some l' ∧ Life.Path t.most l l'
  /-- Servers are launched as often as before. -/
  most : t'.most = t.most
  /-- Every request is still there, with its server where it had one, and with its answer where it
      had one. -/
  requests : ∀ (i : Nat) (asked : Hosting), t.hostings[i]? = some asked →
    ∃ stage, t'.hostings[i]? = some { asked with stage := stage } ∧
      ∀ o, asked.stage = .answered o → stage = .answered o

namespace Later

theorem refl (t : Traffic) : Later t t where
  lives := fun _ l hl => ⟨l, hl, .refl⟩
  most := rfl
  requests := fun _ asked hget => ⟨asked.stage, hget, fun _ => id⟩

theorem trans (h : Later t t') (h' : Later t' t'') : Later t t'' where
  lives := fun ref l hl => by
    obtain ⟨l', hl', hpath⟩ := h.lives ref l hl
    obtain ⟨l'', hl'', hpath'⟩ := h'.lives ref l' hl'
    rw [h.most] at hpath'
    exact ⟨l'', hl'', hpath.trans hpath'⟩
  most := h'.most.trans h.most
  requests := fun i asked hget => by
    obtain ⟨stage, hget', hanswer⟩ := h.requests i asked hget
    obtain ⟨stage', hget'', hanswer'⟩ := h'.requests i _ hget'
    exact ⟨stage', hget'', fun o ho => hanswer' o (hanswer o ho)⟩

/-- A step leads to a later moment. -/
theorem of_goes {env : Surroundings} {a : Action} (h : Goes (t.scope env a) t (t.step env a)) :
    Later t (t.step env a) where
  lives := fun ref l hl => by
    obtain ⟨l', hl', hpath, -⟩ := h.lives ref l hl
    exact ⟨l', hl', hpath⟩
  most := h.most_eq
  requests := fun i asked hget => by
    obtain ⟨stage, hafter, hstage⟩ := h.serves.after hget
    refine ⟨stage, hafter, ?_⟩
    intro o ho
    rcases hstage with hsame | ⟨-, hadvance⟩
    · rw [hsame, ho]
    · exact hadvance.answered ho

end Later

/-- All moments of a run come after its beginning. -/
theorem Sound.later_run (h : t.Sound) {steps : List (Surroundings × Action)}
    (hfresh : t.Fresh steps) : Later t (t.run steps) :=
  (h.run_keeps (Later.refl t) hfresh fun _ _ _ _ _ hgoes hlater =>
    hlater.trans (.of_goes hgoes)).2

/-- Two moments of a run from the start. -/
theorem later_run {config : Config} (logDir : Path) (files : FileSystem)
    (hmin : 0 < config.host.minPort) {before after : List (Surroundings × Action)}
    (hdrawn : (drawn (before ++ after)).Nodup) :
    Later ((Traffic.start (.start config logDir files)).run before)
      ((Traffic.start (.start config logDir files)).run (before ++ after)) := by
  have hsound := sound_run logDir files hmin (nodup_drawn_left hdrawn)
  rw [run_append]
  exact hsound.later_run (fresh_run logDir files hmin hdrawn)

/-! ### Nobody is missed -/

/-- Whoever belongs to an owner belongs to it at all later moments. -/
theorem Later.isOf (h : Later t t') (hcrew : t.fleet.Crew) (hof : t.fleet.IsOf ref owner) :
    t'.fleet.IsOf ref owner := by
  obtain ⟨s, hs, howner⟩ := hof
  obtain ⟨l, hl, hstanding⟩ := life_of_server? hcrew hs
  obtain ⟨l', hl', hpath⟩ := h.lives ref l hl
  obtain ⟨s', hs', hstanding'⟩ := standing_of_life? hl'
  refine ⟨s', hs', ?_⟩
  have hspec : s'.spec = s.spec :=
    (congrArg Standing.spec hstanding').trans
      (hpath.spec_eq.1.trans (congrArg Standing.spec hstanding).symm)
  rw [Server.isOwnedBy, Server.owner, hspec]
  exact howner

/-- A server that is launching or registered at two moments is launching at the first or registered
    at the second. -/
theorem Later.launching_or_registered (h : Later t t') (hsound : t.Sound)
    (hof : t.fleet.IsOf ref owner) (haround : t'.IsAround ref) :
    t.fleet.isLaunching ref = true ∨ t'.fleet.IsRegistered ref := by
  obtain ⟨s, hs, -⟩ := hof
  obtain ⟨l, hl, -⟩ := life_of_server? hsound.crew hs
  obtain ⟨l', hl', hpath⟩ := h.lives ref l hl
  rcases haround with hlaunching | hregistered
  · left
    rw [← isLaunching_of_life? hl'] at hlaunching
    rw [← isLaunching_of_life? hl]
    exact (hpath.fades (hsound.ok ref l hl)).1 hlaunching
  · exact Or.inr hregistered

/-- Whoever counts the launching servers at one moment and the registered ones later misses none that
    is launching or registered all the time. -/
theorem Later.length_le (h : Later t t') (hsound : t.Sound)
    {servers : List ServerRef} (hnodup : servers.Nodup)
    (hservers : ∀ ref ∈ servers, t.fleet.IsOf ref owner ∧ t'.IsAround ref) :
    servers.length ≤ t.fleet.launchingOf owner + t'.fleet.registeredOf owner := by
  -- Those that are launching at the first moment are counted there.
  have hlaunching : (servers.filter fun ref => t.fleet.isLaunching ref).length ≤
      t.fleet.launchingOf owner := by
    refine Fleet.length_le_launchingOf (hnodup.filter _) ?_
    intro ref href
    obtain ⟨hmem, hlaunching⟩ := List.mem_filter.1 href
    exact ⟨(hservers ref hmem).1, hlaunching⟩
  have hregistered : (servers.filter fun ref => !t.fleet.isLaunching ref).length ≤
      t'.fleet.registeredOf owner := by
    refine Fleet.length_le_registeredOf (hnodup.filter _) ?_
    intro ref href
    obtain ⟨hmem, hnot⟩ := List.mem_filter.1 href
    obtain ⟨hof, haround⟩ := hservers ref hmem
    refine ⟨h.isOf hsound.crew hof, Registry.mem_servers_iff.2 ?_⟩
    -- Who was not launching at the first moment must be registered at the second.
    rcases h.launching_or_registered hsound hof haround with hlaunching | hregistered
    · rw [hlaunching] at hnot
      cases hnot
    · exact hregistered
  have hsplit := List.length_eq_length_filter_add (l := servers) fun ref => t.fleet.isLaunching ref
  omega

/-- The server of a request. -/
def serverOf (t : Traffic) (i : Nat) : ServerRef :=
  ((t.hostings[i]?).bind (·.stage.server?)).getD 0

/-- A request that counts and holds no place was answered, and its server is around as long as it
    counts. -/
theorem Counts.answered (hcounts : t.Counts owner i)
    (hnot : ∀ asked, t.hostings[i]? = some asked → asked.stage.isPermitted = false) :
    ∃ asked ref, t.hostings[i]? = some asked ∧ asked.stage = .answered (.ok ref) := by
  obtain ⟨asked, hget, -, -, hpermitted | ⟨ref, hserver, -⟩⟩ := hcounts
  · rw [hnot asked hget] at hpermitted
    cases hpermitted
  · refine ⟨asked, ref, hget, ?_⟩
    have hwaits := hnot asked hget
    cases hstage : asked.stage with
    | answered outcome =>
      cases outcome with
      | error e =>
        rw [hstage] at hserver
        cases hserver
      | ok other =>
        rw [hstage, HostingStage.server?, Option.some.injEq] at hserver
        rw [hserver]
    | launched other =>
      rw [hstage] at hwaits
      cases hwaits
    | _ =>
      rw [hstage] at hserver
      cases hserver

/-- A request of an owner that was answered before a moment, and whose server is around at a later
    one. -/
def Settled (t t' : Traffic) (owner : String) (i : Nat) : Prop :=
  ∃ asked ref, t.hostings[i]? = some asked ∧ t'.hostings[i]? = some asked ∧
    asked.stage.server? = some ref ∧ Text.sameLetters owner asked.owner = true ∧ t'.IsAround ref

/-- A request that counts at the first and at the last of three moments, and holds no place at the
    first, is settled. -/
theorem Counts.settled {t₁ t₂ t₃ : Traffic} (h₁₂ : Later t₁ t₂) (h₂₃ : Later t₂ t₃)
    (hcounts : t₁.Counts owner i) (hcounts' : t₃.Counts owner i)
    (hnot : ∀ asked, t₁.hostings[i]? = some asked → asked.stage.isPermitted = false) :
    Settled t₂ t₃ owner i := by
  obtain ⟨asked, ref, hget₁, hanswered⟩ := hcounts.answered hnot
  obtain ⟨stage₂, hget₂, hstage₂⟩ := h₁₂.requests i asked hget₁
  -- Its answer is the same at all three moments.
  obtain rfl := hstage₂ _ hanswered
  obtain ⟨stage₃, hget₃, hstage₃⟩ := h₂₃.requests i _ hget₂
  obtain rfl := hstage₃ _ rfl
  obtain ⟨asked', hget', howner, -, hactive⟩ := hcounts'
  rw [hget₃, Option.some.injEq] at hget'
  subst hget'
  refine ⟨_, ref, hget₂, hget₃, rfl, howner, ?_⟩
  rcases hactive with hfalse | ⟨ref', hserver, haround⟩
  · cases hfalse
  · rw [HostingStage.server?, Option.some.injEq] at hserver
    rw [hserver]
    exact haround

theorem serverOf_eq (hget : t.hostings[i]? = some asked) (hserver : asked.stage.server? = some ref) :
    t.serverOf i = ref := by
  rw [serverOf, hget, Option.bind_some, hserver, Option.getD_some]

/-- The server of a request belongs to whoever asked. -/
theorem Hosted.isOf (h : t.Hosted) (hget : t.hostings[i]? = some asked)
    (hserver : asked.stage.server? = some ref) (howner : Text.sameLetters owner asked.owner = true) :
    t.fleet.IsOf ref owner := by
  obtain ⟨spec, hspec, hmine⟩ := h.hosted asked (List.mem_of_getElem? hget) ref hserver
  rw [Fleet.specs, List.getElem?_map, Option.map_eq_some_iff] at hspec
  obtain ⟨s, hs, heq⟩ := hspec
  rw [Prod.mk.injEq] at heq
  refine ⟨s, hs, ?_⟩
  rw [Server.isOwnedBy, Server.owner, heq.1, hmine, Text.sameLetters_iff]
  exact (Text.sameLetters_iff.1 howner).symm

/-- Two requests that have one server are one. -/
theorem Hosted.server_inj (h : t.Hosted) {asked' : Hosting} (hget : t.hostings[i]? = some asked)
    (hget' : t.hostings[j]? = some asked') (hserver : asked.stage.server? = some ref)
    (hserver' : asked'.stage.server? = some ref) : i = j := by
  obtain ⟨spec, hspec, howner⟩ := h.hosted asked (List.mem_of_getElem? hget) ref hserver
  obtain ⟨spec', hspec', howner'⟩ := h.hosted asked' (List.mem_of_getElem? hget') ref hserver'
  rw [hspec, Option.some.injEq, Prod.mk.injEq] at hspec'
  obtain ⟨rfl, -⟩ := hspec'
  exact h.apart i j asked asked' spec.credentials.id hget hget'
    ⟨ref, spec, hserver, hspec, howner, rfl⟩ ⟨ref, spec, hserver', hspec, howner', rfl⟩

/-- Settled requests are counted with their servers. -/
theorem Later.length_le_of_settled (h : Later t t') (hsound : t.Sound) (hhosted : t.Hosted)
    (hhosted' : t'.Hosted) {settled : List Nat} {servers : List ServerRef}
    (hnodup : settled.Nodup) (hservers : servers.Nodup)
    (hsettled : ∀ i ∈ settled, Settled t t' owner i)
    (haround : ∀ ref ∈ servers, t.fleet.IsOf ref owner ∧ t'.IsAround ref)
    (hapart : ∀ i ∈ settled, ∀ asked, t'.hostings[i]? = some asked →
      ∀ ref ∈ servers, asked.stage.server? ≠ some ref) :
    settled.length + servers.length ≤
      t.fleet.launchingOf owner + t'.fleet.registeredOf owner := by
  have hlength : (settled.map t'.serverOf ++ servers).length ≤
      t.fleet.launchingOf owner + t'.fleet.registeredOf owner := by
    -- No server is that of two requests, and none of the others is that of a request.
    refine h.length_le hsound ?_ ?_
    · rw [List.nodup_append]
      refine ⟨?_, hservers, ?_⟩
      · refine hnodup.map_on ?_
        intro i hi j hj hsame
        obtain ⟨asked, ref, -, hget, hserver, -⟩ := hsettled i hi
        obtain ⟨asked', ref', -, hget', hserver', -⟩ := hsettled j hj
        rw [serverOf_eq hget hserver, serverOf_eq hget' hserver'] at hsame
        exact hhosted'.server_inj hget hget' hserver (hsame ▸ hserver')
      · intro other hother ref href hsame
        obtain ⟨i, hi, rfl⟩ := List.mem_map.1 hother
        obtain ⟨asked, ref', -, hget, hserver, -⟩ := hsettled i hi
        rw [serverOf_eq hget hserver] at hsame
        exact hapart i hi asked hget ref href (hsame ▸ hserver)
    · intro ref href
      rcases List.mem_append.1 href with hmem | hmem
      · obtain ⟨i, hi, rfl⟩ := List.mem_map.1 hmem
        obtain ⟨asked, ref, hget, hget', hserver, howner, hactive⟩ := hsettled i hi
        rw [serverOf_eq hget' hserver]
        exact ⟨hhosted.isOf hget hserver howner, hactive⟩
      · exact haround ref hmem
  rw [List.length_append, List.length_map] at hlength
  exact hlength

/-- Whoever counts the places, later the launching servers and later the registered ones misses no
    request and no server that counts all the time. A request and the server that was launched for
    it are one. -/
theorem length_le_of_later {t₁ t₂ t₃ : Traffic} (h₁₂ : Later t₁ t₂) (h₂₃ : Later t₂ t₃)
    (hplaced : t₁.Placed) (hsound : t₂.Sound) (hhosted₂ : t₂.Hosted) (hhosted₃ : t₃.Hosted)
    {requests : List Nat} {servers : List ServerRef} (hrequests : requests.Nodup)
    (hservers : servers.Nodup)
    (hcounts : ∀ i ∈ requests, t₁.Counts owner i ∧ t₃.Counts owner i)
    (haround : ∀ ref ∈ servers, t₂.fleet.IsOf ref owner ∧ t₃.IsAround ref)
    (hapart : ∀ i ∈ requests, ∀ asked, t₃.hostings[i]? = some asked →
      ∀ ref ∈ servers, asked.stage.server? ≠ some ref) :
    requests.length + servers.length ≤
      t₁.fleet.pendingOf owner + t₂.fleet.launchingOf owner + t₃.fleet.registeredOf owner := by
  let holds : Nat → Bool := fun i => (t₁.hostings[i]?).any (·.stage.isPermitted)
  -- The requests that hold a place at the first moment are counted there.
  have hpending : (requests.filter holds).length ≤ t₁.fleet.pendingOf owner := by
    refine hplaced.length_le_pendingOf (hrequests.filter _) ?_
    intro i hi
    obtain ⟨hmem, hholds⟩ := List.mem_filter.1 hi
    obtain ⟨asked, hget, howner, hneeds, -⟩ := (hcounts i hmem).1
    refine ⟨asked, hget, ?_⟩
    have hpermitted : asked.stage.isPermitted = true := by simpa [holds, hget] using hholds
    rw [Hosting.holdsPlaceOf, Hosting.holdsPlace, hneeds, hpermitted, howner]
    rfl
  -- All others are settled.
  have hothers : (requests.filter fun i => !holds i).length + servers.length ≤
      t₂.fleet.launchingOf owner + t₃.fleet.registeredOf owner := by
    refine h₂₃.length_le_of_settled hsound hhosted₂ hhosted₃ (hrequests.filter _) hservers ?_
      haround fun i hi => hapart i (List.mem_of_mem_filter hi)
    intro i hi
    obtain ⟨hmem, hnot⟩ := List.mem_filter.1 hi
    refine (hcounts i hmem).1.settled h₁₂ h₂₃ (hcounts i hmem).2 ?_
    intro asked hget
    simpa [holds, hget] using hnot
  have hsplit := List.length_eq_length_filter_add (l := requests) holds
  omega

/-! ### The moments of the counts -/

/-- A request that has to wait, or that is answered, is not past the gate. -/
theorem not_counting_of_stay {p : Prop}
    (h : asked.stage = .waiting ∧ p ∨ ∃ o, asked.stage = .answered o) :
    asked.stage.isCounting = false := by
  rcases h with ⟨hwaiting, -⟩ | ⟨o, hanswered⟩
  · rw [hwaiting]
    rfl
  · rw [hanswered]
    rfl

/-- A request that counts the places has waited at the gate. -/
theorem Advance.of_countedPending {stage : HostingStage} {gate : Option Nat} {f : Fleet} {n : Nat}
    (h : Advance t i asked stage gate f) (hstage : stage = .countedPending n) :
    asked.stage = .waiting ∧ n = t.fleet.pendingOf asked.owner := by
  cases h with
  | stay hbefore =>
    have hnot := not_counting_of_stay hbefore
    rw [hstage] at hnot
    cases hnot
  | enter hwaiting =>
    cases hstage
    exact ⟨hwaiting, rfl⟩
  | work _ hafter =>
    rw [hstage] at hafter
    cases hafter
  | count | grant | refuse | launch | finish => cases hstage

/-- A request that counts the launching servers has counted the places. -/
theorem Advance.of_countedLaunching {stage : HostingStage} {gate : Option Nat} {f : Fleet} {n : Nat}
    (h : Advance t i asked stage gate f) (hstage : stage = .countedLaunching n) :
    ∃ m, asked.stage = .countedPending m ∧ n = m + t.fleet.launchingOf asked.owner := by
  cases h with
  | stay hbefore =>
    have hnot := not_counting_of_stay hbefore
    rw [hstage] at hnot
    cases hnot
  | count hcounted =>
    cases hstage
    exact ⟨_, hcounted, rfl⟩
  | work _ hafter =>
    rw [hstage] at hafter
    cases hafter
  | enter | grant | refuse | launch | finish => cases hstage

/-- A request comes to count only by being granted a place, and leaves the gate with that. -/
theorem Advance.of_active {stage : HostingStage} {gate : Option Nat} {f : Fleet}
    (h : Advance t i asked stage gate f)
    (hactive : stage.isPermitted = true ∨ ∃ ref, stage.server? = some ref) :
    asked.stage.isPermitted = true ∨ stage = asked.stage ∨ gate = none ∧
      ∃ n, asked.stage = .countedLaunching n ∧
        n + t.fleet.registeredOf asked.owner < (t.fleet.store.quota asked.owner).toNat := by
  cases h with
  | stay => exact Or.inr (Or.inl rfl)
  | enter | count | refuse =>
    rcases hactive with hfalse | ⟨ref, hfalse⟩
    · cases hfalse
    · cases hfalse
  | grant hstage hroom => exact Or.inr (Or.inr ⟨rfl, _, hstage, hroom⟩)
  | work hbefore => exact Or.inl (isPermitted_of_isWorking hbefore).1
  | launch hstage =>
    left
    rw [hstage]
    rfl
  | finish hstage =>
    left
    rcases hstage with ⟨ref, hstage, -⟩ | ⟨e, hstage, -⟩
    · rw [hstage]
      rfl
    · rw [hstage]
      rfl

/-- A server that is around was around before. -/
theorem Later.around_before (h : Later t t') (hsound : t.Sound) {l : Life}
    (hl : t.life? ref = some l) (haround : t'.IsAround ref) : t.IsAround ref := by
  obtain ⟨l', hl', hpath⟩ := h.lives ref l hl
  obtain ⟨hlaunching, hkeys⟩ := hpath.fades (hsound.ok ref l hl)
  rw [isLaunching_of_life? hl, isLaunching_of_life? hl'] at hlaunching
  rcases haround with hbefore | hregistered
  · exact Or.inl (hlaunching hbefore)
  · rcases hkeys ((isRegistered_iff hl').1 hregistered) with hkeys | hbefore
    · exact Or.inr ((isRegistered_iff hl).2 hkeys)
    · rw [isLaunching_of_life? hl] at hbefore
      exact Or.inl hbefore

/-- Whoever counts after a step counted before, but for a request that is granted a place. -/
theorem Sound.counts_before (h : t.Sound) (hhosted : t.Hosted) {env : Surroundings} {a : Action}
    (hgoes : Goes (t.scope env a) t (t.step env a)) (hcounts : (t.step env a).Counts owner j) :
    t.Counts owner j ∨ a = .hosting j ∧ (t.step env a).gate = none ∧
      ∃ asked n, t.hostings[j]? = some asked ∧ asked.stage = .countedLaunching n ∧
        Text.sameLetters owner asked.owner = true ∧
        n + t.fleet.registeredOf asked.owner < (t.fleet.store.quota asked.owner).toNat := by
  obtain ⟨asked', hget', howner, hneeds, hactive⟩ := hcounts
  rcases hgoes.serves.before hget' with ⟨hfirst, -⟩ | ⟨asked, hget, hmoved, hstage⟩
  · -- A request that has just come holds no place and has no server.
    have hholds := (place_of_isFirst owner hfirst).2.1
    rw [Hosting.holdsPlaceOf, Hosting.holdsPlace, hneeds, howner, Bool.and_true, Bool.not_false,
      Bool.true_and] at hholds
    rcases hactive with hpermitted | ⟨ref, hserver, -⟩
    · rw [hholds] at hpermitted
      cases hpermitted
    · rw [(nothing_of_isFirst hfirst).1] at hserver
      cases hserver
  · have howner' : asked'.owner = asked.owner := by rw [hmoved]
    have hneeds' : asked'.recovering = asked.recovering := by rw [hmoved]
    rw [howner'] at howner
    rw [hneeds'] at hneeds
    have hsame : asked'.stage = asked.stage → t.Counts owner j := by
      intro hstage
      rw [hstage] at hactive
      refine ⟨asked, hget, howner, hneeds, hactive.imp_right ?_⟩
      rintro ⟨ref, hserver, haround⟩
      obtain ⟨spec, hspec, -⟩ := hhosted.hosted asked (List.mem_of_getElem? hget) ref hserver
      have hlt := (List.getElem?_eq_some_iff.1 hspec).1
      rw [Fleet.length_specs] at hlt
      obtain ⟨l, hl⟩ := exists_life h.crew hlt
      exact ⟨ref, hserver, (Later.of_goes hgoes).around_before h hl haround⟩
    rcases hstage with hstage | ⟨ha, hadvance⟩
    · exact Or.inl (hsame hstage)
    · have hserver : asked'.stage.isPermitted = true ∨ ∃ ref, asked'.stage.server? = some ref := by
        refine hactive.imp_right ?_
        rintro ⟨ref, hserver, -⟩
        exact ⟨ref, hserver⟩
      rcases hadvance.of_active hserver with hpermitted | hstage | ⟨hgate, n, hcounted, hroom⟩
      · exact Or.inl ⟨asked, hget, howner, hneeds, Or.inl hpermitted⟩
      · exact Or.inl (hsame hstage)
      · exact Or.inr ⟨ha, hgate, asked, n, hget, hcounted, howner, hroom⟩

/-- At some moment of a run a request that waited has counted `n` places. Whoever counts at the end of
    the run counted then. -/
def PendingCounted (s : Traffic) (steps : List (Surroundings × Action)) (i : Nat) (asked : Hosting)
    (n : Nat) : Prop :=
  ∃ before env after, steps = before ++ (env, .hosting i) :: after ∧
    (s.run before).hostings[i]? = some { asked with stage := .waiting } ∧
    n = (s.run before).fleet.pendingOf asked.owner ∧
    ∀ owner j, (s.run steps).Counts owner j → (s.run before).Counts owner j

/-- At some moment of a run a request that waited has counted the places, at a later one the launching
    servers, and both together are `n`. Whoever counts at the end of the run counted at the first
    moment. -/
def LaunchingCounted (s : Traffic) (steps : List (Surroundings × Action)) (i : Nat)
    (asked : Hosting) (n : Nat) : Prop :=
  ∃ before env between env' after,
    steps = (before ++ (env, .hosting i) :: between) ++ (env', .hosting i) :: after ∧
    (s.run before).hostings[i]? = some { asked with stage := .waiting } ∧
    (s.run (before ++ (env, .hosting i) :: between)).hostings[i]? = some { asked with
      stage := .countedPending ((s.run before).fleet.pendingOf asked.owner) } ∧
    n = (s.run before).fleet.pendingOf asked.owner +
      (s.run (before ++ (env, .hosting i) :: between)).fleet.launchingOf asked.owner ∧
    ∀ owner j, (s.run steps).Counts owner j → (s.run before).Counts owner j

/-- The moments at which the request past the gate has made its counts. -/
structure Recorded (s : Traffic) (steps : List (Surroundings × Action)) : Prop where
  /-- It has counted the places. -/
  pending : ∀ (i : Nat) (asked : Hosting) (n : Nat), (s.run steps).hostings[i]? = some asked →
    asked.stage = .countedPending n → PendingCounted s steps i asked n
  /-- It has counted the launching servers, too. -/
  launching : ∀ (i : Nat) (asked : Hosting) (n : Nat), (s.run steps).hostings[i]? = some asked →
    asked.stage = .countedLaunching n → LaunchingCounted s steps i asked n

theorem PendingCounted.extend {s : Traffic} {steps : List (Surroundings × Action)} {n : Nat}
    (h : PendingCounted s steps i asked n) (last : Surroundings × Action)
    (hback : ∀ owner j, (s.run (steps ++ [last])).Counts owner j → (s.run steps).Counts owner j) :
    PendingCounted s (steps ++ [last]) i asked n := by
  obtain ⟨before, env, after, hsplit, hwaiting, hn, hcounts⟩ := h
  refine ⟨before, env, after ++ [last], ?_, hwaiting, hn, ?_⟩
  · rw [hsplit, List.append_assoc, List.cons_append]
  · exact fun owner j hlast => hcounts owner j (hback owner j hlast)

theorem LaunchingCounted.extend {s : Traffic} {steps : List (Surroundings × Action)} {n : Nat}
    (h : LaunchingCounted s steps i asked n) (last : Surroundings × Action)
    (hback : ∀ owner j, (s.run (steps ++ [last])).Counts owner j → (s.run steps).Counts owner j) :
    LaunchingCounted s (steps ++ [last]) i asked n := by
  obtain ⟨before, env, between, env', after, hsplit, hwaiting, hcounted, hn, hcounts⟩ := h
  refine ⟨before, env, between, env', after ++ [last], ?_, hwaiting, hcounted, hn, ?_⟩
  · rw [hsplit, List.append_assoc, List.cons_append]
  · exact fun owner j hlast => hcounts owner j (hback owner j hlast)

/-- While a request is past the gate nobody else comes to count. -/
theorem Sound.counts_before_of_gate (h : t.Sound) (hhosted : t.Hosted) {env : Surroundings}
    {a : Action} (hgoes : Goes (t.scope env a) t (t.step env a))
    (hgate : (t.step env a).gate = some i) {owner : String} {j : Nat}
    (hcounts : (t.step env a).Counts owner j) : t.Counts owner j := by
  rcases h.counts_before hhosted hgoes hcounts with hbefore | ⟨-, hnone, -⟩
  · exact hbefore
  · rw [hgate] at hnone
    cases hnone

/-- A request that is past the gate after a step was so before, or has made its step now. -/
theorem Placed.counting_before (h : t.Placed) {env : Surroundings} {a : Action}
    (hgoes : Goes (t.scope env a) t (t.step env a)) {asked' : Hosting}
    (hget' : (t.step env a).hostings[i]? = some asked') (hcounting : asked'.stage.isCounting = true) :
    (t.step env a).gate = some i ∧ ∃ asked, t.hostings[i]? = some asked ∧
      asked' = { asked with stage := asked'.stage } ∧
      (asked'.stage = asked.stage ∨ a = .hosting i ∧
        Advance t i asked asked'.stage (t.step env a).gate (t.step env a).fleet) := by
  have hserves := hgoes.serves
  refine ⟨((hserves.placed_step h).gate i asked' hget').1 hcounting, ?_⟩
  rcases hserves.before hget' with ⟨hfirst, -⟩ | hbefore
  · rw [(place_of_isFirst "" hfirst).1] at hcounting
    cases hcounting
  · exact hbefore

/-- Every step keeps the record of the counts. -/
theorem Recorded.step {s : Traffic} {steps : List (Surroundings × Action)} (h : Recorded s steps)
    (hsound : (s.run steps).Sound) (hhosted : (s.run steps).Hosted)
    (hplaced : (s.run steps).Placed) {env : Surroundings} {a : Action}
    (hgoes : Goes ((s.run steps).scope env a) (s.run steps) ((s.run steps).step env a)) :
    Recorded s (steps ++ [(env, a)]) := by
  have hrun : s.run (steps ++ [(env, a)]) = (s.run steps).step env a := by
    rw [run_append]
    rfl
  have hback : ∀ {i : Nat}, ((s.run steps).step env a).gate = some i →
      ∀ owner j, (s.run (steps ++ [(env, a)])).Counts owner j → (s.run steps).Counts owner j := by
    intro i hgate owner j hlast
    rw [hrun] at hlast
    exact hsound.counts_before_of_gate hhosted hgoes hgate hlast
  refine ⟨?_, ?_⟩
  · intro i asked' n hget' hstage
    rw [hrun] at hget'
    obtain ⟨hgate, asked, hget, hmoved, hbefore⟩ :=
      hplaced.counting_before hgoes hget' (by rw [hstage]; rfl)
    rcases hbefore with hsame | ⟨rfl, hadvance⟩
    · -- The places were counted before this step.
      rw [hsame] at hmoved
      obtain rfl : asked' = asked := hmoved
      exact (h.pending i asked' n hget hstage).extend (env, a) (hback hgate)
    · -- The places are counted with this step.
      obtain ⟨hwaiting, hn⟩ := hadvance.of_countedPending hstage
      have howner : asked'.owner = asked.owner := by rw [hmoved]
      refine ⟨steps, env, [], rfl, ?_, ?_, hback hgate⟩
      · rw [hget, hmoved, ← hwaiting]
      · rw [hn, howner]
  · intro i asked' n hget' hstage
    rw [hrun] at hget'
    obtain ⟨hgate, asked, hget, hmoved, hbefore⟩ :=
      hplaced.counting_before hgoes hget' (by rw [hstage]; rfl)
    rcases hbefore with hsame | ⟨rfl, hadvance⟩
    · rw [hsame] at hmoved
      obtain rfl : asked' = asked := hmoved
      exact (h.launching i asked' n hget hstage).extend (env, a) (hback hgate)
    · -- The places were counted before, the launching servers are counted with this step.
      obtain ⟨m, hcounted, hn⟩ := hadvance.of_countedLaunching hstage
      have howner : asked'.owner = asked.owner := by rw [hmoved]
      obtain ⟨before, first, between, rfl, hwaiting, hm, hcounts⟩ := h.pending i asked m hget hcounted
      refine ⟨before, first, between, env, [], rfl, ?_, ?_, ?_, ?_⟩
      · rw [hwaiting, hmoved]
      · rw [hget, hmoved, ← hm, ← hcounted]
      · rw [hn, hm, howner]
      · exact fun owner j hlast => hcounts owner j (hback hgate owner j hlast)

/-! ### Over whole runs -/

/-- The counts of the request past the gate are on record in every run in which no identifier is drawn
    twice. -/
theorem recorded_run {config : Config} (logDir : Path) (files : FileSystem)
    (hmin : 0 < config.host.minPort) {steps : List (Surroundings × Action)}
    (hdrawn : (drawn steps).Nodup) :
    Recorded (Traffic.start (.start config logDir files)) steps := by
  induction steps using List.reverseRecOn with
  | nil =>
    refine ⟨?_, ?_⟩
    · intro i asked n hget
      cases hget
    · intro i asked n hget
      cases hget
  | append_singleton steps last ih =>
    obtain ⟨env, a⟩ := last
    have hgoes := goes_run logDir files hmin hdrawn
    have hbefore := nodup_drawn_left hdrawn
    exact (ih hbefore).step (sound_run logDir files hmin hbefore)
      (hosted_run logDir files hmin hbefore) (placed_run logDir files hmin hbefore) hgoes

/-- Nobody's quota changes. -/
theorem quota_run {config : Config} (logDir : Path) (files : FileSystem)
    (hmin : 0 < config.host.minPort) {steps : List (Surroundings × Action)}
    (hdrawn : (drawn steps).Nodup) :
    ((Traffic.start (.start config logDir files)).run steps).fleet.store.quota =
      (Store.ofPolicy config.policy config.host.defaultQuota).quota :=
  keeps_run logDir files hmin (P := fun t => t.fleet.store.quota =
    (Store.ofPolicy config.policy config.host.defaultQuota).quota) rfl hdrawn
    fun _ _ _ _ hgoes hquota => hgoes.quota.trans hquota

/-- What is counted at three moments misses nobody of an owner who is there at all of them: each
    request holds a place at the first, or its server is launching at the second or registered at the
    third, and so are all other servers; and all together are no more than the three counts. -/
def MissesNobody (t₁ t₂ t₃ : Traffic) (owner : String) : Prop :=
  (∀ i, t₁.Counts owner i → t₃.Counts owner i →
    (∃ asked, t₁.hostings[i]? = some asked ∧ asked.holdsPlaceOf owner = true) ∨
      ∃ asked ref, t₃.hostings[i]? = some asked ∧ asked.stage.server? = some ref ∧
        (t₂.fleet.isLaunching ref = true ∨ t₃.fleet.IsRegistered ref)) ∧
  (∀ ref, t₂.fleet.IsOf ref owner → t₃.IsAround ref →
    t₂.fleet.isLaunching ref = true ∨ t₃.fleet.IsRegistered ref) ∧
  ∀ (requests : List Nat) (servers : List ServerRef), requests.Nodup → servers.Nodup →
    (∀ i ∈ requests, t₁.Counts owner i ∧ t₃.Counts owner i) →
    (∀ ref ∈ servers, t₂.fleet.IsOf ref owner ∧ t₃.IsAround ref) →
    (∀ i ∈ requests, ∀ asked, t₃.hostings[i]? = some asked →
      ∀ ref ∈ servers, asked.stage.server? ≠ some ref) →
    requests.length + servers.length ≤
      t₁.fleet.pendingOf owner + t₂.fleet.launchingOf owner + t₃.fleet.registeredOf owner

theorem missesNobody_of_later {t₁ t₂ t₃ : Traffic} (h₁₂ : Later t₁ t₂) (h₂₃ : Later t₂ t₃)
    (hplaced : t₁.Placed) (hsound : t₂.Sound) (hhosted₂ : t₂.Hosted) (hhosted₃ : t₃.Hosted)
    (owner : String) : MissesNobody t₁ t₂ t₃ owner := by
  refine ⟨?_, ?_, ?_⟩
  · intro i hfirst hlast
    obtain ⟨asked, hget, howner, hneeds, -⟩ := id hfirst
    cases hpermitted : asked.stage.isPermitted with
    | true =>
      left
      refine ⟨asked, hget, ?_⟩
      rw [Hosting.holdsPlaceOf, Hosting.holdsPlace, hneeds, hpermitted, howner]
      rfl
    | false =>
      right
      obtain ⟨asked', ref, hget₂, hget₃, hserver, howner', haround⟩ :=
        hfirst.settled h₁₂ h₂₃ hlast fun other hother => by
          rw [hget, Option.some.injEq] at hother
          rw [← hother, hpermitted]
      exact ⟨asked', ref, hget₃, hserver,
        h₂₃.launching_or_registered hsound (hhosted₂.isOf hget₂ hserver howner') haround⟩
  · exact fun ref hof haround => h₂₃.launching_or_registered hsound hof haround
  · exact fun requests servers hrequests hservers hcounts haround hapart =>
      length_le_of_later h₁₂ h₂₃ hplaced hsound hhosted₂ hhosted₃ hrequests hservers hcounts haround
        hapart

/-- What a request that is about to be decided has counted misses nobody. -/
theorem missesNobody_run {config : Config} (logDir : Path) (files : FileSystem)
    (hmin : 0 < config.host.minPort) {before between after : List (Surroundings × Action)}
    (hdrawn : (drawn ((before ++ between) ++ after)).Nodup) (owner : String) :
    let s := Traffic.start (.start config logDir files)
    MissesNobody (s.run before) (s.run (before ++ between)) (s.run ((before ++ between) ++ after))
      owner := by
  have h₂₃ := later_run logDir files hmin hdrawn
  have hlast := hosted_run logDir files hmin hdrawn
  have hdrawn₂ := nodup_drawn_left hdrawn
  have h₁₂ := later_run logDir files hmin hdrawn₂
  have hsound := sound_run logDir files hmin hdrawn₂
  have hhosted := hosted_run logDir files hmin hdrawn₂
  have hplaced := placed_run logDir files hmin (nodup_drawn_left hdrawn₂)
  exact missesNobody_of_later h₁₂ h₂₃ hplaced hsound hhosted hlast owner

/-- Where requests come to have a property one at a time, and each only while fewer than `q` have it,
    no more than `q` ever have it. -/
theorem length_le_of_grants {s : Traffic} {P : Traffic → Nat → Prop} {q : Nat}
    {steps : List (Surroundings × Action)} (hnone : ∀ i, ¬ P s i)
    (hstep : ∀ before env a after, steps = before ++ (env, a) :: after →
      ∀ i, P ((s.run before).step env a) i → P (s.run before) i ∨ a = .hosting i ∧
        ∀ others : List Nat, others.Nodup → (∀ j ∈ others, P (s.run before) j) → others.length < q)
    {granted : List Nat} (hgranted : granted.Nodup) (hhave : ∀ i ∈ granted, P (s.run steps) i) :
    granted.length ≤ q := by
  induction steps using List.reverseRecOn generalizing granted with
  | nil =>
    cases granted with
    | nil => exact Nat.zero_le _
    | cons i rest => exact absurd (hhave i List.mem_cons_self) (hnone i)
  | append_singleton steps last ih =>
    obtain ⟨env, a⟩ := last
    have hlast := hstep steps env a [] rfl
    rw [run_append] at hhave
    by_cases hold : ∀ i ∈ granted, P (s.run steps) i
    · refine ih ?_ hgranted hold
      intro before env' a' after hsplit
      refine hstep before env' a' (after ++ [(env, a)]) ?_
      rw [hsplit, List.append_assoc, List.cons_append]
    · -- One request comes to have it with this step. All others had it before.
      simp only [not_forall] at hold
      obtain ⟨i, hi, hnot⟩ := hold
      obtain ⟨ha, hroom⟩ := (hlast i (hhave i hi)).resolve_left hnot
      have hothers : ∀ j ∈ granted.erase i, P (s.run steps) j := by
        intro j hj
        obtain ⟨hne, hmem⟩ := hgranted.mem_erase_iff.1 hj
        refine (hlast j (hhave j hmem)).resolve_right ?_
        rintro ⟨ha', -⟩
        rw [ha, Action.hosting.injEq] at ha'
        exact hne ha'.symm
      have hfew := hroom (granted.erase i) (hgranted.erase i) hothers
      have herase := List.length_erase_of_mem hi
      omega

/-- A request that has come is there at all later moments, with whoever asks. -/
theorem Later.mem_hostings (h : Later t t') (hget : t.hostings[i]? = some asked) :
    ∃ asked' ∈ t'.hostings, asked'.owner = asked.owner ∧ asked'.recovering = asked.recovering := by
  obtain ⟨stage, hget', -⟩ := h.requests i asked hget
  exact ⟨_, List.mem_of_getElem? hget', rfl, rfl⟩

/-- A server of an owner is one of the owner's under every spelling. -/
theorem isOf_congr {f : Fleet} {other : String} (h : f.IsOf ref owner)
    (hsame : Text.sameLetters owner other = true) : f.IsOf ref other := by
  obtain ⟨s, hs, howner⟩ := h
  refine ⟨s, hs, ?_⟩
  rw [Server.isOwnedBy, Text.sameLetters_iff] at howner ⊢
  exact howner.trans (Text.sameLetters_iff.1 hsame)

section

variable {config : Config} (logDir : Path) (files : FileSystem) (hmin : 0 < config.host.minPort)
  {q : UInt32} {steps : List (Surroundings × Action)}

include hmin

/-- Whoever is granted a place has found less than the quota: requests that count, and servers that
    were there when the launching ones were counted and are around. -/
theorem exists_room {before after : List (Surroundings × Action)} {n : Nat} :
    let start := Traffic.start (.start config logDir files)
    let t := start.run before
    (drawn (before ++ after)).Nodup →
    (∀ asked ∈ (start.run (before ++ after)).hostings, Text.sameLetters owner asked.owner = true →
      asked.recovering = false →
      (Store.ofPolicy config.policy config.host.defaultQuota).quota asked.owner ≤ q) →
    t.hostings[i]? = some asked → asked.stage = .countedLaunching n →
    Text.sameLetters owner asked.owner = true →
    n + t.fleet.registeredOf asked.owner < (t.fleet.store.quota asked.owner).toNat →
    ∃ counted since m, before = counted ++ since ∧
      (start.run counted).hostings[i]? = some { asked with stage := .countedPending m } ∧
      ∀ (requests : List Nat) (servers : List ServerRef), requests.Nodup → servers.Nodup →
        (∀ j ∈ requests, t.Counts owner j) →
        (∀ ref ∈ servers, (start.run counted).fleet.IsOf ref owner ∧ t.IsAround ref) →
        (∀ j ∈ requests, ∀ other, t.hostings[j]? = some other →
          ∀ ref ∈ servers, other.stage.server? ≠ some ref) →
        requests.length + servers.length < q.toNat := by
  intro start t hdrawn hquota hget hstage howner hroom
  have hbefore := nodup_drawn_left hdrawn
  obtain ⟨first, env, between, env', since, hsplit, -, hcounted, hn, hback⟩ :=
    (recorded_run logDir files hmin hbefore).launching i asked n hget hstage
  have hmisses := missesNobody_run logDir files hmin (hsplit ▸ hbefore) asked.owner
  rw [← hsplit] at hmisses
  refine ⟨_, _, _, hsplit, hcounted, ?_⟩
  intro requests servers hrequests hservers hcounts haround hapart
  have hmine : ∀ j ∈ requests, t.Counts asked.owner j := fun j hj => (hcounts j hj).congr howner
  have hlength : requests.length + servers.length ≤ _ + t.fleet.registeredOf asked.owner :=
    hmisses.2.2 requests servers hrequests hservers
      (fun j hj => ⟨hback _ j (hmine j hj), hmine j hj⟩)
      (fun ref href => ⟨isOf_congr (haround ref href).1 howner, (haround ref href).2⟩) hapart
  -- The request is there at the end, and its quota is one of those that are bounded.
  have hneeds : asked.recovering = false :=
    (placed_run logDir files hmin hbefore).needs asked (List.mem_of_getElem? hget)
      (Or.inr (by rw [hstage]; rfl))
  obtain ⟨asked', hmem, howner', hneeds'⟩ :=
    (later_run logDir files hmin hdrawn).mem_hostings hget
  have hfew := hquota asked' hmem (howner' ▸ howner) (hneeds'.trans hneeds)
  have hstore : t.fleet.store.quota asked.owner =
      (Store.ofPolicy config.policy config.host.defaultQuota).quota asked.owner := by
    rw [quota_run logDir files hmin hbefore]
  rw [howner', ← hstore, UInt32.le_iff_toNat_le] at hfew
  omega

/-- There are never more requests of an owner that count than the quota allows, under whatever
    spellings the owner asks for places. -/
theorem counts_le_of_quota_le (hdrawn : (drawn steps).Nodup)
    (hquota : ∀ asked ∈ ((Traffic.start (.start config logDir files)).run steps).hostings,
      Text.sameLetters owner asked.owner = true → asked.recovering = false →
      (Store.ofPolicy config.policy config.host.defaultQuota).quota asked.owner ≤ q)
    {granted : List Nat} (hgranted : granted.Nodup)
    (hcounts : ∀ i ∈ granted,
      ((Traffic.start (.start config logDir files)).run steps).Counts owner i) :
    granted.length ≤ q.toNat := by
  refine length_le_of_grants (P := fun t i => t.Counts owner i) ?_ ?_ hgranted hcounts
  · rintro i ⟨asked, hget, -⟩
    cases hget
  · rintro before env a after rfl i hcount
    have hbefore := nodup_drawn_left hdrawn
    rcases (sound_run logDir files hmin hbefore).counts_before
      (hosted_run logDir files hmin hbefore)
      (goes_run logDir files hmin (nodup_drawn_snoc hdrawn)) hcount with
      hold | ⟨ha, -, asked, n, hget, hstage, howner, hroom⟩
    · exact Or.inl hold
    · refine Or.inr ⟨ha, ?_⟩
      intro others hothers hhave
      obtain ⟨_, _, _, -, -, hlength⟩ :=
        exists_room logDir files hmin hdrawn hquota hget hstage howner hroom
      exact hlength others [] hothers List.nodup_nil hhave (fun ref href => by cases href)
        fun _ _ _ _ ref href => by cases href

end

/-- Where an owner has one quota under all spellings there are never more requests of this owner that
    count. -/
theorem counts_le_quota {config : Config} (logDir : Path) (files : FileSystem)
    (hmin : 0 < config.host.minPort) {q : UInt32}
    (hquota : ∀ other, Text.sameLetters owner other = true →
      (Store.ofPolicy config.policy config.host.defaultQuota).quota other = q)
    {steps : List (Surroundings × Action)} (hdrawn : (drawn steps).Nodup) {granted : List Nat}
    (hgranted : granted.Nodup)
    (hcounts : ∀ i ∈ granted,
      ((Traffic.start (.start config logDir files)).run steps).Counts owner i) :
    granted.length ≤ q.toNat := by
  refine counts_le_of_quota_le logDir files hmin hdrawn ?_ hgranted hcounts
  intro asked _ howner _
  rw [hquota asked.owner howner]
  exact UInt32.le_refl q

/-- The quota in every run in which no identifier is drawn twice.

    - Whoever is about to be granted a place or refused has counted at three moments, and has missed
      nobody of its owner.
    - Where an owner has one quota under all spellings there are never more requests of this owner
      that hold a place or have a server that is launching or registered.
    - The table of places counts the requests that hold one. A request that has failed leaves it as it
      found it, where no other request goes on in the meantime, and so does one that is handled
      without a break. -/
theorem quota_of_run (config : Config) (logDir : Path) (files : FileSystem)
    (hmin : 0 < config.host.minPort) (steps : List (Surroundings × Action))
    (hdrawn : (drawn steps).Nodup) :
    let start := Traffic.start (.start config logDir files)
    let t := start.run steps
    (∀ (i : Nat) (asked : Hosting) (n : Nat), t.hostings[i]? = some asked →
      asked.stage = .countedLaunching n →
      ∃ before env between env' after,
        steps = (before ++ (env, .hosting i) :: between) ++ (env', .hosting i) :: after ∧
        let t₁ := start.run before
        let t₂ := start.run (before ++ (env, .hosting i) :: between)
        t₁.hostings[i]? = some { asked with stage := .waiting } ∧
        t₂.hostings[i]? = some { asked with
          stage := .countedPending (t₁.fleet.pendingOf asked.owner) } ∧
        n = t₁.fleet.pendingOf asked.owner + t₂.fleet.launchingOf asked.owner ∧
        MissesNobody t₁ t₂ t asked.owner) ∧
    (∀ (owner : String) (q : UInt32), (∀ other, Text.sameLetters owner other = true →
        (Store.ofPolicy config.policy config.host.defaultQuota).quota other = q) →
      ∀ granted : List Nat, granted.Nodup → (∀ i ∈ granted, t.Counts owner i) →
        granted.length ≤ q.toNat) ∧
    (∀ owner, t.fleet.pendingOf owner = t.hostings.countP (Hosting.holdsPlaceOf owner)) ∧
    (∀ before after i, steps = before ++ after →
      (∀ e ∈ after, ∀ j, e.2 = .hosting j → j = i) → (start.run before).hostings[i]? = none →
      ∀ asked e, t.hostings[i]? = some asked → asked.stage = .answered (.error e) →
      ∀ owner, t.fleet.pendingOf owner = (start.run before).fleet.pendingOf owner) ∧
    ∀ env owner optionLine port recovering other,
      (t.fleet.host env owner optionLine port recovering).2.pendingOf other =
        t.fleet.pendingOf other := by
  intro start t
  refine ⟨?_, ?_, ?_, ?_, ?_⟩
  · intro i asked n hget hstage
    obtain ⟨before, env, between, env', after, hsplit, hwaiting, hcounted, hn, -⟩ :=
      (recorded_run logDir files hmin hdrawn).launching i asked n hget hstage
    have hmisses := missesNobody_run logDir files hmin (hsplit ▸ hdrawn) asked.owner
    refine ⟨before, env, between, env', after, hsplit, hwaiting, hcounted, hn, ?_⟩
    rw [← hsplit] at hmisses
    exact hmisses
  · exact fun owner q hquota granted hgranted hcounts =>
      counts_le_quota logDir files hmin hquota hdrawn hgranted hcounts
  · exact (placed_run logDir files hmin hdrawn).pending
  · intro before after i hsplit halone hnone asked e hget hstage owner
    have hsame := pendingOf_run logDir files hmin (hsplit ▸ hdrawn) halone owner
    rw [← hsplit] at hsame
    -- It holds no place before it comes, and none after it has failed.
    have hbefore : (start.run before).placesFor owner i = 0 := by rw [placesFor, hnone]; rfl
    have hafter : t.placesFor owner i = 0 := by
      rw [placesFor, hget, Option.elim_some, Hosting.holdsPlaceOf, Hosting.holdsPlace, hstage,
        HostingStage.isPermitted, Bool.and_false, Bool.false_and]
      rfl
    have htotal : t.fleet.pendingOf owner + (start.run before).placesFor owner i =
        (start.run before).fleet.pendingOf owner + t.placesFor owner i := hsame
    omega
  · exact fun env owner optionLine port recovering other =>
      t.fleet.pendingOf_host env owner optionLine port recovering other

/-- Two requests of one account, the second of which counts while the first is being served. -/
def smallContest : List Action :=
  List.replicate 2 (.request (.host "al" "iwad=doom2" none false)) ++
    List.replicate 3 (.hosting 0) ++ [.hosting 1] ++ List.replicate 4 (.hosting 0) ++ [.hosting 1]

/-- On the small machine the account may have one server. Its first request counts, and no second one
    does. -/
theorem quota_of_small_run :
    let t := (smallStart 1).run (smallSteps smallContest)
    t.Counts "al" 0 ∧ ∀ granted : List Nat, granted.Nodup → (∀ i ∈ granted, t.Counts "al" i) →
      granted.length ≤ 1 := by
  intro t
  have hfirst : (t.hostings[0]?).any (fun asked => Text.sameLetters "al" asked.owner &&
      (!asked.recovering && asked.stage.isPermitted)) = true := by decide +kernel
  have hrun := quota_of_run (smallConfig 1) "/l" smallFiles (by decide) (smallSteps smallContest)
    (by decide +kernel)
  refine ⟨?_, hrun.2.1 "al" 1 fun _ _ => rfl⟩
  obtain ⟨asked, hget, hasked⟩ := (Option.any_eq_true _ _).1 hfirst
  rw [Bool.and_eq_true, Bool.and_eq_true, Bool.not_eq_true'] at hasked
  exact ⟨asked, hget, hasked.1, hasked.2.1, Or.inl hasked.2.2⟩

end Traffic

end HostDaemon
