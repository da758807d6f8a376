import HostDaemon.Proofs.Traffic.Quota
import HostDaemon.Proofs.Traffic.Restarts

/-! # How many servers an owner has

  A request counts before its server is launched for the first time. A server that ends and is
  launched again comes back without being counted.

  - `Traffic.GoesBackTo` follows a server back to the request for which it, or the first server with
    its identifier, was launched.
  - `Traffic.IsAway` says of which servers nobody who counts can know: they are neither launching nor
    registered, and may be launched again.
  - `Traffic.Active` says which requests have a server that is around or away, or hold a place. No
    step makes a request active but the grant of its place.
  - `Traffic.servers_of_run` bounds the servers of an owner that are around. -/

namespace HostDaemon

/-- The request needs a place in the quota of an owner. -/
def Hosting.NeedsPlaceOf (owner : String) (h : Hosting) : Prop :=
  Text.sameLetters owner h.owner = true ∧ h.recovering = false

/-! ### Servers that may be launched again -/

namespace Life

variable {most : UInt32} {l l' : Life}

/-- A server is to be launched again, or will be unless it is killed. -/
def MayReturn (most : UInt32) (l : Life) : Prop :=
  (∃ port, l.watch.phase = .restarting port) ∨
    l.watch.phase ≠ .done ∧ l.standing.autoRestart = true ∧ l.standing.isKilled = false ∧
      l.standing.port ≠ 0 ∧ l.standing.restarts < most

/-- Nobody comes to want another launch, and only a launching server tells its port. -/
theorem Next.wants_before (h : Next most l l') (hok : l.Ok most) :
    (l'.standing.autoRestart = true → l.standing.autoRestart = true) ∧
      (l.isLaunching = true ∨ l'.standing.port = l.standing.port) := by
  have hlaunching : l.watch.phase = .reading → l.standing.isRunning = false →
      l.isLaunching = true :=
    fun hphase hsilent => hok.launching_iff.2 ⟨hphase, Or.inl hsilent⟩
  cases h with
  | tellPort port hphase hsilent => exact ⟨id, Or.inl (hlaunching hphase hsilent)⟩
  | start hphase hsilent => exact ⟨id, Or.inl (hlaunching hphase hsilent)⟩
  | reject hphase hsilent =>
    exact ⟨fun hfalse => (by cases hfalse), Or.inl (hlaunching hphase hsilent)⟩
  | mark => exact ⟨fun hfalse => (by cases hfalse), Or.inr rfl⟩
  | finishStart | oust | evict | endProcess | close | report | remove | giveUp | restart
  | relaunched => exact ⟨id, Or.inr rfl⟩

theorem Path.wants_before (h : Path most l l') (hok : l.Ok most) :
    (l'.standing.autoRestart = true → l.standing.autoRestart = true) ∧
      (l.isLaunching = true ∨ l'.standing.port = l.standing.port) := by
  have hkept := h.keeps (P := fun m => Path most l m ∧
    (m.standing.autoRestart = true → l.standing.autoRestart = true) ∧
    (l.isLaunching = true ∨ m.standing.port = l.standing.port)) ?_ ⟨.refl, id, Or.inr rfl⟩
  · exact hkept.2
  · rintro m m' hnext ⟨hpath, hauto, hport⟩
    obtain ⟨hauto', hport'⟩ := hnext.wants_before (hok.path hpath)
    refine ⟨hpath.tail hnext, fun h => hauto (hauto' h), ?_⟩
    rcases hport' with hlaunching | hsame
    · exact Or.inl ((hpath.fades hok).1 hlaunching)
    · rw [hsame]
      exact hport

end Life

namespace Traffic

variable {t t' : Traffic} {ref : ServerRef} {i j : Nat} {asked : Hosting} {owner : String}
  {l l' : Life}

/-- A server may be launched again: a port is claimed for that, or its supervisor is not done with it
    and will find that it wants to be. -/
def MayReturn (t : Traffic) (ref : ServerRef) : Prop :=
  ∃ s v, t.fleet.server? ref = some s ∧ t.fleet.supervisor? ref = some v ∧
    ((∃ port, v.phase = .restarting port) ∨ v.phase ≠ .done ∧ t.fleet.wantsRestart s = true)

/-- A server that is neither launching nor registered, and may be launched again. -/
def IsAway (t : Traffic) (ref : ServerRef) : Prop := ¬ t.IsAround ref ∧ t.MayReturn ref

theorem mayReturn_iff (hl : t.life? ref = some l) : t.MayReturn ref ↔ l.MayReturn t.most := by
  obtain ⟨s, v, hs, hv, rfl⟩ := life?_eq_some_iff.1 hl
  have hwants : t.fleet.wantsRestart s = true ↔ s.autoRestart = true ∧ s.isKilled = false ∧
      s.port ≠ 0 ∧ s.restarts < t.most := by
    simp only [Fleet.wantsRestart, Bool.and_eq_true, Bool.not_eq_true', decide_eq_true_eq,
      and_assoc]
    rfl
  constructor
  · rintro ⟨s', v', hs', hv', hmay⟩
    rw [hs, Option.some.injEq] at hs'
    rw [hv, Option.some.injEq] at hv'
    subst hs' hv'
    rw [hwants] at hmay
    exact hmay
  · intro hmay
    refine ⟨s, v, hs, hv, ?_⟩
    rw [hwants]
    exact hmay

/-- A server whose next launch is claimed for is neither launching nor registered. -/
theorem Sound.isAway_of_restarting (h : t.Sound) (hl : t.life? ref = some l) {port : UInt16}
    (hphase : l.watch.phase = .restarting port) : t.IsAway ref := by
  have hok := h.ok ref l hl
  refine ⟨?_, (mayReturn_iff hl).2 (Or.inl ⟨port, hphase⟩)⟩
  rintro (hlaunching | hregistered)
  · rw [← isLaunching_of_life? hl, hok.not_launching (by simp [hphase])] at hlaunching
    cases hlaunching
  · have hbefore := (hok.of_key ((isRegistered_iff hl).1 hregistered)).2
    rw [hphase] at hbefore
    cases hbefore

/-- A server that is around has a supervisor that is not done. -/
theorem Sound.supervised_of_around (h : t.Sound) (hl : t.life? ref = some l)
    (haround : t.IsAround ref) : l.watch.phase ≠ .done := by
  intro hdone
  obtain ⟨hunregistered, hnot, -⟩ := h.gone hl hdone
  rcases haround with hlaunching | hregistered
  · rw [hnot] at hlaunching
    cases hlaunching
  · exact hunregistered hregistered

/-- A server that may be launched again was around, or could be launched again before. -/
theorem Sound.mayReturn_before (h : t.Sound) {env : Surroundings} {a : Action}
    (hgoes : Goes (t.scope env a) t (t.step env a)) (hl : t.life? ref = some l)
    (hmay : (t.step env a).MayReturn ref) : t.IsAround ref ∨ t.MayReturn ref := by
  obtain ⟨l', hl', hpath, -⟩ := hgoes.lives ref l hl
  have hok := h.ok ref l hl
  rcases (mayReturn_iff hl').1 hmay with ⟨port, hphase⟩ | ⟨hgoes', hauto, halive, hport, hfew⟩
  · -- Whoever is to be launched again was so before, or wanted to be when that was decided.
    right
    by_contra hnot
    refine hgoes.undecided_step hl hl' ?_ ?_ port hphase
    · intro port' hphase'
      exact hnot ((mayReturn_iff hl).2 (Or.inl ⟨port', hphase'⟩))
    · intro hremoved s hs
      rw [← Bool.not_eq_true]
      intro hwants
      exact hnot ⟨s, l.watch, hs, watch_of_life? hl, Or.inr ⟨by simp [hremoved], hwants⟩⟩
  · obtain ⟨hauto', hport'⟩ := hpath.wants_before hok
    rcases hport' with hlaunching | hsame
    · left
      rw [isLaunching_of_life? hl] at hlaunching
      exact Or.inl hlaunching
    · right
      rw [mayReturn_iff hl]
      refine Or.inr ⟨fun hdone => hgoes' (hpath.done hdone), hauto' hauto, ?_, hsame ▸ hport, ?_⟩
      · by_contra hkilled
        rw [hpath.isKilled (by simpa using hkilled)] at halive
        cases halive
      · rw [hgoes.most_eq, hpath.spec_eq.2] at hfew
        exact hfew

/-! ### Servers and requests -/

/-- The server was launched for a request, or has the identifier of one that was. -/
def GoesBackTo (t : Traffic) (ref : ServerRef) (i : Nat) : Prop :=
  ∃ asked s, t.hostings[i]? = some asked ∧ t.fleet.server? ref = some s ∧ t.Hosts asked s.id

/-- The server of a request goes back to it. -/
theorem Hosted.goesBackTo (h : t.Hosted) (hget : t.hostings[i]? = some asked)
    (hserver : asked.stage.server? = some ref) : t.GoesBackTo ref i := by
  obtain ⟨spec, hspec, howner⟩ := h.hosted asked (List.mem_of_getElem? hget) ref hserver
  have hs := hspec
  rw [Fleet.specs, List.getElem?_map, Option.map_eq_some_iff] at hs
  obtain ⟨s, hs, heq⟩ := hs
  rw [Prod.mk.injEq] at heq
  exact ⟨asked, s, hget, hs, ref, spec, hserver, hspec, howner, heq.1 ▸ rfl⟩

/-- Servers with one identifier go back to one request. -/
theorem Hosted.goesBackTo_unique (h : t.Hosted) {other : ServerRef}
    (hids : (t.fleet.server? other).map Server.id = (t.fleet.server? ref).map Server.id)
    (hback : t.GoesBackTo ref i) (hback' : t.GoesBackTo other j) : i = j := by
  obtain ⟨asked, s, hget, hs, hhosts⟩ := hback
  obtain ⟨asked', s', hget', hs', hhosts'⟩ := hback'
  rw [hs, hs', Option.map_some, Option.map_some, Option.some.injEq] at hids
  rw [hids] at hhosts'
  exact h.apart i j asked asked' s.id hget hget' hhosts hhosts'

/-- Every server goes back to a request. -/
theorem Hosted.exists_goesBackTo (h : t.Hosted) {s : Server} (hs : t.fleet.server? ref = some s) :
    ∃ i, t.GoesBackTo ref i := by
  obtain ⟨asked, hmem, hhosts⟩ :=
    h.served (s.spec, s.restarts) (List.mem_map_of_mem (List.mem_of_getElem? hs))
  obtain ⟨i, hget⟩ := List.getElem?_of_mem hmem
  exact ⟨i, asked, s, hget, hs, hhosts⟩

/-- Servers that go back to one request have one identifier. -/
theorem GoesBackTo.same_id {other : ServerRef} (hback : t.GoesBackTo ref i)
    (hback' : t.GoesBackTo other i) :
    (t.fleet.server? other).map Server.id = (t.fleet.server? ref).map Server.id := by
  obtain ⟨asked, s, hget, hs, r, spec, hr, hspec, -, hid⟩ := hback
  obtain ⟨asked', s', hget', hs', r', spec', hr', hspec', -, hid'⟩ := hback'
  rw [hget, Option.some.injEq] at hget'
  subst hget'
  rw [hr, Option.some.injEq] at hr'
  subst hr'
  rw [hspec, Option.some.injEq, Prod.mk.injEq] at hspec'
  rw [hs, hs', Option.map_some, Option.map_some, ← hid, ← hid', hspec'.1]

/-- Of the servers that go back to one request only one is around. -/
theorem Sound.around_unique (h : t.Sound) {other : ServerRef} (hback : t.GoesBackTo ref i) (hback' : t.GoesBackTo other i) (haround : t.IsAround ref)
    (haround' : t.IsAround other) : ref = other := by
  have hids := hback.same_id hback'
  obtain ⟨-, s, -, hs, -⟩ := hback
  obtain ⟨-, s', -, hs', -⟩ := hback'
  obtain ⟨l, hl, hstanding⟩ := life_of_server? h.crew hs
  obtain ⟨l', hl', hstanding'⟩ := life_of_server? h.crew hs'
  rw [hs, hs', Option.map_some, Option.map_some, Option.some.injEq] at hids
  have hsame : l.standing.id = l'.standing.id := by
    rw [← hstanding, ← hstanding']
    exact hids.symm
  rcases Nat.lt_trichotomy ref other with hlt | heq | hgt
  · exact absurd (h.apart ref other l l' hlt hl hl' hsame) (h.supervised_of_around hl haround)
  · exact heq
  · exact absurd (h.apart other ref l' l hgt hl' hl hsame.symm)
      (h.supervised_of_around hl' haround')

/-- A request that is about to launch was permitted and has no server. -/
theorem permitted_of_mem_drafts {stage : HostingStage} {spec : LaunchSpec}
    (hspec : spec ∈ stage.drafts) : stage.isPermitted = true ∧ stage.server? = none := by
  cases stage with
  | built | claimed => exact ⟨rfl, rfl⟩
  | _ => cases hspec

/-- What becomes of the servers of a request in one step: it is the server of before, or its first, or
    it is launched after the end of one. -/
theorem Sound.goesBackTo_before (h : t.Sound) (hhosted : t.Hosted) {env : Surroundings} {a : Action}
    (hgoes : Goes (t.scope env a) t (t.step env a)) (hback : (t.step env a).GoesBackTo ref j) :
    t.GoesBackTo ref j ∨
    (∃ asked asked', t.hostings[j]? = some asked ∧ asked.stage.isPermitted = true ∧
      (t.step env a).hostings[j]? = some asked' ∧ asked'.stage.server? = some ref) ∨
    ∃ parent l port, t.GoesBackTo parent j ∧ t.life? parent = some l ∧
      l.watch.phase = .restarting port := by
  obtain ⟨asked', s', hget', hs', hhosts'⟩ := hback
  -- A draft has an identifier that no server has.
  have hfresh : ∀ asked ∈ t.hostings, ∀ spec ∈ asked.stage.drafts, ∀ s ∈ t.fleet.servers,
      s.id ≠ spec.credentials.id := fun asked hmem spec hspec =>
    h.drafts_fresh spec (List.mem_flatMap.2 ⟨asked, hmem, hspec⟩)
  by_cases hlt : ref < t.fleet.servers.length
  · left
    obtain ⟨l, hl⟩ := exists_life h.crew hlt
    obtain ⟨l', hl', hpath, -⟩ := hgoes.lives ref l hl
    obtain ⟨s, hs, hid⟩ := id_of_life? hl
    obtain ⟨m, hm, hid'⟩ := id_of_life? hl'
    rw [hs', Option.some.injEq] at hm
    subst hm
    rw [hid', hpath.id_eq, ← hid] at hhosts'
    rcases hhosted.hosts_before hgoes hget' hhosts' with
      ⟨asked, hget, hhosts⟩ | ⟨-, asked, spec, hget, hspec, hdrawn⟩
    · exact ⟨asked, s, hget, hs, hhosts⟩
    · exact absurd hdrawn.symm
        (hfresh asked (List.mem_of_getElem? hget) spec hspec s (List.mem_of_getElem? hs))
  · right
    obtain ⟨l', hl', hstanding⟩ := life_of_server? hgoes.sound.crew hs'
    obtain ⟨hnew, n, v, rfl, hbegets⟩ := hgoes.born_of_new hl' (Nat.le_of_not_lt hlt)
    have hid : s'.id = n.id := congrArg Standing.id hstanding
    cases hbegets with
    | @hosted asked spec v _ hmem hstage =>
      left
      rcases hhosted.hosts_before hgoes hget' hhosts' with
        ⟨asked₀, hget₀, r, spec₀, -, hspec₀, -, hid₀⟩ | ⟨-, asked₀, spec₀, hget₀, hspec₀, -⟩
      · obtain ⟨s, hs, heq⟩ := List.mem_map.1 (List.mem_of_getElem? hspec₀)
        refine absurd ?_ (hfresh asked hmem spec (by simp [hstage, HostingStage.drafts]) s hs)
        exact (congrArg (fun e => e.1.credentials.id) heq).trans (hid₀.trans hid)
      · obtain ⟨hpermitted, hserver⟩ := permitted_of_mem_drafts hspec₀
        obtain ⟨r, -, hr, -⟩ := hhosts'
        refine ⟨asked₀, asked', hget₀, hpermitted, hget', ?_⟩
        rcases hgoes.serves.before hget' with ⟨hfirst, -⟩ | ⟨asked₁, hget₁, -, hmoved⟩
        · rw [(nothing_of_isFirst hfirst).1] at hr
          cases hr
        · rw [hget₀, Option.some.injEq] at hget₁
          subst hget₁
          rcases hmoved with hsame | ⟨-, hadvance⟩
          · rw [hsame, hserver] at hr
            cases hr
          · rcases hadvance.server_cases with ⟨hsame, -⟩ | ⟨spec', port, -, hlaunched, -⟩
            · rw [hsame, hserver] at hr
              cases hr
            · rw [hlaunched, hnew]
              rfl
    | @relaunched parent l v _ hlife hphase =>
      right
      obtain ⟨p, hp, hpid⟩ := id_of_life? hlife
      have hsame : s'.id = p.id := hid.trans hpid.symm
      rw [hsame] at hhosts'
      refine ⟨parent, l, _, ?_, hlife, hphase⟩
      rcases hhosted.hosts_before hgoes hget' hhosts' with
        ⟨asked, hget, hhosts⟩ | ⟨-, asked, spec, hget, hspec, hdrawn⟩
      · exact ⟨asked, p, hget, hp, hhosts⟩
      · exact absurd hdrawn.symm
          (hfresh asked (List.mem_of_getElem? hget) spec hspec p (List.mem_of_getElem? hp))

/-! ### Owners -/

/-- Servers with one identifier have one owner. -/
def OwnedAlike (t : Traffic) : Prop :=
  ∀ e ∈ t.fleet.specs, ∀ e' ∈ t.fleet.specs, e.1.credentials.id = e'.1.credentials.id →
    e.1.owner = e'.1.owner

/-- A server that is launched has an identifier of its own, or the identifier and the owner of the one
    before. -/
theorem Sound.ownedAlike_step (h : t.Sound) {scope : Scope} (hgoes : Goes scope t t')
    (howned : t.OwnedAlike) : t'.OwnedAlike := by
  rcases hgoes.made with hsame | ⟨n, v, hmade, -, hbegets⟩
  · intro e he e' he'
    rw [hsame] at he he'
    exact howned e he e' he'
  · have hnew : ∀ e ∈ t.fleet.specs, e.1.credentials.id = n.spec.credentials.id →
        e.1.owner = n.spec.owner := by
      intro e he hids
      cases hbegets with
      | @hosted asked spec v _ hmem hstage =>
        obtain ⟨s, hs, rfl⟩ := List.mem_map.1 he
        exact absurd hids (h.drafts_fresh spec (mem_drafts hmem hstage) s hs)
      | @relaunched parent l v _ hlife hphase =>
        exact howned e he _ (List.mem_of_getElem? (getElem?_specs hlife)) hids
    intro e he e' he' hids
    rw [hmade, List.mem_append, List.mem_singleton] at he he'
    rcases he with hold | rfl
    · rcases he' with hold' | rfl
      · exact howned e hold e' hold' hids
      · exact hnew e hold hids
    · rcases he' with hold' | rfl
      · exact (hnew e' hold' hids.symm).symm
      · rfl

theorem ownedAlike_run {config : Config} (logDir : Path) (files : FileSystem)
    (hmin : 0 < config.host.minPort) {steps : List (Surroundings × Action)}
    (hdrawn : (drawn steps).Nodup) :
    ((Traffic.start (.start config logDir files)).run steps).OwnedAlike :=
  keeps_run logDir files hmin (fun _ he => by cases he) hdrawn
    fun _ _ _ hsound hgoes howned => hsound.ownedAlike_step hgoes howned

/-- A server belongs to whoever asked for the first one. -/
theorem GoesBackTo.isOf_iff (howned : t.OwnedAlike) (hget : t.hostings[i]? = some asked)
    (hback : t.GoesBackTo ref i) :
    t.fleet.IsOf ref owner ↔ Text.sameLetters owner asked.owner = true := by
  obtain ⟨asked', s, hget', hs, r, spec, -, hspec, howner, hid⟩ := hback
  rw [hget, Option.some.injEq] at hget'
  subst hget'
  have hmine : s.spec.owner = asked.owner :=
    (howned (s.spec, s.restarts) (List.mem_map_of_mem (List.mem_of_getElem? hs)) (spec, 0)
      (List.mem_of_getElem? hspec) hid.symm).trans howner
  have howns : s.isOwnedBy owner = true ↔ Text.sameLetters owner asked.owner = true := by
    rw [Server.isOwnedBy, Server.owner, hmine, Text.sameLetters_iff, Text.sameLetters_iff]
    exact eq_comm
  constructor
  · rintro ⟨s', hs', howner'⟩
    rw [hs, Option.some.injEq] at hs'
    subst hs'
    exact howns.1 howner'
  · exact fun hsame => ⟨s, hs, howns.2 hsame⟩

/-! ### Requests and what has become of them -/

/-- The server goes back to a request that needed a place of the owner. -/
def IsHostedFor (t : Traffic) (ref : ServerRef) (owner : String) : Prop :=
  ∃ i asked, t.hostings[i]? = some asked ∧ asked.NeedsPlaceOf owner ∧ t.GoesBackTo ref i

/-- The request needs a place of the owner, and was granted it and is not answered, or a server that
    goes back to it is around or may be launched again. -/
def Active (t : Traffic) (owner : String) (i : Nat) : Prop :=
  ∃ asked, t.hostings[i]? = some asked ∧ asked.NeedsPlaceOf owner ∧
    (asked.stage.isPermitted = true ∨
      ∃ ref, t.GoesBackTo ref i ∧ (t.IsAround ref ∨ t.MayReturn ref))

theorem Counts.active (h : t.Counts owner i) (hhosted : t.Hosted) : t.Active owner i := by
  obtain ⟨asked, hget, howner, hneeds, hactive⟩ := h
  refine ⟨asked, hget, ⟨howner, hneeds⟩, hactive.imp_right ?_⟩
  rintro ⟨ref, hserver, haround⟩
  exact ⟨ref, hhosted.goesBackTo hget hserver, Or.inl haround⟩

/-- A request needs a place at all times or never. -/
theorem Later.needsPlaceOf (h : Later t t') {asked' : Hosting} (hget : t.hostings[i]? = some asked)
    (hget' : t'.hostings[i]? = some asked') (hneeds : asked'.NeedsPlaceOf owner) :
    asked.NeedsPlaceOf owner := by
  obtain ⟨stage, hlater, -⟩ := h.requests i asked hget
  rw [hget', Option.some.injEq] at hlater
  subst hlater
  exact hneeds

/-- A request that is active after a step was active before, but for one that is granted a place. -/
theorem Sound.active_before (h : t.Sound) (hhosted : t.Hosted) {env : Surroundings} {a : Action}
    (hgoes : Goes (t.scope env a) t (t.step env a)) (hactive : (t.step env a).Active owner j) :
    t.Active owner j ∨ a = .hosting j ∧
      ∃ asked n, t.hostings[j]? = some asked ∧ asked.stage = .countedLaunching n ∧
        Text.sameLetters owner asked.owner = true ∧
        n + t.fleet.registeredOf asked.owner < (t.fleet.store.quota asked.owner).toNat := by
  obtain ⟨asked', hget', hneeds, hpermitted | ⟨ref, hback, hrun⟩⟩ := hactive
  · rcases h.counts_before hhosted hgoes ⟨asked', hget', hneeds.1, hneeds.2, Or.inl hpermitted⟩ with
      hold | ⟨ha, -, hgrant⟩
    · exact Or.inl (hold.active hhosted)
    · exact Or.inr ⟨ha, hgrant⟩
  · left
    have hlater := Later.of_goes hgoes
    rcases h.goesBackTo_before hhosted hgoes hback with
      hold | ⟨asked, -, hget, hpermitted, -⟩ | ⟨parent, l, port, hparent, hlife, hphase⟩
    · obtain ⟨asked, s, hget, hs, -⟩ := id hold
      obtain ⟨l, hl, -⟩ := life_of_server? h.crew hs
      refine ⟨asked, hget, hlater.needsPlaceOf hget hget' hneeds, Or.inr ⟨ref, hold, ?_⟩⟩
      rcases hrun with haround | hmay
      · exact Or.inl (hlater.around_before h hl haround)
      · exact h.mayReturn_before hgoes hl hmay
    · exact ⟨asked, hget, hlater.needsPlaceOf hget hget' hneeds, Or.inl hpermitted⟩
    · obtain ⟨asked, s, hget, -⟩ := id hparent
      refine ⟨asked, hget, hlater.needsPlaceOf hget hget' hneeds, Or.inr ⟨parent, hparent, ?_⟩⟩
      exact Or.inr (h.isAway_of_restarting hlife hphase).2

/-! ### While a request counts -/

/-- At no moment of a run at which a request of the owner is past the gate a server is away that goes
    back to a request that needed a place of the owner. -/
def NeverAwayWhileCounting (s : Traffic) (steps : List (Surroundings × Action)) (owner : String) :
    Prop :=
  ∀ before after, steps = before ++ after → ∀ asked ∈ (s.run before).hostings,
    Text.sameLetters owner asked.owner = true → asked.stage.isCounting = true →
    ∀ ref, (s.run before).IsHostedFor ref owner → ¬ (s.run before).IsAway ref

theorem NeverAwayWhileCounting.before {s : Traffic} {before after : List (Surroundings × Action)}
    (h : s.NeverAwayWhileCounting (before ++ after) owner) :
    s.NeverAwayWhileCounting before owner := by
  intro first rest hsplit
  refine h first (rest ++ after) ?_
  rw [hsplit, List.append_assoc]

/-- Nobody who has left the gate comes back to it. -/
theorem Advance.not_waiting {stage : HostingStage} {gate : Option Nat} {f : Fleet}
    (h : Advance t i asked stage gate f) (hbefore : asked.stage ≠ .waiting) : stage ≠ .waiting := by
  intro hwaiting
  cases h with
  | stay => exact hbefore hwaiting
  | work _ hafter =>
    rw [hwaiting] at hafter
    cases hafter
  | enter | count | grant | refuse | launch | finish => cases hwaiting

/-- The server of a request is its server after any step. -/
theorem Serves.server_kept {a : Action} (h : Serves a t t') (hmem : asked ∈ t.hostings)
    (hserver : asked.stage.server? = some ref) :
    ∃ asked' ∈ t'.hostings, asked'.stage.server? = some ref := by
  obtain ⟨j, hget⟩ := List.getElem?_of_mem hmem
  obtain ⟨stage, hafter, hmoved⟩ := h.after hget
  refine ⟨_, List.mem_of_getElem? hafter, ?_⟩
  rcases hmoved with rfl | ⟨-, hadvance⟩
  · exact hserver
  · rcases hadvance.server_cases with ⟨hsame, -⟩ | ⟨spec, port, hstage, -⟩
    · exact hsame.trans hserver
    · rw [hstage] at hserver
      cases hserver

/-- Since some moment a request has not come back to the gate, and as long as it counts every server
    that is new since then is the first of its request. -/
def FirstsSince (t₀ t : Traffic) (asked : Hosting) (i : Nat) (owner : String) : Prop :=
  ∃ stage, t.hostings[i]? = some { asked with stage := stage } ∧ stage ≠ .waiting ∧
    (stage.isCounting = true → ∀ ref, t.IsHostedFor ref owner →
      ref < t₀.fleet.servers.length ∨ ∃ asked ∈ t.hostings, asked.stage.server? = some ref)

/-- Where nobody is away a server that comes is the first of its request. -/
theorem Sound.firstsSince_step (h : t.Sound) (hhosted : t.Hosted) {env : Surroundings} {a : Action}
    (hgoes : Goes (t.scope env a) t (t.step env a)) {t₀ : Traffic}
    (hnever : ∀ stage, t.hostings[i]? = some { asked with stage := stage } →
      stage.isCounting = true → ∀ ref, t.IsHostedFor ref owner → ¬ t.IsAway ref)
    (hsince : FirstsSince t₀ t asked i owner) : FirstsSince t₀ (t.step env a) asked i owner := by
  obtain ⟨stage, hget, hleft, hfirsts⟩ := hsince
  obtain ⟨stage', hget', hmoved⟩ := hgoes.serves.after hget
  refine ⟨stage', hget', ?_, ?_⟩
  · rcases hmoved with rfl | ⟨-, hadvance⟩
    · exact hleft
    · exact hadvance.not_waiting hleft
  · intro hcounting' ref hserver
    -- It counted before as well, since it has not come to the gate anew.
    have hcounting : stage.isCounting = true := by
      rcases hmoved with rfl | ⟨-, hadvance⟩
      · exact hcounting'
      · exact (hadvance.at_gate (Or.inr hcounting')).resolve_left hleft
    obtain ⟨j, asked', hasked', hneeds, hback⟩ := hserver
    have hlater := Later.of_goes hgoes
    rcases h.goesBackTo_before hhosted hgoes hback with
      hold | ⟨-, asked'', -, -, hget'', hfirst⟩ | ⟨parent, l, port, hparent, hlife, hphase⟩
    · obtain ⟨old, s, hgetold, -⟩ := id hold
      have hmine : t.IsHostedFor ref owner :=
        ⟨j, old, hgetold, hlater.needsPlaceOf hgetold hasked' hneeds, hold⟩
      refine (hfirsts hcounting ref hmine).imp_right ?_
      rintro ⟨other, hmem, hother⟩
      exact hgoes.serves.server_kept hmem hother
    · exact Or.inr ⟨asked'', List.mem_of_getElem? hget'', hfirst⟩
    · -- A server that is to be launched again is away.
      obtain ⟨old, s, hgetold, -⟩ := id hparent
      have hmine : t.IsHostedFor parent owner :=
        ⟨j, old, hgetold, hlater.needsPlaceOf hgetold hasked' hneeds, hparent⟩
      exact absurd (h.isAway_of_restarting hlife hphase) (hnever stage hget hcounting parent hmine)

/-- A server that is an owner's was the owner's as soon as it was there. -/
theorem Later.isOf_before (h : Later t t') (hcrew : t.fleet.Crew)
    (hlt : ref < t.fleet.servers.length) (hof : t'.fleet.IsOf ref owner) :
    t.fleet.IsOf ref owner := by
  obtain ⟨s', hs', howner⟩ := hof
  obtain ⟨l, hl⟩ := exists_life hcrew hlt
  obtain ⟨s, hs, hstanding⟩ := standing_of_life? hl
  obtain ⟨l', hl', hpath⟩ := h.lives ref l hl
  obtain ⟨m, hm, hstanding'⟩ := standing_of_life? hl'
  rw [hs', Option.some.injEq] at hm
  subst hm
  have hspec : s.spec = s'.spec :=
    (congrArg Standing.spec hstanding).trans
      (hpath.spec_eq.1.symm.trans (congrArg Standing.spec hstanding').symm)
  refine ⟨s, hs, ?_⟩
  rw [Server.isOwnedBy, Server.owner, hspec]
  exact howner

/-- Where everybody in a list has somebody, and no two have the same, those are as many. -/
theorem exists_nodup_of_forall {α β : Type} [Nonempty β] {R : α → β → Prop} {l : List α}
    (hnodup : l.Nodup) (hex : ∀ a ∈ l, ∃ b, R a b)
    (hinj : ∀ a ∈ l, ∀ a' ∈ l, ∀ b, R a b → R a' b → a = a') :
    ∃ l' : List β, l'.length = l.length ∧ l'.Nodup ∧ ∀ b ∈ l', ∃ a ∈ l, R a b := by
  choose! f hf using hex
  refine ⟨l.map f, List.length_map _, ?_, ?_⟩
  · refine hnodup.map_on ?_
    intro a ha a' ha' hsame
    exact hinj a ha a' ha' (f a) (hf a ha) (hsame ▸ hf a' ha')
  · intro b hb
    obtain ⟨a, ha, rfl⟩ := List.mem_map.1 hb
    exact ⟨a, ha, hf a ha⟩

/-- Where nobody is away, and every server that is new since the count of the launching ones is the
    first of its request, what is found by counting bounds the active requests. -/
theorem Hosted.active_lt (hhosted : t.Hosted) (howned : t.OwnedAlike) {t₀ : Traffic}
    (hlater : Later t₀ t) (hcrew : t₀.fleet.Crew)
    (hnever : ∀ ref, t.IsHostedFor ref owner → ¬ t.IsAway ref)
    (hfirsts : ∀ ref, t.IsHostedFor ref owner →
      ref < t₀.fleet.servers.length ∨ ∃ asked ∈ t.hostings, asked.stage.server? = some ref)
    {q : Nat} (hroom : ∀ (requests : List Nat) (servers : List ServerRef), requests.Nodup →
      servers.Nodup → (∀ j ∈ requests, t.Counts owner j) →
      (∀ ref ∈ servers, t₀.fleet.IsOf ref owner ∧ t.IsAround ref) →
      (∀ j ∈ requests, ∀ other, t.hostings[j]? = some other →
        ∀ ref ∈ servers, other.stage.server? ≠ some ref) →
      requests.length + servers.length < q)
    {others : List Nat} (hothers : others.Nodup) (hactive : ∀ j ∈ others, t.Active owner j) :
    others.length < q := by
  classical
  -- A request that does not count by itself is counted with a server that was there before.
  have hserver : ∀ j ∈ others.filter (fun j => !decide (t.Counts owner j)),
      ∃ ref, t.GoesBackTo ref j ∧ t.IsAround ref ∧ t₀.fleet.IsOf ref owner := by
    intro j hj
    obtain ⟨hmem, hnot⟩ := List.mem_filter.1 hj
    rw [Bool.not_eq_true', decide_eq_false_iff_not] at hnot
    obtain ⟨asked, hget, hneeds, hpermitted | ⟨ref, hback, hrun⟩⟩ := hactive j hmem
    · exact absurd ⟨asked, hget, hneeds.1, hneeds.2, Or.inl hpermitted⟩ hnot
    · have hmine : t.IsHostedFor ref owner := ⟨j, asked, hget, hneeds, hback⟩
      have haround : t.IsAround ref := by
        by_contra hgone
        exact hnever ref hmine ⟨hgone, hrun.resolve_left hgone⟩
      have hold : ref < t₀.fleet.servers.length := by
        refine (hfirsts ref hmine).resolve_right ?_
        rintro ⟨first, hfirst, hserver⟩
        obtain ⟨j', hget'⟩ := List.getElem?_of_mem hfirst
        obtain rfl := hhosted.goesBackTo_unique rfl (hhosted.goesBackTo hget' hserver) hback
        rw [hget, Option.some.injEq] at hget'
        subst hget'
        exact hnot ⟨asked, hget, hneeds.1, hneeds.2, Or.inr ⟨ref, hserver, haround⟩⟩
      have hof := (hback.isOf_iff howned hget).2 hneeds.1
      exact ⟨ref, hback, haround, hlater.isOf_before hcrew hold hof⟩
  obtain ⟨servers, hlength, hservers, hback⟩ := exists_nodup_of_forall
    (hothers.filter fun j => !decide (t.Counts owner j)) hserver
    fun j _ j' _ ref hj hj' => hhosted.goesBackTo_unique rfl hj.1 hj'.1
  have hfew := hroom (others.filter fun j => decide (t.Counts owner j)) servers (hothers.filter _)
    hservers ?_ ?_ ?_
  · have hsplit := List.length_eq_length_filter_add (l := others) fun j => decide (t.Counts owner j)
    omega
  · intro j hj
    exact of_decide_eq_true (List.mem_filter.1 hj).2
  · intro ref href
    obtain ⟨j, -, -, haround, hof⟩ := hback ref href
    exact ⟨hof, haround⟩
  · intro j hj asked hget ref href hserver
    obtain ⟨j', hj', hmine, -⟩ := hback ref href
    obtain rfl := hhosted.goesBackTo_unique rfl (hhosted.goesBackTo hget hserver) hmine
    have hcounts := (List.mem_filter.1 hj).2
    have hnot := (List.mem_filter.1 hj').2
    rw [hcounts] at hnot
    cases hnot

section

variable {config : Config} (logDir : Path) (files : FileSystem) (hmin : 0 < config.host.minPort)

include hmin

/-- Where nobody is away while a request counts, every server that comes in the meantime is the first of
    its request. -/
theorem firstsSince_run {counted since : List (Surroundings × Action)}
    (hdrawn : (drawn (counted ++ since)).Nodup)
    (hget : ((Traffic.start (.start config logDir files)).run counted).hostings[i]? = some asked)
    (hcounting : asked.stage.isCounting = true)
    (howner : Text.sameLetters owner asked.owner = true)
    (hnever : (Traffic.start (.start config logDir files)).NeverAwayWhileCounting (counted ++ since)
      owner) :
    FirstsSince ((Traffic.start (.start config logDir files)).run counted)
      ((Traffic.start (.start config logDir files)).run (counted ++ since)) asked i owner := by
  induction since using List.reverseRecOn with
  | nil =>
    rw [List.append_nil]
    refine ⟨asked.stage, hget, ?_, ?_⟩
    · intro hwaiting
      rw [hwaiting] at hcounting
      cases hcounting
    · rintro - ref ⟨j, asked', -, -, asked'', s, -, hs, -⟩
      exact Or.inl (List.getElem?_eq_some_iff.1 hs).1
  | append_singleton since last ih =>
    obtain ⟨env, a⟩ := last
    rw [← List.append_assoc] at hdrawn hnever ⊢
    have hbefore := nodup_drawn_left hdrawn
    rw [run_append]
    refine (sound_run logDir files hmin hbefore).firstsSince_step
      (hosted_run logDir files hmin hbefore) (goes_run logDir files hmin hdrawn) ?_
      (ih hbefore hnever.before)
    intro stage hstage hcounting' ref
    exact hnever (counted ++ since) [(env, a)] rfl _ (List.mem_of_getElem? hstage) howner hcounting' ref

/-- Where nobody is away while a request counts there are never more active requests of an owner than
    the quota allows, under whatever spellings the owner asks for places. -/
theorem active_le_of_quota_le {q : UInt32} {steps : List (Surroundings × Action)}
    (hdrawn : (drawn steps).Nodup)
    (hquota : ∀ asked ∈ ((Traffic.start (.start config logDir files)).run steps).hostings,
      Text.sameLetters owner asked.owner = true → asked.recovering = false →
      (Store.ofPolicy config.policy config.host.defaultQuota).quota asked.owner ≤ q)
    (hnever : (Traffic.start (.start config logDir files)).NeverAwayWhileCounting steps owner)
    {granted : List Nat} (hgranted : granted.Nodup)
    (hactive : ∀ i ∈ granted,
      ((Traffic.start (.start config logDir files)).run steps).Active owner i) :
    granted.length ≤ q.toNat := by
  refine length_le_of_grants (P := fun t i => t.Active owner i) ?_ ?_ hgranted hactive
  · rintro i ⟨asked, hget, -⟩
    cases hget
  · rintro before env a after rfl i hcount
    have hbefore := nodup_drawn_left hdrawn
    have hsound := sound_run logDir files hmin hbefore
    have hhosted := hosted_run logDir files hmin hbefore
    rcases hsound.active_before hhosted (goes_run logDir files hmin (nodup_drawn_snoc hdrawn))
      hcount with hold | ⟨ha, asked, n, hget, hstage, howner, hroom⟩
    · exact Or.inl hold
    · refine Or.inr ⟨ha, ?_⟩
      intro others hothers hhave
      obtain ⟨counted, since, m, hsplit, hcounted, hlength⟩ :=
        exists_room logDir files hmin hdrawn hquota hget hstage howner hroom
      subst hsplit
      have hcounting : asked.stage.isCounting = true := by rw [hstage]; rfl
      -- The request counts from then on, so that nobody is away now, and nobody came back since.
      have hnow : ∀ ref, _ → ¬ _ :=
        hnever (counted ++ since) _ rfl asked (List.mem_of_getElem? hget) howner hcounting
      obtain ⟨stage, hget', -, hfirsts⟩ := firstsSince_run logDir files hmin hbefore hcounted rfl
        howner hnever.before
      rw [hget, Option.some.injEq] at hget'
      have hstage' : stage = asked.stage := by rw [hget']
      exact hhosted.active_lt (ownedAlike_run logDir files hmin hbefore)
        (later_run logDir files hmin hbefore)
        (sound_run logDir files hmin (nodup_drawn_left hbefore)).crew hnow
        (hfirsts (hstage' ▸ hcounting)) hlength hothers hhave

/-- The servers that were launched for requests of an owner, and not again since, are never more than
    the quota. -/
theorem first_servers_le {q : UInt32} {steps : List (Surroundings × Action)}
    (hdrawn : (drawn steps).Nodup) :
    let t := (Traffic.start (.start config logDir files)).run steps
    (∀ asked ∈ t.hostings, asked.NeedsPlaceOf owner → t.fleet.store.quota asked.owner ≤ q) →
    ∀ servers : List ServerRef, servers.Nodup →
      (∀ ref ∈ servers, t.IsAround ref ∧
        ∃ asked ∈ t.hostings, asked.NeedsPlaceOf owner ∧ asked.stage.server? = some ref) →
      servers.length ≤ q.toNat := by
  intro t hquota servers hservers hmine
  have hfew : ∀ asked ∈ t.hostings, Text.sameLetters owner asked.owner = true →
      asked.recovering = false →
      (Store.ofPolicy config.policy config.host.defaultQuota).quota asked.owner ≤ q := by
    intro asked hmem howner hneeds
    rw [← quota_run logDir files hmin hdrawn]
    exact hquota asked hmem ⟨howner, hneeds⟩
  have hask : ∀ ref ∈ servers, ∃ i, t.Counts owner i ∧
      ∃ asked, t.hostings[i]? = some asked ∧ asked.stage.server? = some ref := by
    intro ref href
    obtain ⟨haround, asked, hmem, hneeds, hserver⟩ := hmine ref href
    obtain ⟨i, hget⟩ := List.getElem?_of_mem hmem
    exact ⟨i, ⟨asked, hget, hneeds.1, hneeds.2, Or.inr ⟨ref, hserver, haround⟩⟩, asked, hget,
      hserver⟩
  obtain ⟨requests, hlength, hrequests, hcounts⟩ := exists_nodup_of_forall hservers hask (by
    rintro ref - ref' - i ⟨-, asked, hget, hserver⟩ ⟨-, asked', hget', hserver'⟩
    rw [hget, Option.some.injEq] at hget'
    subst hget'
    rw [hserver, Option.some.injEq] at hserver'
    exact hserver')
  rw [← hlength]
  refine counts_le_of_quota_le logDir files hmin hdrawn hfew hrequests ?_
  intro i hi
  obtain ⟨ref, -, hcounts, -⟩ := hcounts i hi
  exact hcounts

/-- Where nobody is away while a request counts, the same holds of all servers that go back to such
    requests. -/
theorem hosted_servers_le {q : UInt32} {steps : List (Surroundings × Action)}
    (hdrawn : (drawn steps).Nodup)
    (hnever : (Traffic.start (.start config logDir files)).NeverAwayWhileCounting steps owner) :
    let t := (Traffic.start (.start config logDir files)).run steps
    (∀ asked ∈ t.hostings, asked.NeedsPlaceOf owner → t.fleet.store.quota asked.owner ≤ q) →
    ∀ servers : List ServerRef, servers.Nodup →
      (∀ ref ∈ servers, t.IsAround ref ∧ t.IsHostedFor ref owner) → servers.length ≤ q.toNat := by
  intro t hquota servers hservers hmine
  have hsound : t.Sound := sound_run logDir files hmin hdrawn
  have hfew : ∀ asked ∈ t.hostings, Text.sameLetters owner asked.owner = true →
      asked.recovering = false →
      (Store.ofPolicy config.policy config.host.defaultQuota).quota asked.owner ≤ q := by
    intro asked hmem howner hneeds
    rw [← quota_run logDir files hmin hdrawn]
    exact hquota asked hmem ⟨howner, hneeds⟩
  have hask : ∀ ref ∈ servers, ∃ i, t.GoesBackTo ref i ∧ t.IsAround ref ∧ t.Active owner i := by
    intro ref href
    obtain ⟨haround, i, asked, hget, hneeds, hback⟩ := hmine ref href
    exact ⟨i, hback, haround, asked, hget, hneeds, Or.inr ⟨ref, hback, Or.inl haround⟩⟩
  -- Of the servers that go back to one request only one is around.
  obtain ⟨requests, hlength, hrequests, hactive⟩ := exists_nodup_of_forall hservers hask
    fun ref _ ref' _ i h h' => hsound.around_unique h.1 h'.1 h.2.1 h'.2.1
  rw [← hlength]
  refine active_le_of_quota_le logDir files hmin hdrawn hfew hnever hrequests ?_
  intro i hi
  obtain ⟨ref, -, -, -, hactive⟩ := hactive i hi
  exact hactive

end

/-- Every server of an owner goes back to one of the owner's requests. -/
theorem Hosted.request_of_isOf (h : t.Hosted) (howned : t.OwnedAlike)
    (hof : t.fleet.IsOf ref owner) : ∃ i asked, t.hostings[i]? = some asked ∧
      Text.sameLetters owner asked.owner = true ∧ ∀ j, t.GoesBackTo ref j ↔ j = i := by
  obtain ⟨s, hs, -⟩ := id hof
  obtain ⟨i, hback⟩ := h.exists_goesBackTo hs
  obtain ⟨asked, -, hget, -⟩ := id hback
  refine ⟨i, asked, hget, (hback.isOf_iff howned hget).1 hof, fun j => ?_⟩
  constructor
  · exact fun hback' => h.goesBackTo_unique rfl hback' hback
  · rintro rfl
    exact hback

/-! ### The result -/

/-- The servers of an owner in every run in which no identifier is drawn twice, where `q` is no less than
    the quota of any spelling under which the owner asks for a place.

    - Every server goes back to one request of its owner.
    - The servers that were launched for requests that needed a place, and not again since, are never
      more than `q`.
    - Nor are all servers that go back to such requests, where no request of the owner counts while one
      of them is between its end and its next launch. There, an owner whose requests all need a place
      never has more than `q` servers. -/
theorem servers_of_run (config : Config) (logDir : Path) (files : FileSystem)
    (hmin : 0 < config.host.minPort) (steps : List (Surroundings × Action))
    (hdrawn : (drawn steps).Nodup) :
    let start := Traffic.start (.start config logDir files)
    let t := start.run steps
    ∀ (owner : String) (q : UInt32),
      (∀ asked ∈ t.hostings, asked.NeedsPlaceOf owner → t.fleet.store.quota asked.owner ≤ q) →
      (∀ ref, t.fleet.IsOf ref owner → ∃ i asked, t.hostings[i]? = some asked ∧
        Text.sameLetters owner asked.owner = true ∧ ∀ j, t.GoesBackTo ref j ↔ j = i) ∧
      (∀ servers : List ServerRef, servers.Nodup →
        (∀ ref ∈ servers, t.IsAround ref ∧
          ∃ asked ∈ t.hostings, asked.NeedsPlaceOf owner ∧ asked.stage.server? = some ref) →
        servers.length ≤ q.toNat) ∧
      (start.NeverAwayWhileCounting steps owner →
        (∀ servers : List ServerRef, servers.Nodup →
          (∀ ref ∈ servers, t.IsAround ref ∧ t.IsHostedFor ref owner) → servers.length ≤ q.toNat) ∧
        ((∀ asked ∈ t.hostings, Text.sameLetters owner asked.owner = true →
            asked.recovering = false) →
          ∀ servers : List ServerRef, servers.Nodup →
            (∀ ref ∈ servers, t.IsAround ref ∧ t.fleet.IsOf ref owner) →
            servers.length ≤ q.toNat)) := by
  intro start t owner q hquota
  have hhosted : t.Hosted := hosted_run logDir files hmin hdrawn
  have howned : t.OwnedAlike := ownedAlike_run logDir files hmin hdrawn
  refine ⟨fun ref hof => hhosted.request_of_isOf howned hof,
    first_servers_le logDir files hmin hdrawn hquota, fun hnever => ?_⟩
  have hall := hosted_servers_le logDir files hmin hdrawn hnever hquota
  refine ⟨hall, ?_⟩
  intro hneeds servers hservers hmine
  refine hall servers hservers ?_
  intro ref href
  obtain ⟨haround, hof⟩ := hmine ref href
  obtain ⟨i, asked, hget, howner, hiff⟩ := hhosted.request_of_isOf howned hof
  exact ⟨haround, i, asked, hget, ⟨howner, hneeds asked (List.mem_of_getElem? hget) howner⟩,
    (hiff i).2 rfl⟩

/-- Is everybody whose supervision goes on launching or registered? -/
def allAround (t : Traffic) : Bool :=
  t.fleet.supervisors.all fun v => decide (v.phase = .done) || t.fleet.isLaunching v.server ||
    t.fleet.registry.servers.contains v.server

/-- Is everybody around wherever a request counts in a run? -/
def allAroundWhileCounting : Traffic → List (Surroundings × Action) → Bool
  | t, [] => !t.hostings.any (·.stage.isCounting) || t.allAround
  | t, (env, a) :: steps =>
    (!t.hostings.any (·.stage.isCounting) || t.allAround) &&
      allAroundWhileCounting (t.step env a) steps

theorem not_isAway_of_allAround (h : t.allAround = true) : ¬ t.IsAway ref := by
  rintro ⟨hgone, s, v, -, hv, hmay⟩
  have hmem := List.mem_of_find?_eq_some hv
  have hserver : v.server = ref := by simpa using List.find?_some hv
  have hv := List.all_eq_true.1 h v hmem
  rw [hserver, Bool.or_eq_true, Bool.or_eq_true, decide_eq_true_eq, List.contains_iff_mem] at hv
  rcases hv with (hdone | hlaunching) | hregistered
  · rcases hmay with ⟨port, hphase⟩ | ⟨hgoes, -⟩
    · rw [hdone] at hphase
      cases hphase
    · exact hgoes hdone
  · exact hgone (Or.inl hlaunching)
  · exact hgone (Or.inr (Registry.mem_servers_iff.1 hregistered))

/-- Where everybody is around nobody is away. -/
theorem neverAway_of_allAround {steps : List (Surroundings × Action)}
    (h : allAroundWhileCounting t steps = true) (owner : String) :
    t.NeverAwayWhileCounting steps owner := by
  -- At the first moment already nobody is away, if a request counts.
  have hfirst : ∀ {t : Traffic} {steps : List (Surroundings × Action)},
      allAroundWhileCounting t steps = true → ∀ asked ∈ t.hostings,
      asked.stage.isCounting = true → t.allAround = true := by
    intro t steps h asked hmem hcounting
    have hany : t.hostings.any (·.stage.isCounting) = true :=
      List.any_eq_true.2 ⟨asked, hmem, hcounting⟩
    cases steps with
    | nil => simpa [allAroundWhileCounting, hany] using h
    | cons e rest =>
      rw [allAroundWhileCounting, hany, Bool.and_eq_true] at h
      exact h.1
  intro before
  induction before generalizing t steps with
  | nil =>
    intro after _ asked hmem _ hcounting ref _
    exact not_isAway_of_allAround (hfirst h asked hmem hcounting)
  | cons first before ih =>
    obtain ⟨env, a⟩ := first
    rintro after rfl
    rw [List.cons_append, allAroundWhileCounting, Bool.and_eq_true] at h
    exact ih h.2 after rfl

/-- On the small machine the server of the only account ends, and is launched again before a second
    request counts. -/
def smallReturn : List Action :=
  smallHosting ++ smallEnd 0 ++ List.replicate 3 (.supervise 0) ++
    .request (.host "al" "iwad=doom2" none false) :: List.replicate 3 (.hosting 1)

/-- The account may have one server. It has the one that was launched again, and no second. -/
theorem servers_of_small_run :
    let t := (smallStart 1).run (smallSteps smallReturn)
    t.fleet.launching.map (·.2) = [1] ∧ t.fleet.IsOf 1 "al" ∧
      ∀ servers : List ServerRef, servers.Nodup →
        (∀ ref ∈ servers, t.IsAround ref ∧ t.fleet.IsOf ref "al") → servers.length ≤ 1 := by
  intro t
  obtain ⟨hlaunching, hquota, hmine, hasked, haround⟩ :
      t.fleet.launching.map (·.2) = [1] ∧ t.fleet.store.quota "al" ≤ 1 ∧
      (t.fleet.server? 1).any (·.isOwnedBy "al") = true ∧
      t.hostings.all (fun asked => decide (asked.owner = "al") && !asked.recovering) = true ∧
      (smallStart 1).allAroundWhileCounting (smallSteps smallReturn) = true := by decide +kernel
  have hneeds : ∀ asked ∈ t.hostings, asked.owner = "al" ∧ asked.recovering = false := by
    intro asked hmem
    have hasked := List.all_eq_true.1 hasked asked hmem
    rw [Bool.and_eq_true, decide_eq_true_eq, Bool.not_eq_true'] at hasked
    exact hasked
  have hrun := servers_of_run (smallConfig 1) "/l" smallFiles (by decide) (smallSteps smallReturn)
    (by decide +kernel) "al" 1 fun asked hmem _ => (hneeds asked hmem).1 ▸ hquota
  refine ⟨hlaunching, (Option.any_eq_true _ _).1 hmine, ?_⟩
  exact (hrun.2.2 (neverAway_of_allAround haround "al")).2 fun asked hmem _ => (hneeds asked hmem).2

/-- Without these conditions the account comes to have two servers where it may have one: a request for
    a server that is being recovered does not count, and one that counts while the first server is
    between its end and its next launch does not find that server. -/
theorem more_servers_than_quota :
    let recovered := List.replicate 2 (.request (.host "al" "iwad=doom2" none true)) ++
      List.replicate 5 (.hosting 0) ++ List.replicate 5 (.hosting 1)
    let returned := smallHosting ++ smallEnd 0 ++ List.replicate 2 (.supervise 0) ++
      .request (.host "al" "iwad=doom2" none false) :: List.replicate 8 (.hosting 1) ++
      [.supervise 0]
    ∀ actions ∈ [recovered, returned],
      let t := (smallStart 1).run (smallSteps actions)
      t.fleet.store.level "al" = .registered ∧ t.fleet.store.quota "al" = 1 ∧
        t.fleet.launchingOf "al" = 2 := by
  decide +kernel

end Traffic

end HostDaemon
