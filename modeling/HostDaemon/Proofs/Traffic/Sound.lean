import HostDaemon.Fleet.Traffic
import HostDaemon.Proofs.Fleet.Launches

/-! # What holds while everything goes on

  - `Traffic.Sound` is the invariant: the tables of the fleet belong together, every server is
    where it can be in its life, and of several launches with one identifier only the last can
    still go on.
  - `Traffic.Follows` says that nothing but steps of lives lie between two moments.
    `Traffic.Begets` says whose launch it is where a server is made.
  - `Traffic.Sound.follows` and `Traffic.Sound.bears` keep the invariant. -/

namespace HostDaemon

/-! ### Steps of a life that cannot be undone -/

namespace Life

variable {most : UInt32} {l l' : Life}

/-- A server is launched as it was all its life. -/
theorem Next.spec_eq (h : Next most l l') :
    l'.standing.spec = l.standing.spec ∧ l'.standing.restarts = l.standing.restarts := by
  cases h <;> exact ⟨rfl, rfl⟩

/-- A server that was killed stays killed. -/
theorem Next.isKilled (h : Next most l l') (hkilled : l.standing.isKilled = true) :
    l'.standing.isKilled = true := by
  cases h <;> first | exact hkilled | rfl

/-- A supervisor that has nothing left to do stays so. -/
theorem Next.done (h : Next most l l') (hdone : l.watch.phase = .done) :
    l'.watch.phase = .done := by
  cases h with
  | tellPort | finishStart | start | reject | mark | oust | evict | endProcess => exact hdone
  | close hphase | report hphase | remove hphase | giveUp hphase | restart hphase
  | relaunched hphase =>
    rw [hdone] at hphase
    cases hphase

/-- Several things that happen to a server one after the other. -/
abbrev Path (most : UInt32) : Life → Life → Prop := Relation.ReflTransGen (Next most)

/-- What one step keeps, all steps keep. -/
theorem Path.keeps {P : Life → Prop} (hstep : ∀ l l', Next most l l' → P l → P l')
    (h : Path most l l') (hl : P l) : P l' := by
  induction h with
  | refl => exact hl
  | tail _ hnext ih => exact hstep _ _ hnext ih

theorem Path.spec_eq (h : Path most l l') :
    l'.standing.spec = l.standing.spec ∧ l'.standing.restarts = l.standing.restarts := by
  refine h.keeps (P := fun m => m.standing.spec = l.standing.spec ∧
    m.standing.restarts = l.standing.restarts) ?_ ⟨rfl, rfl⟩
  intro m m' hnext hm
  exact ⟨hnext.spec_eq.1.trans hm.1, hnext.spec_eq.2.trans hm.2⟩

theorem Path.id_eq (h : Path most l l') : l'.standing.id = l.standing.id :=
  congrArg (·.credentials.id) h.spec_eq.1

theorem Path.isKilled (h : Path most l l') (hkilled : l.standing.isKilled = true) :
    l'.standing.isKilled = true :=
  h.keeps (P := fun m => m.standing.isKilled = true) (fun _ _ hnext => hnext.isKilled) hkilled

theorem Path.done (h : Path most l l') (hdone : l.watch.phase = .done) :
    l'.watch.phase = .done :=
  h.keeps (P := fun m => m.watch.phase = .done) (fun _ _ hnext => hnext.done) hdone

theorem Ok.path (h : l.Ok most) (hpath : Path most l l') : l'.Ok most :=
  hpath.keeps (P := Ok most) (fun _ _ hnext hok => hok.next hnext) h

/-- Where every life with an identifier is done or comes to be done, it is done afterwards. -/
theorem done_of_moveAt {lives : ServerRef → Option Life} {move : Life → Life} {ref i : ServerRef}
    {id : String}
    (hpath : ∀ l, lives ref = some l → Path most l (move l))
    (hlast : ∀ i l, lives i = some l → l.standing.id = id →
      l.watch.phase = .done ∨ i = ref ∧ (move l).watch.phase = .done)
    (hl' : moveAt ref move lives i = some l') (hid : l'.standing.id = id) :
    l'.watch.phase = .done := by
  by_cases href : i = ref
  · subst href
    rw [moveAt, if_pos rfl] at hl'
    obtain ⟨l, hl, rfl⟩ := Option.map_eq_some_iff.1 hl'
    have hmoved := hpath l hl
    rw [hmoved.id_eq] at hid
    rcases hlast i l hl hid with hdone | ⟨-, hdone⟩
    · exact hmoved.done hdone
    · exact hdone
  · rw [moveAt, if_neg href] at hl'
    exact (hlast i l' hl' hid).resolve_right fun hmoved => href hmoved.1

end Life

/-! ### Hosting requests in progress -/

/-- What a hosting request is about to launch. -/
def HostingStage.drafts : HostingStage → List LaunchSpec
  | .built spec | .claimed spec _ => [spec]
  | _ => []

/-- The port that is claimed for a hosting request. -/
def HostingStage.claims : HostingStage → List UInt16
  | .claimed _ port => [port]
  | _ => []

namespace Traffic

/-- Everything that hosting requests are about to launch. -/
def drafts (t : Traffic) : List LaunchSpec := t.hostings.flatMap (·.stage.drafts)

/-- The ports that are claimed for hosting requests. -/
def claims (t : Traffic) : List UInt16 := t.hostings.flatMap (·.stage.claims)

/-- Does anybody make the process of a server end without killing it on purpose? -/
def isOusted (t : Traffic) (ref : ServerRef) : Bool :=
  t.kills.any fun k => decide (k.server = ref) && k.byOwner.isNone

/-- The life of a server. -/
def life? (t : Traffic) (ref : ServerRef) : Option Life :=
  t.fleet.life? (t.starting.contains ref) (t.isOusted ref) ref

/-- How often a server is launched again. -/
def most (t : Traffic) : UInt32 := t.fleet.config.host.maxRestarts

/-- A request for which a port is claimed is about to launch. -/
theorem mem_drafts {t : Traffic} {asked : Hosting} {spec : LaunchSpec} {port : UInt16}
    (hmem : asked ∈ t.hostings) (hstage : asked.stage = .claimed spec port) : spec ∈ t.drafts := by
  refine List.mem_flatMap.2 ⟨asked, hmem, ?_⟩
  rw [hstage]
  exact List.mem_singleton_self spec

/-- What holds at every moment. -/
structure Sound (t : Traffic) : Prop where
  /-- The tables of the fleet belong together. -/
  crew : t.fleet.Crew
  /-- Every claimed port is claimed for a launch or for a hosting request. -/
  accounts : t.fleet.Accounts t.claims
  /-- Every server is where it can be in its life. -/
  ok : ∀ ref l, t.life? ref = some l → l.Ok t.most
  /-- Of several launches with one identifier only the last can still go on. -/
  apart : ∀ i j l l', i < j → t.life? i = some l → t.life? j = some l' →
    l.standing.id = l'.standing.id → l.watch.phase = .done
  /-- Only servers that were made start. -/
  starting_lt : ∀ ref ∈ t.starting, ref < t.fleet.servers.length
  /-- Only servers that were made are killed. -/
  kills_lt : ∀ k ∈ t.kills, k.server < t.fleet.servers.length
  /-- A kill on purpose is noted on the server first. -/
  kills_marked : ∀ k ∈ t.kills, k.stage ≠ .begun → k.byOwner.isSome = true →
    ∀ l, t.life? k.server = some l → l.standing.isKilled = true
  /-- What is about to be launched has an identifier that no server has. -/
  drafts_fresh : ∀ spec ∈ t.drafts, ∀ s ∈ t.fleet.servers, s.id ≠ spec.credentials.id
  /-- No two requests are about to launch with one identifier. -/
  drafts_nodup : (t.drafts.map (·.credentials.id)).Nodup

variable {t t' t'' : Traffic} {ref : ServerRef} {l l' : Life} {scope : Scope}

/-! ### Lives -/

theorem life?_eq_some_iff :
    t.life? ref = some l ↔
      ∃ s v, t.fleet.server? ref = some s ∧ t.fleet.supervisor? ref = some v ∧
        l = ⟨s.standing, v, t.fleet.isLaunching ref, t.fleet.registry.keysOf ref,
          t.starting.contains ref, t.isOusted ref⟩ :=
  Fleet.life?_eq_some_iff

theorem isStarting_of_life? (h : t.life? ref = some l) : l.isStarting = t.starting.contains ref := by
  obtain ⟨s, v, -, -, rfl⟩ := life?_eq_some_iff.1 h
  rfl

theorem isOusted_of_life? (h : t.life? ref = some l) : l.isOusted = t.isOusted ref := by
  obtain ⟨s, v, -, -, rfl⟩ := life?_eq_some_iff.1 h
  rfl

theorem watch_of_life? (h : t.life? ref = some l) : t.fleet.supervisor? ref = some l.watch := by
  obtain ⟨s, v, -, hv, rfl⟩ := life?_eq_some_iff.1 h
  exact hv

theorem standing_of_life? (h : t.life? ref = some l) :
    ∃ s, t.fleet.server? ref = some s ∧ s.standing = l.standing := by
  obtain ⟨s, v, hs, -, rfl⟩ := life?_eq_some_iff.1 h
  exact ⟨s, hs, rfl⟩

theorem id_of_life? (h : t.life? ref = some l) :
    ∃ s, t.fleet.server? ref = some s ∧ s.id = l.standing.id := by
  obtain ⟨s, hs, hstanding⟩ := standing_of_life? h
  exact ⟨s, hs, congrArg Standing.id hstanding⟩

/-- Who starts and whom somebody makes end is kept beside the fleet. -/
theorem life?_flags (f : Fleet) (isStarting isOusted isStarting' isOusted' : Bool)
    (ref : ServerRef) :
    f.life? isStarting' isOusted' ref = (f.life? isStarting isOusted ref).map fun l =>
      { l with isStarting := isStarting', isOusted := isOusted' } := by
  unfold Fleet.life?
  cases f.server? ref <;> cases f.supervisor? ref <;> rfl

/-- Every server has a life. -/
theorem life?_of_crew (hcrew : t.fleet.Crew) :
    (t.life? ref).isSome ↔ ref < t.fleet.servers.length := by
  have hsupervisor := hcrew.isSupervised.supervisor?_isSome_iff ref
  constructor
  · intro hsome
    obtain ⟨l, hl⟩ := Option.isSome_iff_exists.1 hsome
    rw [← hsupervisor, watch_of_life? hl]
    rfl
  · intro hlt
    obtain ⟨v, hv⟩ := Option.isSome_iff_exists.1 (hsupervisor.2 hlt)
    have hs : t.fleet.server? ref = some t.fleet.servers[ref] := List.getElem?_eq_getElem hlt
    exact Option.isSome_iff_exists.2 ⟨_, life?_eq_some_iff.2 ⟨_, v, hs, hv, rfl⟩⟩

theorem exists_life (hcrew : t.fleet.Crew) (hlt : ref < t.fleet.servers.length) :
    ∃ l, t.life? ref = some l :=
  Option.isSome_iff_exists.1 ((life?_of_crew hcrew).2 hlt)

/-- A server that there is has a life, and stands where its life says. -/
theorem life_of_server? (hcrew : t.fleet.Crew) {s : Server} (hs : t.fleet.server? ref = some s) :
    ∃ l, t.life? ref = some l ∧ s.standing = l.standing := by
  obtain ⟨l, hl⟩ := exists_life hcrew (List.getElem?_eq_some_iff.1 hs).1
  obtain ⟨s', hs', hstanding⟩ := standing_of_life? hl
  rw [hs, Option.some.injEq] at hs'
  exact ⟨l, hl, hs' ▸ hstanding⟩

/-- A server that is supervised has a life. -/
theorem life_of_supervisor? (hcrew : t.fleet.Crew) {v : Supervisor}
    (hv : t.fleet.supervisor? ref = some v) : ∃ l, t.life? ref = some l ∧ l.watch = v := by
  have hlt : ref < t.fleet.servers.length := by
    rw [← hcrew.isSupervised.supervisor?_isSome_iff, hv]
    rfl
  obtain ⟨l, hl⟩ := exists_life hcrew hlt
  have hwatch := watch_of_life? hl
  rw [hv, Option.some.injEq] at hwatch
  exact ⟨l, hl, hwatch.symm⟩

theorem lt_of_life? (hcrew : t.fleet.Crew) (h : t.life? ref = some l) :
    ref < t.fleet.servers.length := by
  rw [← life?_of_crew hcrew, h]
  rfl

/-- A server whose supervision goes on is the only one with its identifier that can be
    launching. -/
theorem Sound.isAlone (h : t.Sound) (hl : t.life? ref = some l) (hgoes : l.watch.phase ≠ .done) :
    t.fleet.IsAlone ref := by
  intro other hother hlaunching hids
  obtain ⟨e, he, heq⟩ := List.any_eq_true.1 hlaunching
  rw [decide_eq_true_eq] at heq
  have hid := h.crew.launching_ids e he
  rw [heq] at hid
  have hlt : other < t.fleet.servers.length := by
    by_contra hge
    rw [Fleet.server?, List.getElem?_eq_none_iff.2 (Nat.le_of_not_lt hge)] at hid
    cases hid
  obtain ⟨l', hl'⟩ := exists_life h.crew hlt
  -- The other one is launching, so that its supervision goes on as well.
  have hreading : l'.watch.phase = .reading := by
    obtain ⟨s, v, -, -, rfl⟩ := life?_eq_some_iff.1 hl'
    exact ((h.ok other _ hl').launching_iff.1 hlaunching).1
  have hsame : l.standing.id = l'.standing.id := by
    obtain ⟨s, hs, hid⟩ := id_of_life? hl
    obtain ⟨s', hs', hid'⟩ := id_of_life? hl'
    rw [hs, hs', Option.map_some, Option.map_some, Option.some.injEq] at hids
    rw [← hid, ← hid']
    exact hids.symm
  rcases Nat.lt_or_gt_of_ne hother with hbefore | hafter
  · have hdone := h.apart other ref l' l hbefore hl' hl hsame.symm
    rw [hreading] at hdone
    cases hdone
  · exact hgoes (h.apart ref other l l' hafter hl hl' hsame)

/-! ### Steps of lives -/

/-- What may happen to which servers. -/
structure Scope where
  /-- Who may be taken out of the registry. -/
  ends : ServerRef → Prop
  /-- Whose supervisor may come into another phase. -/
  advances : ServerRef → Prop
  /-- May a hosting request go on? -/
  hosts : Prop

/-- A life went on as far as may happen to it. -/
structure Scope.Admits (scope : Scope) (ref : ServerRef) (l l' : Life) : Prop where
  /-- The server stays registered. -/
  keys : scope.ends ref ∨ ∀ key ∈ l.keys, key ∈ l'.keys
  /-- The supervisor stays in its phase. -/
  phase : scope.advances ref ∨ l'.watch.phase = l.watch.phase

namespace Scope.Admits

theorem of_eq (hkeys : l'.keys = l.keys) (hphase : l'.watch.phase = l.watch.phase) :
    scope.Admits ref l l' :=
  ⟨Or.inr fun _ hkey => hkeys ▸ hkey, Or.inr hphase⟩

theorem trans {l'' : Life} (h : scope.Admits ref l l') (h' : scope.Admits ref l' l'') :
    scope.Admits ref l l'' where
  keys := by
    rcases h.keys with hends | hkeys
    · exact Or.inl hends
    · rcases h'.keys with hends | hkeys'
      · exact Or.inl hends
      · exact Or.inr fun key hkey => hkeys' key (hkeys key hkey)
  phase := by
    rcases h.phase with hadvances | hphase
    · exact Or.inl hadvances
    · rcases h'.phase with hadvances | hphase'
      · exact Or.inl hadvances
      · exact Or.inr (hphase'.trans hphase)

end Scope.Admits

/-- Nothing but steps of lives lie between two moments, as far as may happen. -/
structure Follows (scope : Scope) (t t' : Traffic) : Prop where
  /-- Every life went on. -/
  lives : ∀ ref l, t.life? ref = some l → ∃ l', t'.life? ref = some l' ∧
    Life.Path t.most l l' ∧ scope.Admits ref l l'
  /-- Every server is launched as it was. -/
  specs : t'.fleet.specs = t.fleet.specs
  /-- The tables of the fleet belong together. -/
  crew : t'.fleet.Crew
  /-- The claims are accounted for. -/
  accounts : t'.fleet.Accounts t'.claims
  /-- The configuration is what it was. -/
  config : t'.fleet.config = t.fleet.config
  /-- Every account may have as many servers. -/
  quota : t'.fleet.store.quota = t.fleet.store.quota
  /-- The same requests hold a place. -/
  pending : scope.hosts ∨ t'.fleet.pending = t.fleet.pending

namespace Follows

theorem refl (h : t.Sound) : Follows scope t t where
  lives := fun _ l hl => ⟨l, hl, .refl, .of_eq rfl rfl⟩
  specs := rfl
  crew := h.crew
  accounts := h.accounts
  config := rfl
  quota := rfl
  pending := Or.inr rfl

theorem most_eq (h : Follows scope t t') : t'.most = t.most := by
  rw [most, h.config, most]

theorem trans (h : Follows scope t t') (h' : Follows scope t' t'') : Follows scope t t'' where
  lives := fun ref l hl => by
    obtain ⟨l', hl', hpath, hadmits⟩ := h.lives ref l hl
    obtain ⟨l'', hl'', hpath', hadmits'⟩ := h'.lives ref l' hl'
    rw [h.most_eq] at hpath'
    exact ⟨l'', hl'', hpath.trans hpath', hadmits.trans hadmits'⟩
  specs := h'.specs.trans h.specs
  crew := h'.crew
  accounts := h'.accounts
  config := h'.config.trans h.config
  quota := h'.quota.trans h.quota
  pending := by
    rcases h.pending with hhosts | hpending
    · exact Or.inl hhosts
    · exact h'.pending.imp_right fun hpending' => hpending'.trans hpending

theorem length_servers (h : Follows scope t t') :
    t'.fleet.servers.length = t.fleet.servers.length := by
  simpa using congrArg List.length h.specs

/-- Where a server is afterwards it was before. -/
theorem lives_before (h : Follows scope t t') (hcrew : t.fleet.Crew) (hl' : t'.life? ref = some l') :
    ∃ l, t.life? ref = some l ∧ Life.Path t.most l l' ∧
      scope.Admits ref l l' := by
  have hlt := lt_of_life? h.crew hl'
  rw [h.length_servers] at hlt
  obtain ⟨l, hl⟩ := exists_life hcrew hlt
  obtain ⟨m, hm, hpath, hadmits⟩ := h.lives ref l hl
  rw [hl', Option.some.injEq] at hm
  exact ⟨l, hl, hm ▸ hpath, hm ▸ hadmits⟩

/-- Something that happened to one server, while nothing else changed for the others. -/
theorem of_moves {move : Life → Life} (h : t.Sound)
    (hmoves : Fleet.Moves ref move t.fleet t'.fleet) (hclaims : t'.claims = t.claims)
    (hothers : ∀ other, other ≠ ref →
      t'.starting.contains other = t.starting.contains other ∧ t'.isOusted other = t.isOusted other)
    (hpath : ∀ l, t.life? ref = some l → Life.Path t.most l
      (move { l with isStarting := t'.starting.contains ref, isOusted := t'.isOusted ref }))
    (hadmits : ∀ l, scope.Admits ref l (move l)) : Follows scope t t' where
  lives := fun other l hl => by
    rw [life?, hmoves.lives, Life.moveAt]
    by_cases hother : other = ref
    · subst hother
      -- Who starts and whom somebody makes end may have changed as well.
      rw [if_pos rfl, life?_flags t.fleet (t.starting.contains other) (t.isOusted other), ← life?, hl]
      have hmoved := hadmits { l with
        isStarting := t'.starting.contains other, isOusted := t'.isOusted other }
      exact ⟨_, rfl, hpath l hl, hmoved.keys, hmoved.phase⟩
    · obtain ⟨hstarting, housted⟩ := hothers other hother
      rw [if_neg hother, hstarting, housted, ← life?, hl]
      exact ⟨l, rfl, .refl, .of_eq rfl rfl⟩
  specs := hmoves.specs
  crew := hmoves.crew h.crew
  accounts := by
    rw [hclaims]
    exact hmoves.accounts h.crew _ h.accounts
  config := hmoves.config
  quota := hmoves.quota
  pending := Or.inr hmoves.pending

/-- Something that happened to one server, while nobody else went on. -/
theorem of_fleet {f : Fleet} {move : Life → Life} (h : t.Sound)
    (hmoves : Fleet.Moves ref move t.fleet f)
    (hpath : ∀ l, t.life? ref = some l → Life.Path t.most l (move l))
    (hadmits : ∀ l, scope.Admits ref l (move l)) :
    Follows scope t { t with fleet := f } := by
  refine of_moves h hmoves rfl (fun _ _ => ⟨rfl, rfl⟩) ?_ hadmits
  intro l hl
  have hflags : { l with
      isStarting := t.starting.contains ref, isOusted := t.isOusted ref } = l := by
    rw [← isStarting_of_life? hl, ← isOusted_of_life? hl]
  exact hflags ▸ hpath l hl

/-- What changes nothing of consequence moves nothing. -/
theorem of_alike {f : Fleet} (h : t.Sound) (halike : t.fleet.Alike f) :
    Follows scope t { t with fleet := f } :=
  of_fleet h (halike.moves 0) (fun _ _ => .refl) fun _ => .of_eq rfl rfl

end Follows

/-- Steps of lives keep what holds at every moment, where nobody else goes on in a wrong way. -/
theorem Sound.follows (h : t.Sound) (hfollows : Follows scope t t')
    (hstarting : ∀ ref ∈ t'.starting, ref < t.fleet.servers.length)
    (hkills : ∀ k ∈ t'.kills, k.server < t.fleet.servers.length ∧
      (k.stage ≠ .begun → k.byOwner.isSome = true →
        ∀ l, t'.life? k.server = some l → l.standing.isKilled = true))
    (hfresh : ∀ spec ∈ t'.drafts, ∀ s ∈ t.fleet.servers, s.id ≠ spec.credentials.id)
    (hnodup : (t'.drafts.map (·.credentials.id)).Nodup) : t'.Sound where
  crew := hfollows.crew
  accounts := hfollows.accounts
  ok := fun ref l' hl' => by
    obtain ⟨l, hl, hpath, -⟩ := hfollows.lives_before h.crew hl'
    rw [hfollows.most_eq]
    exact (h.ok ref l hl).path hpath
  apart := fun i j l' m' hij hl' hm' hid => by
    obtain ⟨l, hl, hpath, -⟩ := hfollows.lives_before h.crew hl'
    obtain ⟨m, hm, hpath', -⟩ := hfollows.lives_before h.crew hm'
    -- Identifiers stay, and so does what is done.
    rw [hpath.id_eq, hpath'.id_eq] at hid
    exact hpath.done (h.apart i j l m hij hl hm hid)
  starting_lt := fun ref href => by
    rw [hfollows.length_servers]
    exact hstarting ref href
  kills_lt := fun k hk => by
    rw [hfollows.length_servers]
    exact (hkills k hk).1
  kills_marked := fun k hk => (hkills k hk).2
  drafts_fresh := fun spec hspec s hs => by
    have hmem : s.id ∈ t.fleet.servers.map Server.id := by
      rw [← Fleet.ids_of_specs hfollows.specs]
      exact List.mem_map_of_mem hs
    obtain ⟨s', hs', hid⟩ := List.mem_map.1 hmem
    rw [← hid]
    exact hfresh spec hspec s' hs'
  drafts_nodup := hnodup

/-- A kill that is noted stays noted. -/
theorem Sound.kills_kept (h : t.Sound) (hfollows : Follows scope t t') :
    ∀ k ∈ t.kills, k.server < t.fleet.servers.length ∧
      (k.stage ≠ .begun → k.byOwner.isSome = true →
        ∀ l, t'.life? k.server = some l → l.standing.isKilled = true) := by
  intro k hk
  refine ⟨h.kills_lt k hk, ?_⟩
  intro hstage howner l' hl'
  obtain ⟨l, hl, hpath, -⟩ := hfollows.lives_before h.crew hl'
  exact hpath.isKilled (h.kills_marked k hk hstage howner l hl)

/-- Steps of lives alone keep what holds at every moment. -/
theorem Sound.follows_fleet {f : Fleet} (h : t.Sound)
    (hfollows : Follows scope t { t with fleet := f }) : Sound { t with fleet := f } :=
  h.follows hfollows h.starting_lt (h.kills_kept hfollows) h.drafts_fresh h.drafts_nodup

/-! ### Launches -/

/-- Whose launch it is: that of a hosting request, or one after the end of a server. -/
inductive Begets (scope : Scope) (t : Traffic) : Standing → Supervisor → Prop where
  /-- A hosting request launches its server. -/
  | hosted {h : Hosting} {spec : LaunchSpec} {v : Supervisor} (hhosts : scope.hosts)
      (hmem : h ∈ t.hostings) (hstage : h.stage = .claimed spec v.launchPort) :
      Begets scope t (Fleet.standingOf spec 0) v
  /-- A server is launched again. -/
  | relaunched {ref : ServerRef} {l : Life} {v : Supervisor} (hadvances : scope.advances ref)
      (hlife : t.life? ref = some l) (hphase : l.watch.phase = .restarting v.launchPort) :
      Begets scope t (Fleet.standingOf { l.standing.spec with requestedPort := some l.standing.port }
        (l.standing.restarts + 1)) v

/-- One step was made: every life went on, and at most one server was launched. -/
structure Goes (scope : Scope) (t t' : Traffic) : Prop where
  /-- What holds at every moment holds afterwards. -/
  sound : t'.Sound
  /-- Every life went on. -/
  lives : ∀ ref l, t.life? ref = some l → ∃ l', t'.life? ref = some l' ∧
    Life.Path t.most l l' ∧ scope.Admits ref l l'
  /-- At most one server was launched. -/
  made : t'.fleet.specs = t.fleet.specs ∨
    ∃ s v, t'.fleet.specs = t.fleet.specs ++ [(s.spec, s.restarts)] ∧
      t'.life? t.fleet.servers.length = some (Life.born s v) ∧ t.Begets scope s v
  /-- The configuration is what it was. -/
  config : t'.fleet.config = t.fleet.config
  /-- Every account may have as many servers. -/
  quota : t'.fleet.store.quota = t.fleet.store.quota
  /-- The same requests hold a place. -/
  pending : scope.hosts ∨ t'.fleet.pending = t.fleet.pending

/-- Steps of lives are a step. -/
theorem Follows.goes (h : Follows scope t t') (hsound : t'.Sound) : Goes scope t t' :=
  ⟨hsound, h.lives, Or.inl h.specs, h.config, h.quota, h.pending⟩

/-- Steps of lives alone are a step. -/
theorem Sound.goes_fleet {f : Fleet} (h : t.Sound)
    (hfollows : Follows scope t { t with fleet := f }) : Goes scope t { t with fleet := f } :=
  hfollows.goes (h.follows_fleet hfollows)

theorem Goes.most_eq (h : Goes scope t t') : t'.most = t.most := by
  rw [most, h.config, most]

/-- No server is ever forgotten. -/
theorem Goes.length_le (h : Goes scope t t') :
    t.fleet.servers.length ≤ t'.fleet.servers.length := by
  rw [← Fleet.length_specs, ← Fleet.length_specs]
  rcases h.made with hsame | ⟨s, v, hspecs, -⟩
  · exact Nat.le_of_eq (congrArg List.length hsame.symm)
  · rw [hspecs, List.length_append]
    exact Nat.le_add_right _ _

/-- A server that was not there before has just begun. -/
theorem Goes.born_of_new (h : Goes scope t t') (hl' : t'.life? ref = some l')
    (hnew : t.fleet.servers.length ≤ ref) :
    ref = t.fleet.servers.length ∧ ∃ s v, l' = Life.born s v ∧ t.Begets scope s v := by
  have hlt := lt_of_life? h.sound.crew hl'
  rcases h.made with hspecs | ⟨s, v, hspecs, hborn, hbegets⟩
  · rw [← Fleet.length_specs, hspecs, Fleet.length_specs] at hlt
    exact absurd hlt (Nat.not_lt.2 hnew)
  · rw [← Fleet.length_specs, hspecs, List.length_append, Fleet.length_specs,
      List.length_singleton, Nat.lt_succ_iff] at hlt
    obtain rfl : ref = t.fleet.servers.length := Nat.le_antisymm hlt hnew
    rw [hborn, Option.some.injEq] at hl'
    exact ⟨rfl, s, v, hl'.symm, hbegets⟩

/-- The supervisor of a server that was not there before waits for lines. -/
theorem Goes.reading_of_new (h : Goes scope t t') (hl' : t'.life? ref = some l')
    (hnew : t.fleet.servers.length ≤ ref) : l'.watch.phase = .reading := by
  obtain ⟨-, s, v, rfl, -⟩ := h.born_of_new hl' hnew
  exact ((h.sound.ok ref _ hl').launching_iff.1 rfl).1

/-- After a launch the new server has just begun, and all others are as they were, but for the one
    that moved. -/
theorem Sound.lives_of_bears {move : Life → Life} {given : List UInt16} {s : Standing}
    {v : Supervisor} (h : t.Sound) (hbears : Fleet.Bears ref move given s v t.fleet t'.fleet)
    (hstarting : t'.starting = t.starting) (hkills : t'.kills = t.kills) :
    t'.life? t.fleet.servers.length = some (Life.born s v) ∧
      ∀ i, i ≠ t.fleet.servers.length → t'.life? i = Life.moveAt ref move t.life? i := by
  constructor
  · -- Nobody knows the new server yet: it does not start, and nobody makes it end.
    have hidle : t'.starting.contains t.fleet.servers.length = false := by
      rw [hstarting, List.contains_eq_mem, decide_eq_false_iff_not]
      intro hmem
      exact Nat.lt_irrefl _ (h.starting_lt _ hmem)
    have hkept : t'.isOusted t.fleet.servers.length = false := by
      rw [isOusted, hkills, List.any_eq_false]
      intro k hk housted
      rw [Bool.and_eq_true, decide_eq_true_eq] at housted
      have hlt := h.kills_lt k hk
      rw [housted.1] at hlt
      exact Nat.lt_irrefl _ hlt
    rw [life?, hbears.lives, if_pos rfl, hidle, hkept]
    rfl
  · intro i hne
    have housted : t'.isOusted i = t.isOusted i := by rw [isOusted, hkills, isOusted]
    rw [life?, hbears.lives, if_neg hne, hstarting, housted]
    unfold Life.moveAt life?
    split
    next heq => rw [heq]
    next => rfl

/-- A launch is a step where what it launches can go on as the last with its identifier. -/
theorem Sound.bears {move : Life → Life} {given : List UInt16} {s : Standing} {v : Supervisor}
    (h : t.Sound) (hbears : Fleet.Bears ref move given s v t.fleet t'.fleet)
    (hbegets : t.Begets scope s v) (hborn : (Life.born s v).Ok t.most)
    (hpath : ∀ l, t.life? ref = some l → Life.Path t.most l (move l))
    (hadmits : ∀ l, scope.Admits ref l (move l))
    (hlast : ∀ i l, t.life? i = some l → l.standing.id = s.id →
      l.watch.phase = .done ∨ i = ref ∧ (move l).watch.phase = .done)
    (hclaims : t.claims.Perm (given ++ t'.claims))
    (hstarting : t'.starting = t.starting) (hkills : t'.kills = t.kills)
    (hfresh : ∀ spec ∈ t'.drafts, spec.credentials.id ≠ s.id ∧
      ∀ server ∈ t.fleet.servers, server.id ≠ spec.credentials.id)
    (hnodup : (t'.drafts.map (·.credentials.id)).Nodup) : Goes scope t t' := by
  have hlength : t'.fleet.servers.length = t.fleet.servers.length + 1 := by
    simpa using congrArg List.length hbears.specs
  obtain ⟨hnew, hold⟩ := h.lives_of_bears hbears hstarting hkills
  have hlives : ∀ i l, t.life? i = some l → ∃ l', t'.life? i = some l' ∧
      Life.Path t.most l l' ∧ scope.Admits i l l' := by
    intro i l hl
    have hne : i ≠ t.fleet.servers.length := Nat.ne_of_lt (lt_of_life? h.crew hl)
    rw [hold i hne, Life.moveAt]
    split
    next heq =>
      subst heq
      rw [hl]
      exact ⟨move l, rfl, hpath l hl, hadmits l⟩
    next => exact ⟨l, hl, .refl, .of_eq rfl rfl⟩
  have hmost : t'.most = t.most := by rw [most, hbears.config, most]
  have hpaths : ∀ i l', i ≠ t.fleet.servers.length → t'.life? i = some l' →
      ∃ l, t.life? i = some l ∧ Life.Path t.most l l' := by
    intro i l' hne hl'
    rw [hold i hne] at hl'
    obtain ⟨l, hl, rfl | ⟨rfl, rfl⟩⟩ := Life.exists_of_moveAt hl'
    · exact ⟨l', hl, .refl⟩
    · exact ⟨l, hl, hpath l hl⟩
  refine ⟨⟨hbears.crew, ?_, ?_, ?_, ?_, ?_, ?_, ?_, hnodup⟩, hlives,
    Or.inr ⟨s, v, hbears.specs, hnew, hbegets⟩, hbears.config, hbears.quota,
    Or.inr hbears.pending⟩
  case refine_1 =>
    exact hbears.accounts _ (h.accounts.trans (hclaims.append_left _))
  case refine_2 =>
    intro i l' hl'
    rw [hmost]
    by_cases hne : i = t.fleet.servers.length
    · subst hne
      rw [hnew, Option.some.injEq] at hl'
      exact hl' ▸ hborn
    · obtain ⟨l, hl, hpath'⟩ := hpaths i l' hne hl'
      exact (h.ok i l hl).path hpath'
  case refine_3 =>
    intro i j l' m' hij hl' hm' hid
    have hj := lt_of_life? hbears.crew hm'
    rw [hlength, Nat.lt_succ_iff] at hj
    have hi : i ≠ t.fleet.servers.length := Nat.ne_of_lt (Nat.lt_of_lt_of_le hij hj)
    -- Two lives with one identifier: the later is that of the new server, or both are from before.
    by_cases hne : j = t.fleet.servers.length
    · subst hne
      rw [hnew, Option.some.injEq] at hm'
      subst hm'
      rw [hold i hi] at hl'
      exact Life.done_of_moveAt hpath hlast hl' hid
    · obtain ⟨l, hl, hpath'⟩ := hpaths i l' hi hl'
      obtain ⟨m, hm, hpath''⟩ := hpaths j m' hne hm'
      rw [hpath'.id_eq, hpath''.id_eq] at hid
      exact hpath'.done (h.apart i j l m hij hl hm hid)
  case refine_4 =>
    intro i hi
    rw [hstarting] at hi
    rw [hlength]
    exact Nat.lt_succ_of_lt (h.starting_lt i hi)
  case refine_5 =>
    intro k hk
    rw [hkills] at hk
    rw [hlength]
    exact Nat.lt_succ_of_lt (h.kills_lt k hk)
  case refine_6 =>
    intro k hk hstage howner l' hl'
    rw [hkills] at hk
    have hne : k.server ≠ t.fleet.servers.length := Nat.ne_of_lt (h.kills_lt k hk)
    obtain ⟨l, hl, hpath'⟩ := hpaths k.server l' hne hl'
    exact hpath'.isKilled (h.kills_marked k hk hstage howner l hl)
  case refine_7 =>
    intro spec hspec server hserver
    obtain ⟨hother, hfree⟩ := hfresh spec hspec
    have hmem : server.id ∈ t'.fleet.servers.map Server.id := List.mem_map_of_mem hserver
    rw [← Fleet.map_id_specs, hbears.specs, List.map_append, Fleet.map_id_specs,
      List.mem_append] at hmem
    -- An identifier afterwards is one from before or that of the new server.
    rcases hmem with hmem | hmem
    · obtain ⟨server', hserver', hid⟩ := List.mem_map.1 hmem
      rw [← hid]
      exact hfree server' hserver'
    · rw [List.map_singleton, List.mem_singleton] at hmem
      rw [hmem]
      exact fun heq => hother heq.symm

end Traffic

end HostDaemon
