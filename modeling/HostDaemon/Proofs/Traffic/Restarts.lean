import HostDaemon.Proofs.Traffic.Registration
import HostDaemon.Proofs.Traffic.Requests
import Mathlib.Data.List.Induction

/-! # How often a server is launched

  The launches of a server are those with its identifier. The first is that of a hosting request,
  and each later one follows on the end of the one before.

  - `Traffic.Numbered` is the invariant: the launches with one identifier are numbered from zero on,
    and none of them has a number beyond the limit.
  - `Traffic.Sealed` holds once the last launch was killed before its supervisor has decided what is
    to come; then there is no further launch.
  - `Traffic.Exhausted` holds where every supervisor that decides finds its server fit for another
    launch; then only the limit stops it. -/

namespace HostDaemon

/-- How many launches came before each launch with an identifier, in the order of the launches. -/
def Fleet.restartsOf (f : Fleet) (id : String) : List UInt32 :=
  (f.specs.filter fun e => decide (e.1.credentials.id = id)).map (·.2)

/-- No later launch has the identifier of this one. -/
def Fleet.IsNewest (f : Fleet) (ref : ServerRef) : Prop :=
  ∀ other, ref < other → (f.server? other).map Server.id ≠ (f.server? ref).map Server.id

namespace Life

variable {most : UInt32} {l l' : Life}

/-- Nothing comes after this life: its supervisor is done, or the server was killed before its
    supervisor has decided. -/
def IsFinal (l : Life) : Prop :=
  l.watch.phase = .done ∨ l.standing.isKilled = true ∧ ∀ port, l.watch.phase ≠ .restarting port

/-- A killed server is not launched again, so that a final life stays final. -/
theorem Next.isFinal (h : Next most l l') (hfinal : l.IsFinal) : l'.IsFinal := by
  rcases hfinal with hdone | ⟨hkilled, hundecided⟩
  · exact Or.inl (h.done hdone)
  · have hkilled' := h.isKilled hkilled
    cases h with
    | tellPort | finishStart | start | reject | mark | oust | evict | endProcess =>
      exact Or.inr ⟨hkilled', hundecided⟩
    | close | report | remove => exact Or.inr ⟨hkilled', fun port hfalse => by cases hfalse⟩
    | giveUp | relaunched => exact Or.inl rfl
    | restart _ _ halive _ _ =>
      rw [hkilled] at halive
      cases halive

end Life

namespace Traffic

variable {t t' : Traffic} {ref : ServerRef} {l l' : Life} {scope : Scope} {id : String}

/-! ### Launches in the order of their servers -/

theorem getElem?_specs (hl : t.life? ref = some l) :
    t.fleet.specs[ref]? = some (l.standing.spec, l.standing.restarts) := by
  obtain ⟨s, hs, hstanding⟩ := standing_of_life? hl
  rw [Fleet.server?] at hs
  rw [Fleet.specs, List.getElem?_map, hs, ← hstanding]
  rfl

/-- Every launch is that of some server. -/
theorem exists_life_of_spec (hcrew : t.fleet.Crew) {e : LaunchSpec × UInt32}
    (he : t.fleet.specs[ref]? = some e) :
    ∃ l, t.life? ref = some l ∧ e = (l.standing.spec, l.standing.restarts) := by
  have hlt := (List.getElem?_eq_some_iff.1 he).1
  rw [Fleet.length_specs] at hlt
  obtain ⟨l, hl⟩ := exists_life hcrew hlt
  rw [getElem?_specs hl, Option.some.injEq] at he
  exact ⟨l, hl, he.symm⟩

/-- The launches with an identifier after one more launch. -/
theorem restartsOf_concat {spec : LaunchSpec} {restarts : UInt32}
    (hspecs : t'.fleet.specs = t.fleet.specs ++ [(spec, restarts)]) (id : String) :
    t'.fleet.restartsOf id = t.fleet.restartsOf id ++
      if spec.credentials.id = id then [restarts] else [] := by
  rw [Fleet.restartsOf, hspecs, List.filter_append, List.map_append, Fleet.restartsOf]
  by_cases h : spec.credentials.id = id
  · simp [h]
  · simp [h]

/-- A server whose supervision goes on is the last one with its identifier. -/
theorem Sound.restartsOf_last (h : t.Sound) (hl : t.life? ref = some l)
    (hgoes : l.watch.phase ≠ .done) :
    ∃ before, t.fleet.restartsOf l.standing.id = before ++ [l.standing.restarts] := by
  obtain ⟨hlt, hget⟩ := List.getElem?_eq_some_iff.1 (getElem?_specs hl)
  have hsplit : t.fleet.specs = t.fleet.specs.take ref ++
      (l.standing.spec, l.standing.restarts) :: t.fleet.specs.drop (ref + 1) := by
    conv_lhs => rw [← List.take_append_drop ref t.fleet.specs, List.drop_eq_getElem_cons hlt, hget]
  -- A later launch with the identifier would have to follow on the end of this one.
  have hlater : (t.fleet.specs.drop (ref + 1)).filter
      (fun e => decide (e.1.credentials.id = l.standing.id)) = [] := by
    rw [List.filter_eq_nil_iff]
    intro e he hsame
    rw [decide_eq_true_eq] at hsame
    obtain ⟨i, hi⟩ := List.getElem?_of_mem he
    rw [List.getElem?_drop] at hi
    obtain ⟨m, hm, rfl⟩ := exists_life_of_spec h.crew hi
    have hafter : ref < ref + 1 + i :=
      Nat.lt_of_lt_of_le (Nat.lt_succ_self ref) (Nat.le_add_right _ i)
    exact hgoes (h.apart ref _ l m hafter hl hm hsame.symm)
  refine ⟨((t.fleet.specs.take ref).filter
    fun e => decide (e.1.credentials.id = l.standing.id)).map (·.2), ?_⟩
  have hmine : decide ((l.standing.spec, l.standing.restarts).1.credentials.id = l.standing.id) =
      true := decide_eq_true rfl
  rw [Fleet.restartsOf]
  conv_lhs => rw [hsplit, List.filter_append, List.filter_cons, if_pos hmine, hlater, List.map_append]
  rfl

/-- An identifier that is about to be launched was never launched. -/
theorem Sound.restartsOf_draft (h : t.Sound) {spec : LaunchSpec} (hspec : spec ∈ t.drafts) :
    t.fleet.restartsOf spec.credentials.id = [] := by
  rw [Fleet.restartsOf, List.map_eq_nil_iff, List.filter_eq_nil_iff]
  intro e he hsame
  rw [decide_eq_true_eq] at hsame
  obtain ⟨s, hs, rfl⟩ := List.mem_map.1 he
  exact h.drafts_fresh spec hspec s hs hsame

/-! ### Launches are numbered -/

/-- The launches with one identifier are numbered from zero on, and none has a number beyond the
    limit. -/
structure Numbered (t : Traffic) : Prop where
  /-- They are numbered from zero on. -/
  numbered : ∀ id, (t.fleet.restartsOf id).map UInt32.toNat =
    List.range (t.fleet.restartsOf id).length
  /-- No number is beyond the limit. -/
  few : ∀ e ∈ t.fleet.specs, e.2 ≤ t.most

/-- The number of a launch is that of the launches before it. -/
theorem Sound.begets_number (h : t.Sound) (hn : t.Numbered) {s : Standing} {v : Supervisor}
    (hbegets : t.Begets scope s v) :
    s.restarts.toNat = (t.fleet.restartsOf s.id).length ∧ s.restarts ≤ t.most := by
  cases hbegets with
  | @hosted asked spec v _ hmem hstage =>
    have hdraft := mem_drafts hmem hstage
    constructor
    · change (0 : UInt32).toNat = (t.fleet.restartsOf spec.credentials.id).length
      rw [h.restartsOf_draft hdraft]
      rfl
    · exact UInt32.zero_le
  | @relaunched ref l v _ hlife hphase =>
    obtain ⟨-, hfew⟩ := (h.ok ref l hlife).of_restarting _ hphase
    obtain ⟨before, hlast⟩ := h.restartsOf_last hlife (by simp [hphase])
    -- The launch before is the last one, so that its number is one less than there are launches.
    have hnumber := hn.numbered l.standing.id
    rw [hlast, List.map_append, List.length_append, List.length_singleton, List.range_succ] at hnumber
    have hparent : l.standing.restarts.toNat = before.length :=
      (List.cons.inj (List.append_inj' hnumber rfl).2).1
    -- The number is no more than the limit, so that it does not wrap around.
    have hlarge := t.most.toNat_lt
    rw [UInt32.lt_iff_toNat_lt] at hfew
    have hnext : (l.standing.restarts + 1).toNat = before.length + 1 := by
      rw [UInt32.toNat_add, hparent]
      change (before.length + 1) % 2 ^ 32 = before.length + 1
      rw [Nat.mod_eq_of_lt (by omega)]
    constructor
    · change (l.standing.restarts + 1).toNat = (t.fleet.restartsOf l.standing.id).length
      rw [hnext, hlast, List.length_append, List.length_singleton]
    · change l.standing.restarts + 1 ≤ t.most
      rw [UInt32.le_iff_toNat_le, hnext]
      omega

/-- A step numbers one more launch at most. -/
theorem Sound.numbered_step (h : t.Sound) (hgoes : Goes scope t t') (hn : t.Numbered) :
    t'.Numbered := by
  rcases hgoes.made with hsame | ⟨s, v, hspecs, -, hbegets⟩
  · have hkept : ∀ id, t'.fleet.restartsOf id = t.fleet.restartsOf id := by
      intro id
      rw [Fleet.restartsOf, hsame, Fleet.restartsOf]
    refine ⟨fun id => ?_, fun e he => ?_⟩
    · rw [hkept]
      exact hn.numbered id
    · rw [hsame] at he
      rw [hgoes.most_eq]
      exact hn.few e he
  · obtain ⟨hnumber, hfew⟩ := h.begets_number hn hbegets
    refine ⟨fun id => ?_, fun e he => ?_⟩
    · rw [restartsOf_concat hspecs]
      by_cases hid : s.spec.credentials.id = id
      · subst hid
        rw [if_pos rfl, List.map_append, hn.numbered, List.length_append, List.length_singleton,
          List.range_succ, List.map_singleton, hnumber]
        rfl
      · rw [if_neg hid, List.append_nil]
        exact hn.numbered id
    · rw [hgoes.most_eq]
      rw [hspecs, List.mem_append, List.mem_singleton] at he
      rcases he with hold | rfl
      · exact hn.few e hold
      · exact hfew

/-- There are at most as many launches with an identifier as the limit allows. -/
theorem Numbered.length_le (hn : t.Numbered) (id : String) :
    (t.fleet.restartsOf id).length ≤ t.most.toNat + 1 := by
  cases hlength : (t.fleet.restartsOf id).length with
  | zero => omega
  | succ n =>
    -- The last number is one less than there are launches.
    have hlast : n ∈ (t.fleet.restartsOf id).map UInt32.toNat := by
      rw [hn.numbered, hlength, List.mem_range]
      omega
    obtain ⟨restarts, hmem, rfl⟩ := List.mem_map.1 hlast
    obtain ⟨e, he, rfl⟩ := List.mem_map.1 hmem
    have hfew := hn.few e (List.mem_of_mem_filter he)
    rw [UInt32.le_iff_toNat_le] at hfew
    omega

/-! ### No launch after a kill -/

/-- No further launch with an identifier is to come, though there was one. -/
structure Sealed (t : Traffic) (id : String) : Prop where
  /-- There was a launch. -/
  launched : ∃ s ∈ t.fleet.servers, s.id = id
  /-- No launch is to be followed by another. -/
  final : ∀ ref l, t.life? ref = some l → l.standing.id = id → l.IsFinal

/-- A server that was killed before its supervisor has decided is the last with its identifier. -/
theorem Sound.sealed (h : t.Sound) (hl : t.life? ref = some l)
    (hkilled : l.standing.isKilled = true) (hphase : l.watch.phase ≠ .done)
    (hundecided : ∀ port, l.watch.phase ≠ .restarting port) : t.Sealed l.standing.id where
  launched := by
    obtain ⟨s, hs, hid⟩ := id_of_life? hl
    exact ⟨s, List.mem_of_getElem? hs, hid⟩
  final := by
    intro i m hm hid
    rcases Nat.lt_trichotomy i ref with hbefore | rfl | hafter
    · exact Or.inl (h.apart i ref m l hbefore hm hl hid)
    · rw [hl, Option.some.injEq] at hm
      subst hm
      exact Or.inr ⟨hkilled, hundecided⟩
    · exact absurd (h.apart ref i l m hafter hl hm hid.symm) hphase

/-- Where no further launch is to come a step launches nothing. -/
theorem Sound.sealed_step (h : t.Sound) (hgoes : Goes scope t t') (hsealed : t.Sealed id) :
    t'.Sealed id ∧ t'.fleet.restartsOf id = t.fleet.restartsOf id := by
  obtain ⟨server, hserver, hid⟩ := hsealed.launched
  -- Neither a request nor the end of a server leads to a launch with this identifier.
  have hother : ∀ s v, t.Begets scope s v → s.id ≠ id := by
    intro s v hbegets hsame
    cases hbegets with
    | @hosted asked spec v _ hmem hstage =>
      exact h.drafts_fresh spec (mem_drafts hmem hstage) server hserver (hid.trans hsame.symm)
    | relaunched _ hlife hphase =>
      rcases hsealed.final _ _ hlife hsame with hdone | ⟨-, hundecided⟩
      · rw [hphase] at hdone
        cases hdone
      · exact hundecided _ hphase
  -- A life that was there before stays final.
  have hold : ∀ ref l', t'.life? ref = some l' → l'.standing.id = id →
      ref < t.fleet.servers.length → l'.IsFinal := by
    intro ref l' hl' hsame hlt
    obtain ⟨l, hl⟩ := exists_life h.crew hlt
    obtain ⟨m, hm, hpath, -⟩ := hgoes.lives ref l hl
    rw [hl', Option.some.injEq] at hm
    subst hm
    rw [hpath.id_eq] at hsame
    exact hpath.keeps (fun _ _ hnext => hnext.isFinal) (hsealed.final ref l hl hsame)
  rcases hgoes.made with hspecs | ⟨s, v, hspecs, hnew, hbegets⟩
  · refine ⟨⟨?_, ?_⟩, by rw [Fleet.restartsOf, hspecs, Fleet.restartsOf]⟩
    · have hmem : id ∈ t'.fleet.servers.map Server.id := by
        rw [Fleet.ids_of_specs hspecs]
        exact hid ▸ List.mem_map_of_mem hserver
      obtain ⟨s, hs, hsame⟩ := List.mem_map.1 hmem
      exact ⟨s, hs, hsame⟩
    · intro ref l' hl' hsame
      refine hold ref l' hl' hsame ?_
      have hlt := lt_of_life? hgoes.sound.crew hl'
      rw [← Fleet.length_specs, hspecs, Fleet.length_specs] at hlt
      exact hlt
  · have hne : s.spec.credentials.id ≠ id := hother s v hbegets
    refine ⟨⟨?_, ?_⟩, ?_⟩
    · have hmem : id ∈ t'.fleet.servers.map Server.id := by
        rw [← Fleet.map_id_specs, hspecs, List.map_append, Fleet.map_id_specs]
        exact List.mem_append_left _ (hid ▸ List.mem_map_of_mem hserver)
      obtain ⟨s, hs, hsame⟩ := List.mem_map.1 hmem
      exact ⟨s, hs, hsame⟩
    · intro ref l' hl' hsame
      have hlt := lt_of_life? hgoes.sound.crew hl'
      rw [← Fleet.length_specs, hspecs, List.length_append, Fleet.length_specs,
        List.length_singleton, Nat.lt_succ_iff] at hlt
      rcases Nat.lt_or_eq_of_le hlt with hlt | rfl
      · exact hold ref l' hl' hsame hlt
      · rw [hnew, Option.some.injEq] at hl'
        subst hl'
        exact absurd hsame hne
    · rw [restartsOf_concat hspecs, if_neg hne, List.append_nil]

/-! ### When only the limit stops it -/

/-- Does a step go as well as it can for the servers with an identifier? Where it decides about the
    next launch, the server is one to be launched again, has been registered and was not killed, and
    there is a port unless the limit is reached. Where it launches, it succeeds. -/
def goesWell (t : Traffic) (id : String) (env : Surroundings) : Action → Bool
  | .supervise ref =>
    match t.fleet.server? ref, t.fleet.supervisor? ref with
    | some s, some v =>
      decide (s.id ≠ id) ||
        match v.phase with
        | .removed =>
          s.spec.autoRestart && s.isRunning && !s.isKilled &&
            (decide (t.most ≤ s.restarts) ||
              (t.fleet.reserveForRestart env s.port v.launchPort).isSome)
        | .restarting port =>
          (t.fleet.launch env { s.spec with requestedPort := some s.port } (s.restarts + 1) false
            port).1.isOk
        | _ => true
    | _, _ => true
  | _ => true

/-- Does every step of a run go as well as it can? -/
def allGoWell (id : String) : Traffic → List (Surroundings × Action) → Bool
  | _, [] => true
  | t, (env, a) :: steps => t.goesWell id env a && allGoWell id (t.step env a) steps

theorem allGoWell_concat (id : String) (t : Traffic) (steps : List (Surroundings × Action))
    (env : Surroundings) (a : Action) :
    allGoWell id t (steps ++ [(env, a)]) = true ↔
      allGoWell id t steps = true ∧ (t.run steps).goesWell id env a = true := by
  induction steps generalizing t with
  | nil => simp [allGoWell, run]
  | cons first steps ih =>
    obtain ⟨env', a'⟩ := first
    rw [List.cons_append, allGoWell, allGoWell, Bool.and_eq_true, Bool.and_eq_true, ih, and_assoc]
    rfl

/-- Every launch with an identifier that is over was the last that the limit allows, or was followed
    by another. -/
def Exhausted (t : Traffic) (id : String) : Prop :=
  ∀ ref l, t.life? ref = some l → l.standing.id = id → l.watch.phase = .done →
    t.most ≤ l.standing.restarts ∨
      ∃ i l', ref < i ∧ t.life? i = some l' ∧ l'.standing.id = id

/-- A supervisor that was brought into a phase. -/
theorem supervisor?_setPhase (f : Fleet) (ref : ServerRef) (phase : SupervisorPhase) :
    (f.setPhase ref phase).supervisor? ref =
      (f.supervisor? ref).map ({ · with phase := phase }) := by
  have hserver : ∀ v : Supervisor, ({ v with phase := phase } : Supervisor).server = v.server :=
    fun _ => rfl
  rw [Fleet.setPhase, Fleet.supervisor?_updateSupervisor f ref hserver, if_pos rfl]

theorem phase_setPhase {f : Fleet} {phase : SupervisorPhase} {v : Supervisor}
    (hv : (f.setPhase ref phase).supervisor? ref = some v) : v.phase = phase := by
  rw [supervisor?_setPhase] at hv
  obtain ⟨v', -, rfl⟩ := Option.map_eq_some_iff.1 hv
  rfl

/-- A supervisor for which all goes well is done only at the limit or with the next launch. -/
theorem Sound.advance_done (h : t.Sound) (env : Surroundings) (hl : t.life? ref = some l)
    (hsupervised : l.watch.phase ≠ .done) (hid : l.standing.id = id)
    (hwell : t.goesWell id env (.supervise ref) = true) {v : Supervisor}
    (hv : (t.fleet.advance env ref).supervisor? ref = some v) (hdone : v.phase = .done) :
    t.most ≤ l.standing.restarts ∨
      ∃ l', life? { t with fleet := t.fleet.advance env ref } t.fleet.servers.length = some l' ∧
        l'.standing.id = id := by
  obtain ⟨s, hs, hstanding⟩ := standing_of_life? hl
  have hwatch := watch_of_life? hl
  have hok := h.ok ref l hl
  have hsame : s.id = id := (congrArg Standing.id hstanding).trans hid
  simp only [goesWell, hs, hwatch, hsame, ne_eq, not_true_eq_false, decide_false,
    Bool.false_or] at hwell
  simp only [Fleet.advance, hwatch, hs] at hv ⊢
  cases hphase : l.watch.phase with
  | reading =>
    simp only [hphase] at hv
    split at hv
    · rw [hwatch, Option.some.injEq] at hv
      rw [hv] at hphase
      rw [hdone] at hphase
      cases hphase
    · have hnext := phase_setPhase hv
      rw [hdone] at hnext
      cases hnext
  | ended | reported =>
    simp only [hphase] at hv
    have hnext := phase_setPhase hv
    rw [hdone] at hnext
    cases hnext
  | removed =>
    left
    simp only [hphase, Bool.and_eq_true, Bool.not_eq_true', Bool.or_eq_true,
      decide_eq_true_eq] at hwell
    obtain ⟨⟨⟨hauto, hrunning⟩, halive⟩, hport⟩ := hwell
    have hrestarts : s.restarts = l.standing.restarts := congrArg Standing.restarts hstanding
    by_contra hfew
    rw [← hrestarts, UInt32.not_le] at hfew
    -- Nothing but the limit keeps the server from being launched again.
    have hwants : t.fleet.wantsRestart s = true := by
      have hkept := hok.autoRestart_eq
      have hreal := hok.port_ne
      rw [← hstanding] at hkept hreal
      have hasked : s.autoRestart = true := (hkept halive).trans hauto
      have hreal : s.port ≠ 0 := hreal hrunning
      simp only [Fleet.wantsRestart, hasked, halive, Bool.not_false, Bool.and_true, ne_eq, hreal,
        not_false_eq_true, decide_true, Bool.true_and]
      exact decide_eq_true hfew
    have hsome := hport.resolve_left (UInt32.not_le.2 hfew)
    simp only [hphase] at hv
    rcases t.fleet.planRestart_cases env l.watch s with
      ⟨f, -, -, hnot | hnone⟩ | ⟨port, notice, -, -, hplan⟩
    · rw [hwants] at hnot
      cases hnot
    · rw [hnone] at hsome
      cases hsome
    · simp only [hplan] at hv
      have hnext := phase_setPhase hv
      rw [hdone] at hnext
      cases hnext
  | restarting port =>
    right
    simp only [hphase] at hwell ⊢
    -- The launch is one that succeeds.
    rcases h.relaunch_cases env hl hs hphase with ⟨hfailed, -⟩ | ⟨log, hbears⟩
    · rw [hwell] at hfailed
      cases hfailed
    · have hnew := hbears.lives (t.starting.contains t.fleet.servers.length)
        (t.isOusted t.fleet.servers.length) t.fleet.servers.length
      rw [if_pos rfl] at hnew
      exact ⟨_, hnew, hsame⟩
  | done => exact absurd hphase hsupervised

/-- A supervisor comes into another phase only with a step of its own. -/
theorem Goes.advance_of_phase_ne {env : Surroundings} {a : Action}
    (h : Goes (t.scope env a) t (t.step env a)) (hl : t.life? ref = some l)
    (hl' : (t.step env a).life? ref = some l') (hne : l'.watch.phase ≠ l.watch.phase) :
    a = .supervise ref ∧ t.step env a = { t with fleet := t.fleet.advance env ref } := by
  obtain ⟨m, hm, -, hadmits⟩ := h.lives ref l hl
  rw [hl', Option.some.injEq] at hm
  subst hm
  obtain rfl : a = .supervise ref := hadmits.phase.resolve_right hne
  refine ⟨rfl, ?_⟩
  change (t.stepSupervisor env ref).life? ref = some l' at hl'
  change t.stepSupervisor env ref = _
  unfold stepSupervisor at hl' ⊢
  split at hl'
  next =>
    rw [hl, Option.some.injEq] at hl'
    rw [hl'] at hne
    exact absurd rfl hne
  next hidle => rw [if_neg hidle]

/-- A step that goes well leaves no launch without another but at the limit. -/
theorem Sound.exhausted_step (h : t.Sound) (env : Surroundings) (a : Action)
    (hgoes : Goes (t.scope env a) t (t.step env a)) (hwell : t.goesWell id env a = true)
    (hexhausted : t.Exhausted id) : (t.step env a).Exhausted id := by
  intro ref l' hl' hid hdone
  rw [hgoes.most_eq]
  -- Whoever was there before is there still.
  have hkept : ∀ i l, t.life? i = some l → l.standing.id = id →
      ∃ l', (t.step env a).life? i = some l' ∧ l'.standing.id = id := by
    intro i l hl hsame
    obtain ⟨m, hm, hpath, -⟩ := hgoes.lives i l hl
    exact ⟨m, hm, hpath.id_eq.trans hsame⟩
  by_cases hlt : ref < t.fleet.servers.length
  · obtain ⟨l, hl⟩ := exists_life h.crew hlt
    obtain ⟨m, hm, hpath, -⟩ := hgoes.lives ref l hl
    rw [hl', Option.some.injEq] at hm
    subst hm
    rw [hpath.id_eq] at hid
    rw [hpath.spec_eq.2]
    by_cases hphase : l.watch.phase = .done
    · rcases hexhausted ref l hl hid hphase with hlimit | ⟨i, m, hafter, hm, hsame⟩
      · exact Or.inl hlimit
      · obtain ⟨m', hm', hsame'⟩ := hkept i m hm hsame
        exact Or.inr ⟨i, m', hafter, hm', hsame'⟩
    · -- Only its own supervisor can have come to its end.
      obtain ⟨rfl, hstep⟩ := hgoes.advance_of_phase_ne hl hl' (by rw [hdone]; exact Ne.symm hphase)
      have hsupervisor := watch_of_life? hl'
      rw [hstep] at hsupervisor ⊢
      rcases h.advance_done env hl hphase hid hwell hsupervisor hdone with
        hlimit | ⟨m, hm, hsame⟩
      · exact Or.inl hlimit
      · exact Or.inr ⟨t.fleet.servers.length, m, hlt, hm, hsame⟩
  · -- A server that was just made is not over.
    have hreading := hgoes.reading_of_new hl' (Nat.le_of_not_lt hlt)
    rw [hdone] at hreading
    cases hreading

/-- Where every launch with an identifier is over, the limit was reached. -/
theorem Exhausted.exists_last (hexhausted : t.Exhausted id) (hcrew : t.fleet.Crew)
    (hover : ∀ ref l, t.life? ref = some l → l.standing.id = id → l.watch.phase = .done)
    (hl : t.life? ref = some l) (hid : l.standing.id = id) :
    ∃ i m, t.life? i = some m ∧ m.standing.id = id ∧ t.most ≤ m.standing.restarts := by
  -- The launches that follow one another come to an end.
  induction hleft : t.fleet.servers.length - ref using Nat.strongRecOn
    generalizing ref l with
  | ind n ih =>
    rcases hexhausted ref l hl hid (hover ref l hl hid) with hlimit | ⟨i, m, hafter, hm, hsame⟩
    · exact ⟨ref, l, hl, hid, hlimit⟩
    · have hlt := lt_of_life? hcrew hm
      refine ih (t.fleet.servers.length - i) ?_ hm hsame rfl
      rw [← hleft]
      exact Nat.sub_lt_sub_left (Nat.lt_trans hafter hlt) hafter

/-- Where the limit was reached there were as many launches as it allows. -/
theorem Numbered.length_eq (hn : t.Numbered) (hl : t.life? ref = some l)
    (hid : l.standing.id = id) (hlimit : t.most ≤ l.standing.restarts) :
    (t.fleet.restartsOf id).length = t.most.toNat + 1 := by
  have hmem : l.standing.restarts ∈ t.fleet.restartsOf id := by
    refine List.mem_map.2 ⟨_, List.mem_filter.2 ⟨List.mem_of_getElem? (getElem?_specs hl), ?_⟩, rfl⟩
    exact decide_eq_true hid
  have hrange := List.mem_map_of_mem (f := UInt32.toNat) hmem
  rw [hn.numbered, List.mem_range] at hrange
  rw [UInt32.le_iff_toNat_le] at hlimit
  have hfew := hn.length_le id
  omega

/-! ### The last launch -/

/-- A server whose supervision goes on is the last that was launched with its identifier. -/
theorem Sound.isNewest (h : t.Sound) (hl : t.life? ref = some l) (hgoes : l.watch.phase ≠ .done) :
    t.fleet.IsNewest ref := by
  intro other hafter hsame
  obtain ⟨s, hs, hid⟩ := id_of_life? hl
  rw [hs, Option.map_some, Option.map_eq_some_iff] at hsame
  obtain ⟨s', hs', hid'⟩ := hsame
  obtain ⟨l', hl', hstanding⟩ := life_of_server? h.crew hs'
  have hids : l.standing.id = l'.standing.id := by
    rw [← hid, ← hid', ← hstanding]
    rfl
  exact hgoes (h.apart ref other l l' hafter hl hl' hids)

/-- A server that is the last with its identifier stays so where no port is claimed for its next
    launch. -/
theorem Sound.isNewest_step (h : t.Sound) (hgoes : Goes scope t t') (hl : t.life? ref = some l)
    (hnewest : t.fleet.IsNewest ref) (hundecided : ∀ port, l.watch.phase ≠ .restarting port) :
    t'.fleet.IsNewest ref := by
  intro other hafter hsame
  obtain ⟨l', hl', hpath, -⟩ := hgoes.lives ref l hl
  obtain ⟨s, hs, hid⟩ := id_of_life? hl
  obtain ⟨s', hs', hid'⟩ := id_of_life? hl'
  rw [hs', Option.map_some, Option.map_eq_some_iff] at hsame
  obtain ⟨s'', hs'', hsame⟩ := hsame
  obtain ⟨m', hm', hstanding⟩ := life_of_server? hgoes.sound.crew hs''
  have hids : m'.standing.id = l.standing.id := by
    rw [← hpath.id_eq, ← hid', ← hsame, ← hstanding]
    rfl
  by_cases hold : other < t.fleet.servers.length
  · -- A server that was there before had its identifier before.
    obtain ⟨m, hm⟩ := exists_life h.crew hold
    obtain ⟨m'', hm'', hpath', -⟩ := hgoes.lives other m hm
    rw [hm', Option.some.injEq] at hm''
    subst hm''
    obtain ⟨r, hr, hrid⟩ := id_of_life? hm
    apply hnewest other hafter
    rw [hr, hs, Option.map_some, Option.map_some, hrid, hid, ← hpath'.id_eq, hids]
  · obtain ⟨-, n, v, rfl, hbegets⟩ := hgoes.born_of_new hm' (Nat.le_of_not_lt hold)
    cases hbegets with
    | @hosted asked spec v _ hmem hstage =>
      exact h.drafts_fresh spec (mem_drafts hmem hstage) s (List.mem_of_getElem? hs)
        (hid.trans hids.symm)
    | @relaunched i p v _ hp hphase =>
      -- Whoever it is launched after has its identifier too, and can only be this server.
      have hids' : p.standing.id = l.standing.id := hids
      rcases Nat.lt_trichotomy i ref with hbefore | rfl | hlater
      · have hdone := h.apart i ref p l hbefore hp hl hids'
        rw [hphase] at hdone
        cases hdone
      · rw [hl, Option.some.injEq] at hp
        subst hp
        exact hundecided _ hphase
      · obtain ⟨r, hr, hrid⟩ := id_of_life? hp
        apply hnewest i hlater
        rw [hr, hs, Option.map_some, Option.map_some, hrid, hid, hids']

/-- No port is claimed for the next launch of a server that is not to be launched again. -/
theorem Goes.undecided_step {env : Surroundings} {a : Action}
    (hgoes : Goes (t.scope env a) t (t.step env a)) (hl : t.life? ref = some l)
    (hl' : (t.step env a).life? ref = some l') (hundecided : ∀ port, l.watch.phase ≠ .restarting port)
    (hunwanted : l.watch.phase = .removed →
      ∀ s, t.fleet.server? ref = some s → t.fleet.wantsRestart s = false) :
    ∀ port, l'.watch.phase ≠ .restarting port := by
  by_cases hsame : l'.watch.phase = l.watch.phase
  · rw [hsame]
    exact hundecided
  · obtain ⟨rfl, hstep⟩ := hgoes.advance_of_phase_ne hl hl' hsame
    have hv := watch_of_life? hl'
    obtain ⟨s, hs, -⟩ := standing_of_life? hl
    rw [hstep] at hv
    simp only [Fleet.advance, watch_of_life? hl, hs] at hv
    -- Whoever has nothing to do stays in the phase.
    have hstill : t.fleet.supervisor? ref = some l'.watch → False := by
      intro hv
      rw [watch_of_life? hl, Option.some.injEq] at hv
      rw [hv] at hsame
      exact hsame rfl
    cases hphase : l.watch.phase with
    | reading =>
      simp only [hphase] at hv
      split at hv
      · exact (hstill hv).elim
      · simp [phase_setPhase hv]
    | ended | reported | restarting =>
      simp only [hphase] at hv
      simp [phase_setPhase hv]
    | done =>
      simp only [hphase] at hv
      exact (hstill hv).elim
    | removed =>
      simp only [hphase] at hv
      rcases t.fleet.planRestart_cases env l.watch s with
        ⟨f, -, hplan, -⟩ | ⟨port, notice, hwants, -, -⟩
      · simp only [hplan] at hv
        simp [phase_setPhase hv]
      · rw [hunwanted hphase s hs] at hwants
        cases hwants

/-- Its supervisor decides that a server is launched again where the server wants that and there is a
    port. -/
theorem Sound.restarting_iff (h : t.Sound) (env : Surroundings) {s : Server} {v : Supervisor}
    (hs : t.fleet.server? ref = some s) (hv : t.fleet.supervisor? ref = some v)
    (hremoved : v.phase = .removed) :
    (∃ v' port, (t.step env (.supervise ref)).fleet.supervisor? ref = some v' ∧
        v'.phase = .restarting port) ↔
      t.fleet.wantsRestart s = true ∧
        (t.fleet.reserveForRestart env s.port v.launchPort).isSome = true := by
  have hstep : (t.step env (.supervise ref)).fleet =
      (t.fleet.planRestart env v s).2.setPhase ref (t.fleet.planRestart env v s).1 := by
    simp only [h.step_supervise env hv (by simp [hremoved]), Fleet.advance, hs, hv, hremoved]
  have hkept : (t.fleet.planRestart env v s).2.supervisor? ref = some v := by
    rcases t.fleet.planRestart_cases env v s with ⟨f, halike, hplan, -⟩ | ⟨port, notice, -, -, hplan⟩
    · rw [hplan]
      exact (halike.supervisor? ref).trans hv
    · rw [hplan]
      exact hv
  rw [← Fleet.planRestart_restarting_iff, hstep]
  generalize t.fleet.planRestart env v s = plan at hkept ⊢
  rw [supervisor?_setPhase, hkept]
  simp

/-! ### Over whole runs -/

/-- A claim that is held for a launch with an identifier, or for a request that is about to launch
    under it. -/
def HoldsClaim (t : Traffic) (id : String) (port : UInt16) : Prop :=
  (∃ ref l, t.life? ref = some l ∧ l.standing.id = id ∧ port ∈ l.watch.claims) ∨
    ∃ asked ∈ t.hostings, ∃ spec, asked.stage = .claimed spec port ∧ spec.credentials.id = id

/-- A server whose supervision is over is nowhere to be found. -/
theorem Sound.gone (h : t.Sound) (hl : t.life? ref = some l) (hdone : l.watch.phase = .done) :
    ¬ t.fleet.IsRegistered ref ∧ t.fleet.isLaunching ref = false ∧ l.watch.claims = [] := by
  have hok := h.ok ref l hl
  refine ⟨?_, ?_, ?_⟩
  · rw [isRegistered_iff hl]
    intro hkeys
    have hbefore := (hok.of_key hkeys).2
    rw [hdone] at hbefore
    cases hbefore
  · rw [← isLaunching_of_life? hl]
    exact hok.not_launching (by simp [hdone])
  · have hclaim : l.watch.holdsClaim = false := by
      by_contra hheld
      have hreading := hok.reading_of_claim (by simpa using hheld)
      rw [hdone] at hreading
      cases hreading
    simp [Supervisor.claims, SupervisorPhase.claims, hclaim, hdone]

/-- Where all launches with an identifier are over no claim is held under it. -/
theorem Sound.unclaimed (h : t.Sound)
    (hover : ∀ ref l, t.life? ref = some l → l.standing.id = id → l.watch.phase = .done)
    (hl : t.life? ref = some l) (hid : l.standing.id = id) (port : UInt16) :
    ¬ t.HoldsClaim id port := by
  rintro (⟨i, m, hm, hsame, hport⟩ | ⟨asked, hmem, spec, hstage, hsame⟩)
  · rw [(h.gone hm (hover i m hm hsame)).2.2] at hport
    cases hport
  · obtain ⟨s, hs, hmine⟩ := id_of_life? hl
    refine h.drafts_fresh spec (mem_drafts hmem hstage) s (List.mem_of_getElem? hs) ?_
    rw [hmine, hid, hsame]

/-- Every claimed port is held for somebody. -/
theorem Sound.exists_holder (h : t.Sound) {port : UInt16}
    (hclaimed : port ∈ t.fleet.ports.claimed) : ∃ id, t.HoldsClaim id port := by
  rw [h.accounts.mem_iff, List.mem_append] at hclaimed
  -- It is claimed for a launch, or for a request that is about to launch.
  rcases hclaimed with hlaunch | hrequest
  · obtain ⟨v, hv, hport⟩ := List.mem_flatMap.1 hlaunch
    have hlt : v.server < t.fleet.servers.length := by
      have hmem := List.mem_map_of_mem (f := Supervisor.server) hv
      rw [h.crew.supervised, List.mem_range] at hmem
      exact hmem
    obtain ⟨l, hl⟩ := exists_life h.crew hlt
    -- The supervisor that holds the claim is the one of its server.
    obtain ⟨before, after, hsplit, hothers⟩ := h.crew.isSupervised.split_supervisors (watch_of_life? hl)
    have hsame : v = l.watch := by
      rw [hsplit, List.mem_append, List.mem_cons] at hv
      rcases hv with hbefore | rfl | hafter
      · exact absurd rfl (hothers v (List.mem_append_left _ hbefore))
      · rfl
      · exact absurd rfl (hothers v (List.mem_append_right _ hafter))
    exact ⟨l.standing.id, Or.inl ⟨v.server, l, hl, rfl, hsame ▸ hport⟩⟩
  · obtain ⟨asked, hmem, hport⟩ := List.mem_flatMap.1 hrequest
    cases hstage : asked.stage with
    | claimed spec claimed =>
      rw [hstage, HostingStage.claims, List.mem_singleton] at hport
      subst hport
      exact ⟨_, Or.inr ⟨asked, hmem, spec, hstage, rfl⟩⟩
    | _ =>
      rw [hstage] at hport
      cases hport

/-- Every launch with an identifier is over. -/
def IsOver (t : Traffic) (id : String) : Prop :=
  ∀ ref s v, t.fleet.server? ref = some s → t.fleet.supervisor? ref = some v → s.id = id →
    v.phase = .done

theorem IsOver.of_life (h : t.IsOver id) (hl : t.life? ref = some l) (hid : l.standing.id = id) :
    l.watch.phase = .done := by
  obtain ⟨s, hs, hsame⟩ := id_of_life? hl
  exact h ref s l.watch hs (watch_of_life? hl) (hsame.trans hid)

/-- What holds of the launches after every run in which no identifier is drawn twice. -/
theorem launches_run {config : Config} {logDir : Path} {files : FileSystem}
    (hmin : 0 < config.host.minPort) {steps : List (Surroundings × Action)}
    (hdrawn : (drawn steps).Nodup) :
    let t := (Traffic.start (.start config logDir files)).run steps
    t.Sound ∧ t.Numbered ∧ t.fleet.config = config := by
  have hnobody : (Traffic.start (.start config logDir files)).Numbered := by
    refine ⟨fun id => rfl, ?_⟩
    intro e he
    cases he
  refine ⟨sound_run logDir files hmin hdrawn, ?_⟩
  exact keeps_run logDir files hmin (P := fun t => t.Numbered ∧ t.fleet.config = config)
    ⟨hnobody, rfl⟩ hdrawn fun t env a hsound hgoes hkept =>
      ⟨hsound.numbered_step hgoes hkept.1, hgoes.config.trans hkept.2⟩

/-- After a kill that came before its supervisor has decided, a server is not launched again. -/
theorem sealed_run {config : Config} {logDir : Path} {files : FileSystem}
    (hmin : 0 < config.host.minPort) {before after : List (Surroundings × Action)}
    (hdrawn : (drawn (before ++ after)).Nodup)
    (hsealed : ((Traffic.start (.start config logDir files)).run before).Sealed id) :
    ((Traffic.start (.start config logDir files)).run (before ++ after)).fleet.restartsOf id =
      ((Traffic.start (.start config logDir files)).run before).fleet.restartsOf id := by
  have hfresh := fresh_run logDir files hmin hdrawn
  have hsound := sound_run logDir files hmin (nodup_drawn_left hdrawn)
  have hrun := hsound.run_keeps
    (P := fun t' => t'.Sealed id ∧ t'.fleet.restartsOf id =
      ((Traffic.start (.start config logDir files)).run before).fleet.restartsOf id)
    ⟨hsealed, rfl⟩ hfresh fun t env a _ hsound hgoes hkept =>
      ⟨(hsound.sealed_step hgoes hkept.1).1, (hsound.sealed_step hgoes hkept.1).2.trans hkept.2⟩
  rw [run_append]
  exact hrun.2.2

/-- Where every step goes well only the limit stops the launches. -/
theorem exhausted_run {config : Config} {logDir : Path} {files : FileSystem}
    (hmin : 0 < config.host.minPort) {steps : List (Surroundings × Action)}
    (hdrawn : (drawn steps).Nodup)
    (hwell : allGoWell id (Traffic.start (.start config logDir files)) steps = true) :
    ((Traffic.start (.start config logDir files)).run steps).Exhausted id := by
  induction steps using List.reverseRecOn with
  | nil =>
    intro ref l hl
    obtain ⟨s, v, hs, -⟩ := life?_eq_some_iff.1 hl
    cases hs
  | append_singleton steps last ih =>
    obtain ⟨env, a⟩ := last
    have hbefore := nodup_drawn_left hdrawn
    have hsound := sound_run logDir files hmin hbefore
    obtain ⟨hwell, hlast⟩ := (allGoWell_concat id _ steps env a).1 hwell
    rw [run_append]
    exact hsound.exhausted_step env a (goes_run logDir files hmin hdrawn) hlast (ih hbefore hwell)

/-- The launches after every run in which no identifier is drawn twice. Every launch goes back to
    one hosting request. The launches of a request are numbered from zero on, and there are at most
    one more than the limit says. A server that was killed before its supervisor has decided is not
    launched again. Where all goes well there are as many launches as there may be, and once they
    are over nothing of them is left. -/
theorem restarts_of_run (config : Config) (logDir : Path) (files : FileSystem)
    (hmin : 0 < config.host.minPort) (steps : List (Surroundings × Action))
    (hdrawn : (drawn steps).Nodup) :
    let start := Traffic.start (.start config logDir files)
    let t := start.run steps
    (∀ e ∈ t.fleet.specs, ∃ i : Nat, (∃ asked, t.hostings[i]? = some asked ∧
        t.Hosts asked e.1.credentials.id) ∧
      ∀ (j : Nat) (asked : Hosting), t.hostings[j]? = some asked →
        t.Hosts asked e.1.credentials.id → j = i) ∧
    (∀ id, (t.fleet.restartsOf id).map UInt32.toNat = List.range (t.fleet.restartsOf id).length ∧
      (t.fleet.restartsOf id).length ≤ config.host.maxRestarts.toNat + 1) ∧
    (∀ before after, steps = before ++ after → ∀ ref s v,
      (start.run before).fleet.server? ref = some s →
      (start.run before).fleet.supervisor? ref = some v → s.isKilled = true → v.phase ≠ .done →
      (∀ port, v.phase ≠ .restarting port) →
      t.fleet.restartsOf s.id = (start.run before).fleet.restartsOf s.id) ∧
    ∀ id, allGoWell id start steps = true → t.fleet.restartsOf id ≠ [] → t.IsOver id →
      (t.fleet.restartsOf id).length = config.host.maxRestarts.toNat + 1 ∧
      (∀ ref s, t.fleet.server? ref = some s → s.id = id →
        ¬ t.fleet.IsRegistered ref ∧ t.fleet.isLaunching ref = false) ∧
      (∀ port, ¬ t.HoldsClaim id port) ∧
      ∀ port ∈ t.fleet.ports.claimed, ∃ other, other ≠ id ∧ t.HoldsClaim other port := by
  intro start t
  obtain ⟨hsound, hnumbered, hconfig⟩ := launches_run hmin hdrawn
  have hhosted : t.Hosted := hosted_run logDir files hmin hdrawn
  have hmost : t.most = config.host.maxRestarts := by
    rw [most]
    exact congrArg (·.host.maxRestarts) hconfig
  refine ⟨?_, ?_, ?_, ?_⟩
  · intro e he
    obtain ⟨asked, hmem, hhosts⟩ := hhosted.served e he
    obtain ⟨i, hi⟩ := List.getElem?_of_mem hmem
    refine ⟨i, ⟨asked, hi, hhosts⟩, ?_⟩
    intro j other hj hother
    exact hhosted.apart j i other asked _ hj hi hother hhosts
  · intro id
    rw [← hmost]
    exact ⟨hnumbered.numbered id, hnumbered.length_le id⟩
  · intro before after hsplit ref s v hs hv hkilled hgoes hundecided
    have hbefore : (drawn before).Nodup := nodup_drawn_left (hsplit ▸ hdrawn)
    have hlife := life?_eq_some_iff.2 ⟨s, v, hs, hv, rfl⟩
    have hsealed := (sound_run logDir files hmin hbefore).sealed hlife hkilled hgoes hundecided
    change (start.run steps).fleet.restartsOf s.id = _
    rw [hsplit] at hdrawn ⊢
    exact sealed_run hmin hdrawn hsealed
  · intro id hwell hlaunched hover
    have hover' : ∀ ref l, t.life? ref = some l → l.standing.id = id → l.watch.phase = .done :=
      fun ref l hl hid => hover.of_life hl hid
    -- There is a launch, so that there is a last one.
    obtain ⟨ref, l, hl, hid⟩ : ∃ ref l, t.life? ref = some l ∧ l.standing.id = id := by
      obtain ⟨restarts, hrestarts⟩ := List.exists_mem_of_ne_nil _ hlaunched
      obtain ⟨e, he, -⟩ := List.mem_map.1 hrestarts
      rw [List.mem_filter, decide_eq_true_eq] at he
      obtain ⟨ref, href⟩ := List.getElem?_of_mem he.1
      obtain ⟨l, hl, rfl⟩ := exists_life_of_spec hsound.crew href
      exact ⟨ref, l, hl, he.2⟩
    have hunclaimed : ∀ port, ¬ t.HoldsClaim id port := hsound.unclaimed hover' hl hid
    refine ⟨?_, ?_, hunclaimed, ?_⟩
    · obtain ⟨i, m, hm, hsame, hlimit⟩ :=
        (exhausted_run hmin hdrawn hwell).exists_last hsound.crew hover' hl hid
      rw [← hmost]
      exact hnumbered.length_eq hm hsame hlimit
    · intro i s hs hsame
      obtain ⟨m, hm, hstanding⟩ := life_of_server? hsound.crew hs
      have hgone := hsound.gone hm (hover' i m hm ((congrArg Standing.id hstanding).symm.trans hsame))
      exact ⟨hgone.1, hgone.2.1⟩
    · intro port hclaimed
      obtain ⟨other, hholds⟩ := hsound.exists_holder hclaimed
      refine ⟨other, ?_, hholds⟩
      rintro rfl
      exact hunclaimed port hholds

/-- On the small machine a server that always runs and ends is launched twice where it is to be
    launched again once. -/
theorem restarts_of_small_run :
    let steps := smallSteps (smallHosting ++ (smallEnd 0 ++ List.replicate 3 (.supervise 0)) ++
      (smallEnd 1 ++ List.replicate 2 (.supervise 1)))
    let t := (smallStart 1).run steps
    allGoWell "xxxxx" (smallStart 1) steps = true ∧ t.IsOver "xxxxx" ∧
      (t.fleet.restartsOf "xxxxx").length = 2 := by
  intro steps t
  obtain ⟨hwell, hlaunched, hdone⟩ : allGoWell "xxxxx" (smallStart 1) steps = true ∧
      t.fleet.restartsOf "xxxxx" ≠ [] ∧ ∀ v ∈ t.fleet.supervisors, v.phase = .done := by
    decide +kernel
  have hover : t.IsOver "xxxxx" := fun _ _ v _ hv _ => hdone v (List.mem_of_find?_eq_some hv)
  have hrun := restarts_of_run (smallConfig 1) "/l" smallFiles (by decide) steps (by decide +kernel)
  exact ⟨hwell, hover, (hrun.2.2.2 "xxxxx" hwell hlaunched hover).1⟩

end Traffic

end HostDaemon
