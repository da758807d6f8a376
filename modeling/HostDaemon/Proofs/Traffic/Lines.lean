import HostDaemon.Proofs.Traffic.Sound

/-! # Lines and the first startup line

  A supervisor that handles a line moves the life of its own server and of no other, and takes
  nobody out of the registry (`Traffic.Sound.goes_line`). The first startup line is handled in two
  steps: the server is registered or turned away, and then it leaves the launching servers
  (`Traffic.Sound.goes_finishStart`). -/

namespace HostDaemon

/-- What is to be known of a server whose supervisor waits for lines. -/
def Life.IsReading (l : Life) : Prop := l.watch.phase = .reading ∧ l.isStarting = false

namespace Traffic

variable {t t' : Traffic} {ref : ServerRef} {l : Life} {scope : Scope}

/-- A supervisor that waits for lines has a server. -/
theorem isReading_iff (hcrew : t.fleet.Crew) :
    t.isReading ref = true ↔ ∃ l, t.life? ref = some l ∧ l.IsReading := by
  unfold isReading
  constructor
  · intro h
    split at h
    next v hv =>
      simp only [Bool.and_eq_true, decide_eq_true_eq, Bool.not_eq_true'] at h
      obtain ⟨l, hl, rfl⟩ := life_of_supervisor? hcrew hv
      refine ⟨l, hl, h.1, ?_⟩
      rw [isStarting_of_life? hl]
      exact h.2
    next => cases h
  · rintro ⟨l, hl, hphase, hidle⟩
    rw [isStarting_of_life? hl] at hidle
    simp only [watch_of_life? hl, hphase, hidle, decide_true, Bool.not_false, Bool.and_self]

/-- Once the end of its process was noticed no server is in the middle of its start. -/
theorem Sound.not_starting (h : t.Sound) {v : Supervisor} (hv : t.fleet.supervisor? ref = some v)
    (hended : v.phase ≠ .reading) : t.starting.contains ref = false := by
  obtain ⟨l, hl, rfl⟩ := life_of_supervisor? h.crew hv
  rw [← isStarting_of_life? hl]
  by_contra hstarting
  exact hended ((h.ok ref l hl).of_starting (by simpa using hstarting)).1

/-- The supervisor of a server whose process has ended is to do what comes next. -/
theorem Sound.step_supervise (h : t.Sound) (env : Surroundings) {v : Supervisor}
    (hv : t.fleet.supervisor? ref = some v) (hended : v.phase ≠ .reading) :
    t.step env (.supervise ref) = { t with fleet := t.fleet.advance env ref } := by
  change t.stepSupervisor env ref = _
  rw [stepSupervisor, h.not_starting hv hended]
  rfl

/-! ### The first startup line -/

/-- A line that tells of the start of a server is one of a server that does not run. -/
theorem silent_of_startsNow (hl : t.life? ref = some l) {events : List ConsoleEvent}
    (hstarts : startsNow t.fleet ref events = true) : l.standing.isRunning = false := by
  obtain ⟨s, hs, hstanding⟩ := standing_of_life? hl
  simp only [startsNow, hs, Bool.and_eq_true, Option.any_some, Bool.not_eq_true'] at hstarts
  rw [← hstanding]
  exact hstarts.2

/-- The first startup line of a server either registers it, or turns it away. -/
theorem Sound.start_cases (h : t.Sound) (hl : t.life? ref = some l)
    (hphase : l.watch.phase = .reading) (hsilent : l.standing.isRunning = false) :
    (∃ f, (t.fleet.beginStart ref).register ref = .ok f ∧ f.launching = t.fleet.launching ∧
      Fleet.Moves ref (fun l => l.begin.enroll) t.fleet f) ∨
    ∃ e move, (t.fleet.beginStart ref).register ref = .error e ∧
      Fleet.Moves ref move t.fleet ((t.fleet.beginStart ref).rejectStart ref e) ∧
      ∀ m : Life, Life.Path t.most m.begin.leave.mark.release (move m) ∧
        (move m).keys = m.keys ∧ (move m).watch.phase = m.watch.phase ∧
        (move m).isStarting = m.isStarting := by
  have hbegin := t.fleet.moves_beginStart ref
  have hcrew := hbegin.crew h.crew
  -- The port is fixed first, which neither registers anybody nor ends a launch.
  have hregistry : (t.fleet.beginStart ref).registry = t.fleet.registry := by
    unfold Fleet.beginStart Fleet.settlePort
    repeat' split
    all_goals rfl
  have hlaunching : (t.fleet.beginStart ref).launching = t.fleet.launching := by
    unfold Fleet.beginStart Fleet.settlePort
    repeat' split
    all_goals rfl
  have hlt : ref < (t.fleet.beginStart ref).servers.length := by
    rw [hbegin.length_servers]
    exact lt_of_life? h.crew hl
  have hserver : (t.fleet.beginStart ref).server? ref = some _ := List.getElem?_eq_getElem hlt
  -- A server that has told nothing yet is not registered.
  have hfresh : (t.fleet.beginStart ref).registry.keysOf ref = [] := by
    rw [hregistry]
    have hkeys := (h.ok ref l hl).keys_of_silent hsilent
    obtain ⟨s, v, -, -, rfl⟩ := life?_eq_some_iff.1 hl
    exact hkeys
  rcases Fleet.register_cases hserver with ⟨hport, hregister⟩ | ⟨-, hregister⟩
  · exact Or.inl ⟨_, hregister, hlaunching, hbegin.trans (Fleet.moves_enroll _ hserver hport hfresh)⟩
  · right
    have halone : (t.fleet.beginStart ref).IsAlone ref :=
      (h.isAlone hl (by simp [hphase])).congr hbegin.ids hlaunching
    rcases Fleet.moves_rejectStart hcrew halone _ with hreject | hreject
    · exact ⟨_, _, hregister, hbegin.trans hreject, fun m => ⟨.refl, rfl, rfl, rfl⟩⟩
    · exact ⟨_, _, hregister, hbegin.trans hreject,
        fun m => ⟨.single .endProcess, rfl, rfl, rfl⟩⟩

/-- Whoever is registered or turned away, nobody else goes on. -/
theorem register_eq (t : Traffic) (f : Fleet) (ref : ServerRef) :
    ∃ f' starting, t.register f ref = { t with fleet := f', starting := starting } ∧
      ∀ other ∈ starting, other = ref ∨ other ∈ t.starting := by
  unfold register
  split
  · exact ⟨_, _, rfl, fun other hother => List.mem_cons.1 hother⟩
  · exact ⟨_, t.starting, rfl, fun other hother => Or.inr hother⟩

/-- The supervisor of a server begins to handle its first startup line. -/
theorem Sound.follows_register (h : t.Sound) (hl : t.life? ref = some l) (hreading : l.IsReading)
    (hsilent : l.standing.isRunning = false) :
    Follows scope t (t.register t.fleet ref) := by
  obtain ⟨hphase, hidle⟩ := hreading
  rcases h.start_cases hl hphase hsilent with
    ⟨f, hregister, -, hmoves⟩ | ⟨e, move, hregister, hmoves, hmove⟩
  · rw [register, hregister]
    refine Follows.of_moves h hmoves rfl ?_ ?_
      fun m => ⟨Or.inr fun key hkey => List.mem_append_left _ hkey, Or.inr rfl⟩
    · intro other hother
      refine ⟨?_, rfl⟩
      simp [hother]
    · intro l' hl'
      rw [hl, Option.some.injEq] at hl'
      subst hl'
      -- From here on its supervisor is in the middle of its start.
      have hstart : Life.Next t.most l _ := .start hphase hsilent
      have housted : l.isOusted = t.isOusted ref := isOusted_of_life? hl
      have hself : (ref :: t.starting).contains ref = true := by simp
      change Life.Path t.most l { l.begin.enroll with
        isStarting := (ref :: t.starting).contains ref, isOusted := t.isOusted ref }
      rw [hself, ← housted]
      exact .single hstart
  · rw [register, hregister]
    refine Follows.of_fleet h hmoves ?_ fun m => .of_eq (hmove m).2.1 (hmove m).2.2.1
    intro l' hl'
    rw [hl, Option.some.injEq] at hl'
    subst hl'
    exact .head (.reject hphase hsilent) (hmove l).1

/-! ### Events -/

/-- An event of a server whose supervisor waits for lines moves its life, and its supervisor waits
    for lines still. -/
theorem Sound.follows_event (h : t.Sound) (hl : t.life? ref = some l) (hreading : l.IsReading)
    (env : Surroundings) (event : ConsoleEvent) :
    Follows scope t { t with fleet := t.fleet.onEvent env ref event } ∧
      ∃ l', life? { t with fleet := t.fleet.onEvent env ref event } ref = some l' ∧
        l'.IsReading := by
  -- It is enough to know which way the life moves.
  have hmove : ∀ {f : Fleet} {move : Life → Life}, Fleet.Moves ref move t.fleet f →
      Life.Path t.most l (move l) → (∀ m, scope.Admits ref m (move m)) →
      (move l).IsReading → Follows scope t { t with fleet := f } ∧
        ∃ l', life? { t with fleet := f } ref = some l' ∧ l'.IsReading := by
    intro f move hmoves hpath hadmits hreading'
    refine ⟨Follows.of_fleet h hmoves ?_ hadmits, move l, ?_, hreading'⟩
    · intro m hm
      rw [hl, Option.some.injEq] at hm
      exact hm ▸ hpath
    · have hlives := hmoves.lives (t.starting.contains ref) (t.isOusted ref)
      exact (congrFun hlives ref).trans (by rw [Life.moveAt, if_pos rfl, ← life?, hl]; rfl)
  have hquiet : ∀ {f : Fleet}, t.fleet.Alike f → Follows scope t { t with fleet := f } ∧
      ∃ l', life? { t with fleet := f } ref = some l' ∧ l'.IsReading :=
    fun halike => hmove (halike.moves ref) .refl (fun _ => .of_eq rfl rfl) hreading
  -- A port that is told is noted only before the first startup line.
  have htold : ∀ port : UInt16,
      Follows scope t { t with fleet := t.fleet.update ref fun s =>
        if s.isRunning then s else { s with port := port } } ∧
      ∃ l', life? { t with fleet := t.fleet.update ref fun s =>
        if s.isRunning then s else { s with port := port } } ref = some l' ∧ l'.IsReading := by
    intro port
    refine hmove (t.fleet.moves_update ref _
      (fun s => { s with port := if s.isRunning then s.port else port })
      (fun s => by cases hrunning : s.isRunning <;> simp [Server.standing, hrunning])
      fun _ => ⟨rfl, rfl⟩) ?_ (fun _ => .of_eq rfl rfl) hreading
    by_cases hrunning : l.standing.isRunning = true
    · rw [if_pos hrunning]
    · rw [if_neg hrunning]
      exact .single (.tellPort port hreading.1 (by simpa using hrunning))
  cases event with
  | alternatePort port => exact htold port
  | bindRetry port => exact htold port
  | boundAddress address =>
    exact hquiet (t.fleet.alike_update ref ({ · with address := some address }) fun _ => rfl)
  | initialized =>
    obtain ⟨s, hs, hstanding⟩ := standing_of_life? hl
    have hevent : t.fleet.onEvent env ref .initialized =
        if s.isRunning then t.fleet else t.fleet.onStarted ref := by
      simp only [Fleet.onEvent, hs]
    rw [hevent]
    split
    next => exact hquiet (.refl _)
    next hnot =>
      have hsilent : l.standing.isRunning = false := by
        rw [← hstanding]
        simpa [Server.standing] using hnot
      rcases h.start_cases hl hreading.1 hsilent with
        ⟨f, hregister, hlaunching, hmoves⟩ | ⟨e, move, hregister, hmoves, hto⟩
      · have hstarted : t.fleet.onStarted ref = f.finishStart ref := by
          simp only [Fleet.onStarted, hregister]
        have halone : f.IsAlone ref :=
          (h.isAlone hl (by simp [hreading.1])).congr hmoves.ids hlaunching
        have hfinish := hmoves.trans (Fleet.moves_finishStart (hmoves.crew h.crew) halone)
        rw [hstarted]
        refine hmove hfinish ?_
          (fun m => ⟨Or.inr fun key hkey => List.mem_append_left _ hkey, Or.inr rfl⟩) hreading
        -- Both steps are made at once, so that nobody sees the one between them.
        have hfirst : Life.Next t.most l _ := .start hreading.1 hsilent
        have hsecond : Life.Next t.most { l.begin.enroll with isStarting := true } _ :=
          .finishStart rfl
        have hflag : { l.begin.enroll.leave.release with isStarting := false } =
            l.begin.enroll.leave.release := by
          rw [← hreading.2]
          rfl
        exact .tail (.single hfirst) (hflag ▸ hsecond)
      · have hstarted : t.fleet.onStarted ref = (t.fleet.beginStart ref).rejectStart ref e := by
          simp only [Fleet.onStarted, hregister]
        obtain ⟨hpath, hkeys, hphase, hidle⟩ := hto l
        rw [hstarted]
        refine hmove hmoves (.head (.reject hreading.1 hsilent) hpath)
          (fun m => .of_eq (hto m).2.1 (hto m).2.2.1)
          ⟨hphase.trans hreading.1, hidle.trans hreading.2⟩
  | playerSeen name ip checkReputation => exact hquiet (t.fleet.alike_onPlayer ref ip checkReputation)
  | credentialChanged credential value =>
    exact hquiet (t.fleet.alike_onCredential ref credential value)
  | activity =>
    exact hquiet (t.fleet.alike_update ref (·.touch env.now) fun s => s.fate_touch env.now)

/-- A line moves the life of the server that printed it. -/
theorem Sound.follows_line (h : t.Sound) (hl : t.life? ref = some l) (hreading : l.IsReading)
    (env : Surroundings) (text : String) :
    Follows scope t { t with fleet := t.fleet.onLine env ref text } := by
  have halike := t.fleet.alike_logLine env ref text
  -- After each event its supervisor waits for lines still.
  refine (t.fleet.onLine_induction (P := fun f => Follows scope t { t with fleet := f } ∧
    ∃ l', life? { t with fleet := f } ref = some l' ∧ l'.IsReading) env ref text
    ⟨Follows.of_alike h halike, l, ?_, hreading⟩ ?_).1
  · exact (halike.life? (t.starting.contains ref) (t.isOusted ref) ref).trans hl
  · rintro f event ⟨hfollows, l', hl', hreading'⟩
    obtain ⟨hfollows', hlater⟩ := (h.follows_fleet hfollows).follows_event hl' hreading' env event
    exact ⟨hfollows.trans hfollows', hlater⟩

/-- A supervisor that handles a line takes nobody out of the registry. -/
theorem Sound.goes_line (h : t.Sound) (env : Surroundings) (ref : ServerRef) (text : String) :
    Goes scope t (t.stepLine env ref text) := by
  unfold stepLine
  split
  next => exact (Follows.refl h).goes h
  next hreads =>
    obtain ⟨l, hl, hreading⟩ := (isReading_iff h.crew).1 (by simpa using hreads)
    split
    next hstarts =>
      have halike := t.fleet.alike_logLine env ref text
      have hlogged : Follows scope t { t with fleet := t.fleet.logLine env ref text } :=
        Follows.of_alike h halike
      have hsound := h.follows_fleet hlogged
      have hl' : life? { t with fleet := t.fleet.logLine env ref text } ref = some l :=
        (halike.life? (t.starting.contains ref) (t.isOusted ref) ref).trans hl
      have hsilent := silent_of_startsNow hl hstarts
      have hfollows := hlogged.trans (hsound.follows_register hl' hreading hsilent)
      obtain ⟨f', starting, heq, hstarting⟩ :=
        t.register_eq (t.fleet.logLine env ref text) ref
      -- The line is logged before the server is registered.
      have heq' : register { t with fleet := t.fleet.logLine env ref text }
          (t.fleet.logLine env ref text) ref = { t with fleet := f', starting := starting } := heq
      rw [heq'] at hfollows
      rw [heq]
      refine hfollows.goes (h.follows hfollows ?_ (h.kills_kept hfollows) h.drafts_fresh
        h.drafts_nodup)
      intro other hother
      rcases hstarting other hother with rfl | hold
      · exact lt_of_life? h.crew hl
      · exact h.starting_lt other hold
    next => exact h.goes_fleet (h.follows_line hl hreading env text)

/-- A supervisor that finishes the start of its server takes nobody out of the registry. -/
theorem Sound.goes_finishStart (h : t.Sound) (ref : ServerRef) : Goes scope t (t.stepStart ref) := by
  unfold stepStart
  split
  next hstarting =>
    have hlt := h.starting_lt ref (by simpa using hstarting)
    obtain ⟨l, hl⟩ := exists_life h.crew hlt
    have hidle : l.isStarting = true := (isStarting_of_life? hl).trans hstarting
    have hphase := ((h.ok ref l hl).of_starting hidle).1
    have hmoves := Fleet.moves_finishStart h.crew (h.isAlone hl (by simp [hphase]))
    have hfollows : Follows scope t { t with
        fleet := t.fleet.finishStart ref
        starting := t.starting.filter fun other => decide (other ≠ ref) } := by
      refine Follows.of_moves h hmoves rfl ?_ ?_ fun _ => .of_eq rfl rfl
      · intro other hother
        refine ⟨?_, rfl⟩
        simp [hother]
      · intro l' hl'
        rw [hl, Option.some.injEq] at hl'
        subst hl'
        have hnext : Life.Next t.most l _ := .finishStart hidle
        have hgone : (t.starting.filter fun other => decide (other ≠ ref)).contains ref = false := by
          simp
        have housted : l.isOusted = t.isOusted ref := isOusted_of_life? hl
        change Life.Path t.most l { l.leave.release with
          isStarting := (t.starting.filter fun other => decide (other ≠ ref)).contains ref
          isOusted := t.isOusted ref }
        rw [hgone, ← housted]
        exact .single hnext
    refine hfollows.goes (h.follows hfollows ?_ (h.kills_kept hfollows) h.drafts_fresh
      h.drafts_nodup)
    intro other hother
    exact h.starting_lt other (List.mem_of_mem_filter hother)
  next => exact (Follows.refl h).goes h

end Traffic

end HostDaemon
