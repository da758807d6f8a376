import HostDaemon.Proofs.Fleet.Tenures
import HostDaemon.Proofs.Traffic.Handouts
import HostDaemon.Proofs.Traffic.Unstarted
import Mathlib.Data.List.Induction

/-! # Claims are given back

  A claim on a port travels from the request that made it through the launch to the first startup
  line of the server, and from the end of a server to its next launch. It is given back at four
  places, and whoever holds it holds it alone.

  - `Traffic.Tenable` is the invariant: the books are in order, and a launch holds its claim as long
    as its output is read and its start is not dealt with.
  - `Traffic.Tenable.step` keeps it, and says which steps make a server run.
  - `Traffic.claims_of_run` is the result for every run. Identifiers may be drawn twice in it, and
    port zero may be in the range. -/

namespace HostDaemon

namespace Traffic

variable {t t' : Traffic} {ref : ServerRef} {move : Tenure → Tenure} {f : Fleet}
  {starts : ServerRef → Prop}

/-! ### What is kept -/

/-- What holds of the claims at every moment. -/
structure Tenable (t : Traffic) : Prop where
  /-- Every claimed port is claimed once, for a launch or for a hosting request. -/
  books : t.fleet.Books t.claims
  /-- A launch holds its claim as long as it may. -/
  holds : ∀ ref c, t.fleet.tenure? ref = some c → c.Holds (t.starting.contains ref)
  /-- Who is in the middle of its start runs. -/
  starting : ∀ ref ∈ t.starting, ∃ c, t.fleet.tenure? ref = some c ∧ c.isRunning = true

/-- Has a server reported its startup? -/
def IsUp (t : Traffic) (ref : ServerRef) : Prop :=
  ∃ c, t.fleet.tenure? ref = some c ∧ c.isRunning = true

/-- A step was made: what holds of the claims is kept, and a server runs if it did or has just told
    of its start. -/
structure Keeps (starts : ServerRef → Prop) (t t' : Traffic) : Prop where
  /-- What holds of the claims holds afterwards. -/
  tenable : t'.Tenable
  /-- Whoever runs has run before, or starts now. -/
  isUp_iff : ∀ ref, t'.IsUp ref ↔ t.IsUp ref ∨ starts ref

/-- What happens to one launch keeps what holds of the claims, where that launch holds its claim no
    longer than it may. -/
theorem Tenable.shifts (h : t.Tenable) (hshifts : Fleet.Shifts ref move t.fleet t'.fleet)
    (hbooks : t'.fleet.Books t'.claims)
    (hothers : ∀ other, other ≠ ref → (other ∈ t'.starting ↔ other ∈ t.starting))
    (hself : ∀ c, t.fleet.tenure? ref = some c → c.Holds (t.starting.contains ref) →
      (move c).Holds (t'.starting.contains ref))
    (hruns : ∀ c, t.fleet.tenure? ref = some c →
      ((move c).isRunning = true ↔ c.isRunning = true ∨ starts ref))
    (hstarting : ref ∈ t'.starting → ∃ c, t.fleet.tenure? ref = some c ∧
      (move c).isRunning = true)
    (hstarts : ∀ other, starts other → other = ref ∧ (t.fleet.tenure? ref).isSome) :
    Keeps starts t t' := by
  have hmoved : ∀ c, t.fleet.tenure? ref = some c → t'.fleet.tenure? ref = some (move c) := by
    intro c hc
    rw [hshifts.old ref c hc, if_pos rfl]
  have hkept : ∀ other c, other ≠ ref → t.fleet.tenure? other = some c →
      t'.fleet.tenure? other = some c := by
    intro other c hne hc
    rw [hshifts.old other c hc, if_neg hne]
  refine ⟨⟨hbooks, ?_, ?_⟩, ?_⟩
  · intro other c' hc'
    cases hc : t.fleet.tenure? other with
    | none =>
      rw [hshifts.new other c' hc hc']
      exact Tenure.holds_born _
    | some c =>
      by_cases heq : other = ref
      · subst heq
        rw [hmoved c hc, Option.some.injEq] at hc'
        rw [← hc']
        exact hself c hc (h.holds other c hc)
      · rw [hkept other c heq hc, Option.some.injEq] at hc'
        have hsame : t'.starting.contains other = t.starting.contains other := by
          rw [Bool.eq_iff_iff, List.contains_iff_mem, List.contains_iff_mem]
          exact hothers other heq
        rw [hsame, ← hc']
        exact h.holds other c hc
  · intro other hmem
    by_cases heq : other = ref
    · subst heq
      obtain ⟨c, hc, hrunning⟩ := hstarting hmem
      exact ⟨_, hmoved c hc, hrunning⟩
    · obtain ⟨c, hc, hrunning⟩ := h.starting other ((hothers other heq).1 hmem)
      exact ⟨c, hkept other c heq hc, hrunning⟩
  · intro other
    cases hc : t.fleet.tenure? other with
    | none =>
      -- A server that was made has told nothing yet.
      have hnot : ¬ starts other := by
        intro hs
        obtain ⟨rfl, hsome⟩ := hstarts other hs
        rw [hc] at hsome
        cases hsome
      have hsilent : ¬ t'.IsUp other := by
        rintro ⟨c', hc', hrunning⟩
        rw [hshifts.new other c' hc hc'] at hrunning
        cases hrunning
      refine ⟨fun hup => absurd hup hsilent, ?_⟩
      rintro (⟨c, hc', -⟩ | hs)
      · rw [hc] at hc'
        cases hc'
      · exact absurd hs hnot
    | some c =>
      by_cases heq : other = ref
      · subst heq
        simp only [IsUp, hmoved c hc, hc, Option.some.injEq, exists_eq_left']
        exact hruns c hc
      · have hnot : ¬ starts other := fun hs => heq (hstarts other hs).1
        simp [IsUp, hkept other c heq hc, hc, hnot]

/-- What happens to one launch that neither starts nor is in the middle of its start. -/
theorem Tenable.moves (h : t.Tenable) (hshifts : Fleet.Shifts ref move t.fleet t'.fleet)
    (hbooks : t'.fleet.Books t'.claims) (hstarting : t'.starting = t.starting)
    (hmove : ∀ c, t.fleet.tenure? ref = some c → (move c).isRunning = c.isRunning ∧
      (c.Holds (t.starting.contains ref) → (move c).Holds (t.starting.contains ref))) :
    Keeps (fun _ => False) t t' := by
  refine h.shifts hshifts hbooks (fun other _ => by rw [hstarting]) ?_ ?_ ?_ ?_
  · intro c hc
    rw [hstarting]
    exact (hmove c hc).2
  · intro c hc
    rw [(hmove c hc).1, or_false]
  · intro hmem
    rw [hstarting] at hmem
    obtain ⟨c, hc, hrunning⟩ := h.starting ref hmem
    exact ⟨c, hc, (hmove c hc).1.trans hrunning⟩
  · intro other hfalse
    exact hfalse.elim

/-- What moves no launch keeps what holds of the claims. -/
theorem Tenable.quiet (h : t.Tenable) (hturns : Fleet.Turns ref id t.fleet t'.fleet)
    (hhostings : t'.hostings = t.hostings) (hstarting : t'.starting = t.starting) :
    Keeps (fun _ => False) t t' := by
  have hclaims : t'.claims = t.claims := by rw [claims, hhostings, claims]
  refine h.moves (.of_tenures hturns.tenures) ?_ hstarting fun c _ => ⟨rfl, id⟩
  rw [hclaims]
  exact hturns.books _ h.books

/-! ### Hosting requests -/

/-- A request that goes on may claim a port, or leave its claim to a launch. -/
theorem Tenable.setStage (h : t.Tenable) {i : Nat} {asked : Hosting}
    (hget : t.hostings[i]? = some asked) {stage : HostingStage} {gate : Option Nat}
    (hkeeps : ∀ others, t.fleet.Books (asked.stage.claims ++ others) →
      Fleet.Shifts 0 id t.fleet f ∧ f.Books (stage.claims ++ others)) :
    Keeps (fun _ => False) t { t.setStage i stage with fleet := f, gate := gate } := by
  obtain ⟨rest, hbefore, hafter⟩ := perm_setStage hget (fun h => h.stage.claims) stage
  obtain ⟨hshifts, hbooks⟩ := hkeeps rest (h.books.perm hbefore)
  exact h.moves hshifts (hbooks.perm hafter.symm) rfl fun c _ => ⟨rfl, id⟩

/-- A request that was permitted claims a port once its options were checked, and its launch takes
    the claim over or gives it back. -/
theorem nextStage_keeps {others : List UInt16} {asked : Hosting} (env : Surroundings)
    (h : f.Books (asked.stage.claims ++ others)) :
    Fleet.Shifts 0 id f (nextStage f env asked).2 ∧
      (nextStage f env asked).2.Books ((nextStage f env asked).1.claims ++ others) := by
  -- Where only its stage or the places in the quota change nothing happens to claims.
  have hquiet : ∀ {stage : HostingStage} {f' : Fleet}, stage.claims = asked.stage.claims →
      f'.servers = f.servers → f'.supervisors = f.supervisors → f'.ports = f.ports →
      Fleet.Shifts 0 id f f' ∧ f'.Books (stage.claims ++ others) := by
    intro stage f' hclaims hservers hsupervisors hports
    have hturns := Fleet.turns_of_tables hservers hsupervisors hports 0
    refine ⟨.of_tenures hturns.tenures, ?_⟩
    rw [hclaims]
    exact hturns.books _ h
  have hleave : leavePlace f asked = f ∨ leavePlace f asked = f.givePlaceBack asked.owner := by
    unfold leavePlace
    split
    · exact Or.inl rfl
    · exact Or.inr rfl
  cases hstage : asked.stage with
  | built spec =>
    simp only [nextStage, hstage]
    cases hreserve : f.reserveFor env spec with
    | error e => exact hquiet (by rw [hstage]; rfl) rfl rfl rfl
    | ok claim =>
      obtain ⟨port, f'⟩ := claim
      obtain ⟨hgives, rfl⟩ := Fleet.reserveFor_eq_ok hreserve
      rw [hstage] at h
      exact ⟨.of_tenures (Fleet.turns_of_tables rfl rfl rfl 0).tenures, h.claim hgives⟩
  | claimed spec port =>
    rw [hstage] at h
    have hkeeps := Fleet.launch_keeps h 0 env spec 0 asked.recovering
    simp only [nextStage, hstage]
    split
    next heq =>
      rw [heq] at hkeeps
      exact hkeeps
    next heq =>
      rw [heq] at hkeeps
      exact hkeeps
  | looked registered =>
    simp only [nextStage, hstage]
    split <;> exact hquiet (by rw [hstage]; rfl) rfl rfl rfl
  | launched ref | failed cause =>
    simp only [nextStage, hstage]
    rcases hleave with hsame | hback
    · rw [hsame]
      exact hquiet (by rw [hstage]; rfl) rfl rfl rfl
    · rw [hback]
      exact hquiet (by rw [hstage]; rfl) rfl rfl rfl
  | permitted =>
    simp only [nextStage, hstage]
    exact hquiet (by rw [hstage]; rfl) rfl rfl rfl
  | waiting | countedPending | countedLaunching | answered =>
    simp only [nextStage, hstage]
    exact hquiet (by rw [hstage]) rfl rfl rfl

/-- A hosting request goes on. -/
theorem Tenable.hosting (h : t.Tenable) (env : Surroundings) (i : Nat) :
    Keeps (fun _ => False) t (t.stepHosting env i) := by
  have hnothing : Keeps (fun _ => False) t t := h.quiet (.refl 0 t.fleet) rfl rfl
  unfold stepHosting
  cases hget : t.hostings[i]? with
  | none => exact hnothing
  | some asked =>
    -- Who waits at the gate or counts has no claim, and gets none.
    have hplace : ∀ {stage : HostingStage} {pending : List (String × Nat)} {gate : Option Nat},
        asked.stage.claims = [] → stage.claims = [] →
        Keeps (fun _ => False) t { t.setStage i stage with
          fleet := { t.fleet with pending := pending }, gate := gate } := by
      intro stage pending gate hbefore hafter
      refine h.setStage hget fun others hbooks =>
        ⟨.of_tenures (Fleet.turns_of_tables rfl rfl rfl 0).tenures, ?_⟩
      rw [hbefore] at hbooks
      rw [hafter]
      exact hbooks.congr rfl rfl rfl
    simp only
    cases hstage : asked.stage with
    | waiting =>
      simp only
      split
      · exact hnothing
      · exact hplace (by rw [hstage]; rfl) rfl
    | countedPending n => exact hplace (by rw [hstage]; rfl) rfl
    | countedLaunching n =>
      simp only [Fleet.grantPlace]
      by_cases hfull :
          (t.fleet.store.quota asked.owner).toNat ≤ n + t.fleet.registeredOf asked.owner
      · rw [if_pos hfull]
        exact hplace (by rw [hstage]; rfl) rfl
      · rw [if_neg hfull]
        exact hplace (by rw [hstage]; rfl) rfl
    | permitted | looked | built | claimed | launched | failed | answered =>
      exact h.setStage hget fun others hbooks => nextStage_keeps env hbooks

/-! ### Lines and ends -/

/-- Do the lines of a server that an action handles tell of its start? -/
def Starts (t : Traffic) (env : Surroundings) (a : Action) (ref : ServerRef) : Prop :=
  ∃ text ∈ heard ref t env a, .initialized ∈ ConsoleLine.recognize text

/-- A supervisor that waits for lines looks after a launch that is not in the middle of its
    start. -/
theorem Tenable.tenure_of_isReading (h : t.Tenable) (hreads : t.isReading ref = true) :
    ∃ c, t.fleet.tenure? ref = some c ∧ c.phase = .reading ∧ t.starting.contains ref = false := by
  unfold isReading at hreads
  split at hreads
  next v hv =>
    simp only [Bool.and_eq_true, decide_eq_true_eq, Bool.not_eq_true'] at hreads
    have hlt : ref < t.fleet.servers.length := by
      rw [← h.books.supervised.supervisor?_isSome_iff, hv]
      rfl
    exact ⟨_, Fleet.tenure?_eq_some_iff.2 ⟨_, v, List.getElem?_eq_getElem hlt, hv, rfl⟩,
      hreads.1, hreads.2⟩
  next => cases hreads

/-- A line keeps what holds of the claims. The first startup line is dealt with in two steps, and the
    claim is given back in the second. -/
theorem Tenable.line (h : t.Tenable) (env : Surroundings) (server : ServerRef) (text : String) :
    Keeps (t.Starts env (.line server text)) t (t.stepLine env server text) := by
  cases hreads : t.isReading server with
  | false =>
    have hnobody : ∀ ref, ¬ t.Starts env (.line server text) ref := by
      rintro ref ⟨line, hline, -⟩
      by_cases heq : server = ref
      · subst heq
        rw [heard_eq_nil env _ hreads] at hline
        cases hline
      · simp [heard, heq] at hline
    have hstep : t.stepLine env server text = t := by simp [stepLine, hreads]
    rw [hstep]
    exact ⟨h, fun ref => (or_iff_left (hnobody ref)).symm⟩
  | true =>
    obtain ⟨c, hc, hphase, hidle⟩ := h.tenure_of_isReading hreads
    have hstarts : t.Starts env (.line server text) server ↔
        .initialized ∈ ConsoleLine.recognize text := by
      simp [Starts, heard, hreads]
    have honly : ∀ other, t.Starts env (.line server text) other →
        other = server ∧ (t.fleet.tenure? server).isSome := by
      rintro other ⟨line, hline, -⟩
      refine ⟨?_, by rw [hc]; rfl⟩
      by_contra hne
      simp [heard, Ne.symm hne] at hline
    have hself : ∀ c', t.fleet.tenure? server = some c' → c' = c := by
      intro c' hc'
      rw [hc, Option.some.injEq] at hc'
      exact hc'.symm
    simp only [stepLine, hreads, Bool.not_true, if_false, Bool.false_eq_true]
    split
    next hnow =>
      -- Its port is fixed, and it is registered or turned away.
      simp only [startsNow, Bool.and_eq_true, decide_eq_true_eq] at hnow
      have htold : .initialized ∈ ConsoleLine.recognize text := by
        rw [hnow.1]
        exact List.mem_cons_self
      have hsilent : c.isRunning = false := by
        obtain ⟨s, v, hs, -, rfl⟩ := Fleet.tenure?_eq_some_iff.1 hc
        simpa [hs] using hnow.2
      have hlogged := (t.fleet.alike_logLine env server text).turns server
      have hbegun := hlogged.trans (Fleet.turns_beginStart _ server)
      have hup : ∀ c', (Tenure.run c').isRunning = true ↔
          c'.isRunning = true ∨ t.Starts env (.line server text) server := by
        intro c'
        simp [Tenure.run, hstarts, htold]
      unfold register
      split
      next f hregister =>
        have hturns := hbegun.trans (Fleet.turns_register hregister)
        refine h.shifts (.of_tenures hturns.tenures) (hturns.books _ h.books) ?_ ?_
          (fun c' _ => hup c') (fun _ => ⟨c, hc, rfl⟩) honly
        · intro other hne
          simp [hne]
        · intro c' hc' hholds
          have hmember : (server :: t.starting).contains server = true := by simp
          rw [hidle, hself c' hc'] at hholds
          change c'.run.Holds ((server :: t.starting).contains server)
          rw [hmember, hself c' hc']
          exact hholds.run hphase hsilent
      next e _ =>
        have hturns := hbegun.trans (Fleet.turns_rejectStart _ server e)
        refine h.shifts (.of_tenures hturns.tenures) (hturns.books _ h.books)
          (fun _ _ => Iff.rfl) ?_ (fun c' _ => hup c') ?_ honly
        · intro c' _ _
          rw [hidle]
          exact Tenure.holds_release fun _ => rfl
        · exact fun _ => ⟨c, hc, rfl⟩
    next =>
      obtain ⟨move, hturns, hheard⟩ := t.fleet.turns_onLine env server text hc
      refine h.shifts (.of_tenures hturns.tenures) (hturns.books _ h.books) (fun _ _ => Iff.rfl)
        ?_ ?_ ?_ honly
      · intro c' hc' hholds
        rw [hidle] at hholds ⊢
        rw [hself c' hc'] at hholds ⊢
        exact hheard.holds hholds
      · intro c' hc'
        rw [hself c' hc', hstarts]
        exact hheard.isRunning
      · intro hmem
        have hstarting : t.starting.contains server = true := List.contains_iff_mem.2 hmem
        rw [hidle] at hstarting
        cases hstarting

/-- A supervisor that finishes the start of its server gives the claim back. -/
theorem Tenable.finishStart (h : t.Tenable) (server : ServerRef) :
    Keeps (fun _ => False) t (t.stepStart server) := by
  unfold stepStart
  split
  next hmem =>
    obtain ⟨c, hc, hrunning⟩ := h.starting server (List.contains_iff_mem.1 hmem)
    have hturns := t.fleet.turns_finishStart server
    refine h.shifts (.of_tenures hturns.tenures) (hturns.books _ h.books) ?_ ?_ ?_ ?_
      fun _ hfalse => hfalse.elim
    · intro other hne
      simp [hne]
    · intro c' hc' _
      rw [hc, Option.some.injEq] at hc'
      subst hc'
      have hgone : (t.starting.filter fun other => decide (other ≠ server)).contains server =
          false := by simp
      change c.release.Holds ((t.starting.filter fun other => decide (other ≠ server)).contains
        server)
      rw [hgone]
      exact Tenure.holds_release fun _ => hrunning
    · intro c' _
      rw [or_false]
      exact Iff.rfl
    · intro hstill
      simp at hstill
  next => exact h.quiet (.refl 0 t.fleet) rfl rfl

/-- What a supervisor is to do after the end of its process keeps what holds of the claims. -/
theorem Tenable.supervisor (h : t.Tenable) (env : Surroundings) (server : ServerRef) :
    Keeps (fun _ => False) t (t.stepSupervisor env server) := by
  unfold stepSupervisor
  split
  next => exact h.quiet (.refl 0 t.fleet) rfl rfl
  next hidle =>
    obtain ⟨move, hshifts, hbooks, hmove⟩ := Fleet.advance_keeps h.books env server
    rw [Bool.not_eq_true] at hidle
    refine h.moves hshifts hbooks rfl ?_
    rw [hidle]
    exact hmove

/-- A kill leaves claims to the supervisors. -/
theorem Tenable.kill (h : t.Tenable) (i : Nat) : Keeps (fun _ => False) t (t.stepKill i) := by
  unfold stepKill
  split
  next => exact h.quiet (.refl 0 t.fleet) rfl rfl
  next k _ =>
    have hturns : Fleet.Turns k.server id t.fleet (nextKillStage t.fleet k).2 := by
      unfold nextKillStage
      cases k.stage with
      | begun =>
        cases k.byOwner with
        | none => exact .refl k.server t.fleet
        | some byOwner => exact t.fleet.turns_note k.server _ fun _ => rfl
      | marked => exact t.fleet.turns_unregister k.server k.server
      | unregistered removed => exact t.fleet.turns_killProcess k.server
      | finished removed => exact .refl k.server t.fleet
    exact h.quiet hturns rfl rfl

theorem Tenable.shutdown (h : t.Tenable) : Keeps (fun _ => False) t t.stepShutdown := by
  unfold stepShutdown
  split
  next => exact h.quiet (.refl 0 t.fleet) rfl rfl
  next => exact h.quiet (.refl 0 t.fleet) rfl rfl
  next => exact h.quiet (.refl 0 t.fleet) rfl rfl
  next ref refs _ => exact h.quiet (t.fleet.turns_call ⟨ref, false, true⟩ 0) rfl rfl
  next => exact h.quiet (.refl 0 t.fleet) rfl rfl

/-! ### All steps and all runs -/

/-- Every step keeps what holds of the claims. -/
theorem Tenable.step (h : t.Tenable) (env : Surroundings) (a : Action) :
    Keeps (t.Starts env a) t (t.step env a) := by
  -- Of an action that is not a line nobody hears a start.
  have hdeaf : ∀ {t' : Traffic}, (∀ ref, heard ref t env a = []) → Keeps (fun _ => False) t t' →
      Keeps (t.Starts env a) t t' := by
    intro t' hnone hkeeps
    refine ⟨hkeeps.tenable, fun ref => ?_⟩
    rw [hkeeps.isUp_iff]
    simp [Starts, hnone ref]
  cases a with
  | request r =>
    refine hdeaf (fun _ => rfl) ?_
    by_cases hhost : ∃ owner options port recovering, r = .host owner options port recovering
    · obtain ⟨owner, options, port, recovering, rfl⟩ := hhost
      obtain ⟨level, stage, -, -, hclaims, heq⟩ := t.arrive_eq owner options port recovering
      change Keeps _ t (t.arrive owner options port recovering)
      rw [heq]
      refine h.moves (.of_tenures (Fleet.Turns.refl 0 t.fleet).tenures) ?_ rfl
        fun c _ => ⟨rfl, fun hholds => hholds⟩
      rw [claims_append hclaims]
      exact h.books
    · have hhostings := (requests_still (t := t) env (.request r) rfl fun owner options port
        recovering heq => hhost ⟨owner, options, port, recovering, Action.request.inj heq⟩).1
      have hturns := (t.fleet.turns_callAll (t.fleet.calls env r) 0).trans
        ((t.alike_stepRequest env r).turns 0)
      refine h.quiet hturns hhostings ?_
      change (t.stepRequest env r).starting = t.starting
      cases r <;> rfl
  | hosting i => exact hdeaf (fun _ => rfl) (h.hosting env i)
  | line server text => exact h.line env server text
  | finishStart server => exact hdeaf (fun _ => rfl) (h.finishStart server)
  | processEnds server =>
    exact hdeaf (fun _ => rfl) (h.quiet (t.fleet.turns_endProcess server) rfl rfl)
  | supervise server => exact hdeaf (fun _ => rfl) (h.supervisor env server)
  | beginLookup i =>
    exact hdeaf (fun _ => rfl) (h.quiet ((t.fleet.alike_beginLookup i).turns 0) rfl rfl)
  | finishLookup i =>
    exact hdeaf (fun _ => rfl) (h.quiet ((t.fleet.alike_finishLookup env i).turns 0) rfl rfl)
  | beginKill server byOwner =>
    refine hdeaf (fun _ => rfl) ?_
    change Keeps _ t (t.beginKill server byOwner)
    unfold beginKill
    split
    · exact h.quiet (.refl 0 t.fleet) rfl rfl
    · exact h.quiet (.refl 0 t.fleet) rfl rfl
  | kill i => exact hdeaf (fun _ => rfl) (h.kill i)
  | sweep =>
    have hturns := (t.fleet.turns_callAll _ 0).trans
      ((t.fleet.alike_sweepAfter t.fleet.config.host.cleanupIntervalDays env.now).turns 0)
    exact hdeaf (fun _ => rfl) (h.quiet hturns rfl rfl)
  | shutdown => exact hdeaf (fun _ => rfl) h.shutdown

/-- Has the supervisor of a server handled a startup line in a run? -/
def HasReported (s : Traffic) (steps : List (Surroundings × Action)) (ref : ServerRef) : Prop :=
  ∃ text ∈ collect (heard ref) s steps, .initialized ∈ ConsoleLine.recognize text

/-- What holds of the claims holds after every run, and those servers run of which a startup line
    was handled. -/
theorem tenable_run (config : Config) (logDir : Path) (files : FileSystem)
    (steps : List (Surroundings × Action)) :
    let s := Traffic.start (.start config logDir files)
    (s.run steps).Tenable ∧ ∀ ref, (s.run steps).IsUp ref ↔ HasReported s steps ref := by
  intro s
  induction steps using List.reverseRecOn with
  | nil =>
    refine ⟨⟨⟨rfl, List.nodup_nil, List.Perm.refl _⟩, ?_, ?_⟩, ?_⟩
    · intro ref c hc
      cases hc
    · intro ref hmem
      cases hmem
    · intro ref
      refine iff_of_false ?_ ?_
      · rintro ⟨c, hc, -⟩
        cases hc
      · rintro ⟨text, htext, -⟩
        cases htext
  | append_singleton steps last ih =>
    obtain ⟨env, a⟩ := last
    obtain ⟨htenable, hup⟩ := ih
    have hkeeps := htenable.step env a
    have hrun : s.run (steps ++ [(env, a)]) = (s.run steps).step env a := by
      rw [run_append]
      rfl
    rw [hrun]
    refine ⟨hkeeps.tenable, fun ref => ?_⟩
    rw [hkeeps.isUp_iff, hup]
    have hheard : collect (heard ref) s (steps ++ [(env, a)]) =
        collect (heard ref) s steps ++ heard ref (s.run steps) env a := by
      rw [collect_append, collect, collect, List.append_nil]
    simp only [HasReported, Starts, hheard, List.mem_append, or_and_right, exists_or]

/-! ### Who holds a claim -/

/-- Who can hold a claim on a port. -/
inductive Claimant where
  /-- A hosting request that goes on. -/
  | request (i : Nat)
  /-- The next launch of a server, which its supervisor is about to make. -/
  | restart (server : ServerRef)
  /-- A launch. -/
  | launch (server : ServerRef)
deriving DecidableEq

/-- After a run a launch is live, and its first startup line is not dealt with: no such line was
    handled, or the server is still in the middle of its start. -/
def IsUnstarted (s : Traffic) (steps : List (Surroundings × Action)) (v : Supervisor) : Prop :=
  v.phase = .reading ∧ (¬ HasReported s steps v.server ∨ v.server ∈ (s.run steps).starting)

/-- Who holds a claim on which port after a run: requests and restarts in progress, and launches that
    are live and have not started. -/
def Holds (s : Traffic) (steps : List (Surroundings × Action)) : Claimant → UInt16 → Prop
  | .request i, port => (s.run steps).IsClaimedForRequest i port
  | .restart server, port => (s.run steps).IsClaimedForRestart server port
  | .launch server, port => ∃ v, (s.run steps).fleet.supervisor? server = some v ∧
      v.launchPort = port ∧ IsUnstarted s steps v

/-- The claims for a launch and for the one after it, with who holds them. -/
def ledgerOf (v : Supervisor) : List (Claimant × UInt16) :=
  (if v.holdsClaim then [(.launch v.server, v.launchPort)] else []) ++
    v.phase.claims.map (.restart v.server, ·)

/-- All claims, with who holds them. -/
def ledger (t : Traffic) : List (Claimant × UInt16) :=
  t.fleet.supervisors.flatMap ledgerOf ++
    t.hostings.zipIdx.flatMap fun (asked, i) => asked.stage.claims.map (.request i, ·)

/-- The ledger lists the table of claims. -/
theorem map_snd_ledger (t : Traffic) : t.ledger.map (·.2) = t.fleet.claims ++ t.claims := by
  have hof : ∀ v : Supervisor, (ledgerOf v).map (·.2) = v.claims := by
    intro v
    cases hheld : v.holdsClaim <;> simp [ledgerOf, Supervisor.claims, hheld, Function.comp_def]
  have hasked : t.hostings.zipIdx.flatMap (fun e => e.1.stage.claims) = t.claims := by
    rw [claims, ← List.zipIdx_map_fst 0 t.hostings, List.flatMap_map, List.zipIdx_map_fst]
  simp only [ledger, List.map_append, List.map_flatMap, List.map_map, Function.comp_def, hof,
    List.map_id']
  rw [hasked, Fleet.claims]

/-- The ledger tells of the claims that requests hold. -/
theorem mem_ledger_request_iff {i : Nat} {port : UInt16} :
    (.request i, port) ∈ t.ledger ↔ t.IsClaimedForRequest i port := by
  simp only [ledger, List.mem_append, List.mem_flatMap, ledgerOf, List.mem_map, Prod.mk.injEq,
    IsClaimedForRequest, Prod.exists, List.mem_zipIdx_iff_getElem?]
  constructor
  · rintro (⟨v, -, hv | ⟨_, _, hv, -⟩⟩ | ⟨asked, j, hget, _, hmem, hi, rfl⟩)
    · split at hv <;> simp at hv
    · cases hv
    · cases hi
      exact ⟨asked, hget, hmem⟩
  · rintro ⟨asked, hget, hmem⟩
    exact Or.inr ⟨asked, i, hget, port, hmem, rfl, rfl⟩

/-- The ledger tells of the claims that are held for the next launch of a server. -/
theorem mem_ledger_restart_iff (hsupervised : t.fleet.Supervised) {port : UInt16} :
    (.restart ref, port) ∈ t.ledger ↔ t.IsClaimedForRestart ref port := by
  simp only [ledger, List.mem_append, List.mem_flatMap, ledgerOf, List.mem_map, Prod.mk.injEq,
    IsClaimedForRestart]
  constructor
  · rintro (⟨v, hv, hheld | ⟨_, hmem, hserver, rfl⟩⟩ | ⟨e, -, _, -, hother, -⟩)
    · split at hheld <;> simp at hheld
    · cases hserver
      exact ⟨v, hsupervised.mem_supervisors_iff.1 hv, hmem⟩
    · cases hother
  · rintro ⟨v, hv, hmem⟩
    refine Or.inl ⟨v, List.mem_of_find?_eq_some hv, Or.inr ⟨port, hmem, ?_, rfl⟩⟩
    rw [Fleet.supervisor?_server hv]

/-- The ledger tells of the claims that launches hold. -/
theorem mem_ledger_launch_iff (hsupervised : t.fleet.Supervised) {port : UInt16} :
    (.launch ref, port) ∈ t.ledger ↔
      ∃ v, t.fleet.supervisor? ref = some v ∧ v.launchPort = port ∧ v.holdsClaim = true := by
  simp only [ledger, List.mem_append, List.mem_flatMap, ledgerOf, List.mem_map, Prod.mk.injEq]
  constructor
  · rintro (⟨v, hv, hheld | ⟨_, _, hother, -⟩⟩ | ⟨e, -, _, -, hother, -⟩)
    · split at hheld
      next hholds =>
        rw [List.mem_singleton, Prod.mk.injEq, Claimant.launch.injEq] at hheld
        obtain ⟨rfl, rfl⟩ := hheld
        exact ⟨v, hsupervised.mem_supervisors_iff.1 hv, rfl, hholds⟩
      next => cases hheld
    · cases hother
    · cases hother
  · rintro ⟨v, hv, rfl, hholds⟩
    refine Or.inl ⟨v, List.mem_of_find?_eq_some hv, Or.inl ?_⟩
    rw [if_pos hholds, Fleet.supervisor?_server hv]
    exact List.mem_singleton_self _

/-- After a run a launch holds its claim as long as it is live and has not started. -/
theorem holdsClaim_iff {s : Traffic} {steps : List (Surroundings × Action)}
    (htenable : (s.run steps).Tenable)
    (hup : ∀ ref, (s.run steps).IsUp ref ↔ HasReported s steps ref) {v : Supervisor}
    (hv : v ∈ (s.run steps).fleet.supervisors) :
    v.holdsClaim = true ↔ IsUnstarted s steps v := by
  have hfound := htenable.books.supervised.mem_supervisors_iff.1 hv
  have hlt : v.server < (s.run steps).fleet.servers.length := by
    rw [← htenable.books.supervised.supervisor?_isSome_iff, hfound]
    rfl
  have hc : (s.run steps).fleet.tenure? v.server = some ⟨_, v.holdsClaim, v.phase⟩ :=
    Fleet.tenure?_eq_some_iff.2 ⟨_, v, List.getElem?_eq_getElem hlt, hfound, rfl⟩
  have hsilent : ((s.run steps).fleet.servers[v.server]).isRunning = false ↔
      ¬ HasReported s steps v.server := by
    rw [← hup, IsUp, hc]
    simp
  have hholds := htenable.holds v.server _ hc
  rw [Tenure.Holds, List.contains_iff_mem, hsilent] at hholds
  exact hholds

/-- The ledger tells after a run who holds which claim. -/
theorem mem_ledger_iff {s : Traffic} {steps : List (Surroundings × Action)}
    (htenable : (s.run steps).Tenable)
    (hup : ∀ ref, (s.run steps).IsUp ref ↔ HasReported s steps ref) {who : Claimant}
    {port : UInt16} : (who, port) ∈ (s.run steps).ledger ↔ s.Holds steps who port := by
  have hsupervised := htenable.books.supervised
  cases who with
  | request i => exact mem_ledger_request_iff
  | restart server => exact mem_ledger_restart_iff hsupervised
  | launch server =>
    rw [mem_ledger_launch_iff hsupervised]
    refine exists_congr fun v => and_congr_right fun hv => and_congr_right fun _ => ?_
    exact holdsClaim_iff htenable hup (List.mem_of_find?_eq_some hv)

/-- Claims are given back. After every run the table of claims is exactly the set of the ports that
    are held by requests and restarts in progress and by live launches whose first startup line is
    not dealt with, each by one of them. A launch that has started or ended holds no claim, and
    where nobody is left to hold one the table is empty. -/
theorem claims_of_run (config : Config) (logDir : Path) (files : FileSystem)
    (steps : List (Surroundings × Action)) :
    let s := Traffic.start (.start config logDir files)
    let table := (s.run steps).fleet.ports.claimed
    table.Nodup ∧
    (∀ port, port ∈ table ↔ ∃ who, s.Holds steps who port) ∧
    (∀ who other port, s.Holds steps who port → s.Holds steps other port → who = other) ∧
    (∀ v ∈ (s.run steps).fleet.supervisors, v.holdsClaim = true ↔ s.IsUnstarted steps v) ∧
    ((∀ who port, ¬ s.Holds steps who port) → table = []) := by
  intro s table
  obtain ⟨htenable, hup⟩ := tenable_run config logDir files steps
  have hledger : table.Perm ((s.run steps).ledger.map (·.2)) := by
    rw [map_snd_ledger]
    exact htenable.books.accounts
  have hmem : ∀ port, port ∈ table ↔ ∃ who, s.Holds steps who port := by
    intro port
    rw [hledger.mem_iff, List.mem_map]
    constructor
    · rintro ⟨⟨who, _⟩, hentry, rfl⟩
      exact ⟨who, (mem_ledger_iff htenable hup).1 hentry⟩
    · rintro ⟨who, hholds⟩
      exact ⟨(who, port), (mem_ledger_iff htenable hup).2 hholds, rfl⟩
  refine ⟨htenable.books.claimed_nodup, hmem, ?_, ?_, ?_⟩
  · -- The table lists no port twice, so that each stands in one entry of the ledger.
    intro who other port hwho hother
    have hnodup := hledger.nodup_iff.1 htenable.books.claimed_nodup
    have hsame := List.inj_on_of_nodup_map hnodup ((mem_ledger_iff htenable hup).2 hwho)
      ((mem_ledger_iff htenable hup).2 hother) rfl
    exact congrArg Prod.fst hsame
  · intro v hv
    exact holdsClaim_iff htenable hup hv
  · intro hnobody
    rw [List.eq_nil_iff_forall_not_mem]
    intro port hport
    obtain ⟨who, hholds⟩ := (hmem port).1 hport
    exact hnobody who port hholds

end Traffic

end HostDaemon
