import HostDaemon.Proofs.Fleet.Hosting
import HostDaemon.Proofs.Fleet.Kills
import HostDaemon.Proofs.Fleet.Launches

/-! # Claims of launches

  The claim on the port of a launch depends on little: whether its server has reported its startup,
  whether the claim was given back, and how far the supervisor has come. Identifiers, the registry
  and the launching servers are nothing to it.

  - `Fleet.Books` says that the table of claims is kept in order. Whoever else claims ports is a
    parameter.
  - `Fleet.Turns` says that something happened to one launch, and that the books are still in order.
    It is proved for every operation by composition, whatever the other tables of the fleet hold.
  - `Fleet.tenure?_adopt` and `Fleet.Books.adopt` say what a launch adds. -/

namespace HostDaemon

/-- What the claim of a launch depends on. -/
structure Tenure where
  /-- Has the server reported its startup? -/
  isRunning : Bool
  /-- Is the claim on the port of the launch still held? -/
  holdsClaim : Bool
  /-- How far the supervisor has come. -/
  phase : SupervisorPhase

namespace Tenure

/-- The process has been started on a claimed port. -/
def born : Tenure := ⟨false, true, .reading⟩

/-- The server runs. -/
def run (c : Tenure) : Tenure := { c with isRunning := true }

/-- The claim is given back. -/
def release (c : Tenure) : Tenure := { c with holdsClaim := false }

/-- The supervisor comes into a phase. -/
def setPhase (c : Tenure) (phase : SupervisorPhase) : Tenure := { c with phase := phase }

/-- A claim is held as long as the output of the process is read and its start is not dealt with. -/
def Holds (c : Tenure) (isStarting : Bool) : Prop :=
  c.holdsClaim = true ↔ c.phase = .reading ∧ (c.isRunning = false ∨ isStarting = true)

/-- A launch that has just been made holds its claim. -/
theorem holds_born (isStarting : Bool) : born.Holds isStarting := by simp [Holds, born]

/-- A launch that has given its claim back holds none, where it has started or ended. -/
theorem holds_release {c : Tenure} (hover : c.phase = .reading → c.isRunning = true) :
    c.release.Holds false := by
  refine ⟨(fun hheld => by cases hheld), ?_⟩
  rintro ⟨hreading, hsilent | hstarting⟩
  · change c.isRunning = false at hsilent
    rw [hover hreading] at hsilent
    cases hsilent
  · cases hstarting

/-- A server that has just told of its start holds its claim until that is dealt with. -/
theorem Holds.run {c : Tenure} (h : c.Holds false) (hphase : c.phase = .reading)
    (hsilent : c.isRunning = false) : c.run.Holds true :=
  ⟨fun _ => ⟨hphase, Or.inr rfl⟩, fun _ => h.2 ⟨hphase, Or.inl hsilent⟩⟩

/-- After the end of the process no phase changes what is held. -/
theorem Holds.setPhase {c : Tenure} {isStarting : Bool} (h : c.Holds isStarting)
    {phase : SupervisorPhase} (hended : c.phase ≠ .reading) (hphase : phase ≠ .reading) :
    (c.setPhase phase).Holds isStarting := by
  refine ⟨fun hheld => absurd (h.1 hheld).1 hended, ?_⟩
  rintro ⟨hreading, -⟩
  exact absurd hreading hphase

end Tenure

namespace Fleet

variable {f f' f'' : Fleet} {ref other : ServerRef} {others : List UInt16}

/-- What the claim of a launch depends on, in a fleet. -/
def tenure? (f : Fleet) (ref : ServerRef) : Option Tenure :=
  match f.server? ref, f.supervisor? ref with
  | some s, some v => some ⟨s.isRunning, v.holdsClaim, v.phase⟩
  | _, _ => none

theorem tenure?_eq_some_iff {c : Tenure} :
    f.tenure? ref = some c ↔ ∃ s v, f.server? ref = some s ∧ f.supervisor? ref = some v ∧
      c = ⟨s.isRunning, v.holdsClaim, v.phase⟩ := by
  unfold tenure?
  cases hs : f.server? ref with
  | none => simp
  | some s =>
    cases hv : f.supervisor? ref with
    | none => simp
    | some v => simp [eq_comm]

/-! ### The books -/

/-- The table of claims is in order: every claimed port is claimed once, for a launch or by one of
    some others. -/
structure Books (f : Fleet) (others : List UInt16) : Prop where
  /-- Every server has one supervisor. -/
  supervised : f.Supervised
  /-- No port is claimed twice. -/
  claimed_nodup : f.ports.claimed.Nodup
  /-- Every claimed port is claimed for a launch, or by one of the others. -/
  accounts : f.Accounts others

namespace Books

/-- The books depend on three tables. -/
theorem congr (h : f.Books others) (hservers : f'.servers.length = f.servers.length)
    (hsupervisors : f'.supervisors = f.supervisors) (hports : f'.ports = f.ports) :
    f'.Books others := by
  refine ⟨?_, ?_, ?_⟩
  · rw [Supervised, hsupervisors, hservers]
    exact h.supervised
  · rw [hports]
    exact h.claimed_nodup
  · rw [Accounts, claims, hsupervisors, hports]
    exact h.accounts

/-- The others may be told in any order. -/
theorem perm {others' : List UInt16} (h : f.Books others) (hperm : others.Perm others') :
    f.Books others' :=
  { h with accounts := h.accounts.trans (hperm.append_left _) }

/-- A supervisor may take claims over from others, or leave them to others. -/
theorem updateSupervisor (h : f.Books others) {v : Supervisor} (hv : f.supervisor? ref = some v)
    (change : Supervisor → Supervisor) (hchange : ∀ v, (change v).server = v.server)
    {given left rest : List UInt16} (hothers : others = given ++ rest)
    (hsame : (v.claims ++ given).Perm ((change v).claims ++ left)) :
    (f.updateSupervisor ref change).Books (left ++ rest) := by
  subst hothers
  refine ⟨?_, h.claimed_nodup, h.supervised.accounts_updateSupervisor hv change hsame h.accounts⟩
  rw [Supervised, map_server_updateSupervisor f ref hchange]
  exact h.supervised

/-- A port that is claimed anew is whoever's claimed it. -/
theorem claim (h : f.Books others) {isFree : UInt16 → Bool} {port : UInt16}
    (hgives : f.ports.Gives isFree port) :
    Books { f with ports := { f.ports with claimed := port :: f.ports.claimed } }
      (port :: others) where
  supervised := h.supervised
  claimed_nodup := List.nodup_cons.2 ⟨hgives.2.1, h.claimed_nodup⟩
  accounts := h.accounts.claim port

/-- A claim that is given back is nobody's. -/
theorem giveBack {port : UInt16} (h : f.Books (port :: others)) :
    Books { f with ports := f.ports.release port } others where
  supervised := h.supervised
  claimed_nodup := h.claimed_nodup.filter _
  accounts := h.accounts.release h.claimed_nodup

end Books

/-! ### What happens to one launch -/

/-- Something happened to one launch, and to no other. -/
structure Turns (ref : ServerRef) (move : Tenure → Tenure) (f f' : Fleet) : Prop where
  /-- That launch moved, and no other. -/
  tenures : ∀ other,
    f'.tenure? other = if other = ref then (f.tenure? ref).map move else f.tenure? other
  /-- The books are in order still. -/
  books : ∀ others, f.Books others → f'.Books others

namespace Turns

variable {move move' : Tenure → Tenure}

theorem trans (h : Turns ref move f f') (h' : Turns ref move' f' f'') :
    Turns ref (fun c => move' (move c)) f f'' where
  tenures := fun other => by
    rw [h'.tenures, h.tenures, h.tenures]
    split
    next => rw [if_pos rfl, Option.map_map]; rfl
    next => rfl
  books := fun others hbooks => h'.books others (h.books others hbooks)

/-- Only what happens to the launch that there is matters. -/
theorem congr (h : Turns ref move f f') (hmove : ∀ c, f.tenure? ref = some c → move c = move' c) :
    Turns ref move' f f' where
  tenures := fun other => by
    rw [h.tenures]
    split
    next =>
      cases hc : f.tenure? ref with
      | none => rfl
      | some c => rw [Option.map_some, Option.map_some, hmove c hc]
    next => rfl
  books := h.books

theorem self (h : Turns ref move f f') {c : Tenure} (hc : f.tenure? ref = some c) :
    f'.tenure? ref = some (move c) := by
  rw [h.tenures, if_pos rfl, hc, Option.map_some]

/-- What moves no launch moves none, whichever is named. -/
theorem at_any (h : Turns other id f f') (ref : ServerRef) : Turns ref id f f' where
  tenures := fun i => by
    have hsame : f'.tenure? i = f.tenure? i := by
      rw [h.tenures]
      split
      next heq => rw [heq, Option.map_id_fun, id]
      next => rfl
    rw [hsame]
    split
    next heq => rw [heq, Option.map_id_fun, id]
    next => rfl
  books := h.books

end Turns

/-- What leaves servers, supervisors and ports alone moves no launch. -/
theorem turns_of_tables (hservers : f'.servers = f.servers)
    (hsupervisors : f'.supervisors = f.supervisors) (hports : f'.ports = f.ports)
    (ref : ServerRef) : Turns ref id f f' where
  tenures := fun other => by
    have hsame : f'.tenure? other = f.tenure? other := by
      rw [tenure?, server?, supervisor?, hservers, hsupervisors]
      rfl
    rw [hsame, Option.map_id_fun, id]
    split
    next heq => rw [heq]
    next => rfl
  books := fun others hbooks => hbooks.congr (congrArg List.length hservers) hsupervisors hports

theorem Turns.refl (ref : ServerRef) (f : Fleet) : Turns ref id f f :=
  turns_of_tables rfl rfl rfl ref

/-- Where there is no server nothing that happens to it shows. -/
theorem turns_of_nobody (hnone : f.server? ref = none) (move : Tenure → Tenure) :
    Turns ref move f f := by
  refine (Turns.refl ref f).congr ?_
  intro c hc
  rw [tenure?, hnone] at hc
  cases hc

/-- What changes nothing of consequence moves no launch. -/
theorem Alike.turns (h : Alike f f') (ref : ServerRef) : Turns ref id f f' where
  tenures := fun other => by
    have hrunning : (f'.server? other).map Server.isRunning =
        (f.server? other).map Server.isRunning := by
      have hstanding := congrArg (Option.map Standing.isRunning) (h.map_server? other)
      rwa [Option.map_map, Option.map_map] at hstanding
    have hsame : f'.tenure? other = f.tenure? other := by
      unfold tenure?
      rw [h.supervisor? other]
      revert hrunning
      cases f'.server? other <;> cases f.server? other <;>
        cases f.supervisor? other <;> simp
    rw [hsame, Option.map_id_fun, id]
    split
    next heq => rw [heq]
    next => rfl
  books := fun others hbooks => by
    have hlength := congrArg List.length h.standings
    rw [List.length_map, List.length_map] at hlength
    exact hbooks.congr hlength h.supervisors h.ports

/-- A change of a server moves its launch by what becomes of its startup. -/
theorem turns_update (f : Fleet) (ref : ServerRef) (change : Server → Server) (move : Bool → Bool)
    (hmove : ∀ s, (change s).isRunning = move s.isRunning) :
    Turns ref (fun c => { c with isRunning := move c.isRunning }) f (f.update ref change) where
  tenures := fun other => by
    have hkeep : (f.update ref change).supervisor? other = f.supervisor? other := rfl
    unfold tenure?
    rw [server?_update, hkeep]
    by_cases heq : other = ref
    · rw [if_pos heq, if_pos heq, heq]
      cases f.server? ref <;> cases f.supervisor? ref <;> simp [hmove]
    · rw [if_neg heq, if_neg heq]
  books := fun others hbooks => hbooks.congr (by simp [update]) rfl rfl

/-- A change of a server that leaves its startup alone moves no launch. -/
theorem turns_note (f : Fleet) (ref : ServerRef) (change : Server → Server)
    (hkeep : ∀ s, (change s).isRunning = s.isRunning) : Turns ref id f (f.update ref change) :=
  f.turns_update ref change id hkeep

/-- A change of a supervisor moves its launch. -/
theorem tenure?_updateSupervisor (f : Fleet) (ref : ServerRef) (change : Supervisor → Supervisor)
    (move : Tenure → Tenure) (hchange : ∀ v, (change v).server = v.server)
    (hmove : ∀ isRunning v, (⟨isRunning, (change v).holdsClaim, (change v).phase⟩ : Tenure) =
      move ⟨isRunning, v.holdsClaim, v.phase⟩) (other : ServerRef) :
    (f.updateSupervisor ref change).tenure? other =
      if other = ref then (f.tenure? ref).map move else f.tenure? other := by
  have hkeep : (f.updateSupervisor ref change).server? other = f.server? other := rfl
  unfold tenure?
  rw [supervisor?_updateSupervisor f ref hchange, hkeep]
  by_cases heq : other = ref
  · rw [if_pos heq, if_pos heq, heq]
    cases f.server? ref <;> cases f.supervisor? ref <;> simp [hmove]
  · rw [if_neg heq, if_neg heq]

/-- Where its supervisor claims what it did the books are in order still. -/
theorem turns_updateSupervisor (f : Fleet) (ref : ServerRef) (change : Supervisor → Supervisor)
    (move : Tenure → Tenure) (hchange : ∀ v, (change v).server = v.server)
    (hmove : ∀ isRunning v, (⟨isRunning, (change v).holdsClaim, (change v).phase⟩ : Tenure) =
      move ⟨isRunning, v.holdsClaim, v.phase⟩)
    (hclaims : ∀ v, f.supervisor? ref = some v → (change v).claims = v.claims) :
    Turns ref move f (f.updateSupervisor ref change) where
  tenures := f.tenure?_updateSupervisor ref change move hchange hmove
  books := fun others hbooks => by
    cases hv : f.supervisor? ref with
    | none =>
      rw [updateSupervisor_of_none hv]
      exact hbooks
    | some v =>
      have hsame : (v.claims ++ []).Perm ((change v).claims ++ []) := by rw [hclaims v hv]
      exact hbooks.updateSupervisor hv change hchange rfl hsame

/-! ### Operations -/

/-- The registry and the launching servers are nothing to claims. -/
theorem turns_unregister (f : Fleet) (ref other : ServerRef) :
    Turns other id f (f.unregister ref).2 := by
  unfold unregister
  split
  · exact .refl other f
  · refine turns_of_tables ?_ ?_ ?_ other <;> rfl

theorem turns_leaveLaunching (f : Fleet) (ref other : ServerRef) :
    Turns other id f (f.leaveLaunching ref) := by
  unfold leaveLaunching
  split
  · exact .refl other f
  · refine turns_of_tables ?_ ?_ ?_ other <;> rfl

/-- A process that ends keeps its claim until its supervisor sees that. -/
theorem turns_endProcess (f : Fleet) (ref : ServerRef) : Turns ref id f (f.endProcess ref) :=
  f.turns_updateSupervisor ref ({ · with isProcessAlive := false }) id (fun _ => rfl)
    (fun _ _ => rfl) fun _ _ => rfl

theorem turns_killProcess (f : Fleet) (ref : ServerRef) : Turns ref id f (f.killProcess ref) := by
  unfold killProcess
  split
  · exact .refl ref f
  · split
    · exact f.turns_endProcess ref
    · exact f.turns_note ref _ fun _ => rfl

/-- A kill leaves the claim of its server to the supervisor. -/
theorem turns_call (f : Fleet) (k : KillCall) (ref : ServerRef) : Turns ref id f (f.call k).2 := by
  have hquiet : Turns k.server id f
      (if k.isQuiet then f.update k.server ({ · with hidesStop := true }) else f) := by
    split
    · exact f.turns_note k.server _ fun _ => rfl
    · exact .refl k.server f
  have hmarked := hquiet.trans
    (turns_note _ k.server (·.markKilled k.byOwner) fun _ => rfl)
  have hevicted := hmarked.trans (turns_unregister _ k.server k.server)
  exact (hevicted.trans (turns_killProcess _ k.server)).at_any ref

theorem turns_callAll (f : Fleet) (ks : List KillCall) (ref : ServerRef) :
    Turns ref id f (f.callAll ks) := by
  induction ks generalizing f with
  | nil => exact .refl ref f
  | cons k ks ih => exact (f.turns_call k ref).trans (ih (f.call k).2)

/-- A supervisor comes into another phase in which nothing is claimed for the next launch. -/
theorem turns_setPhase (f : Fleet) (ref : ServerRef) (phase : SupervisorPhase)
    (hclaims : phase.claims = [])
    {c : Tenure} (hc : f.tenure? ref = some c) (hbefore : c.phase.claims = []) :
    Turns ref (·.setPhase phase) f (f.setPhase ref phase) := by
  refine f.turns_updateSupervisor ref ({ · with phase := phase }) (·.setPhase phase) (fun _ => rfl)
    (fun _ _ => rfl) ?_
  obtain ⟨s, v, -, hv, rfl⟩ := tenure?_eq_some_iff.1 hc
  intro v' hv'
  rw [hv, Option.some.injEq] at hv'
  subst hv'
  simp [Supervisor.claims, hclaims, hbefore]

/-- The claim of a launch is given back, whether it was held or not. -/
theorem turns_releaseClaim (f : Fleet) (ref : ServerRef) :
    Turns ref Tenure.release f (f.releaseClaim ref) := by
  -- Where nothing is held nothing changes.
  have hfree : (∀ v, f.supervisor? ref = some v → v.holdsClaim = false) →
      Turns ref Tenure.release f f := by
    intro hnot
    refine (Turns.refl ref f).congr ?_
    intro c hc
    obtain ⟨s, v, -, hv, rfl⟩ := tenure?_eq_some_iff.1 hc
    rw [Tenure.release, ← hnot v hv]
    rfl
  unfold releaseClaim
  split
  next v hv =>
    split
    next hheld =>
      refine ⟨f.tenure?_updateSupervisor ref ({ · with holdsClaim := false }) Tenure.release
        (fun _ => rfl) fun _ _ => rfl, ?_⟩
      intro others hbooks
      have hsame : (v.claims ++ []).Perm
          (({ v with holdsClaim := false } : Supervisor).claims ++ [v.launchPort]) := by
        simp only [Supervisor.claims, hheld, if_true, List.append_nil]
        exact List.perm_append_comm
      have hleft := hbooks.updateSupervisor hv ({ · with holdsClaim := false }) (fun _ => rfl) rfl
        hsame
      exact hleft.giveBack
    next hnot =>
      apply hfree
      intro v' hv'
      rw [hv, Option.some.injEq] at hv'
      simpa [hv'] using hnot
  next hnone =>
    apply hfree
    intro v hv
    rw [hnone] at hv
    cases hv

/-! ### Start and end of a launch -/

/-- The first startup line fixes the port of its server, which runs from then on. -/
theorem turns_beginStart (f : Fleet) (ref : ServerRef) :
    Turns ref Tenure.run f (f.beginStart ref) := by
  have hsettle : Turns ref id f (f.settlePort ref) := by
    unfold settlePort
    split
    next => exact .refl ref f
    next v _ =>
      split
      next => exact f.turns_note ref _ fun s => by split <;> rfl
      next => exact .refl ref f
  exact hsettle.trans (turns_update _ ref ({ · with isRunning := true }) (fun _ => true) fun _ => rfl)

theorem turns_register (hregister : f.register ref = .ok f') :
    Turns ref id f f' := by
  unfold register at hregister
  split at hregister
  next =>
    cases hregister
    exact .refl ref f
  next s _ =>
    cases hinsert : f.registry.insert s.port ref with
    | error e =>
      rw [hinsert] at hregister
      cases hregister
    | ok registry =>
      rw [hinsert] at hregister
      cases hregister
      refine turns_of_tables ?_ ?_ ?_ ref <;> rfl

/-- Whoever finishes a start gives its claim back. -/
theorem turns_finishStart (f : Fleet) (ref : ServerRef) :
    Turns ref Tenure.release f (f.finishStart ref) :=
  ((f.turns_leaveLaunching ref ref).trans ((alike_announceStart _ ref).turns ref)).trans
    (turns_releaseClaim _ ref)

/-- A server that is turned away gives its claim back as well. -/
theorem turns_rejectStart (f : Fleet) (ref : ServerRef) (e : PortTaken) :
    Turns ref Tenure.release f (f.rejectStart ref e) := by
  have hrefuse : ∀ f : Fleet, Turns ref id f (f.refuseStart ref e) := by
    intro f
    unfold refuseStart
    split
    next => exact .refl ref f
    next s _ =>
      have hnotice := (f.alike_notify (.error
        (s!"{s.owner}'s server '{s.hostname}' could not be registered: " ++ e.message))).turns ref
      have hmarked := hnotice.trans (turns_note _ ref
        (fun s => { s with hidesStop := true }.markKilled false) fun _ => rfl)
      exact hmarked.trans (turns_killProcess _ ref)
  exact ((f.turns_leaveLaunching ref ref).trans (hrefuse _)).trans (turns_releaseClaim _ ref)

/-- A first startup line that is dealt with at once starts the server and gives its claim back. -/
theorem turns_onStarted (f : Fleet) (ref : ServerRef) :
    Turns ref (fun c => c.run.release) f (f.onStarted ref) := by
  have hbegin := f.turns_beginStart ref
  simp only [onStarted]
  split
  next hregister => exact (hbegin.trans (turns_register hregister)).trans (turns_finishStart _ ref)
  next e _ => exact hbegin.trans (turns_rejectStart _ ref e)

/-- The end of a process gives its claim back. -/
theorem turns_closeRun (f : Fleet) (env : Surroundings) (ref : ServerRef) (v : Supervisor) :
    Turns ref Tenure.release f (f.closeRun env ref v) := by
  unfold closeRun
  split
  next hnone => exact turns_of_nobody hnone _
  next s _ =>
    have hfooter : Alike (f.releaseClaim ref) { f.releaseClaim ref with
        files := (f.releaseClaim ref).files.appendAt v.log
          (Text.Utf8.bytesOf (Log.footer env.nowSeconds (s.uptime env.now).toNat)) } :=
      ⟨rfl, rfl, rfl, rfl, rfl, rfl, rfl, rfl⟩
    have hclosed := (f.turns_releaseClaim ref).trans ((hfooter.trans (alike_update _ ref
      (fun s => { s with console := s.console.close, pid := none }) fun _ => rfl)).turns ref)
    exact hclosed.trans (turns_leaveLaunching _ ref ref)

/-! ### Lines -/

/-- What a line does to the launch of its server: it runs from the first startup line on, and holds
    its claim no longer than until then. -/
structure Heard (starts : Prop) (c c' : Tenure) : Prop where
  /-- It runs if it did, or if the line tells of its start. -/
  isRunning : c'.isRunning = true ↔ c.isRunning = true ∨ starts
  /-- It holds its claim as long as it may. -/
  holds : c.Holds false → c'.Holds false

/-- An event of a server moves its launch. -/
theorem turns_onEvent (f : Fleet) (env : Surroundings) (ref : ServerRef) (event : ConsoleEvent)
    {c : Tenure} (hc : f.tenure? ref = some c) :
    ∃ move, Turns ref move f (f.onEvent env ref event) ∧
      Heard (event = .initialized) c (move c) := by
  have hquiet : ∀ {f'}, event ≠ .initialized → Turns ref id f f' →
      ∃ move, Turns ref move f f' ∧ Heard (event = .initialized) c (move c) := by
    intro f' hother hturns
    exact ⟨id, hturns, by simp [hother], fun hholds => hholds⟩
  cases event with
  | alternatePort port => exact hquiet (by simp) (f.turns_note ref _ fun s => by split <;> rfl)
  | bindRetry port => exact hquiet (by simp) (f.turns_note ref _ fun s => by split <;> rfl)
  | boundAddress address => exact hquiet (by simp) (f.turns_note ref _ fun _ => rfl)
  | initialized =>
    obtain ⟨s, v, hs, -, rfl⟩ := tenure?_eq_some_iff.1 hc
    simp only [onEvent, hs]
    split
    next hrunning => exact ⟨id, .refl ref f, by simp [hrunning], fun hholds => hholds⟩
    next => exact ⟨_, f.turns_onStarted ref, by simp [Tenure.run, Tenure.release],
      fun _ => Tenure.holds_release fun _ => rfl⟩
  | playerSeen name ip checkReputation =>
    exact hquiet (by simp) ((f.alike_onPlayer ref ip checkReputation).turns ref)
  | credentialChanged credential value =>
    exact hquiet (by simp) ((f.alike_onCredential ref credential value).turns ref)
  | activity =>
    exact hquiet (by simp)
      ((f.alike_update ref (·.touch env.now) fun s => s.fate_touch env.now).turns ref)

/-- A line of a server moves its launch. -/
theorem turns_onLine (f : Fleet) (env : Surroundings) (ref : ServerRef) (line : String)
    {c : Tenure} (hc : f.tenure? ref = some c) :
    ∃ move, Turns ref move f (f.onLine env ref line) ∧
      Heard (.initialized ∈ ConsoleLine.recognize line) c (move c) := by
  -- One event after the other: each is heard on top of those before.
  have hall : ∀ (events : List ConsoleEvent) (f : Fleet) (c : Tenure), f.tenure? ref = some c →
      ∃ move, Turns ref move f (events.foldl (fun f event => f.onEvent env ref event) f) ∧
        Heard (.initialized ∈ events) c (move c) := by
    intro events
    induction events with
    | nil =>
      intro f c _
      exact ⟨id, .refl ref f, by simp, fun hholds => hholds⟩
    | cons event events ih =>
      intro f c hc
      obtain ⟨move, hturns, hheard⟩ := f.turns_onEvent env ref event hc
      obtain ⟨move', hturns', hheard'⟩ := ih _ _ (hturns.self hc)
      refine ⟨_, hturns.trans hturns', ?_, fun hholds => hheard'.holds (hheard.holds hholds)⟩
      rw [hheard'.isRunning, hheard.isRunning, or_assoc, List.mem_cons, @eq_comm _ event]
  have hlogged := (f.alike_logLine env ref line).turns ref
  obtain ⟨move, hturns, hheard⟩ := hall (ConsoleLine.recognize line) _ c (hlogged.self hc)
  exact ⟨move, hlogged.trans hturns, hheard⟩

/-! ### Launches -/

/-- Something happened to one launch, and others may have been made. -/
structure Shifts (ref : ServerRef) (move : Tenure → Tenure) (f f' : Fleet) : Prop where
  /-- That launch moved, and no other. -/
  old : ∀ other c, f.tenure? other = some c →
    f'.tenure? other = some (if other = ref then move c else c)
  /-- A launch that was made has just begun. -/
  new : ∀ other c, f.tenure? other = none → f'.tenure? other = some c → c = .born

namespace Shifts

variable {move : Tenure → Tenure}

/-- Something that happened to one launch, where none was made. -/
theorem of_tenures (h : ∀ other,
    f'.tenure? other = if other = ref then (f.tenure? ref).map move else f.tenure? other) :
    Shifts ref move f f' where
  old := fun other c hc => by
    rw [h]
    split
    next heq =>
      subst heq
      rw [hc, Option.map_some]
    next => exact hc
  new := fun other c hnone hc => by
    rw [h] at hc
    split at hc
    next heq =>
      subst heq
      rw [hnone] at hc
      cases hc
    next =>
      rw [hnone] at hc
      cases hc

/-- Launches that are made after something happened to one. -/
theorem trans (h : Shifts ref move f f') (h' : Shifts ref id f' f'') : Shifts ref move f f'' where
  old := fun other c hc => by
    rw [h'.old other _ (h.old other c hc), id, ite_self]
  new := fun other c hnone hc => by
    cases hmid : f'.tenure? other with
    | none => exact h'.new other c hmid hc
    | some c' =>
      rw [h'.old other c' hmid, id, ite_self, Option.some.injEq] at hc
      rw [← hc]
      exact h.new other c' hnone hmid

end Shifts

/-- A launch holds the claim on its port, and no other launch is touched. -/
theorem tenure?_adopt (hsupervised : f.Supervised) (env : Surroundings) (spec : LaunchSpec)
    (restarts : UInt32) (isRecovering : Bool) (port : UInt16) (logFile : Path) (log : Location)
    (other : ServerRef) :
    (f.adopt env spec restarts isRecovering port logFile log).2.tenure? other =
      if other = f.servers.length then some .born else f.tenure? other := by
  obtain ⟨s, hstanding, hadopt⟩ := f.adopt_eq env spec restarts isRecovering port logFile log
  rw [hadopt]
  have hsilent : s.isRunning = false := congrArg Standing.isRunning hstanding
  -- Nobody looks after the new server yet.
  have hnone : f.supervisors.find? (fun v => decide (v.server = f.servers.length)) = none := by
    have habsent := not_congr (hsupervised.supervisor?_isSome_iff f.servers.length)
    rw [Bool.not_eq_true, Option.isSome_eq_false_iff, Option.isNone_iff_eq_none] at habsent
    exact habsent.2 (Nat.lt_irrefl _)
  unfold tenure? server? supervisor?
  simp only [List.find?_append]
  by_cases heq : other = f.servers.length
  · subst heq
    rw [if_pos rfl, List.getElem?_concat_length, hnone]
    simp [hsilent, Tenure.born]
  · rw [if_neg heq]
    have hserver : (f.servers ++ [s])[other]? = f.servers[other]? := by
      rcases Nat.lt_or_gt_of_ne heq with hlt | hgt
      · rw [List.getElem?_append_left hlt]
      · rw [List.getElem?_eq_none_iff.2 (Nat.le_of_lt hgt), List.getElem?_eq_none_iff.2]
        rw [List.length_append, List.length_singleton]
        omega
    rw [hserver]
    simp [Ne.symm heq]

/-- A launch touches no other. -/
theorem shifts_adopt (hsupervised : f.Supervised) (ref : ServerRef) (env : Surroundings)
    (spec : LaunchSpec) (restarts : UInt32) (isRecovering : Bool) (port : UInt16) (logFile : Path)
    (log : Location) :
    Shifts ref id f (f.adopt env spec restarts isRecovering port logFile log).2 where
  old := fun other c hc => by
    -- No server stands at the end of the list yet.
    have hne : other ≠ f.servers.length := by
      rintro rfl
      obtain ⟨s, -, hs, -⟩ := tenure?_eq_some_iff.1 hc
      exact Nat.lt_irrefl _ (List.getElem?_eq_some_iff.1 hs).1
    rw [tenure?_adopt hsupervised, if_neg hne, hc, id, ite_self]
  new := fun other c hnone hc => by
    rw [tenure?_adopt hsupervised] at hc
    split at hc
    next =>
      cases hc
      rfl
    next =>
      rw [hnone] at hc
      cases hc

/-- The claim on the port of a launch passes to it. -/
theorem Books.adopt {port : UInt16} (h : f.Books (port :: others)) (env : Surroundings)
    (spec : LaunchSpec) (restarts : UInt32) (isRecovering : Bool) (logFile : Path)
    (log : Location) :
    (f.adopt env spec restarts isRecovering port logFile log).2.Books others := by
  obtain ⟨s, -, hadopt⟩ := f.adopt_eq env spec restarts isRecovering port logFile log
  have hsupervised : f.supervisors.map (·.server) = List.range f.servers.length := h.supervised
  rw [hadopt]
  refine ⟨?_, h.claimed_nodup, ?_⟩
  · simp [Supervised, hsupervised, List.range_succ]
  · have haccounts := h.accounts
    simpa [Accounts, claims, Supervisor.claims, SupervisorPhase.claims] using haccounts

/-- Whether it succeeds or not, a launch takes the claim on its port over or gives it back. -/
theorem launch_keeps {port : UInt16} (h : f.Books (port :: others)) (ref : ServerRef)
    (env : Surroundings) (spec : LaunchSpec) (restarts : UInt32) (isRecovering : Bool) :
    Shifts ref id f (f.launch env spec restarts isRecovering port).2 ∧
      (f.launch env spec restarts isRecovering port).2.Books others := by
  rcases f.launch_cases env spec restarts isRecovering port with
    ⟨e, files, hlaunch⟩ | ⟨files, logFile, log, hlaunch⟩
  · rw [hlaunch]
    refine ⟨.of_tenures fun other => ?_, h.giveBack.congr rfl rfl rfl⟩
    rw [Option.map_id_fun, id]
    split
    next heq => rw [heq]; rfl
    next => rfl
  · rw [hlaunch]
    have hfiles : Books { f with files := files } (port :: others) := h.congr rfl rfl rfl
    have hshifts := shifts_adopt hfiles.supervised ref env spec restarts isRecovering port logFile
      log
    exact ⟨⟨hshifts.old, hshifts.new⟩, hfiles.adopt env spec restarts isRecovering logFile log⟩

/-- The next launch of a server takes the claim that its supervisor made for it over, or gives it
    back. -/
theorem relaunch_keeps (h : f.Books others) {v : Supervisor} {s : Server} {port : UInt16}
    (hv : f.supervisor? ref = some v) (hs : f.server? ref = some s)
    (hphase : v.phase = .restarting port) (env : Surroundings) :
    Shifts ref (·.setPhase .done) f ((f.relaunch env s port).setPhase ref .done) ∧
      ((f.relaunch env s port).setPhase ref .done).Books others := by
  have hlt : ref < f.servers.length := (List.getElem?_eq_some_iff.1 hs).1
  -- The supervisor that is done leaves its claim to others.
  have hsame : (v.claims ++ []).Perm
      (({ v with phase := .done } : Supervisor).claims ++ [port]) := by
    simp [Supervisor.claims, SupervisorPhase.claims, hphase]
  have hleft : (f.setPhase ref .done).Books (port :: others) :=
    h.updateSupervisor hv ({ · with phase := .done }) (fun _ => rfl) rfl hsame
  have hdone : Shifts ref (·.setPhase .done) f (f.setPhase ref .done) :=
    .of_tenures (f.tenure?_updateSupervisor ref ({ · with phase := .done }) (·.setPhase .done)
      (fun _ => rfl) fun _ _ => rfl)
  unfold relaunch
  rcases f.launch_cases env { s.spec with requestedPort := some s.port } (s.restarts + 1) false port
    with ⟨e, files, hlaunch⟩ | ⟨files, logFile, log, hlaunch⟩
  · simp only [hlaunch]
    exact ⟨⟨hdone.old, hdone.new⟩, hleft.giveBack.congr rfl rfl rfl⟩
  · simp only [hlaunch]
    -- The end of the one before and the launch may be taken in either order.
    rw [setPhase_adopt (f := { f with files := files }) hlt]
    have hfiles : Books (Fleet.setPhase { f with files := files } ref .done) (port :: others) :=
      hleft.congr rfl rfl rfl
    have hshifts := shifts_adopt hfiles.supervised ref env
      { s.spec with requestedPort := some s.port } (s.restarts + 1) false port logFile log
    refine ⟨?_, hfiles.adopt env _ (s.restarts + 1) false logFile log⟩
    have hdone' : Shifts ref (·.setPhase .done) f
        (Fleet.setPhase { f with files := files } ref .done) := ⟨hdone.old, hdone.new⟩
    exact hdone'.trans hshifts

/-! ### After the end of a process -/

/-- A supervisor that plans the next launch claims a port for it. -/
theorem turns_restart {v : Supervisor} (hv : f.supervisor? ref = some v)
    (hphase : v.phase = .removed) {isFree : UInt16 → Bool} {port : UInt16}
    (hgives : f.ports.Gives isFree port) (notice : Notice) :
    Turns ref (·.setPhase (.restarting port)) f
      ((Fleet.notify { f with ports := { f.ports with claimed := port :: f.ports.claimed } }
        notice).setPhase ref (.restarting port)) := by
  refine ⟨f.tenure?_updateSupervisor ref ({ · with phase := .restarting port })
    (·.setPhase (.restarting port)) (fun _ => rfl) fun _ _ => rfl, ?_⟩
  intro others hbooks
  have hsame : (v.claims ++ [port]).Perm
      (({ v with phase := .restarting port } : Supervisor).claims ++ []) := by
    simp [Supervisor.claims, SupervisorPhase.claims, hphase]
  have hclaimed := (hbooks.claim hgives).updateSupervisor hv
    ({ · with phase := .restarting port }) (fun _ => rfl) rfl hsame
  exact hclaimed.congr rfl rfl rfl

/-- What a supervisor is to do next does not make its server run, and leaves it no claim that it may
    not hold. -/
theorem advance_keeps (h : f.Books others) (env : Surroundings) (ref : ServerRef) :
    ∃ move, Shifts ref move f (f.advance env ref) ∧ (f.advance env ref).Books others ∧
      ∀ c, f.tenure? ref = some c →
        (move c).isRunning = c.isRunning ∧ (c.Holds false → (move c).Holds false) := by
  have hturns : ∀ {f' : Fleet} {move : Tenure → Tenure}, Turns ref move f f' →
      (∀ c, f.tenure? ref = some c →
        (move c).isRunning = c.isRunning ∧ (c.Holds false → (move c).Holds false)) →
      ∃ move, Shifts ref move f f' ∧ f'.Books others ∧ ∀ c, f.tenure? ref = some c →
        (move c).isRunning = c.isRunning ∧ (c.Holds false → (move c).Holds false) :=
    fun hturns hmove => ⟨_, .of_tenures hturns.tenures, hturns.books others h, hmove⟩
  have hnothing := hturns (Turns.refl ref f) fun c _ => ⟨rfl, fun hholds => hholds⟩
  unfold advance
  split
  next v s hv hs =>
    have hc : f.tenure? ref = some ⟨s.isRunning, v.holdsClaim, v.phase⟩ :=
      tenure?_eq_some_iff.2 ⟨s, v, hs, hv, rfl⟩
    -- Once the end was noticed no phase changes what is held.
    have hlater : ∀ {f' : Fleet} (phase : SupervisorPhase), v.phase ≠ .reading →
        phase ≠ .reading → Turns ref (·.setPhase phase) f f' →
        ∃ move, Shifts ref move f f' ∧ f'.Books others ∧ ∀ c, f.tenure? ref = some c →
          (move c).isRunning = c.isRunning ∧ (c.Holds false → (move c).Holds false) := by
      intro f' phase hended hphase hmoved
      refine hturns hmoved fun c hc' => ⟨rfl, fun hholds => hholds.setPhase ?_ hphase⟩
      rw [hc, Option.some.injEq] at hc'
      rw [← hc']
      exact hended
    have hphased : ∀ {f' : Fleet} (phase : SupervisorPhase), phase.claims = [] →
        v.phase.claims = [] → Turns ref id f f' →
        Turns ref (·.setPhase phase) f (f'.setPhase ref phase) := by
      intro f' phase hclaims hbefore hquiet
      exact hquiet.trans (f'.turns_setPhase ref phase hclaims (hquiet.self hc) hbefore)
    cases hphase : v.phase with
    | reading =>
      simp only
      split
      next => exact hnothing
      next =>
        have hclosed := f.turns_closeRun env ref v
        refine hturns (hclosed.trans (turns_setPhase _ ref .ended rfl (hclosed.self hc) ?_)) ?_
        · change v.phase.claims = []
          rw [hphase]
          rfl
        · -- The claim is given back before the supervisor goes on.
          intro c _
          refine ⟨rfl, fun _ => ⟨(fun hheld => by cases hheld), ?_⟩⟩
          rintro ⟨hreading, -⟩
          cases hreading
    | ended =>
      exact hlater .reported (by simp [hphase]) (by simp)
        (hphased .reported rfl (by rw [hphase]; rfl) ((f.alike_reportExit env s).turns ref))
    | reported =>
      exact hlater .removed (by simp [hphase]) (by simp)
        (hphased .removed rfl (by rw [hphase]; rfl) (f.turns_unregister ref ref))
    | removed =>
      rcases f.planRestart_cases env v s with
        ⟨f', halike, hplan, -⟩ | ⟨port, notice, -, hgives, hplan⟩
      · simp only [hplan]
        exact hlater .done (by simp [hphase]) (by simp)
          (hphased .done rfl (by rw [hphase]; rfl) (halike.turns ref))
      · simp only [hplan]
        exact hlater (.restarting port) (by simp [hphase]) (by simp)
          (turns_restart hv hphase hgives notice)
    | restarting port =>
      obtain ⟨hshifts, hbooks⟩ := relaunch_keeps h hv hs hphase env
      refine ⟨_, hshifts, hbooks, fun c hc' => ⟨rfl, fun hholds => hholds.setPhase ?_ (by simp)⟩⟩
      rw [hc, Option.some.injEq] at hc'
      rw [← hc']
      simp [hphase]
    | done => exact hnothing
  next => exact hnothing

end Fleet

end HostDaemon
