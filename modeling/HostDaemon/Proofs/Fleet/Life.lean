import HostDaemon.Fleet.Launch
import HostDaemon.Proofs.Server.Registry
import Mathlib.Logic.Relation

/-! # The life of a server

  Where one server stands: what is known of it, how far its supervisor has come, and among which
  servers it is counted. Everything that the daemon does moves a server along its life by a few
  kinds of steps.

  - `Life.Next` lists these steps with what has to hold before each of them.
  - `Life.Ok` is what holds all through a life. It holds of a server that has just been launched
    (`Life.ok_born`) and is kept by every step (`Life.Ok.next`). -/

namespace HostDaemon

/-! ### Where a server stands -/

/-- The facts by which a server is registered, counted and launched again. All else that is known
    of it can change without any consequence for these. -/
structure Standing where
  /-- How it was launched. -/
  spec : LaunchSpec
  /-- How many launches with the same identifier came before. -/
  restarts : UInt32
  /-- The port that it has told. -/
  port : UInt16
  /-- Has it reported its startup? -/
  isRunning : Bool
  /-- Was it killed on purpose? -/
  isKilled : Bool
  /-- Is it launched again when it ends on its own? -/
  autoRestart : Bool

/-- Where a server stands. -/
def Server.standing (s : Server) : Standing where
  spec := s.spec
  restarts := s.restarts
  port := s.port
  isRunning := s.isRunning
  isKilled := s.isKilled
  autoRestart := s.autoRestart

/-- The identifier. -/
def Standing.id (s : Standing) : String := s.spec.credentials.id

/-- A supervisor in this phase has not taken its server out of the registry. -/
def SupervisorPhase.isBeforeRemoval : SupervisorPhase → Bool
  | .reading | .ended | .reported => true
  | .removed | .restarting _ | .done => false

/-- A server from the launch of its process to the end of its supervision. -/
structure Life where
  /-- Where the server stands. -/
  standing : Standing
  /-- Who looks after it. -/
  watch : Supervisor
  /-- Is it among the launching servers? -/
  isLaunching : Bool
  /-- The ports under which it is registered. -/
  keys : List UInt16
  /-- Is its supervisor in the middle of handling its startup line? -/
  isStarting : Bool
  /-- Does anybody make its process end without killing it on purpose? -/
  isOusted : Bool

/-- Is the server among the launching ones? -/
def Fleet.isLaunching (f : Fleet) (ref : ServerRef) : Bool :=
  f.launching.any fun e => decide (e.2 = ref)

/-- The life of a server in a fleet, where something is known of what others do. -/
def Fleet.life? (f : Fleet) (isStarting isOusted : Bool) (ref : ServerRef) : Option Life :=
  match (f.server? ref).map Server.standing, f.supervisor? ref with
  | some s, some v => some ⟨s, v, f.isLaunching ref, f.registry.keysOf ref, isStarting, isOusted⟩
  | _, _ => none

namespace Life

/-! ### What happens to a server -/

/-- A process has been started on a claimed port. -/
def born (s : Standing) (v : Supervisor) : Life := ⟨s, v, true, [], false, false⟩

/-- The server tells its port. -/
def tellPort (l : Life) (port : UInt16) : Life :=
  { l with standing := { l.standing with port := port } }

/-- A server that has told no port is on the one that is claimed for it. -/
def settle (l : Life) : Life :=
  l.tellPort (if l.watch.holdsClaim = true ∧ l.standing.port = 0 then l.watch.launchPort
    else l.standing.port)

/-- The server runs. -/
def run (l : Life) : Life := { l with standing := { l.standing with isRunning := true } }

/-- The first startup line fixes the port, and the server runs. -/
def begin (l : Life) : Life := l.settle.run

@[simp] theorem begin_watch (l : Life) : l.begin.watch = l.watch := rfl

@[simp] theorem begin_keys (l : Life) : l.begin.keys = l.keys := rfl

@[simp] theorem begin_isStarting (l : Life) : l.begin.isStarting = l.isStarting := rfl

@[simp] theorem begin_isRunning (l : Life) : l.begin.standing.isRunning = true := rfl

/-- The server is registered under its port. -/
def enroll (l : Life) : Life := { l with keys := l.keys ++ [l.standing.port] }

/-- The claim on its port is given back. -/
def release (l : Life) : Life := { l with watch := { l.watch with holdsClaim := false } }

/-- The server is no longer launching. -/
def leave (l : Life) : Life := { l with isLaunching := false }

/-- The server is killed on purpose. -/
def mark (l : Life) : Life :=
  { l with standing := { l.standing with isKilled := true, autoRestart := false } }

/-- The server is taken out of the registry. -/
def evict (l : Life) : Life := { l with keys := [] }

/-- The process ends. -/
def endProcess (l : Life) : Life := { l with watch := { l.watch with isProcessAlive := false } }

/-- The supervisor comes into a phase. -/
def setPhase (l : Life) (phase : SupervisorPhase) : Life :=
  { l with watch := { l.watch with phase := phase } }

/-- Move one life among many. -/
def moveAt (ref : ServerRef) (move : Life → Life) (lives : ServerRef → Option Life)
    (other : ServerRef) : Option Life :=
  if other = ref then (lives ref).map move else lives other

theorem moveAt_moveAt (ref : ServerRef) (first second : Life → Life)
    (lives : ServerRef → Option Life) :
    moveAt ref second (moveAt ref first lives) = moveAt ref (fun l => second (first l)) lives := by
  funext other
  by_cases h : other = ref
  · simp [moveAt, h, Function.comp_def]
  · simp [moveAt, h]

/-- A life afterwards is one from before, with what was done to it. -/
theorem exists_of_moveAt {ref other : ServerRef} {move : Life → Life}
    {lives : ServerRef → Option Life} {l' : Life} (h : moveAt ref move lives other = some l') :
    ∃ l, lives other = some l ∧ (l' = l ∨ other = ref ∧ l' = move l) := by
  unfold moveAt at h
  split at h
  next heq =>
    obtain ⟨l, hl, rfl⟩ := Option.map_eq_some_iff.1 h
    exact ⟨l, heq ▸ hl, Or.inr ⟨heq, rfl⟩⟩
  next => exact ⟨l', h, Or.inl rfl⟩

/-- Only the life that there is matters. -/
theorem moveAt_congr {ref : ServerRef} {move move' : Life → Life}
    {lives : ServerRef → Option Life} (h : ∀ l, lives ref = some l → move l = move' l) :
    moveAt ref move lives = moveAt ref move' lives := by
  funext other
  unfold moveAt
  cases hl : lives ref with
  | none => rfl
  | some l => rw [Option.map_some, Option.map_some, h l hl]

/-- A move that changes nothing changes nothing. -/
theorem moveAt_eq_self {ref : ServerRef} {move : Life → Life} {lives : ServerRef → Option Life}
    (h : ∀ l, lives ref = some l → move l = l) : moveAt ref move lives = lives := by
  funext other
  unfold moveAt
  split
  next heq =>
    rw [heq]
    cases hl : lives ref with
    | none => rfl
    | some l => rw [Option.map_some, h l hl]
  next => rfl

/-- One thing that happens to a server, with what has to hold before. `most` is how often a server
    is launched again. -/
inductive Next (most : UInt32) : Life → Life → Prop where
  /-- A server tells its port until it runs. -/
  | tellPort {l : Life} (port : UInt16) (hphase : l.watch.phase = .reading)
      (hsilent : l.standing.isRunning = false) : Next most l (l.tellPort port)
  /-- The first startup line registers a server. -/
  | start {l : Life} (hphase : l.watch.phase = .reading)
      (hsilent : l.standing.isRunning = false) :
      Next most l { l.begin.enroll with isStarting := true }
  /-- A server that is registered leaves the launching servers and gives its claim back. -/
  | finishStart {l : Life} (hstarting : l.isStarting = true) :
      Next most l { l.leave.release with isStarting := false }
  /-- The first startup line of a server whose port is taken kills it. -/
  | reject {l : Life} (hphase : l.watch.phase = .reading)
      (hsilent : l.standing.isRunning = false) : Next most l l.begin.leave.mark.release
  /-- A server is killed on purpose. -/
  | mark {l : Life} : Next most l l.mark
  /-- Somebody makes the process end. -/
  | oust {l : Life} : Next most l { l with isOusted := true }
  /-- Whoever kills a server takes it out of the registry. -/
  | evict {l : Life} (hkilled : l.standing.isKilled = true ∨ l.isOusted = true) :
      Next most l l.evict
  /-- The process ends. -/
  | endProcess {l : Life} : Next most l l.endProcess
  /-- The supervisor sees the end of its process. -/
  | close {l : Life} (hphase : l.watch.phase = .reading)
      (hdead : l.watch.isProcessAlive = false) (hidle : l.isStarting = false) :
      Next most l (l.leave.release.setPhase .ended)
  /-- The end is reported. -/
  | report {l : Life} (hphase : l.watch.phase = .ended) : Next most l (l.setPhase .reported)
  /-- The supervisor takes its server out of the registry. -/
  | remove {l : Life} (hphase : l.watch.phase = .reported) :
      Next most l (l.evict.setPhase .removed)
  /-- The server is not launched again. -/
  | giveUp {l : Life} (hphase : l.watch.phase = .removed) : Next most l (l.setPhase .done)
  /-- The server is to be launched again, on a port that is claimed for that. -/
  | restart {l : Life} {port : UInt16} (hphase : l.watch.phase = .removed)
      (hauto : l.standing.autoRestart = true) (halive : l.standing.isKilled = false)
      (hfew : l.standing.restarts < most) (hport : port ≠ 0) :
      Next most l (l.setPhase (.restarting port))
  /-- The next launch was tried. -/
  | relaunched {l : Life} {port : UInt16} (hphase : l.watch.phase = .restarting port) :
      Next most l (l.setPhase .done)

/-! ### What holds all through a life -/

/-- The facts about a server that nothing which happens to it changes. -/
structure Ok (most : UInt32) (l : Life) : Prop where
  /-- It was launched on a real port. -/
  launchPort_ne : l.watch.launchPort ≠ 0
  /-- The claim on that port is held until the first startup line. -/
  claim_of_silent : l.watch.phase = .reading → l.standing.isRunning = false →
    l.watch.holdsClaim = true
  /-- The claim is not held beyond the end. -/
  reading_of_claim : l.watch.holdsClaim = true → l.watch.phase = .reading
  /-- While there is a process its output is read. -/
  reading_of_alive : l.watch.isProcessAlive = true → l.watch.phase = .reading
  /-- It is launching until it has reported its startup, and that is dealt with. -/
  launching_iff : l.isLaunching = true ↔
    l.watch.phase = .reading ∧ (l.standing.isRunning = false ∨ l.isStarting = true)
  /-- While its startup is dealt with it runs and its output is read. -/
  of_starting : l.isStarting = true → l.watch.phase = .reading ∧ l.standing.isRunning = true
  /-- Once it runs it has a port. -/
  port_ne : l.standing.isRunning = true → l.standing.port ≠ 0
  /-- It is registered under its port or not at all. -/
  keys_eq : l.keys = [] ∨ l.keys = [l.standing.port]
  /-- It is registered only while it runs and has not been taken out. -/
  of_key : l.keys ≠ [] → l.standing.isRunning = true ∧ l.watch.phase.isBeforeRemoval = true
  /-- It stays registered unless it is killed. -/
  registered : l.standing.isRunning = true → l.watch.phase.isBeforeRemoval = true →
    l.standing.isKilled = false → l.isOusted = false → l.keys = [l.standing.port]
  /-- Only a kill changes whether it is to be launched again. -/
  autoRestart_eq : l.standing.isKilled = false → l.standing.autoRestart = l.standing.spec.autoRestart
  /-- It is launched again on a real port, and not too often. -/
  of_restarting : ∀ port, l.watch.phase = .restarting port →
    port ≠ 0 ∧ l.standing.restarts < most

/-- What holds all through a life holds at its beginning. -/
theorem ok_born {most : UInt32} {s : Standing} {v : Supervisor} (hport : v.launchPort ≠ 0)
    (hclaim : v.holdsClaim = true) (hphase : v.phase = .reading) (hsilent : s.isRunning = false)
    (hauto : s.autoRestart = s.spec.autoRestart) : Ok most (born s v) where
  launchPort_ne := hport
  claim_of_silent := fun _ _ => hclaim
  reading_of_claim := fun _ => hphase
  reading_of_alive := fun _ => hphase
  launching_iff := by simp [born, hphase, hsilent]
  of_starting := by simp [born]
  port_ne := by simp [born, hsilent]
  keys_eq := Or.inl rfl
  of_key := by simp [born]
  registered := by simp [born, hsilent]
  autoRestart_eq := fun _ => hauto
  of_restarting := by simp [born, hphase]

/-- A server that does not run is not registered. -/
theorem Ok.keys_of_silent {most : UInt32} {l : Life} (h : l.Ok most)
    (hsilent : l.standing.isRunning = false) : l.keys = [] := by
  by_contra hkeys
  have hrunning := (h.of_key hkeys).1
  rw [hsilent] at hrunning
  cases hrunning

/-- The port of a server that has just started is the one that it told or the one that was claimed
    for it, and a real one. -/
theorem Ok.begin_port_ne {most : UInt32} {l : Life} (h : l.Ok most)
    (hphase : l.watch.phase = .reading) (hsilent : l.standing.isRunning = false) :
    l.begin.standing.port ≠ 0 := by
  have hclaim := h.claim_of_silent hphase hsilent
  simp only [begin, settle, run, tellPort]
  split
  next => exact h.launchPort_ne
  next hnot =>
    intro hzero
    exact hnot ⟨hclaim, hzero⟩

/-- A server whose process has ended is not launching. -/
theorem Ok.not_launching {most : UInt32} {l : Life} (h : l.Ok most)
    (hended : l.watch.phase ≠ .reading) : l.isLaunching = false := by
  by_contra hlaunching
  exact hended (h.launching_iff.1 (by simpa using hlaunching)).1

/-- After the end of the process a supervisor may go on to any phase in which the server is
    registered as much as before. -/
theorem Ok.advance {most : UInt32} {l : Life} (h : l.Ok most) {phase : SupervisorPhase}
    (hended : l.watch.phase ≠ .reading) (hphase : phase ≠ .reading)
    (hsame : phase.isBeforeRemoval = l.watch.phase.isBeforeRemoval)
    (hrestart : ∀ port, phase = .restarting port → port ≠ 0 ∧ l.standing.restarts < most) :
    (l.setPhase phase).Ok most := by
  -- After the end nothing is claimed for the launch, there is no process, and nothing starts.
  have hclaim : l.watch.holdsClaim = false := by
    by_contra hclaim
    exact hended (h.reading_of_claim (by simpa using hclaim))
  have hdead : l.watch.isProcessAlive = false := by
    by_contra halive
    exact hended (h.reading_of_alive (by simpa using halive))
  have hidle : l.isStarting = false := by
    by_contra hstarting
    exact hended (h.of_starting (by simpa using hstarting)).1
  have hleft := h.not_launching hended
  exact { h with
    claim_of_silent := fun hreading => absurd hreading hphase
    reading_of_claim := fun hheld => by simp [setPhase, hclaim] at hheld
    reading_of_alive := fun halive => by simp [setPhase, hdead] at halive
    launching_iff := by simp [setPhase, hleft, hphase]
    of_starting := fun hstarting => by simp [setPhase, hidle] at hstarting
    of_key := fun hne => ⟨(h.of_key hne).1, hsame.trans (h.of_key hne).2⟩
    registered := fun hrunning hbefore => h.registered hrunning (hsame.symm.trans hbefore)
    of_restarting := hrestart }

/-- A server that was taken out of the registry by its supervisor is not registered. -/
theorem Ok.remove {most : UInt32} {l : Life} (h : l.Ok most) (hphase : l.watch.phase = .reported) :
    (l.evict.setPhase .removed).Ok most := by
  have hended : l.watch.phase ≠ .reading := by simp [hphase]
  have hleft := h.not_launching hended
  exact { h with
    claim_of_silent := fun hreading => by simp [setPhase] at hreading
    reading_of_claim := fun hclaim => absurd (h.reading_of_claim hclaim) hended
    reading_of_alive := fun halive => absurd (h.reading_of_alive halive) hended
    launching_iff := by simp [setPhase, evict, hleft]
    of_starting := fun hstarting => absurd (h.of_starting hstarting).1 hended
    keys_eq := Or.inl rfl
    of_key := fun hne => absurd rfl hne
    registered := fun _ hbefore => by cases hbefore
    of_restarting := fun port hrestarting => by simp [setPhase] at hrestarting }

/-- What holds all through a life is kept by everything that happens. Each case names what it
    changes; all other facts stay as they are. -/
theorem Ok.next {most : UInt32} {l l' : Life} (h : l.Ok most) (hnext : Next most l l') :
    l'.Ok most := by
  cases hnext with
  | tellPort port hphase hsilent =>
    have hkeys := h.keys_of_silent hsilent
    exact { h with
      port_ne := fun hrunning => by simp [tellPort, hsilent] at hrunning
      keys_eq := Or.inl hkeys
      registered := fun hrunning => by simp [tellPort, hsilent] at hrunning }
  | start hphase hsilent =>
    have hkeys := h.keys_of_silent hsilent
    have hport := h.begin_port_ne hphase hsilent
    have hlaunching := h.launching_iff.2 ⟨hphase, Or.inl hsilent⟩
    -- It is registered at once, and still launching until its start is dealt with.
    have henrolled : l.begin.enroll.keys = [l.begin.standing.port] := by
      simp [enroll, hkeys]
    exact { h with
      claim_of_silent := fun _ hfalse => by cases hfalse
      launching_iff := ⟨fun _ => ⟨hphase, Or.inr rfl⟩, fun _ => hlaunching⟩
      of_starting := fun _ => ⟨hphase, rfl⟩
      port_ne := fun _ => hport
      keys_eq := Or.inr henrolled
      of_key := fun _ => ⟨rfl, by simp [enroll, hphase, SupervisorPhase.isBeforeRemoval]⟩
      registered := fun _ _ _ _ => henrolled }
  | finishStart hstarting =>
    -- It runs, so that it has no business among the launching servers any more.
    obtain ⟨hphase, hrunning⟩ := h.of_starting hstarting
    exact { h with
      claim_of_silent := fun _ hsilent => by simp [leave, release, hrunning] at hsilent
      reading_of_claim := fun hclaim => by simp [leave, release] at hclaim
      launching_iff := by simp [leave, release, hrunning]
      of_starting := fun hfalse => by cases hfalse }
  | reject hphase hsilent =>
    have hkeys := h.keys_of_silent hsilent
    have hport := h.begin_port_ne hphase hsilent
    -- A server that has told nothing yet cannot be in the middle of its start.
    have hidle : l.isStarting = false := by
      by_contra hstarting
      have hrunning := (h.of_starting (by simpa using hstarting)).2
      rw [hsilent] at hrunning
      cases hrunning
    exact { h with
      claim_of_silent := fun _ hfalse => by cases hfalse
      reading_of_claim := fun hclaim => by simp [leave, mark, release] at hclaim
      launching_iff := by simp [leave, mark, release, hidle]
      of_starting := fun hstarting => ⟨(h.of_starting hstarting).1, rfl⟩
      port_ne := fun _ => hport
      keys_eq := Or.inl hkeys
      of_key := fun hne => absurd hkeys hne
      registered := fun _ _ halive => by simp [leave, mark, release] at halive
      autoRestart_eq := fun halive => by simp [leave, mark, release] at halive }
  | mark =>
    exact { h with
      registered := fun _ _ halive => by simp [mark] at halive
      autoRestart_eq := fun halive => by simp [mark] at halive }
  | oust =>
    exact { h with
      registered := fun _ _ _ hkept => by simp at hkept }
  | evict hkilled =>
    exact { h with
      keys_eq := Or.inl rfl
      of_key := fun hne => absurd rfl hne
      registered := fun _ _ halive hkept => by
        -- Whoever took it out had killed it or made it end before.
        rcases hkilled with hkilled | housted
        · simp [evict, hkilled] at halive
        · simp [evict, housted] at hkept }
  | endProcess =>
    exact { h with
      reading_of_alive := fun halive => by simp [endProcess] at halive }
  | close hphase hdead hidle =>
    -- It stays registered: its supervisor takes it out only after it has reported the end.
    exact { h with
      claim_of_silent := fun hreading => by simp [setPhase] at hreading
      reading_of_claim := fun hclaim => by simp [setPhase, release] at hclaim
      reading_of_alive := fun halive => by simp [setPhase, release, leave, hdead] at halive
      launching_iff := by simp [setPhase, release, leave]
      of_starting := fun hstarting => by simp [setPhase, release, leave, hidle] at hstarting
      of_key := fun hne => ⟨(h.of_key hne).1, rfl⟩
      registered := fun hrunning _ => h.registered hrunning (by rw [hphase]; rfl)
      of_restarting := fun port hrestarting => by simp [setPhase] at hrestarting }
  | report hphase =>
    exact h.advance (by simp [hphase]) (by simp) (by rw [hphase]; rfl) (by simp)
  | remove hphase => exact h.remove hphase
  | giveUp hphase => exact h.advance (by simp [hphase]) (by simp) (by rw [hphase]; rfl) (by simp)
  | restart hphase hauto halive hfew hport =>
    refine h.advance (by simp [hphase]) (by simp) (by rw [hphase]; rfl) ?_
    intro port hrestarting
    cases hrestarting
    exact ⟨hport, hfew⟩
  | relaunched hphase =>
    exact h.advance (by simp [hphase]) (by simp) (by rw [hphase]; rfl) (by simp)

end Life

end HostDaemon
