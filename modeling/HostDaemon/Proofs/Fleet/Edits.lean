import HostDaemon.Fleet.Traffic
import HostDaemon.Proofs.Console.Startup
import HostDaemon.Proofs.Fleet.Kills

/-! # What is changed about servers

  All that is known of a server can change, but each operation changes only some of it, and only of
  some servers.

  - `Server.Edit` lists the changes, each with its topic.
  - `Fleet.Edits` says that servers were changed on some topics at most. It is proved for every
    operation of a fleet but launches, so that what the changes keep is kept by the operations.
  - A start is recorded only where one is announced. -/

namespace HostDaemon

namespace Server

/-- What a change of a server is about. -/
inductive Topic where
  /-- The port that it told. -/
  | port
  /-- The address that it told. -/
  | address
  /-- When its players were last seen doing something. -/
  | activity
  /-- The settings that its console changes. -/
  | setting
  /-- What was written to its console. -/
  | console
  /-- Whether sweeps spare it. -/
  | protection
  /-- That it runs. -/
  | start
  /-- That its start was announced. -/
  | announcement
  /-- That it was killed, and how that is to be reported. -/
  | kill
  /-- That its process has ended. -/
  | exit
deriving Repr, DecidableEq

/-- What requests change. -/
def Topic.isOrdered : Topic → Bool
  | .console | .protection | .kill => true
  | _ => false

/-- What lines change that tell of no start. -/
def Topic.isTold : Topic → Bool
  | .port | .address | .activity | .setting | .console => true
  | _ => false

/-- A change of a server. -/
inductive Edit : Topic → Server → Server → Prop where
  /-- It tells its port. -/
  | port (s : Server) (port : UInt16) : Edit .port s { s with port := port }
  /-- It tells its address. -/
  | address (s : Server) (address : String) : Edit .address s { s with address := some address }
  /-- Its players do something. -/
  | activity (s : Server) (now : Int64) : Edit .activity s (s.touch now)
  /-- Its console changes a setting. -/
  | setting (s : Server) (value : String) (credential : Credential) :
      Edit .setting s { s with settings := s.settings.set value credential }
  /-- Lines are written to its console. -/
  | console (s : Server) (lines : List String) :
      Edit .console s { s with console := (s.console.writeAll lines).2 }
  /-- Its owner protects it, or does so no longer. -/
  | protection (s : Server) (isProtected : Bool) :
      Edit .protection s { s with isProtected := isProtected }
  /-- It runs. -/
  | start (s : Server) : Edit .start s { s with isRunning := true }
  /-- Its start was announced. -/
  | announcement (s : Server) : Edit .announcement s { s with isRecovering := false }
  /-- Its end is not to be reported. -/
  | hide (s : Server) : Edit .kill s { s with hidesStop := true }
  /-- It is killed on purpose. -/
  | mark (s : Server) (byOwner : Bool) : Edit .kill s (s.markKilled byOwner)
  /-- It is to be killed as soon as it has a process. -/
  | request (s : Server) : Edit .kill s { s with isKillRequested := true }
  /-- Its process has ended. -/
  | exit (s : Server) : Edit .exit s { s with console := s.console.close, pid := none }

/-- Some changes of a server, one after the other. -/
def Edits (may : Topic → Prop) : Server → Server → Prop :=
  Relation.ReflTransGen fun s s' => ∃ topic, may topic ∧ Edit topic s s'

variable {s s' s'' : Server} {topic : Topic} {may may' : Topic → Prop}

namespace Edit

/-- That the end of a server is not to be reported is never taken back. -/
theorem hidesStop (h : Edit topic s s') (hs : s.hidesStop = true) : s'.hidesStop = true := by
  cases h with
  | hide => rfl
  | activity =>
    unfold touch
    split <;> exact hs
  | _ => exact hs

/-- That a server is being recovered is known until its start is announced. -/
theorem isRecovering (h : Edit topic s s') (hne : topic ≠ .announcement) :
    s'.isRecovering = s.isRecovering := by
  cases h with
  | announcement => exact absurd rfl hne
  | activity =>
    unfold touch
    split <;> rfl
  | _ => rfl

/-- Only its start tells that a server runs. -/
theorem isRunning (h : Edit topic s s') (hne : topic ≠ .start) : s'.isRunning = s.isRunning := by
  cases h with
  | start => exact absurd rfl hne
  | activity =>
    unfold touch
    split <;> rfl
  | _ => rfl

/-- A server that runs is not told to stop. -/
theorem runs (h : Edit topic s s') (hs : s.isRunning = true) : s'.isRunning = true := by
  by_cases htopic : topic = .start
  · subst htopic
    cases h
    rfl
  · exact (h.isRunning htopic).trans hs

/-- The identifier of a process goes with its end. -/
theorem pid (h : Edit topic s s') (hne : topic ≠ .exit) : s'.pid = s.pid := by
  cases h with
  | exit => exact absurd rfl hne
  | activity =>
    unfold touch
    split <;> rfl
  | _ => rfl

end Edit

namespace Edits

theorem single (hmay : may topic) (h : Edit topic s s') : Edits may s s' :=
  Relation.ReflTransGen.single ⟨topic, hmay, h⟩

/-- What every change keeps is kept by all of them. -/
theorem keeps {P : Server → Prop} (h : Edits may s s') (hs : P s)
    (hedit : ∀ topic, may topic → ∀ s s', Edit topic s s' → P s → P s') : P s' := by
  induction h with
  | refl => exact hs
  | tail _ hlast ih =>
    obtain ⟨topic, hmay, hlast⟩ := hlast
    exact hedit topic hmay _ _ hlast ih

/-- Where more may be changed the same may be. -/
theorem mono (h : Edits may s s') (hmono : ∀ topic, may topic → may' topic) : Edits may' s s' := by
  refine Relation.ReflTransGen.mono ?_ s s' h
  rintro s s' ⟨topic, hmay, hedit⟩
  exact ⟨topic, hmono topic hmay, hedit⟩

theorem hidesStop (h : Edits may s s') (hs : s.hidesStop = true) : s'.hidesStop = true :=
  h.keeps (P := fun s => s.hidesStop = true) hs fun _ _ _ _ hedit => hedit.hidesStop

/-- What only one topic changes is as it was where that may not be touched. -/
theorem field_eq {α : Type} {field : Server → α} (h : Edits may s s') (hnot : ¬ may topic)
    (hfield : ∀ other s s', Edit other s s' → other ≠ topic → field s' = field s) :
    field s' = field s := by
  refine h.keeps (P := fun s' => field s' = field s) rfl ?_
  intro other hmay _ _ hedit heq
  exact (hfield other _ _ hedit fun hother => hnot (hother ▸ hmay)).trans heq

theorem isRecovering (h : Edits may s s') (hnot : ¬ may .announcement) :
    s'.isRecovering = s.isRecovering :=
  h.field_eq hnot fun _ _ _ hedit => hedit.isRecovering

theorem isRunning (h : Edits may s s') (hnot : ¬ may .start) : s'.isRunning = s.isRunning :=
  h.field_eq hnot fun _ _ _ hedit => hedit.isRunning

theorem pid (h : Edits may s s') (hnot : ¬ may .exit) : s'.pid = s.pid :=
  h.field_eq hnot fun _ _ _ hedit => hedit.pid

end Edits

end Server

namespace Fleet

/-- Every server was changed on some topics at most, and a start was recorded only where one may be
    announced. There are as many servers as before. -/
structure Edits (may : Server.Topic → ServerRef → Prop) (f f' : Fleet) : Prop where
  /-- What was changed about each server. -/
  server : ∀ ref s, f.server? ref = some s →
    ∃ s', f'.server? ref = some s' ∧ Server.Edits (may · ref) s s'
  /-- There are no other servers. -/
  length : f'.servers.length = f.servers.length
  /-- A start is recorded only where it is announced. -/
  store : (∀ ref, ¬ may .announcement ref) → f'.store = f.store

namespace Edits

variable {may : Server.Topic → ServerRef → Prop} {f f' f'' : Fleet}

/-- What leaves servers and start records alone changes nothing. -/
theorem of_eq (hservers : f'.servers = f.servers) (hstore : f'.store = f.store) :
    Edits may f f' where
  server ref s hs := ⟨s, by rw [server?, hservers, ← server?, hs], .refl⟩
  length := by rw [hservers]
  store _ := hstore

theorem refl (f : Fleet) : Edits may f f := of_eq rfl rfl

theorem trans (h : Edits may f f') (h' : Edits may f' f'') : Edits may f f'' where
  server ref s hs := by
    obtain ⟨s', hs', hedits⟩ := h.server ref s hs
    obtain ⟨s'', hs'', hedits'⟩ := h'.server ref s' hs'
    exact ⟨s'', hs'', hedits.trans hedits'⟩
  length := h'.length.trans h.length
  store hnot := (h'.store hnot).trans (h.store hnot)

end Edits

variable {may : Server.Topic → ServerRef → Prop} {f f' : Fleet} {ref : ServerRef}

/-! ### Servers and consoles -/

theorem edits_update (f : Fleet) (ref : ServerRef) (change : Server → Server)
    (hchange : ∀ s, f.server? ref = some s → Server.Edits (may · ref) s (change s)) :
    Edits may f (f.update ref change) where
  server other s hs := by
    rw [server?_update]
    split
    next heq =>
      subst heq
      exact ⟨change s, by rw [hs, Option.map_some], hchange s hs⟩
    next => exact ⟨s, hs, .refl⟩
  length := List.length_modify ..
  store _ := rfl

theorem edits_notify (f : Fleet) (notice : Notice) : Edits may f (f.notify notice) := .of_eq rfl rfl

theorem edits_writeLines (hmay : may .console ref) (f : Fleet) (lines : List String) :
    Edits may f (f.writeLines ref lines).2 := by
  unfold writeLines
  split
  · exact .refl f
  next s hs =>
    refine f.edits_update ref _ fun s' hs' => ?_
    -- The console that is written to is that of the server as it is found.
    rw [hs, Option.some.injEq] at hs'
    subst hs'
    exact .single hmay (.console s lines)

theorem edits_tellConsole (hmay : may .console ref) (f : Fleet) (lines : List String) :
    Edits may f (f.tellConsole ref lines) :=
  edits_writeLines hmay f lines

theorem edits_writeToEach (hmay : ∀ ref, may .console ref) (f : Fleet) (lines : List String)
    (refs : List ServerRef) : Edits may f (f.writeToEach lines refs).2 := by
  induction refs generalizing f with
  | nil => exact .refl f
  | cons ref refs ih =>
    simp only [writeToEach]
    exact (edits_writeLines (hmay ref) f lines).trans (ih (f.writeLines ref lines).2)

/-! ### Tables -/

theorem edits_unregister (f : Fleet) (ref : ServerRef) : Edits may f (f.unregister ref).2 := by
  unfold unregister
  split <;> exact .of_eq rfl rfl

theorem edits_leaveLaunching (f : Fleet) (ref : ServerRef) :
    Edits may f (f.leaveLaunching ref) := by
  unfold leaveLaunching
  split <;> exact .of_eq rfl rfl

theorem edits_releaseClaim (f : Fleet) (ref : ServerRef) : Edits may f (f.releaseClaim ref) := by
  unfold releaseClaim
  repeat' split
  all_goals exact .of_eq rfl rfl

theorem edits_register (hregister : f.register ref = .ok f') : Edits may f f' := by
  obtain ⟨registry, rfl⟩ := exists_registry_of_register hregister
  exact .of_eq rfl rfl

/-! ### Kills -/

theorem edits_killProcess (hmay : may .kill ref) (f : Fleet) :
    Edits may f (f.killProcess ref) := by
  unfold killProcess
  split
  · exact .refl f
  · split
    · exact .of_eq rfl rfl
    · exact f.edits_update ref _ fun s _ => .single hmay (.request s)

theorem edits_call {k : KillCall} (hmay : may .kill k.server) (f : Fleet) :
    Edits may f (f.call k).2 := by
  have hquiet : Edits may f
      (if k.isQuiet then f.update k.server ({ · with hidesStop := true }) else f) := by
    split
    · exact f.edits_update k.server _ fun s _ => .single hmay (.hide s)
    · exact .refl f
  have hmarked := hquiet.trans (edits_update _ k.server (·.markKilled k.byOwner) fun s _ =>
    .single hmay (.mark s k.byOwner))
  exact (hmarked.trans (edits_unregister _ k.server)).trans (edits_killProcess hmay _)

theorem edits_callAll {ks : List KillCall} (hmay : ∀ k ∈ ks, may .kill k.server) (f : Fleet) :
    Edits may f (f.callAll ks) :=
  List.foldlRecOn ks _ (.refl f) fun g hg k hk => hg.trans (edits_call (hmay k hk) g)

theorem edits_killEach (hmay : ∀ ref, may .kill ref) (f : Fleet) (refs : List ServerRef)
    (byOwner : Bool) : Edits may f (f.killEach refs byOwner) := by
  rw [killEach_eq]
  exact edits_callAll (fun k _ => hmay k.server) f

theorem edits_sweepAfter (hmay : ∀ ref, may .kill ref) (f : Fleet) (days : UInt64) (now : Int64) :
    Edits may f (f.sweepAfter days now).2 := by
  have hkilled : Edits may f (f.killIdle days now).2 := edits_killEach hmay f _ false
  simp only [sweepAfter]
  split
  · exact hkilled.trans (edits_notify _ _)
  · exact hkilled

/-! ### Requests -/

/-- What is done where an operation succeeds is all that is done. -/
theorem edits_changed {α : Type} {text : α → String} {result : Except RequestError (α × Fleet)}
    (hresult : ∀ a f', result = .ok (a, f') → Edits may f f') :
    Edits may f (f.changed text result).2 := by
  cases result with
  | error e => exact .refl f
  | ok done => exact hresult done.1 done.2 rfl

/-- The request protects a server from sweeps, or stops doing so: whoever asks has the level that
    this needs and may act on the server. -/
def Protects (f : Fleet) (r : Request) (ref : ServerRef) : Prop :=
  ∃ who port s owns, r = .protect who port ∧ f.authorized port who .vip = .ok (ref, s, owns)

/-- A request that is answered at once kills, protects, and writes to consoles. -/
theorem edits_dispatch (hkill : ∀ ref, may .kill ref) (hconsole : ∀ ref, may .console ref)
    (f : Fleet) (env : Surroundings) (r : Request)
    (hprotect : ∀ ref, f.Protects r ref → may .protection ref)
    (hother : ∀ owner options port recovering, r ≠ .host owner options port recovering) :
    Edits may f (f.dispatch env r).2 := by
  cases r with
  | host owner options port recovering => exact absurd rfl (hother owner options port recovering)
  | list | info | log | query | shutdown =>
    simp only [dispatch, answered]
    first
      -- Who only asks changes nothing.
      | exact .refl f
      | split <;> exact .refl f
  | kill who port =>
    refine edits_changed fun text f' hdone => ?_
    unfold killOn at hdone
    split at hdone
    · cases hdone
    next ref _ owns _ =>
      cases hdone
      exact edits_call (k := ⟨ref, owns, false⟩) (hkill ref) f
  | killMine who =>
    refine edits_changed fun text f' hdone => ?_
    simp only [killMine] at hdone
    repeat' split at hdone
    all_goals cases hdone
    · exact .refl f
    · exact edits_killEach hkill f _ true
  | killAll who =>
    refine edits_changed fun text f' hdone => ?_
    simp only [killAll] at hdone
    repeat' split at hdone
    all_goals cases hdone
    · exact .refl f
    · exact (edits_killEach hkill f _ false).trans (edits_notify _ _)
  | killVersion who version =>
    refine edits_changed fun text f' hdone => ?_
    simp only [killVersion] at hdone
    repeat' split at hdone
    all_goals cases hdone
    · exact .refl f
    · exact (edits_killEach hkill f _ false).trans (edits_notify _ _)
  | killInactive who days =>
    refine edits_changed fun text f' hdone => ?_
    have hkilled : Edits may f (f.killIdle days env.now).2 := edits_killEach hkill f _ false
    simp only [killInactive] at hdone
    repeat' split at hdone
    all_goals cases hdone
    · exact hkilled
    · exact hkilled.trans (edits_notify _ _)
  | cleanup who =>
    refine edits_changed fun text f' hdone => ?_
    simp only [cleanUp] at hdone
    repeat' split at hdone
    all_goals cases hdone
    · exact .refl f
    · exact edits_sweepAfter hkill f _ env.now
  | send who port command =>
    simp only [dispatch, send]
    cases f.authorized port who .registered with
    | error e => exact .refl f
    | ok found =>
      cases ConsoleCommand.prepare? command who (some f.config.host.hostnameBase) with
      | none => exact .refl f
      | some lines =>
        have hwritten : Edits may f (f.writeLines found.1 lines).2 :=
          edits_writeLines (hconsole found.1) f lines
        -- Whether the lines were taken is answered, and changes nothing else.
        cases hlines : f.writeLines found.1 lines with
        | mk taken f' =>
          rw [hlines] at hwritten
          simp only [hlines]
          cases taken <;> exact hwritten
  | sendAll who command =>
    simp only [dispatch, sendAll]
    cases f.require who .admin with
    | error e => exact .refl f
    | ok level =>
      cases linesForAll command who with
      | error e => exact .refl f
      | ok lines => exact edits_writeToEach hconsole f lines _
  | broadcast who message =>
    simp only [dispatch, broadcast]
    cases f.require who .moderator with
    | error e => exact .refl f
    | ok level => exact edits_writeToEach hconsole f _ _
  | protect who port =>
    simp only [dispatch, protect]
    cases hfound : f.authorized port who .vip with
    | error e => exact .refl f
    | ok found =>
      have hmay := hprotect found.1 ⟨who, port, found.2.1, found.2.2, rfl, hfound⟩
      exact f.edits_update found.1 ({ · with isProtected := !found.2.1.isProtected }) fun s _ =>
        .single hmay (.protection s _)
  | accepting who enabled =>
    simp only [dispatch, setAccepting]
    cases f.require who .admin with
    | error e => exact .refl f
    | ok level =>
      simp only [changed]
      split <;> exact .of_eq rfl rfl

/-! ### Lines -/

theorem edits_logLine (f : Fleet) (env : Surroundings) (ref : ServerRef) (line : String) :
    Edits may f (f.logLine env ref line) := by
  unfold logLine
  split <;> exact .of_eq rfl rfl

theorem edits_askReputation (f : Fleet) (ref : ServerRef) (ip : String) :
    Edits may f (f.askReputation ref ip) := by
  unfold askReputation
  repeat' split
  all_goals exact .of_eq rfl rfl

theorem edits_beginLookup (f : Fleet) (i : Nat) : Edits may f (f.beginLookup i) := by
  unfold beginLookup
  repeat' split
  all_goals exact .of_eq rfl rfl

theorem edits_finishLookup (hmay : ∀ ref, may .console ref) (f : Fleet) (env : Surroundings)
    (i : Nat) : Edits may f (f.finishLookup env i) := by
  unfold finishLookup
  split
  next question c _ _ =>
    split
    · have hanswered : Edits may f { f with
          lookups := f.lookups.eraseIdx i, checker := some (c.verdict env.fetch question.ip).2 } :=
        .of_eq rfl rfl
      simp only
      split
      · exact hanswered.trans (edits_tellConsole (hmay question.server) _ _)
      · exact hanswered
    · exact .refl f
  · exact .refl f

theorem edits_onPlayer (hmay : may .console ref) (f : Fleet) (ip : String)
    (checkReputation : Bool) : Edits may f (f.onPlayer ref ip checkReputation) := by
  have hasked : Edits may f (if checkReputation then f.askReputation ref ip else f) := by
    split
    · exact f.edits_askReputation ref ip
    · exact .refl f
  unfold onPlayer
  split
  · exact .refl f
  · simp only
    split
    · exact hasked.trans (edits_tellConsole hmay _ _)
    · exact hasked

theorem edits_setSetting (hmay : may .setting ref) (f : Fleet) (value : String)
    (credential : Credential) : Edits may f
      (f.update ref fun s => { s with settings := s.settings.set value credential }) :=
  f.edits_update ref _ fun s _ => .single hmay (.setting s value credential)

theorem edits_onHostname (hset : may .setting ref) (htell : may .console ref) (f : Fleet)
    (s : Server) (value : String) : Edits may f (f.onHostname ref s value) := by
  unfold onHostname
  split
  · exact .refl f
  · have hnamed := edits_setSetting hset f value .hostname
    simp only
    split
    · exact hnamed.trans (edits_notify _ _)
    · exact (hnamed.trans (edits_tellConsole htell _ _)).trans (edits_notify _ _)

theorem edits_onPassword (hset : may .setting ref) (f : Fleet) (s : Server)
    (credential : Credential) (value : String) :
    Edits may f (f.onPassword ref s credential value) := by
  unfold onPassword
  simp only
  split
  · exact f.edits_notify _
  · split
    · exact .refl f
    · exact (edits_setSetting hset f value credential).trans (edits_notify _ _)

theorem edits_onCredential (hmay : ∀ topic, topic.isTold = true → may topic ref) (f : Fleet)
    (credential : Credential) (value : String) :
    Edits may f (f.onCredential ref credential value) := by
  unfold onCredential
  split
  · exact .refl f
  · split
    · exact .refl f
    · split
      · exact edits_onHostname (hmay .setting rfl) (hmay .console rfl) f _ value
      · exact edits_onPassword (hmay .setting rfl) f _ _ value

/-- An event changes what lines tell, where it is not that of a start. -/
theorem edits_onEvent (hmay : ∀ topic, topic.isTold = true → may topic ref) (f : Fleet)
    (env : Surroundings) (event : ConsoleEvent)
    (hrunning : event = .initialized → ∀ s, f.server? ref = some s → s.isRunning = true) :
    Edits may f (f.onEvent env ref event) := by
  cases event with
  | alternatePort port | bindRetry port =>
    refine f.edits_update ref _ fun s _ => ?_
    split
    · exact .refl
    · exact .single (hmay .port rfl) (.port s port)
  | boundAddress address =>
    exact f.edits_update ref _ fun s _ => .single (hmay .address rfl) (.address s address)
  | initialized =>
    simp only [onEvent]
    split
    next s hs =>
      rw [if_pos (hrunning rfl s hs)]
      exact .refl f
    next => exact .refl f
  | playerSeen name ip checkReputation =>
    exact edits_onPlayer (hmay .console rfl) f ip checkReputation
  | credentialChanged credential value => exact edits_onCredential hmay f credential value
  | activity =>
    exact f.edits_update ref _ fun s _ => .single (hmay .activity rfl) (.activity s env.now)

/-! ### Whole lines -/

/-- A line tells of the start of a server where it is a startup line and the server does not run. -/
theorem startsNow_iff {line : String} :
    Traffic.startsNow f ref (ConsoleLine.recognize line) = true ↔
      .initialized ∈ ConsoleLine.recognize line ∧
        ∃ s, f.server? ref = some s ∧ s.isRunning = false := by
  simp only [Traffic.startsNow, Bool.and_eq_true, decide_eq_true_eq, Option.any_eq_true,
    Bool.not_eq_true']
  refine and_congr_left fun _ => ⟨fun heq => heq ▸ List.mem_singleton_self _, ?_⟩
  exact ConsoleLine.recognize_of_initialized

/-- What holds once a line is logged, and is kept by every event but a start, holds after a line that
    does not tell of the start of its server. -/
theorem onLine_keeps {P : Fleet → Prop} (env : Surroundings) {line : String}
    (hnot : Traffic.startsNow f ref (ConsoleLine.recognize line) = false)
    (hlogged : P (f.logLine env ref line))
    (hevent : ∀ f event, event ≠ .initialized → P f → P (f.onEvent env ref event)) :
    P (f.onLine env ref line) := by
  by_cases hstarts : .initialized ∈ ConsoleLine.recognize line
  · -- A startup line of a server that runs is logged, and that is all.
    have hservers : (f.logLine env ref line).server? ref = f.server? ref := by
      unfold logLine
      split <;> rfl
    have hlast : f.onLine env ref line = f.logLine env ref line := by
      rw [onLine, ConsoleLine.recognize_of_initialized hstarts, List.foldl_cons, List.foldl_nil]
      simp only [onEvent, hservers]
      split
      next s hs =>
        rw [if_pos]
        by_contra hsilent
        rw [startsNow_iff.2 ⟨hstarts, s, hs, by simpa using hsilent⟩] at hnot
        cases hnot
      next => rfl
    rwa [hlast]
  · refine List.foldlRecOn _ _ hlogged fun g hg event hmem => hevent g event ?_ hg
    rintro rfl
    exact hstarts hmem

/-- A line changes what lines tell, where it does not tell of the start of its server. -/
theorem edits_onLine (hmay : ∀ topic, topic.isTold = true → may topic ref) (f : Fleet)
    (env : Surroundings) {line : String}
    (hnot : Traffic.startsNow f ref (ConsoleLine.recognize line) = false) :
    Edits may f (f.onLine env ref line) :=
  onLine_keeps env hnot (f.edits_logLine env ref line) fun g event hne hg =>
    hg.trans (edits_onEvent hmay g env event fun heq => absurd heq hne)

/-! ### Starts -/

theorem edits_beginStart (hport : may .port ref) (hstart : may .start ref) (f : Fleet) :
    Edits may f (f.beginStart ref) := by
  have hsettled : Edits may f (f.settlePort ref) := by
    unfold settlePort
    split
    · exact .refl f
    next v _ =>
      split
      · refine f.edits_update ref _ fun s _ => ?_
        split
        · exact .single hport (.port s v.launchPort)
        · exact .refl
      · exact .refl f
  exact hsettled.trans (edits_update _ ref _ fun s _ => .single hstart (.start s))

/-- A server whose start is announced is no longer being recovered. -/
theorem edits_announceStart (hmay : may .announcement ref) (f : Fleet) :
    Edits may f (f.announceStart ref) := by
  unfold announceStart
  split
  · exact .refl f
  next s _ =>
    have hrecorded : Edits may f (if s.isRecovering then f else { f with
        notices := f.notices ++ f.startNotices s
        store := f.store.recordStart ⟨s.hostname, s.id, s.owner⟩ }) := by
      split
      · exact .refl f
      · exact ⟨fun other s hs => ⟨s, hs, .refl⟩, rfl, fun hnot => absurd hmay (hnot ref)⟩
    exact hrecorded.trans (edits_update _ ref _ fun s _ => .single hmay (.announcement s))

theorem edits_finishStart (hmay : may .announcement ref) (f : Fleet) :
    Edits may f (f.finishStart ref) :=
  ((f.edits_leaveLaunching ref).trans (edits_announceStart hmay _)).trans
    (edits_releaseClaim _ ref)

theorem edits_rejectStart (hmay : may .kill ref) (f : Fleet) (e : PortTaken) :
    Edits may f (f.rejectStart ref e) := by
  have hrefuse : ∀ f : Fleet, Edits may f (f.refuseStart ref e) := by
    intro f
    unfold refuseStart
    split
    · exact .refl f
    next s _ =>
      have hnotice : Edits may f _ := f.edits_notify (.error
        (s!"{s.owner}'s server '{s.hostname}' could not be registered: " ++ e.message))
      have hmarked := hnotice.trans (edits_update _ ref
        (fun s => { s with hidesStop := true }.markKilled false) fun s _ =>
          (Server.Edits.single hmay (.hide s)).trans (Server.Edits.single hmay (.mark _ false)))
      exact hmarked.trans (edits_killProcess hmay _)
  exact ((f.edits_leaveLaunching ref).trans (hrefuse _)).trans (edits_releaseClaim _ ref)

/-! ### Ends -/

theorem edits_closeRun (hmay : may .exit ref) (f : Fleet) (env : Surroundings) (v : Supervisor) :
    Edits may f (f.closeRun env ref v) := by
  unfold closeRun
  split
  · exact .refl f
  next s _ =>
    have hreleased : Edits may f { f.releaseClaim ref with
        files := (f.releaseClaim ref).files.appendAt v.log
          (Text.Utf8.bytesOf (Log.footer env.nowSeconds (s.uptime env.now).toNat)) } :=
      (f.edits_releaseClaim ref).trans (.of_eq rfl rfl)
    exact (hreleased.trans (edits_update _ ref _ fun s _ => .single hmay (.exit s))).trans
      (edits_leaveLaunching _ ref)

theorem edits_planRestart (f : Fleet) (env : Surroundings) (v : Supervisor) (s : Server) :
    Edits may f (f.planRestart env v s).2 := by
  unfold planRestart
  split
  · exact .refl f
  · split
    · exact f.edits_notify _
    · exact .of_eq rfl rfl

theorem edits_setPhase (f : Fleet) (ref : ServerRef) (phase : SupervisorPhase) :
    Edits may f (f.setPhase ref phase) := .of_eq rfl rfl

end Fleet

end HostDaemon
