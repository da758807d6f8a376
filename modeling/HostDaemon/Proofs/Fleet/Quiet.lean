import HostDaemon.Fleet.Control
import HostDaemon.Fleet.Exit
import HostDaemon.Proofs.Fleet.Life

/-! # What changes nothing of consequence

  Most of what the daemon does with a line or a request only writes to consoles, files and notices,
  or notes something about a server on which nothing depends: `Fleet.Alike` says that two fleets
  agree on everything else. -/

namespace HostDaemon

/-- What the end of a server depends on. -/
structure Fate where
  /-- Where it stands. -/
  standing : Standing
  /-- Was it killed by its owner? -/
  isKilledByOwner : Bool

/-- What the end of a server depends on. -/
def Server.fate (s : Server) : Fate := ⟨s.standing, s.isKilledByOwner⟩

/-- That players do something is of no consequence. -/
theorem Server.fate_touch (s : Server) (now : Int64) : (s.touch now).fate = s.fate := by
  unfold touch
  split <;> rfl

namespace Fleet

/-- Two fleets that agree on where every server stands, on whom their owners killed, on who looks
    after each, which of them are registered or launching, on the places in the quota and on the
    claimed ports. -/
structure Alike (f f' : Fleet) : Prop where
  /-- They have one configuration. -/
  config : f'.config = f.config
  /-- Every account may have as many servers. -/
  quota : f'.store.quota = f.store.quota
  /-- Every server stands where it stood, and its owner has killed it or not as before. -/
  fates : f'.servers.map Server.fate = f.servers.map Server.fate
  /-- Every supervisor is as far as it was. -/
  supervisors : f'.supervisors = f.supervisors
  /-- The same servers are registered. -/
  registry : f'.registry = f.registry
  /-- The same servers are launching. -/
  launching : f'.launching = f.launching
  /-- The same requests hold a place. -/
  pending : f'.pending = f.pending
  /-- The same ports are claimed. -/
  ports : f'.ports = f.ports

namespace Alike

variable {f f' f'' : Fleet}

theorem refl (f : Fleet) : Alike f f := ⟨rfl, rfl, rfl, rfl, rfl, rfl, rfl, rfl⟩

theorem trans (h : Alike f f') (h' : Alike f' f'') : Alike f f'' where
  config := h'.config.trans h.config
  quota := h'.quota.trans h.quota
  fates := h'.fates.trans h.fates
  supervisors := h'.supervisors.trans h.supervisors
  registry := h'.registry.trans h.registry
  launching := h'.launching.trans h.launching
  pending := h'.pending.trans h.pending
  ports := h'.ports.trans h.ports

/-- Every server stands where it stood. -/
theorem standings (h : Alike f f') :
    f'.servers.map Server.standing = f.servers.map Server.standing := by
  have hmap := congrArg (List.map Fate.standing) h.fates
  rwa [List.map_map, List.map_map] at hmap

theorem map_server? (h : Alike f f') (ref : ServerRef) :
    (f'.server? ref).map Server.standing = (f.server? ref).map Server.standing := by
  have hget := congrArg (·[ref]?) h.standings
  simpa [Fleet.server?] using hget

theorem supervisor? (h : Alike f f') (ref : ServerRef) :
    f'.supervisor? ref = f.supervisor? ref := by
  rw [Fleet.supervisor?, Fleet.supervisor?, h.supervisors]

theorem isLaunching (h : Alike f f') (ref : ServerRef) :
    f'.isLaunching ref = f.isLaunching ref := by
  rw [Fleet.isLaunching, Fleet.isLaunching, h.launching]

/-- Every life is what it was. -/
theorem life? (h : Alike f f') (isStarting isOusted : Bool) (ref : ServerRef) :
    f'.life? isStarting isOusted ref = f.life? isStarting isOusted ref := by
  unfold Fleet.life?
  rw [h.map_server? ref, h.supervisor? ref, h.isLaunching ref, h.registry]

end Alike

variable (f : Fleet)

/-! ### Notes about a server -/

/-- A note about a server on which nothing depends. -/
theorem alike_update (ref : ServerRef) (change : Server → Server)
    (hchange : ∀ s, (change s).fate = s.fate) : Alike f (f.update ref change) := by
  refine ⟨rfl, rfl, ?_, rfl, rfl, rfl, rfl, rfl⟩
  apply List.ext_getElem?
  intro i
  simp only [update, List.getElem?_map, List.getElem?_modify]
  split
  · cases f.servers[i]? with
    | none => rfl
    | some s => simp [hchange]
  · simp

theorem alike_notify (notice : Notice) : Alike f (f.notify notice) :=
  ⟨rfl, rfl, rfl, rfl, rfl, rfl, rfl, rfl⟩

theorem alike_writeLines (ref : ServerRef) (lines : List String) :
    Alike f (f.writeLines ref lines).2 := by
  unfold writeLines
  split
  · exact .refl f
  · exact f.alike_update ref _ fun _ => rfl

theorem alike_tellConsole (ref : ServerRef) (lines : List String) :
    Alike f (f.tellConsole ref lines) :=
  f.alike_writeLines ref lines

theorem alike_writeToEach (lines : List String) (refs : List ServerRef) :
    Alike f (f.writeToEach lines refs).2 := by
  induction refs generalizing f with
  | nil => exact .refl f
  | cons ref refs ih =>
    simp only [writeToEach]
    exact (f.alike_writeLines ref lines).trans (ih (f.writeLines ref lines).2)

/-! ### Lines -/

theorem alike_logLine (env : Surroundings) (ref : ServerRef) (line : String) :
    Alike f (f.logLine env ref line) := by
  unfold logLine
  split
  · exact .refl f
  · exact ⟨rfl, rfl, rfl, rfl, rfl, rfl, rfl, rfl⟩

/-- What holds once a line is logged, and is kept by every event, holds after the line. -/
theorem onLine_induction {P : Fleet → Prop} (env : Surroundings) (ref : ServerRef) (line : String)
    (hlogged : P (f.logLine env ref line))
    (hevent : ∀ f event, P f → P (f.onEvent env ref event)) : P (f.onLine env ref line) :=
  List.foldlRecOn _ _ hlogged fun f hf event _ => hevent f event hf

theorem alike_askReputation (ref : ServerRef) (ip : String) :
    Alike f (f.askReputation ref ip) := by
  unfold askReputation
  repeat' split
  all_goals exact ⟨rfl, rfl, rfl, rfl, rfl, rfl, rfl, rfl⟩

theorem alike_beginLookup (i : Nat) : Alike f (f.beginLookup i) := by
  unfold beginLookup
  repeat' split
  all_goals exact ⟨rfl, rfl, rfl, rfl, rfl, rfl, rfl, rfl⟩

theorem alike_finishLookup (env : Surroundings) (i : Nat) : Alike f (f.finishLookup env i) := by
  unfold finishLookup
  split
  next question c _ _ =>
    split
    · -- The answer goes to the console of the server where the player is.
      have hanswered : Alike f { f with
          lookups := f.lookups.eraseIdx i, checker := some (c.verdict env.fetch question.ip).2 } :=
        ⟨rfl, rfl, rfl, rfl, rfl, rfl, rfl, rfl⟩
      simp only
      split
      · exact hanswered.trans (alike_tellConsole _ _ _)
      · exact hanswered
    · exact .refl f
  · exact .refl f

theorem alike_onPlayer (ref : ServerRef) (ip : String) (checkReputation : Bool) :
    Alike f (f.onPlayer ref ip checkReputation) := by
  -- A question about the address and a reminder on the console are of no consequence.
  have hasked : Alike f (if checkReputation then f.askReputation ref ip else f) := by
    split
    · exact f.alike_askReputation ref ip
    · exact .refl f
  unfold onPlayer
  split
  · exact .refl f
  · simp only
    split
    · exact hasked.trans (alike_tellConsole _ _ _)
    · exact hasked

theorem alike_onHostname (ref : ServerRef) (s : Server) (value : String) :
    Alike f (f.onHostname ref s value) := by
  unfold onHostname
  split
  · exact .refl f
  · have hset := f.alike_update ref
      (fun s => { s with settings := s.settings.set value .hostname }) fun _ => rfl
    simp only
    split
    · exact hset.trans (alike_notify _ _)
    · exact (hset.trans (alike_tellConsole _ _ _)).trans (alike_notify _ _)

theorem alike_onPassword (ref : ServerRef) (s : Server) (credential : Credential)
    (value : String) : Alike f (f.onPassword ref s credential value) := by
  unfold onPassword
  simp only
  split
  · exact f.alike_notify _
  · split
    · exact .refl f
    · have hset := f.alike_update ref
        (fun s => { s with settings := s.settings.set value credential }) fun _ => rfl
      exact hset.trans (alike_notify _ _)

theorem alike_onCredential (ref : ServerRef) (credential : Credential) (value : String) :
    Alike f (f.onCredential ref credential value) := by
  unfold onCredential
  split
  · exact .refl f
  · split
    · exact .refl f
    · split
      · exact f.alike_onHostname ref _ value
      · exact f.alike_onPassword ref _ _ value

/-! ### Start and end -/

theorem alike_announceStart (ref : ServerRef) : Alike f (f.announceStart ref) := by
  unfold announceStart
  split
  · exact .refl f
  next s _ =>
    -- A server that is recovered was announced and recorded when it was first started.
    have hannounced : Alike f (if s.isRecovering then f else { f with
        notices := f.notices ++ f.startNotices s
        store := f.store.recordStart ⟨s.hostname, s.id, s.owner⟩ }) := by
      split
      · exact .refl f
      · exact ⟨rfl, rfl, rfl, rfl, rfl, rfl, rfl, rfl⟩
    exact hannounced.trans (alike_update _ ref _ fun _ => rfl)

theorem alike_reportExit (env : Surroundings) (s : Server) : Alike f (f.reportExit env s) :=
  ⟨rfl, rfl, rfl, rfl, rfl, rfl, rfl, rfl⟩

end Fleet

end HostDaemon
