import HostDaemon.Proofs.Fleet.Edits

/-! # Passwords

  The console of a server tells when one of its three passwords is changed. The daemon keeps the
  passwords as it kept them, or takes the new one over, and says so.

  - `PasswordOutcome` lists what can come of a new password: `PasswordOutcome.IsDue` says when, and
    `PasswordOutcome.Yields` what is done.
  - `Fleet.yields_iff_isDue` says that what is due is done, and `PasswordOutcome.existsUnique_isDue`
    that one outcome is due and no more.
  - `Fleet.passwords_onEvent` says that no other event changes a password, and
    `Fleet.Guarded.onEvent` that the passwords are guarded in all events. -/

namespace HostDaemon

/-! ### What is kept of the passwords -/

/-- A text that a password can be changed to. -/
def IsGoodPassword (least : UInt64) (value : String) : Prop :=
  Text.isBlankText value = false ∧ least.toNat ≤ value.length

namespace Server

/-- How a server was launched, and its passwords. -/
def passwords (s : Server) : LaunchSpec × String × String × String :=
  (s.spec, s.settings.rconPassword, s.settings.joinPassword, s.settings.connectPassword)

/-- Every password of a server is the one that it was launched with, or a good one. -/
def Guarded (least : UInt64) (s : Server) : Prop :=
  ∀ credential, credential ≠ .hostname →
    s.settings.get credential = (TrackedSettings.ofSpec s.spec).get credential ∨
      IsGoodPassword least (s.settings.get credential)

variable {s s' : Server} {topic : Topic} {may : Topic → Prop} {least : UInt64}

theorem spec_of_passwords (h : s'.passwords = s.passwords) : s'.spec = s.spec := congrArg Prod.fst h

theorem get_of_passwords (h : s'.passwords = s.passwords) {credential : Credential}
    (hpassword : credential ≠ .hostname) :
    s'.settings.get credential = s.settings.get credential := by
  simp only [passwords, Prod.mk.injEq] at h
  obtain ⟨-, hrcon, hjoin, hconnect⟩ := h
  cases credential with
  | hostname => exact absurd rfl hpassword
  | rconPassword => exact hrcon
  | joinPassword => exact hjoin
  | connectPassword => exact hconnect

/-- Whether the passwords are guarded depends on nothing else. -/
theorem Guarded.of_passwords (hs : s.Guarded least) (h : s'.passwords = s.passwords) :
    s'.Guarded least := by
  intro credential hpassword
  rw [get_of_passwords h hpassword, spec_of_passwords h]
  exact hs credential hpassword

/-- Only the console changes a password. -/
theorem Edit.passwords (h : Edit topic s s') (hne : topic ≠ .setting) : s'.passwords = s.passwords := by
  cases h with
  | setting => exact absurd rfl hne
  | activity =>
    unfold touch
    split <;> rfl
  | _ => rfl

theorem Edits.passwords (h : Edits may s s') (hnot : ¬ may .setting) : s'.passwords = s.passwords :=
  h.field_eq hnot fun _ _ _ hedit => hedit.passwords

/-- A new name is not a password. -/
theorem passwords_setHostname (s : Server) (value : String) :
    ({ s with settings := s.settings.set value .hostname } : Server).passwords = s.passwords := rfl

end Server

/-- What is set is what is read. -/
theorem TrackedSettings.get_set (t : TrackedSettings) (value : String) (credential : Credential) :
    (t.set value credential).get credential = value := by
  cases credential <;> rfl

theorem TrackedSettings.get_set_of_ne (t : TrackedSettings) (value : String)
    {credential other : Credential} (hne : other ≠ credential) :
    (t.set value credential).get other = t.get other := by
  cases credential <;> cases other <;> first | rfl | exact absurd rfl hne

/-! ### Outcomes -/

/-- What comes of a password that a console tells. -/
inductive PasswordOutcome where
  /-- It is passed over. -/
  | passed
  /-- It is refused. -/
  | refused
  /-- It is taken over. -/
  | taken
deriving Repr, DecidableEq

/-- The notice that a password is refused. -/
def Fleet.refusalNotice (f : Fleet) (s : Server) (credential : Credential) : Notice :=
  .error
    s!"{credential.label} change for '{s.hostname}' on port {s.port} failed: Must be {f.config.host.passwordMinLength} or more characters!"

namespace PasswordOutcome

variable {f f' : Fleet} {ref : ServerRef} {s : Server} {credential : Credential} {value : String}
  {outcome outcome' : PasswordOutcome}

/-- When an outcome is due, with the least length of passwords and the password so far. -/
def IsDue (least : UInt64) (current value : String) : PasswordOutcome → Prop
  | passed => Text.isBlankText value = true ∨ least.toNat ≤ value.length ∧ value = current
  | refused => Text.isBlankText value = false ∧ value.length < least.toNat
  | taken => IsGoodPassword least value ∧ value ≠ current

/-- What an outcome makes of a fleet. Where the password is taken over it is written down on its
    server, and no other setting and nothing else is touched. -/
def Yields (f : Fleet) (ref : ServerRef) (s : Server) (credential : Credential) (value : String)
    (f' : Fleet) : PasswordOutcome → Prop
  | passed => f' = f
  | refused => f' = f.notify (f.refusalNotice s credential)
  | taken => ∃ settings : TrackedSettings, settings.get credential = value ∧
      (∀ other, other ≠ credential → settings.get other = s.settings.get other) ∧
      f' = Fleet.notify { f with servers := f.servers.set ref { s with settings := settings } }
        (Fleet.changeNotice s credential value)

/-- The notices that go out with an outcome. -/
def notices (f : Fleet) (s : Server) (credential : Credential) (value : String) :
    PasswordOutcome → List Notice
  | passed => []
  | refused => [f.refusalNotice s credential]
  | taken => [Fleet.changeNotice s credential value]

/-- Outcomes are told apart by their notices: one is for the staff, another for the owner. -/
theorem notices_injective :
    Function.Injective (PasswordOutcome.notices f s credential value) := by
  intro outcome outcome' h
  cases outcome <;> cases outcome' <;>
    first | rfl | simp [notices, Fleet.refusalNotice, Fleet.changeNotice] at h

theorem Yields.notices_eq (h : outcome.Yields f ref s credential value f') :
    f'.notices = f.notices ++ outcome.notices f s credential value := by
  cases outcome with
  | passed =>
    obtain rfl : f' = f := h
    exact (List.append_nil _).symm
  | refused =>
    obtain rfl : f' = f.notify (f.refusalNotice s credential) := h
    rfl
  | taken =>
    obtain ⟨settings, -, -, rfl⟩ := h
    rfl

/-- No two outcomes make the same of a fleet. -/
theorem Yields.unique (h : outcome.Yields f ref s credential value f')
    (h' : outcome'.Yields f ref s credential value f') : outcome = outcome' :=
  notices_injective (List.append_cancel_left (h.notices_eq.symm.trans h'.notices_eq))

/-- One outcome is due, and no other. -/
theorem existsUnique_isDue (least : UInt64) (current value : String) :
    ∃! outcome : PasswordOutcome, outcome.IsDue least current value := by
  by_cases hblank : Text.isBlankText value = true
  · refine ⟨passed, Or.inl hblank, ?_⟩
    intro outcome hdue
    cases outcome with
    | passed => rfl
    | refused => exact absurd hblank (by simp [hdue.1])
    | taken => exact absurd hblank (by simp [hdue.1.1])
  · rw [Bool.not_eq_true] at hblank
    by_cases hshort : value.length < least.toNat
    · refine ⟨refused, ⟨hblank, hshort⟩, ?_⟩
      intro outcome hdue
      cases outcome with
      | passed =>
        rcases hdue with hempty | ⟨hlong, -⟩
        · exact absurd hempty (by simp [hblank])
        · exact absurd hshort (Nat.not_lt.2 hlong)
      | refused => rfl
      | taken => exact absurd hshort (Nat.not_lt.2 hdue.1.2)
    · have hlong : least.toNat ≤ value.length := Nat.not_lt.1 hshort
      by_cases hsame : value = current
      · refine ⟨passed, Or.inr ⟨hlong, hsame⟩, ?_⟩
        intro outcome hdue
        cases outcome with
        | passed => rfl
        | refused => exact absurd hdue.2 hshort
        | taken => exact absurd hsame hdue.2
      · refine ⟨taken, ⟨⟨hblank, hlong⟩, hsame⟩, ?_⟩
        intro outcome hdue
        cases outcome with
        | passed =>
          rcases hdue with hempty | ⟨-, heq⟩
          · exact absurd hempty (by simp [hblank])
          · exact absurd heq hsame
        | refused => exact absurd hdue.2 hshort
        | taken => rfl

end PasswordOutcome

namespace Fleet

open PasswordOutcome

variable {f f' : Fleet} {ref : ServerRef} {s : Server} {credential : Credential}

/-! ### Passwords that are told -/

/-- What is due is done. -/
theorem yields_of_isDue (hs : f.server? ref = some s) (hpassword : credential ≠ .hostname)
    (env : Surroundings) (value : String) {outcome : PasswordOutcome}
    (hdue : outcome.IsDue f.config.host.passwordMinLength (s.settings.get credential) value) :
    outcome.Yields f ref s credential value
      (f.onEvent env ref (.credentialChanged credential value)) := by
  have hpasswords : f.onCredential ref credential value =
      if Text.isBlankText value then f else f.onPassword ref s credential value := by
    unfold onCredential
    cases credential with
    | hostname => exact absurd rfl hpassword
    | rconPassword | joinPassword | connectPassword => simp only [hs]
  change outcome.Yields f ref s credential value (f.onCredential ref credential value)
  rw [hpasswords]
  cases outcome with
  | passed =>
    show (if Text.isBlankText value then f else f.onPassword ref s credential value) = f
    rcases hdue with hblank | ⟨hlong, rfl⟩
    · rw [if_pos hblank]
    · -- It may be blank all the same.
      rw [onPassword, if_neg (Nat.not_lt.2 hlong), if_pos rfl, ite_self]
  | refused =>
    obtain ⟨hblank, hshort⟩ := hdue
    rw [if_neg (by simp [hblank]), onPassword, if_pos hshort]
    rfl
  | taken =>
    obtain ⟨⟨hblank, hlong⟩, hnew⟩ := hdue
    refine ⟨s.settings.set value credential, s.settings.get_set value credential,
      fun _ => s.settings.get_set_of_ne value, ?_⟩
    have hset : f.servers.modify ref (fun s => { s with
        settings := s.settings.set value credential }) =
          f.servers.set ref { s with settings := s.settings.set value credential } := by
      rw [List.modify_eq_set_getElem?, show f.servers[ref]? = some s from hs]
      rfl
    rw [if_neg (by simp [hblank]), onPassword, if_neg (Nat.not_lt.2 hlong), if_neg (Ne.symm hnew),
      update, hset]

/-- An outcome comes where it is due, and nowhere else. -/
theorem yields_iff_isDue (hs : f.server? ref = some s) (hpassword : credential ≠ .hostname)
    (env : Surroundings) (value : String) (outcome : PasswordOutcome) :
    outcome.Yields f ref s credential value
        (f.onEvent env ref (.credentialChanged credential value)) ↔
      outcome.IsDue f.config.host.passwordMinLength (s.settings.get credential) value := by
  constructor
  · intro hyields
    obtain ⟨due, hdue, -⟩ := existsUnique_isDue f.config.host.passwordMinLength
      (s.settings.get credential) value
    rwa [hyields.unique (yields_of_isDue hs hpassword env value hdue)]
  · exact yields_of_isDue hs hpassword env value

/-! ### All other events -/

/-- The passwords of all servers. -/
def passwords (f : Fleet) : List (LaunchSpec × String × String × String) :=
  f.servers.map Server.passwords

theorem passwords_update (f : Fleet) (ref : ServerRef) {change : Server → Server}
    (hchange : ∀ s, (change s).passwords = s.passwords) : (f.update ref change).passwords = f.passwords := by
  apply List.ext_getElem?
  intro i
  simp only [passwords, update, List.getElem?_map, List.getElem?_modify]
  split
  · cases f.servers[i]? with
    | none => rfl
    | some s => simp [hchange]
  · simp

/-- What changes no setting changes no password. -/
theorem Edits.passwords {may : Server.Topic → ServerRef → Prop} (h : Edits may f f')
    (hnot : ∀ ref, ¬ may .setting ref) : f'.passwords = f.passwords := by
  apply List.ext_getElem?
  intro ref
  simp only [Fleet.passwords, List.getElem?_map]
  cases hs : f.servers[ref]? with
  | none =>
    have hnone : f'.servers[ref]? = none := by
      rw [List.getElem?_eq_none_iff] at hs ⊢
      exact h.length.trans_le hs
    rw [hnone]
  | some s =>
    obtain ⟨s', hs', hedits⟩ := h.server ref s hs
    rw [show f'.servers[ref]? = some s' from hs', Option.map_some, Option.map_some,
      hedits.passwords (hnot ref)]

theorem passwords_tellConsole (f : Fleet) (ref : ServerRef) (lines : List String) :
    (f.tellConsole ref lines).passwords = f.passwords := by
  have htold : Edits (fun topic _ => topic = .console) f (f.tellConsole ref lines) :=
    edits_tellConsole rfl f lines
  exact htold.passwords fun _ hsetting => by cases hsetting

theorem passwords_onHostname (f : Fleet) (ref : ServerRef) (s : Server) (value : String) :
    (f.onHostname ref s value).passwords = f.passwords := by
  have hnamed := f.passwords_update ref fun s => s.passwords_setHostname value
  unfold onHostname
  split
  · rfl
  · simp only
    split
    · exact hnamed
    · exact (passwords_tellConsole _ ref _).trans hnamed

theorem passwords_onStarted (f : Fleet) (ref : ServerRef) :
    (f.onStarted ref).passwords = f.passwords := by
  have hkept : ∀ {g g' : Fleet}, Edits (fun topic _ => topic ≠ .setting) g g' →
      g'.passwords = g.passwords := fun hedits => hedits.passwords (by simp)
  have hbegun : (f.beginStart ref).passwords = f.passwords :=
    hkept (edits_beginStart (by simp) (by simp) f)
  unfold onStarted
  simp only
  split
  next f' hregister =>
    have hregistered : f'.passwords = (f.beginStart ref).passwords :=
      hkept (edits_register hregister)
    have hfinished : (f'.finishStart ref).passwords = f'.passwords :=
      hkept (edits_finishStart (by simp) f')
    exact (hfinished.trans hregistered).trans hbegun
  next e _ =>
    have hrejected : ((f.beginStart ref).rejectStart ref e).passwords = (f.beginStart ref).passwords :=
      hkept (edits_rejectStart (by simp) _ e)
    exact hrejected.trans hbegun

/-- An event that does not tell of a password changes no password of any server. -/
theorem passwords_onEvent (f : Fleet) (env : Surroundings) (ref : ServerRef) {event : ConsoleEvent}
    (hother : ∀ credential value, event = .credentialChanged credential value →
      credential = .hostname) : (f.onEvent env ref event).passwords = f.passwords := by
  cases event with
  | alternatePort | bindRetry =>
    refine f.passwords_update ref fun s => ?_
    split <;> rfl
  | boundAddress address => exact f.passwords_update ref fun _ => rfl
  | initialized =>
    simp only [onEvent]
    repeat' split
    · rfl
    · exact f.passwords_onStarted ref
    · rfl
  | playerSeen name ip check =>
    have hseen : Edits (fun topic _ => topic = .console) f (f.onPlayer ref ip check) :=
      edits_onPlayer rfl f ip check
    exact hseen.passwords fun _ hsetting => by cases hsetting
  | credentialChanged credential value =>
    obtain rfl := hother credential value rfl
    simp only [onEvent, onCredential]
    repeat' split
    · rfl
    · rfl
    · exact f.passwords_onHostname ref _ value
  | activity =>
    refine f.passwords_update ref fun s => ?_
    simp only [Server.touch]
    split <;> rfl

/-! ### Passwords that are guarded -/

/-- Every password of every server is the one that it was launched with, or a good one. -/
def Guarded (least : UInt64) (f : Fleet) : Prop := ∀ s ∈ f.servers, s.Guarded least

variable {least : UInt64}

theorem Guarded.of_passwords (hf : f.Guarded least) (h : f'.passwords = f.passwords) :
    f'.Guarded least := by
  intro s' hs'
  have hmem : s'.passwords ∈ f.passwords := h ▸ List.mem_map_of_mem hs'
  obtain ⟨s, hs, hsame⟩ := List.mem_map.1 hmem
  exact (hf s hs).of_passwords hsame.symm

/-- Whatever comes of a password, the passwords are guarded. -/
theorem Guarded.of_yields (hf : f.Guarded f.config.host.passwordMinLength)
    (hs : f.server? ref = some s) {value : String} {outcome : PasswordOutcome}
    (hdue : outcome.IsDue f.config.host.passwordMinLength (s.settings.get credential) value)
    (hyields : outcome.Yields f ref s credential value f') :
    f'.Guarded f.config.host.passwordMinLength := by
  cases outcome with
  | passed =>
    obtain rfl : f' = f := hyields
    exact hf
  | refused =>
    obtain rfl : f' = f.notify (f.refusalNotice s credential) := hyields
    exact hf
  | taken =>
    obtain ⟨settings, hvalue, hothers, rfl⟩ := hyields
    intro s' hs'
    rcases List.mem_or_eq_of_mem_set hs' with hold | rfl
    · exact hf s' hold
    · intro other hpassword
      by_cases hother : other = credential
      · -- The password that was told is good, and the others are as they were.
        right
        show IsGoodPassword _ (settings.get other)
        rw [hother, hvalue]
        exact hdue.1
      · show settings.get other = _ ∨ IsGoodPassword _ (settings.get other)
        rw [hothers other hother]
        exact hf s (List.mem_of_getElem? hs) other hpassword

/-- The passwords are guarded in every event. -/
theorem Guarded.onEvent (hf : f.Guarded f.config.host.passwordMinLength) (env : Surroundings)
    (ref : ServerRef) (event : ConsoleEvent) :
    (f.onEvent env ref event).Guarded f.config.host.passwordMinLength := by
  by_cases htells : ∃ credential value, event = .credentialChanged credential value ∧
      credential ≠ .hostname
  · obtain ⟨credential, value, rfl, hpassword⟩ := htells
    cases hs : f.server? ref with
    | none =>
      have hnobody : f.onEvent env ref (.credentialChanged credential value) = f := by
        simp only [Fleet.onEvent, onCredential, hs]
      rwa [hnobody]
    | some s =>
      obtain ⟨outcome, hdue, -⟩ := existsUnique_isDue f.config.host.passwordMinLength
        (s.settings.get credential) value
      exact hf.of_yields hs hdue (yields_of_isDue hs hpassword env value hdue)
  · refine hf.of_passwords (f.passwords_onEvent env ref ?_)
    intro credential value htold
    by_contra hpassword
    exact htells ⟨credential, value, htold, hpassword⟩

end Fleet

end HostDaemon
