import HostDaemon.Launch.Builder

/-! # From options to a launch specification

  Options are applied to a draft one after the other, and the draft is made a launch specification.

  - `LaunchDraft.Applied` lists what one option can make of a draft.
  - `LaunchDraft.applyAll_induction` is the rule for what holds of a draft however many options are
    applied to it.
  - `LaunchDraft.asksAvailable_applyAll` says for which port a draft asks where an option names one.
  - `BuildContext.finished_of_build` says what a specification takes over from its draft, and what was
    checked at the end. -/

namespace HostDaemon

namespace LaunchDraft

variable {b : BuildContext} {d d' : LaunchDraft} {key value : String} {options : OptionList}

/-! ### One option -/

/-- What an option makes of a draft, by what it is about. A value that has to be read was read. -/
inductive Applied (b : BuildContext) (d : LaunchDraft) (key value : String) : LaunchDraft → Prop where
  | autoRestart (hkind : OptionKind.ofKey key = .autoRestart) :
      Applied b d key value { d with autoRestart := OptionValue.isOn value }
  | version {v : Version} (hkind : OptionKind.ofKey key = .version)
      (hread : readVersion b value = .ok v) : Applied b d key value { d with version := some v }
  | config {name : String} (hkind : OptionKind.ofKey key = .config)
      (hread : readConfig b value = .ok name) : Applied b d key value { d with config := some name }
  | data (hkind : OptionKind.ofKey key = .data) :
      Applied b d key value { d with includeData := OptionValue.isOn value }
  | gamemode {mode : Gamemode} (hkind : OptionKind.ofKey key = .gamemode)
      (hread : readGamemode b value = .ok mode) :
      Applied b d key value { d with gamemode := some mode }
  | hostname (hkind : OptionKind.ofKey key = .hostname) (hname : Text.trim value ≠ "") :
      Applied b d key value { d with hostname := some (Text.trim value) }
  | blankHostname (hkind : OptionKind.ofKey key = .hostname) (hblank : Text.trim value = "") :
      Applied b d key value d
  | instagib (hkind : OptionKind.ofKey key = .instagib) :
      Applied b d key value { d with instagib := OptionValue.isOn value }
  | buckshot (hkind : OptionKind.ofKey key = .buckshot) :
      Applied b d key value { d with buckshot := OptionValue.isOn value }
  | iwad {file : String} (hkind : OptionKind.ofKey key = .iwad)
      (hread : readIwad b value = .ok file) : Applied b d key value { d with iwad := some file }
  | maps (hkind : OptionKind.ofKey key = .maps) :
      Applied b d key value { d with maps := d.maps ++ OptionValue.items value }
  | port {port : UInt16} (hkind : OptionKind.ofKey key = .port)
      (hread : readPort b value = .ok port) : Applied b d key value { d with port := some port }
  | skill {skill : UInt8} (hkind : OptionKind.ofKey key = .skill)
      (hread : readSkill value = .ok skill) : Applied b d key value { d with skill := some skill }
  | wads (hkind : OptionKind.ofKey key = .wads) :
      Applied b d key value { d with wads := d.wads ++ readWads value }
  | optionalWads (hkind : OptionKind.ofKey key = .optionalWads) :
      Applied b d key value { d with optionalWads := addOptional d.optionalWads value }
  | mask {name : String} {bits : UInt32} (hkind : OptionKind.ofKey key = .mask name)
      (hread : readMask name value = .ok bits) :
      Applied b d key value { d with flags := d.flags.insert name (.mask bits) }
  | toggle {name : String} (hkind : OptionKind.ofKey key = .toggle name) :
      Applied b d key value
        { d with flags := d.flags.insert name (.toggle (OptionValue.isOn value)) }
  | unknown {name : String} (hkind : OptionKind.ofKey key = .unknown name)
      (hstrict : b.config.host.strictOptions = false) : Applied b d key value d

/-- A value that was read changed the draft. -/
theorem exists_read {α : Type} {read : Except LaunchError α} {change : α → LaunchDraft}
    (h : read.map change = .ok d') : ∃ a, read = .ok a ∧ change a = d' := by
  cases read with
  | error e => cases h
  | ok a => exact ⟨a, rfl, Except.ok.inj h⟩

theorem applied_of_apply (h : d.apply b key value = .ok d') : d.Applied b key value d' := by
  unfold apply at h
  cases hkind : OptionKind.ofKey key with
  | autoRestart =>
    simp only [hkind, Except.ok.injEq] at h
    exact h ▸ .autoRestart hkind
  | version =>
    simp only [hkind] at h
    obtain ⟨v, hread, rfl⟩ := exists_read h
    exact .version hkind hread
  | config =>
    simp only [hkind] at h
    obtain ⟨name, hread, rfl⟩ := exists_read h
    exact .config hkind hread
  | data =>
    simp only [hkind, Except.ok.injEq] at h
    exact h ▸ .data hkind
  | gamemode =>
    simp only [hkind] at h
    obtain ⟨mode, hread, rfl⟩ := exists_read h
    exact .gamemode hkind hread
  | hostname =>
    simp only [hkind, Except.ok.injEq] at h
    subst h
    split
    next hblank => exact .blankHostname hkind hblank
    next hname => exact .hostname hkind hname
  | instagib =>
    simp only [hkind, Except.ok.injEq] at h
    exact h ▸ .instagib hkind
  | buckshot =>
    simp only [hkind, Except.ok.injEq] at h
    exact h ▸ .buckshot hkind
  | iwad =>
    simp only [hkind] at h
    obtain ⟨file, hread, rfl⟩ := exists_read h
    exact .iwad hkind hread
  | maps =>
    simp only [hkind, Except.ok.injEq] at h
    exact h ▸ .maps hkind
  | port =>
    simp only [hkind] at h
    obtain ⟨port, hread, rfl⟩ := exists_read h
    exact .port hkind hread
  | skill =>
    simp only [hkind] at h
    obtain ⟨skill, hread, rfl⟩ := exists_read h
    exact .skill hkind hread
  | wads =>
    simp only [hkind, Except.ok.injEq] at h
    exact h ▸ .wads hkind
  | optionalWads =>
    simp only [hkind, Except.ok.injEq] at h
    exact h ▸ .optionalWads hkind
  | mask name =>
    simp only [hkind] at h
    obtain ⟨bits, hread, rfl⟩ := exists_read h
    exact .mask hkind hread
  | toggle name =>
    simp only [hkind, Except.ok.injEq] at h
    exact h ▸ .toggle hkind
  | unknown name =>
    simp only [hkind] at h
    split at h
    next => cases h
    next hstrict =>
      rw [Except.ok.injEq] at h
      exact h ▸ .unknown hkind (Bool.eq_false_iff.2 hstrict)

/-! ### The keys of a kind -/

/-- The keys of the options of a kind. -/
def OptionKind.keys : OptionKind → List String
  | .autoRestart => ["autorestart"]
  | .version => ["version"]
  | .config => ["config"]
  | .data => ["data", "stdata"]
  | .gamemode => ["gamemode"]
  | .hostname => ["hostname"]
  | .instagib => ["instagib"]
  | .buckshot => ["buckshot"]
  | .iwad => ["iwad"]
  | .maps => ["map", "maps"]
  | .port => ["port"]
  | .skill => ["skill"]
  | .wads => ["wad", "wads", "file", "files"]
  | .optionalWads =>
    ["optionalwad", "optionalwads", "optwad", "optwads", "opt", "opts", "optfile", "optfiles"]
  | .mask name | .toggle name | .unknown name => [name]

theorem mem_keys_ofKey (key : String) : key ∈ (OptionKind.ofKey key).keys := by
  unfold OptionKind.ofKey
  split
  all_goals first | decide | skip
  split
  · exact List.mem_singleton_self key
  · split <;> exact List.mem_singleton_self key

/-- Where a kind has one key, that is the key. -/
theorem eq_of_ofKey {kind : OptionKind} {only : String} (h : OptionKind.ofKey key = kind)
    (honly : kind.keys = [only]) : key = only := by
  have hmem := mem_keys_ofKey key
  rwa [h, honly, List.mem_singleton] at hmem

/-! ### One option after the other -/

/-- What holds before any option, and is kept when one more option is applied, holds after all of
    them. The property may speak of the options that were applied. -/
theorem applyAll_induction {P : OptionList → LaunchDraft → Prop} {start : LaunchDraft}
    (hstart : P [] start)
    (hstep : ∀ seen d key value d', P seen d → d.apply b key value = .ok d' →
      P (seen ++ [(key, value)]) d')
    (h : start.applyAll b options = .ok d) : P options d := by
  have hrun : ∀ (left seen : OptionList) (d₀ : LaunchDraft), P seen d₀ →
      d₀.applyAll b left = .ok d → P (seen ++ left) d := by
    intro left
    induction left with
    | nil =>
      intro seen d₀ hseen hdone
      cases hdone
      rw [List.append_nil]
      exact hseen
    | cons option left ih =>
      obtain ⟨key, value⟩ := option
      intro seen d₀ hseen happlyAll
      rw [applyAll] at happlyAll
      cases happly : d₀.apply b key value with
      | error e =>
        rw [happly] at happlyAll
        cases happlyAll
      | ok next =>
        rw [happly] at happlyAll
        have hnext := ih (seen ++ [(key, value)]) next (hstep seen d₀ key value next hseen happly)
          happlyAll
        rwa [List.append_assoc] at hnext
  exact hrun options [] start hstart h

/-! ### The port -/

/-- No other option changes the port. -/
theorem port_apply (hkey : key ≠ "port") (h : d.apply b key value = .ok d') : d'.port = d.port := by
  cases applied_of_apply h with
  | port hkind => exact absurd (eq_of_ofKey hkind rfl) hkey
  | _ => rfl

/-- The port of a value is a number in the range that is neither a running server's nor claimed. -/
theorem readPort_eq_ok_iff {port : UInt16} :
    readPort b value = .ok port ↔
      Number.readUInt16? (Text.trim value) = some port ∧ b.ports.inRange port = true ∧
        port ∉ b.registered ∧ b.ports.isClaimed port = false := by
  unfold readPort
  cases hread : Number.readUInt16? (Text.trim value) with
  | none => simp
  | some read =>
    simp only [Option.some.injEq]
    constructor
    · intro h
      split at h
      next => cases h
      next hrange =>
        split at h
        next => cases h
        next hfree =>
          cases h
          simpa [List.contains_iff_mem] using And.intro hrange hfree
    · rintro ⟨rfl, hrange, hfresh, hclaim⟩
      simp [hrange, hfresh, hclaim]

/-- Where an option names a port, the draft asks for the port of such an option, and it can be had:
    it is in the range and neither a running server's nor claimed. -/
def AsksAvailable (b : BuildContext) (options : OptionList) (d : LaunchDraft) : Prop :=
  (∃ value, ("port", value) ∈ options) → ∃ value port, ("port", value) ∈ options ∧
    d.port = some port ∧ readPort b value = .ok port

theorem AsksAvailable.apply (hasks : d.AsksAvailable b options) (h : d.apply b key value = .ok d') :
    d'.AsksAvailable b (options ++ [(key, value)]) := by
  intro hgiven
  by_cases hkey : key = "port"
  · subst hkey
    have hkind : OptionKind.ofKey "port" = .port := by decide +kernel
    simp only [LaunchDraft.apply, hkind, Except.map] at h
    split at h
    next => cases h
    next port hread =>
      cases h
      exact ⟨value, port, List.mem_append_right _ (List.mem_singleton_self _), rfl, hread⟩
  · have hbefore : ∃ given, ("port", given) ∈ options := by
      obtain ⟨given, hmem⟩ := hgiven
      rcases List.mem_append.1 hmem with hold | hnew
      · exact ⟨given, hold⟩
      · rw [List.mem_singleton, Prod.mk.injEq] at hnew
        exact absurd hnew.1.symm hkey
    obtain ⟨given, port, hmem, hport, hread⟩ := hasks hbefore
    exact ⟨given, port, List.mem_append_left _ hmem, (port_apply hkey h).trans hport, hread⟩

theorem asksAvailable_applyAll {port : Option UInt16}
    (h : (start port).applyAll b options = .ok d) : d.AsksAvailable b options := by
  refine applyAll_induction (P := fun seen d => d.AsksAvailable b seen) ?_
    (fun _ _ _ _ _ hasks happly => hasks.apply happly) h
  rintro ⟨value, hvalue⟩
  cases hvalue

end LaunchDraft

/-! ### The specification -/

namespace BuildContext

variable {b : BuildContext} {owner id : String} {level : AccountLevel} {options : OptionList}
  {port : Option UInt16} {recovering : Bool} {spec : LaunchSpec}

/-- What a specification takes over from its draft, and what is checked at the end. -/
structure Finished (b : BuildContext) (owner id : String) (d : LaunchDraft) (spec : LaunchSpec) :
    Prop where
  iwad : d.iwad = some spec.iwad
  isFile : b.files.isFile (Path.join b.config.host.iwadDir spec.iwad) = true
  hostname : b.hostnameOf owner d = .ok spec.hostname
  wads : spec.wads = d.wads
  optionalWads : spec.optionalWads = d.optionalWads
  missing : b.missing? (d.wads ++ d.optionalWads.map WadRef.wad) = none
  allowed : b.checkBlacklist (d.wads ++ d.optionalWads.map WadRef.wad) = .ok ()
  skill : spec.skill = d.skill
  config : spec.config = d.config
  version : spec.version = d.version.getD b.config.catalog.default
  flags : spec.flags = d.flags
  requestedPort : spec.requestedPort = d.port
  owner : spec.owner = owner
  id : spec.credentials.id = id
  maps : spec.maps = d.maps

/-- Whatever is built comes from a draft to which all options were applied. -/
theorem finished_of_build (h : b.build owner level options port recovering id = .ok spec) :
    ∃ d, (LaunchDraft.start port).applyAll b options = .ok d ∧ b.Finished owner id d spec := by
  simp only [build, bind, Except.bind] at h
  split at h
  next => cases h
  next d happly =>
    refine ⟨d, happly, ?_⟩
    simp only [finish, bind, Except.bind, pure, Except.pure] at h
    cases hiwad : d.iwad with
    | none =>
      rw [hiwad] at h
      cases h
    | some iwad =>
      cases hhostname : b.hostnameOf owner d with
      | error e =>
        rw [hiwad, hhostname] at h
        cases h
      | ok hostname =>
        by_cases hfile : b.files.isFile (Path.join b.config.host.iwadDir iwad) = true
        · simp only [hiwad, hhostname, hfile] at h
          repeat' split at h
          all_goals cases h
          all_goals exact ⟨hiwad, hfile, hhostname, rfl, rfl, ‹b.missing? _ = none›,
            ‹b.checkBlacklist _ = .ok ()›, rfl, rfl, rfl, rfl, rfl, rfl, rfl, rfl⟩
        · simp [hiwad, hhostname, hfile] at h

end BuildContext

end HostDaemon
