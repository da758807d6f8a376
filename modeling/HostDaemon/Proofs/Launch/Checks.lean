import HostDaemon.Proofs.FileSystem
import HostDaemon.Proofs.Launch.LoadedFiles
import HostDaemon.Proofs.Text.Lowercase
import Mathlib.Data.List.Nodup

/-! # What a launch specification has been checked for

  The options of a request come from a user. Whatever keys and values they have, what is built from
  them holds nothing that was not checked.

  - `LaunchDraft.Checked` and `LaunchDraft.Named` are what every option keeps: of the fields that are
    checked one by one, and of the name.
  - `LaunchSpec.Valid` puts the properties of a specification together, and
    `BuildContext.valid_of_build` is the main result: whatever is built has them. -/

namespace HostDaemon

/-! ### Flags -/

/-- A flag that is a set of bits has bits, and a flag that is on or off is on or off. -/
def FlagValue.Fits (name : String) : FlagValue → Prop
  | .mask _ => name ∈ maskFlags
  | .toggle _ => name ∈ toggleFlags

/-- A table in which a flag was set holds that flag and what it held before. -/
theorem FlagTable.mem_insert {name : String} {value : FlagValue} {table : FlagTable}
    {entry : String × FlagValue} (h : entry ∈ table.insert name value) :
    entry = (name, value) ∨ entry ∈ table := by
  induction table with
  | nil => exact Or.inl (List.mem_singleton.1 h)
  | cons first table ih =>
    obtain ⟨other, old⟩ := first
    rw [FlagTable.insert] at h
    split at h
    · rcases List.mem_cons.1 h with hnew | hold
      · exact Or.inl hnew
      · exact Or.inr (List.mem_cons_of_mem _ hold)
    · split at h
      · exact List.mem_cons.1 h
      · rcases List.mem_cons.1 h with hfirst | hlater
        · exact Or.inr (hfirst ▸ List.mem_cons_self)
        · exact (ih hlater).imp_right (List.mem_cons_of_mem _)

namespace LaunchDraft

variable {b : BuildContext} {d d' : LaunchDraft} {key value : String} {options : OptionList}

theorem mem_maskFlags_of_ofKey {name : String} (h : OptionKind.ofKey key = .mask name) :
    name ∈ maskFlags := by
  unfold OptionKind.ofKey at h
  split at h
  all_goals try cases h
  split at h
  next hmask =>
    cases h
    exact List.contains_iff_mem.1 hmask
  next => split at h <;> cases h

theorem mem_toggleFlags_of_ofKey {name : String} (h : OptionKind.ofKey key = .toggle name) :
    name ∈ toggleFlags := by
  unfold OptionKind.ofKey at h
  split at h
  all_goals try cases h
  split at h
  next => cases h
  next =>
    split at h
    next htoggle =>
      cases h
      exact List.contains_iff_mem.1 htoggle
    next => cases h

/-! ### Values that are read -/

theorem mem_entries_of_readVersion {v : Version} (h : readVersion b value = .ok v) :
    v ∈ b.config.catalog.entries := by
  unfold readVersion at h
  split at h
  next hget =>
    cases h
    exact List.mem_of_find?_eq_some hget
  next => cases h

theorem le_of_readSkill {skill : UInt8} (h : readSkill value = .ok skill) : skill ≤ maxSkill := by
  unfold readSkill at h
  split at h
  next =>
    split at h
    next hle =>
      cases h
      exact hle
    next => cases h
  next => cases h

/-- A configuration file of the engine is a file, and its name holds no slash. -/
theorem readConfig_eq_ok {name : String} (h : readConfig b value = .ok name) :
    b.files.isFile (Path.join b.config.host.configDir name) = true ∧ '/' ∉ name.toList := by
  simp only [readConfig] at h
  split at h
  next => cases h
  next hfound =>
    rw [Except.ok.injEq] at h
    subst h
    simp only [Bool.or_eq_true, decide_eq_true_eq, Bool.not_eq_true', not_or,
      Bool.not_eq_false] at hfound
    exact ⟨hfound.2, separator_not_mem_lowercase (.inl rfl)
      (separator_not_mem_cleanFileName (.inl rfl) value)⟩

theorem separator_not_mem_iwadOfAlias? {c : Char} (hc : Path.IsSeparator c) {word file : String}
    (h : iwadOfAlias? word = some file) : c ∉ file.toList := by
  have hplain : ∀ entry ∈ iwadAliases, '/' ∉ entry.1.toList ∧ '\\' ∉ entry.1.toList := by decide
  rw [iwadOfAlias?, Option.map_eq_some_iff] at h
  obtain ⟨entry, hfind, rfl⟩ := h
  obtain ⟨hslash, hbackslash⟩ := hplain entry (List.mem_of_find?_eq_some hfind)
  rcases hc with rfl | rfl
  · exact hslash
  · exact hbackslash

theorem separator_not_mem_readIwad {c : Char} (hc : Path.IsSeparator c) {file : String}
    (h : readIwad b value = .ok file) : c ∉ file.toList := by
  have hplain : c ∉ (Text.lowercase (cleanFileName value)).toList :=
    separator_not_mem_lowercase hc (separator_not_mem_cleanFileName hc value)
  unfold readIwad at h
  generalize Text.lowercase (cleanFileName value) = cleaned at h hplain
  dsimp only at h
  split at h
  next halias =>
    cases h
    exact separator_not_mem_iwadOfAlias? hc halias
  next =>
    split at h
    next =>
      cases h
      exact hplain
    next => cases h

/-- Each name is added once. -/
theorem nodup_addOptional {names : List String} (hnames : names.Nodup) (value : String) :
    (addOptional names value).Nodup := by
  unfold addOptional
  generalize OptionValue.items value = items
  induction items generalizing names with
  | nil => exact hnames
  | cons item items ih =>
    rw [List.foldl_cons]
    apply ih
    dsimp only
    split
    next => exact hnames
    next hfresh =>
      rw [Bool.or_eq_true, not_or, List.contains_iff_mem] at hfresh
      exact List.nodup_append.2 ⟨hnames, List.nodup_singleton _, by
        intro old hold new hnew hsame
        rw [List.mem_singleton] at hnew
        exact hfresh.2 (hnew ▸ hsame ▸ hold)⟩

/-! ### The fields that are checked one by one -/

/-- What holds of the fields of a draft each for itself. -/
structure Checked (b : BuildContext) (d : LaunchDraft) : Prop where
  /-- The engine version is one of the catalog. -/
  version : ∀ v ∈ d.version, v ∈ b.config.catalog.entries
  /-- The main game file is the name of a file in a directory. -/
  iwad : ∀ name ∈ d.iwad, '/' ∉ name.toList
  /-- The skill is one of the game. -/
  skill : ∀ skill ∈ d.skill, skill ≤ maxSkill
  /-- The configuration file of the engine exists. -/
  config : ∀ name ∈ d.config,
    b.files.isFile (Path.join b.config.host.configDir name) = true ∧ '/' ∉ name.toList
  /-- No optional file is there twice. -/
  optionalWads : d.optionalWads.Nodup
  /-- Every flag is known and has a value of its kind. -/
  flags : ∀ entry ∈ d.flags, entry.2.Fits entry.1

theorem checked_start (b : BuildContext) (port : Option UInt16) : (start port).Checked b where
  version := by
    intro v hv
    cases hv
  iwad := by
    intro name hname
    cases hname
  skill := by
    intro skill hskill
    cases hskill
  config := by
    intro name hname
    cases hname
  optionalWads := List.nodup_nil
  flags := by
    intro entry hentry
    cases hentry

/-- A flag that is set fits, where its new value does. -/
theorem Checked.fits_insert (hchecked : d.Checked b) {name : String} {value : FlagValue}
    (hfits : value.Fits name) : ∀ entry ∈ d.flags.insert name value, entry.2.Fits entry.1 := by
  intro entry hentry
  rcases FlagTable.mem_insert hentry with rfl | hold
  · exact hfits
  · exact hchecked.flags entry hold

/-- No option puts anything into these fields that was not checked. -/
theorem Checked.apply (hchecked : d.Checked b) (h : d.apply b key value = .ok d') :
    d'.Checked b := by
  cases applied_of_apply h with
  | version _ hread =>
    refine { hchecked with version := ?_ }
    rintro v ⟨⟩
    exact mem_entries_of_readVersion hread
  | iwad _ hread =>
    refine { hchecked with iwad := ?_ }
    rintro name ⟨⟩
    exact separator_not_mem_readIwad (.inl rfl) hread
  | skill _ hread =>
    refine { hchecked with skill := ?_ }
    rintro skill ⟨⟩
    exact le_of_readSkill hread
  | config _ hread =>
    refine { hchecked with config := ?_ }
    rintro name ⟨⟩
    exact readConfig_eq_ok hread
  | optionalWads =>
    exact { hchecked with optionalWads := nodup_addOptional hchecked.optionalWads value }
  | mask hkind => exact { hchecked with flags := hchecked.fits_insert (mem_maskFlags_of_ofKey hkind) }
  | toggle hkind =>
    exact { hchecked with flags := hchecked.fits_insert (mem_toggleFlags_of_ofKey hkind) }
  | _ =>
    exact ⟨hchecked.version, hchecked.iwad, hchecked.skill, hchecked.config, hchecked.optionalWads,
      hchecked.flags⟩

theorem checked_applyAll {port : Option UInt16} (h : (start port).applyAll b options = .ok d) :
    d.Checked b :=
  applyAll_induction (P := fun _ d => d.Checked b) (checked_start b port)
    (fun _ _ _ _ _ hchecked happly => hchecked.apply happly) h

/-! ### The name -/

/-- The name of a draft is that of an option, and where it has none no option names anything but
    blanks. -/
structure Named (options : OptionList) (d : LaunchDraft) : Prop where
  /-- The name is an option's, without the blanks around it. -/
  given : ∀ name ∈ d.hostname,
    name ≠ "" ∧ ∃ value, ("hostname", value) ∈ options ∧ name = Text.trim value
  /-- Only blanks are no name. -/
  missing : d.hostname = none → ∀ value, ("hostname", value) ∈ options → Text.trim value = ""

/-- No other option changes the name. -/
theorem hostname_apply (hkey : key ≠ "hostname") (h : d.apply b key value = .ok d') :
    d'.hostname = d.hostname := by
  cases applied_of_apply h with
  | hostname hkind => exact absurd (eq_of_ofKey hkind rfl) hkey
  | _ => rfl

/-- An option that names the server does so where its value is more than blanks. -/
theorem hostname_apply_hostname (h : d.apply b "hostname" value = .ok d') :
    d'.hostname = if Text.trim value = "" then d.hostname else some (Text.trim value) := by
  have hkind : OptionKind.ofKey "hostname" = .hostname := by decide +kernel
  simp only [apply, hkind, Except.ok.injEq] at h
  subst h
  split <;> rfl

theorem Named.apply (hnamed : d.Named options) (h : d.apply b key value = .ok d') :
    d'.Named (options ++ [(key, value)]) := by
  by_cases hnames : key = "hostname" ∧ Text.trim value ≠ ""
  · obtain ⟨rfl, hne⟩ := hnames
    have hname := hostname_apply_hostname h
    rw [if_neg hne] at hname
    constructor
    · intro name hmem
      rw [hname, Option.mem_some] at hmem
      subst hmem
      exact ⟨hne, value, List.mem_append_right _ (List.mem_singleton_self _), rfl⟩
    · intro hnone
      rw [hname] at hnone
      cases hnone
  · have hname : d'.hostname = d.hostname := by
      by_cases hkey : key = "hostname"
      · subst hkey
        rw [hostname_apply_hostname h, if_pos (by simpa using hnames)]
      · exact hostname_apply hkey h
    constructor
    · intro name hmem
      rw [hname] at hmem
      obtain ⟨hne, given, hgiven, heq⟩ := hnamed.given name hmem
      exact ⟨hne, given, List.mem_append_left _ hgiven, heq⟩
    · intro hnone given hmem
      rw [hname] at hnone
      rcases List.mem_append.1 hmem with hold | hnew
      · exact hnamed.missing hnone given hold
      · rw [List.mem_singleton, Prod.mk.injEq] at hnew
        obtain ⟨hkey, rfl⟩ := hnew
        by_contra hne
        exact hnames ⟨hkey.symm, hne⟩

theorem named_applyAll {port : Option UInt16} (h : (start port).applyAll b options = .ok d) :
    d.Named options := by
  refine applyAll_induction (P := fun seen d => d.Named seen) ?_
    (fun _ _ _ _ _ hnamed happly => hnamed.apply happly) h
  constructor
  · intro name hname
    cases hname
  · intro _ value hvalue
    cases hvalue

end LaunchDraft

/-! ### The specification -/

/-- What a launch specification is checked for. -/
structure LaunchSpec.Valid (b : BuildContext) (owner : String) (options : OptionList)
    (spec : LaunchSpec) : Prop where
  /-- The main game file is a file in the directory of iwads. -/
  iwad : b.files.isFile (Path.join b.config.host.iwadDir spec.iwad) = true ∧
    b.files.HoldsFile b.config.host.iwadDir spec.iwad
  /-- Every other game file, optional or not, is a file, and no entry of the blacklist has its
      hash. -/
  addedFiles : ∀ w ∈ spec.addedFiles, b.Passed (b.config.resolveWad w)
  /-- The optional files differ. -/
  optionalWads : spec.optionalWads.Nodup
  /-- The skill, where one was asked for, is at most 4. -/
  skill : ∀ skill ∈ spec.skill, skill ≤ 4
  /-- The configuration file, where one was asked for, is a file in its directory. -/
  config : ∀ name ∈ spec.config,
    b.files.isFile (Path.join b.config.host.configDir name) = true ∧
      b.files.HoldsFile b.config.host.configDir name
  /-- The name is that of an option without the blanks around it, and not empty; or, where the
      options have none and that is allowed, it is made from the owner's. -/
  hostname :
    (spec.hostname ≠ "" ∧
      ∃ value, ("hostname", value) ∈ options ∧ spec.hostname = Text.trim value) ∨
    (b.config.host.hostnameFallback = true ∧ spec.hostname = owner ++ "'s server" ∧
      ∀ value, ("hostname", value) ∈ options → Text.trim value = "")
  /-- The engine version is one of the catalog. -/
  version : spec.version ∈ b.config.catalog.entries
  /-- Every flag is a known one of bits and has bits, or a known one that is on or off and is one of
      the two. -/
  flags : ∀ entry ∈ spec.flags, entry.2.Fits entry.1
  /-- Where options name a port, the port is that of an option; it is in the range and neither a
      running server's nor claimed. -/
  port : (∃ value, ("port", value) ∈ options) → ∃ value port, ("port", value) ∈ options ∧
    Number.readUInt16? (Text.trim value) = some port ∧ spec.requestedPort = some port ∧
    b.ports.inRange port = true ∧ port ∉ b.registered ∧ b.ports.isClaimed port = false

namespace BuildContext

variable {b : BuildContext} {owner id : String} {level : AccountLevel} {options : OptionList}
  {port : Option UInt16} {recovering : Bool} {spec : LaunchSpec}

/-- The name of a specification is the draft's, or one made from the owner's. -/
theorem hostnameOf_eq_ok {d : LaunchDraft} {hostname : String}
    (h : b.hostnameOf owner d = .ok hostname) :
    d.hostname = some hostname ∨
      (d.hostname = none ∧ b.config.host.hostnameFallback = true ∧
        hostname = owner ++ "'s server") := by
  unfold hostnameOf at h
  split at h
  next name hname =>
    cases h
    exact Or.inl hname
  next hnone =>
    split at h
    next hallowed =>
      cases h
      exact Or.inr ⟨hnone, hallowed, rfl⟩
    next => cases h

/-- Whatever options it is built from, a launch specification has been checked: its files exist and
    are not forbidden, and its name, version, skill, flags and port are ones that may be asked
    for. -/
theorem valid_of_build (h : b.build owner level options port recovering id = .ok spec) :
    spec.Valid b owner options := by
  obtain ⟨d, happly, hfinished⟩ := finished_of_build h
  have hchecked : d.Checked b := LaunchDraft.checked_applyAll happly
  have hnamed : d.Named options := LaunchDraft.named_applyAll happly
  have hasks : d.AsksAvailable b options := LaunchDraft.asksAvailable_applyAll happly
  constructor
  case iwad =>
    have hplain : '/' ∉ spec.iwad.toList := hchecked.iwad _ hfinished.iwad
    exact ⟨hfinished.isFile, FileSystem.holdsFile_of_isFile hfinished.isFile hplain⟩
  case addedFiles =>
    intro w hw
    exact passed_of_build h _ (List.mem_map.2 ⟨w, hw, rfl⟩)
  case optionalWads =>
    rw [hfinished.optionalWads]
    exact hchecked.optionalWads
  case skill =>
    rw [hfinished.skill]
    exact hchecked.skill
  case config =>
    rw [hfinished.config]
    intro name hname
    obtain ⟨hfile, hplain⟩ := hchecked.config name hname
    exact ⟨hfile, FileSystem.holdsFile_of_isFile hfile hplain⟩
  case hostname =>
    rcases hostnameOf_eq_ok hfinished.hostname with hgiven | ⟨hnone, hallowed, hmade⟩
    · exact Or.inl (hnamed.given _ hgiven)
    · exact Or.inr ⟨hallowed, hmade, hnamed.missing hnone⟩
  case version =>
    rw [hfinished.version]
    cases hversion : d.version with
    | none => exact b.config.catalog.default_mem
    | some v => exact hchecked.version v hversion
  case flags =>
    rw [hfinished.flags]
    exact hchecked.flags
  case port =>
    intro hgiven
    obtain ⟨value, asked, hmem, hport, hread⟩ := hasks hgiven
    obtain ⟨hvalue, hrange, hfresh, hclaim⟩ := LaunchDraft.readPort_eq_ok_iff.1 hread
    exact ⟨value, asked, hmem, hvalue, hfinished.requestedPort.trans hport, hrange, hfresh, hclaim⟩

/-- `twoPlaces` with a configuration file of the engine, a running server and a claimed port. -/
def withSettings : BuildContext :=
  { twoPlaces emptyForbidden with
    files :=
      ⟨[(["c"], .directory), (["c", "duel.cfg"], .file [1] false)] ++
        (twoPlaces emptyForbidden).files.entries⟩
    ports := ⟨10, 20, [13]⟩
    registered := [11] }

/-- Options of every kind that is checked. -/
def duelOptions : OptionList :=
  [("iwad", "Doom2"), ("wads", "/nerve.wad"), ("hostname", " "), ("hostname", " duel "),
    ("skill", "4"), ("config", "/duel.CFG"), ("version", "3.2"), ("dmflags", "5"),
    ("allowjump", "on"), ("port", "12")]

/-- A request with options of every kind that is checked is accepted, and what is built from it is
    valid. -/
theorem valid_duel :
    ∃ spec, withSettings.build "al" .registered duelOptions none false "id" = .ok spec ∧
      spec.iwad = "doom2.wad" ∧ spec.wads = [.wad "nerve.wad"] ∧ spec.hostname = "duel" ∧
      spec.requestedPort = some 12 ∧ spec.config = some "duel.cfg" ∧
      spec.Valid withSettings "al" duelOptions := by
  have hrun : (withSettings.build "al" .registered duelOptions none false "id").toOption.any
      (fun spec => spec.iwad = "doom2.wad" ∧ spec.wads = [.wad "nerve.wad"] ∧
        spec.hostname = "duel" ∧ spec.requestedPort = some 12 ∧
        spec.config = some "duel.cfg") = true := by
    decide +kernel
  obtain ⟨spec, hbuild, hspec⟩ := exists_ok_of_any hrun
  obtain ⟨hiwad, hwads, hhostname, hport, hconfig⟩ := of_decide_eq_true hspec
  exact ⟨spec, hbuild, hiwad, hwads, hhostname, hport, hconfig, valid_of_build hbuild⟩

end BuildContext

end HostDaemon
