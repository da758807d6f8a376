import HostDaemon.Proofs.Json.RoundTrip
import HostDaemon.Proofs.Launch.CommandLine
import HostDaemon.Proofs.Launch.LoadOrder

/-! # Texts of one line

  Where a line feed on a command line can come from. The words of a command line are one line each
  where the texts of the request are, as far as the configuration has none in its own.

  - `Text.IsOneLine` says that a text holds no line feed. What is trimmed, made lowercase, cleaned or
    joined stays as it was in this respect.
  - `LaunchSpec.requested` are the texts of a request that come onto a command line.
    `LaunchSpec.isOneLine_commandLine` and `LaunchSpec.isOneLine_requested` say that nothing depends
    on but these.
  - `LaunchDraft.OnOneLine` is what every option keeps whose value is one line, and
    `BuildContext.isOneLine_of_build` says so of what is built. -/

namespace HostDaemon

/-! ### Texts -/

namespace Text

/-- The text holds no line feed. -/
def IsOneLine (s : String) : Prop := '\n' ∉ s.toList

instance : DecidablePred IsOneLine := fun s => inferInstanceAs (Decidable ('\n' ∉ s.toList))

variable {s t : String}

@[simp] theorem isOneLine_append : IsOneLine (s ++ t) ↔ IsOneLine s ∧ IsOneLine t := by
  rw [IsOneLine, String.toList_append, List.mem_append, not_or, IsOneLine, IsOneLine]

theorem isOneLine_of_subset (h : IsOneLine s) (hsubset : t.toList ⊆ s.toList) : IsOneLine t :=
  fun hmem => h (hsubset hmem)

theorem isOneLine_trim (h : IsOneLine s) : IsOneLine (trim s) := by
  apply isOneLine_of_subset h
  intro c hc
  rw [trim, String.toList_ofList] at hc
  exact mem_of_mem_trimBlank hc

theorem isOneLine_lowercase (h : IsOneLine s) : IsOneLine (lowercase s) :=
  not_mem_lowercase (by decide) (by decide) h

theorem isOneLine_toString (n : Nat) : IsOneLine (toString n) := by
  rw [IsOneLine, Number.toList_toString]
  exact Json.lineFeed_not_mem_toDigits n

/-- The characters of a piece are characters of the text. -/
theorem mem_of_mem_pieces {p : Char → Bool} {c : Char} {cs piece : List Char}
    (hpiece : piece ∈ pieces p cs) (hc : c ∈ piece) : c ∈ cs := by
  induction cs generalizing piece with
  | nil =>
    rw [pieces, List.mem_singleton] at hpiece
    rwa [hpiece] at hc
  | cons d cs ih =>
    rw [pieces] at hpiece
    split at hpiece
    · rcases List.mem_cons.1 hpiece with rfl | hmore
      · cases hc
      · exact List.mem_cons_of_mem d (ih hmore hc)
    · split at hpiece
      next =>
        rw [List.mem_singleton.1 hpiece, List.mem_singleton] at hc
        exact hc ▸ List.mem_cons_self
      next first others hsplit =>
        rw [hsplit] at ih
        rcases List.mem_cons.1 hpiece with rfl | hmore
        · rcases List.mem_cons.1 hc with rfl | hlater
          · exact List.mem_cons_self
          · exact List.mem_cons_of_mem d (ih List.mem_cons_self hlater)
        · exact List.mem_cons_of_mem d (ih (List.mem_cons_of_mem first hmore) hc)

/-- The items of a list are pieces of its text. -/
theorem isOneLine_items (h : IsOneLine s) : ∀ item ∈ OptionValue.items s, IsOneLine item := by
  intro item hitem
  rw [OptionValue.items, List.mem_filter, List.mem_map] at hitem
  obtain ⟨⟨piece, hpiece, rfl⟩, -⟩ := hitem
  apply isOneLine_trim
  intro hmem
  rw [String.toList_ofList] at hmem
  exact h (mem_of_mem_pieces hpiece hmem)

theorem isOneLine_joinWith {mark : String} (hmark : IsOneLine mark) {words : List String} :
    IsOneLine (joinWith mark words) ↔ ∀ word ∈ words, IsOneLine word := by
  match words with
  | [] => simp [joinWith, IsOneLine]
  | [word] => simp [joinWith]
  | word :: next :: more =>
    rw [joinWith, isOneLine_append, isOneLine_append, isOneLine_joinWith hmark, List.forall_mem_cons]
    · simp [hmark]
    · simp

end Text

open Text (IsOneLine)

variable {name : String} {base : Path}

theorem isOneLine_cleanFileName (h : IsOneLine name) : IsOneLine (cleanFileName name) := by
  apply Text.isOneLine_trim
  intro hmem
  rw [String.toList_ofList] at hmem
  exact h (List.mem_of_mem_filter hmem)

theorem Path.isOneLine_join (hbase : IsOneLine base) (hname : IsOneLine name) :
    IsOneLine (join base name) := by
  have hslash : IsOneLine "/" := by decide
  unfold join
  split
  · exact hname
  · split
    · exact Text.isOneLine_append.2 ⟨hbase, hname⟩
    · exact Text.isOneLine_append.2 ⟨Text.isOneLine_append.2 ⟨hbase, hslash⟩, hname⟩

/-- A path ends with the name that was joined to it. -/
theorem Path.isOneLine_of_join (h : IsOneLine (join base name)) : IsOneLine name := by
  unfold join at h
  split at h
  · exact h
  · split at h
    · exact (Text.isOneLine_append.1 h).2
    · exact (Text.isOneLine_append.1 h).2

/-! ### The configuration -/

/-- No text that the configuration puts onto a command line holds a line feed. -/
structure Config.IsOneLine (c : Config) : Prop where
  /-- The directories. -/
  directories : ∀ dir ∈ [c.host.wadDir, c.host.iwadDir, c.host.configDir, c.host.banlistDir,
    c.host.adminlistDir, c.host.whitelistDir], Text.IsOneLine dir
  /-- What every server's name begins with. -/
  hostnameBase : Text.IsOneLine c.host.hostnameBase
  /-- The files that every server loads. -/
  extraWads : ∀ name ∈ c.host.extraWads, Text.IsOneLine name
  /-- The programs. -/
  programs : ∀ v ∈ c.catalog.entries, Text.IsOneLine v.path
  /-- The files that come with them. -/
  data : ∀ v ∈ c.catalog.entries, ∀ name ∈ v.data, Text.IsOneLine name

namespace LaunchSpec

variable {c : Config} {spec : LaunchSpec} {port : UInt16}

/-- The texts of a request that come onto the command line, besides the owner's name. -/
def requested (spec : LaunchSpec) : List String :=
  [spec.hostname, spec.iwad] ++ spec.addedFiles.map (·.name) ++ spec.maps ++ spec.config.toList

/-- The words of a command line are the program's path and the names and values of its parameters. -/
theorem isOneLine_commandLine_iff :
    (∀ word ∈ spec.commandLine c port, IsOneLine word) ↔
      IsOneLine spec.version.path ∧
        ∀ q ∈ spec.parameters c port, IsOneLine q.1 ∧ IsOneLine q.2 := by
  have hhost : IsOneLine "-host" := by decide
  rw [commandLine, List.cons_append, List.forall_mem_cons, List.forall_mem_append]
  apply and_congr_right
  intro _
  constructor
  · rintro ⟨hwords, -⟩ q hq
    have hturn : ∀ word ∈ [q.1, q.2], IsOneLine word :=
      fun word hword => hwords word (List.mem_flatMap.2 ⟨q, hq, hword⟩)
    exact ⟨hturn q.1 (by simp), hturn q.2 (by simp)⟩
  · intro hparameters
    refine ⟨?_, by simpa using hhost⟩
    intro word hword
    obtain ⟨q, hq, hturn⟩ := List.mem_flatMap.1 hword
    simp only [List.mem_cons, List.not_mem_nil, or_false] at hturn
    rcases hturn with rfl | rfl
    · exact (hparameters q hq).1
    · exact (hparameters q hq).2

/-- The flags have names of one line. -/
theorem isOneLine_flags (hflags : ∀ entry ∈ spec.flags, entry.2.Fits entry.1) :
    ∀ entry ∈ spec.flags, IsOneLine entry.1 := by
  have hmasks : ∀ name ∈ maskFlags, IsOneLine name := by decide
  have htoggles : ∀ name ∈ toggleFlags, IsOneLine name := by decide
  rintro ⟨name, value⟩ hentry
  have hfits := hflags _ hentry
  cases value with
  | mask bits => exact hmasks name hfits
  | toggle on => exact htoggles name hfits

/-- The files that are loaded are those of the request, of the configuration and of the version. -/
theorem isOneLine_loadOrder (hc : c.IsOneLine) (hversion : spec.version ∈ c.catalog.entries)
    (hwads : ∀ w ∈ spec.wads, IsOneLine w.name) : ∀ w ∈ c.loadOrder spec, IsOneLine w.name := by
  intro w hw
  have hname := ((WadRef.firstOfEach_dedup _).names w.name).1 (List.mem_map_of_mem hw)
  obtain ⟨v, hv, hsame⟩ := List.mem_map.1 hname
  rw [← hsame]
  rcases List.mem_append.1 hv with hmine | hextra
  · rcases List.mem_append.1 hmine with hdata | hasked
    · split at hdata
      · obtain ⟨name, hmem, rfl⟩ := List.mem_map.1 hdata
        exact hc.data _ hversion name hmem
      · cases hdata
    · exact hwads v hasked
  · obtain ⟨name, hmem, rfl⟩ := List.mem_map.1 hextra
    exact hc.extraWads name hmem

/-- The parameters for the flags are of one line. -/
theorem isOneLine_flagParameters (hflags : ∀ entry ∈ spec.flags, entry.2.Fits entry.1) :
    ∀ q ∈ maskParameters spec.flags ++ toggleParameters spec.flags,
      IsOneLine q.1 ∧ IsOneLine q.2 := by
  intro q hq
  have hplus : IsOneLine "+" ∧ IsOneLine "+sv_" := by decide
  rcases List.mem_append.1 hq with hmask | htoggle
  · obtain ⟨⟨name, value⟩, hentry, hvalue⟩ := List.mem_filterMap.1 hmask
    have hname := isOneLine_flags hflags _ hentry
    cases value with
    | toggle on => cases hvalue
    | mask bits =>
      simp only [Option.ite_none_right_eq_some, Option.some.injEq] at hvalue
      rw [← hvalue.2]
      exact ⟨Text.isOneLine_append.2 ⟨hplus.1, hname⟩, Text.isOneLine_toString bits.toNat⟩
  · obtain ⟨⟨name, value⟩, hentry, hvalue⟩ := List.mem_filterMap.1 htoggle
    have hname := isOneLine_flags hflags _ hentry
    cases value with
    | mask bits => cases hvalue
    | toggle on =>
      simp only [Option.some.injEq] at hvalue
      rw [← hvalue]
      refine ⟨Text.isOneLine_append.2 ⟨hplus.2, hname⟩, ?_⟩
      cases on with
      | true => show IsOneLine "1"; decide
      | false => show IsOneLine "0"; decide

/-- The parameters for the game mode are of one line. -/
theorem isOneLine_modeParameters (mode : Option Gamemode) :
    ∀ q ∈ modeParameters mode, IsOneLine q.1 ∧ IsOneLine q.2 := by
  cases mode with
  | none => decide
  | some mode => cases mode <;> decide

/-- The parameters for the maps are of one line where the maps are. -/
theorem isOneLine_mapParameters {maps : List String} (h : ∀ name ∈ maps, IsOneLine name) :
    ∀ q ∈ mapParameters maps, IsOneLine q.1 ∧ IsOneLine q.2 := by
  have hwords : IsOneLine "+map" ∧ IsOneLine "+addmap" := by decide
  cases maps with
  | nil =>
    intro q hq
    cases hq
  | cons first others =>
    rw [List.forall_mem_cons] at h
    rw [mapParameters, List.forall_mem_cons, List.forall_mem_map]
    exact ⟨⟨hwords.1, h.1⟩, fun name hname => ⟨hwords.2, h.2 name hname⟩⟩

/-- A command line has words of one line where the request's texts are of one line. -/
theorem isOneLine_commandLine (hc : c.IsOneLine) (hversion : spec.version ∈ c.catalog.entries)
    (hflags : ∀ entry ∈ spec.flags, entry.2.Fits entry.1)
    (hpasswords : IsOneLine spec.credentials.rconPassword ∧
      IsOneLine spec.credentials.connectPassword)
    (howner : IsOneLine spec.owner) (hrequested : ∀ text ∈ spec.requested, IsOneLine text) :
    ∀ word ∈ spec.commandLine c port, IsOneLine word := by
  simp only [requested, addedFiles, List.forall_mem_append, List.forall_mem_cons, List.map_append,
    List.map_map, List.forall_mem_map, Option.mem_toList] at hrequested
  obtain ⟨⟨⟨⟨hhostname, hiwad, -⟩, hwads, hoptional⟩, hmaps⟩, hconfig⟩ := hrequested
  have hfiles := isOneLine_loadOrder hc hversion hwads
  have hdirectories := hc.directories
  simp only [List.forall_mem_cons, List.not_mem_nil, false_implies, implies_true, and_true]
    at hdirectories
  obtain ⟨hwadDir, hiwadDir, hconfigDir, hbanlistDir, hadminlistDir, hwhitelistDir⟩ := hdirectories
  have hownerFile : ∀ dir, IsOneLine dir → IsOneLine (ownerFile dir spec.owner) := by
    intro dir hdir
    have hending : IsOneLine ".txt" := by decide
    exact Path.isOneLine_join hdir
      (Text.isOneLine_append.2 ⟨isOneLine_cleanFileName howner, hending⟩)
  have hblank : IsOneLine " " := by decide
  have hparameters := isOneLine_flagParameters hflags
  rw [List.forall_mem_append] at hparameters
  rw [isOneLine_commandLine_iff]
  refine ⟨hc.programs _ hversion, ?_⟩
  simp only [parameters, List.forall_mem_append]
  and_intros
  · -- The port, the common configuration file and the main game file.
    simp only [List.forall_mem_cons, List.not_mem_nil, false_implies, implies_true, and_true]
    exact ⟨⟨by decide, Text.isOneLine_toString port.toNat⟩,
      ⟨by decide, Path.isOneLine_join hconfigDir (by decide)⟩,
      ⟨by decide, Path.isOneLine_join hiwadDir hiwad⟩⟩
  · simp only [List.forall_mem_map]
    intro w hw
    refine ⟨by decide, Path.isOneLine_join ?_ (hfiles w hw)⟩
    split
    · exact hiwadDir
    · exact hwadDir
  · simp only [List.forall_mem_map]
    exact fun name hname => ⟨by decide, Path.isOneLine_join hwadDir (hoptional name hname)⟩
  · exact isOneLine_mapParameters hmaps
  · simp only [List.forall_mem_singleton]
    exact ⟨by decide, Text.isOneLine_toString spec.skillOrDefault.toNat⟩
  · exact isOneLine_modeParameters spec.gamemode
  · exact hparameters.1
  · split <;> decide
  · split <;> decide
  · exact hparameters.2
  · split
    next name hname =>
      simp only [List.forall_mem_singleton]
      exact ⟨by decide, Path.isOneLine_join hconfigDir (hconfig name hname)⟩
    next => decide
  · -- The name, the passwords and the owner's files.
    simp only [List.forall_mem_cons, List.not_mem_nil, false_implies, implies_true, and_true]
    exact ⟨⟨by decide, Text.isOneLine_append.2
        ⟨Text.isOneLine_append.2 ⟨hc.hostnameBase, hblank⟩, hhostname⟩⟩,
      ⟨by decide, hpasswords.1⟩, ⟨by decide, hpasswords.2⟩, ⟨by decide, hpasswords.2⟩,
      ⟨by decide, hownerFile _ hbanlistDir⟩, ⟨by decide, hownerFile _ hadminlistDir⟩,
      ⟨by decide, hownerFile _ hwhitelistDir⟩⟩

/-- What a request puts onto the command line stands there, line feeds and all. -/
theorem isOneLine_requested (h : ∀ word ∈ spec.commandLine c port, IsOneLine word) :
    ∀ text ∈ spec.requested, IsOneLine text := by
  obtain ⟨-, hparameters⟩ := isOneLine_commandLine_iff.1 h
  simp only [parameters, List.forall_mem_append] at hparameters
  obtain ⟨⟨⟨⟨⟨⟨⟨⟨⟨⟨⟨hfirst, hfiles⟩, hoptional⟩, hmaps⟩, -⟩, -⟩, -⟩, -⟩, -⟩, -⟩, hconfig⟩, hlast⟩ :=
    hparameters
  rw [List.forall_mem_map] at hfiles hoptional
  simp only [requested, addedFiles, List.forall_mem_append, List.forall_mem_cons, List.map_append,
    List.map_map, List.forall_mem_map, Option.mem_toList]
  refine ⟨⟨⟨⟨?_, ?_, by simp⟩, ?_, ?_⟩, ?_⟩, ?_⟩
  · have hname := (hlast _ List.mem_cons_self).2
    exact (Text.isOneLine_append.1 hname).2
  · have hiwad := (hfirst ("-iwad", Path.join c.host.iwadDir spec.iwad) (by simp)).2
    exact Path.isOneLine_of_join hiwad
  · -- Of each name a file is loaded.
    intro w hw
    have hnamed : w.name ∈ (c.loadOrder spec).map (·.name) := by
      rw [Config.loadOrder, (WadRef.firstOfEach_dedup _).names]
      exact List.mem_map_of_mem (by simp [hw])
    obtain ⟨v, hv, hsame⟩ := List.mem_map.1 hnamed
    rw [← hsame]
    exact Path.isOneLine_of_join (hfiles v hv).2
  · exact fun name hname => Path.isOneLine_of_join (hoptional name hname).2
  · intro name hname
    cases hlist : spec.maps with
    | nil =>
      rw [hlist] at hname
      cases hname
    | cons first others =>
      rw [hlist] at hname hmaps
      rw [mapParameters, List.forall_mem_cons, List.forall_mem_map] at hmaps
      rcases List.mem_cons.1 hname with rfl | hmore
      · exact hmaps.1.2
      · exact (hmaps.2 name hmore).2
  · intro name hname
    rw [hname] at hconfig
    exact Path.isOneLine_of_join (hconfig _ (List.mem_singleton_self _)).2

end LaunchSpec

/-! ### From options -/

namespace LaunchDraft

variable {b : BuildContext} {d d' : LaunchDraft} {key value : String} {options : OptionList}

/-- The texts of a draft are of one line. -/
structure OnOneLine (d : LaunchDraft) : Prop where
  /-- The main game file. -/
  iwad : ∀ name ∈ d.iwad, IsOneLine name
  /-- The files that are loaded. -/
  wads : ∀ w ∈ d.wads, IsOneLine w.name
  /-- The files that players may have or not. -/
  optionalWads : ∀ name ∈ d.optionalWads, IsOneLine name
  /-- The maps. -/
  maps : ∀ name ∈ d.maps, IsOneLine name
  /-- The configuration file of the engine. -/
  config : ∀ name ∈ d.config, IsOneLine name
  /-- The server's name. -/
  hostname : ∀ name ∈ d.hostname, IsOneLine name

theorem onOneLine_start (port : Option UInt16) : (start port).OnOneLine := by
  constructor <;> simp [start]

theorem isOneLine_readIwad {file : String} (hvalue : IsOneLine value)
    (h : readIwad b value = .ok file) : IsOneLine file := by
  have hfiles : ∀ entry ∈ iwadAliases, IsOneLine entry.1 := by decide
  have hcleaned := Text.isOneLine_lowercase (isOneLine_cleanFileName hvalue)
  unfold readIwad at h
  generalize Text.lowercase (cleanFileName value) = cleaned at h hcleaned
  dsimp only at h
  split at h
  next halias =>
    cases h
    rw [iwadOfAlias?, Option.map_eq_some_iff] at halias
    obtain ⟨entry, hfind, rfl⟩ := halias
    exact hfiles entry (List.mem_of_find?_eq_some hfind)
  next =>
    split at h
    next =>
      cases h
      exact hcleaned
    next => cases h

theorem isOneLine_readConfig {name : String} (hvalue : IsOneLine value)
    (h : readConfig b value = .ok name) : IsOneLine name := by
  simp only [readConfig] at h
  split at h
  next => cases h
  next =>
    rw [← Except.ok.inj h]
    exact Text.isOneLine_lowercase (isOneLine_cleanFileName hvalue)

theorem isOneLine_readWads (hvalue : IsOneLine value) :
    ∀ w ∈ readWads value, IsOneLine w.name := by
  intro w hw
  rw [readWads, List.mem_filter, List.mem_map] at hw
  obtain ⟨⟨item, hitem, rfl⟩, -⟩ := hw
  have hlower := Text.isOneLine_lowercase (Text.isOneLine_items hvalue item hitem)
  unfold readWad
  dsimp only
  split
  next rest hmark =>
    apply isOneLine_cleanFileName
    apply Text.isOneLine_of_subset hlower
    rw [String.toList_ofList, Text.eq_append_of_after? hmark]
    exact List.subset_append_right _ _
  next => exact isOneLine_cleanFileName hlower

theorem isOneLine_addOptional {names : List String} (hvalue : IsOneLine value)
    (hnames : ∀ name ∈ names, IsOneLine name) :
    ∀ name ∈ addOptional names value, IsOneLine name := by
  have hitems := Text.isOneLine_items hvalue
  unfold addOptional
  generalize OptionValue.items value = items at hitems
  induction items generalizing names with
  | nil => exact hnames
  | cons item items ih =>
    rw [List.forall_mem_cons] at hitems
    rw [List.foldl_cons]
    apply ih _ hitems.2
    dsimp only
    split
    · exact hnames
    · rw [List.forall_mem_append, List.forall_mem_singleton]
      exact ⟨hnames, isOneLine_cleanFileName (Text.isOneLine_lowercase hitems.1)⟩

/-- An option whose value is one line leaves the texts of a draft so. -/
theorem OnOneLine.apply (hd : d.OnOneLine) (hvalue : IsOneLine value)
    (h : d.apply b key value = .ok d') : d'.OnOneLine := by
  cases applied_of_apply h with
  | iwad _ hread =>
    refine { hd with iwad := ?_ }
    rintro name ⟨⟩
    exact isOneLine_readIwad hvalue hread
  | wads =>
    refine { hd with wads := ?_ }
    rw [List.forall_mem_append]
    exact ⟨hd.wads, isOneLine_readWads hvalue⟩
  | optionalWads =>
    exact { hd with optionalWads := isOneLine_addOptional hvalue hd.optionalWads }
  | maps =>
    refine { hd with maps := ?_ }
    rw [List.forall_mem_append]
    exact ⟨hd.maps, Text.isOneLine_items hvalue⟩
  | config _ hread =>
    refine { hd with config := ?_ }
    rintro name ⟨⟩
    exact isOneLine_readConfig hvalue hread
  | hostname =>
    refine { hd with hostname := ?_ }
    rintro name ⟨⟩
    exact Text.isOneLine_trim hvalue
  | _ => exact ⟨hd.iwad, hd.wads, hd.optionalWads, hd.maps, hd.config, hd.hostname⟩

/-- However many options are applied, the draft's texts are of one line where all values are. -/
theorem onOneLine_applyAll {port : Option UInt16} (h : (start port).applyAll b options = .ok d)
    (hvalues : ∀ option ∈ options, IsOneLine option.2) : d.OnOneLine := by
  refine applyAll_induction
    (P := fun seen d => (∀ option ∈ seen, IsOneLine option.2) → d.OnOneLine)
    (fun _ => onOneLine_start port) ?_ h hvalues
  intro seen d key value d' hd happly hseen
  rw [List.forall_mem_append, List.forall_mem_singleton] at hseen
  exact (hd hseen.1).apply hseen.2 happly

end LaunchDraft

namespace BuildContext

variable {b : BuildContext} {owner id : String} {level : AccountLevel} {options : OptionList}
  {port : Option UInt16} {recovering : Bool} {spec : LaunchSpec}

/-- The texts of a specification are of one line where the owner's name and all values of options
    are. -/
theorem isOneLine_requested_of_build
    (h : b.build owner level options port recovering id = .ok spec) (howner : IsOneLine owner)
    (hvalues : ∀ option ∈ options, IsOneLine option.2) :
    ∀ text ∈ spec.requested, IsOneLine text := by
  obtain ⟨d, happly, hfinished⟩ := finished_of_build h
  have hd : d.OnOneLine := LaunchDraft.onOneLine_applyAll happly hvalues
  have hhostname : IsOneLine spec.hostname := by
    have hending : IsOneLine "'s server" := by decide
    rcases hostnameOf_eq_ok hfinished.hostname with hgiven | ⟨-, -, hmade⟩
    · exact hd.hostname _ hgiven
    · rw [hmade]
      exact Text.isOneLine_append.2 ⟨howner, hending⟩
  simp only [LaunchSpec.requested, LaunchSpec.addedFiles, List.forall_mem_append,
    List.forall_mem_cons, List.map_append, List.map_map, List.forall_mem_map, Option.mem_toList]
  refine ⟨⟨⟨⟨hhostname, hd.iwad _ hfinished.iwad, by simp⟩, ?_, ?_⟩, ?_⟩, ?_⟩
  · rw [hfinished.wads]
    exact hd.wads
  · rw [hfinished.optionalWads]
    exact hd.optionalWads
  · rw [hfinished.maps]
    exact hd.maps
  · rw [hfinished.config]
    exact hd.config

/-- What is built has a command line with words of one line exactly where the texts of the request
    are of one line, as far as the configuration, the identifier and the owner's name are. -/
theorem isOneLine_commandLine_iff_of_build
    (h : b.build owner level options port recovering id = .ok spec) (hc : b.config.IsOneLine)
    (hid : IsOneLine id) (howner : IsOneLine owner) (launchPort : UInt16) :
    (∀ word ∈ spec.commandLine b.config launchPort, IsOneLine word) ↔
      ∀ text ∈ spec.requested, IsOneLine text := by
  constructor
  · exact LaunchSpec.isOneLine_requested
  · intro hrequested
    have hvalid := valid_of_build h
    have hpasswords := LaunchSpec.ofId_append spec.credentials.id
    rw [← (readable_of_build h).credentials] at hpasswords
    obtain ⟨d, -, hfinished⟩ := finished_of_build h
    rw [hfinished.id] at hpasswords
    rw [← hpasswords, Text.isOneLine_append] at hid
    rw [← hfinished.owner] at howner
    exact LaunchSpec.isOneLine_commandLine hc hvalid.version hvalid.flags hid howner hrequested

end BuildContext

end HostDaemon
