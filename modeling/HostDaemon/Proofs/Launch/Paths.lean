import HostDaemon.Proofs.Launch.Checks

/-! # Names that stay in their directories

  A request names its game files and a configuration file, and by its owner the owner's files. On
  the command line each of them is a path into a directory of the configuration.

  - `Path.IsFileName` says what the name of a file is, and `Path.IsIn` what a path right into a
    directory is.
  - `LaunchDraft.NamesPlainly` is what every option keeps: no name holds a separator. With the files
    that are found at the end, `BuildContext.fileNames_of_build` says that all of them are names of
    files.
  - `LaunchSpec.namesPath_of_mem` lists the paths on a command line.
  - `BuildContext.confined_of_build` is the main result: whatever a request asks for, no path on its
    command line leaves its directory. -/

namespace HostDaemon

/-! ### Names of files -/

namespace Path

/-- The text holds no separator. -/
def IsUndivided (name : String) : Prop := ∀ c, IsSeparator c → c ∉ name.toList

/-- A name that can stand in a directory for a file. -/
structure IsFileName (name : String) : Prop where
  /-- It is not empty. -/
  ne_empty : name ≠ ""
  /-- It does not lead further down. -/
  slash : '/' ∉ name.toList
  /-- Nor does it on other machines. -/
  backslash : '\\' ∉ name.toList
  /-- It is not the directory itself. -/
  ne_dot : name ≠ "."
  /-- It is not the directory above. -/
  ne_dots : name ≠ ".."

/-- The path is the directory, joined with the name of a file. -/
def IsIn (p dir : Path) : Prop := ∃ name, IsFileName name ∧ p = join dir name

theorem IsFileName.isIn {name : String} (h : IsFileName name) (dir : Path) :
    IsIn (join dir name) dir :=
  ⟨name, h, rfl⟩

end Path

/-- An undivided text that leads from a directory to a file is the name of a file. -/
theorem FileSystem.isFileName_of_isFile {fs : FileSystem} {dir : Path} {name : String}
    (h : fs.isFile (Path.join dir name) = true) (hplain : Path.IsUndivided name) :
    Path.IsFileName name := by
  have hslash : '/' ∉ name.toList := hplain '/' (.inl rfl)
  obtain ⟨-, -, -, -, -, -, -, hvoid, hup⟩ := follow_of_isFile h hslash
  simp only [Path.isVoid, Bool.or_eq_false_iff, beq_eq_false_iff_ne] at hvoid
  exact ⟨hvoid.1, hslash, hplain '\\' (.inr rfl), hvoid.2, hup⟩

/-- What is made of an owner's name is the name of a file, whatever the owner is called. -/
theorem ownerFile_isIn (dir : Path) (owner : String) : Path.IsIn (ownerFile dir owner) dir := by
  have hplain : ∀ c, Path.IsSeparator c → c ∉ (cleanFileName owner ++ ".txt").toList := by
    intro c hc
    rw [String.toList_append, List.mem_append, not_or]
    refine ⟨separator_not_mem_cleanFileName hc owner, ?_⟩
    rcases hc with rfl | rfl <;> decide
  -- The ending alone is longer than the names that are excluded.
  have hlong : ∀ short : String, short.toList.length < 4 →
      cleanFileName owner ++ ".txt" ≠ short := by
    intro short hshort heq
    have hlength := congrArg (fun s : String => s.toList.length) heq
    simp only [String.toList_append, List.length_append] at hlength
    have hending : ".txt".toList.length = 4 := rfl
    omega
  exact ⟨_, ⟨hlong "" (by decide), hplain '/' (.inl rfl), hplain '\\' (.inr rfl),
    hlong "." (by decide), hlong ".." (by decide)⟩, rfl⟩

/-! ### The names of a draft -/

namespace LaunchDraft

variable {b : BuildContext} {d d' : LaunchDraft} {key value : String} {options : OptionList}

/-- No name of a draft holds a separator. -/
structure NamesPlainly (d : LaunchDraft) : Prop where
  /-- The main game file. -/
  iwad : ∀ name ∈ d.iwad, Path.IsUndivided name
  /-- The files that are loaded. -/
  wads : ∀ w ∈ d.wads, Path.IsUndivided w.name
  /-- The files that players may have or not. -/
  optionalWads : ∀ name ∈ d.optionalWads, Path.IsUndivided name
  /-- The configuration file of the engine. -/
  config : ∀ name ∈ d.config, Path.IsUndivided name

theorem namesPlainly_start (port : Option UInt16) : (start port).NamesPlainly := by
  constructor
  · intro name hname
    cases hname
  · intro w hw
    cases hw
  · intro name hname
    cases hname
  · intro name hname
    cases hname

theorem isUndivided_readConfig {name : String} (h : readConfig b value = .ok name) :
    Path.IsUndivided name := by
  intro c hc
  simp only [readConfig] at h
  split at h
  next => cases h
  next =>
    rw [Except.ok.injEq] at h
    rw [← h]
    exact separator_not_mem_lowercase hc (separator_not_mem_cleanFileName hc value)

/-- No option puts a separator into a name. -/
theorem NamesPlainly.apply (hnames : d.NamesPlainly) (h : d.apply b key value = .ok d') :
    d'.NamesPlainly := by
  cases applied_of_apply h with
  | iwad _ hread =>
    refine { hnames with iwad := ?_ }
    rintro name ⟨⟩ c hc
    exact separator_not_mem_readIwad hc hread
  | wads =>
    refine { hnames with wads := ?_ }
    intro w hw c hc
    rcases List.mem_append.1 hw with hold | hnew
    · exact hnames.wads w hold c hc
    · exact separator_not_mem_readWads hc hnew
  | optionalWads =>
    refine { hnames with optionalWads := ?_ }
    intro name hname c hc
    exact separator_not_mem_addOptional hc value
      (fun old hold => hnames.optionalWads old hold c hc) name hname
  | config _ hread =>
    refine { hnames with config := ?_ }
    rintro name ⟨⟩
    exact isUndivided_readConfig hread
  | _ => exact ⟨hnames.iwad, hnames.wads, hnames.optionalWads, hnames.config⟩

theorem namesPlainly_applyAll {port : Option UInt16}
    (h : (start port).applyAll b options = .ok d) : d.NamesPlainly :=
  applyAll_induction (P := fun _ d => d.NamesPlainly) (namesPlainly_start port)
    (fun _ _ _ _ _ hnames happly => hnames.apply happly) h

end LaunchDraft

/-! ### The names of a specification -/

/-- All that a specification names are names of files. -/
structure LaunchSpec.FileNames (spec : LaunchSpec) : Prop where
  /-- The main game file. -/
  iwad : Path.IsFileName spec.iwad
  /-- The files that are loaded. -/
  wads : ∀ w ∈ spec.wads, Path.IsFileName w.name
  /-- The files that players may have or not. -/
  optionalWads : ∀ name ∈ spec.optionalWads, Path.IsFileName name
  /-- The configuration file of the engine. -/
  config : ∀ name ∈ spec.config, Path.IsFileName name

namespace BuildContext

variable {b : BuildContext} {owner id : String} {level : AccountLevel} {options : OptionList}
  {port : Option UInt16} {recovering : Bool} {spec : LaunchSpec}

/-- Every file was found under its name, which holds no separator. -/
theorem isFileName_of_passed {w : WadRef} (hpassed : b.Passed (b.config.resolveWad w))
    (hplain : Path.IsUndivided w.name) : Path.IsFileName w.name := by
  have hfile := hpassed.isFile
  unfold Config.resolveWad at hfile
  split at hfile
  · exact FileSystem.isFileName_of_isFile hfile hplain
  · exact FileSystem.isFileName_of_isFile hfile hplain

/-- Whatever is built names files. -/
theorem fileNames_of_build (h : b.build owner level options port recovering id = .ok spec) :
    spec.FileNames := by
  obtain ⟨d, happly, hfinished⟩ := finished_of_build h
  have hplain : d.NamesPlainly := LaunchDraft.namesPlainly_applyAll happly
  have hchecked : d.Checked b := LaunchDraft.checked_applyAll happly
  have hpassed : ∀ w ∈ spec.addedFiles, b.Passed (b.config.resolveWad w) :=
    fun w hw => passed_of_build h _ (List.mem_map.2 ⟨w, hw, rfl⟩)
  constructor
  case iwad =>
    exact FileSystem.isFileName_of_isFile hfinished.isFile (hplain.iwad _ hfinished.iwad)
  case wads =>
    intro w hw
    exact isFileName_of_passed (hpassed w (List.mem_append_left _ hw))
      (hplain.wads w (hfinished.wads ▸ hw))
  case optionalWads =>
    intro name hname
    exact isFileName_of_passed
      (hpassed (.wad name) (List.mem_append_right _ (List.mem_map.2 ⟨name, hname, rfl⟩)))
      (hplain.optionalWads name (hfinished.optionalWads ▸ hname))
  case config =>
    intro name hname
    rw [hfinished.config] at hname
    exact FileSystem.isFileName_of_isFile (hchecked.config name hname).1 (hplain.config name hname)

end BuildContext

/-! ### The load order -/

namespace WadRef

variable {w : WadRef} {wads : List WadRef} {seen : List String}

theorem mem_of_mem_dedupFrom (h : w ∈ dedupFrom seen wads) : w ∈ wads := by
  induction wads generalizing seen with
  | nil => cases h
  | cons first wads ih =>
    rw [dedupFrom] at h
    split at h
    · exact List.mem_cons_of_mem _ (ih h)
    · rcases List.mem_cons.1 h with rfl | hlater
      · exact List.mem_cons_self
      · exact List.mem_cons_of_mem _ (ih hlater)

/-- The load order adds no file. -/
theorem mem_of_mem_dedup (h : w ∈ dedup wads) : w ∈ wads := mem_of_mem_dedupFrom h

theorem exists_mem_dedupFrom (h : w ∈ wads) (hnew : w.name ∉ seen) :
    ∃ v ∈ dedupFrom seen wads, v.name = w.name := by
  induction wads generalizing seen with
  | nil => cases h
  | cons first wads ih =>
    rw [dedupFrom]
    by_cases hsame : first.name = w.name
    · rw [if_neg (hsame ▸ hnew)]
      exact ⟨first, List.mem_cons_self, hsame⟩
    · have hlater : w ∈ wads := by
        rcases List.mem_cons.1 h with rfl | hlater
        · exact absurd rfl hsame
        · exact hlater
      split
      · exact ih hlater hnew
      · have hstill : w.name ∉ first.name :: seen := by simp [hnew, Ne.symm hsame]
        obtain ⟨v, hv, hname⟩ := ih hlater hstill
        exact ⟨v, List.mem_cons_of_mem _ hv, hname⟩

/-- The load order keeps a file of each name. -/
theorem exists_mem_dedup (h : w ∈ wads) : ∃ v ∈ dedup wads, v.name = w.name :=
  exists_mem_dedupFrom h (by simp)

end WadRef

/-! ### The paths of a command line -/

namespace LaunchSpec

variable {c : Config} {spec : LaunchSpec} {port : UInt16} {q : Parameter}

/-- The parameters whose values are paths. -/
def pathFlags : List String :=
  ["+exec", "-iwad", "-file", "-optfile", "+sv_banfile", "+sv_adminlistfile",
    "+sv_banexemptionfile"]

/-- The directory to which the value of a parameter leads, where there is one for all. Game files
    that are loaded lie in one of two. -/
def directoryOf (host : HostSettings) : String → Option Path
  | "+exec" => some host.configDir
  | "-iwad" => some host.iwadDir
  | "-optfile" => some host.wadDir
  | "+sv_banfile" => some host.banlistDir
  | "+sv_adminlistfile" => some host.adminlistDir
  | "+sv_banexemptionfile" => some host.whitelistDir
  | _ => none

theorem mem_pathFlags_of_directory {host : HostSettings} {flag : String} {dir : Path}
    (h : dir ∈ directoryOf host flag) : flag ∈ pathFlags := by
  unfold directoryOf at h
  split at h
  all_goals first | decide | cases h

/-- The paths of a command line, each with its parameter. -/
inductive NamesPath (c : Config) (spec : LaunchSpec) : Parameter → Prop where
  | global : NamesPath c spec ("+exec", Path.join c.host.configDir "global.cfg")
  | iwad : NamesPath c spec ("-iwad", Path.join c.host.iwadDir spec.iwad)
  | file {w : WadRef} (hw : w ∈ c.loadOrder spec) : NamesPath c spec ("-file", c.loadPath w)
  | optfile {name : String} (hname : name ∈ spec.optionalWads) :
      NamesPath c spec ("-optfile", Path.join c.host.wadDir name)
  | config {name : String} (hname : name ∈ spec.config) :
      NamesPath c spec ("+exec", Path.join c.host.configDir name)
  | banlist : NamesPath c spec ("+sv_banfile", ownerFile c.host.banlistDir spec.owner)
  | adminlist : NamesPath c spec ("+sv_adminlistfile", ownerFile c.host.adminlistDir spec.owner)
  | whitelist : NamesPath c spec ("+sv_banexemptionfile", ownerFile c.host.whitelistDir spec.owner)

theorem not_mem_pathFlags_of_map {maps : List String} (hq : q ∈ mapParameters maps) :
    q.1 ∉ pathFlags := by
  cases maps with
  | nil => cases hq
  | cons first others =>
    rcases List.mem_cons.1 hq with rfl | hother
    · exact (by decide : "+map" ∉ pathFlags)
    · obtain ⟨name, -, rfl⟩ := List.mem_map.1 hother
      exact (by decide : "+addmap" ∉ pathFlags)

theorem not_mem_pathFlags_of_mode {mode : Option Gamemode} (hq : q ∈ modeParameters mode) :
    q.1 ∉ pathFlags := by
  have hcvar : ∀ mode : Gamemode, "+" ++ mode.cvar ∉ pathFlags := by
    intro mode
    cases mode <;> decide
  unfold modeParameters at hq
  split at hq
  · cases hq
  · rw [List.mem_singleton.1 hq]
    decide
  next mode _ =>
    rcases List.mem_cons.1 hq with rfl | hq
    · decide
    · rw [List.mem_singleton.1 hq]
      exact hcvar mode

theorem not_mem_pathFlags_of_mask {flags : FlagTable}
    (hfits : ∀ entry ∈ flags, entry.2.Fits entry.1) (hq : q ∈ maskParameters flags) :
    q.1 ∉ pathFlags := by
  have hknown : ∀ name ∈ maskFlags, "+" ++ name ∉ pathFlags := by decide
  obtain ⟨⟨name, value⟩, hentry, hvalue⟩ := List.mem_filterMap.1 hq
  have hfit := hfits _ hentry
  cases value with
  | mask bits =>
    dsimp only at hvalue
    split at hvalue
    · cases hvalue
      exact hknown name hfit
    · cases hvalue
  | toggle on => cases hvalue

theorem not_mem_pathFlags_of_toggle {flags : FlagTable}
    (hfits : ∀ entry ∈ flags, entry.2.Fits entry.1) (hq : q ∈ toggleParameters flags) :
    q.1 ∉ pathFlags := by
  have hknown : ∀ name ∈ toggleFlags, "+sv_" ++ name ∉ pathFlags := by decide
  obtain ⟨⟨name, value⟩, hentry, hvalue⟩ := List.mem_filterMap.1 hq
  have hfit := hfits _ hentry
  cases value with
  | mask bits => cases hvalue
  | toggle on =>
    cases hvalue
    exact hknown name hfit

/-- No other parameter is taken for one whose value is a path: the names of known flags differ from
    theirs. -/
theorem namesPath_of_mem (hfits : ∀ entry ∈ spec.flags, entry.2.Fits entry.1)
    (hq : q ∈ spec.parameters c port) (hpath : q.1 ∈ pathFlags) : NamesPath c spec q := by
  simp only [parameters, List.append_assoc, List.mem_append] at hq
  rcases hq with hq | hq | hq | hq | hq | hq | hq | hq | hq | hq | hq | hq
  · simp only [List.mem_cons, List.not_mem_nil, or_false] at hq
    rcases hq with rfl | rfl | rfl
    · exact absurd hpath (by decide : "-port" ∉ pathFlags)
    · exact .global
    · exact .iwad
  · obtain ⟨w, hw, rfl⟩ := List.mem_map.1 hq
    exact .file hw
  · obtain ⟨name, hname, rfl⟩ := List.mem_map.1 hq
    exact .optfile hname
  · exact absurd hpath (not_mem_pathFlags_of_map hq)
  · rw [List.mem_singleton.1 hq] at hpath
    exact absurd hpath (by decide : "+skill" ∉ pathFlags)
  · exact absurd hpath (not_mem_pathFlags_of_mode hq)
  · exact absurd hpath (not_mem_pathFlags_of_mask hfits hq)
  · split at hq
    · rw [List.mem_singleton.1 hq] at hpath
      exact absurd hpath (by decide)
    · cases hq
  · split at hq
    · rw [List.mem_singleton.1 hq] at hpath
      exact absurd hpath (by decide)
    · cases hq
  · exact absurd hpath (not_mem_pathFlags_of_toggle hfits hq)
  · split at hq
    next name hname =>
      rw [List.mem_singleton.1 hq]
      exact .config (Option.mem_def.2 hname)
    next => cases hq
  · simp only [List.mem_cons, List.not_mem_nil, or_false] at hq
    rcases hq with rfl | rfl | rfl | rfl | rfl | rfl | rfl
    · exact absurd hpath (by decide : "+sv_hostname" ∉ pathFlags)
    · exact absurd hpath (by decide : "+sv_rconpassword" ∉ pathFlags)
    · exact absurd hpath (by decide : "+sv_password" ∉ pathFlags)
    · exact absurd hpath (by decide : "+sv_joinpassword" ∉ pathFlags)
    · exact .banlist
    · exact .adminlist
    · exact .whitelist

/-- The configuration file that is run on every server has the name of a file. -/
theorem isFileName_global : Path.IsFileName "global.cfg" :=
  ⟨by decide, by decide, by decide, by decide, by decide⟩

/-- Each of them leads into its directory, where the names are those of files. -/
theorem NamesPath.isIn (hnames : spec.FileNames) (h : NamesPath c spec q) {dir : Path}
    (hdir : dir ∈ directoryOf c.host q.1) : Path.IsIn q.2 dir := by
  cases h with
  | global =>
    simp only [directoryOf, Option.mem_some] at hdir
    subst hdir
    exact isFileName_global.isIn _
  | iwad =>
    simp only [directoryOf, Option.mem_some] at hdir
    subst hdir
    exact hnames.iwad.isIn _
  | file => simp [directoryOf] at hdir
  | optfile hname =>
    simp only [directoryOf, Option.mem_some] at hdir
    subst hdir
    exact (hnames.optionalWads _ hname).isIn _
  | config hname =>
    simp only [directoryOf, Option.mem_some] at hdir
    subst hdir
    exact (hnames.config _ hname).isIn _
  | banlist | adminlist | whitelist =>
    simp only [directoryOf, Option.mem_some] at hdir
    subst hdir
    dsimp only
    exact ownerFile_isIn _ _

end LaunchSpec

namespace BuildContext

variable {b : BuildContext} {owner id : String} {level : AccountLevel} {options : OptionList}
  {port : Option UInt16} {recovering : Bool} {spec : LaunchSpec}

/-- A game file is loaded from one of two directories. -/
theorem isIn_loadPath {c : Config} {w : WadRef} (hname : Path.IsFileName w.name) :
    Path.IsIn (c.loadPath w) c.host.wadDir ∨ Path.IsIn (c.loadPath w) c.host.iwadDir := by
  rw [Config.loadPath_eq]
  split
  · exact Or.inr (hname.isIn _)
  · exact Or.inl (hname.isIn _)

/-- Of every path on the command line of what is built, whatever options it is built from, whoever
    its owner is, and whatever port it is launched on:

    - the main game file, the optional files, the configuration files of the engine and the owner's
      files are each a directory of the configuration joined with the name of a file;
    - every other game file that the request names is loaded, under its name, from one of the two
      directories of game files;
    - what else is loaded is named by the configuration, and not by the request. -/
theorem confined_of_build (h : b.build owner level options port recovering id = .ok spec)
    (launchPort : UInt16) :
    let host := b.config.host
    let given := spec.parameters b.config launchPort
    (∀ flag p dir, (flag, p) ∈ given → dir ∈ LaunchSpec.directoryOf host flag →
      Path.IsIn p dir) ∧
    (∀ w ∈ spec.wads, ∃ v ∈ b.config.loadOrder spec, v.name = w.name ∧
      ("-file", b.config.loadPath v) ∈ given ∧
      (Path.IsIn (b.config.loadPath v) host.wadDir ∨
        Path.IsIn (b.config.loadPath v) host.iwadDir)) ∧
    ∀ p, ("-file", p) ∈ given → Path.IsIn p host.wadDir ∨ Path.IsIn p host.iwadDir ∨
      ∃ v ∈ spec.version.data.map WadRef.wad ++ host.extraWads.map WadRef.wad,
        p = b.config.loadPath v ∧ ∀ w ∈ spec.wads, w.name ≠ v.name := by
  intro host given
  have hnames : spec.FileNames := fileNames_of_build h
  refine ⟨?_, ?_, ?_⟩
  · intro flag p dir hmem hdir
    have hpath := LaunchSpec.namesPath_of_mem (valid_of_build h).flags hmem
      (LaunchSpec.mem_pathFlags_of_directory hdir)
    exact hpath.isIn hnames hdir
  · intro w hw
    obtain ⟨v, hv, hname⟩ := WadRef.exists_mem_dedup
      (List.mem_append_left (b.config.host.extraWads.map WadRef.wad) (List.mem_append_right
        (if spec.includeData then spec.version.data.map WadRef.wad else []) hw))
    exact ⟨v, hv, hname, LaunchSpec.mem_parameters_file.2 ⟨v, hv, rfl⟩,
      isIn_loadPath (hname ▸ hnames.wads w hw)⟩
  · intro p hp
    obtain ⟨v, hv, rfl⟩ := LaunchSpec.mem_parameters_file.1 hp
    by_cases hasked : ∃ w ∈ spec.wads, w.name = v.name
    · obtain ⟨w, hw, hname⟩ := hasked
      exact (isIn_loadPath (hname ▸ hnames.wads w hw)).imp_right Or.inl
    · have hother : ∀ w ∈ spec.wads, w.name ≠ v.name :=
        fun w hw hname => hasked ⟨w, hw, hname⟩
      refine Or.inr (Or.inr ⟨v, ?_, rfl, hother⟩)
      have hmem := WadRef.mem_of_mem_dedup hv
      simp only [List.mem_append] at hmem ⊢
      rcases hmem with (hdata | hwad) | hextra
      · split at hdata
        · exact Or.inl hdata
        · cases hdata
      · exact absurd rfl (hother v hwad)
      · exact Or.inr hextra

/-- `withSettings` with a file whose name begins with two dots. -/
def withDots : BuildContext :=
  { withSettings with
    files := ⟨(["w", "..nerve.wad"], .file [1] false) :: withSettings.files.entries⟩ }

/-- A request that climbs with every name stays in the directories. -/
theorem confined_climber :
    ∃ spec, withDots.build "../../al" .registered
        [("iwad", "\\Doom2/"), ("wads", "../Nerve.wad"), ("opt", "\\/nerve.wad"),
          ("config", "//duel.cfg")] none false "id" = .ok spec ∧
      ("-iwad", "/i/doom2.wad") ∈ spec.parameters withDots.config 12 ∧
      Path.IsIn "/i/doom2.wad" "/i" ∧
      (⟨"..nerve.wad", .wadDir⟩ : WadRef) ∈ spec.wads ∧
      (∃ p, ("-file", p) ∈ spec.parameters withDots.config 12 ∧
        (Path.IsIn p "/w" ∨ Path.IsIn p "/i")) ∧
      ("-optfile", "/w/nerve.wad") ∈ spec.parameters withDots.config 12 ∧
      Path.IsIn "/w/nerve.wad" "/w" ∧
      ("+exec", "/c/duel.cfg") ∈ spec.parameters withDots.config 12 ∧
      Path.IsIn "/c/duel.cfg" "/c" ∧
      ("+sv_banfile", "/b/....al.txt") ∈ spec.parameters withDots.config 12 ∧
      Path.IsIn "/b/....al.txt" "/b" := by
  have hrun : (withDots.build "../../al" .registered
      [("iwad", "\\Doom2/"), ("wads", "../Nerve.wad"), ("opt", "\\/nerve.wad"),
        ("config", "//duel.cfg")] none false "id").toOption.any (fun spec =>
      ("-iwad", "/i/doom2.wad") ∈ spec.parameters withDots.config 12 ∧
      (⟨"..nerve.wad", .wadDir⟩ : WadRef) ∈ spec.wads ∧
      ("-optfile", "/w/nerve.wad") ∈ spec.parameters withDots.config 12 ∧
      ("+exec", "/c/duel.cfg") ∈ spec.parameters withDots.config 12 ∧
      ("+sv_banfile", "/b/....al.txt") ∈ spec.parameters withDots.config 12) = true := by
    decide +kernel
  obtain ⟨spec, hbuild, hspec⟩ := exists_ok_of_any hrun
  obtain ⟨hiwad, hwad, hoptional, hconfig, hbanlist⟩ := of_decide_eq_true hspec
  obtain ⟨hin, hwads, -⟩ := confined_of_build hbuild 12
  obtain ⟨v, -, -, hloaded, hinWads⟩ := hwads _ hwad
  exact ⟨spec, hbuild, hiwad, hin _ _ _ hiwad rfl, hwad, ⟨_, hloaded, hinWads⟩, hoptional,
    hin _ _ _ hoptional rfl, hconfig, hin _ _ _ hconfig rfl, hbanlist, hin _ _ _ hbanlist rfl⟩

end BuildContext

end HostDaemon
