import HostDaemon.Proofs.Launch.Drafts
import HostDaemon.Proofs.Path

/-! # Which files are loaded

  Before a server is launched its game files are looked up and compared with the blacklist. The
  command line then names the files again.

  - `BuildContext.examined` are the paths that were looked up, `BuildContext.Passed` says that the
    file under a path exists and is not forbidden.
  - `BuildContext.passed_of_build` says that all of them passed.
  - `BuildContext.loads_examined_iff` is the main result: every optional file is loaded from the
    path that was examined, and so is every other file of the request, but for a name that the
    configuration counts among the iwads and the request does not. -/

namespace HostDaemon

/-! ### The names of a draft -/

namespace LaunchDraft

variable {b : BuildContext} {d d' : LaunchDraft} {key value : String} {options : OptionList}

/-- The names of the files that a request adds hold no slash. -/
structure NamesFiles (d : LaunchDraft) : Prop where
  /-- The files that are loaded. -/
  wads : ∀ w ∈ d.wads, '/' ∉ w.name.toList
  /-- The files that players may have or not. -/
  optionalWads : ∀ name ∈ d.optionalWads, '/' ∉ name.toList

theorem namesFiles_start (port : Option UInt16) : (start port).NamesFiles := by
  constructor
  · intro w hw
    cases hw
  · intro name hname
    cases hname

variable {c : Char}

theorem separator_not_mem_readWad (hc : Path.IsSeparator c) (item : String) :
    c ∉ (readWad item).name.toList := by
  unfold readWad
  dsimp only
  split
  · exact separator_not_mem_cleanFileName hc _
  · exact separator_not_mem_cleanFileName hc _

theorem separator_not_mem_readWads (hc : Path.IsSeparator c) {w : WadRef} (h : w ∈ readWads value) :
    c ∉ w.name.toList := by
  rw [readWads, List.mem_filter, List.mem_map] at h
  obtain ⟨⟨item, -, rfl⟩, -⟩ := h
  exact separator_not_mem_readWad hc item

theorem separator_not_mem_addOptional (hc : Path.IsSeparator c) {names : List String}
    (value : String) (hnames : ∀ name ∈ names, c ∉ name.toList) :
    ∀ name ∈ addOptional names value, c ∉ name.toList := by
  unfold addOptional
  generalize OptionValue.items value = items
  induction items generalizing names with
  | nil => exact hnames
  | cons item items ih =>
    rw [List.foldl_cons]
    apply ih
    intro name hname
    dsimp only at hname
    split at hname
    · exact hnames name hname
    · rcases List.mem_append.1 hname with hold | hnew
      · exact hnames name hold
      · rw [List.mem_singleton.1 hnew]
        exact separator_not_mem_cleanFileName hc _

/-- No option puts a slash into a name. -/
theorem NamesFiles.apply (hnames : d.NamesFiles) (h : d.apply b key value = .ok d') :
    d'.NamesFiles := by
  cases applied_of_apply h with
  | wads =>
    refine ⟨?_, hnames.optionalWads⟩
    intro w hw
    rcases List.mem_append.1 hw with hold | hnew
    · exact hnames.wads w hold
    · exact separator_not_mem_readWads (.inl rfl) hnew
  | optionalWads =>
    exact ⟨hnames.wads, separator_not_mem_addOptional (.inl rfl) value hnames.optionalWads⟩
  | _ => exact ⟨hnames.wads, hnames.optionalWads⟩

/-- However many options are applied, no name holds a slash. -/
theorem namesFiles_applyAll {port : Option UInt16} (h : (start port).applyAll b options = .ok d) :
    d.NamesFiles :=
  applyAll_induction (P := fun _ d => d.NamesFiles) (namesFiles_start port)
    (fun _ _ _ _ _ hnames happly => hnames.apply happly) h

end LaunchDraft

/-! ### What a specification has passed -/

/-- The game files that a request adds to a server, the optional ones last. -/
def LaunchSpec.addedFiles (spec : LaunchSpec) : List WadRef :=
  spec.wads ++ spec.optionalWads.map WadRef.wad

namespace BuildContext

variable {b : BuildContext} {wads : List WadRef}

/-- The file under a path exists, and its contents have none of the forbidden hashes. -/
structure Passed (b : BuildContext) (p : Path) : Prop where
  /-- There is a file. -/
  isFile : b.files.isFile p = true
  /-- It can be read, and its hash was compared with every entry of the blacklist. -/
  isAllowed : ∃ bytes, b.files.read p = .ok bytes ∧
    ∀ e ∈ b.store.policy.blacklist, Text.sameLetters e.hash (Digest.Sha256.hex bytes) = false

/-- The paths that are looked up and compared with the blacklist before a server is launched. -/
def examined (b : BuildContext) (spec : LaunchSpec) : List Path :=
  spec.addedFiles.map b.config.resolveWad

/-- Every file has its digest, which is that of the contents of its path. -/
theorem mem_digests {found : List WadDigest} (h : b.digests wads = .ok found) {w : WadRef}
    (hw : w ∈ wads) :
    ∃ bytes, b.files.read (b.config.resolveWad w) = .ok bytes ∧
      ⟨w.name, Digest.Sha256.hex bytes⟩ ∈ found := by
  induction wads generalizing found with
  | nil => cases hw
  | cons first wads ih =>
    rw [digests] at h
    cases hread : b.files.read (b.config.resolveWad first) with
    | error e =>
      simp only [hread] at h
      cases h
    | ok bytes =>
      cases hmore : b.digests wads with
      | error e =>
        simp only [hread, hmore, bind, Except.bind] at h
        cases h
      | ok more =>
        simp only [hread, hmore, bind, Except.bind, pure, Except.pure] at h
        cases h
        rcases List.mem_cons.1 hw with rfl | hlater
        · exact ⟨bytes, hread, List.mem_cons_self⟩
        · obtain ⟨content, hcontent, hmem⟩ := ih hmore hlater
          exact ⟨content, hcontent, List.mem_cons_of_mem _ hmem⟩

/-- Where no digest is hit, each was compared with every entry. -/
theorem sameLetters_of_blacklistHit?_eq_none {s : Store} {found : List WadDigest}
    (h : s.blacklistHit? found = none) {digest : WadDigest} (hmem : digest ∈ found)
    {e : BlacklistEntry} (he : e ∈ s.policy.blacklist) :
    Text.sameLetters e.hash digest.hash = false := by
  rw [Store.blacklistHit?, List.findSome?_eq_none_iff] at h
  have hfind := h digest hmem
  rw [Option.map_eq_none_iff, List.find?_eq_none] at hfind
  exact Bool.eq_false_iff.2 (hfind e he)

/-- Files that are there and that the blacklist does not forbid have passed. -/
theorem passed_of_checks (hmissing : b.missing? wads = none)
    (hlist : b.checkBlacklist wads = .ok ()) {w : WadRef} (hw : w ∈ wads) :
    b.Passed (b.config.resolveWad w) := by
  constructor
  · rw [missing?, List.find?_eq_none] at hmissing
    have hthere := hmissing w hw
    simpa using hthere
  · unfold checkBlacklist at hlist
    cases hfound : b.digests wads with
    | error e =>
      simp only [hfound, bind, Except.bind] at hlist
      cases hlist
    | ok found =>
      simp only [hfound, bind, Except.bind] at hlist
      cases hhit : b.store.blacklistHit? found with
      | some hit =>
        simp only [hhit] at hlist
        cases hlist
      | none =>
        obtain ⟨bytes, hread, hmem⟩ := mem_digests hfound hw
        refine ⟨bytes, hread, ?_⟩
        intro e he
        exact sameLetters_of_blacklistHit?_eq_none hhit hmem he

variable {owner id : String} {level : AccountLevel} {options : OptionList} {port : Option UInt16}
  {recovering : Bool} {spec : LaunchSpec}

/-- Every path that was examined for a specification has passed. -/
theorem passed_of_build (h : b.build owner level options port recovering id = .ok spec) :
    ∀ p ∈ b.examined spec, b.Passed p := by
  obtain ⟨d, -, hfinished⟩ := finished_of_build h
  intro p hp
  obtain ⟨w, hw, rfl⟩ := List.mem_map.1 hp
  rw [LaunchSpec.addedFiles, hfinished.wads, hfinished.optionalWads] at hw
  exact passed_of_checks hfinished.missing hfinished.allowed hw

/-- The names of the files that are added hold no slash. -/
theorem slash_not_mem_addedFiles (h : b.build owner level options port recovering id = .ok spec) :
    ∀ w ∈ spec.addedFiles, '/' ∉ w.name.toList := by
  obtain ⟨d, happly, hfinished⟩ := finished_of_build h
  have hnames : d.NamesFiles := LaunchDraft.namesFiles_applyAll happly
  intro w hw
  rcases List.mem_append.1 hw with hadded | hplayers
  · exact hnames.wads w (hfinished.wads ▸ hadded)
  · obtain ⟨name, hname, rfl⟩ := List.mem_map.1 hplayers
    exact hnames.optionalWads name (hfinished.optionalWads ▸ hname)

end BuildContext

/-! ### Files on the command line -/

/-- A name that the configuration counts among the iwads is loaded from there, and so is a file that
    is said to lie there. -/
theorem Config.loadPath_eq (c : Config) (w : WadRef) :
    c.loadPath w =
      if w.location = .iwadDir ∨ ∃ name ∈ c.host.iwads, Text.sameLetters name w.name = true then
        Path.join c.host.iwadDir w.name
      else Path.join c.host.wadDir w.name := by
  unfold Config.loadPath
  simp only [Bool.or_eq_true, decide_eq_true_eq, List.any_eq_true]
  split <;> rfl

namespace LaunchSpec

variable {c : Config} {spec : LaunchSpec} {port : UInt16} {p : Path}

theorem plus_of_mem_mapParameters {maps : List String} :
    ∀ q ∈ mapParameters maps, q.1.toList.head? = some '+' := by
  cases maps with
  | nil =>
    intro q hq
    cases hq
  | cons first others =>
    intro q hq
    rcases List.mem_cons.1 hq with rfl | hother
    · simp
    · obtain ⟨name, -, rfl⟩ := List.mem_map.1 hother
      simp

theorem plus_of_mem_modeParameters {mode : Option Gamemode} :
    ∀ q ∈ modeParameters mode, q.1.toList.head? = some '+' := by
  unfold modeParameters
  split
  · simp
  · simp
  · simp

theorem plus_of_mem_maskParameters {flags : FlagTable} :
    ∀ q ∈ maskParameters flags, q.1.toList.head? = some '+' := by
  intro q hq
  obtain ⟨⟨name, value⟩, -, hvalue⟩ := List.mem_filterMap.1 hq
  cases value with
  | mask bits =>
    dsimp only at hvalue
    split at hvalue
    · cases hvalue
      simp
    · cases hvalue
  | toggle on => cases hvalue

theorem plus_of_mem_toggleParameters {flags : FlagTable} :
    ∀ q ∈ toggleParameters flags, q.1.toList.head? = some '+' := by
  intro q hq
  obtain ⟨⟨name, value⟩, -, hvalue⟩ := List.mem_filterMap.1 hq
  cases value with
  | mask bits => cases hvalue
  | toggle on =>
    cases hvalue
    simp

/-- After the files come settings of the engine alone, which begin with a plus sign. -/
theorem exists_settings (c : Config) (spec : LaunchSpec) (port : UInt16) :
    ∃ settings : List Parameter, (∀ q ∈ settings, q.1.toList.head? = some '+') ∧
      spec.parameters c port =
        [("-port", toString port), ("+exec", Path.join c.host.configDir "global.cfg"),
          ("-iwad", Path.join c.host.iwadDir spec.iwad)] ++
        (c.loadOrder spec).map (fun w => ("-file", c.loadPath w)) ++
        spec.optionalWads.map (fun name => ("-optfile", Path.join c.host.wadDir name)) ++
        settings := by
  unfold parameters
  simp only [List.append_assoc]
  refine ⟨_, ?_, rfl⟩
  intro q hq
  simp only [List.mem_append] at hq
  rcases hq with hq | hq | hq | hq | hq | hq | hq | hq | hq
  · exact plus_of_mem_mapParameters q hq
  · rw [List.mem_singleton.1 hq]
    simp
  · exact plus_of_mem_modeParameters q hq
  · exact plus_of_mem_maskParameters q hq
  · split at hq <;> simp_all
  · split at hq <;> simp_all
  · exact plus_of_mem_toggleParameters q hq
  · split at hq <;> simp_all
  · simp only [List.mem_cons, List.not_mem_nil, or_false] at hq
    rcases hq with rfl | rfl | rfl | rfl | rfl | rfl | rfl <;> simp

/-- The files that are loaded are those of the load order. -/
theorem mem_parameters_file :
    ("-file", p) ∈ spec.parameters c port ↔ ∃ w ∈ c.loadOrder spec, c.loadPath w = p := by
  obtain ⟨settings, hplus, hparameters⟩ := exists_settings c spec port
  have hno : ("-file", p) ∉ settings := by
    intro hmem
    have hhead := hplus _ hmem
    simp at hhead
  rw [hparameters]
  simp [hno]

/-- The files that are offered are the optional ones. -/
theorem mem_parameters_optfile :
    ("-optfile", p) ∈ spec.parameters c port ↔
      ∃ name ∈ spec.optionalWads, Path.join c.host.wadDir name = p := by
  obtain ⟨settings, hplus, hparameters⟩ := exists_settings c spec port
  have hno : ("-optfile", p) ∉ settings := by
    intro hmem
    have hhead := hplus _ hmem
    simp at hhead
  rw [hparameters]
  simp [hno]

end LaunchSpec

/-! ### What is loaded and what was examined -/

namespace BuildContext

variable {b : BuildContext} {owner id : String} {level : AccountLevel} {options : OptionList}
  {port : Option UInt16} {recovering : Bool} {spec : LaunchSpec}

/-- A name in the directory of iwads was examined where the request says that it lies there, and
    where that directory is the one of all wads. -/
theorem iwad_mem_examined_iff (h : b.build owner level options port recovering id = .ok spec)
    {w : WadRef} (hw : w ∈ spec.wads) :
    Path.join b.config.host.iwadDir w.name ∈ b.examined spec ↔
      ⟨w.name, .iwadDir⟩ ∈ spec.wads ∨
        Path.stem b.config.host.iwadDir = Path.stem b.config.host.wadDir := by
  have hclean : ∀ v ∈ spec.addedFiles, '/' ∉ v.name.toList := slash_not_mem_addedFiles h
  have hadded : w ∈ spec.addedFiles := List.mem_append_left _ hw
  constructor
  · intro hmem
    obtain ⟨v, hv, hpath⟩ := List.mem_map.1 hmem
    unfold Config.resolveWad at hpath
    cases hlocation : v.location with
    | wadDir =>
      rw [hlocation] at hpath
      obtain ⟨hstem, -⟩ := Path.join_inj (hclean v hv) (hclean w hadded) hpath
      exact Or.inr hstem.symm
    | iwadDir =>
      rw [hlocation] at hpath
      obtain ⟨-, hname⟩ := Path.join_inj (hclean v hv) (hclean w hadded) hpath
      -- The optional files lie in the directory of wads, so that it is one of the others.
      rcases List.mem_append.1 hv with hwads | hplayers
      · have heq : (⟨w.name, .iwadDir⟩ : WadRef) = v := by rw [← hname, ← hlocation]
        exact Or.inl (heq ▸ hwads)
      · obtain ⟨name, -, rfl⟩ := List.mem_map.1 hplayers
        cases hlocation
  · rintro (hsaid | hstem)
    · exact List.mem_map.2 ⟨⟨w.name, .iwadDir⟩, List.mem_append_left _ hsaid, rfl⟩
    · refine List.mem_map.2 ⟨w, hadded, ?_⟩
      have hslash := hclean w hadded
      unfold Config.resolveWad
      split
      · rw [Path.join_name hslash, Path.join_name hslash, hstem]
      · rfl

/-- What was checked against what is loaded, for every specification that is built and every port.

    - Every path that was examined names a file, and the hash of its contents is not forbidden.
    - Every optional file is offered from a path that was examined.
    - A file that the request adds and that is kept in the load order is loaded from a path that was
      examined, unless the configuration counts its name among the iwads and the request does not:
      then another file is loaded than the one that was examined, where the directories differ and
      the request does not name that one as well. -/
theorem loads_examined_iff (h : b.build owner level options port recovering id = .ok spec)
    (launchPort : UInt16) :
    (∀ p ∈ b.examined spec, b.Passed p) ∧
    (∀ p, ("-optfile", p) ∈ spec.parameters b.config launchPort → p ∈ b.examined spec) ∧
    ∀ w ∈ spec.wads, w ∈ b.config.loadOrder spec →
      ("-file", b.config.loadPath w) ∈ spec.parameters b.config launchPort ∧
      (b.config.loadPath w ∈ b.examined spec ↔
        w.location = .iwadDir ∨
        (∀ name ∈ b.config.host.iwads, Text.sameLetters name w.name = false) ∨
        ⟨w.name, .iwadDir⟩ ∈ spec.wads ∨
        Path.stem b.config.host.iwadDir = Path.stem b.config.host.wadDir) := by
  refine ⟨passed_of_build h, ?_, ?_⟩
  · intro p hp
    obtain ⟨name, hname, rfl⟩ := LaunchSpec.mem_parameters_optfile.1 hp
    exact List.mem_map.2
      ⟨.wad name, List.mem_append_right _ (List.mem_map.2 ⟨name, hname, rfl⟩), rfl⟩
  · intro w hw hkept
    refine ⟨LaunchSpec.mem_parameters_file.2 ⟨w, hkept, rfl⟩, ?_⟩
    rw [Config.loadPath_eq]
    by_cases hsaid : w.location = .iwadDir
    · have hself : (⟨w.name, .iwadDir⟩ : WadRef) = w := by rw [← hsaid]
      rw [if_pos (Or.inl hsaid), iwad_mem_examined_iff h hw]
      exact iff_of_true (Or.inl (hself ▸ hw)) (Or.inl hsaid)
    · by_cases hcounted : ∃ name ∈ b.config.host.iwads, Text.sameLetters name w.name = true
      · have hnot : ¬ ∀ name ∈ b.config.host.iwads, Text.sameLetters name w.name = false := by
          obtain ⟨name, hname, hsame⟩ := hcounted
          intro hall
          rw [hall name hname] at hsame
          cases hsame
        rw [if_pos (Or.inr hcounted), iwad_mem_examined_iff h hw]
        simp only [hsaid, hnot, false_or]
      · rw [if_neg (not_or.2 ⟨hsaid, hcounted⟩)]
        have hwad : w.location = .wadDir := by
          cases hlocation : w.location with
          | wadDir => rfl
          | iwadDir => exact absurd hlocation hsaid
        have hexamined : Path.join b.config.host.wadDir w.name ∈ b.examined spec := by
          refine List.mem_map.2 ⟨w, List.mem_append_left _ hw, ?_⟩
          rw [Config.resolveWad, hwad]
        refine iff_of_true hexamined (Or.inr (Or.inl ?_))
        intro name hname
        exact Bool.eq_false_iff.2 fun hsame => hcounted ⟨name, hname, hsame⟩

/-! ### One name in two directories

  A configuration that counts `nerve.wad` among the iwads, and a file of that name in either
  directory: an empty one among the iwads, and one with a single byte among the wads. -/

/-- What the specifications are built against. -/
def twoPlaces (blacklist : List BlacklistEntry) : BuildContext :=
  let policy : PolicySettings := ⟨[], [], [], [], blacklist⟩
  { config :=
      { host :=
          { minPort := 10, maxPort := 20, wadDir := "/w", iwadDir := "/i", configDir := "/c"
            banlistDir := "/b", whitelistDir := "/b", adminlistDir := "/b", logDir := none
            hostnameBase := "", extraWads := [], iwads := ["doom2.wad", "nerve.wad"]
            maxRestarts := 0, cleanupIntervalDays := 0, cleanupPeriodSecs := 0, defaultQuota := 1
            strictOptions := true, unknownGamemode := .reject, hostnameFallback := true
            gameAddress := "h", passwordMinLength := 4 }
        service := ⟨"service", "s", "node"⟩
        reputation := ⟨false, "", "", 1⟩
        policy := policy
        catalog :=
          ⟨[⟨"3.2", "/e/server", "", true, []⟩], ⟨"3.2", "/e/server", "", true, []⟩, by simp⟩ }
    store := .ofPolicy policy 1
    files :=
      ⟨[(["i"], .directory), (["i", "doom2.wad"], .file [] false),
        (["i", "nerve.wad"], .file [] false), (["w"], .directory),
        (["w", "nerve.wad"], .file [1] false), (["w", "map.wad"], .file [] false)]⟩
    ports := .ofRange 10 20
    isFree := fun _ => true
    registered := [] }

/-- The empty file is forbidden. -/
def emptyForbidden : List BlacklistEntry :=
  [⟨"bad.wad", "e3b0c44298fc1c149afbf4c8996fb92427ae41e4649b934ca495991b7852b855", "malware"⟩]

/-- What holds of the value that is computed holds of a value that is given. -/
theorem exists_ok_of_any {ε α : Type} {r : Except ε α} {good : α → Bool}
    (h : r.toOption.any good = true) : ∃ a, r = .ok a ∧ good a = true := by
  cases r with
  | error e => cases h
  | ok a => exact ⟨a, rfl, h⟩

/-- A request that names both files is launched with the one among the iwads, which was examined. -/
theorem loads_examined_nerve :
    ∃ spec, (twoPlaces []).build "al" .registered
        [("iwad", "doom2"), ("wads", "nerve.wad,iwad:nerve.wad"), ("opt", "map.wad")] none false
        "id" = .ok spec ∧
      ("-file", "/i/nerve.wad") ∈ spec.parameters (twoPlaces []).config 10 ∧
      "/i/nerve.wad" ∈ (twoPlaces []).examined spec ∧ (twoPlaces []).Passed "/i/nerve.wad" ∧
      ("-optfile", "/w/map.wad") ∈ spec.parameters (twoPlaces []).config 10 ∧
      "/w/map.wad" ∈ (twoPlaces []).examined spec := by
  have hrun : ((twoPlaces []).build "al" .registered
      [("iwad", "doom2"), ("wads", "nerve.wad,iwad:nerve.wad"), ("opt", "map.wad")] none false
      "id").toOption.any (fun spec =>
        ⟨"nerve.wad", .wadDir⟩ ∈ spec.wads ∧ ⟨"nerve.wad", .iwadDir⟩ ∈ spec.wads ∧
        ⟨"nerve.wad", .wadDir⟩ ∈ (twoPlaces []).config.loadOrder spec ∧
        ("-optfile", "/w/map.wad") ∈ spec.parameters (twoPlaces []).config 10) = true := by
    decide +kernel
  obtain ⟨spec, hbuild, hspec⟩ := exists_ok_of_any hrun
  obtain ⟨hwad, hiwad, hkept, hoffered⟩ := of_decide_eq_true hspec
  have hpath : (twoPlaces []).config.loadPath ⟨"nerve.wad", .wadDir⟩ = "/i/nerve.wad" := by
    decide +kernel
  obtain ⟨hpassed, hoptional, hfiles⟩ := loads_examined_iff hbuild 10
  obtain ⟨hloaded, hexamined⟩ := hfiles _ hwad hkept
  rw [hpath] at hloaded hexamined
  have hmem := hexamined.2 (Or.inr (Or.inr (Or.inl hiwad)))
  exact ⟨spec, hbuild, hloaded, hmem, hpassed _ hmem, hoffered, hoptional _ hoffered⟩

/-- A request that names `nerve.wad` among the wads is launched with the file of that name among the
    iwads, which was not examined and is forbidden. -/
theorem loads_forbidden_file :
    ∃ spec, (twoPlaces emptyForbidden).build "al" .registered
        [("iwad", "doom2"), ("wads", "nerve.wad")] none false "id" = .ok spec ∧
      ⟨"nerve.wad", .wadDir⟩ ∈ spec.wads ∧
      ⟨"nerve.wad", .wadDir⟩ ∈ (twoPlaces emptyForbidden).config.loadOrder spec ∧
      (twoPlaces emptyForbidden).config.loadPath ⟨"nerve.wad", .wadDir⟩ = "/i/nerve.wad" ∧
      ("-file", "/i/nerve.wad") ∈ spec.parameters (twoPlaces emptyForbidden).config 10 ∧
      "/i/nerve.wad" ∉ (twoPlaces emptyForbidden).examined spec ∧
      ¬ (twoPlaces emptyForbidden).Passed "/i/nerve.wad" := by
  have hrun : ((twoPlaces emptyForbidden).build "al" .registered
      [("iwad", "doom2"), ("wads", "nerve.wad")] none false "id").toOption.any (fun spec =>
        ⟨"nerve.wad", .wadDir⟩ ∈ spec.wads ∧
        ⟨"nerve.wad", .wadDir⟩ ∈ (twoPlaces emptyForbidden).config.loadOrder spec ∧
        (twoPlaces emptyForbidden).config.loadPath ⟨"nerve.wad", .wadDir⟩ = "/i/nerve.wad" ∧
        ("-file", "/i/nerve.wad") ∈ spec.parameters (twoPlaces emptyForbidden).config 10 ∧
        "/i/nerve.wad" ∉ (twoPlaces emptyForbidden).examined spec) = true := by
    decide +kernel
  obtain ⟨spec, hbuild, hspec⟩ := exists_ok_of_any hrun
  obtain ⟨hwad, hkept, hpath, hloaded, hunseen⟩ := of_decide_eq_true hspec
  refine ⟨spec, hbuild, hwad, hkept, hpath, hloaded, hunseen, ?_⟩
  rintro ⟨-, bytes, hread, hallowed⟩
  have hempty : (twoPlaces emptyForbidden).files.read "/i/nerve.wad" = .ok [] := by rfl
  rw [hempty, Except.ok.injEq] at hread
  subst hread
  have hdiffers := hallowed _ List.mem_cons_self
  revert hdiffers
  decide +kernel

end BuildContext

end HostDaemon
