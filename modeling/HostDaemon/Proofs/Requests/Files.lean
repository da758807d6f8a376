import HostDaemon.Proofs.Fleet.Quota

/-! # What depends on the contents of a file

  Nothing but reading a file depends on its bytes: where paths lead, what can be created and opened,
  and whether a program can be started are the same with other bytes in it.

  - `FileSystem.AgreeBeside` says that two file systems differ at most in the bytes of one file.
  - `FileSystem.AgreeBeside.locate_cases` says that a path leads to the same place in both. From it
    there is one lemma for each operation on files.
  - `BuildContext.build_congr` says that a launch specification depends on the bytes of no file but
    the game files that a request names. -/

namespace HostDaemon

/-- What is at a location, without the bytes of a file. -/
def FileNode.emptied : FileNode → FileNode
  | .directory => .directory
  | .file _ runnable => .file [] runnable

namespace FileSystem

/-- The path leads to a location, whether something is there or not. -/
def LeadsTo (fs : FileSystem) (p : Path) (l : Location) : Prop :=
  ∃ node, fs.locate p = .ok (l, node)

/-- Two file systems that differ at most in the bytes of the file at a location. -/
structure AgreeBeside (l : Location) (fs fs' : FileSystem) : Prop where
  /-- Everywhere there is something of the same kind. -/
  kinds : ∀ here, (fs'.get? here).map FileNode.emptied = (fs.get? here).map FileNode.emptied
  /-- Everywhere else there is the same. -/
  elsewhere : ∀ here, here ≠ l → fs'.get? here = fs.get? here

variable {l : Location} {fs fs' : FileSystem}

theorem get?_put (fs : FileSystem) (there : Location) (node : FileNode) (here : Location) :
    (fs.put there node).get? here =
      if here = [] then some .directory else if here = there then some node else fs.get? here := by
  unfold get? put
  by_cases hroot : here = []
  · simp [hroot]
  · rw [if_neg hroot, if_neg hroot, if_neg hroot]
    by_cases hsame : here = there
    · rw [hsame, List.lookup_cons_self, if_pos rfl]
    · have hkeep := lookup_without fs.entries there here
      rw [if_neg hsame] at hkeep
      rw [if_neg hsame, List.lookup_cons, beq_false_of_ne hsame]
      exact hkeep

namespace AgreeBeside

theorem refl (l : Location) (fs : FileSystem) : AgreeBeside l fs fs :=
  ⟨fun _ => rfl, fun _ _ => rfl⟩

/-- What two file systems have at a location. -/
theorem get?_cases (h : AgreeBeside l fs fs') (here : Location) :
    (fs.get? here = none ∧ fs'.get? here = none) ∨
    (fs.get? here = some .directory ∧ fs'.get? here = some .directory) ∨
    ∃ bytes bytes' runnable, fs.get? here = some (.file bytes runnable) ∧
      fs'.get? here = some (.file bytes' runnable) ∧ (here ≠ l → bytes' = bytes) := by
  have hkind := h.kinds here
  have hsame := h.elsewhere here
  cases hbefore : fs.get? here with
  | none =>
    rw [hbefore, Option.map_none, Option.map_eq_none_iff] at hkind
    exact Or.inl ⟨rfl, hkind⟩
  | some node =>
    rw [hbefore, Option.map_some, Option.map_eq_some_iff] at hkind
    obtain ⟨node', hafter, hkind⟩ := hkind
    rw [hbefore, hafter] at hsame
    right
    cases node with
    | directory =>
      left
      cases node' with
      | directory => exact ⟨rfl, hafter⟩
      | file bytes' runnable' => cases hkind
    | file bytes runnable =>
      right
      cases node' with
      | directory => cases hkind
      | file bytes' runnable' =>
        simp only [FileNode.emptied, FileNode.file.injEq, true_and] at hkind
        subst hkind
        refine ⟨bytes, bytes', _, rfl, hafter, fun hne => ?_⟩
        simpa using hsame hne

/-- Two file systems agree where at every location they have the same or files with other bytes. -/
theorem put (h : AgreeBeside l fs fs') (there : Location) (node : FileNode) :
    AgreeBeside l (fs.put there node) (fs'.put there node) := by
  constructor
  · intro here
    rw [get?_put, get?_put]
    split
    · rfl
    · split
      · rfl
      · exact h.kinds here
  · intro here hne
    rw [get?_put, get?_put, h.elsewhere here hne]

/-- Bytes can be added to the hidden file, too. -/
theorem appendAt (h : AgreeBeside l fs fs') (there : Location) (bytes : List UInt8) :
    AgreeBeside l (fs.appendAt there bytes) (fs'.appendAt there bytes) := by
  unfold FileSystem.appendAt
  rcases h.get?_cases there with ⟨hbefore, hafter⟩ | ⟨hbefore, hafter⟩ |
    ⟨old, old', runnable, hbefore, hafter, hbytes⟩
  · rw [hbefore, hafter]
    exact h
  · rw [hbefore, hafter]
    exact h
  · rw [hbefore, hafter]
    constructor
    · intro here
      rw [get?_put, get?_put]
      split
      · rfl
      · split
        · rfl
        · exact h.kinds here
    · intro here hne
      rw [get?_put, get?_put, h.elsewhere here hne]
      by_cases hsame : here = there
      · rw [hbytes (hsame ▸ hne)]
      · rw [if_neg hsame, if_neg hsame]

/-- A file can be there with other bytes. -/
theorem of_put (fs : FileSystem) (l : Location) (bytes bytes' : List UInt8) (runnable : Bool) :
    AgreeBeside l (fs.put l (.file bytes runnable)) (fs.put l (.file bytes' runnable)) := by
  constructor
  · intro here
    rw [get?_put, get?_put]
    split
    · rfl
    · split
      · rfl
      · rfl
  · intro here hne
    rw [get?_put, get?_put, if_neg hne, if_neg hne]

/-! ### Where paths lead -/

theorem follow_cases (h : AgreeBeside l fs fs') (parts : List String) (here : Location) :
    (∃ e, fs.follow here parts = .error e ∧ fs'.follow here parts = .error e) ∨
    ∃ there, fs.follow here parts = .ok (there, fs.get? there) ∧
      fs'.follow here parts = .ok (there, fs'.get? there) := by
  induction parts generalizing here with
  | nil => exact Or.inr ⟨here, rfl, rfl⟩
  | cons part more ih =>
    unfold FileSystem.follow
    rcases h.get?_cases here with ⟨hbefore, hafter⟩ | ⟨hbefore, hafter⟩ |
      ⟨bytes, bytes', runnable, hbefore, hafter, -⟩
    · rw [hbefore, hafter]
      exact Or.inl ⟨.notFound, rfl, rfl⟩
    · rw [hbefore, hafter]
      simp only
      -- Both file systems have the next part or do not have it.
      have hnext : fs'.get? (here ++ [part]) = none ↔ fs.get? (here ++ [part]) = none := by
        have hkind := h.kinds (here ++ [part])
        rw [← Option.map_eq_none_iff (f := FileNode.emptied), hkind, Option.map_eq_none_iff]
      simp only [hnext]
      split
      · exact Or.inl ⟨.nameTooLong, rfl, rfl⟩
      · split
        · exact ih here
        · split
          · exact ih here.dropLast
          · split
            next hlast =>
              refine Or.inr ⟨here ++ [part], ?_, ?_⟩
              · rw [hlast.2]
              · rw [hnext.2 hlast.2]
            next => exact ih (here ++ [part])
    · rw [hbefore, hafter]
      exact Or.inl ⟨.notDirectory, rfl, rfl⟩

/-- A path leads to the same place. -/
theorem locate_cases (h : AgreeBeside l fs fs') (p : Path) :
    (∃ e, fs.locate p = .error e ∧ fs'.locate p = .error e) ∨
    ∃ there, fs.locate p = .ok (there, fs.get? there) ∧
      fs'.locate p = .ok (there, fs'.get? there) := by
  unfold FileSystem.locate
  split
  · exact Or.inl ⟨.notFound, rfl, rfl⟩
  · split
    · exact Or.inl ⟨.nulInPath, rfl, rfl⟩
    · split
      · exact Or.inl ⟨.nameTooLong, rfl, rfl⟩
      · exact h.follow_cases (Path.parts p) []

theorem isFile_eq (h : AgreeBeside l fs fs') (p : Path) : fs'.isFile p = fs.isFile p := by
  unfold FileSystem.isFile node?
  rcases h.locate_cases p with ⟨e, hbefore, hafter⟩ | ⟨there, hbefore, hafter⟩
  · rw [hbefore, hafter]
  · rw [hbefore, hafter]
    rcases h.get?_cases there with ⟨hnode, hnode'⟩ | ⟨hnode, hnode'⟩ |
      ⟨bytes, bytes', runnable, hnode, hnode', -⟩
    all_goals simp only [hnode, hnode']

theorem isDirectory_eq (h : AgreeBeside l fs fs') (p : Path) :
    fs'.isDirectory p = fs.isDirectory p := by
  unfold FileSystem.isDirectory node?
  rcases h.locate_cases p with ⟨e, hbefore, hafter⟩ | ⟨there, hbefore, hafter⟩
  · rw [hbefore, hafter]
  · rw [hbefore, hafter]
    rcases h.get?_cases there with ⟨hnode, hnode'⟩ | ⟨hnode, hnode'⟩ |
      ⟨bytes, bytes', runnable, hnode, hnode', -⟩
    all_goals simp [hnode, hnode']

/-! ### Reading -/

/-- What is read is the same, unless it is read from the hidden file. -/
theorem read_cases (h : AgreeBeside l fs fs') (p : Path) :
    (∃ e, fs.read p = .error e ∧ fs'.read p = .error e) ∨
    ∃ bytes bytes', fs.read p = .ok bytes ∧ fs'.read p = .ok bytes' ∧
      (¬ fs.LeadsTo p l → bytes' = bytes) := by
  unfold FileSystem.read
  rcases h.locate_cases p with ⟨e, hbefore, hafter⟩ | ⟨there, hbefore, hafter⟩
  · rw [hbefore, hafter]
    exact Or.inl ⟨e, rfl, rfl⟩
  · rw [hbefore, hafter]
    rcases h.get?_cases there with ⟨hnode, hnode'⟩ | ⟨hnode, hnode'⟩ |
      ⟨bytes, bytes', runnable, hnode, hnode', hbytes⟩
    · rw [hnode, hnode']
      exact Or.inl ⟨.notFound, rfl, rfl⟩
    · rw [hnode, hnode']
      exact Or.inl ⟨.isDirectory, rfl, rfl⟩
    · rw [hnode, hnode']
      refine Or.inr ⟨bytes, bytes', rfl, rfl, fun hother => hbytes ?_⟩
      rintro rfl
      exact hother ⟨_, hbefore⟩

theorem read_eq (h : AgreeBeside l fs fs') {p : Path} (hother : ¬ fs.LeadsTo p l) :
    fs'.read p = fs.read p := by
  rcases h.read_cases p with ⟨e, hbefore, hafter⟩ | ⟨bytes, bytes', hbefore, hafter, hbytes⟩
  · rw [hbefore, hafter]
  · rw [hbefore, hafter, hbytes hother]

/-- The last lines are the same, unless they are read from the hidden file. -/
theorem lastLines_cases (h : AgreeBeside l fs fs') (p : Path) (n : Nat) :
    (∃ e, fs.lastLines p n = .error e ∧ fs'.lastLines p n = .error e) ∨
    ∃ lines lines', fs.lastLines p n = .ok lines ∧ fs'.lastLines p n = .ok lines' ∧
      (¬ fs.LeadsTo p l → lines' = lines) := by
  unfold FileSystem.lastLines
  split
  · exact Or.inr ⟨[], [], rfl, rfl, fun _ => rfl⟩
  · rcases h.read_cases p with ⟨e, hbefore, hafter⟩ | ⟨bytes, bytes', hbefore, hafter, hbytes⟩
    · rw [hbefore, hafter]
      by_cases hmissing : e = .notFound
      · rw [hmissing]
        exact Or.inr ⟨[], [], rfl, rfl, fun _ => rfl⟩
      · refine Or.inl ⟨e, ?_, ?_⟩
        all_goals cases e <;> first | rfl | exact absurd rfl hmissing
    · rw [hbefore, hafter]
      refine Or.inr ⟨_, _, rfl, rfl, fun hother => ?_⟩
      rw [hbytes hother]

theorem lastLines_eq (h : AgreeBeside l fs fs') {p : Path} (hother : ¬ fs.LeadsTo p l) (n : Nat) :
    fs'.lastLines p n = fs.lastLines p n := by
  rcases h.lastLines_cases p n with ⟨e, hbefore, hafter⟩ | ⟨lines, lines', hbefore, hafter, hlines⟩
  · rw [hbefore, hafter]
  · rw [hbefore, hafter, hlines hother]

/-! ### Creating and opening -/

theorem go_cases (h : AgreeBeside l fs fs') (parts : List String) (here : Location) :
    (∃ e, createDirectories.go fs here parts = .error e ∧
      createDirectories.go fs' here parts = .error e) ∨
    ∃ made made', createDirectories.go fs here parts = .ok made ∧
      createDirectories.go fs' here parts = .ok made' ∧ AgreeBeside l made made' := by
  induction parts generalizing fs fs' here with
  | nil => exact Or.inr ⟨fs, fs', rfl, rfl, h⟩
  | cons part more ih =>
    unfold createDirectories.go
    split
    · exact Or.inl ⟨.nameTooLong, rfl, rfl⟩
    · split
      · exact ih h here
      · split
        · exact ih h here.dropLast
        · rcases h.get?_cases (here ++ [part]) with ⟨hnode, hnode'⟩ | ⟨hnode, hnode'⟩ |
            ⟨bytes, bytes', runnable, hnode, hnode', -⟩
          · simp only [hnode, hnode']
            exact ih (h.put (here ++ [part]) .directory) (here ++ [part])
          · simp only [hnode, hnode']
            exact ih h (here ++ [part])
          · simp only [hnode, hnode']
            exact Or.inl ⟨_, rfl, rfl⟩

theorem createDirectories_cases (h : AgreeBeside l fs fs') (p : Path) :
    (∃ e, fs.createDirectories p = .error e ∧ fs'.createDirectories p = .error e) ∨
    ∃ made made', fs.createDirectories p = .ok made ∧ fs'.createDirectories p = .ok made' ∧
      AgreeBeside l made made' := by
  unfold FileSystem.createDirectories
  split
  · exact Or.inr ⟨fs, fs', rfl, rfl, h⟩
  · split
    · exact Or.inl ⟨.nulInPath, rfl, rfl⟩
    · split
      · exact Or.inl ⟨.nameTooLong, rfl, rfl⟩
      · exact h.go_cases (Path.parts p) []

theorem openAppend_cases (h : AgreeBeside l fs fs') (p : Path) :
    (∃ e, fs.openAppend p = .error e ∧ fs'.openAppend p = .error e) ∨
    ∃ there made made', fs.openAppend p = .ok (there, made) ∧
      fs'.openAppend p = .ok (there, made') ∧ AgreeBeside l made made' := by
  unfold FileSystem.openAppend
  rcases h.locate_cases p with ⟨e, hbefore, hafter⟩ | ⟨there, hbefore, hafter⟩
  · rw [hbefore, hafter]
    exact Or.inl ⟨e, rfl, rfl⟩
  · rw [hbefore, hafter]
    rcases h.get?_cases there with ⟨hnode, hnode'⟩ | ⟨hnode, hnode'⟩ |
      ⟨bytes, bytes', runnable, hnode, hnode', -⟩
    · rw [hnode, hnode']
      exact Or.inr ⟨there, _, _, rfl, rfl, h.put there (.file [] false)⟩
    · rw [hnode, hnode']
      exact Or.inl ⟨.isDirectory, rfl, rfl⟩
    · rw [hnode, hnode']
      exact Or.inr ⟨there, fs, fs', rfl, rfl, h⟩

/-! ### The files of a launch -/

theorem ensureFile_agree (h : AgreeBeside l fs fs') (dir file : Path) :
    (fs'.ensureFile dir file).1 = (fs.ensureFile dir file).1 ∧
      AgreeBeside l (fs.ensureFile dir file).2 (fs'.ensureFile dir file).2 := by
  unfold FileSystem.ensureFile
  rcases h.createDirectories_cases dir with ⟨e, hbefore, hafter⟩ |
    ⟨made, made', hbefore, hafter, hmade⟩
  · rw [hbefore, hafter]
    exact ⟨rfl, h⟩
  · simp only [hbefore, hafter]
    rcases hmade.openAppend_cases file with ⟨e, hopen, hopen'⟩ |
      ⟨there, opened, opened', hopen, hopen', hopened⟩
    · rw [hopen, hopen']
      exact ⟨rfl, hmade⟩
    · rw [hopen, hopen']
      exact ⟨rfl, hopened⟩

theorem ensureOwnerFiles_agree (h : AgreeBeside l fs fs') (owner : String) (dirs : List Path) :
    (fs'.ensureOwnerFiles owner dirs).1 = (fs.ensureOwnerFiles owner dirs).1 ∧
      AgreeBeside l (fs.ensureOwnerFiles owner dirs).2 (fs'.ensureOwnerFiles owner dirs).2 := by
  induction dirs generalizing fs fs' with
  | nil => exact ⟨rfl, h⟩
  | cons dir dirs ih =>
    unfold FileSystem.ensureOwnerFiles
    obtain ⟨hresult, hmade⟩ := h.ensureFile_agree dir (ownerFile dir owner)
    cases hbefore : fs.ensureFile dir (ownerFile dir owner) with
    | mk result made =>
      cases hafter : fs'.ensureFile dir (ownerFile dir owner) with
      | mk result' made' =>
        rw [hbefore, hafter] at hresult hmade
        subst hresult
        cases result' with
        | error e => exact ⟨rfl, hmade⟩
        | ok done => exact ih hmade

theorem checkSpawn_eq (h : AgreeBeside l fs fs') (commandLine : List String) :
    fs'.checkSpawn commandLine = fs.checkSpawn commandLine := by
  unfold FileSystem.checkSpawn
  split
  · rfl
  · rcases h.locate_cases (commandLine.headD "") with ⟨e, hbefore, hafter⟩ |
      ⟨there, hbefore, hafter⟩
    · rw [hbefore, hafter]
    · rw [hbefore, hafter]
      rcases h.get?_cases there with ⟨hnode, hnode'⟩ | ⟨hnode, hnode'⟩ |
        ⟨bytes, bytes', runnable, hnode, hnode', -⟩
      · rw [hnode, hnode']
      · rw [hnode, hnode']
      · rw [hnode, hnode']
        cases runnable <;> rfl

theorem openLog_agree (h : AgreeBeside l fs fs') (p : Path) (banner : String) :
    (fs'.openLog p banner).1 = (fs.openLog p banner).1 ∧
      AgreeBeside l (fs.openLog p banner).2 (fs'.openLog p banner).2 := by
  unfold FileSystem.openLog
  rcases h.createDirectories_cases ((Path.parent? p).getD "") with ⟨e, hbefore, hafter⟩ |
    ⟨made, made', hbefore, hafter, hmade⟩
  · rw [hbefore, hafter]
    exact ⟨rfl, h⟩
  · simp only [hbefore, hafter]
    rcases hmade.openAppend_cases p with ⟨e, hopen, hopen'⟩ |
      ⟨there, opened, opened', hopen, hopen', hopened⟩
    · rw [hopen, hopen']
      exact ⟨rfl, hmade⟩
    · rw [hopen, hopen']
      exact ⟨rfl, hopened.appendAt there _⟩

end AgreeBeside

end FileSystem

/-! ### Launch specifications -/

namespace BuildContext

variable {l : Location} {b : BuildContext} {files : FileSystem}

theorem readConfig_congr (h : b.files.AgreeBeside l files) (value : String) :
    LaunchDraft.readConfig { b with files := files } value = LaunchDraft.readConfig b value := by
  unfold LaunchDraft.readConfig
  simp only [h.isFile_eq]

/-- The main game file of a value depends on the configuration alone. -/
theorem readIwad_congr {b b' : BuildContext} (hconfig : b'.config = b.config) (value : String) :
    LaunchDraft.readIwad b' value = LaunchDraft.readIwad b value := by
  unfold LaunchDraft.readIwad
  rw [hconfig]

/-- Of all options only that for a configuration file looks at files. -/
theorem apply_congr (h : b.files.AgreeBeside l files) (d : LaunchDraft) (key value : String) :
    d.apply { b with files := files } key value = d.apply b key value := by
  have hiwad : LaunchDraft.readIwad { b with files := files } value =
      LaunchDraft.readIwad b value := readIwad_congr (by rfl) value
  unfold LaunchDraft.apply
  cases LaunchDraft.OptionKind.ofKey key with
  | config => simp only [readConfig_congr h]
  | iwad => simp only [hiwad]
  | version => simp only [LaunchDraft.readVersion]
  | gamemode => simp only [LaunchDraft.readGamemode]
  | port => simp only [LaunchDraft.readPort]
  | _ => rfl

theorem applyAll_congr (h : b.files.AgreeBeside l files) (options : OptionList)
    (d : LaunchDraft) :
    d.applyAll { b with files := files } options = d.applyAll b options := by
  induction options generalizing d with
  | nil => rfl
  | cons option options ih =>
    obtain ⟨key, value⟩ := option
    simp only [LaunchDraft.applyAll, apply_congr h, ih]

theorem digests_congr (h : b.files.AgreeBeside l files) {wads : List WadRef}
    (hwads : ∀ wad ∈ wads, ¬ b.files.LeadsTo (b.config.resolveWad wad) l) :
    digests { b with files := files } wads = b.digests wads := by
  induction wads with
  | nil => rfl
  | cons wad wads ih =>
    have hread := h.read_eq (hwads wad List.mem_cons_self)
    have hrest := ih fun other hother => hwads other (List.mem_cons_of_mem _ hother)
    unfold digests
    simp only [hread, hrest]

/-- The game files besides the main one that a request names. -/
def namedWads (b : BuildContext) (options : OptionList) (port : Option UInt16) : List WadRef :=
  match (LaunchDraft.start port).applyAll b options with
  | .ok d => d.wads ++ d.optionalWads.map WadRef.wad
  | .error _ => []

theorem finish_congr (h : b.files.AgreeBeside l files) {d : LaunchDraft}
    (hwads : ∀ wad ∈ d.wads ++ d.optionalWads.map WadRef.wad,
      ¬ b.files.LeadsTo (b.config.resolveWad wad) l) (owner : String) (level : AccountLevel)
    (options : OptionList) (recovering : Bool) (id : String) :
    finish { b with files := files } owner level options recovering id d =
      b.finish owner level options recovering id d := by
  have hmissing : ∀ wads, missing? { b with files := files } wads = b.missing? wads := by
    intro wads
    simp only [missing?, h.isFile_eq]
  have hblacklist : checkBlacklist { b with files := files }
      (d.wads ++ d.optionalWads.map WadRef.wad) =
      b.checkBlacklist (d.wads ++ d.optionalWads.map WadRef.wad) := by
    simp only [checkBlacklist, digests_congr h hwads]
  have hhostname : hostnameOf { b with files := files } owner d = b.hostnameOf owner d := rfl
  simp only [finish, hmissing, hblacklist, hhostname, h.isFile_eq]

/-- A launch specification depends on the kinds of files, and on the bytes of no file but the game
    files that the request names. -/
theorem build_congr (h : b.files.AgreeBeside l files) {options : OptionList} {port : Option UInt16}
    (hwads : ∀ wad ∈ b.namedWads options port, ¬ b.files.LeadsTo (b.config.resolveWad wad) l)
    (owner : String) (level : AccountLevel) (recovering : Bool) (id : String) :
    build { b with files := files } owner level options port recovering id =
      b.build owner level options port recovering id := by
  unfold build
  unfold namedWads at hwads
  rw [applyAll_congr h]
  cases happly : (LaunchDraft.start port).applyAll b options with
  | error e => simp only [bind, Except.bind]
  | ok d =>
    rw [happly] at hwads
    exact finish_congr h hwads owner level options recovering id

end BuildContext

end HostDaemon
