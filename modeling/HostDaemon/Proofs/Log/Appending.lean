import HostDaemon.Proofs.Requests.Files

/-! # Files that are appended to

  A log file is opened again for every run. Its directories are created where they are missing, and
  what is written comes behind what was there.

  - `FileSystem.IsLog` says that a path leads to a file that can be opened and written to, again and
    again: `FileSystem.IsLog.openLog` opens it, and `FileSystem.IsLog.appendAt` keeps it so.
  - `FileSystem.isLog_openLog` says that the first opening makes a log of what was there, and
    `FileSystem.IsLog.read` that a log is read as it was written. -/

namespace HostDaemon

namespace FileSystem

variable {fs fs' other : FileSystem} {path : Path} {log l : Location} {banner : String}

/-- The bytes of the file at a location, where there is one. -/
def bytesAt (fs : FileSystem) (l : Location) : List UInt8 :=
  match fs.get? l with
  | some (.file bytes _) => bytes
  | _ => []

/-- Everything is still there, and what is new are directories. -/
def Extends (fs fs' : FileSystem) : Prop :=
  ∀ l, fs'.get? l = fs.get? l ∨ fs.get? l = none ∧ fs'.get? l = some .directory

theorem extends_put_directory (hnone : fs.get? l = none) : Extends fs (fs.put l .directory) := by
  intro here
  rw [get?_put]
  by_cases hroot : here = []
  · subst hroot
    exact .inl rfl
  · rw [if_neg hroot]
    by_cases hsame : here = l
    · rw [if_pos hsame, hsame]
      exact .inr ⟨hnone, rfl⟩
    · rw [if_neg hsame]
      exact .inl rfl

theorem Extends.trans {fs'' : FileSystem} (h : Extends fs fs') (h' : Extends fs' fs'') :
    Extends fs fs'' := by
  intro l
  rcases h l with hsame | ⟨hnone, hnew⟩
  · rcases h' l with hsame' | ⟨hnone', hnew'⟩
    · exact .inl (hsame'.trans hsame)
    · exact .inr ⟨hsame ▸ hnone', hnew'⟩
  · rcases h' l with hsame' | ⟨hnone', -⟩
    · exact .inr ⟨hnone, hsame'.trans hnew⟩
    · rw [hnew] at hnone'
      cases hnone'

/-- A file and what is missing was there before, or was missing. -/
theorem Extends.bytesAt_eq (h : Extends fs fs') (hfile : fs'.get? l ≠ some .directory) :
    fs'.bytesAt l = fs.bytesAt l := by
  rcases h l with hsame | ⟨-, hnew⟩
  · rw [bytesAt, hsame, bytesAt]
  · exact absurd hnew hfile

/-- Creating directories creates nothing else. -/
theorem extends_go {parts : List String} {here : Location}
    (h : createDirectories.go fs here parts = .ok fs') : Extends fs fs' := by
  induction parts generalizing fs here with
  | nil =>
    cases h
    exact fun l => .inl rfl
  | cons part more ih =>
    rw [createDirectories.go] at h
    split at h
    · cases h
    · split at h
      · exact ih h
      · split at h
        · exact ih h
        · dsimp only at h
          split at h
          next hnone => exact (extends_put_directory hnone).trans (ih h)
          next => exact ih h
          next => cases h

/-- Where the directories are that were created nothing is to be done. -/
theorem go_again {parts : List String} {here : Location}
    (h : createDirectories.go fs here parts = .ok fs')
    (hdirectories : ∀ l, fs'.get? l = some .directory → other.get? l = some .directory) :
    createDirectories.go other here parts = .ok other := by
  induction parts generalizing fs here with
  | nil => rfl
  | cons part more ih =>
    rw [createDirectories.go] at h ⊢
    split at h
    · cases h
    next hlength =>
      rw [if_neg hlength]
      split at h
      next hvoid =>
        rw [if_pos hvoid]
        exact ih h
      next hvoid =>
        rw [if_neg hvoid]
        split at h
        next hup =>
          rw [if_pos hup]
          exact ih h
        next hup =>
          rw [if_neg hup]
          -- Whatever the next part was before, afterwards there is a directory.
          have hnext : ∀ made : FileSystem, made.get? (here ++ [part]) = some .directory →
              createDirectories.go made (here ++ [part]) more = .ok fs' →
              other.get? (here ++ [part]) = some .directory := by
            intro made hmade hgo
            apply hdirectories
            rcases extends_go hgo (here ++ [part]) with hsame | ⟨hnone, -⟩
            · exact hsame.trans hmade
            · rw [hmade] at hnone
              cases hnone
          dsimp only at h ⊢
          split at h
          next hnone =>
            have hput : (fs.put (here ++ [part]) .directory).get? (here ++ [part]) =
                some .directory := by
              rw [get?_put]
              simp
            rw [hnext _ hput h]
            exact ih h
          next hfound =>
            rw [hnext _ hfound h]
            exact ih h
          next => cases h

/-- Creating directories creates nothing else, and again it does nothing, even where other things
    have changed. -/
theorem createDirectories_cases_of_ok (h : fs.createDirectories path = .ok fs') :
    Extends fs fs' ∧ ∀ other : FileSystem,
      (∀ l, fs'.get? l = some .directory → other.get? l = some .directory) →
      other.createDirectories path = .ok other := by
  unfold createDirectories at h
  split at h
  next hempty =>
    cases h
    refine ⟨fun l => .inl rfl, fun other hdirectories => ?_⟩
    rw [createDirectories, if_pos hempty]
  next hempty =>
    split at h
    · cases h
    next hnul =>
      split at h
      · cases h
      next hlength =>
        refine ⟨extends_go h, fun other hdirectories => ?_⟩
        rw [createDirectories, if_neg hempty, if_neg hnul, if_neg hlength]
        exact go_again h hdirectories

/-- What a path leads to is what is there. -/
theorem get?_of_locate {node : Option FileNode} (h : fs.locate path = .ok (l, node)) :
    fs.get? l = node := by
  rcases (AgreeBeside.refl [] fs).locate_cases path with ⟨e, herror, -⟩ | ⟨there, hok, -⟩
  · rw [herror] at h
    cases h
  · rw [hok] at h
    cases h
    rfl

/-- A path that leads to nothing leads to a file that is put there. -/
theorem follow_put {parts : List String} {here : Location} {node : FileNode} (hl : l ≠ [])
    (h : fs.follow here parts = .ok (l, none)) :
    (fs.put l node).follow here parts = .ok (l, some node) := by
  have hput : (fs.put l node).get? l = some node := by
    rw [get?_put, if_neg hl, if_pos rfl]
  have hnone : fs.get? l = none := by
    rcases (AgreeBeside.refl [] fs).follow_cases parts here with ⟨e, herror, -⟩ | ⟨there, hok, -⟩
    · rw [herror] at h
      cases h
    · rw [hok, Except.ok.injEq, Prod.mk.injEq] at h
      rw [← h.1, h.2]
  have hkept : ∀ here, fs.get? here ≠ none → (fs.put l node).get? here = fs.get? here := by
    intro here hsome
    rw [get?_put]
    split
    next hroot => rw [hroot, get?, if_pos rfl]
    next =>
      rw [if_neg]
      rintro rfl
      exact hsome hnone
  induction parts generalizing here with
  | nil =>
    rw [follow, Except.ok.injEq, Prod.mk.injEq] at h
    obtain ⟨rfl, -⟩ := h
    rw [follow, hput]
  | cons part more ih =>
    rw [follow] at h ⊢
    cases hhere : fs.get? here with
    | none =>
      rw [hhere] at h
      cases h
    | some there =>
      rw [hkept here (by rw [hhere]; exact Option.some_ne_none _), hhere]
      rw [hhere] at h
      cases there with
      | file bytes runnable => cases h
      | directory =>
        dsimp only at h ⊢
        split at h
        · cases h
        next hlength =>
          rw [if_neg hlength]
          split at h
          next hvoid =>
            rw [if_pos hvoid]
            exact ih h
          next hvoid =>
            rw [if_neg hvoid]
            split at h
            next hup =>
              rw [if_pos hup]
              exact ih h
            next hup =>
              rw [if_neg hup]
              split at h
              next hlast =>
                -- Here is the place where the file is put.
                rw [Except.ok.injEq, Prod.mk.injEq] at h
                obtain ⟨rfl, -⟩ := h
                rw [hput, if_neg (by simp), hlast.1, follow, hput]
              next hnext =>
                have hmore : ¬(more = [] ∧ (fs.put l node).get? (here ++ [part]) = none) := by
                  rintro ⟨hend, hmissing⟩
                  apply hnext
                  refine ⟨hend, ?_⟩
                  by_contra hfound
                  rw [hkept _ hfound] at hmissing
                  exact hfound hmissing
                rw [if_neg hmore]
                exact ih h

/-- A file at the end of a path can be opened and written to, again and again. -/
structure IsLog (fs : FileSystem) (path : Path) (log : Location) : Prop where
  /-- The directories around it are there. -/
  directories : fs.createDirectories ((Path.parent? path).getD "") = .ok fs
  /-- The path leads to a file. -/
  file : ∃ bytes runnable, fs.locate path = .ok (log, some (.file bytes runnable))

theorem IsLog.openLog (h : fs.IsLog path log) (banner : String) :
    fs.openLog path banner = (.ok log, fs.appendAt log (Text.Utf8.bytesOf banner)) := by
  obtain ⟨bytes, runnable, hlocate⟩ := h.file
  simp only [FileSystem.openLog, h.directories, openAppend, hlocate]

/-- What is written comes after what was there, and the file stays a log. -/
theorem IsLog.appendAt (h : fs.IsLog path log) (bytes : List UInt8) :
    (fs.appendAt log bytes).IsLog path log ∧
      (fs.appendAt log bytes).bytesAt log = fs.bytesAt log ++ bytes := by
  obtain ⟨old, runnable, hlocate⟩ := h.file
  have hfile : fs.get? log = some (.file old runnable) := get?_of_locate hlocate
  have hlog : log ≠ [] := by
    rintro rfl
    rw [get?, if_pos rfl] at hfile
    cases hfile
  have happend : fs.appendAt log bytes = fs.put log (.file (old ++ bytes) runnable) := by
    rw [FileSystem.appendAt, hfile]
  have hget : ∀ here, (fs.appendAt log bytes).get? here =
      if here = log then some (.file (old ++ bytes) runnable) else fs.get? here := by
    intro here
    rw [happend, get?_put]
    by_cases hroot : here = []
    · rw [if_pos hroot, if_neg (by rw [hroot]; exact Ne.symm hlog), hroot, get?, if_pos rfl]
    · rw [if_neg hroot]
  have hagree : AgreeBeside log fs (fs.appendAt log bytes) := by
    constructor
    · intro here
      rw [hget]
      split
      next heq => rw [heq, hfile]; rfl
      next => rfl
    · intro here hne
      rw [hget, if_neg hne]
  refine ⟨⟨?_, old ++ bytes, runnable, ?_⟩, ?_⟩
  · obtain ⟨-, hagain⟩ := createDirectories_cases_of_ok h.directories
    apply hagain
    intro here hdirectory
    rw [hget, if_neg, hdirectory]
    rintro rfl
    rw [hfile] at hdirectory
    cases hdirectory
  · rcases hagree.locate_cases path with ⟨e, herror, -⟩ | ⟨there, hok, hok'⟩
    · rw [herror] at hlocate
      cases hlocate
    · rw [hok, Except.ok.injEq, Prod.mk.injEq] at hlocate
      obtain ⟨rfl, -⟩ := hlocate
      rw [hok', hget, if_pos rfl]
  · rw [bytesAt, hget, if_pos rfl, bytesAt, hfile]

/-- Opening a log makes it one, and writes the banner behind what was there. -/
theorem isLog_openLog (h : fs.openLog path banner = (.ok log, fs')) :
    fs'.IsLog path log ∧ fs'.bytesAt log = fs.bytesAt log ++ Text.Utf8.bytesOf banner := by
  unfold FileSystem.openLog at h
  cases hcreate : fs.createDirectories ((Path.parent? path).getD "") with
  | error e =>
    rw [hcreate] at h
    cases h
  | ok made =>
    rw [hcreate] at h
    obtain ⟨hextends, hagain⟩ := createDirectories_cases_of_ok hcreate
    have hself : made.createDirectories ((Path.parent? path).getD "") = .ok made :=
      hagain made fun _ hdirectory => hdirectory
    simp only [openAppend] at h
    cases hlocate : made.locate path with
    | error e =>
      rw [hlocate] at h
      cases h
    | ok found =>
      obtain ⟨l, node⟩ := found
      have hnode : made.get? l = node := get?_of_locate hlocate
      rw [hlocate] at h
      match node with
      | some .directory => cases h
      | some (.file old runnable) =>
        cases h
        have hlog : made.IsLog path log := ⟨hself, old, runnable, hlocate⟩
        obtain ⟨hkept, hbytes⟩ := hlog.appendAt (Text.Utf8.bytesOf banner)
        refine ⟨hkept, ?_⟩
        rw [hbytes, hextends.bytesAt_eq]
        rw [hnode]
        simp
      | none =>
        cases h
        have hroot : log ≠ [] := by
          rintro rfl
          rw [get?, if_pos rfl] at hnode
          cases hnode
        -- The new file is at the end of the path, and no directory is missing now.
        have hlog : (made.put log (.file [] false)).IsLog path log := by
          refine ⟨hagain _ ?_, [], false, ?_⟩
          · intro here hdirectory
            rw [get?_put]
            split
            · rfl
            · rw [if_neg]
              · exact hdirectory
              · rintro rfl
                rw [hnode] at hdirectory
                cases hdirectory
          · unfold locate at hlocate ⊢
            split at hlocate
            · cases hlocate
            next hempty =>
              rw [if_neg hempty]
              split at hlocate
              · cases hlocate
              next hnul =>
                rw [if_neg hnul]
                split at hlocate
                · cases hlocate
                next hlength =>
                  rw [if_neg hlength]
                  exact follow_put hroot hlocate
        obtain ⟨hkept, hbytes⟩ := hlog.appendAt (Text.Utf8.bytesOf banner)
        refine ⟨hkept, ?_⟩
        have hbefore : fs.bytesAt log = [] := by
          rw [← hextends.bytesAt_eq (by rw [hnode]; simp), bytesAt, hnode]
        have hnew : (made.put log (.file [] false)).bytesAt log = [] := by
          rw [bytesAt, get?_put, if_neg hroot, if_pos rfl]
        rw [hbytes, hnew, hbefore]

/-- A log is read as it is. -/
theorem IsLog.read (h : fs.IsLog path log) : fs.read path = .ok (fs.bytesAt log) := by
  obtain ⟨bytes, runnable, hlocate⟩ := h.file
  rw [FileSystem.read, hlocate, bytesAt, get?_of_locate hlocate]

end FileSystem

end HostDaemon
