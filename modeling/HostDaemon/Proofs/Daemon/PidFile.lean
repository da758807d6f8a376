import HostDaemon.Daemon.PidFile
import HostDaemon.Proofs.FileSystem
import HostDaemon.Proofs.Number.Decimal
import HostDaemon.Proofs.Requests.Files
import HostDaemon.Proofs.Text.Blank
import HostDaemon.Proofs.Text.Utf8

/-! # What the pid file says

  The operations on the files of a data directory, as far as the pid file tells of them. They create
  and remove files and no directories, so that every path leads where it led before.

  - `DataDirectory.namedPid?_eq` says that the pid file names a process by its bytes alone, and
    `DataDirectory.pidOf?_digits` that it names whoever has written its identifier into it.
  - `FileSystem.createNew_eq_ok`, `DataDirectory.node?_writePid`,
    `DataDirectory.namedPid?_discard_pidFile` and `DataDirectory.node?_discard_socketFile` say what
    is at its place after each of the operations. -/

namespace HostDaemon

namespace FileSystem

variable {fs fs' : FileSystem} {here l there : Location} {parts : List String} {p : Path}
  {node : Option FileNode}

/-! ### Files that come and go -/

theorem get?_erase (fs : FileSystem) (there here : Location) :
    (fs.erase there).get? here =
      if here = [] then some .directory else if here = there then none else fs.get? here := by
  unfold get? erase
  by_cases hroot : here = []
  · simp [hroot]
  · rw [if_neg hroot, if_neg hroot, if_neg hroot]
    exact lookup_without fs.entries there here

/-- The same locations hold directories. -/
def SameDirectories (fs fs' : FileSystem) : Prop :=
  ∀ l, fs'.get? l = some .directory ↔ fs.get? l = some .directory

theorem SameDirectories.symm (h : SameDirectories fs fs') : SameDirectories fs' fs :=
  fun l => (h l).symm

theorem sameDirectories_put (hfree : fs.get? l ≠ some .directory) (bytes : List UInt8)
    (runnable : Bool) : SameDirectories fs (fs.put l (.file bytes runnable)) := by
  intro here
  rw [get?_put]
  split
  next hroot => simp [hroot, get?]
  next =>
    split
    next hsame =>
      subst hsame
      simp [hfree]
    next => exact Iff.rfl

theorem sameDirectories_erase (hfree : fs.get? l ≠ some .directory) :
    SameDirectories fs (fs.erase l) := by
  intro here
  rw [get?_erase]
  split
  next hroot => simp [hroot, get?]
  next =>
    split
    next hsame =>
      subst hsame
      simp [hfree]
    next => exact Iff.rfl

/-- Parts lead where they led, whatever files came and went. -/
theorem SameDirectories.follow (h : SameDirectories fs fs')
    (hfollow : fs.follow here parts = .ok (there, node)) :
    fs'.follow here parts = .ok (there, fs'.get? there) := by
  induction parts generalizing here with
  | nil =>
    cases hfollow
    rfl
  | cons part more ih =>
    rw [FileSystem.follow] at hfollow
    split at hfollow
    next => cases hfollow
    next => cases hfollow
    next hhere =>
      rw [FileSystem.follow, (h here).2 hhere]
      simp only
      split at hfollow
      next => cases hfollow
      next hsize =>
        rw [if_neg hsize]
        split at hfollow
        next hvoid =>
          rw [if_pos hvoid]
          exact ih hfollow
        next hvoid =>
          rw [if_neg hvoid]
          split at hfollow
          next hup =>
            rw [if_pos hup]
            exact ih hfollow
          next hup =>
            rw [if_neg hup]
            dsimp only at hfollow
            split at hfollow
            next hlast =>
              -- The last part may have come to name a file.
              cases hfollow
              rw [hlast.1]
              split
              next hnone => rw [hnone.2]
              next => rfl
            next =>
              split
              next hlast =>
                -- The last part may name a file no more.
                rw [hlast.1, FileSystem.follow] at hfollow
                cases hfollow
                rw [hlast.2]
              next => exact ih hfollow

/-- What a path leads to is what is there. -/
theorem node_of_locate (hlocate : fs.locate p = .ok (there, node)) : node = fs.get? there := by
  unfold locate at hlocate
  repeat' split at hlocate
  all_goals first
    | cases hlocate
    | exact (isBranch_root.follow hlocate).2

theorem SameDirectories.locate (h : SameDirectories fs fs')
    (hlocate : fs.locate p = .ok (there, node)) :
    fs'.locate p = .ok (there, fs'.get? there) := by
  unfold FileSystem.locate at hlocate ⊢
  split at hlocate
  next => cases hlocate
  next hempty =>
    rw [if_neg hempty]
    split at hlocate
    next => cases hlocate
    next hnul =>
      rw [if_neg hnul]
      split at hlocate
      next => cases hlocate
      next hlong =>
        rw [if_neg hlong]
        exact h.follow hlocate

/-- A path names what it named where nothing changes at the place to which it leads. -/
theorem SameDirectories.node?_eq (h : SameDirectories fs fs')
    (hsame : ∀ l, fs.LeadsTo p l → fs'.get? l = fs.get? l) : fs'.node? p = fs.node? p := by
  unfold node?
  cases hlocate : fs.locate p with
  | ok found =>
    obtain ⟨there, node⟩ := found
    rw [h.locate hlocate, hsame there ⟨node, hlocate⟩, node_of_locate hlocate]
  | error e =>
    cases hlocate' : fs'.locate p with
    | ok found =>
      obtain ⟨there, node⟩ := found
      rw [h.symm.locate hlocate'] at hlocate
      cases hlocate
    | error e' => rfl

/-- A path that ends with a plain name leads to a location that ends with it. -/
theorem leadsTo_join {dir : Path} {name : String} (hlead : fs.LeadsTo (Path.join dir name) l)
    (hname : '/' ∉ name.toList) (hvoid : Path.isVoid name = false) (hup : name ≠ "..") :
    ∃ above, l = above ++ [name] := by
  obtain ⟨node, hlocate⟩ := hlead
  obtain ⟨before, hparts, -⟩ := Path.parts_join hname dir
  have hfollow : fs.follow [] (before ++ [name]) = .ok (l, node) := by
    unfold locate at hlocate
    repeat' split at hlocate
    all_goals first | cases hlocate | rw [← hparts, hlocate]
  rw [follow_append] at hfollow
  cases hbefore : fs.follow [] before with
  | error e =>
    rw [hbefore] at hfollow
    cases hfollow
  | ok found =>
    obtain ⟨above, node'⟩ := found
    rw [hbefore] at hfollow
    refine ⟨above, ?_⟩
    simp only [follow, hvoid, hup, Bool.false_eq_true, if_false, true_and] at hfollow
    repeat' split at hfollow
    all_goals cases hfollow
    all_goals rfl

/-! ### Operations on a file -/

/-- A file that is created was not there. -/
theorem createNew_eq_ok {bytes : List UInt8} (hcreate : fs.createNew p bytes = .ok fs') :
    fs.node? p = none ∧ fs'.node? p = some (.file bytes false) := by
  unfold createNew at hcreate
  cases hlocate : fs.locate p with
  | error e =>
    rw [hlocate] at hcreate
    cases hcreate
  | ok found =>
    obtain ⟨there, node⟩ := found
    rw [hlocate] at hcreate
    cases node with
    | some node => cases hcreate
    | none =>
      cases hcreate
      have hfree := node_of_locate hlocate
      have hroot : there ≠ [] := by
        rintro rfl
        cases hfree
      refine ⟨by simp [node?, hlocate], ?_⟩
      rw [node?, (sameDirectories_put (by simp [← hfree]) bytes false).locate hlocate]
      simp [get?_put, hroot]

/-- Removing a file takes it away and nothing else. -/
theorem discard_cases (fs : FileSystem) (p : Path) :
    (DataDirectory.discard fs p = fs ∧ ∀ bytes runnable, fs.node? p ≠ some (.file bytes runnable)) ∨
      ∃ there bytes runnable, fs.locate p = .ok (there, some (.file bytes runnable)) ∧
        DataDirectory.discard fs p = fs.erase there := by
  unfold DataDirectory.discard removeFile node?
  cases hlocate : fs.locate p with
  | error e => exact Or.inl ⟨rfl, by simp⟩
  | ok found =>
    obtain ⟨there, node⟩ := found
    rcases node with - | - | ⟨bytes, runnable⟩
    · exact Or.inl ⟨rfl, by simp⟩
    · exact Or.inl ⟨rfl, by simp⟩
    · exact Or.inr ⟨there, bytes, runnable, rfl, rfl⟩

/-- Where a file was removed another can be created. -/
theorem locate_discard {bytes : List UInt8} {runnable : Bool}
    (hnode : fs.node? p = some (.file bytes runnable)) :
    ∃ there, (DataDirectory.discard fs p).locate p = .ok (there, none) := by
  rcases fs.discard_cases p with ⟨-, hnone⟩ | ⟨there, bytes, runnable, hlocate, hdiscard⟩
  · exact absurd hnode (hnone bytes runnable)
  · have hfile := node_of_locate hlocate
    have hroot : there ≠ [] := by
      rintro rfl
      cases hfile
    refine ⟨there, ?_⟩
    rw [hdiscard, (sameDirectories_erase (by simp [← hfile])).locate hlocate]
    simp [get?_erase, hroot]

/-- Removing a file leaves the files at all other places. -/
theorem node?_discard {q : Path} (hother : ∀ l, fs.LeadsTo q l → ¬ fs.LeadsTo p l) :
    (DataDirectory.discard fs p).node? q = fs.node? q := by
  rcases fs.discard_cases p with ⟨hdiscard, -⟩ | ⟨there, bytes, runnable, hlocate, hdiscard⟩
  · rw [hdiscard]
  · have hfile := node_of_locate hlocate
    rw [hdiscard]
    refine (sameDirectories_erase (by simp [← hfile])).node?_eq fun l hlead => ?_
    rw [get?_erase]
    split
    next hroot => simp [hroot, get?]
    next =>
      rw [if_neg]
      rintro rfl
      exact hother l hlead ⟨_, hlocate⟩

end FileSystem

/-! ### Identifiers in the pid file -/

namespace DataDirectory

variable {d : DataDirectory} {fs fs' : FileSystem}

/-- The process that some bytes name. -/
def pidOf? (bytes : List UInt8) : Option UInt32 :=
  (Text.Utf8.decode? bytes).bind fun cs => Number.readUInt32? (Text.trim (String.ofList cs))

/-- The pid file names a process by its bytes. -/
theorem namedPid?_eq (d : DataDirectory) (fs : FileSystem) :
    d.namedPid? fs =
      match fs.node? d.pidFile with
      | some (.file bytes _) => pidOf? bytes
      | _ => none := by
  unfold namedPid? FileSystem.readText FileSystem.read FileSystem.node? pidOf?
  cases fs.locate d.pidFile with
  | error e => rfl
  | ok found =>
    obtain ⟨there, node⟩ := found
    rcases node with - | - | ⟨bytes, runnable⟩
    · rfl
    · rfl
    · simp only
      cases Text.Utf8.decode? bytes with
      | none => rfl
      | some cs => simp only [Option.bind_some]

/-- A pid file into which nothing is written names nobody. -/
theorem pidOf?_nil : pidOf? [] = none := by decide

/-- An identifier that is written into the pid file is read from it. -/
theorem pidOf?_digits (pid : UInt32) : pidOf? (Text.Utf8.bytesOf (toString pid)) = some pid := by
  have hchars : (toString pid).toList = Nat.toDigits 10 pid.toNat := by
    change (toString pid.toNat).toList = _
    simp [toString]
  have hdigits : ∀ c ∈ (toString pid).toList, c.isDigit = true := by
    intro c hc
    rw [hchars] at hc
    exact Nat.isDigit_of_mem_toDigits (by decide) (by decide) hc
  have hblank : ∀ c ∈ (toString pid).toList, Text.isBlank c = false :=
    fun c hc => Text.isBlank_of_isDigit (hdigits c hc)
  rw [pidOf?, Text.Utf8.bytesOf, Text.Utf8.decode?_eq_some_iff.2 rfl, Option.bind_some,
    String.ofList_toList, Text.trim, Text.trimBlank_eq_self hblank, String.ofList_toList,
    Number.readUInt32?_toString]

/-! ### The pid file -/

/-- The pid file and the socket are at different places. -/
theorem leadsTo_apart {l : Location} (hpid : fs.LeadsTo d.pidFile l) :
    ¬ fs.LeadsTo d.socketFile l := by
  intro hsocket
  obtain ⟨above, rfl⟩ := FileSystem.leadsTo_join hpid (by decide) (by decide) (by decide)
  obtain ⟨above', heq⟩ := FileSystem.leadsTo_join hsocket (by decide) (by decide) (by decide)
  have hlast := congrArg List.getLast? heq
  simp at hlast

/-- Where there is no pid file nobody is named. -/
theorem namedPid?_of_locate {l : Location} (hfree : fs.locate d.pidFile = .ok (l, none)) :
    d.namedPid? fs = none := by
  rw [namedPid?_eq, FileSystem.node?, hfree]

/-- Taking the pid file away leaves nobody named, where it can be. -/
theorem namedPid?_discard_pidFile (d : DataDirectory) (fs : FileSystem) :
    d.namedPid? (discard fs d.pidFile) = d.namedPid? fs ∨
      d.namedPid? (discard fs d.pidFile) = none := by
  rcases fs.discard_cases d.pidFile with ⟨hsame, -⟩ | ⟨there, bytes, runnable, hlocate, -⟩
  · exact Or.inl (by rw [hsame])
  · have hnode : fs.node? d.pidFile = some (.file bytes runnable) := by
      rw [FileSystem.node?, hlocate]
    obtain ⟨l, hfree⟩ := FileSystem.locate_discard hnode
    exact Or.inr (namedPid?_of_locate hfree)

/-- Taking the socket away leaves the pid file as it is. -/
theorem node?_discard_socketFile (d : DataDirectory) (fs : FileSystem) :
    (discard fs d.socketFile).node? d.pidFile = fs.node? d.pidFile :=
  FileSystem.node?_discard fun _ => leadsTo_apart

/-- Who has made the pid file writes its identifier behind what is in it. -/
theorem node?_writePid {bytes : List UInt8} {runnable : Bool} (pid : UInt32)
    (hnode : fs.node? d.pidFile = some (.file bytes runnable)) :
    (d.writePid fs pid).node? d.pidFile =
      some (.file (bytes ++ Text.Utf8.bytesOf (toString pid)) runnable) := by
  unfold FileSystem.node? at hnode
  unfold writePid
  cases hlocate : fs.locate d.pidFile with
  | error e =>
    rw [hlocate] at hnode
    cases hnode
  | ok found =>
    obtain ⟨there, node⟩ := found
    rw [hlocate] at hnode
    subst hnode
    have hfile := FileSystem.node_of_locate hlocate
    have hroot : there ≠ [] := by
      rintro rfl
      cases hfile
    simp only [FileSystem.appendAt, ← hfile]
    rw [FileSystem.node?, (FileSystem.sameDirectories_put (by simp [← hfile]) _ runnable).locate
      hlocate]
    simp [FileSystem.get?_put, hroot]

end DataDirectory

end HostDaemon
