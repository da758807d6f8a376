import HostDaemon.FileSystem
import HostDaemon.Proofs.Path
import HostDaemon.Proofs.Text.Cutting

/-! # Files in directories

  A path is followed part by part. A name without slashes is the last part of the path that it is
  joined to, and a path to a file does not end with a part that goes up again.

  - `FileSystem.HoldsFile` says that a file of a name stands directly in a directory.
  - `FileSystem.holdsFile_of_isFile` says that this is so wherever a name without slashes, joined to
    the directory, is the path of a file. -/

namespace HostDaemon

/-! ### The parts of a path -/

namespace Path

variable {dir name : Path}

theorem parts_eq_singleton (hname : '/' ∉ name.toList) : parts name = [name] := by
  have hplain : ∀ c ∈ name.toList, (c == '/') = false := by
    intro c hc
    rw [beq_eq_false_iff_ne]
    rintro rfl
    exact hname hc
  rw [parts, Text.pieces_eq_singleton hplain, List.map_singleton, String.ofList_toList]

theorem parts_append_slash (dir name : Path) : parts (dir ++ "/" ++ name) = parts dir ++ parts name := by
  have hchars : (dir ++ "/" ++ name).toList = dir.toList ++ '/' :: name.toList := by simp
  rw [parts, hchars, Text.pieces_append (by rfl), List.map_append]
  rfl

/-- The parts of a joined path are those of the directory and then the name. A directory that is
    written with a slash at its end, or not at all, has an empty part more. -/
theorem parts_join (hname : '/' ∉ name.toList) (dir : Path) :
    ∃ before, parts (join dir name) = before ++ [name] ∧
      (parts dir = before ∨ parts dir = before ++ [""]) := by
  rw [join_name hname, stem, join, if_neg (by decide)]
  split
  next hends =>
    rw [String.append_empty]
    rcases Bool.or_eq_true _ _ ▸ hends with hempty | hslash
    · rw [String.isEmpty_iff] at hempty
      subst hempty
      refine ⟨[], ?_, Or.inr rfl⟩
      rw [String.empty_append, parts_eq_singleton hname, List.nil_append]
    · rw [beq_iff_eq] at hslash
      obtain ⟨before, hchars⟩ := List.getLast?_eq_some_iff.1 hslash
      have hdir : dir = String.ofList before ++ "/" := by
        rw [← String.toList_inj, hchars]
        simp
      refine ⟨parts (String.ofList before), ?_, Or.inr ?_⟩
      · rw [hdir, parts_append_slash, parts_eq_singleton hname]
      · rw [hdir, ← String.append_empty (s := String.ofList before ++ "/"), parts_append_slash]
        rfl
  next =>
    refine ⟨parts dir, ?_, Or.inl rfl⟩
    rw [String.append_empty, parts_append_slash, parts_eq_singleton hname]

end Path

namespace FileSystem

variable {fs : FileSystem} {here there : Location} {more : List String} {node : Option FileNode}

/-! ### Where parts lead -/

/-- Parts that come later are followed from where the parts before them lead. -/
theorem follow_append {part : String} (parts : List String) (here : Location) :
    fs.follow here (parts ++ part :: more) =
      match fs.follow here parts with
      | .error e => .error e
      | .ok (there, _) => fs.follow there (part :: more) := by
  induction parts generalizing here with
  | nil => rfl
  | cons first parts ih =>
    rw [List.cons_append]
    conv_lhs => rw [follow]
    conv_rhs => rw [follow]
    split
    · rfl
    · rfl
    · split
      · rfl
      · split
        · exact ih here
        · split
          · exact ih here.dropLast
          · simp only [List.append_eq_nil_iff, reduceCtorEq, and_false, false_and, if_false]
            by_cases hlast : parts = [] ∧ fs.get? (here ++ [first]) = none
            · rw [if_pos hlast, hlast.1, List.nil_append]
            · rw [if_neg hlast]
              exact ih (here ++ [first])

/-- Every location above this one is a directory. -/
def IsBranch (fs : FileSystem) (here : Location) : Prop :=
  ∀ above, above <+: here → above ≠ here → fs.get? above = some .directory

theorem isBranch_root : fs.IsBranch [] := by
  intro above habove hne
  exact absurd (List.prefix_nil.1 habove) hne

theorem IsBranch.dropLast (h : fs.IsBranch here) : fs.IsBranch here.dropLast := by
  intro above habove hne
  refine h above (habove.trans (List.dropLast_prefix here)) ?_
  rintro rfl
  have hlength := habove.length_le
  rw [List.length_dropLast] at hlength
  have hnil : above = [] := by
    rw [← List.length_eq_zero_iff]
    omega
  exact hne (by rw [hnil, List.dropLast_nil])

theorem IsBranch.concat (h : fs.IsBranch here) (hhere : fs.get? here = some .directory)
    (part : String) : fs.IsBranch (here ++ [part]) := by
  intro above habove hne
  rcases List.prefix_concat_iff.1 habove with hall | hshort
  · exact absurd hall hne
  · by_cases hsame : above = here
    · rw [hsame, hhere]
    · exact h above hshort hsame

/-- What lies above a place to which parts lead is directories. -/
theorem IsBranch.follow (h : fs.IsBranch here) {parts : List String}
    (hfollow : fs.follow here parts = .ok (there, node)) :
    fs.IsBranch there ∧ node = fs.get? there := by
  induction parts generalizing here with
  | nil =>
    cases hfollow
    exact ⟨h, rfl⟩
  | cons part parts ih =>
    rw [FileSystem.follow] at hfollow
    split at hfollow
    next => cases hfollow
    next => cases hfollow
    next hhere =>
      split at hfollow
      next => cases hfollow
      next =>
        split at hfollow
        next => exact ih h hfollow
        next =>
          split at hfollow
          next => exact ih h.dropLast hfollow
          next =>
            dsimp only at hfollow
            split at hfollow
            next hlast =>
              cases hfollow
              exact ⟨h.concat hhere part, hlast.2.symm⟩
            next => exact ih (h.concat hhere part) hfollow

/-! ### A file in a directory -/

/-- A file of the name stands directly in the directory to which the path leads. -/
def HoldsFile (fs : FileSystem) (dir : Path) (name : String) : Prop :=
  ∃ there bytes runnable, fs.follow [] (Path.parts dir) = .ok (there, some .directory) ∧
    fs.get? (there ++ [name]) = some (.file bytes runnable)

/-- The last step to a file goes from a directory to one of the names in it: staying or going up
    leads to a directory. -/
theorem IsBranch.follow_file (h : fs.IsBranch here) {name : String} {bytes : List UInt8}
    {runnable : Bool}
    (hfollow : fs.follow here [name] = .ok (there, some (.file bytes runnable))) :
    fs.get? here = some .directory ∧ fs.get? (here ++ [name]) = some (.file bytes runnable) ∧
      Path.isVoid name = false ∧ name ≠ ".." := by
  rw [FileSystem.follow] at hfollow
  split at hfollow
  next => cases hfollow
  next => cases hfollow
  next hhere =>
    split at hfollow
    next => cases hfollow
    next =>
      split at hfollow
      next =>
        rw [FileSystem.follow, hhere] at hfollow
        cases hfollow
      next hvoid =>
        split at hfollow
        next =>
          have habove : fs.get? here.dropLast = some .directory := by
            by_cases hroot : here.dropLast = here
            · rw [hroot, hhere]
            · exact h here.dropLast (List.dropLast_prefix here) hroot
          rw [FileSystem.follow, habove] at hfollow
          cases hfollow
        next hup =>
          dsimp only at hfollow
          split at hfollow
          next => cases hfollow
          next =>
            rw [FileSystem.follow, Except.ok.injEq, Prod.mk.injEq] at hfollow
            exact ⟨hhere, hfollow.2, Bool.eq_false_iff.2 hvoid, hup⟩

theorem isFile_iff {p : Path} :
    fs.isFile p = true ↔
      ∃ there bytes runnable, fs.locate p = .ok (there, some (.file bytes runnable)) := by
  unfold isFile node?
  cases hlocate : fs.locate p with
  | error e => simp
  | ok found =>
    obtain ⟨there, node⟩ := found
    rcases node with - | - | ⟨bytes, runnable⟩
    · simp
    · simp
    · simp

/-- Where a name without slashes, joined to a directory, is the path of a file, the directory is
    one, and the name is that of a file in it. -/
theorem follow_of_isFile {dir : Path} {name : String}
    (h : fs.isFile (Path.join dir name) = true) (hname : '/' ∉ name.toList) :
    ∃ before there bytes runnable, (Path.parts dir = before ∨ Path.parts dir = before ++ [""]) ∧
      fs.follow [] before = .ok (there, some .directory) ∧
      fs.get? (there ++ [name]) = some (.file bytes runnable) ∧
      Path.isVoid name = false ∧ name ≠ ".." := by
  obtain ⟨last, bytes, runnable, hlocate⟩ := isFile_iff.1 h
  obtain ⟨before, hparts, hdir⟩ := Path.parts_join hname dir
  have hfollow : fs.follow [] (before ++ [name]) = .ok (last, some (.file bytes runnable)) := by
    unfold locate at hlocate
    repeat' split at hlocate
    all_goals first | cases hlocate | rw [← hparts, hlocate]
  rw [follow_append] at hfollow
  cases hbefore : fs.follow [] before with
  | error e =>
    rw [hbefore] at hfollow
    cases hfollow
  | ok found =>
    obtain ⟨there, node⟩ := found
    rw [hbefore] at hfollow
    obtain ⟨hbranch, hnode⟩ := isBranch_root.follow hbefore
    obtain ⟨hthere, hfile, hnames⟩ := hbranch.follow_file hfollow
    rw [hnode, hthere] at hbefore
    exact ⟨before, there, bytes, runnable, hdir, hbefore, hfile, hnames⟩

/-- Where a name without slashes, joined to a directory, is the path of a file, the file stands
    directly in that directory. -/
theorem holdsFile_of_isFile {dir : Path} {name : String}
    (h : fs.isFile (Path.join dir name) = true) (hname : '/' ∉ name.toList) :
    fs.HoldsFile dir name := by
  obtain ⟨before, there, bytes, runnable, hdir, hbefore, hfile, -⟩ := follow_of_isFile h hname
  refine ⟨there, bytes, runnable, ?_, hfile⟩
  have hthere : fs.get? there = some .directory := (isBranch_root.follow hbefore).2.symm
  rcases hdir with hdir | hdir
  · rw [hdir, hbefore]
  · -- The empty part at the end stays where it is.
    rw [hdir, follow_append, hbefore]
    simp [FileSystem.follow, hthere, Path.isVoid, Text.Utf8.sizeOfChars]

end FileSystem

end HostDaemon
