import HostDaemon.Path
import HostDaemon.Wad
import HostDaemon.Proofs.Text.Blank
import HostDaemon.Proofs.Text.Lowercase

/-! # Names in directories

  A name without slashes is looked for in a directory, and nowhere else.

  - `Path.join_name` says what a joined path is written like.
  - `Path.join_inj` says that the path of a file tells its name and its directory.
  - `separator_not_mem_cleanFileName` says that a clean name holds no separator. -/

namespace HostDaemon

namespace Path

variable {base base' name name' : Path}

/-- A directory with the slash at its end, or nothing where no directory is named. -/
def stem (base : Path) : Path := join base ""

/-- A stem ends with a slash, where there is one. -/
theorem getLast?_stem {c : Char} (h : c ∈ (stem base).toList.getLast?) : c = '/' := by
  unfold stem join at h
  rw [if_neg (by decide)] at h
  split at h
  next hends =>
    rw [String.append_empty] at h
    rcases Bool.or_eq_true _ _ ▸ hends with hempty | hslash
    · rw [String.isEmpty_iff] at hempty
      subst hempty
      cases h
    · rw [beq_iff_eq] at hslash
      rw [hslash] at h
      exact (Option.mem_some.1 h).symm
  next =>
    rw [String.append_empty, String.toList_append, show "/".toList = ['/'] from rfl,
      List.getLast?_concat] at h
    exact (Option.mem_some.1 h).symm

/-- A name without slashes is written after the stem of its directory. -/
theorem join_name (hname : '/' ∉ name.toList) (base : Path) :
    join base name = stem base ++ name := by
  have hrelative : isAbsolute name = false := by
    rw [isAbsolute, beq_eq_false_iff_ne]
    intro hhead
    exact hname (List.mem_of_mem_head? hhead)
  have hempty : isAbsolute "" = false := by decide
  unfold stem join
  simp only [hrelative, hempty, Bool.false_eq_true, if_false]
  split
  · rw [String.append_empty]
  · rw [String.append_empty]

/-- What a stem and a name without slashes both hold is nothing: it would end with a slash. -/
theorem eq_nil_of_stem_eq_append {front part rest : List Char}
    (hstem : (stem base).toList = front ++ part) (hname : '/' ∉ part ++ rest) : part = [] := by
  rcases List.eq_nil_or_concat part with hnil | ⟨before, last, hpart⟩
  · exact hnil
  · have hlast : last ∈ (stem base).toList.getLast? := by
      rw [hstem, hpart, List.concat_eq_append, ← List.append_assoc, List.getLast?_concat]
      exact Option.mem_some_self last
    have hslash : last = '/' := getLast?_stem hlast
    have hmem : last ∈ part ++ rest := by simp [hpart]
    exact absurd (hslash ▸ hmem) hname

/-- The path of a file tells its name and the stem of its directory. -/
theorem join_inj (hname : '/' ∉ name.toList) (hname' : '/' ∉ name'.toList)
    (h : join base name = join base' name') : stem base = stem base' ∧ name = name' := by
  rw [join_name hname, join_name hname'] at h
  have hchars := congrArg String.toList h
  rw [String.toList_append, String.toList_append] at hchars
  -- Where one stem were longer, the other's name would hold what it has more.
  rcases List.append_eq_append_iff.1 hchars with ⟨part, hstem, hrest⟩ | ⟨part, hstem, hrest⟩
  · obtain rfl := eq_nil_of_stem_eq_append hstem (hrest ▸ hname)
    rw [List.append_nil] at hstem
    exact ⟨String.toList_inj.1 hstem.symm, String.toList_inj.1 hrest⟩
  · obtain rfl := eq_nil_of_stem_eq_append hstem (hrest ▸ hname')
    rw [List.append_nil] at hstem
    exact ⟨String.toList_inj.1 hstem, String.toList_inj.1 hrest.symm⟩

end Path

/-- The characters that separate the parts of a path, on this machine or on others. -/
def Path.IsSeparator (c : Char) : Prop := c = '/' ∨ c = '\\'

/-- A clean name holds no separator. -/
theorem separator_not_mem_cleanFileName {c : Char} (hc : Path.IsSeparator c) (name : String) :
    c ∉ (cleanFileName name).toList := by
  intro hmem
  rw [cleanFileName, Text.trim, String.toList_ofList, String.toList_ofList] at hmem
  have hkept := Text.mem_of_mem_trimBlank hmem
  rw [List.mem_filter, decide_eq_true_eq] at hkept
  obtain ⟨-, hslash, hbackslash⟩ := hkept
  exact hc.elim hslash hbackslash

/-- Nor does it in lowercase. -/
theorem separator_not_mem_lowercase {c : Char} (hc : Path.IsSeparator c) {name : String}
    (h : c ∉ name.toList) : c ∉ (Text.lowercase name).toList := by
  rcases hc with rfl | rfl <;> exact Text.not_mem_lowercase (by decide) (by decide) h

end HostDaemon
