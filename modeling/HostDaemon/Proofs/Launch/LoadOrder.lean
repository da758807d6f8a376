import HostDaemon.Launch.CommandLine
import Mathlib.Data.List.Sort

/-! # The order in which game files are loaded

  Of several files with one name the first is loaded, and all others are passed over.

  - `WadRef.FirstOfEach` says what it is to keep the first file of each name, without saying how that
    is done.
  - `WadRef.firstOfEach_iff` says that there is one way to keep them, which is that of the
    program.
  - `Config.loadOrder_eq_iff` is the result for the files of a server. -/

namespace HostDaemon

namespace WadRef

/-- The place at which a name occurs for the first time. -/
def firstPlace (files : List WadRef) (name : String) : Nat := (files.map (·.name)).idxOf name

/-- Of some files the first one of each name is kept, in the order in which the names occur. -/
structure FirstOfEach (files kept : List WadRef) : Prop where
  /-- No name is kept twice. -/
  nodup : (kept.map (·.name)).Nodup
  /-- Every name is kept, and no other. -/
  names : ∀ name, name ∈ kept.map (·.name) ↔ name ∈ files.map (·.name)
  /-- The names come in the order in which they occur for the first time. -/
  order : kept.Pairwise fun v w => firstPlace files v.name < firstPlace files w.name
  /-- Whoever is kept is the first of that name, so that it lies where that one does. -/
  first : ∀ w ∈ kept, files.find? (fun v => v.name = w.name) = some w

variable {files kept kept' : List WadRef} {seen : List String} {v w : WadRef} {name : String}

/-! ### Places -/

theorem firstPlace_cons_self (files : List WadRef) : firstPlace (w :: files) w.name = 0 :=
  List.idxOf_cons_self

theorem firstPlace_cons_of_ne (h : name ≠ w.name) (files : List WadRef) :
    firstPlace (w :: files) name = firstPlace files name + 1 :=
  List.idxOf_cons_ne _ h.symm

/-! ### What is kept -/

/-- A file is kept where its name was not seen before and it is the first of that name. -/
theorem mem_dedupFrom_iff :
    w ∈ dedupFrom seen files ↔
      w.name ∉ seen ∧ files.find? (fun v => v.name = w.name) = some w := by
  induction files generalizing seen with
  | nil => simp [dedupFrom]
  | cons first files ih =>
    rw [dedupFrom]
    by_cases hname : first.name = w.name
    · rw [List.find?_cons_of_pos (by simpa using hname), Option.some.injEq]
      split
      next hseen =>
        rw [ih, ← hname]
        simp [hseen]
      next hfresh =>
        rw [List.mem_cons, ih, ← hname]
        simp [hfresh, eq_comm]
    · -- The first file has another name, and it makes no difference to this one.
      rw [List.find?_cons_of_neg (by simpa using hname)]
      have hne : w ≠ first := fun heq => hname (heq ▸ rfl)
      split
      next => exact ih
      next =>
        rw [List.mem_cons, ih, List.mem_cons]
        simp [hne, Ne.symm hname]

/-- What is kept comes in the order in which the names occur for the first time. -/
theorem pairwise_dedupFrom (seen : List String) (files : List WadRef) :
    (dedupFrom seen files).Pairwise fun v w =>
      firstPlace files v.name < firstPlace files w.name := by
  induction files generalizing seen with
  | nil => exact List.Pairwise.nil
  | cons first files ih =>
    -- Names that are not that of the first file stand one place further on.
    have hlater : ∀ seen, first.name ∈ seen → (dedupFrom seen files).Pairwise fun v w =>
        firstPlace (first :: files) v.name < firstPlace (first :: files) w.name := by
      intro seen hseen
      have hne : ∀ w ∈ dedupFrom seen files, w.name ≠ first.name := by
        intro w hw heq
        exact (mem_dedupFrom_iff.1 hw).1 (heq ▸ hseen)
      refine (ih seen).imp_of_mem fun hv hw hlt => ?_
      rw [firstPlace_cons_of_ne (hne _ hv), firstPlace_cons_of_ne (hne _ hw)]
      omega
    rw [dedupFrom]
    by_cases hseen : first.name ∈ seen
    · rw [if_pos hseen]
      exact hlater seen hseen
    · rw [if_neg hseen]
      refine List.Pairwise.cons ?_ (hlater _ List.mem_cons_self)
      intro w hw
      have hne : w.name ≠ first.name := by
        intro heq
        exact (mem_dedupFrom_iff.1 hw).1 (heq ▸ List.mem_cons_self)
      rw [firstPlace_cons_self, firstPlace_cons_of_ne hne]
      omega

theorem firstOfEach_dedup (files : List WadRef) : FirstOfEach files (dedup files) where
  nodup := by
    rw [List.Nodup, List.pairwise_map]
    refine (pairwise_dedupFrom [] files).imp fun hlt heq => ?_
    rw [heq] at hlt
    exact lt_irrefl _ hlt
  names name := by
    simp only [dedup, List.mem_map, mem_dedupFrom_iff]
    constructor
    · rintro ⟨w, ⟨-, hfirst⟩, rfl⟩
      exact ⟨w, List.mem_of_find?_eq_some hfirst, rfl⟩
    · rintro ⟨v, hv, rfl⟩
      -- The first file of that name is kept, whichever it is.
      obtain ⟨w, hw⟩ := Option.isSome_iff_exists.1
        (List.find?_isSome (p := fun u : WadRef => decide (u.name = v.name)).2 ⟨v, hv, by simp⟩)
      have hname : w.name = v.name := by simpa using List.find?_some hw
      exact ⟨w, ⟨by simp, by rw [hname, hw]⟩, hname⟩
  order := pairwise_dedupFrom [] files
  first w hw := (mem_dedupFrom_iff.1 hw).2

/-! ### One way to keep them -/

/-- Whoever is kept in one way is kept in any other. -/
theorem FirstOfEach.mem_of_mem (h : FirstOfEach files kept) (h' : FirstOfEach files kept')
    (hw : w ∈ kept) : w ∈ kept' := by
  have hname : w.name ∈ kept'.map (·.name) :=
    (h'.names _).2 ((h.names _).1 (List.mem_map.2 ⟨w, hw, rfl⟩))
  obtain ⟨v, hv, heq⟩ := List.mem_map.1 hname
  have hfirst := h'.first v hv
  rw [heq, h.first w hw, Option.some.injEq] at hfirst
  exact hfirst ▸ hv

/-- There is one way to keep the first file of each name in order. -/
theorem firstOfEach_iff : FirstOfEach files kept ↔ kept = dedup files := by
  constructor
  · intro h
    have hdedup := firstOfEach_dedup files
    have hperm : kept.Perm (dedup files) :=
      (List.perm_ext_iff_of_nodup h.nodup.of_map hdedup.nodup.of_map).2 fun w =>
        ⟨h.mem_of_mem hdedup, hdedup.mem_of_mem h⟩
    exact hperm.eq_of_pairwise (fun v w _ _ hvw hwv => absurd hwv hvw.asymm) h.order hdedup.order
  · rintro rfl
    exact firstOfEach_dedup files

end WadRef

/-- The files of a server are loaded in the order of three lists: those that come with the version,
    where they are asked for, those of the request, and those of the configuration. Of each name the
    first is loaded, from where that one lies, and nothing else is. -/
theorem Config.loadOrder_eq_iff (c : Config) (spec : LaunchSpec) (order : List WadRef) :
    order = c.loadOrder spec ↔
      WadRef.FirstOfEach
        ((if spec.includeData then spec.version.data.map (⟨·, .wadDir⟩) else []) ++ spec.wads ++
          c.host.extraWads.map (⟨·, .wadDir⟩)) order :=
  WadRef.firstOfEach_iff.symm

/-- A file keeps the place and the directory of its first mention. -/
example : WadRef.dedup [⟨"a.wad", .iwadDir⟩, ⟨"b.wad", .wadDir⟩, ⟨"a.wad", .wadDir⟩,
    ⟨"c.wad", .wadDir⟩, ⟨"b.wad", .iwadDir⟩] =
      [⟨"a.wad", .iwadDir⟩, ⟨"b.wad", .wadDir⟩, ⟨"c.wad", .wadDir⟩] := by
  decide

end HostDaemon
