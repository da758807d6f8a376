import HostDaemon.Proofs.Launch.Checks
import Mathlib.Data.String.Basic

/-! # The order of options

  Options that are about different things can be given in any order.

  - `OptionKind.Value` is what an option of a kind says. It is read without the draft
    (`LaunchDraft.read`), and entered into the draft without the configuration
    (`LaunchDraft.enter`).
  - `LaunchDraft.enter_comm` says that options of different kinds can be exchanged.
  - `foldl_eq_of_filter_eq` goes from there to lists: only the order of options of the same kind
    matters, and several keys have the same kind only in the groups of `aliasGroups`.
  - `BuildContext.order_of_build` is the result. -/

namespace HostDaemon

/-- Whoever can be exchanged with all that come before can as well come first. -/
theorem foldl_append_cons_of_comm {α β : Type} {f : β → α → β} {a : α} {before : List α}
    (hcomm : ∀ x ∈ before, ∀ d, f (f d x) a = f (f d a) x) (after : List α) (d : β) :
    (before ++ a :: after).foldl f d = (before ++ after).foldl f (f d a) := by
  induction before generalizing d with
  | nil => rfl
  | cons x before ih =>
    show (before ++ a :: after).foldl f (f d x) = (before ++ after).foldl f (f (f d a) x)
    rw [ih (fun y hy => hcomm y (List.mem_cons_of_mem x hy)), hcomm x List.mem_cons_self]

/-- Where elements of different kinds can be exchanged, only the order within each kind matters. -/
theorem foldl_eq_of_filter_eq {α β κ : Type} [DecidableEq κ] {f : β → α → β} (kind : α → κ)
    (hcomm : ∀ x y, kind x ≠ kind y → ∀ d, f (f d x) y = f (f d y) x) {l l' : List α}
    (hsame : ∀ k, l.filter (kind · = k) = l'.filter (kind · = k)) (d : β) :
    l.foldl f d = l'.foldl f d := by
  induction l generalizing l' d with
  | nil =>
    -- The other list is empty, too: an element would be left in the filter for its kind.
    cases l' with
    | nil => rfl
    | cons x l' =>
      have hx := hsame (kind x)
      simp at hx
  | cons a l ih =>
    have ha := hsame (kind a)
    rw [List.filter_cons_of_pos (by simp)] at ha
    obtain ⟨before, after, rfl, hbefore, -, hafter⟩ := List.filter_eq_cons_iff.1 ha.symm
    have hother : ∀ x ∈ before, kind x ≠ kind a := fun x hx => by simpa using hbefore x hx
    rw [foldl_append_cons_of_comm (fun x hx => hcomm x a (hother x hx))]
    refine ih (fun k => ?_) (f d a)
    have hk := hsame k
    rw [List.filter_append] at hk ⊢
    by_cases hkind : kind a = k
    · subst hkind
      have hnone : before.filter (fun x => decide (kind x = kind a)) = [] := by
        rw [List.filter_eq_nil_iff]
        exact fun x hx => by simpa using hother x hx
      rw [hnone, List.nil_append, hafter]
    · rwa [List.filter_cons_of_neg (by simpa using hkind),
        List.filter_cons_of_neg (by simpa using hkind)] at hk

namespace FlagTable

variable {name name' other : String} {value value' old : FlagValue} {table : FlagTable}

theorem insert_cons_of_lt (h : name < other) :
    FlagTable.insert name value ((other, old) :: table) =
      (name, value) :: (other, old) :: table := by
  rw [FlagTable.insert, if_neg h.ne, if_pos h]

theorem insert_cons_of_gt (h : other < name) :
    FlagTable.insert name value ((other, old) :: table) =
      (other, old) :: table.insert name value := by
  rw [FlagTable.insert, if_neg h.ne', if_neg h.asymm]

theorem insert_cons_self :
    FlagTable.insert name value ((name, old) :: table) = (name, value) :: table := by
  rw [FlagTable.insert, if_pos rfl]

/-- The lesser of two flags can be set first or last. -/
theorem insert_comm_of_lt (hlt : name < name') (value value' : FlagValue) (table : FlagTable) :
    (table.insert name value).insert name' value' =
      (table.insert name' value').insert name value := by
  induction table with
  | nil =>
    show FlagTable.insert name' value' [(name, value)] =
      FlagTable.insert name value [(name', value')]
    rw [insert_cons_of_gt hlt, insert_cons_of_lt hlt]
    rfl
  | cons first table ih =>
    obtain ⟨other, old⟩ := first
    rcases lt_trichotomy name other with hbefore | rfl | hafter
    · -- The lesser one comes before all others, the greater one too.
      rw [insert_cons_of_lt hbefore, insert_cons_of_gt hlt]
      rcases lt_trichotomy name' other with hbefore' | rfl | hafter'
      · rw [insert_cons_of_lt hbefore', insert_cons_of_lt hlt]
      · rw [insert_cons_self, insert_cons_of_lt hlt]
      · rw [insert_cons_of_gt hafter', insert_cons_of_lt hbefore]
    · rw [insert_cons_self, insert_cons_of_gt hlt, insert_cons_of_gt hlt, insert_cons_self]
    · have hafter' : other < name' := hafter.trans hlt
      rw [insert_cons_of_gt hafter, insert_cons_of_gt hafter', insert_cons_of_gt hafter',
        insert_cons_of_gt hafter, ih]

/-- Flags with different names can be set in either order. -/
theorem insert_comm (hne : name ≠ name') (value value' : FlagValue) (table : FlagTable) :
    (table.insert name value).insert name' value' =
      (table.insert name' value').insert name value := by
  rcases lt_or_gt_of_ne hne with hlt | hgt
  · exact insert_comm_of_lt hlt value value' table
  · exact (insert_comm_of_lt hgt value' value table).symm

end FlagTable

namespace LaunchDraft

/-! ### What an option says -/

/-- What an option of a kind says. -/
abbrev OptionKind.Value : OptionKind → Type
  | .autoRestart | .data | .instagib | .buckshot | .toggle _ => Bool
  | .version => Version
  | .config | .iwad => String
  | .gamemode => Gamemode
  | .hostname => Option String
  | .maps => List String
  | .port => UInt16
  | .skill => UInt8
  | .wads => List WadRef
  | .optionalWads => String
  | .mask _ => UInt32
  | .unknown _ => Unit

/-- Read the value of an option of a kind. -/
def read (b : BuildContext) (value : String) : (kind : OptionKind) → Except LaunchError kind.Value
  | .autoRestart | .data | .instagib | .buckshot | .toggle _ => .ok (OptionValue.isOn value)
  | .version => readVersion b value
  | .config => readConfig b value
  | .gamemode => readGamemode b value
  | .hostname => .ok (if Text.trim value = "" then none else some (Text.trim value))
  | .iwad => readIwad b value
  | .maps => .ok (OptionValue.items value)
  | .port => readPort b value
  | .skill => readSkill value
  | .wads => .ok (readWads value)
  | .optionalWads => .ok value
  | .mask name => readMask name value
  | .unknown key => if b.config.host.strictOptions then .error (.unknownOption key) else .ok ()

/-- Enter what an option says into a draft. -/
def enter (d : LaunchDraft) : (kind : OptionKind) → kind.Value → LaunchDraft
  | .autoRestart, on => { d with autoRestart := on }
  | .version, v => { d with version := some v }
  | .config, name => { d with config := some name }
  | .data, on => { d with includeData := on }
  | .gamemode, mode => { d with gamemode := some mode }
  | .hostname, name => { d with hostname := name.or d.hostname }
  | .instagib, on => { d with instagib := on }
  | .buckshot, on => { d with buckshot := on }
  | .iwad, file => { d with iwad := some file }
  | .maps, items => { d with maps := d.maps ++ items }
  | .port, port => { d with port := some port }
  | .skill, skill => { d with skill := some skill }
  | .wads, wads => { d with wads := d.wads ++ wads }
  | .optionalWads, value => { d with optionalWads := addOptional d.optionalWads value }
  | .mask name, bits => { d with flags := d.flags.insert name (.mask bits) }
  | .toggle name, on => { d with flags := d.flags.insert name (.toggle on) }
  | .unknown _, _ => d

variable {b : BuildContext} {d d' : LaunchDraft} {key value : String} {options : OptionList}

/-- Whether an option can be applied, and what it says, has nothing to do with the draft. -/
theorem apply_eq (b : BuildContext) (d : LaunchDraft) (key value : String) :
    d.apply b key value =
      (read b value (OptionKind.ofKey key)).map (d.enter (OptionKind.ofKey key)) := by
  unfold apply
  cases OptionKind.ofKey key with
  | hostname =>
    by_cases hblank : Text.trim value = ""
    · simp only [read, enter, Except.map, hblank, if_true, Option.none_or]
    · simp only [read, enter, Except.map, hblank, if_false, Option.some_or]
  | unknown name =>
    simp only [read]
    split <;> rfl
  | _ => rfl

/-! ### Two options -/

/-- The flag that an option sets. -/
def OptionKind.flag? : OptionKind → Option String
  | .mask name | .toggle name => some name
  | _ => none

theorem flags_comm (d : LaunchDraft) {name name' : String} (hne : name ≠ name')
    (value value' : FlagValue) :
    ({ d with flags := (d.flags.insert name value).insert name' value' } : LaunchDraft) =
      { d with flags := (d.flags.insert name' value').insert name value } := by
  rw [FlagTable.insert_comm hne]

/-- Options of different kinds that do not set the same flag can be entered in either order. -/
theorem enter_comm {kind kind' : OptionKind} (hne : kind ≠ kind')
    (hflags : ∀ name, kind.flag? = some name → kind'.flag? ≠ some name) (d : LaunchDraft)
    (x : kind.Value) (x' : kind'.Value) :
    (d.enter kind x).enter kind' x' = (d.enter kind' x').enter kind x := by
  cases kind <;> cases kind' <;> first
    -- They write to different fields.
    | rfl
    | exact absurd rfl hne
    | exact d.flags_comm (fun heq => hflags _ rfl (congrArg some heq.symm)) _ _

/-! ### Words for one thing -/

/-- Keys that are different words for the same thing. -/
def aliasGroups : List (List String) := [
  ["data", "stdata"],
  ["map", "maps"],
  ["wad", "wads", "file", "files"],
  ["optionalwad", "optionalwads", "optwad", "optwads", "opt", "opts", "optfile", "optfiles"]]

/-- The keys of a kind are one, or they are different words. -/
theorem keys_cases (kind : OptionKind) :
    (∃ key, kind.keys = [key]) ∨
      kind.keys ∈ aliasGroups ∧ ∀ key, OptionKind.ofKey key = kind ↔ key ∈ kind.keys := by
  have hmem : ∀ key, OptionKind.ofKey key = kind → key ∈ kind.keys :=
    fun key hkey => hkey ▸ mem_keys_ofKey key
  cases kind with
  | data | maps | wads | optionalWads =>
    refine Or.inr ⟨by decide, fun key => ⟨hmem key, fun hkey => ?_⟩⟩
    revert hkey key
    decide
  | _ => exact Or.inl ⟨_, rfl⟩

/-- The flag of an option is its key. -/
theorem eq_of_flag? {key name : String} (h : (OptionKind.ofKey key).flag? = some name) :
    key = name := by
  cases hkind : OptionKind.ofKey key <;> rw [hkind] at h <;> cases h
  all_goals exact eq_of_ofKey hkind rfl

/-! ### All options -/

/-- An option can be applied. -/
def Readable (b : BuildContext) (option : String × String) : Prop :=
  ∃ x, read b option.2 (OptionKind.ofKey option.1) = .ok x

/-- A draft after an option, where that can be applied. -/
def take (b : BuildContext) (d : LaunchDraft) (option : String × String) : LaunchDraft :=
  match read b option.2 (OptionKind.ofKey option.1) with
  | .ok x => d.enter (OptionKind.ofKey option.1) x
  | .error _ => d

/-- Options of different kinds can be taken in either order. -/
theorem take_comm (b : BuildContext) {option option' : String × String}
    (hne : OptionKind.ofKey option.1 ≠ OptionKind.ofKey option'.1) (d : LaunchDraft) :
    (d.take b option).take b option' = (d.take b option').take b option := by
  have hflags : ∀ name, (OptionKind.ofKey option.1).flag? = some name →
      (OptionKind.ofKey option'.1).flag? ≠ some name := by
    intro name hflag hflag'
    exact hne (by rw [eq_of_flag? hflag, eq_of_flag? hflag'])
  unfold take
  cases read b option.2 (OptionKind.ofKey option.1) with
  | error e => rfl
  | ok x =>
    cases read b option'.2 (OptionKind.ofKey option'.1) with
    | error e => rfl
    | ok x' => exact enter_comm hne hflags d x x'

/-- All options are applied where each of them can be, and fail together otherwise. -/
theorem applyAll_eq (b : BuildContext) (d : LaunchDraft) (options : OptionList) :
    (∀ option ∈ options, Readable b option) ∧
        d.applyAll b options = .ok (options.foldl (take b) d) ∨
      (¬ ∀ option ∈ options, Readable b option) ∧ ∃ e, d.applyAll b options = .error e := by
  induction options generalizing d with
  | nil => exact Or.inl ⟨fun _ h => absurd h List.not_mem_nil, rfl⟩
  | cons option options ih =>
    obtain ⟨key, value⟩ := option
    rw [List.forall_mem_cons, List.foldl_cons, applyAll, apply_eq]
    cases hread : read b value (OptionKind.ofKey key) with
    | error e =>
      refine Or.inr ⟨fun hall => ?_, e, rfl⟩
      obtain ⟨x, hx⟩ := hall.1
      rw [hread] at hx
      cases hx
    | ok x =>
      have hreadable : Readable b (key, value) := ⟨x, hread⟩
      have htake : d.take b (key, value) = d.enter (OptionKind.ofKey key) x := by
        simp only [take, hread]
      rw [htake]
      rcases ih (d.enter (OptionKind.ofKey key) x) with ⟨hall, hdone⟩ | ⟨hnot, e, hfailed⟩
      · exact Or.inl ⟨⟨hreadable, hall⟩, hdone⟩
      · exact Or.inr ⟨fun hall => hnot hall.2, e, hfailed⟩

/-- Two orders of the same options with different keys in which different words for the same thing
    come in the same order. -/
structure Reordered (options options' : OptionList) : Prop where
  /-- The options are the same. -/
  perm : options.Perm options'
  /-- No key is given twice. -/
  nodup : (options.map (·.1)).Nodup
  /-- Of the words for one thing the first is still the first, and so on. -/
  groups : ∀ group ∈ aliasGroups, options.filter (fun option => decide (option.1 ∈ group)) =
    options'.filter fun option => decide (option.1 ∈ group)

/-- With one key there is one option at most, so that there is one order. -/
theorem eq_of_perm_of_key {options options' : OptionList} (hperm : options.Perm options')
    (hnodup : (options.map (·.1)).Nodup) (hkey : ∀ option ∈ options, option.1 = key) :
    options = options' := by
  cases options with
  | nil => exact hperm.nil_eq
  | cons first rest =>
    cases rest with
    | nil => exact List.singleton_perm.1 hperm
    | cons second rest =>
      have hsame : first.1 = second.1 := by
        rw [hkey first List.mem_cons_self, hkey second (List.mem_cons_of_mem _ List.mem_cons_self)]
      simp [hsame] at hnodup

/-- Options of one kind come in the same order. -/
theorem Reordered.filter_kind {options' : OptionList} (h : Reordered options options')
    (kind : OptionKind) :
    options.filter (fun option => decide (OptionKind.ofKey option.1 = kind)) =
      options'.filter fun option => decide (OptionKind.ofKey option.1 = kind) := by
  rcases keys_cases kind with ⟨key, hkey⟩ | ⟨hgroup, hkeys⟩
  · -- Their key is the only one.
    have hall : ∀ option ∈ options.filter fun option => decide (OptionKind.ofKey option.1 = kind),
        option.1 = key := by
      intro option hoption
      exact eq_of_ofKey (of_decide_eq_true (List.mem_filter.1 hoption).2) hkey
    exact eq_of_perm_of_key (h.perm.filter _) ((List.filter_sublist.map _).nodup h.nodup) hall
  · simp only [hkeys]
    exact h.groups _ hgroup

/-- The draft does not depend on the order. -/
theorem Reordered.applyAll {options' : OptionList} (h : Reordered options options')
    (b : BuildContext) (d : LaunchDraft) :
    (∃ e e', d.applyAll b options = .error e ∧ d.applyAll b options' = .error e') ∨
      ∃ d', d.applyAll b options = .ok d' ∧ d.applyAll b options' = .ok d' := by
  have hreadable : (∀ option ∈ options, Readable b option) ↔
      ∀ option ∈ options', Readable b option := by
    simp only [h.perm.mem_iff]
  have hfold : options.foldl (take b) d = options'.foldl (take b) d :=
    foldl_eq_of_filter_eq (fun option => OptionKind.ofKey option.1)
      (fun _ _ hne d => take_comm b hne d) h.filter_kind d
  rcases applyAll_eq b d options with ⟨hall, hdone⟩ | ⟨hnot, e, hfailed⟩
  · rcases applyAll_eq b d options' with ⟨-, hdone'⟩ | ⟨hnot', -⟩
    · exact Or.inr ⟨_, hdone, hfold ▸ hdone'⟩
    · exact absurd (hreadable.1 hall) hnot'
  · rcases applyAll_eq b d options' with ⟨hall', -⟩ | ⟨-, e', hfailed'⟩
    · exact absurd (hreadable.2 hall') hnot
    · exact Or.inl ⟨e, e', hfailed, hfailed'⟩

end LaunchDraft

namespace BuildContext

/-- What is made of a draft depends on the options and the identifier in two fields only. -/
theorem finish_eq (b : BuildContext) (owner : String) (level : AccountLevel)
    (options options' : OptionList) (recovering : Bool) (id id' : String) (d : LaunchDraft) :
    b.finish owner level options' recovering id' d =
      (b.finish owner level options recovering id d).map fun spec =>
        { spec with credentials := .ofId id', options := options' } := by
  simp only [finish, bind, Except.bind, pure, Except.pure]
  repeat' split
  all_goals rfl

/-- The order of options does not matter: in two orders either both lists fail or both give a
    specification, and these differ in nothing but the credentials and the list of options. Only
    different words for the same thing have to come in the same order. -/
theorem order_of_build (b : BuildContext) (owner : String) (level : AccountLevel)
    {options options' : OptionList} (h : LaunchDraft.Reordered options options')
    (port : Option UInt16) (recovering : Bool) (id id' : String) :
    (∃ e e', b.build owner level options port recovering id = .error e ∧
      b.build owner level options' port recovering id' = .error e') ∨
    ∃ spec spec', b.build owner level options port recovering id = .ok spec ∧
      b.build owner level options' port recovering id' = .ok spec' ∧
      spec' = { spec with credentials := spec'.credentials, options := spec'.options } := by
  rcases h.applyAll b (.start port) with ⟨e, e', hfailed, hfailed'⟩ | ⟨d, hdone, hdone'⟩
  · left
    exact ⟨e, e', by rw [build, hfailed]; rfl, by rw [build, hfailed']; rfl⟩
  · have hbuild : b.build owner level options port recovering id =
        b.finish owner level options recovering id d := by
      rw [build, hdone]
      rfl
    have hbuild' : b.build owner level options' port recovering id' =
        b.finish owner level options' recovering id' d := by
      rw [build, hdone']
      rfl
    rw [hbuild, hbuild', b.finish_eq owner level options options' recovering id id' d]
    cases b.finish owner level options recovering id d with
    | error e => exact Or.inl ⟨e, e, rfl, rfl⟩
    | ok spec => exact Or.inr ⟨spec, _, rfl, rfl, rfl⟩

/-- Options in an order in which the two that name maps are apart. -/
def scattered : OptionList :=
  [("skill", "4"), ("map", "MAP01"), ("allowjump", "on"), ("maps", "MAP07"), ("dmflags", "5"),
    ("iwad", "doom2")]

/-- The same options in another order. -/
def gathered : OptionList :=
  [("iwad", "doom2"), ("dmflags", "5"), ("allowjump", "on"), ("map", "MAP01"), ("maps", "MAP07"),
    ("skill", "4")]

/-- What is built in both orders is the same but for the identifier and the list. -/
theorem order_of_gathered :
    ∃ spec spec', withSettings.build "al" .registered scattered none false "id" = .ok spec ∧
      withSettings.build "al" .registered gathered none false "other" = .ok spec' ∧
      spec.maps = ["MAP01", "MAP07"] ∧
      spec' = { spec with credentials := spec'.credentials, options := spec'.options } := by
  have hreordered : LaunchDraft.Reordered scattered gathered :=
    ⟨by decide, by decide, by decide⟩
  have hrun : (withSettings.build "al" .registered scattered none false "id").toOption.any
      (fun spec => spec.maps = ["MAP01", "MAP07"]) = true := by
    decide +kernel
  obtain ⟨built, hbuilt, hmaps⟩ := exists_ok_of_any hrun
  rcases withSettings.order_of_build "al" .registered hreordered none false "id" "other" with
    ⟨e, -, hfailed, -⟩ | ⟨spec, spec', hspec, hspec', hsame⟩
  · rw [hbuilt] at hfailed
    cases hfailed
  · rw [hbuilt, Except.ok.injEq] at hspec
    exact ⟨spec, spec', hspec ▸ hbuilt, hspec', hspec ▸ of_decide_eq_true hmaps, hsame⟩

end BuildContext

end HostDaemon
