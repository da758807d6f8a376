import HostDaemon.Proofs.Launch.OptionOrder
import HostDaemon.Proofs.Number.Decimal

/-! # What a command line tells

  A command line is read by position. The program comes first, and then names and values take turns:
  a value is never taken for a name, whatever it looks like.

  - `LaunchSpec.layout` lists what names come in which order, and `LaunchSpec.LaidOut` says that a
    command line keeps to it.
  - `LaunchSpec.parts_inj` says that the names tell which parameters belong together, so that equal
    command lines are equal part by part.
  - `LaunchSpec.SameLaunch` is what two specifications have in common that give the same command line,
    and `BuildContext.commandLine_tells` is the result. -/

namespace HostDaemon

/-! ### Flags -/

namespace FlagTable

variable {flags : FlagTable}

/-- The flags that have something, with their names. -/
def having {α : Type} (flags : FlagTable) (part? : FlagValue → Option α) : List (String × α) :=
  flags.filterMap fun (name, value) => (part? value).map fun a => (name, a)

/-- The sets of bits that are not empty, with their names. -/
def masks (flags : FlagTable) : List (String × UInt32) :=
  flags.having fun
    | .mask bits => if 0 < bits then some bits else none
    | .toggle _ => none

/-- The flags that are on or off, with their names. -/
def toggles (flags : FlagTable) : List (String × Bool) :=
  flags.having fun
    | .mask _ => none
    | .toggle on => some on

theorem mem_having_iff {α : Type} {part? : FlagValue → Option α} {name : String} {a : α} :
    (name, a) ∈ flags.having part? ↔ ∃ value, (name, value) ∈ flags ∧ part? value = some a := by
  simp [having]

/-- The names of the flags ascend, so that none is there twice. -/
def Ascending (flags : FlagTable) : Prop := flags.Pairwise fun e e' => e.1 < e'.1

/-- A flag that is set takes its place among the others. -/
theorem Ascending.insert (h : flags.Ascending) (name : String) (value : FlagValue) :
    (flags.insert name value).Ascending := by
  induction flags with
  | nil => exact List.pairwise_singleton _ _
  | cons first flags ih =>
    obtain ⟨other, old⟩ := first
    obtain ⟨hfirst, hrest⟩ := List.pairwise_cons.1 h
    rcases lt_trichotomy name other with hbefore | rfl | hafter
    · rw [insert_cons_of_lt hbefore]
      refine List.pairwise_cons.2 ⟨?_, h⟩
      intro e he
      rcases List.mem_cons.1 he with rfl | hlater
      · exact hbefore
      · exact hbefore.trans (hfirst e hlater)
    · rw [insert_cons_self]
      exact List.pairwise_cons.2 ⟨hfirst, hrest⟩
    · rw [insert_cons_of_gt hafter]
      refine List.pairwise_cons.2 ⟨?_, ih hrest⟩
      intro e he
      rcases mem_insert he with rfl | hold
      · exact hafter
      · exact hfirst e hold

/-- The names of the flags that have something ascend, too. -/
theorem Ascending.having {α : Type} (h : flags.Ascending) (part? : FlagValue → Option α) :
    ((flags.having part?).map (·.1)).Pairwise (· < ·) := by
  rw [List.pairwise_map]
  refine h.filterMap _ ?_
  intro e e' hlt picked hpicked picked' hpicked'
  obtain ⟨a, -, rfl⟩ := Option.map_eq_some_iff.1 hpicked
  obtain ⟨a', -, rfl⟩ := Option.map_eq_some_iff.1 hpicked'
  exact hlt

end FlagTable

namespace LaunchSpec

/-! ### The layout -/

/-- What may stand at one place of a command line. -/
inductive Slot where
  /-- One parameter of this name. -/
  | always (name : String)
  /-- One parameter of this name, or none. -/
  | maybe (name : String)
  /-- Any number of parameters of this name. -/
  | repeated (name : String)
  /-- The first map and all others, or none. -/
  | maps
  /-- The cooperative mode, or that it is off and another mode on, or none. -/
  | mode
  /-- Some flags that are sets of bits, in ascending order. -/
  | masks
  /-- Some flags that are on or off, in ascending order. -/
  | toggles

/-- Some known flags in ascending order, with the same characters before each of them. -/
def AreFlags (lead : String) (known names : List String) : Prop :=
  ∃ flags : List String, flags.Pairwise (· < ·) ∧ (∀ flag ∈ flags, flag ∈ known) ∧
    names = flags.map (lead ++ ·)

/-- May parameters with some names stand at a place? -/
def Slot.Admits : Slot → List String → Prop
  | .always name, names => names = [name]
  | .maybe name, names => names = [] ∨ names = [name]
  | .repeated name, names => ∃ count, names = List.replicate count name
  | .maps, names => names = [] ∨ ∃ count, names = "+map" :: List.replicate count "+addmap"
  | .mode, names =>
    names = [] ∨ names = ["+cooperative"] ∨
      ∃ mode : Gamemode, mode ≠ .cooperative ∧ names = ["+cooperative", "+" ++ mode.cvar]
  | .masks, names => AreFlags "+" maskFlags names
  | .toggles, names => AreFlags "+sv_" toggleFlags names

/-- The places of a command line between the program and the end. -/
def layout : List Slot := [
  .always "-port", .always "+exec", .always "-iwad", .repeated "-file", .repeated "-optfile", .maps,
  .always "+skill", .mode, .masks, .maybe "+instagib", .maybe "+buckshot", .toggles, .maybe "+exec",
  .always "+sv_hostname", .always "+sv_rconpassword", .always "+sv_password",
  .always "+sv_joinpassword", .always "+sv_banfile", .always "+sv_adminlistfile",
  .always "+sv_banexemptionfile"]

/-- Parameters for each place of the layout. -/
def Fills (groups : List (List Parameter)) : Prop :=
  List.Forall₂ (fun slot group => Slot.Admits slot (group.map (·.1))) layout groups

/-- A command line is the program, then names and values in turn in the order of the layout, and
    then the word that makes the engine host. -/
def LaidOut (program : Path) (argv : List String) : Prop :=
  ∃ groups, Fills groups ∧
    argv = program :: (groups.flatten.flatMap fun (name, value) => [name, value]) ++ ["-host"]

/-! ### Reading names -/

/-- Parameters that belong together. -/
inductive Part where
  /-- Parameters of one name. -/
  | named (name : String)
  | maps
  | mode
  | masks
  | toggles
deriving DecidableEq

/-- What a parameter of a name belongs to. -/
def Part.ofName (name : String) : Part :=
  if name ∈ ["+map", "+addmap"] then .maps
  else if name ∈ Gamemode.all.map ("+" ++ ·.cvar) then .mode
  else if name ∈ maskFlags.map ("+" ++ ·) then .masks
  else if name ∈ toggleFlags.map ("+sv_" ++ ·) then .toggles
  else .named name

/-- What stands at a place. -/
def Slot.part : Slot → Part
  | .always name | .maybe name | .repeated name => .named name
  | .maps => .maps
  | .mode => .mode
  | .masks => .masks
  | .toggles => .toggles

/-- The name at a place where all parameters have the same one. -/
def Slot.name? : Slot → Option String
  | .always name | .maybe name | .repeated name => some name
  | .maps | .mode | .masks | .toggles => none

variable {names : List String} {slot : Slot} {slots : List Slot} {groups groups' : List (List Parameter)}

theorem ofName_of_mem_maskFlags : ∀ flag ∈ maskFlags, Part.ofName ("+" ++ flag) = .masks := by
  decide +kernel

theorem ofName_of_mem_toggleFlags :
    ∀ flag ∈ toggleFlags, Part.ofName ("+sv_" ++ flag) = .toggles := by
  decide +kernel

theorem ofName_cvar (mode : Gamemode) : Part.ofName ("+" ++ mode.cvar) = .mode := by
  cases mode <;> decide +kernel

theorem ofName_of_mem_layout :
    ∀ name ∈ layout.filterMap Slot.name?, Part.ofName name = .named name := by
  decide +kernel

/-- What stands at a place is known by its name. -/
theorem ofName_of_admits (hslot : slot ∈ layout) (h : slot.Admits names) :
    ∀ name ∈ names, Part.ofName name = slot.part := by
  intro name hname
  cases slot with
  | always only =>
    have hown := ofName_of_mem_layout only (List.mem_filterMap.2 ⟨_, hslot, rfl⟩)
    rw [show names = [only] from h, List.mem_singleton] at hname
    rw [hname, hown, Slot.part]
  | maybe only =>
    have hown := ofName_of_mem_layout only (List.mem_filterMap.2 ⟨_, hslot, rfl⟩)
    rcases h with rfl | rfl
    · cases hname
    · rw [List.mem_singleton.1 hname, hown, Slot.part]
  | repeated only =>
    have hown := ofName_of_mem_layout only (List.mem_filterMap.2 ⟨_, hslot, rfl⟩)
    obtain ⟨count, rfl⟩ := h
    rw [List.eq_of_mem_replicate hname, hown, Slot.part]
  | maps =>
    rcases h with rfl | ⟨count, rfl⟩
    · cases hname
    · rcases List.mem_cons.1 hname with rfl | hother
      · decide +kernel
      · rw [List.eq_of_mem_replicate hother]
        decide +kernel
  | mode =>
    rcases h with rfl | rfl | ⟨mode, -, rfl⟩
    · cases hname
    · rw [List.mem_singleton.1 hname]
      exact ofName_cvar .cooperative
    · simp only [List.mem_cons, List.not_mem_nil, or_false] at hname
      rcases hname with rfl | rfl
      · exact ofName_cvar .cooperative
      · exact ofName_cvar mode
  | masks =>
    obtain ⟨flags, -, hknown, rfl⟩ := h
    obtain ⟨flag, hflag, rfl⟩ := List.mem_map.1 hname
    exact ofName_of_mem_maskFlags flag (hknown flag hflag)
  | toggles =>
    obtain ⟨flags, -, hknown, rfl⟩ := h
    obtain ⟨flag, hflag, rfl⟩ := List.mem_map.1 hname
    exact ofName_of_mem_toggleFlags flag (hknown flag hflag)

/-- The parameters at all places for one part. -/
def collect (part : Part) (slots : List Slot) (groups : List (List Parameter)) : List Parameter :=
  ((slots.zip groups).filter fun place => place.1.part = part).flatMap (·.2)

/-- The names alone tell which parameters are those of a part. -/
theorem filter_flatten (hslots : ∀ slot ∈ slots, slot ∈ layout)
    (h : List.Forall₂ (fun slot group => Slot.Admits slot (group.map (·.1))) slots groups)
    (part : Part) :
    groups.flatten.filter (fun q => Part.ofName q.1 = part) = collect part slots groups := by
  induction h with
  | nil => rfl
  | @cons slot group slots groups hadmits _ ih =>
    have hgroup : ∀ q ∈ group, Part.ofName q.1 = slot.part := fun q hq =>
      ofName_of_admits (hslots slot List.mem_cons_self) hadmits q.1 (List.mem_map_of_mem hq)
    have hrest := ih fun other hother => hslots other (List.mem_cons_of_mem _ hother)
    rw [List.flatten_cons, List.filter_append, hrest, collect, collect, List.zip_cons_cons,
      List.filter_cons]
    by_cases hpart : slot.part = part
    · rw [if_pos (by simpa using hpart), List.flatMap_cons, List.filter_eq_self.2]
      intro q hq
      rw [decide_eq_true_eq, hgroup q hq, hpart]
    · rw [if_neg (by simpa using hpart), List.filter_eq_nil_iff.2, List.nil_append]
      intro q hq
      rw [decide_eq_true_eq, hgroup q hq]
      exact hpart

/-- Where all parameters are the same they are the same part by part. -/
theorem parts_inj (hfills : Fills groups) (hfills' : Fills groups')
    (h : groups.flatten = groups'.flatten) (part : Part) :
    collect part layout groups = collect part layout groups' := by
  rw [← filter_flatten (fun _ hslot => hslot) hfills part,
    ← filter_flatten (fun _ hslot => hslot) hfills' part, h]

/-- Names and values that take turns are the same where the texts are. -/
theorem turns_inj {ps ps' : List Parameter}
    (h : (ps.flatMap fun (name, value) => [name, value]) =
      ps'.flatMap fun (name, value) => [name, value]) : ps = ps' := by
  induction ps generalizing ps' with
  | nil =>
    cases ps' with
    | nil => rfl
    | cons q ps' => cases h
  | cons q ps ih =>
    cases ps' with
    | nil => cases h
    | cons q' ps' =>
      simp only [List.flatMap_cons, List.cons_append, List.nil_append, List.cons.injEq] at h
      obtain ⟨hname, hvalue, hrest⟩ := h
      rw [Prod.ext hname hvalue, ih hrest]

/-! ### The parts of a specification -/

/-- The parameters of a launch for each place of the layout. -/
def sections (c : Config) (spec : LaunchSpec) (port : UInt16) : List (List Parameter) := [
  [("-port", toString port)],
  [("+exec", Path.join c.host.configDir "global.cfg")],
  [("-iwad", Path.join c.host.iwadDir spec.iwad)],
  (c.loadOrder spec).map fun wad => ("-file", c.loadPath wad),
  spec.optionalWads.map fun name => ("-optfile", Path.join c.host.wadDir name),
  mapParameters spec.maps,
  [("+skill", toString spec.skillOrDefault)],
  modeParameters spec.gamemode,
  maskParameters spec.flags,
  if spec.instagib then [("+instagib", "1")] else [],
  if spec.buckshot then [("+buckshot", "1")] else [],
  toggleParameters spec.flags,
  match spec.config with
    | some name => [("+exec", Path.join c.host.configDir name)]
    | none => [],
  [("+sv_hostname", c.host.hostnameBase ++ " " ++ spec.hostname)],
  [("+sv_rconpassword", spec.credentials.rconPassword)],
  [("+sv_password", spec.credentials.connectPassword)],
  [("+sv_joinpassword", spec.credentials.connectPassword)],
  [("+sv_banfile", ownerFile c.host.banlistDir spec.owner)],
  [("+sv_adminlistfile", ownerFile c.host.adminlistDir spec.owner)],
  [("+sv_banexemptionfile", ownerFile c.host.whitelistDir spec.owner)]]

variable {c : Config} {spec spec' : LaunchSpec} {port port' : UInt16}

theorem parameters_eq : spec.parameters c port = (sections c spec port).flatten := by
  unfold parameters sections
  cases spec.config <;>
    simp only [List.flatten_cons, List.flatten_nil, List.append_assoc, List.cons_append,
      List.nil_append, List.append_nil]

/-- The parameters for sets of bits are those that are not empty. -/
theorem maskParameters_eq (flags : FlagTable) :
    maskParameters flags = flags.masks.map fun (name, bits) => ("+" ++ name, toString bits) := by
  rw [maskParameters, FlagTable.masks, FlagTable.having, List.map_filterMap]
  refine List.filterMap_congr fun e _ => ?_
  obtain ⟨name, value⟩ := e
  cases value with
  | mask bits =>
    dsimp only
    split <;> rfl
  | toggle on => rfl

theorem toggleParameters_eq (flags : FlagTable) :
    toggleParameters flags =
      flags.toggles.map fun (name, on) => ("+sv_" ++ name, if on then "1" else "0") := by
  rw [toggleParameters, FlagTable.toggles, FlagTable.having, List.map_filterMap]
  refine List.filterMap_congr fun e _ => ?_
  obtain ⟨name, value⟩ := e
  cases value <;> rfl

/-- The flags that have something are known and ascend where all flags do. -/
theorem areFlags_having {α : Type} {flags : FlagTable} (hascending : flags.Ascending)
    {part? : FlagValue → Option α} {known : List String}
    (hknown : ∀ name value a, (name, value) ∈ flags → part? value = some a → name ∈ known)
    (lead : String) : AreFlags lead known ((flags.having part?).map (lead ++ ·.1)) := by
  refine ⟨(flags.having part?).map (·.1), hascending.having part?, ?_, ?_⟩
  · intro flag hflag
    obtain ⟨⟨name, a⟩, hmem, rfl⟩ := List.mem_map.1 hflag
    obtain ⟨value, hvalue, ha⟩ := FlagTable.mem_having_iff.1 hmem
    exact hknown name value a hvalue ha
  · rw [List.map_map]
    rfl

theorem admits_masks (hascending : spec.flags.Ascending)
    (hfits : ∀ e ∈ spec.flags, e.2.Fits e.1) :
    Slot.Admits .masks ((maskParameters spec.flags).map (·.1)) := by
  rw [maskParameters_eq, List.map_map]
  refine areFlags_having hascending ?_ "+"
  intro name value a hmem ha
  have hknown := hfits _ hmem
  cases value with
  | mask bits => exact hknown
  | toggle on => cases ha

theorem admits_toggles (hascending : spec.flags.Ascending)
    (hfits : ∀ e ∈ spec.flags, e.2.Fits e.1) :
    Slot.Admits .toggles ((toggleParameters spec.flags).map (·.1)) := by
  rw [toggleParameters_eq, List.map_map]
  refine areFlags_having hascending ?_ "+sv_"
  intro name value a hmem ha
  have hknown := hfits _ hmem
  cases value with
  | mask bits => cases ha
  | toggle on => exact hknown

theorem admits_maps (maps : List String) :
    Slot.Admits .maps ((mapParameters maps).map (·.1)) := by
  cases maps with
  | nil => exact Or.inl rfl
  | cons first others =>
    refine Or.inr ⟨others.length, ?_⟩
    rw [mapParameters, List.map_cons, List.map_map, ← List.map_const']
    rfl

theorem admits_mode (mode : Option Gamemode) :
    Slot.Admits .mode ((modeParameters mode).map (·.1)) := by
  unfold modeParameters
  split
  · exact Or.inl rfl
  · exact Or.inr (Or.inl rfl)
  next mode hother => exact Or.inr (Or.inr ⟨mode, hother, rfl⟩)

theorem admits_repeated {α : Type} (name : String) (value : α → String) (l : List α) :
    Slot.Admits (.repeated name) ((l.map fun a => (name, value a)).map (·.1)) := by
  refine ⟨l.length, ?_⟩
  rw [List.map_map, ← List.map_const']
  rfl

theorem admits_maybe (name value : String) (on : Bool) :
    Slot.Admits (.maybe name) ((if on then [(name, value)] else []).map (·.1)) := by
  cases on with
  | true => exact Or.inr rfl
  | false => exact Or.inl rfl

/-- Where the flags are known and ascend the parameters keep to the layout. -/
theorem fills_sections (hascending : spec.flags.Ascending)
    (hfits : ∀ e ∈ spec.flags, e.2.Fits e.1) : Fills (sections c spec port) := by
  have hconfig : Slot.Admits (.maybe "+exec") ((match spec.config with
      | some name => [("+exec", Path.join c.host.configDir name)]
      | none => []).map Prod.fst) := by
    cases spec.config with
    | none => exact Or.inl rfl
    | some name => exact Or.inr rfl
  refine .cons rfl <| .cons rfl <| .cons rfl <| .cons (admits_repeated ..) <|
    .cons (admits_repeated ..) <| .cons (admits_maps _) <| .cons rfl <| .cons (admits_mode _) <|
    .cons (admits_masks hascending hfits) <| .cons (admits_maybe ..) <|
    .cons (admits_maybe ..) <| .cons (admits_toggles hascending hfits) <| .cons hconfig ?_
  exact .cons rfl <| .cons rfl <| .cons rfl <| .cons rfl <| .cons rfl <| .cons rfl <| .cons rfl .nil

/-! ### What the parts tell -/

/-- The maps are the values of their parameters. -/
theorem map_snd_mapParameters (maps : List String) : (mapParameters maps).map (·.2) = maps := by
  cases maps with
  | nil => rfl
  | cons first others =>
    rw [mapParameters, List.map_cons, List.map_map]
    exact congrArg (first :: ·) (List.map_id others)

theorem cvar_injective : Function.Injective Gamemode.cvar := by
  intro mode mode' h
  have hfound : ∀ mode : Gamemode,
      Gamemode.all.find? (fun other => other.cvar = mode.cvar) = some mode := by
    intro mode
    cases mode <;> decide +kernel
  have hsame := hfound mode
  rw [h, hfound mode', Option.some.injEq] at hsame
  exact hsame.symm

/-- The mode that is played is turned on last. -/
theorem getLast?_modeParameters (mode : Option Gamemode) :
    (modeParameters mode).getLast? = mode.map fun mode => ("+" ++ mode.cvar, "1") := by
  unfold modeParameters
  split
  · rfl
  · rfl
  · rfl

theorem modeParameters_injective : Function.Injective modeParameters := by
  intro mode mode' h
  have hlast := congrArg List.getLast? h
  rw [getLast?_modeParameters, getLast?_modeParameters] at hlast
  refine Option.map_injective (fun played played' heq => ?_) hlast
  exact cvar_injective ((String.append_right_inj "+").1 (Prod.mk.inj heq).1)

theorem maskParameters_inj {flags flags' : FlagTable}
    (h : maskParameters flags = maskParameters flags') : flags.masks = flags'.masks := by
  rw [maskParameters_eq, maskParameters_eq] at h
  refine List.map_injective_iff.2 ?_ h
  rintro ⟨name, bits⟩ ⟨name', bits'⟩ heq
  obtain ⟨hname, hbits⟩ := Prod.mk.inj heq
  have hnat : bits.toNat = bits'.toNat := Number.toString_injective hbits
  rw [(String.append_right_inj "+").1 hname, UInt32.toNat_inj.1 hnat]

theorem toggleParameters_inj {flags flags' : FlagTable}
    (h : toggleParameters flags = toggleParameters flags') : flags.toggles = flags'.toggles := by
  rw [toggleParameters_eq, toggleParameters_eq] at h
  refine List.map_injective_iff.2 ?_ h
  rintro ⟨name, on⟩ ⟨name', on'⟩ heq
  obtain ⟨hname, hon⟩ := Prod.mk.inj heq
  rw [(String.append_right_inj "+sv_").1 hname]
  -- A flag that is on has the value 1 and no other.
  cases on <;> cases on' <;> simp at hon ⊢

/-- Names without slashes are told by their paths. -/
theorem map_join_inj {dir : Path} {names names' : List String}
    (hnames : ∀ name ∈ names, '/' ∉ name.toList) (hnames' : ∀ name ∈ names', '/' ∉ name.toList)
    (h : names.map (Path.join dir) = names'.map (Path.join dir)) : names = names' := by
  induction names generalizing names' with
  | nil => exact (List.map_eq_nil_iff.1 h.symm).symm
  | cons name names ih =>
    cases names' with
    | nil => cases h
    | cons name' names' =>
      rw [List.map_cons, List.map_cons, List.cons.injEq] at h
      obtain ⟨-, hname⟩ := Path.join_inj (hnames name List.mem_cons_self)
        (hnames' name' List.mem_cons_self) h.1
      rw [hname, ih (fun other hother => hnames other (List.mem_cons_of_mem _ hother))
        (fun other hother => hnames' other (List.mem_cons_of_mem _ hother)) h.2]

/-! ### Credentials -/

theorem splitAtByte_append (size : Nat) (cs : List Char) :
    (splitAtByte size cs).1 ++ (splitAtByte size cs).2 = cs := by
  induction cs generalizing size with
  | nil => rfl
  | cons c cs ih =>
    rw [splitAtByte]
    split
    · exact congrArg (c :: ·) (ih (size - c.utf8Size))
    · rfl

/-- The two passwords put together are the identifier. -/
theorem ofId_append (id : String) :
    (Credentials.ofId id).rconPassword ++ (Credentials.ofId id).connectPassword = id := by
  rw [Credentials.ofId, ← String.ofList_append, splitAtByte_append, String.ofList_toList]

/-! ### Equal command lines -/

/-- Everything by which a launch is known to the engine. -/
structure SameLaunch (c : Config) (spec spec' : LaunchSpec) : Prop where
  /-- The program of the engine version. -/
  program : spec.version.path = spec'.version.path
  /-- The main game file. -/
  iwad : spec.iwad = spec'.iwad
  /-- The files that are loaded, in order. -/
  files : (c.loadOrder spec).map c.loadPath = (c.loadOrder spec').map c.loadPath
  /-- The files that players may have or not, in order. -/
  optionalWads : spec.optionalWads = spec'.optionalWads
  /-- The maps, in order. -/
  maps : spec.maps = spec'.maps
  /-- The skill to play with. -/
  skill : spec.skillOrDefault = spec'.skillOrDefault
  /-- How to play. -/
  gamemode : spec.gamemode = spec'.gamemode
  /-- The sets of bits that are not empty. -/
  masks : spec.flags.masks = spec'.flags.masks
  /-- The flags that are on or off. -/
  toggles : spec.flags.toggles = spec'.flags.toggles
  /-- One hit kills. -/
  instagib : spec.instagib = spec'.instagib
  /-- Shotguns alone. -/
  buckshot : spec.buckshot = spec'.buckshot
  /-- The engine's configuration file. -/
  config : spec.config = spec'.config
  /-- The name that players see. -/
  hostname : spec.hostname = spec'.hostname
  /-- The identifier and the passwords. -/
  credentials : spec.credentials = spec'.credentials
  /-- The name of the owner's files. -/
  ownerFiles : cleanFileName spec.owner = cleanFileName spec'.owner

/-- What holds of every specification that is built, and makes its command line readable. -/
structure Readable (spec : LaunchSpec) : Prop where
  /-- The names of files hold no slash. -/
  iwad : '/' ∉ spec.iwad.toList
  optionalWads : ∀ name ∈ spec.optionalWads, '/' ∉ name.toList
  config : ∀ name ∈ spec.config, '/' ∉ name.toList
  /-- The flags are known, and they ascend. -/
  flags : ∀ e ∈ spec.flags, e.2.Fits e.1
  ascending : spec.flags.Ascending
  /-- The passwords are made from the identifier. -/
  credentials : spec.credentials = .ofId spec.credentials.id

/-- The credentials are told by the passwords. -/
theorem Readable.credentials_eq (h : spec.Readable) (h' : spec'.Readable)
    (hrcon : spec.credentials.rconPassword = spec'.credentials.rconPassword)
    (hconnect : spec.credentials.connectPassword = spec'.credentials.connectPassword) :
    spec.credentials = spec'.credentials := by
  have hid : spec.credentials.id = spec'.credentials.id := by
    rw [← ofId_append spec.credentials.id, ← ofId_append spec'.credentials.id, ← h.credentials,
      ← h'.credentials, hrcon, hconnect]
  rw [h.credentials, h'.credentials, hid]

theorem ownerFile_inj {dir : Path} {owner owner' : String}
    (h : ownerFile dir owner = ownerFile dir owner') : cleanFileName owner = cleanFileName owner' := by
  have hplain : ∀ owner : String, '/' ∉ (cleanFileName owner ++ ".txt").toList := by
    intro owner hmem
    rw [String.toList_append, List.mem_append] at hmem
    rcases hmem with hname | hend
    · exact separator_not_mem_cleanFileName (.inl rfl) owner hname
    · revert hend
      decide
  obtain ⟨-, hname⟩ := Path.join_inj (hplain owner) (hplain owner') h
  exact (String.append_left_inj ".txt").1 hname

/-- A specification and a port are read off the parameters part by part. -/
theorem Readable.of_parts (h : spec.Readable) (h' : spec'.Readable)
    (hprogram : spec.version.path = spec'.version.path)
    (hparts : ∀ part, collect part layout (sections c spec port) =
      collect part layout (sections c spec' port')) :
    port = port' ∧ SameLaunch c spec spec' := by
  have hport : toString port = toString port' := by
    simpa [collect, layout, sections, Slot.part] using hparts (.named "-port")
  have hrcon : spec.credentials.rconPassword = spec'.credentials.rconPassword := by
    simpa [collect, layout, sections, Slot.part] using hparts (.named "+sv_rconpassword")
  have hconnect : spec.credentials.connectPassword = spec'.credentials.connectPassword := by
    simpa [collect, layout, sections, Slot.part] using hparts (.named "+sv_password")
  refine ⟨UInt16.toNat_inj.1 (Number.toString_injective (show toString port.toNat = _ from hport)), ?_⟩
  constructor
  case program => exact hprogram
  case iwad =>
    have hiwad : Path.join c.host.iwadDir spec.iwad = Path.join c.host.iwadDir spec'.iwad := by
      simpa [collect, layout, sections, Slot.part] using hparts (.named "-iwad")
    exact (Path.join_inj h.iwad h'.iwad hiwad).2
  case files =>
    have hfiles : (c.loadOrder spec).map (fun wad => ("-file", c.loadPath wad)) =
        (c.loadOrder spec').map fun wad => ("-file", c.loadPath wad) := by
      simpa [collect, layout, sections, Slot.part] using hparts (.named "-file")
    simpa [Function.comp_def] using congrArg (List.map Prod.snd) hfiles
  case optionalWads =>
    have hoptional : spec.optionalWads.map (fun name => ("-optfile", Path.join c.host.wadDir name)) =
        spec'.optionalWads.map fun name => ("-optfile", Path.join c.host.wadDir name) := by
      simpa [collect, layout, sections, Slot.part] using hparts (.named "-optfile")
    have hjoined : spec.optionalWads.map (Path.join c.host.wadDir) =
        spec'.optionalWads.map (Path.join c.host.wadDir) := by
      simpa [Function.comp_def] using congrArg (List.map Prod.snd) hoptional
    exact map_join_inj h.optionalWads h'.optionalWads hjoined
  case maps =>
    have hmaps : mapParameters spec.maps = mapParameters spec'.maps := by
      simpa [collect, layout, sections, Slot.part] using hparts .maps
    rw [← map_snd_mapParameters spec.maps, hmaps, map_snd_mapParameters]
  case skill =>
    have hskill : toString spec.skillOrDefault = toString spec'.skillOrDefault := by
      simpa [collect, layout, sections, Slot.part] using hparts (.named "+skill")
    exact UInt8.toNat_inj.1
      (Number.toString_injective (show toString spec.skillOrDefault.toNat = _ from hskill))
  case gamemode =>
    exact modeParameters_injective (by
      simpa [collect, layout, sections, Slot.part] using hparts .mode)
  case masks =>
    exact maskParameters_inj (by
      simpa [collect, layout, sections, Slot.part] using hparts .masks)
  case toggles =>
    exact toggleParameters_inj (by
      simpa [collect, layout, sections, Slot.part] using hparts .toggles)
  case instagib =>
    have hinstagib := hparts (.named "+instagib")
    cases hon : spec.instagib <;> cases hon' : spec'.instagib <;>
      simp [collect, layout, sections, Slot.part, hon, hon'] at hinstagib ⊢
  case buckshot =>
    have hbuckshot := hparts (.named "+buckshot")
    cases hon : spec.buckshot <;> cases hon' : spec'.buckshot <;>
      simp [collect, layout, sections, Slot.part, hon, hon'] at hbuckshot ⊢
  case config =>
    -- The parameter is the second one of its name: the configuration's own file comes first.
    have hexec := hparts (.named "+exec")
    cases hfile : spec.config with
    | none =>
      cases hfile' : spec'.config with
      | none => rfl
      | some name' => simp [collect, layout, sections, Slot.part, hfile, hfile'] at hexec
    | some name =>
      cases hfile' : spec'.config with
      | none => simp [collect, layout, sections, Slot.part, hfile, hfile'] at hexec
      | some name' =>
        have hpath : Path.join c.host.configDir name = Path.join c.host.configDir name' := by
          simpa [collect, layout, sections, Slot.part, hfile, hfile'] using hexec
        rw [(Path.join_inj (h.config name hfile) (h'.config name' hfile') hpath).2]
  case hostname =>
    simpa [collect, layout, sections, Slot.part] using hparts (.named "+sv_hostname")
  case credentials => exact h.credentials_eq h' hrcon hconnect
  case ownerFiles =>
    have hbans : ownerFile c.host.banlistDir spec.owner = ownerFile c.host.banlistDir spec'.owner := by
      simpa [collect, layout, sections, Slot.part] using hparts (.named "+sv_banfile")
    exact ownerFile_inj hbans

/-- What is known to the engine makes the command line. -/
theorem SameLaunch.commandLine_eq (h : SameLaunch c spec spec') :
    spec.commandLine c port = spec'.commandLine c port := by
  have hfiles : (c.loadOrder spec).map (fun wad => ("-file", c.loadPath wad)) =
      (c.loadOrder spec').map fun wad => ("-file", c.loadPath wad) := by
    simpa [Function.comp_def] using congrArg (List.map fun path => ("-file", path)) h.files
  have hsections : sections c spec port = sections c spec' port := by
    simp only [sections, hfiles, maskParameters_eq, toggleParameters_eq, ownerFile, h.iwad,
      h.optionalWads, h.maps, h.skill, h.gamemode, h.masks, h.toggles, h.instagib, h.buckshot,
      h.config, h.hostname, h.credentials, h.ownerFiles]
  rw [commandLine, commandLine, parameters_eq, parameters_eq, hsections, h.program]

end LaunchSpec

namespace BuildContext

open LaunchSpec

variable {b b' : BuildContext} {owner owner' id id' : String} {level level' : AccountLevel}
  {options options' : OptionList} {port port' : Option UInt16} {recovering recovering' : Bool}
  {spec spec' : LaunchSpec}

/-- However many options are applied, the flags ascend. -/
theorem ascending_applyAll {d : LaunchDraft}
    (h : (LaunchDraft.start port).applyAll b options = .ok d) : d.flags.Ascending := by
  have hstart : (LaunchDraft.start port).flags.Ascending := List.Pairwise.nil
  refine LaunchDraft.applyAll_induction (P := fun _ d => d.flags.Ascending) hstart ?_ h
  intro _ d key value d' hascending happly
  cases LaunchDraft.applied_of_apply happly with
  | mask | toggle => exact hascending.insert _ _
  | _ => exact hascending

theorem readable_of_build (h : b.build owner level options port recovering id = .ok spec) :
    spec.Readable := by
  obtain ⟨d, happly, hfinished⟩ := finished_of_build h
  have hchecked : d.Checked b := LaunchDraft.checked_applyAll happly
  have hnames : d.NamesFiles := LaunchDraft.namesFiles_applyAll happly
  constructor
  case iwad => exact hchecked.iwad _ hfinished.iwad
  case optionalWads =>
    rw [hfinished.optionalWads]
    exact hnames.optionalWads
  case config =>
    rw [hfinished.config]
    exact fun name hname => (hchecked.config name hname).2
  case flags =>
    rw [hfinished.flags]
    exact hchecked.flags
  case ascending =>
    rw [hfinished.flags]
    exact ascending_applyAll happly
  case credentials =>
    -- The credentials are those of the identifier, whatever else was decided.
    have hbuild : b.finish owner level options recovering id d = .ok spec := by
      rwa [build, happly] at h
    have hsame := b.finish_eq owner level options options recovering id id d
    rw [hbuild] at hsame
    have hcredentials := congrArg LaunchSpec.credentials (Except.ok.inj hsame)
    exact hcredentials.trans (congrArg Credentials.ofId hfinished.id.symm)

/-- The command line loses nothing. Every command line is the program, the parameters in the order
    of the layout, and the end. And two specifications that are built under one configuration give
    the same command line where, and only where, they are launched on one port and agree in
    everything that the engine is told. -/
theorem commandLine_tells (hconfig : b'.config = b.config)
    (h : b.build owner level options port recovering id = .ok spec)
    (h' : b'.build owner' level' options' port' recovering' id' = .ok spec')
    (launchPort launchPort' : UInt16) :
    LaidOut spec.version.path (spec.commandLine b.config launchPort) ∧
      (spec.commandLine b.config launchPort = spec'.commandLine b'.config launchPort' ↔
        launchPort = launchPort' ∧ SameLaunch b.config spec spec') := by
  have hreadable : spec.Readable := readable_of_build h
  have hreadable' : spec'.Readable := readable_of_build h'
  have hfills : Fills (sections b.config spec launchPort) :=
    fills_sections hreadable.ascending hreadable.flags
  have hfills' : Fills (sections b.config spec' launchPort') :=
    fills_sections hreadable'.ascending hreadable'.flags
  refine ⟨⟨_, hfills, by rw [commandLine, parameters_eq]⟩, ?_⟩
  rw [hconfig]
  constructor
  · intro hlines
    rw [commandLine, commandLine, List.cons_append, List.cons_append, List.cons.injEq] at hlines
    obtain ⟨hprogram, hturns⟩ := hlines
    have hparameters := turns_inj (List.append_cancel_right hturns)
    rw [parameters_eq, parameters_eq] at hparameters
    exact hreadable.of_parts hreadable' hprogram (parts_inj hfills hfills' hparameters)
  · rintro ⟨rfl, hsame⟩
    exact hsame.commandLine_eq

/-- Options that the engine is told nothing about: the server is launched again, and a skill is asked
    for that is the usual one. -/
def quietOptions : OptionList :=
  [("iwad", "Doom2"), ("wads", "/nerve.wad"), ("hostname", "duel"), ("skill", "3"),
    ("maps", "-host,+skill"), ("dmflags", "0"), ("allowjump", "on"), ("autorestart", "on")]

/-- The same without them, and maps that look like parameters all the same. -/
def plainOptions : OptionList :=
  [("iwad", "doom2.wad"), ("files", "nerve.wad"), ("hostname", "duel"), ("map", "-host"),
    ("maps", "+skill"), ("allowjump", "1")]

/-- Two requests whose options differ are launched with the same command line, and they agree in all
    that it tells. -/
theorem commandLine_tells_plain :
    ∃ spec spec', withSettings.build "al" .registered quietOptions none false "id" = .ok spec ∧
      withSettings.build "al" .vip plainOptions none true "id" = .ok spec' ∧ spec ≠ spec' ∧
      spec.commandLine withSettings.config 10 = spec'.commandLine withSettings.config 10 ∧
      SameLaunch withSettings.config spec spec' ∧
      LaidOut "/e/server" (spec.commandLine withSettings.config 10) := by
  have hrun : (withSettings.build "al" .registered quietOptions none false "id").toOption.any
      (fun spec => (withSettings.build "al" .vip plainOptions none true "id").toOption.any
        fun spec' => spec ≠ spec' ∧ spec.version.path = "/e/server" ∧
          spec.commandLine withSettings.config 10 =
            spec'.commandLine withSettings.config 10) = true := by
    decide +kernel
  obtain ⟨spec, hbuild, hspec⟩ := exists_ok_of_any hrun
  obtain ⟨spec', hbuild', hspec'⟩ := exists_ok_of_any hspec
  obtain ⟨hne, hprogram, hlines⟩ := of_decide_eq_true hspec'
  obtain ⟨hlayout, htells⟩ := commandLine_tells rfl hbuild hbuild' 10 10
  exact ⟨spec, spec', hbuild, hbuild', hne, hlines, (htells.1 hlines).2, hprogram ▸ hlayout⟩

end BuildContext

end HostDaemon
