import HostDaemon.Toml.Value

/-! # Sections of a configuration

Taking typed settings out of TOML values. A section is written as a table that holds no other keys
than its own, or as an array with the settings in their order. -/

namespace HostDaemon.Config

/-! ### Values of one type -/

/-- A string. -/
def text : Toml → Option String
  | .text s => some s
  | _ => none

/-- A truth value. -/
def bool : Toml → Option Bool
  | .boolean b => some b
  | _ => none

/-- A whole number without sign and not above a bound. -/
def natural (bound : Nat) : Toml → Option Nat
  | .integer n => if 0 ≤ n ∧ n ≤ bound then some n.toNat else none
  | _ => none

/-- A whole number of 16 bits. -/
def uint16 (v : Toml) : Option UInt16 := (natural 65535 v).map UInt16.ofNat

/-- A whole number of 32 bits. -/
def uint32 (v : Toml) : Option UInt32 := (natural 4294967295 v).map UInt32.ofNat

/-- A whole number of 64 bits. -/
def uint64 (v : Toml) : Option UInt64 := (natural 18446744073709551615 v).map UInt64.ofNat

/-- A number; a whole one may be written without a point. -/
def float : Toml → Option Float
  | .fraction x => some x
  | .integer n => some (if n < 0 then -(Float.ofNat n.natAbs) else Float.ofNat n.natAbs)
  | _ => none

/-- An array of values of one kind. -/
def list {α : Type} (read : Toml → Option α) : Toml → Option (List α)
  | .array items => items.mapM read
  | _ => none

/-- A table of values of one kind. -/
def map {α : Type} (read : Toml → Option α) : Toml → Option (List (String × α))
  | .table entries => entries.mapM fun (key, v) => (read v).map fun a => (key, a)
  | _ => none

/-- One of several names. A table or an array with nothing in it may follow the name, as the only
    entry of a table. -/
def oneOf {α : Type} (ofName : String → Option α) : Toml → Option α
  | .text s => ofName s
  | .table [(name, .table [])] => ofName name
  | .table [(name, .array [])] => ofName name
  | _ => none

/-! ### Sections -/

/-- What a section's settings are taken from. -/
inductive Section where
  /-- The entries of a table. -/
  | named (entries : List (String × Toml))
  /-- The items of an array. -/
  | listed (items : List Toml)

namespace Section

/-- The section that a value holds, where `names` are its settings. -/
def ofToml (names : List String) : Toml → Option Section
  | .table entries =>
    if entries.all fun (key, _) => key ∈ names then some (.named entries) else none
  | .array items => some (.listed items)
  | _ => none

/-- The value of a setting, which is the `index`-th where the settings are listed. -/
def setting? (s : Section) (index : Nat) (name : String) : Option Toml :=
  match s with
  | .named entries => entries.lookup name
  | .listed items => items[index]?

/-- A setting that has to be there. -/
def required {α : Type} (s : Section) (index : Nat) (name : String) (read : Toml → Option α) :
    Option α :=
  (s.setting? index name).bind read

/-- A setting that may be missing. -/
def withDefault {α : Type} (s : Section) (index : Nat) (name : String) (default : α)
    (read : Toml → Option α) : Option α :=
  match s.setting? index name with
  | some v => read v
  | none => some default

/-- A setting without a default, which a table may leave out and an array may not. -/
def optional {α : Type} (s : Section) (index : Nat) (name : String) (read : Toml → Option α) :
    Option (Option α) :=
  match s.setting? index name, s with
  | some v, _ => (read v).map some
  | none, .named _ => some none
  | none, .listed _ => none

end Section

end HostDaemon.Config
