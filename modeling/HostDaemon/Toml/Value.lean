/-! # TOML values

What a configuration file can hold. Dates are read and not looked into, since no setting is a
date. -/

namespace HostDaemon

/-- A TOML value. -/
inductive Toml where
  /-- A string. -/
  | text (s : String)
  /-- A whole number between `-2⁶³` and `2⁶⁴ - 1`. -/
  | integer (n : Int)
  /-- A fraction. -/
  | fraction (x : Float)
  /-- `true` or `false`. -/
  | boolean (b : Bool)
  /-- A date, a time of day, or both. -/
  | date
  /-- An array. -/
  | array (items : List Toml)
  /-- A table; no key occurs twice. -/
  | table (entries : List (String × Toml))
deriving Repr, Inhabited

end HostDaemon
