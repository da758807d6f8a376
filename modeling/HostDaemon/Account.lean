/-! # Accounts

Who may do what: every account has a level, and the levels form a ladder. Accounts are told apart
by their names, without regard to the case of the letters A to Z. -/

namespace HostDaemon

/-- How much an account may do, from least to most. -/
inductive AccountLevel where
  /-- Not known; may do nothing but look. -/
  | none
  /-- May host and control own servers. -/
  | registered
  /-- May also protect own servers and choose their names freely. -/
  | vip
  /-- May also act on the servers of others. -/
  | moderator
  /-- May do everything. -/
  | admin
deriving Repr, DecidableEq, Inhabited

namespace AccountLevel

/-- The step of the ladder on which a level stands. -/
def rank : AccountLevel → Nat
  | none => 0
  | registered => 1
  | vip => 2
  | moderator => 3
  | admin => 4

/-- Is the level as high as `required`, or higher? -/
def atLeast (level required : AccountLevel) : Bool := required.rank ≤ level.rank

/-- The name of a level. -/
def name : AccountLevel → String
  | none => "none"
  | registered => "registered"
  | vip => "vip"
  | moderator => "moderator"
  | admin => "admin"

/-- All levels from the lowest to the highest. -/
def all : List AccountLevel := [none, registered, vip, moderator, admin]

/-- The level with a name. -/
def ofName? (s : String) : Option AccountLevel := all.find? (·.name = s)

end AccountLevel

end HostDaemon
