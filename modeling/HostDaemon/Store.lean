import HostDaemon.Config.Settings

/-! # The store

What the daemon asks about accounts, addresses and files, and the record of servers that started.
The answers come from the policy of the configuration; names of accounts are looked up exactly as
they are written. -/

namespace HostDaemon

/-- The hash of a game file. -/
structure WadDigest where
  /-- The name of the file. -/
  name : String
  /-- The hash of its contents in lowercase hexadecimal digits. -/
  hash : String
deriving Repr, DecidableEq

/-- A game file that is forbidden. -/
structure BlacklistHit where
  /-- The name of the file. -/
  wad : String
  /-- The name under which the file is forbidden. -/
  entry : String
  /-- Why. -/
  reason : String
  /-- The hash as it is written in the blacklist. -/
  hash : String
deriving Repr, DecidableEq

/-- A server that started. -/
structure StartRecord where
  /-- The name that players see. -/
  hostname : String
  /-- The identifier. -/
  id : String
  /-- The owner. -/
  owner : String
deriving Repr, DecidableEq

/-- How many start records are kept. -/
def recentStarts : Nat := 64

/-- The reason of a ban that has none. -/
def unspecifiedReason : String := "None Specified"

/-- Policy and start records. -/
structure Store where
  /-- What is known of accounts, addresses and files. -/
  policy : PolicySettings
  /-- How many servers an account may have that the policy does not name. -/
  defaultQuota : UInt32
  /-- The last start records, oldest first. -/
  starts : List StartRecord
deriving Repr

namespace Store

/-- A store without start records. -/
def ofPolicy (policy : PolicySettings) (defaultQuota : UInt32) : Store := ⟨policy, defaultQuota, []⟩

/-- How many servers an account may have. -/
def quota (s : Store) (owner : String) : UInt32 :=
  (s.policy.quotas.lookup owner).getD s.defaultQuota

/-- The level of an account. -/
def level (s : Store) (owner : String) : AccountLevel :=
  (s.policy.levels.lookup owner).getD .none

/-- The first file that is forbidden, with the first entry that forbids it. -/
def blacklistHit? (s : Store) (wads : List WadDigest) : Option BlacklistHit :=
  wads.findSome? fun wad =>
    (s.policy.blacklist.find? fun e => Text.sameLetters e.hash wad.hash).map fun e =>
      ⟨wad.name, e.name, e.reason, e.hash⟩

/-- Is the address never banned? -/
def isWhitelisted (s : Store) (ip : String) : Bool := s.policy.whitelist.contains ip

/-- Why the address is banned, where it is. -/
def banReason? (s : Store) (ip : String) : Option String :=
  (s.policy.bans.find? (·.ip = ip)).map fun b => b.reason.getD unspecifiedReason

/-- Record that a server started. Where as many are recorded as are kept, the oldest goes. -/
def recordStart (s : Store) (record : StartRecord) : Store :=
  let kept := if s.starts.length = recentStarts then s.starts.drop 1 else s.starts
  { s with starts := kept ++ [record] }

end Store

end HostDaemon
