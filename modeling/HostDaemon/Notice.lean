import HostDaemon.Text.Basic

/-! # Notices

Messages that go out to the owners of servers and to the staff. Whoever runs the daemon decides how
they are delivered; here they are values in the order in which they were sent. -/

namespace HostDaemon

/-- A message and for whom it is. -/
inductive Notice where
  /-- For the owner of a server. -/
  | owner (owner message : String)
  /-- For the staff, about what was done. -/
  | moderation (message : String)
  /-- For the staff, about what went wrong. -/
  | error (message : String)
deriving Repr, DecidableEq

/-- The text of a notice. -/
def Notice.message : Notice → String
  | .owner _ message | .moderation message | .error message => message

/-- Is the notice for an owner? -/
def Notice.isForOwner : Notice → Bool
  | .owner _ _ => true
  | _ => false

/-- The messages for owners in which `needle` stands. -/
def ownerMessagesContaining (needle : String) (notices : List Notice) : List String :=
  (notices.filter fun n => n.isForOwner && Text.occurs needle.toList n.message.toList).map
    (·.message)

end HostDaemon
