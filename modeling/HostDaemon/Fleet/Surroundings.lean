import HostDaemon.Url.Basic

/-! # Surroundings

What a step of the daemon finds outside of it: the time, which ports other programs hold, what the
reputation service answers, and the identifiers that are given to what is made anew. Every step may
find other surroundings. -/

namespace HostDaemon

/-- What a step finds outside of the daemon. -/
structure Surroundings where
  /-- The time, in milliseconds since 1970. -/
  now : Int64
  /-- Is a port held by no other program? -/
  isFree : UInt16 → Bool
  /-- The body of a good reply to a URL. -/
  fetch : Url → Option String
  /-- An identifier that no server has had. -/
  freshId : String
  /-- The identifier of the next process. -/
  freshPid : UInt32

/-- The time in seconds. -/
def Surroundings.nowSeconds (env : Surroundings) : Int := env.now.toInt / 1000

end HostDaemon
