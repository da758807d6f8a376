import HostDaemon.Fleet.Basic

/-! # Killing

A server is taken out of the registry before its process is killed, so whoever looks it up finds it
running or not at all. A kill on purpose is noted on the server first: that is what keeps it from
being launched again and decides how its end is reported. -/

namespace HostDaemon.Fleet

/-- Kill the process of a server. Where there is none, the wish is noted on the server. -/
def killProcess (f : Fleet) (ref : ServerRef) : Fleet :=
  match f.server? ref with
  | none => f
  | some s =>
    if s.pid.isSome then f.updateSupervisor ref ({ · with isProcessAlive := false })
    else f.update ref ({ · with isKillRequested := true })

/-- Take a server out of the registry and kill its process. Says whether this call took it out. -/
def terminate (f : Fleet) (ref : ServerRef) : Bool × Fleet :=
  let (removed, f) := f.unregister ref
  (removed, f.killProcess ref)

/-- Kill a server on purpose. -/
def kill (f : Fleet) (ref : ServerRef) (byOwner : Bool) : Bool × Fleet :=
  (f.update ref (·.markKilled byOwner)).terminate ref

/-- Kill a server on purpose without a report of its end. -/
def killQuietly (f : Fleet) (ref : ServerRef) (byOwner : Bool) : Fleet :=
  ((f.update ref ({ · with hidesStop := true })).kill ref byOwner).2

/-- Kill servers on purpose without reports of their ends. -/
def killEach (f : Fleet) (refs : List ServerRef) (byOwner : Bool) : Fleet :=
  refs.foldl (fun f ref => f.killQuietly ref byOwner) f

/-! ### Idle servers -/

/-- How many milliseconds a day has. -/
def dayMillis : Int := 86400000

/-- For how long a server may be idle at most, in milliseconds: no more than 64 bits with a sign
    hold. -/
def idleLimit (days : UInt64) : Int :=
  min (dayMillis * min days.toNat 0x7FFFFFFFFFFFFFFF) 0x7FFFFFFFFFFFFFFF

/-- Is a server to be killed for being idle? Only more than the limit counts. -/
def isIdle (days : UInt64) (now : Int64) (s : Server) : Bool :=
  !s.isProtected && decide (idleLimit days < (now - s.lastActivity).toInt)

/-- Kill every registered server that is not protected and has been idle for longer than some
    days, without reports of their ends. Says how many. -/
def killIdle (f : Fleet) (days : UInt64) (now : Int64) : Nat × Fleet :=
  let idle := f.all.filter fun (_, s) => isIdle days now s
  (idle.length, f.killEach (idle.map (·.1)) false)

/-- What a sweep has done. -/
def sweepText (killed : Nat) (days : UInt64) : String :=
  let s := if killed = 1 then "" else "s"
  s!"Killed {killed} inactive server{s} (inactive for {days} days)."

/-- Kill idle servers and tell the staff where there were any. Says how many. -/
def sweepAfter (f : Fleet) (days : UInt64) (now : Int64) : Nat × Fleet :=
  let (killed, f) := f.killIdle days now
  (killed, if 0 < killed then f.notify (.moderation (sweepText killed days)) else f)

/-- Sweep idle servers by the configured number of days. -/
def sweep (f : Fleet) (now : Int64) : Nat × Fleet :=
  f.sweepAfter f.config.host.cleanupIntervalDays now

/-- Is there a sweep from time to time? Zero days or a period of zero turns it off. -/
def hasSweeps (days period : UInt64) : Bool := days ≠ 0 && period ≠ 0

/-! ### All servers -/

/-- The launching servers that are not among some servers. -/
def launchingBeside (f : Fleet) (refs : List ServerRef) : List ServerRef :=
  (f.launchingServers.map (·.1)).filter fun ref => !refs.contains ref

/-- Kill every server, the launching ones too. -/
def killAllServers (f : Fleet) : Fleet :=
  let registered := f.all.map (·.1)
  f.killEach (registered ++ f.launchingBeside registered) false

end HostDaemon.Fleet
