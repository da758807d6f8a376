import HostDaemon.Daemon.Contention
import HostDaemon.Fleet.Traffic
import HostDaemon.Main
import HostDaemon.Proofs.Cli.OptionLine
import HostDaemon.Proofs.Console.Splitting
import HostDaemon.Proofs.Daemon.Contention
import HostDaemon.Proofs.Launch.Paths
import HostDaemon.Proofs.Log.Forwarding
import HostDaemon.Proofs.Log.Tail
import HostDaemon.Proofs.Requests.Secrecy
import HostDaemon.Proofs.Traffic.Claims
import HostDaemon.Proofs.Traffic.Kills
import HostDaemon.Proofs.Traffic.Returns
import HostDaemon.Proofs.Traffic.Shutdown
import HostDaemon.Proofs.Traffic.Unstarted
import HostDaemon.Proofs.Wire.RoundTrip
import HostDaemon.Query.Queue
import HostDaemon.Rehearsal.Basic
import HostDaemon.Report.Command
import HostDaemon.Report.Config
import HostDaemon.Report.Launch
import HostDaemon.Toml.Interchange
import HostDaemon.Proofs.Query.Queue
import HostDaemon.Proofs.Traffic.Names
import HostDaemon.Proofs.Console.Echo
import HostDaemon.Proofs.Console.Settings
import HostDaemon.Proofs.Console.Tracking
import HostDaemon.Proofs.Traffic.Moderation
import HostDaemon.Proofs.Console.Chat
import HostDaemon.Proofs.Console.Connects
import HostDaemon.Proofs.Traffic.Conflicts
import HostDaemon.Proofs.Traffic.Culls
import HostDaemon.Proofs.Fleet.Registrations
import HostDaemon.Proofs.Launch.OptionOrder
import HostDaemon.Proofs.Launch.LoadOrder
import HostDaemon.Proofs.Launch.CommandLine
import HostDaemon.Proofs.Fleet.Passwords
import HostDaemon.Proofs.Traffic.Passwords
import HostDaemon.Proofs.Daemon.Blocking
import HostDaemon.Proofs.Fleet.Deliveries
import HostDaemon.Proofs.Fleet.Owners
import HostDaemon.Proofs.Launch.OneLine
import HostDaemon.Proofs.Log.Appending
import HostDaemon.Proofs.Fleet.Phases
import HostDaemon.Proofs.Traffic.Relaunches
import HostDaemon.Proofs.Log.Runs
import HostDaemon.Proofs.Options
import HostDaemon.Proofs.Catalog
