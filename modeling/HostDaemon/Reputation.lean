import HostDaemon.Config.Settings
import HostDaemon.Number.Decimal
import HostDaemon.Number.Shortest
import HostDaemon.Text.Blank
import HostDaemon.Url.Basic

/-! # Reputation of addresses

A service can be asked how likely an address is that of a proxy. The first lookup that fails turns
the lookups off for as long as the daemon runs. What the service answers is a parameter here: a
function from a URL to the body of the reply, `none` where no good reply comes. -/

namespace HostDaemon.Reputation

/-- Why a lookup fails. -/
inductive LookupError where
  /-- The service's address is no URL. -/
  | endpoint (cause : Url.UrlError)
  /-- No good reply came. -/
  | noReply
  /-- The reply is no number. -/
  | badScore (body : String)
  /-- The reply is a negative number, which names an error. -/
  | errorCode (code : Float)
deriving Repr

/-- The text of the error. -/
def LookupError.message : LookupError → String
  | .endpoint cause => "invalid reputation endpoint: " ++ cause.message
  | .noReply => "reputation request failed"
  | .badScore body => s!"unexpected reputation response `{body}`"
  | .errorCode code => "reputation service reported error code " ++ Number.Shortest.write code

/-- The score in a reply. -/
def parseScore (body : String) : Except LookupError Float :=
  let body := Text.trim body
  match Number.readFloat? body with
  | none => .error (.badScore body)
  | some score => if score < 0 then .error (.errorCode score) else .ok score

/-- The URL of a lookup. A minimum of one asks for known proxies alone. -/
def lookupUrl (settings : ReputationSettings) (ip : String) : Except LookupError Url :=
  let flags := if 1 ≤ settings.minimum then [("flags", "m")] else []
  match Url.parse settings.endpoint with
  | .error cause => .error (.endpoint cause)
  | .ok url => .ok (url.addPairs ([("ip", ip), ("contact", settings.contact)] ++ flags))

/-- Whoever asks about addresses. -/
structure Checker where
  /-- How to ask. -/
  settings : ReputationSettings
  /-- Are lookups still made? -/
  enabled : Bool
deriving Repr

namespace Checker

/-- A checker as the configuration wants it. -/
def ofSettings (settings : ReputationSettings) : Checker := ⟨settings, settings.enabled⟩

/-- Make no more lookups. -/
def disable (c : Checker) : Checker := { c with enabled := false }

/-- The score of an address, where `fetch` gives the body of the reply to a URL. -/
def score (c : Checker) (fetch : Url → Option String) (ip : String) : Except LookupError Float := do
  let url ← lookupUrl c.settings ip
  match fetch url with
  | none => .error .noReply
  | some body => parseScore body

/-- Is the address to be banned by the outcome of a lookup, and the checker afterwards. A lookup
    that fails bans nobody and turns the lookups off. -/
def verdict (c : Checker) (fetch : Url → Option String) (ip : String) : Bool × Checker :=
  match c.score fetch ip with
  | .ok score => (c.settings.minimum ≤ score, c)
  | .error _ => (false, c.disable)

/-- Is the address to be banned, and the checker afterwards. Nobody is where the lookups are
    off. -/
def shouldBan (c : Checker) (fetch : Url → Option String) (ip : String) : Bool × Checker :=
  if c.enabled then c.verdict fetch ip else (false, c)

end Checker

end HostDaemon.Reputation
