import HostDaemon.Url.Domain
import HostDaemon.Url.Percent

/-! # Hosts of URLs

The host of a URL: a domain name, an address of four bytes that may be written in several ways, or
an address of eight groups in square brackets. Each is brought to one written form. -/

namespace HostDaemon.Url

/-- Why a text is no URL. -/
inductive UrlError where
  /-- There is no scheme. -/
  | noScheme
  /-- There is no host where one is needed. -/
  | emptyHost
  /-- The host is no domain name. -/
  | badDomain
  /-- The host of an unknown scheme holds a character that no host may hold. -/
  | badHostChar
  /-- The host ends like an address of four bytes and is none. -/
  | badIpv4
  /-- The host stands in square brackets and is no address. -/
  | badIpv6
  /-- The port is no number up to 65535. -/
  | badPort
deriving Repr, DecidableEq

/-- The text of the error. -/
def UrlError.message : UrlError → String
  | .noScheme => "relative URL without a base"
  | .emptyHost => "empty host"
  | .badDomain => "invalid international domain name"
  | .badHostChar => "invalid domain character"
  | .badIpv4 => "invalid IPv4 address"
  | .badIpv6 => "invalid IPv6 address"
  | .badPort => "invalid port number"

/-! ### Addresses of four bytes -/

/-- A number in a base. -/
def readBase? (base : Nat) (cs : List Char) : Option Nat :=
  cs.foldlM (fun n c =>
    (Number.hexDigit? c).bind fun d => if d < base then some (n * base + d) else none) 0

/-- A number that is octal after a zero and hexadecimal after a zero and an x. -/
def ipv4Number? (cs : List Char) : Option Nat :=
  match cs with
  | [] => none
  | '0' :: 'x' :: rest | '0' :: 'X' :: rest => readBase? 16 rest
  | '0' :: d :: rest => readBase? 8 (d :: rest)
  | cs => readBase? 10 cs

/-- The parts of a host between its dots, without an empty one at the end. -/
def hostParts (host : List Char) : List (List Char) :=
  let parts := Text.pieces (· == '.') host
  if 1 < parts.length ∧ parts.getLast? = some [] then parts.dropLast else parts

/-- Does the last part of the host look like a number? -/
def endsInNumber (host : List Char) : Bool :=
  match (hostParts host).getLast? with
  | none => false
  | some last =>
    (!last.isEmpty && last.all fun c => '0' ≤ c && c ≤ '9') ||
      (match last with
        | '0' :: 'x' :: _ | '0' :: 'X' :: _ => (ipv4Number? last).isSome
        | _ => false)

/-- The address of a host whose last part looks like a number. -/
def ipv4? (host : List Char) : Option Nat := do
  let numbers ← (hostParts host).mapM ipv4Number?
  let last ← numbers.getLast?
  let first := numbers.dropLast
  if 3 < first.length || first.any (255 < ·) || Nat.pow 256 (4 - first.length) ≤ last then none
  else
    return first.zipIdx.foldl (fun sum (n, i) => sum + n * Nat.pow 256 (3 - i)) last

/-- An address of four bytes. -/
def writeIpv4 (n : Nat) : String :=
  Text.joinWith "." ([3, 2, 1, 0].map fun i => toString (n / Nat.pow 256 i % 256))

/-! ### Addresses of eight groups -/

/-- Groups of up to four hexadecimal digits between colons; the last may be an address of four
    bytes, which makes two groups. -/
def groups? : List (List Char) → Option (List Nat)
  | [] => some []
  | [last] =>
    if last.contains '.' then do
      let bytes ← (Text.pieces (· == '.') last).mapM fun part =>
        if part.isEmpty || 3 < part.length || (1 < part.length && part.head? == some '0') then none
        else (readBase? 10 part).filter (· ≤ 255)
      match bytes with
      | [a, b, c, d] => some [a * 256 + b, c * 256 + d]
      | _ => none
    else if last.isEmpty || 4 < last.length then none
    else (readBase? 16 last).map ([·])
  | part :: parts =>
    if part.isEmpty || 4 < part.length then none
    else do
      let n ← readBase? 16 part
      let more ← groups? parts
      return n :: more

/-- The groups of a text that may be empty. -/
def groupList? (cs : List Char) : Option (List Nat) :=
  if cs.isEmpty then some [] else groups? (Text.pieces (· == ':') cs)

/-- The eight groups of an address; two colons stand for as many zeros as are missing. -/
def ipv6? (cs : List Char) : Option (List Nat) :=
  match Text.cutAtWord? [':', ':'] cs with
  | none => (groupList? cs).filter (·.length = 8)
  | some (before, after) => do
    let first ← groupList? before
    let last ← groupList? after
    if first.length + last.length < 8 ∧ ¬ before.contains '.' then
      return first ++ List.replicate (8 - first.length - last.length) 0 ++ last
    else none

/-- The number of zeros at the front. -/
def zeroRun (groups : List Nat) : Nat := (groups.takeWhile (· == 0)).length

/-- The start and length of the first of the longest runs of zeros. -/
def longestZeros (groups : List Nat) : Nat × Nat :=
  (List.range 8).foldl (fun (start, length) i =>
    let run := zeroRun (groups.drop i)
    if length < run then (i, run) else (start, length)) (0, 0)

/-- Groups between colons. -/
def writeGroups (groups : List Nat) : String :=
  Text.joinWith ":" (groups.map fun n => String.ofList (Nat.toDigits 16 n))

/-- An address of eight groups; the longest run of at least two zeros is left out. -/
def writeIpv6 (groups : List Nat) : String :=
  let (start, length) := longestZeros groups
  if length < 2 then writeGroups groups
  else writeGroups (groups.take start) ++ "::" ++ writeGroups (groups.drop (start + length))

/-! ### Hosts -/

/-- The host of a scheme whose hosts are domain names. -/
def specialHost (cs : List Char) : Except UrlError String :=
  match cs with
  | '[' :: rest =>
    if rest.getLast? = some ']' then
      match ipv6? rest.dropLast with
      | some groups => .ok ("[" ++ writeIpv6 groups ++ "]")
      | none => .error .badIpv6
    else .error .badIpv6
  | cs =>
    match Domain.ofBytes? (percentDecode cs) with
    | none => .error .badDomain
    | some [] => .error .emptyHost
    | some domain =>
      if endsInNumber domain then
        match ipv4? domain with
        | some n => .ok (writeIpv4 n)
        | none => .error .badIpv4
      else .ok (String.ofList domain)

/-- The host of any other scheme. -/
def opaqueHost (cs : List Char) : Except UrlError String :=
  match cs with
  | '[' :: _ => specialHost cs
  | cs =>
    if cs.any fun c => c == '\x00' || c == ' ' ||
        ['#', '/', ':', '<', '>', '?', '@', '[', '\\', ']', '^', '|'].contains c then
      .error .badHostChar
    else .ok (String.ofList (encodeWith [] cs))

end HostDaemon.Url
