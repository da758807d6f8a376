import HostDaemon.Number.Bounded
import HostDaemon.Text.Blank
import HostDaemon.Url.Host
import HostDaemon.Url.Path

/-! # URLs

Reading a URL as browsers do, with its parts brought to their written form, adding parameters to
its query, and writing it again. -/

namespace HostDaemon

/-- The part of a URL that names a host. -/
structure Authority where
  /-- The user's name and password, as they are written. -/
  user : String
  /-- The host. -/
  host : String
  /-- The port, where it is not the usual one of the scheme. -/
  port : Option Nat
deriving Repr, DecidableEq

/-- A URL. -/
structure Url where
  /-- What stands before the first colon. -/
  scheme : String
  /-- The host and how to reach it. -/
  authority : Option Authority
  /-- The path. -/
  path : String
  /-- What stands after the question mark. -/
  query : Option String
  /-- What stands after the number sign. -/
  fragment : Option String
deriving Repr, DecidableEq

namespace Url

/-- The usual port of a scheme whose hosts are domain names. -/
def usualPort? : String → Option Nat
  | "http" | "ws" => some 80
  | "https" | "wss" => some 443
  | "ftp" => some 21
  | _ => none

/-- Are the hosts of the scheme domain names, and its paths lists of names? -/
def isSpecial (scheme : String) : Bool := (usualPort? scheme).isSome || scheme == fileScheme

/-- The characters without controls and blanks at the ends. -/
def tidy (cs : List Char) : List Char :=
  let outer := fun (c : Char) => c.toNat ≤ 0x20
  Text.dropEndWhile outer (cs.dropWhile outer)

/-- The scheme and what follows its colon. -/
def scheme? (cs : List Char) : Option (String × List Char) := do
  let (name, rest) ← Text.cutAt? (· == ':') cs
  let name := withoutBreaks name
  let isDigit := fun (c : Char) => '0' ≤ c && c ≤ '9'
  match name with
  | [] => none
  | c :: _ =>
    if isLetter c && name.all fun c => isLetter c || isDigit c || c == '+' || c == '-' || c == '.'
    then return (Text.asciiLower (String.ofList name), rest)
    else none

/-! ### Authorities -/

/-- Does the character end the authority? -/
def endsAuthority (special : Bool) (c : Char) : Bool :=
  c == '/' || c == '?' || c == '#' || (special && c == '\\')

/-- The user's name and password as they are written, with an at sign where there is any. -/
def writeUser (cs : List Char) : String :=
  let (name, password) :=
    match Text.cutAt? (· == ':') cs with
    | some (name, password) => (name, password)
    | none => (cs, [])
  if name.isEmpty && password.isEmpty then ""
  else
    String.ofList (encodeWith userSet name ++
      (if password.isEmpty then [] else ':' :: encodeWith userSet password) ++ ['@'])

/-- The user at the front of a text and what follows the at sign after it, which is the last one in
    the authority. `more` tells whether anything follows the text. An at sign with nobody before it
    has to be followed by a host, or by nothing at all. -/
def readUser (special more : Bool) (cs : List Char) : Except UrlError (String × List Char) :=
  let block := cs.takeWhile (!endsAuthority special ·)
  match Text.cutAt? (· == '@') block.reverse with
  | none => .ok ("", cs)
  | some (after, user) =>
    let rest := cs.drop (user.length + 1)
    if user.isEmpty && after.isEmpty && (more || !rest.isEmpty) then .error .emptyHost
    else .ok (writeUser user.reverse, rest)

/-- The host at the front of a text and what follows it. A colon inside square brackets does not end
    it. -/
def spanHost (special inBrackets : Bool) : List Char → List Char × List Char
  | [] => ([], [])
  | c :: cs =>
    if endsAuthority special c ∨ (c = ':' ∧ !inBrackets) then ([], c :: cs)
    else
      let inside := if c = '[' then true else if c = ']' then false else inBrackets
      let (host, rest) := spanHost special inside cs
      (c :: host, rest)

/-- The port of a text that begins with a colon, and what follows it: none where nothing is written
    or the usual one is. -/
def readPort (scheme : String) : List Char → Except UrlError (Option Nat × List Char)
  | ':' :: cs =>
    let digits := cs.takeWhile (!endsAuthority true ·)
    let rest := cs.drop digits.length
    if digits.isEmpty then .ok (none, rest)
    else
      match Number.readDigits? 0 digits with
      | some n =>
        if 65535 < n then .error .badPort
        else .ok (if usualPort? scheme = some n then none else some n, rest)
      | none => .error .badPort
  | cs => .ok (none, cs)

/-- The authority at the front of a text, after its two slashes, and what follows it. `more` tells
    whether anything follows the text. -/
def readAuthority (scheme : String) (more : Bool) (cs : List Char) :
    Except UrlError (Authority × List Char) := do
  let special := isSpecial scheme
  let (user, rest) ← readUser special more cs
  let (host, rest) := spanHost special false rest
  if host.isEmpty && (special || rest.head? == some ':') then .error .emptyHost
  let host ← if special then specialHost host else opaqueHost host
  let (port, rest) ← readPort scheme rest
  if host = "" && user ≠ "" then .error .emptyHost
  return (⟨user, host, port⟩, rest)

/-! ### Reading -/

/-- The path, the query and the fragment of a text, not yet brought to written form. -/
def cutTail (cs : List Char) : List Char × Option (List Char) × Option (List Char) :=
  let (front, fragment) :=
    match Text.cutAt? (· == '#') cs with
    | some (front, fragment) => (front, some fragment)
    | none => (cs, none)
  match Text.cutAt? (· == '?') front with
  | some (path, query) => (path, some query, fragment)
  | none => (front, none, fragment)

/-- The URL of a scheme, an authority and a path, with the query and the fragment of the tail. -/
def assemble (scheme : String) (authority : Option Authority) (path : String)
    (query fragment : Option (List Char)) : Url where
  scheme := scheme
  authority := authority
  path := path
  query := query.map fun q =>
    String.ofList (encodeWith (querySet (isSpecial scheme)) (withoutBreaks q))
  fragment := fragment.map fun f => String.ofList (encodeWith fragmentSet (withoutBreaks f))

/-- The URL after the two slashes before an authority. -/
def afterSlashes (scheme : String) (cs : List Char) : Except UrlError Url := do
  let (front, query, fragment) := cutTail cs
  let (authority, rest) ← readAuthority scheme (query.isSome || fragment.isSome) front
  return assemble scheme (some authority) (pathAfterHost (isSpecial scheme) rest) query fragment

/-- The host of a file and the path after it. This machine is no host, and neither is the letter of a
    drive, which belongs to the path; where the path begins with such a letter, there is no host
    either. -/
def fileHost (cs : List Char) : Except UrlError (String × String) := do
  let front := cs.takeWhile (!isSeparator true ·)
  let text := withoutBreaks front
  if isDrive text then return ("", (filePath cs).1)
  let host ← if text.isEmpty then .ok "" else specialHost text
  if host = "" ∨ host = "localhost" then return ("", (filePath (cs.drop front.length)).1)
  else
    let (path, hasDrive) := filePath (cs.drop (front.length + 1))
    return (if hasDrive then "" else host, path)

/-- The URL of a file. -/
def ofFile (cs : List Char) : Except UrlError Url := do
  let (front, query, fragment) := cutTail cs
  let afterSlash? := fun (cs : List Char) =>
    match cs.dropWhile isBreak with
    | [] => none
    | c :: rest => if isSeparator true c then some rest else none
  let (host, path) ←
    match afterSlash? front with
    | none => .ok ("", (filePath front).1)
    | some rest =>
      match afterSlash? rest with
      | none => .ok ("", (filePath rest).1)
      | some more => fileHost more
  return assemble fileScheme (some ⟨"", host, none⟩) path query fragment

/-- The URL of any other scheme whose text has no tabs and line breaks. -/
def ofOther (scheme : String) (cs : List Char) : Except UrlError Url :=
  if isSpecial scheme then afterSlashes scheme (cs.dropWhile (isSeparator true))
  else
    match cs with
    | '/' :: '/' :: rest => afterSlashes scheme rest
    | '/' :: rest =>
      let (front, query, fragment) := cutTail rest
      .ok (assemble scheme none (slashPath false front) query fragment)
    | rest =>
      let (front, query, fragment) := cutTail rest
      .ok (assemble scheme none (String.ofList (encodeWith [] front)) query fragment)

/-- Read a URL. -/
def parse (s : String) : Except UrlError Url :=
  match scheme? (tidy s.toList) with
  | none => .error .noScheme
  | some (scheme, rest) =>
    if scheme = fileScheme then ofFile rest else ofOther scheme (withoutBreaks rest)

/-- Add names and values to the query. -/
def addPairs (u : Url) (pairs : List (String × String)) : Url :=
  let added := String.ofList (formPairs pairs)
  let query :=
    match u.query with
    | some q => if q = "" then added else q ++ "&" ++ added
    | none => added
  { u with query := some query }

/-- The text of a URL. A path that would be taken for a host gets a dot before it. -/
def write (u : Url) : String :=
  let authority :=
    match u.authority with
    | some a =>
      "//" ++ a.user ++ a.host ++
        (match a.port with
          | some n => ":" ++ toString n
          | none => "")
    | none => if Text.startsWith u.path "//" then "/." else ""
  u.scheme ++ ":" ++ authority ++ u.path ++
    (match u.query with
      | some q => "?" ++ q
      | none => "") ++
    (match u.fragment with
      | some f => "#" ++ f
      | none => "")

end Url

end HostDaemon
