import HostDaemon.Path
import HostDaemon.Text.Lowercase

/-! # The catalog of engine versions

The engine builds that a server can be launched with. Their names differ even in lowercase, and
exactly one of them is the default. -/

namespace HostDaemon

/-- One engine build. -/
structure Version where
  /-- The name by which requests ask for it. -/
  name : String
  /-- The program. -/
  path : Path
  /-- A text for people. -/
  description : String
  /-- Is it the build of requests that name none? -/
  isDefault : Bool
  /-- Game files that come with the build. -/
  data : List String
deriving Repr, DecidableEq

/-- Why a list of versions is no catalog. -/
inductive CatalogError where
  /-- There is no version. -/
  | noVersions
  /-- A name occurs twice, cases of letters ignored. -/
  | duplicate (name : String)
  /-- There is not exactly one default. -/
  | defaultCount (count : Nat)
deriving Repr, DecidableEq

/-- The text of the error. -/
def CatalogError.message : CatalogError → String
  | .noVersions => "no versions configured"
  | .duplicate name => s!"duplicate version `{name}`"
  | .defaultCount count => s!"exactly one version must be marked default, found {count}"

/-- The engine builds that can be used. -/
structure Catalog where
  /-- All builds in the order of the configuration. -/
  entries : List Version
  /-- The build of requests that name none. -/
  default : Version
  /-- The default is one of the builds. -/
  default_mem : default ∈ entries

namespace Catalog

/-- The first version whose lowercase name is that of an earlier one; `seen` are the lowercase
    names before the list. -/
def duplicate? (seen : List String) : List Version → Option Version
  | [] => none
  | v :: versions =>
    let key := Text.lowercase v.name
    if key ∈ seen then some v else duplicate? (key :: seen) versions

/-- The catalog of some versions. -/
def ofList (versions : List Version) : Except CatalogError Catalog :=
  if versions = [] then .error .noVersions
  else
    match duplicate? [] versions with
    | some v => .error (.duplicate v.name)
    | none =>
      match h : versions.filter (·.isDefault) with
      | [v] =>
        .ok ⟨versions, v, (List.mem_filter.1 (h ▸ List.mem_singleton_self v)).1⟩
      | defaults => .error (.defaultCount defaults.length)

/-- The version with a name, the case of the letters A to Z ignored. -/
def get? (c : Catalog) (name : String) : Option Version :=
  c.entries.find? fun v => Text.sameLetters v.name name

end Catalog

end HostDaemon
