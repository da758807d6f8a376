import HostDaemon.Toml.Value

/-! # Tables under construction

How the lines of a document build its tables. A table remembers how it came about, since that
decides who may still add to it: a table that a header names may not be named again nor reached by
a dotted key, a table that a dotted key made takes more from dotted keys alone, and what is written
as a value is finished. A dotted key may go through an array of tables to a table inside its last
one, but may not set a key of that last one itself. -/

namespace HostDaemon.Toml

/-- How a table came about. -/
inductive Origin where
  /-- A header goes through it. -/
  | passed
  /-- A header names it. -/
  | header
  /-- A dotted key goes through it. -/
  | dotted
deriving Repr, DecidableEq

/-- What a key stands for while the document is being read. -/
inductive Tree where
  /-- A finished value. -/
  | leaf (v : Toml)
  /-- A table. -/
  | table (origin : Origin) (entries : List (String × Tree))
  /-- An array of tables that headers make: the last table, and the finished ones before it, the
      latest first. -/
  | tables (last : List (String × Tree)) (before : List (List (String × Tree)))

/-- The entries of a table. -/
abbrev Entries := List (String × Tree)

/-- Replace what a key stands for. -/
def replaceKey (key : String) (t : Tree) (entries : Entries) : Entries :=
  entries.map fun (k, old) => if k = key then (k, t) else (k, old)

/-- Set a key that is not there yet. -/
def addKey? (key : String) (t : Tree) (entries : Entries) : Option Entries :=
  if (entries.lookup key).isSome then none else some (entries ++ [(key, t)])

/-- Set the value of a key with dots, given as its parts. -/
def assign (v : Toml) : (parts : List String) → Entries → Option Entries
  | [], _ => none
  | [key], entries => addKey? key (.leaf v) entries
  | key :: part :: parts, entries =>
    match entries.lookup key with
    | none => do
      let sub ← assign v (part :: parts) []
      return entries ++ [(key, .table .dotted sub)]
    | some (.table origin sub) =>
      if origin = .header ∨ (parts = [] ∧ origin ≠ .dotted) then none
      else do
        let sub ← assign v (part :: parts) sub
        return replaceKey key (.table origin sub) entries
    | some (.tables last before) =>
      if parts = [] then none
      else do
        let last ← assign v (part :: parts) last
        return replaceKey key (.tables last before) entries
    | some (.leaf _) => none

/-- Make the table that a header names. -/
def openTable : (parts : List String) → Entries → Option Entries
  | [], _ => none
  | [key], entries =>
    match entries.lookup key with
    | none => some (entries ++ [(key, .table .header [])])
    | some (.table .passed sub) => some (replaceKey key (.table .header sub) entries)
    | some _ => none
  | key :: parts, entries =>
    match entries.lookup key with
    | none => do
      let sub ← openTable parts []
      return entries ++ [(key, .table .passed sub)]
    | some (.table origin sub) => do
      let sub ← openTable parts sub
      return replaceKey key (.table origin sub) entries
    | some (.tables last before) => do
      let last ← openTable parts last
      return replaceKey key (.tables last before) entries
    | some (.leaf _) => none

/-- Add a table to the array of tables that a header names. -/
def openArray : (parts : List String) → Entries → Option Entries
  | [], _ => none
  | [key], entries =>
    match entries.lookup key with
    | none => some (entries ++ [(key, .tables [] [])])
    | some (.tables last before) => some (replaceKey key (.tables [] (last :: before)) entries)
    | some _ => none
  | key :: parts, entries =>
    match entries.lookup key with
    | none => do
      let sub ← openArray parts []
      return entries ++ [(key, .table .passed sub)]
    | some (.table origin sub) => do
      let sub ← openArray parts sub
      return replaceKey key (.table origin sub) entries
    | some (.tables last before) => do
      let last ← openArray parts last
      return replaceKey key (.tables last before) entries
    | some (.leaf _) => none

/-- Change the table that the last header named. -/
def within (change : Entries → Option Entries) : (parts : List String) → Entries → Option Entries
  | [], entries => change entries
  | key :: parts, entries =>
    match entries.lookup key with
    | some (.table origin sub) => do
      let sub ← within change parts sub
      return replaceKey key (.table origin sub) entries
    | some (.tables last before) => do
      let last ← within change parts last
      return replaceKey key (.tables last before) entries
    | _ => none

mutual

/-- The value that has been built. -/
def Tree.toToml : Tree → Toml
  | .leaf v => v
  | .table _ entries => .table (entriesToToml entries)
  | .tables last before => .array (tablesToToml before ++ [.table (entriesToToml last)])

/-- The entries that have been built. -/
def entriesToToml : List (String × Tree) → List (String × Toml)
  | [] => []
  | (key, t) :: entries => (key, t.toToml) :: entriesToToml entries

/-- The tables that have been built, given latest first. -/
def tablesToToml : List (List (String × Tree)) → List Toml
  | [] => []
  | entries :: tables => tablesToToml tables ++ [.table (entriesToToml entries)]

end

end HostDaemon.Toml
