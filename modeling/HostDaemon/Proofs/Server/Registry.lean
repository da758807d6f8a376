import HostDaemon.Server.Registry
import Mathlib.Data.List.Nodup

/-! # Facts about the registry

  A registry is faithful when no port and no server stands in it twice. In a faithful registry
  taking a server out removes its entry and no other, whatever port it believes to have, and
  registering a server under a port that is not taken keeps the registry faithful.

  - `Registry.remove_cases` says what taking a server out does where only the ports are known to
    differ, and `Registry.Faithful.remove_eq` what it does in a faithful registry. -/

namespace HostDaemon.Registry

variable {r r' : Registry} {port key : UInt16} {server other : ServerRef}

/-- No port is taken twice, and no server is registered twice. -/
structure Faithful (r : Registry) : Prop where
  /-- Every port has one server. -/
  ports_nodup : r.ports.Nodup
  /-- Every server has one port. -/
  servers_nodup : r.servers.Nodup

theorem faithful_empty : Faithful .empty := ⟨List.nodup_nil, List.nodup_nil⟩

/-- A port is taken exactly where looking it up finds a server. -/
theorem isSome_lookup_iff : (r.lookup port).isSome ↔ port ∈ r.ports := by
  simp [lookup, ports]

/-- In a faithful registry the server under a port is the only one that is registered under it. -/
theorem Faithful.lookup_eq_some_iff (h : r.Faithful) :
    r.lookup port = some server ↔ (port, server) ∈ r.entries := by
  unfold lookup
  rw [List.lookup_eq_some_iff]
  constructor
  · rintro ⟨before, after, hsplit, -⟩
    rw [hsplit]
    exact List.mem_append_right _ List.mem_cons_self
  · intro hmem
    obtain ⟨before, after, hsplit⟩ := List.append_of_mem hmem
    refine ⟨before, after, hsplit, ?_⟩
    -- No entry before it can be under its port.
    have hnodup := h.ports_nodup
    rw [ports, hsplit, List.map_append, List.nodup_append] at hnodup
    intro e he
    have hne := hnodup.2.2 e.1 (List.mem_map_of_mem he) port (by simp)
    exact bne_iff_ne.2 (Ne.symm hne)

/-- A server can be registered under every port that is not taken, and comes last. -/
theorem insert_eq_ok_iff :
    r.insert port server = .ok r' ↔ port ∉ r.ports ∧ r' = ⟨r.entries ++ [(port, server)]⟩ := by
  rw [← isSome_lookup_iff, insert]
  cases r.lookup port with
  | none => simp [eq_comm]
  | some other => simp

/-- Registering fails exactly for the ports that are taken. -/
theorem insert_eq_error_iff {e : PortTaken} :
    r.insert port server = .error e ↔ port ∈ r.ports ∧ e = ⟨port⟩ := by
  rw [← isSome_lookup_iff, insert]
  cases r.lookup port with
  | none => simp
  | some other => simp [eq_comm]

/-- A new server under a port that is not taken keeps a registry faithful. -/
theorem Faithful.append (h : r.Faithful) (hport : port ∉ r.ports) (hserver : server ∉ r.servers) :
    Faithful ⟨r.entries ++ [(port, server)]⟩ := by
  constructor
  · rw [ports, List.map_append, List.nodup_append]
    refine ⟨h.ports_nodup, List.nodup_singleton _, ?_⟩
    intro a ha b hb hab
    rw [List.map_singleton, List.mem_singleton] at hb
    rw [hab, hb] at ha
    exact hport ha
  · rw [servers, List.map_append, List.nodup_append]
    refine ⟨h.servers_nodup, List.nodup_singleton _, ?_⟩
    intro a ha b hb hab
    rw [List.map_singleton, List.mem_singleton] at hb
    rw [hab, hb] at ha
    exact hserver ha

/-- Entries that were left out keep a registry faithful. -/
theorem Faithful.filter (h : r.Faithful) (keep : UInt16 × ServerRef → Bool) :
    Faithful ⟨r.entries.filter keep⟩ :=
  ⟨(List.filter_sublist.map _).nodup h.ports_nodup,
    (List.filter_sublist.map _).nodup h.servers_nodup⟩

/-- A server is in the registry exactly where it has a port there. -/
theorem mem_servers_iff : server ∈ r.servers ↔ ∃ key, (key, server) ∈ r.entries := by
  simp [servers]

/-! ### Taking a server out

  No port stands twice in any registry. A server might, and then one of its entries goes. -/

/-- The port that is found for a server is one under which it is registered. -/
theorem mem_of_keyOf? (h : r.keyOf? port server = some key) : (key, server) ∈ r.entries := by
  unfold keyOf? at h
  split at h
  next hlookup =>
    cases h
    rw [lookup, List.lookup_eq_some_iff] at hlookup
    obtain ⟨before, after, hsplit, -⟩ := hlookup
    rw [hsplit]
    exact List.mem_append_right _ List.mem_cons_self
  next =>
    rw [Option.map_eq_some_iff] at h
    obtain ⟨e, hfind, rfl⟩ := h
    have hserver := List.find?_some hfind
    rw [decide_eq_true_eq] at hserver
    rw [← hserver]
    exact List.mem_of_find?_eq_some hfind

/-- Nobody is found who is not registered. -/
theorem not_mem_of_keyOf?_eq_none (h : r.keyOf? port server = none) : server ∉ r.servers := by
  unfold keyOf? at h
  split at h
  · cases h
  · rw [Option.map_eq_none_iff, List.find?_eq_none] at h
    rw [mem_servers_iff]
    rintro ⟨key, hentry⟩
    exact h _ hentry (by simp)

/-- Where no port is taken twice, taking a server out deletes one of its entries, if it has any. -/
theorem remove_cases (hports : r.ports.Nodup) (port : UInt16) (server : ServerRef) :
    (server ∉ r.servers ∧ r.remove port server = (false, r)) ∨
      ∃ key before after, r.entries = before ++ (key, server) :: after ∧
        r.remove port server = (true, ⟨before ++ after⟩) := by
  unfold remove
  split
  next hnone => exact Or.inl ⟨not_mem_of_keyOf?_eq_none hnone, rfl⟩
  next key hkey =>
    obtain ⟨before, after, hsplit⟩ := List.append_of_mem (mem_of_keyOf? hkey)
    refine Or.inr ⟨key, before, after, hsplit, ?_⟩
    rw [ports, hsplit, List.map_append, List.map_cons, List.nodup_middle, List.nodup_cons,
      ← List.map_append] at hports
    -- The key is that of no other entry, so that all others are kept.
    have hkeep : (before ++ after).filter (fun e => decide (e.1 ≠ key)) = before ++ after := by
      rw [List.filter_eq_self]
      intro e he
      rw [decide_eq_true_eq]
      rintro rfl
      exact hports.1 (List.mem_map.2 ⟨e, he, rfl⟩)
    rw [List.filter_append] at hkeep
    rw [hsplit, List.filter_append, List.filter_cons_of_neg (by simp), hkeep]

/-- Taking a server out deletes one of its entries, if it has any, and none of another. -/
theorem count_servers_remove (hports : r.ports.Nodup) (port : UInt16) (server other : ServerRef) :
    (r.remove port server).2.servers.count other =
      r.servers.count other - if other = server then 1 else 0 := by
  rcases r.remove_cases hports port server with ⟨habsent, hremove⟩ |
    ⟨key, before, after, hsplit, hremove⟩
  · rw [hremove]
    by_cases h : other = server
    · rw [h, List.count_eq_zero_of_not_mem habsent, Nat.zero_sub]
    · rw [if_neg h, Nat.sub_zero]
  · rw [hremove, servers, servers, hsplit, List.map_append, List.map_append, List.map_cons,
      List.count_append, List.count_append, List.count_cons]
    by_cases h : other = server
    · simp [h, ← Nat.add_assoc]
    · simp [h, Ne.symm h]

/-- Seen without a server, taking it out changes nothing. -/
theorem filter_entries_remove (hports : r.ports.Nodup) (port : UInt16) (server : ServerRef)
    (keep : ServerRef → Bool) (hserver : keep server = false) :
    (r.remove port server).2.entries.filter (fun e => keep e.2) =
      r.entries.filter fun e => keep e.2 := by
  rcases r.remove_cases hports port server with ⟨-, hremove⟩ | ⟨key, before, after, hsplit, hremove⟩
  · rw [hremove]
  · rw [hremove, hsplit, List.filter_append, List.filter_append,
      List.filter_cons_of_neg (by simp [hserver])]

/-- Taking a server out takes out no entry of another one. -/
theorem mem_remove_iff (hports : r.ports.Nodup) (hne : other ≠ server) :
    (key, other) ∈ (r.remove port server).2.entries ↔ (key, other) ∈ r.entries := by
  rcases r.remove_cases hports port server with ⟨-, hremove⟩ | ⟨key, before, after, hsplit, hremove⟩
  · rw [hremove]
  · rw [hremove, hsplit]
    simp [hne]

/-- Who is left after a server was taken out was there before. -/
theorem entries_remove_sublist (r : Registry) (port : UInt16) (server : ServerRef) :
    (r.remove port server).2.entries.Sublist r.entries := by
  unfold remove
  split
  · exact List.Sublist.refl _
  · exact List.filter_sublist

theorem ports_nodup_remove (hports : r.ports.Nodup) (port : UInt16) (server : ServerRef) :
    (r.remove port server).2.ports.Nodup :=
  ((r.entries_remove_sublist port server).map _).nodup hports

/-- Entries of other servers are kept. -/
theorem filter_eq_self_of_not_mem {entries : List (UInt16 × ServerRef)}
    (habsent : server ∉ entries.map (·.2)) :
    entries.filter (fun e => decide (e.2 ≠ server)) = entries := by
  rw [List.filter_eq_self]
  intro e he
  rw [decide_eq_true_eq]
  rintro rfl
  exact habsent (List.mem_map_of_mem he)

/-- Taking a server out of a faithful registry removes its entry and no other. -/
theorem Faithful.remove_eq (h : r.Faithful) (port : UInt16) (server : ServerRef) :
    r.remove port server =
      (decide (server ∈ r.servers), ⟨r.entries.filter fun e => decide (e.2 ≠ server)⟩) := by
  rcases r.remove_cases h.ports_nodup port server with
    ⟨habsent, hremove⟩ | ⟨key, before, after, hsplit, hremove⟩
  · rw [hremove, decide_eq_false habsent, filter_eq_self_of_not_mem habsent]
  · have hregistered : server ∈ r.servers := by
      rw [servers, hsplit]
      simp
    -- It stands there once, so that the entries before and after are those of others.
    have hnodup := h.servers_nodup
    rw [servers, hsplit, List.map_append, List.map_cons, List.nodup_middle, List.nodup_cons,
      ← List.map_append] at hnodup
    have hothers := filter_eq_self_of_not_mem hnodup.1
    rw [List.filter_append] at hothers
    rw [hremove, decide_eq_true hregistered, hsplit, List.filter_append,
      List.filter_cons_of_neg (by simp), hothers]

/-! ### The ports of one server -/

/-- The ports under which a server is registered. -/
def keysOf (r : Registry) (server : ServerRef) : List UInt16 :=
  (r.entries.filter fun e => decide (e.2 = server)).map (·.1)

theorem mem_keysOf_iff {key : UInt16} : key ∈ r.keysOf server ↔ (key, server) ∈ r.entries := by
  simp [keysOf]

/-- A new entry counts for its own server alone. -/
theorem keysOf_append (r : Registry) (port : UInt16) (server other : ServerRef) :
    keysOf ⟨r.entries ++ [(port, server)]⟩ other =
      if other = server then r.keysOf other ++ [port] else r.keysOf other := by
  by_cases h : other = server
  · simp [keysOf, List.filter_append, h]
  · simp [keysOf, List.filter_append, h, Ne.symm h]

/-- Entries that were taken out count no longer for their own server, and still for all others. -/
theorem keysOf_filter (r : Registry) (server other : ServerRef) :
    keysOf ⟨r.entries.filter fun e => decide (e.2 ≠ server)⟩ other =
      if other = server then [] else r.keysOf other := by
  by_cases h : other = server
  · simp [keysOf, List.filter_filter, h]
  · rw [if_neg h, keysOf, keysOf, List.filter_filter]
    congr 1
    apply List.filter_congr
    intro e he
    by_cases heq : e.2 = other
    · simp [heq, h]
    · simp [heq]

end HostDaemon.Registry
