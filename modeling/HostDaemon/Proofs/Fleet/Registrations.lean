import HostDaemon.Proofs.Fleet.Culls

/-! # The registry as a map

  A server is registered under the port that it has at that time, and its port may change later. The
  registry is a faithful map all the same, after any sequence of calls in which nobody is registered
  twice.

  - `Fleet.history` is what was done, as far as it concerns the registry, and `Latest` says which
    server was registered last under a port and not taken out since.
  - `Fleet.Tracks` says that the registry holds exactly these servers. Every call keeps that
    (`Fleet.Tracks.act`).
  - `Fleet.registry_of_calls` is the result: what every call does and what every question finds
    after any sequence of calls. -/

namespace HostDaemon

/-- Calls on the registry, and changes of a server's port. Questions change nothing and are left
    out. -/
inductive RegistryCall where
  /-- Register a server under its port. -/
  | insert (server : ServerRef)
  /-- Take a server out. -/
  | remove (server : ServerRef)
  /-- Give a server a port. -/
  | setPort (server : ServerRef) (port : UInt16)

/-- What was done to the registry. -/
inductive RegistryEvent where
  /-- A server was registered under a port. -/
  | inserted (port : UInt16) (server : ServerRef)
  /-- A server was to be taken out. -/
  | removed (server : ServerRef)
deriving DecidableEq

/-- The server is the last that was registered under the port, and was not taken out since. -/
def Latest (port : UInt16) (server : ServerRef) (events : List RegistryEvent) : Prop :=
  ∃ before after, events = before ++ .inserted port server :: after ∧
    (∀ other, .inserted port other ∉ after) ∧ .removed server ∉ after

namespace Latest

variable {port key : UInt16} {server other : ServerRef} {events : List RegistryEvent}

/-- The last event registers the server, or leaves what was before. -/
theorem concat_iff {e : RegistryEvent} : Latest port server (events ++ [e]) ↔
    e = .inserted port server ∨
      (∀ other, e ≠ .inserted port other) ∧ e ≠ .removed server ∧ Latest port server events := by
  constructor
  · rintro ⟨before, after, hsplit, hinserted, hremoved⟩
    rcases List.eq_nil_or_concat' after with rfl | ⟨middle, last, rfl⟩
    · obtain ⟨-, hlast⟩ := List.append_inj' hsplit rfl
      exact Or.inl (List.cons.inj hlast).1
    · -- The last event comes after the server was registered.
      rw [← List.cons_append, ← List.append_assoc] at hsplit
      obtain ⟨hbefore, hlast⟩ := List.append_inj' hsplit rfl
      obtain rfl := (List.cons.inj hlast).1
      refine Or.inr ⟨fun other heq => ?_, fun heq => ?_, before, middle, hbefore, ?_, ?_⟩
      · exact hinserted other (heq ▸ List.mem_append_right _ (List.mem_singleton_self _))
      · exact hremoved (heq ▸ List.mem_append_right _ (List.mem_singleton_self _))
      · exact fun other hmem => hinserted other (List.mem_append_left _ hmem)
      · exact fun hmem => hremoved (List.mem_append_left _ hmem)
  · rintro (rfl | ⟨hinsert, hremove, before, after, hsplit, hinserted, hremoved⟩)
    · exact ⟨events, [], rfl, fun _ => List.not_mem_nil, List.not_mem_nil⟩
    · refine ⟨before, after ++ [e], by simp [hsplit], fun other hmem => ?_, fun hmem => ?_⟩
      · rcases List.mem_append.1 hmem with hold | hlast
        · exact hinserted other hold
        · exact hinsert other (List.mem_singleton.1 hlast).symm
      · rcases List.mem_append.1 hmem with hold | hlast
        · exact hremoved hold
        · exact hremove (List.mem_singleton.1 hlast).symm

/-- A server that is registered is the last under its port, and nothing to other ports. -/
theorem inserted_iff : Latest port server (events ++ [.inserted key other]) ↔
    port = key ∧ server = other ∨ port ≠ key ∧ Latest port server events := by
  rw [concat_iff]
  simp only [RegistryEvent.inserted.injEq, ne_eq, not_and, reduceCtorEq, not_false_eq_true,
    true_and, eq_comm (a := key), eq_comm (a := other)]
  refine or_congr_right (and_congr_left fun _ => ⟨fun h heq => h other heq rfl, fun h _ heq => ?_⟩)
  exact absurd heq h

/-- A server that is taken out is the last under no port, and nothing to other servers. -/
theorem removed_iff : Latest port server (events ++ [.removed other]) ↔
    server ≠ other ∧ Latest port server events := by
  rw [concat_iff]
  simp [eq_comm]

end Latest

namespace Fleet

variable {f g : Fleet} {ref : ServerRef} {port : UInt16} {events : List RegistryEvent}

/-! ### Calls -/

/-- Do a call. A server that cannot be registered is left out. -/
def act (f : Fleet) : RegistryCall → Fleet
  | .insert ref =>
    match f.register ref with
    | .ok g => g
    | .error _ => f
  | .remove ref => (f.unregister ref).2
  | .setPort ref port => f.update ref ({ · with port := port })

/-- What a call does to the registry. -/
def registryEvents (f : Fleet) : RegistryCall → List RegistryEvent
  | .insert ref =>
    match f.server? ref, f.register ref with
    | some s, .ok _ => [.inserted s.port ref]
    | _, _ => []
  | .remove ref => [.removed ref]
  | .setPort _ _ => []

/-- Several calls, one after the other. -/
def actAll (f : Fleet) (calls : List RegistryCall) : Fleet := calls.foldl act f

/-- What several calls do to the registry, in their order. -/
def history (f : Fleet) : List RegistryCall → List RegistryEvent
  | [] => []
  | c :: calls => f.registryEvents c ++ (f.act c).history calls

/-- Only servers that were made and are not registered are registered. -/
def Allowed (f : Fleet) : RegistryCall → Prop
  | .insert ref => (f.server? ref).isSome ∧ ref ∉ f.registry.servers
  | .remove _ | .setPort _ _ => True

/-- Every one of several calls is allowed when its turn comes. -/
def AllAllowed (f : Fleet) : List RegistryCall → Prop
  | [] => True
  | c :: calls => f.Allowed c ∧ (f.act c).AllAllowed calls

instance (f : Fleet) : (c : RegistryCall) → Decidable (f.Allowed c)
  | .insert ref => inferInstanceAs (Decidable ((f.server? ref).isSome ∧ ref ∉ f.registry.servers))
  | .remove _ | .setPort _ _ => .isTrue trivial

instance decidableAllAllowed (f : Fleet) :
    (calls : List RegistryCall) → Decidable (f.AllAllowed calls)
  | [] => .isTrue trivial
  | c :: calls =>
    have := (f.act c).decidableAllAllowed calls
    inferInstanceAs (Decidable (f.Allowed c ∧ (f.act c).AllAllowed calls))

/-! ### Single calls -/

/-- The registry holds exactly what follows from the calls before. -/
structure Tracks (f : Fleet) (events : List RegistryEvent) : Prop where
  /-- No port and no server stands in the registry twice. -/
  faithful : f.registry.Faithful
  /-- Every registered server was made. -/
  made : ∀ e ∈ f.registry.entries, e.2 < f.servers.length
  /-- A server is registered under a port where it is the last that was. -/
  latest : ∀ port ref, (port, ref) ∈ f.registry.entries ↔ Latest port ref events

namespace Tracks

/-- Every allowed call is tracked. -/
theorem act (h : f.Tracks events) {c : RegistryCall} (hc : f.Allowed c) :
    (f.act c).Tracks (events ++ f.registryEvents c) := by
  cases c with
  | setPort ref port =>
    simp only [Fleet.act, registryEvents, List.append_nil]
    refine ⟨h.faithful, ?_, h.latest⟩
    show ∀ e ∈ f.registry.entries, e.2 < (f.servers.modify ref _).length
    rw [List.length_modify]
    exact h.made
  | remove ref =>
    simp only [Fleet.act, registryEvents, unregister_snd h.faithful h.made]
    refine ⟨h.faithful.filter _, ?_, ?_⟩
    · exact fun e he => h.made e (List.mem_of_mem_filter he)
    · intro port server
      rw [List.mem_filter, decide_eq_true_eq, h.latest, Latest.removed_iff, and_comm]
  | insert ref =>
    obtain ⟨hmade, habsent⟩ := hc
    obtain ⟨s, hs⟩ := Option.isSome_iff_exists.1 hmade
    rcases register_cases hs with ⟨hfree, hregister⟩ | ⟨-, hregister⟩
    · simp only [Fleet.act, registryEvents, hregister, hs]
      refine ⟨h.faithful.append hfree habsent, ?_, ?_⟩
      · intro e he
        rcases List.mem_append.1 he with hold | hnew
        · exact h.made e hold
        · rw [List.mem_singleton.1 hnew]
          exact (List.getElem?_eq_some_iff.1 hs).1
      · intro port server
        rw [Latest.inserted_iff, List.mem_append, List.mem_singleton, h.latest, Prod.mk.injEq]
        by_cases hport : port = s.port
        · -- Under its port there was nobody.
          have hnobody : ¬ Latest port server events := by
            intro hlatest
            exact hfree (hport ▸ List.mem_map_of_mem ((h.latest port server).2 hlatest))
          simp [hport, hport ▸ hnobody]
        · simp [hport]
    · simp only [Fleet.act, registryEvents, hregister, hs, List.append_nil]
      exact h

/-- Nothing is tracked where nobody is registered. -/
theorem start (hempty : f.registry = .empty) : f.Tracks [] := by
  refine ⟨hempty ▸ Registry.faithful_empty, ?_, ?_⟩
  · rw [hempty]
    exact fun e he => absurd he List.not_mem_nil
  · intro port ref
    rw [hempty]
    constructor
    · exact fun hentry => absurd hentry List.not_mem_nil
    · rintro ⟨before, after, hsplit, -⟩
      simp at hsplit

/-- Taking a server out tells whether it was there. -/
theorem unregister_eq (h : f.Tracks events) (ref : ServerRef) :
    f.unregister ref = (decide (ref ∈ f.registry.servers), f.act (.remove ref)) :=
  Prod.ext (unregister_fst h.faithful h.made ref) rfl

/-- A server that was taken out is gone. -/
theorem not_mem_remove (h : f.Tracks events) (ref : ServerRef) :
    ref ∉ (f.act (.remove ref)).registry.servers := by
  rw [Fleet.act, unregister_snd h.faithful h.made, Registry.mem_servers_iff]
  rintro ⟨port, hentry⟩
  simpa using (List.mem_filter.1 hentry).2

/-- Taking a server out that is not there changes nothing. -/
theorem remove_of_not_mem (h : f.Tracks events) (habsent : ref ∉ f.registry.servers) :
    f.act (.remove ref) = f := by
  rw [Fleet.act, unregister_snd h.faithful h.made, Registry.filter_eq_self_of_not_mem habsent]

theorem actAll (h : f.Tracks events) {calls : List RegistryCall} (hcalls : f.AllAllowed calls) :
    (f.actAll calls).Tracks (events ++ f.history calls) := by
  induction calls generalizing f events with
  | nil =>
    rw [history, List.append_nil]
    exact h
  | cons c calls ih =>
    have hrest := ih (h.act hcalls.1) hcalls.2
    rw [List.append_assoc] at hrest
    exact hrest

end Tracks

/-! ### Questions -/

/-- A list shows exactly the registered servers that fulfil a condition, each of them once, in the
    order of their ports. -/
structure Shows (p : Server → Bool) (f : Fleet) (listed : List (ServerRef × Server)) : Prop where
  /-- Nobody is listed twice. -/
  once : (listed.map (·.1)).Nodup
  /-- Those are listed that are meant, as they are. -/
  mem : ∀ ref s, (ref, s) ∈ listed ↔
    ref ∈ f.registry.servers ∧ f.server? ref = some s ∧ p s = true
  /-- The order is that of the ports that they have by now. -/
  sorted : listed.Pairwise fun a b => a.2.port ≤ b.2.port

/-- Servers are listed by their ports. -/
theorem sorted_all (f : Fleet) : f.all.Pairwise fun a b => a.2.port ≤ b.2.port := by
  have hsorted : f.all.Pairwise fun a b => decide (a.2.port ≤ b.2.port) = true := by
    refine List.pairwise_mergeSort ?_ ?_ _
    · intro a b c hab hbc
      rw [decide_eq_true_eq] at hab hbc ⊢
      exact UInt16.le_trans hab hbc
    · intro a b
      simpa using UInt16.le_total a.2.port b.2.port
  exact hsorted.imp of_decide_eq_true

/-- Every list of registered servers shows those that it is about. -/
theorem shows_filter (hservers : f.registry.servers.Nodup) (p : Server → Bool) :
    f.Shows p (f.all.filter fun e => p e.2) where
  once := (f.perm_listed p).nodup_iff.2 (hservers.filter _)
  mem ref s := by rw [List.mem_filter, mem_all_iff, and_assoc]
  sorted := f.sorted_all.filter _

/-- A server is found under a port where it is registered under it. -/
theorem lookup_eq_some_iff (h : f.registry.Faithful) {s : Server} :
    f.lookup port = some (ref, s) ↔ (port, ref) ∈ f.registry.entries ∧ f.server? ref = some s := by
  rw [lookup, Option.bind_eq_some_iff, ← h.lookup_eq_some_iff]
  constructor
  · rintro ⟨found, hfound, hmap⟩
    obtain ⟨s', hs', heq⟩ := Option.map_eq_some_iff.1 hmap
    cases heq
    exact ⟨hfound, hs'⟩
  · rintro ⟨hfound, hs⟩
    exact ⟨ref, hfound, by rw [hs]; rfl⟩

/-- No question finds the server: it is under no port and in no list. -/
structure Forgets (ref : ServerRef) (f : Fleet) : Prop where
  lookup : ∀ port s, f.lookup port ≠ some (ref, s)
  all : ∀ s, (ref, s) ∉ f.all
  ofOwner : ∀ owner s, (ref, s) ∉ f.ofOwner owner
  ofVersion : ∀ version s, (ref, s) ∉ f.ofVersion version

theorem forgets_of_not_mem (h : f.registry.Faithful) (habsent : ref ∉ f.registry.servers) :
    f.Forgets ref := by
  have hall : ∀ s, (ref, s) ∉ f.all := fun s hmem => habsent (mem_all_iff.1 hmem).1
  refine ⟨?_, hall, ?_, ?_⟩
  · exact fun port s hfound => habsent (List.mem_map_of_mem ((lookup_eq_some_iff h).1 hfound).1)
  · exact fun _ s hmem => hall s (List.mem_of_mem_filter hmem)
  · exact fun _ s hmem => hall s (List.mem_of_mem_filter hmem)

/-! ### Every sequence of calls -/

/-- The registry after any sequence of calls in which nobody is registered twice. A server is
    registered unless its port is taken. It is taken out with its own entry and no other, whatever
    port it has by now, and nothing finds it then. A port belongs to the server that was registered
    last under it and not taken out since, and the lists show exactly the servers that they are
    about. -/
theorem registry_of_calls (f : Fleet) (hempty : f.registry = .empty) (calls : List RegistryCall)
    (hcalls : f.AllAllowed calls) :
    let g := f.actAll calls
    g.registry.Faithful ∧
    (∀ ref s, g.server? ref = some s →
      (s.port ∈ g.registry.ports ∧ g.register ref = .error ⟨s.port⟩ ∧ g.act (.insert ref) = g) ∨
      (s.port ∉ g.registry.ports ∧ g.register ref = .ok (g.act (.insert ref)) ∧
        g.act (.insert ref) =
          { g with registry := ⟨g.registry.entries ++ [(s.port, ref)]⟩ })) ∧
    (∀ ref, g.unregister ref = (decide (ref ∈ g.registry.servers), g.act (.remove ref)) ∧
      g.act (.remove ref) =
        { g with registry := ⟨g.registry.entries.filter fun e => decide (e.2 ≠ ref)⟩ } ∧
      (g.act (.remove ref)).Forgets ref ∧
      (g.act (.remove ref)).unregister ref = (false, g.act (.remove ref))) ∧
    (∀ port ref s, g.lookup port = some (ref, s) ↔
      Latest port ref (f.history calls) ∧ g.server? ref = some s) ∧
    g.Shows (fun _ => true) g.all ∧
    (∀ owner, g.Shows (fun s => Text.sameLetters s.owner owner) (g.ofOwner owner)) ∧
    ∀ version, g.Shows (fun s => Text.sameLetters s.versionName version) (g.ofVersion version) := by
  intro g
  have htracks : g.Tracks (f.history calls) := (Tracks.start hempty).actAll hcalls
  have hfaithful := htracks.faithful
  refine ⟨hfaithful, ?_, ?_, ?_, ?_, ?_, ?_⟩
  · intro ref s hs
    rcases register_cases hs with ⟨hfree, hregister⟩ | ⟨htaken, hregister⟩
    · refine Or.inr ⟨hfree, ?_, ?_⟩
      · simp only [act, hregister]
      · simp only [act, hregister]
    · refine Or.inl ⟨htaken, hregister, ?_⟩
      simp only [act, hregister]
  · intro ref
    have hremoved := htracks.act (c := .remove ref) trivial
    have hgone := htracks.not_mem_remove ref
    refine ⟨htracks.unregister_eq ref, unregister_snd hfaithful htracks.made,
      forgets_of_not_mem hremoved.faithful hgone, ?_⟩
    rw [hremoved.unregister_eq, decide_eq_false hgone, hremoved.remove_of_not_mem hgone]
  · intro port ref s
    rw [lookup_eq_some_iff hfaithful, htracks.latest]
  · have hshows := shows_filter hfaithful.servers_nodup fun _ => true
    rwa [List.filter_true] at hshows
  · exact fun owner => shows_filter hfaithful.servers_nodup _
  · exact fun version => shows_filter hfaithful.servers_nodup _

/-- Two servers that have exchanged their ports are still registered under those that they had, and
    the first one goes with its own entry. -/
theorem registry_of_exchanged_ports :
    let f : Fleet := { sharedFleet with registry := .empty }
    let calls := [.insert 0, .insert 1, .setPort 0 11, .setPort 1 10]
    let g := f.actAll calls
    g.registry.entries = [(10, 0), (11, 1)] ∧ (g.server? 0).map (·.port) = some 11 ∧
      (g.act (.remove 0)).registry.entries = [(11, 1)] ∧ (g.act (.remove 0)).Forgets 0 := by
  intro f calls g
  have hcalls : f.AllAllowed calls := by decide +kernel
  obtain ⟨hentries, hport, hkept⟩ :
      g.registry.entries = [(10, 0), (11, 1)] ∧ (g.server? 0).map (·.port) = some 11 ∧
      (g.registry.entries.filter fun e => decide (e.2 ≠ 0)) = [(11, 1)] := by decide +kernel
  obtain ⟨-, -, hremove, -⟩ := registry_of_calls f rfl calls hcalls
  obtain ⟨-, hremoved, hforgets, -⟩ := hremove 0
  refine ⟨hentries, hport, ?_, hforgets⟩
  rw [hremoved]
  exact hkept

end Fleet

end HostDaemon
