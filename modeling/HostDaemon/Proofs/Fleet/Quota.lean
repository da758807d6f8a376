import HostDaemon.Proofs.Fleet.Hosting
import HostDaemon.Proofs.Fleet.Launches
import HostDaemon.Proofs.Server.Registry
import HostDaemon.Proofs.Text.Lowercase

/-! # Counting for the quota

  How many requests of an owner hold a place, and how many servers are launching and registered.

  - `Fleet.pendingOf_setPending` says what the table of places holds after a change.
  - `Fleet.length_le_launchingOf` and `Fleet.length_le_registeredOf` say that nobody who is launching
    or registered is missed where one counts at one moment. -/

namespace HostDaemon

/-- Where all entries with one key are left out the others are found as before. -/
theorem lookup_without {α β : Type} [BEq α] [LawfulBEq α] [DecidableEq α] (entries : List (α × β))
    (left key : α) :
    (entries.filter fun e => decide (e.1 ≠ left)).lookup key =
      if key = left then none else entries.lookup key := by
  induction entries with
  | nil => simp
  | cons e rest ih =>
    -- An entry that is left out stands under the key that is found no more.
    rw [List.filter_cons, List.lookup_cons]
    by_cases hleft : e.1 = left
    · rw [if_neg (by simp [hleft]), ih]
      by_cases hkey : key = left
      · rw [if_pos hkey, if_pos hkey]
      · have hne : key ≠ e.1 := fun heq => hkey (heq.trans hleft)
        rw [if_neg hkey, if_neg hkey, beq_false_of_ne hne]
    · rw [if_pos (by simp [hleft]), List.lookup_cons, ih]
      by_cases hkey : key = left
      · have hne : key ≠ e.1 := fun heq => hleft (heq.symm.trans hkey)
        rw [beq_false_of_ne hne, if_pos hkey]
      · rw [if_neg hkey, if_neg hkey]

namespace Fleet

variable {f f' : Fleet} {owner other : String} {refs : List ServerRef}

/-! ### Places -/

/-- A change for one owner is none for all others. -/
theorem pendingOf_setPending (f : Fleet) (owner : String) (n : Nat) (other : String) :
    (f.setPending owner n).pendingOf other =
      if Text.sameLetters other owner then n else f.pendingOf other := by
  -- Names are keys in lowercase, so that all spellings of an owner share an entry.
  have hothers := lookup_without f.pending (Text.asciiLower owner) (Text.asciiLower other)
  rw [pendingOf, setPending]
  by_cases hsame : Text.asciiLower other = Text.asciiLower owner
  · rw [if_pos (Text.sameLetters_iff.2 hsame)]
    rw [if_pos hsame] at hothers
    split
    next hzero =>
      rw [hothers, hzero]
      rfl
    next =>
      rw [hsame, List.lookup_cons_self]
      rfl
  · rw [if_neg fun hletters => hsame (Text.sameLetters_iff.1 hletters)]
    rw [if_neg hsame] at hothers
    split
    next => rw [hothers, pendingOf]
    next =>
      rw [List.lookup_cons, beq_false_of_ne hsame]
      rw [hothers, pendingOf]

theorem pendingOf_holdPlace (f : Fleet) (owner other : String) :
    (f.holdPlace owner).pendingOf other =
      f.pendingOf other + if Text.sameLetters other owner then 1 else 0 := by
  rw [holdPlace, pendingOf_setPending]
  split
  next h => rw [pendingOf, pendingOf, Text.sameLetters_iff.1 h]
  next => rfl

theorem pendingOf_givePlaceBack (f : Fleet) (owner other : String) :
    (f.givePlaceBack owner).pendingOf other =
      f.pendingOf other - if Text.sameLetters other owner then 1 else 0 := by
  rw [givePlaceBack, pendingOf_setPending]
  split
  next h => rw [pendingOf, pendingOf, Text.sameLetters_iff.1 h]
  next => rfl

theorem pendingOf_of_pending (hpending : f'.pending = f.pending) (owner : String) :
    f'.pendingOf owner = f.pendingOf owner := by
  rw [pendingOf, hpending, pendingOf]

/-- A launch is nothing to the places. -/
theorem pending_hostChecked (f : Fleet) (env : Surroundings) (owner : String) (level : AccountLevel)
    (optionLine : String) (port : Option UInt16) (recovering : Bool) :
    (f.hostChecked env owner level optionLine port recovering).2.pending = f.pending := by
  unfold hostChecked
  cases f.buildSpec env f.registry.ports owner level optionLine port recovering with
  | error e => rfl
  | ok spec =>
    simp only
    cases hreserve : f.reserveFor env spec with
    | error e => rfl
    | ok claim =>
      obtain ⟨port, claimed⟩ := claim
      obtain ⟨-, rfl⟩ := reserveFor_eq_ok hreserve
      simp only
      rcases launch_cases { f with ports := { f.ports with claimed := port :: f.ports.claimed } } env
        spec 0 recovering port with ⟨e, files, hlaunch⟩ | ⟨files, logFile, log, hlaunch⟩
      · rw [hlaunch]
      · rw [hlaunch]
        simp only
        split
        · exact (specs_adopt _ env spec 0 recovering port logFile log).2
        · exact (specs_adopt _ env spec 0 recovering port logFile log).2

/-- A request that is handled without a break has given its place back, however it ends. -/
theorem pendingOf_host (f : Fleet) (env : Surroundings) (owner optionLine : String)
    (port : Option UInt16) (recovering : Bool) (other : String) :
    (f.host env owner optionLine port recovering).2.pendingOf other = f.pendingOf other := by
  have hchecked : ∀ (f : Fleet) level,
      (f.hostChecked env owner level optionLine port recovering).2.pendingOf other =
        f.pendingOf other := fun f level =>
    pendingOf_of_pending (f.pending_hostChecked env owner level optionLine port recovering) other
  unfold host
  split
  next => rfl
  next =>
    cases f.require owner .registered with
    | error e => rfl
    | ok level =>
      cases hrecovering : recovering with
      | true =>
        rw [hrecovering] at hchecked
        exact hchecked f level
      | false =>
        rw [hrecovering] at hchecked
        cases hclaim : f.claimQuota owner with
        | error e => rfl
        | ok held =>
          rw [claimQuota, grantPlace] at hclaim
          split at hclaim
          next => cases hclaim
          next =>
            cases hclaim
            simp only [Bool.false_eq_true, if_false]
            -- The place is taken before the launch and given back after it.
            rw [pendingOf_givePlaceBack, hchecked, pendingOf_holdPlace, Nat.add_sub_cancel]

/-! ### Servers -/

/-- Is the server among those of an owner? -/
def IsOf (f : Fleet) (ref : ServerRef) (owner : String) : Prop :=
  ∃ s, f.server? ref = some s ∧ s.isOwnedBy owner = true

/-- Whoever counts the launching servers of an owner misses none of them. -/
theorem length_le_launchingOf (hnodup : refs.Nodup)
    (hrefs : ∀ ref ∈ refs, f.IsOf ref owner ∧ f.isLaunching ref = true) :
    refs.length ≤ f.launchingOf owner := by
  have hmem : refs ⊆ (f.launchingServers.filter fun e => e.2.isOwnedBy owner).map (·.1) := by
    intro ref href
    obtain ⟨⟨s, hs, howner⟩, hlaunching⟩ := hrefs ref href
    obtain ⟨e, he, heq⟩ := List.any_eq_true.1 hlaunching
    rw [decide_eq_true_eq] at heq
    refine List.mem_map.2 ⟨(ref, s), List.mem_filter.2 ⟨?_, howner⟩, rfl⟩
    -- Each of them stands in the list from which the count is made.
    refine List.mem_filterMap.2 ⟨e, he, ?_⟩
    simp only [heq, hs, Option.map_some]
  have hlength := hnodup.length_le_of_subset hmem
  rw [List.length_map] at hlength
  exact hlength

/-- The registered servers in the order of their ports are all registered servers. -/
theorem mem_all_iff {ref : ServerRef} {s : Server} :
    (ref, s) ∈ f.all ↔ ref ∈ f.registry.servers ∧ f.server? ref = some s := by
  rw [all, inPortOrder, List.mem_mergeSort, List.mem_filterMap]
  constructor
  · rintro ⟨found, hregistered, hfound⟩
    obtain ⟨other, hother, heq⟩ := Option.map_eq_some_iff.1 hfound
    cases heq
    exact ⟨hregistered, hother⟩
  · rintro ⟨hregistered, hs⟩
    refine ⟨ref, hregistered, ?_⟩
    rw [hs]
    rfl

/-- Whoever counts the registered servers of an owner misses none of them. -/
theorem length_le_registeredOf (hnodup : refs.Nodup)
    (hrefs : ∀ ref ∈ refs, f.IsOf ref owner ∧ ref ∈ f.registry.servers) :
    refs.length ≤ f.registeredOf owner := by
  have hmem : refs ⊆ (f.ofOwner owner).map (·.1) := by
    intro ref href
    obtain ⟨⟨s, hs, howner⟩, hregistered⟩ := hrefs ref href
    exact List.mem_map.2
      ⟨(ref, s), List.mem_filter.2 ⟨mem_all_iff.2 ⟨hregistered, hs⟩, howner⟩, rfl⟩
  have hlength := hnodup.length_le_of_subset hmem
  rw [List.length_map] at hlength
  exact hlength

end Fleet

end HostDaemon
