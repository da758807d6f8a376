import HostDaemon.Ports
import Mathlib.Data.List.Nodup

/-! # Claims on ports

  What a pool hands out, and what becomes of its table over any number of claims.

  - `PortPool.Gives` says when a port can be handed out, without regard to the order in which the
    range, the table and other programs are looked at.
  - `PortReservations.Consistent` is the invariant: the table holds exactly the ports of the claims
    that were handed out and not given back.
  - `PortReservations.table_eq_live_claims` is the main result, for every list of actions. -/

namespace HostDaemon

/-! ### The ports of a range -/

/-- The list of a range holds exactly its ports. -/
theorem mem_portsBetween {min max port : UInt16} :
    port ∈ portsBetween min max ↔ min ≤ port ∧ port < max := by
  simp only [portsBetween, List.mem_map, List.mem_range'_1, UInt16.le_iff_toNat_le,
    UInt16.lt_iff_toNat_lt]
  have hmax := max.toNat_lt
  constructor
  · rintro ⟨n, ⟨hle, hlt⟩, rfl⟩
    have hn : (UInt16.ofNat n).toNat = n := by
      rw [UInt16.toNat_ofNat', Nat.mod_eq_of_lt (by omega)]
    omega
  · rintro ⟨hle, hlt⟩
    exact ⟨port.toNat, by omega, UInt16.ofNat_toNat⟩

/-- The list of a range is in ascending order. -/
theorem pairwise_lt_portsBetween (min max : UInt16) :
    (portsBetween min max).Pairwise (· < ·) := by
  have hmax := max.toNat_lt
  -- All numbers of the range fit, so that their order is that of the ports.
  have hbound : ∀ n ∈ List.range' min.toNat (max.toNat - min.toNat), n < 2 ^ 16 := by
    intro n hn
    rw [List.mem_range'_1] at hn
    omega
  rw [portsBetween, List.pairwise_map]
  refine List.Pairwise.imp_of_mem ?_ List.pairwise_lt_range'
  intro a b ha hb hab
  rw [UInt16.lt_iff_toNat_lt, UInt16.toNat_ofNat', UInt16.toNat_ofNat',
    Nat.mod_eq_of_lt (hbound a ha), Nat.mod_eq_of_lt (hbound b hb)]
  exact hab

/-- What is found first in an ascending list is the least of all that could be found. -/
theorem le_of_find? {ports : List UInt16} (hsorted : ports.Pairwise (· < ·))
    {good : UInt16 → Bool} {port : UInt16} (hfind : ports.find? good = some port) :
    ∀ other ∈ ports, good other = true → port ≤ other := by
  obtain ⟨-, before, after, rfl, hbefore⟩ := List.find?_eq_some_iff_append.1 hfind
  intro other hother hgood
  rcases List.mem_append.1 hother with hearlier | hlater
  · have hbad := hbefore other hearlier
    simp [hgood] at hbad
  · rcases List.mem_cons.1 hlater with rfl | hlater
    · exact UInt16.le_refl _
    · have hafter := (List.pairwise_cons.1 (List.pairwise_append.1 hsorted).2.1).1
      exact UInt16.le_of_lt (hafter other hlater)

/-! ### One claim -/

/-- A pool can hand a port out: it is in the range, nobody has claimed it, and no other program
    holds it. -/
def PortPool.Gives (p : PortPool) (isFree : UInt16 → Bool) (port : UInt16) : Prop :=
  (p.min ≤ port ∧ port < p.max) ∧ port ∉ p.claimed ∧ isFree port = true

/-- Why a pool does not hand a port out: the first reason that applies, where the range comes before
    the table and the table before other programs. -/
def PortPool.Refuses (p : PortPool) (isFree : UInt16 → Bool) (port : UInt16) : PortError → Prop
  | .outOfRange asked min max =>
    (asked = port ∧ min = p.min ∧ max = p.max) ∧ ¬ (p.min ≤ port ∧ port < p.max)
  | .reserved asked => asked = port ∧ (p.min ≤ port ∧ port < p.max) ∧ port ∈ p.claimed
  | .inUse asked =>
    asked = port ∧ (p.min ≤ port ∧ port < p.max) ∧ port ∉ p.claimed ∧ isFree port = false

namespace PortPool

variable {p p' : PortPool} {isFree : UInt16 → Bool} {port : UInt16}

/-- A claim of a port either succeeds, where the port can be handed out, or tells the first reason
    why it cannot. -/
theorem reserve_cases (p : PortPool) (isFree : UInt16 → Bool) (port : UInt16) :
    (p.Gives isFree port ∧ p.reserve isFree port = .ok { p with claimed := port :: p.claimed }) ∨
    ∃ e, p.Refuses isFree port e ∧ p.reserve isFree port = .error e := by
  unfold reserve checkPort
  by_cases hrange : p.min ≤ port ∧ port < p.max
  · by_cases hclaimed : port ∈ p.claimed
    · right
      exact ⟨.reserved port, ⟨rfl, hrange, hclaimed⟩, by simp [hrange, hclaimed, Except.map]⟩
    · cases hfree : isFree port with
      | true =>
        left
        exact ⟨⟨hrange, hclaimed, hfree⟩, by simp [hrange, hclaimed, Except.map]⟩
      | false =>
        right
        exact ⟨.inUse port, ⟨rfl, hrange, hclaimed, hfree⟩,
          by simp [hrange, hclaimed, Except.map]⟩
  · right
    exact ⟨.outOfRange port p.min p.max, ⟨⟨rfl, rfl, rfl⟩, hrange⟩, by simp [hrange, Except.map]⟩

/-- A port that can be handed out is not refused. -/
theorem Gives.not_refuses (h : p.Gives isFree port) (e : PortError) :
    ¬ p.Refuses isFree port e := by
  obtain ⟨hrange, hfresh, hfree⟩ := h
  intro hrefuses
  cases e with
  | outOfRange asked min max => exact hrefuses.2 hrange
  | reserved asked => exact hfresh hrefuses.2.2
  | inUse asked => simp [hrefuses.2.2.2] at hfree

/-- There is only one reason for which a port is refused. -/
theorem Refuses.unique {e e' : PortError} (h : p.Refuses isFree port e)
    (h' : p.Refuses isFree port e') : e = e' := by
  by_cases hrange : p.min ≤ port ∧ port < p.max
  · cases e <;> cases e' <;> simp only [Refuses, hrange, not_true, and_false, true_and] at h h' <;>
      simp_all
  · cases e <;> cases e' <;> simp only [Refuses, hrange, false_and, and_false] at h h'
    simp_all

/-- A claim succeeds exactly for the ports that can be handed out, and is noted in the table. -/
theorem reserve_eq_ok_iff :
    p.reserve isFree port = .ok p' ↔
      p.Gives isFree port ∧ p' = { p with claimed := port :: p.claimed } := by
  rcases p.reserve_cases isFree port with ⟨hgives, heq⟩ | ⟨e, hrefuses, heq⟩
  · simp [heq, hgives, eq_comm]
  · rw [heq]
    constructor
    · intro h
      cases h
    · rintro ⟨hgives, -⟩
      exact absurd hrefuses (hgives.not_refuses e)

/-- A claim fails with the first reason that speaks against it. -/
theorem reserve_eq_error_iff {e : PortError} :
    p.reserve isFree port = .error e ↔ p.Refuses isFree port e := by
  rcases p.reserve_cases isFree port with ⟨hgives, heq⟩ | ⟨e', hrefuses, heq⟩
  · rw [heq]
    constructor
    · intro h
      cases h
    · intro hrefuses
      exact absurd hrefuses (hgives.not_refuses e)
  · rw [heq, Except.error.injEq]
    constructor
    · rintro rfl
      exact hrefuses
    · intro h
      exact hrefuses.unique h

/-- The ports that can be handed out are those of the range that pass the test of a search. -/
theorem gives_iff_mem :
    p.Gives isFree port ↔
      port ∈ portsBetween p.min p.max ∧ (!p.claimed.contains port && isFree port) = true := by
  simp [Gives, mem_portsBetween]

/-- A search finds the least port that can be handed out. -/
theorem firstAvailable?_eq_some_iff :
    firstAvailable? isFree p.min p.max p.claimed = some port ↔
      p.Gives isFree port ∧ ∀ other, p.Gives isFree other → port ≤ other := by
  -- What a search finds is the least; there is only one least port.
  have hleast : ∀ found, firstAvailable? isFree p.min p.max p.claimed = some found →
      p.Gives isFree found ∧ ∀ other, p.Gives isFree other → found ≤ other := by
    intro found hfind
    refine ⟨gives_iff_mem.2 ⟨List.mem_of_find?_eq_some hfind, ?_⟩, ?_⟩
    · exact List.find?_some (p := fun q => !p.claimed.contains q && isFree q) hfind
    · intro other hother
      obtain ⟨hmem, hgood⟩ := gives_iff_mem.1 hother
      exact le_of_find? (pairwise_lt_portsBetween p.min p.max) hfind other hmem hgood
  constructor
  · exact hleast port
  · rintro ⟨hport, hportLeast⟩
    cases hfind : firstAvailable? isFree p.min p.max p.claimed with
    | none =>
      obtain ⟨hmem, hgood⟩ := gives_iff_mem.1 hport
      exact absurd hgood (List.find?_eq_none.1 hfind port hmem)
    | some found =>
      obtain ⟨hfound, hfoundLeast⟩ := hleast found hfind
      rw [UInt16.le_antisymm (hfoundLeast port hport) (hportLeast found hfound)]

/-- A search finds nothing exactly where no port can be handed out. -/
theorem firstAvailable?_eq_none_iff :
    firstAvailable? isFree p.min p.max p.claimed = none ↔ ∀ port, ¬ p.Gives isFree port := by
  rw [firstAvailable?, List.find?_eq_none]
  constructor
  · intro hnone port hport
    obtain ⟨hmem, hgood⟩ := gives_iff_mem.1 hport
    exact hnone port hmem hgood
  · intro hnone port hmem hgood
    exact hnone port (gives_iff_mem.2 ⟨hmem, hgood⟩)

/-- A search for a port claims the least that can be handed out. -/
theorem reserveFirst?_eq_some_iff :
    p.reserveFirst? isFree = some (port, p') ↔
      (p.Gives isFree port ∧ ∀ other, p.Gives isFree other → port ≤ other) ∧
        p' = { p with claimed := port :: p.claimed } := by
  rw [← firstAvailable?_eq_some_iff, reserveFirst?, Option.map_eq_some_iff]
  constructor
  · rintro ⟨found, hfind, heq⟩
    rw [Prod.mk.injEq] at heq
    obtain ⟨rfl, rfl⟩ := heq
    exact ⟨hfind, rfl⟩
  · rintro ⟨hfind, rfl⟩
    exact ⟨port, hfind, rfl⟩

/-- A search for a port fails exactly where none can be handed out. -/
theorem reserveFirst?_eq_none_iff :
    p.reserveFirst? isFree = none ↔ ∀ port, ¬ p.Gives isFree port := by
  rw [reserveFirst?, Option.map_eq_none_iff, firstAvailable?_eq_none_iff]

/-- A pool has no capacity exactly where no port can be handed out. -/
theorem hasCapacity_eq_false_iff :
    p.hasCapacity isFree = false ↔ ∀ port, ¬ p.Gives isFree port := by
  rw [hasCapacity, Option.isSome_eq_false_iff, Option.isNone_iff_eq_none,
    firstAvailable?_eq_none_iff]

end PortPool

/-! ### Any number of claims -/

namespace PortReservations

variable {min max : UInt16} {s : PortReservations}

/-- The table of a pool and the claims that were handed out agree. -/
structure Consistent (min max : UInt16) (s : PortReservations) : Prop where
  /-- The range stays as it was. -/
  min_eq : s.pool.min = min
  /-- The range stays as it was. -/
  max_eq : s.pool.max = max
  /-- The table holds the ports of the claims and nothing else. -/
  claimed_iff : ∀ port, port ∈ s.pool.claimed ↔ port ∈ s.held
  /-- No two claims are on one port. -/
  held_nodup : s.held.Nodup
  /-- Every claim is on a port of the range. -/
  held_between : ∀ port ∈ s.held, min ≤ port ∧ port < max

/-- Nothing is handed out at the start. -/
theorem consistent_start (min max : UInt16) : Consistent min max (.start min max) := by
  refine ⟨rfl, rfl, ?_, List.nodup_nil, ?_⟩
  · intro port
    exact Iff.rfl
  · intro port hport
    simp [start] at hport

/-- A claim on a port that could be handed out keeps the table exact. -/
theorem Consistent.claim (h : Consistent min max s) {isFree : UInt16 → Bool} {port : UInt16}
    (hgives : s.pool.Gives isFree port) :
    Consistent min max
      ⟨{ s.pool with claimed := port :: s.pool.claimed }, s.held ++ [port]⟩ := by
  obtain ⟨hrange, hfresh, -⟩ := hgives
  -- A port that is not in the table is that of no claim.
  have hnew : port ∉ s.held := fun hmem => hfresh ((h.claimed_iff port).2 hmem)
  refine ⟨h.min_eq, h.max_eq, ?_, ?_, ?_⟩
  · intro other
    simp only [List.mem_cons, List.mem_append, List.not_mem_nil, or_false, h.claimed_iff other]
    exact or_comm
  · rw [List.nodup_append]
    refine ⟨h.held_nodup, List.nodup_singleton port, ?_⟩
    intro a ha b hb hab
    rw [List.mem_singleton] at hb
    exact hnew (hb ▸ hab ▸ ha)
  · intro other hother
    rcases List.mem_append.1 hother with hold | hlast
    · exact h.held_between other hold
    · rw [List.mem_singleton] at hlast
      rw [hlast, ← h.min_eq, ← h.max_eq]
      exact hrange

/-- Giving one claim back keeps the table exact: no other claim is on its port. -/
theorem Consistent.giveBack (h : Consistent min max s) {i : Nat} {port : UInt16}
    (hport : s.held[i]? = some port) :
    Consistent min max ⟨s.pool.release port, s.held.eraseIdx i⟩ := by
  have hi := (List.getElem?_eq_some_iff.1 hport).1
  have hat : s.held[i] = port := (List.getElem?_eq_some_iff.1 hport).2
  -- No two claims are on one port, so that giving one back frees its port.
  have herase : s.held.eraseIdx i = s.held.erase port := by
    rw [← hat, h.held_nodup.erase_getElem i hi]
  refine ⟨h.min_eq, h.max_eq, ?_, ?_, ?_⟩
  · intro other
    rw [herase, h.held_nodup.mem_erase_iff]
    simp only [PortPool.release, List.mem_filter, decide_eq_true_eq, h.claimed_iff other]
    exact and_comm
  · exact h.held_nodup.eraseIdx i
  · intro other hother
    exact h.held_between other (List.mem_of_mem_eraseIdx hother)

/-- One step keeps the table exact. -/
theorem Consistent.step (h : Consistent min max s) (a : Action) :
    Consistent min max (s.step a) := by
  cases a with
  | reserve isFree port =>
    simp only [PortReservations.step]
    split
    next pool hok =>
      obtain ⟨hgives, rfl⟩ := PortPool.reserve_eq_ok_iff.1 hok
      exact h.claim hgives
    next => exact h
  | reserveFirst isFree =>
    simp only [PortReservations.step]
    split
    next port pool hsome =>
      obtain ⟨⟨hgives, -⟩, rfl⟩ := PortPool.reserveFirst?_eq_some_iff.1 hsome
      exact h.claim hgives
    next => exact h
  | giveBack i =>
    simp only [PortReservations.step]
    split
    next port hport => exact h.giveBack hport
    next => exact h

/-- Any number of steps keeps the table exact. -/
theorem Consistent.run (h : Consistent min max s) (actions : List Action) :
    Consistent min max (actions.foldl PortReservations.step s) := by
  induction actions generalizing s with
  | nil => exact h
  | cons a actions ih => exact ih (h.step a)

/-- **The table is the set of live claims.** After any claims, searches and returns, each with other
    programs on other ports, the table holds exactly the ports of the claims that were not given
    back. A claim succeeds exactly where the port can be handed out, and tells otherwise what speaks
    against it first; a search gives the least port that can be handed out, and nothing exactly
    where there is none, which is where the pool has no capacity. What fails changes nothing. -/
theorem table_eq_live_claims (min max : UInt16) (actions : List Action) :
    let s := actions.foldl PortReservations.step (.start min max)
    Consistent min max s ∧
    (∀ isFree port,
      (∀ pool, s.pool.reserve isFree port = .ok pool ↔
        s.pool.Gives isFree port ∧ pool = { s.pool with claimed := port :: s.pool.claimed }) ∧
      (∀ e, s.pool.reserve isFree port = .error e ↔ s.pool.Refuses isFree port e) ∧
      (¬ s.pool.Gives isFree port → s.step (.reserve isFree port) = s)) ∧
    ∀ isFree,
      (∀ port pool, s.pool.reserveFirst? isFree = some (port, pool) ↔
        (s.pool.Gives isFree port ∧ ∀ other, s.pool.Gives isFree other → port ≤ other) ∧
          pool = { s.pool with claimed := port :: s.pool.claimed }) ∧
      (s.pool.reserveFirst? isFree = none ↔ ∀ port, ¬ s.pool.Gives isFree port) ∧
      (s.pool.reserveFirst? isFree = none ↔ s.pool.hasCapacity isFree = false) ∧
      (s.pool.reserveFirst? isFree = none → s.step (.reserveFirst isFree) = s) := by
  intro s
  refine ⟨(consistent_start min max).run actions, ?_, ?_⟩
  · intro isFree port
    refine ⟨fun pool => PortPool.reserve_eq_ok_iff, fun e => PortPool.reserve_eq_error_iff, ?_⟩
    intro hnot
    rcases s.pool.reserve_cases isFree port with ⟨hgives, -⟩ | ⟨e, -, heq⟩
    · exact absurd hgives hnot
    · simp only [step, heq]
  · intro isFree
    refine ⟨fun port pool => PortPool.reserveFirst?_eq_some_iff,
      PortPool.reserveFirst?_eq_none_iff, ?_, ?_⟩
    · rw [PortPool.reserveFirst?_eq_none_iff, PortPool.hasCapacity_eq_false_iff]
    · intro hnone
      simp only [step, hnone]

/-- A claim that was given back can be taken again: on a range of three ports, the first is claimed
    by a search, the last by name, and the first comes back. -/
example :
    ([.reserveFirst fun _ => true, .reserve (fun _ => true) 12, .giveBack 0,
      .reserveFirst fun _ => true].foldl PortReservations.step (.start 10 13)).held = [12, 10] := by
  decide

end PortReservations

end HostDaemon
