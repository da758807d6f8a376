import HostDaemon.Console.Event
import Mathlib.Data.List.Basic

/-! # Who is seen

  A player is seen on two kinds of lines and on no others.

  - `ConsoleLine.playerSeen_mem_recognize_iff` says that a line tells of a player who has just come
    where it is a line on which somebody connects, and of one who is there where it is one of a list
    of players. -/

namespace HostDaemon.ConsoleLine

variable {line : List Char} {name ip : String} {check : Bool}

theorem alternatePort?_ne_playerSeen :
    alternatePort? line ≠ some (.playerSeen name ip check) := by
  simp [alternatePort?, Option.bind_eq_some_iff]

theorem bindRetry?_ne_playerSeen : bindRetry? line ≠ some (.playerSeen name ip check) := by
  intro h
  simp only [bind, pure, bindRetry?, Option.bind_eq_some_iff] at h
  obtain ⟨rest, -, h⟩ := h
  split at h
  · cases h
  · simp only [Option.bind_eq_some_iff] at h
    obtain ⟨digits, -, more, -, h⟩ := h
    rw [Option.ite_none_right_eq_some, Option.bind_eq_some_iff] at h
    obtain ⟨-, port, -, h⟩ := h
    cases h

theorem boundAddress?_ne_playerSeen :
    boundAddress? line ≠ some (.playerSeen name ip check) := by
  simp [boundAddress?, Option.bind_eq_some_iff]

theorem initialized?_ne_playerSeen : initialized? line ≠ some (.playerSeen name ip check) := by
  intro h
  unfold initialized? at h
  dsimp only at h
  rw [Option.ite_none_right_eq_some] at h
  cases h.2

theorem credentialChanged?_ne_playerSeen :
    credentialChanged? line ≠ some (.playerSeen name ip check) := by
  simp [credentialChanged?, Option.bind_eq_some_iff]

theorem activity?_ne_playerSeen : activity? line ≠ some (.playerSeen name ip check) := by
  simp [activity?]

/-- Whoever connects has just come. -/
theorem check_of_playerConnected? (h : playerConnected? line = some (.playerSeen name ip check)) :
    check = true := by
  simp only [playerConnected?, bind, pure, Option.bind_eq_some_iff] at h
  obtain ⟨found, -, h⟩ := h
  split at h
  · cases h
  · cases h
    rfl

/-- Whoever is listed need not have just come. -/
theorem check_of_playerListed? (h : playerListed? line = some (.playerSeen name ip check)) :
    check = false := by
  simp only [playerListed?, bind, pure, Option.bind_eq_some_iff] at h
  obtain ⟨_, _, _, _, _, _, hseen⟩ := h
  cases hseen
  rfl

/-- The lines that tell of a player. -/
theorem playerSeen_mem_recognize_iff {text : String} :
    .playerSeen name ip check ∈ recognize text ↔
      playerConnected? (dropStamp text.toList) = some (.playerSeen name ip check) ∧ check = true ∨
      playerListed? (dropStamp text.toList) = some (.playerSeen name ip check) ∧
        check = false := by
  simp only [recognize, matchers, List.mem_filterMap, List.mem_cons, List.not_mem_nil, or_false,
    exists_eq_or_imp, exists_eq_left, alternatePort?_ne_playerSeen, bindRetry?_ne_playerSeen,
    boundAddress?_ne_playerSeen, initialized?_ne_playerSeen, credentialChanged?_ne_playerSeen,
    activity?_ne_playerSeen, false_or, or_false]
  constructor
  · rintro (hconnected | hlisted)
    · exact Or.inl ⟨hconnected, check_of_playerConnected? hconnected⟩
    · exact Or.inr ⟨hlisted, check_of_playerListed? hlisted⟩
  · rintro (⟨hconnected, -⟩ | ⟨hlisted, -⟩)
    · exact Or.inl hconnected
    · exact Or.inr hlisted

end HostDaemon.ConsoleLine
