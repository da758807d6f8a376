import HostDaemon.Fleet.Events
import HostDaemon.Proofs.Console.Settings

/-! # Lines of chat

  What a player says stands on a line of its own, after a word that marks it. The player chooses the
  rest of the line, and can make it look like a line of any other kind.

  - `ConsoleLine.recognize_of_chat` says that no matcher takes such a line but the one for players
    who do something.
  - `ConsoleLine.chat_forges_nothing` is the main result: a server that prints the line is at most
    marked as active. -/

namespace HostDaemon.ConsoleLine

open Text

variable {line : List Char} {raw : String}

/-- The word in front of what a player says. -/
def chatMark : List Char := "CHAT ".toList

/-- Nobody connects on a line of chat, whatever it looks like. -/
theorem playerConnected?_of_chat (h : chatMark <+: line) : playerConnected? line = none := by
  obtain ⟨said, rfl⟩ := h
  have hguard : (after? "CHAT ".toList (chatMark ++ said)).isSome = true := by
    rw [← chatMark, after?_append]
    rfl
  rw [playerConnected?]
  cases shortest connectTail? [] (chatMark ++ said) with
  | none => rfl
  | some found =>
    simp only [bind, Option.bind_some]
    rw [if_pos hguard]

/-- A line of chat is at most one that ends by saying that somebody joined, connected or left. -/
theorem recognize_of_chat (h : chatMark <+: dropStamp raw.toList) :
    recognize raw = (activity? (dropStamp raw.toList)).toList := by
  have hconnected := playerConnected?_of_chat h
  obtain ⟨rest, hline⟩ : ∃ rest, dropStamp raw.toList = 'C' :: rest := by
    obtain ⟨said, hsaid⟩ := h
    exact ⟨"HAT ".toList ++ said, hsaid.symm⟩
  rw [hline] at hconnected
  rw [recognize, hline]
  -- The other matchers look for another first character.
  have hport : alternatePort? ('C' :: rest) = none := rfl
  have hretry : bindRetry? ('C' :: rest) = none := rfl
  have hbound : boundAddress? ('C' :: rest) = none := rfl
  have hstarted : initialized? ('C' :: rest) = none := rfl
  have hsetting : credentialChanged? ('C' :: rest) = none := rfl
  have hlisted : playerListed? ('C' :: rest) = none := playerListed?_eq_none (by decide)
  simp only [matchers, List.filterMap_cons, List.filterMap_nil, hport, hretry, hbound, hstarted,
    hconnected, hlisted, hsetting]
  cases activity? ('C' :: rest) <;> rfl

theorem activity?_eq (line : List Char) :
    activity? line = none ∨ activity? line = some .activity := by
  rw [activity?]
  split
  · exact Or.inr rfl
  · exact Or.inl rfl

/-- What a player says is no news of a port, an address, a setting, a start or a player: it tells of
    nothing, or that players do something. So it is written to the log of the server, and at most
    the time of the last activity changes with it. -/
theorem chat_forges_nothing (raw : String)
    (hchat : Text.startsWith (stripTimestamp raw) "CHAT " = true) :
    (recognize raw = [] ∨ recognize raw = [.activity]) ∧
      ∀ (f : Fleet) (env : Surroundings) (ref : ServerRef),
        f.onLine env ref raw = f.logLine env ref raw ∨
          f.onLine env ref raw = (f.logLine env ref raw).update ref (·.touch env.now) := by
  have hmark : chatMark <+: dropStamp raw.toList := by
    obtain ⟨said, hsaid⟩ := Option.isSome_iff_exists.1 hchat
    change after? chatMark (String.ofList (dropStamp raw.toList)).toList = some said at hsaid
    rw [String.toList_ofList] at hsaid
    exact ⟨said, (eq_append_of_after? hsaid).symm⟩
  have htold : recognize raw = [] ∨ recognize raw = [.activity] := by
    rw [recognize_of_chat hmark]
    rcases activity?_eq (dropStamp raw.toList) with hnone | hactive
    · exact Or.inl (by rw [hnone]; rfl)
    · exact Or.inr (by rw [hactive]; rfl)
  refine ⟨htold, ?_⟩
  intro f env ref
  rcases htold with hnone | hactive
  · exact Or.inl (by rw [Fleet.onLine, hnone]; rfl)
  · exact Or.inr (by rw [Fleet.onLine, hactive]; rfl)

/-- What is said in the form of a line on which a player connects. -/
theorem chat_forges_nothing_connect :
    Text.startsWith (stripTimestamp "CHAT bob: x (198.51.100.4:10666) has connected.") "CHAT " =
        true ∧
      (recognize "CHAT bob: x (198.51.100.4:10666) has connected." = [] ∨
        recognize "CHAT bob: x (198.51.100.4:10666) has connected." = [.activity]) :=
  ⟨by decide, (chat_forges_nothing _ (by decide)).1⟩

end HostDaemon.ConsoleLine
