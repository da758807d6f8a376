import HostDaemon.Fleet.Control
import HostDaemon.Proofs.Console.Splitting
import HostDaemon.Proofs.Fleet.Discreet
import HostDaemon.Proofs.Server.Console
import HostDaemon.Proofs.Text.Lowercase

/-! # Lines for every server

  A command for every server and an announcement are written to one console after another. What one
  console takes has no influence on the others, and the answer counts the servers that took all lines.

  - `Fleet.Delivers` says what lines for the servers of a list come to: what every console holds
    afterwards, that nothing else has changed, and the count. `Fleet.Delivers.cons` is the step of the
    loop and `Fleet.delivers_writeToEach` the whole of it, for any list and any consoles.
  - `ConsoleCommand.isDenied_iff` says which commands are refused, and `Fleet.linesForAll_cases` what
    becomes of a text.
  - `Fleet.sendTo` is a command for any list of servers, and `Fleet.announcementOf` are the lines of an
    announcement. `Fleet.reaches_every_working_console` is the main result about them. -/

namespace HostDaemon

/-! ### Refused commands -/

namespace ConsoleCommand

variable {name arguments : String}

/-- A command is refused for its name, in whatever case, and only with arguments. -/
theorem isDenied_iff :
    isDenied name arguments = true ↔
      arguments ≠ "" ∧ ∃ word ∈ deniedForAll, Text.sameLetters name word = true := by
  have hall : ∀ word ∈ deniedForAll, word.toList.all Text.Lowercase.isPlain = true := by decide
  have hplain : ∀ word ∈ deniedForAll, ∀ c ∈ word.toList, Text.Lowercase.isPlain c = true :=
    fun word hword => List.all_eq_true.1 (hall word hword)
  have hlower : ∀ word ∈ deniedForAll, Text.asciiLower word = word := by decide
  rw [isDenied, Bool.and_eq_true, decide_eq_true_eq, List.contains_iff_mem]
  apply and_congr_right
  intro _
  constructor
  · intro hmem
    have hname := (Text.lowercase_eq_iff (hplain _ hmem)).1 rfl
    refine ⟨_, hmem, ?_⟩
    rw [Text.sameLetters_iff, hname, hlower _ hmem]
  · rintro ⟨word, hword, hletters⟩
    rw [Text.sameLetters_iff, hlower word hword] at hletters
    rw [(Text.lowercase_eq_iff (hplain word hword)).2 hletters]
    exact hword

end ConsoleCommand

namespace Fleet

variable {f f' : Fleet} {ref : ServerRef} {refs : List ServerRef} {lines : List String} {n : Nat}
  {command who : String}

/-! ### One console after another -/

/-- Does a server's console take that many lines? -/
def takes (f : Fleet) (ref : ServerRef) (n : Nat) : Bool := (f.server? ref).any (·.console.takes n)

/-- What is for a server when each place in a list stands for all lines. -/
def share (lines : List String) (refs : List ServerRef) (ref : ServerRef) : List String :=
  (List.replicate (refs.count ref) lines).flatten

/-- What is written to the servers of a list, and how many of them take all of it. -/
structure Delivers (f : Fleet) (lines : List String) (refs : List ServerRef) (n : Nat)
    (f' : Fleet) : Prop where
  /-- Every console has got its lines, from the first on, as far as it takes them. -/
  server : ∀ ref, f'.server? ref =
    (f.server? ref).map fun s => { s with console := s.console.filled (share lines refs ref) }
  /-- Nothing has changed but servers. -/
  rest : f' = { f with servers := f'.servers }
  /-- A place in the list counts where the server takes the lines for it and for its places before. -/
  count : n = refs.zipIdx.countP fun place =>
    f.takes place.1 ((refs.take (place.2 + 1)).count place.1 * lines.length)

theorem share_cons (lines : List String) (other : ServerRef) (refs : List ServerRef)
    (ref : ServerRef) :
    share lines (other :: refs) ref =
      if other = ref then lines ++ share lines refs ref else share lines refs ref := by
  rw [share, share, List.count_cons]
  by_cases h : other = ref
  · simp [h, List.replicate_succ]
  · simp [h]

theorem writeLines_eq_takes (f : Fleet) (ref : ServerRef) (lines : List String) :
    (f.writeLines ref lines).1 = f.takes ref lines.length := by
  unfold writeLines takes
  cases f.server? ref with
  | none => rfl
  | some s =>
    show (s.console.writeAll lines).1 = s.console.takes lines.length
    rw [Console.writeAll_eq]

/-- What a server takes after lines to some other server, or after lines of its own. -/
theorem takes_tellConsole (f : Fleet) (other ref : ServerRef) (lines : List String) (hpos : 0 < n) :
    (f.tellConsole other lines).takes ref n =
      f.takes ref (if other = ref then n + lines.length else n) := by
  rw [takes, takes, server?_tellConsole]
  by_cases h : ref = other
  · subst h
    rw [if_pos rfl, if_pos rfl, Option.any_map]
    congr 1
    funext s
    show (s.console.writeAll lines).2.takes n = s.console.takes (n + lines.length)
    rw [Console.writeAll_eq, Console.takes_filled s.console lines hpos, Nat.add_comm]
  · rw [if_neg h, if_neg (Ne.symm h)]

theorem Delivers.nil (f : Fleet) (lines : List String) : f.Delivers lines [] 0 f := by
  refine ⟨?_, rfl, rfl⟩
  intro ref
  show f.server? ref = (f.server? ref).map fun s => { s with console := s.console.filled [] }
  simp

/-- The step: what is written to the first server, before the others. -/
theorem Delivers.cons {other : ServerRef} (hpos : 0 < lines.length)
    (h : (f.tellConsole other lines).Delivers lines refs n f') :
    f.Delivers lines (other :: refs) (if f.takes other lines.length then n + 1 else n) f' := by
  refine ⟨?_, ?_, ?_⟩
  · intro ref
    rw [h.server, server?_tellConsole, share_cons]
    by_cases hself : ref = other
    · subst hself
      rw [if_pos rfl, if_pos rfl, Option.map_map]
      congr 1
      funext s
      rw [Function.comp_apply, Console.writeAll_eq, Console.filled_filled]
    · rw [if_neg hself, if_neg (Ne.symm hself)]
  · have hrest := h.rest
    rw [tellConsole_eq] at hrest
    exact hrest
  · -- The other places move by one, and those of the same server come after this one.
    have hmore : ∀ place ∈ refs.zipIdx,
        ((f.tellConsole other lines).takes place.1
            ((refs.take (place.2 + 1)).count place.1 * lines.length) = true ↔
          f.takes place.1 (((other :: refs).take (place.2 + 1 + 1)).count place.1 * lines.length) =
            true) := by
      rintro ⟨ref, i⟩ hmem
      obtain ⟨hi, hget⟩ := List.mem_zipIdx' hmem
      have hplace : 0 < (refs.take (i + 1)).count ref := by
        rw [List.count_pos_iff, hget, List.mem_take_iff_getElem]
        exact ⟨i, by omega, rfl⟩
      rw [takes_tellConsole f other ref lines (Nat.mul_pos hplace hpos), List.take_succ_cons,
        List.count_cons]
      by_cases hsame : other = ref
      · simp [hsame, Nat.succ_mul]
      · simp [hsame]
    have hfirst : ((other :: refs).take (0 + 1)).count other * lines.length = lines.length := by simp
    rw [List.zipIdx_cons', List.countP_cons, List.countP_map, h.count, List.countP_congr hmore]
    simp only [hfirst]
    split
    · rfl
    · rfl

/-- Lines for the servers of a list. -/
theorem delivers_writeToEach (f : Fleet) (hpos : 0 < lines.length) (refs : List ServerRef) :
    f.Delivers lines refs (f.writeToEach lines refs).1 (f.writeToEach lines refs).2 := by
  induction refs generalizing f with
  | nil => exact .nil f lines
  | cons ref refs ih =>
    have hstep := (ih (f.tellConsole ref lines)).cons hpos
    rw [← writeLines_eq_takes] at hstep
    exact hstep

/-! ### Servers that stand in the list once -/

/-- A server that stands in the list once and takes all lines has got them, and nothing else of it has
    changed but its console's room. -/
theorem Delivers.gets {s : Server} (h : f.Delivers lines refs n f') (hnodup : refs.Nodup)
    (hmem : ref ∈ refs) (hs : f.server? ref = some s)
    (hworks : s.console.takes lines.length = true) :
    ∃ room, f'.server? ref = some { s with console := ⟨s.console.lines ++ lines, room⟩ } := by
  have honce : share lines refs ref = lines := by
    rw [share, List.count_eq_one_of_mem hnodup hmem]
    simp
  refine ⟨(s.console.filled lines).room, ?_⟩
  rw [h.server, hs, Option.map_some, honce, ← Console.lines_filled_of_takes hworks]

/-- A server that does not stand in the list is as it was. -/
theorem Delivers.spares (h : f.Delivers lines refs n f') (hmem : ref ∉ refs) :
    f'.server? ref = f.server? ref := by
  have hnothing : share lines refs ref = [] := by
    rw [share, List.count_eq_zero_of_not_mem hmem]
    rfl
  rw [h.server, hnothing]
  simp

/-- Of servers that each stand in the list once those are counted that take all lines. -/
theorem Delivers.count_eq (h : f.Delivers lines refs n f') (hnodup : refs.Nodup) :
    n = refs.countP (f.takes · lines.length) := by
  have honce : ∀ place ∈ refs.zipIdx,
      (f.takes place.1 ((refs.take (place.2 + 1)).count place.1 * lines.length) = true ↔
        f.takes place.1 lines.length = true) := by
    rintro ⟨ref, i⟩ hmem
    obtain ⟨hi, hget⟩ := List.mem_zipIdx' hmem
    have hplace : ref ∈ refs.take (i + 1) := by
      rw [hget, List.mem_take_iff_getElem]
      exact ⟨i, by omega, rfl⟩
    rw [List.count_eq_one_of_mem (hnodup.sublist (List.take_sublist _ _)) hplace, Nat.one_mul]
  have hplaces : refs.countP (f.takes · lines.length) =
      refs.zipIdx.countP fun place => f.takes place.1 lines.length := by
    conv_lhs => rw [← List.zipIdx_map_fst 0 refs, List.countP_map]
    rfl
  rw [hplaces, h.count, List.countP_congr honce]

/-! ### Commands and announcements -/

/-- A command for the servers of a list. -/
def sendTo (f : Fleet) (refs : List ServerRef) (command who : String) :
    Except RequestError (Nat × Fleet) :=
  match linesForAll command who with
  | .error e => .error e
  | .ok lines => .ok (f.writeToEach lines refs)

/-- The lines that announce a message: its first line stands in them. -/
def announcementOf (message : String) : List String :=
  ConsoleCommand.broadcastLines ((Text.lines message).headD "")

/-- The line of a command for every server. -/
def lineForAll (name arguments : String) : String :=
  ConsoleCommand.commandLine name (ConsoleCommand.sentArguments name arguments none)

/-- What becomes of a text that is for every server. The name and the arguments that are tested are the
    ones that are sent. -/
theorem linesForAll_cases (command who : String) :
    (ConsoleCommand.split? command = none ∧ linesForAll command who = .error .emptyCommand) ∨
    (∃ name arguments, ConsoleCommand.split? command = some (name, arguments) ∧
      ConsoleCommand.isDenied name arguments = true ∧
      linesForAll command who = .error (.deniedCommand name)) ∨
    ∃ name arguments echo, ConsoleCommand.split? command = some (name, arguments) ∧
      ConsoleCommand.isDenied name arguments = false ∧
      ConsoleCommand.prepare? command who none = some [echo, lineForAll name arguments] ∧
      linesForAll command who = .ok [echo, lineForAll name arguments] := by
  unfold linesForAll
  cases hsplit : ConsoleCommand.split? command with
  | none => exact .inl ⟨rfl, rfl⟩
  | some parts =>
    obtain ⟨name, arguments⟩ := parts
    cases hdenied : ConsoleCommand.isDenied name arguments with
    | true => exact .inr (.inl ⟨name, arguments, rfl, hdenied, by simp [hdenied]⟩)
    | false =>
      have hprepared := ConsoleCommand.prepare?_eq hsplit who none
      refine .inr (.inr ⟨name, arguments, _, rfl, hdenied, hprepared, ?_⟩)
      simp [hdenied, hprepared, lineForAll]

/-- A command is refused for its name where it has arguments. -/
theorem sendTo_eq_denied_iff {name : String} :
    f.sendTo refs command who = .error (.deniedCommand name) ↔
      ∃ arguments, ConsoleCommand.split? command = some (name, arguments) ∧ arguments ≠ "" ∧
        ∃ word ∈ ConsoleCommand.deniedForAll, Text.sameLetters name word = true := by
  simp only [← ConsoleCommand.isDenied_iff]
  unfold sendTo
  rcases linesForAll_cases command who with
    ⟨hnone, hlines⟩ | ⟨name', arguments, hsplit, hdenied, hlines⟩ |
    ⟨name', arguments, echo, hsplit, hallowed, -, hlines⟩
  · simp [hlines, hnone]
  · rw [hlines, hsplit]
    constructor
    · intro h
      cases h
      exact ⟨arguments, rfl, hdenied⟩
    · rintro ⟨arguments', heq, -⟩
      cases heq
      rfl
  · rw [hlines, hsplit]
    constructor
    · intro h
      cases h
    · rintro ⟨arguments', heq, hdenied⟩
      cases heq
      rw [hallowed] at hdenied
      cases hdenied

/-- A command is missing where the text before the first semicolon or line break is blank. -/
theorem sendTo_eq_empty_iff :
    f.sendTo refs command who = .error .emptyCommand ↔
      ∀ c ∈ ConsoleCommand.firstPart command, Text.isBlank c = true := by
  rw [← ConsoleCommand.split?_eq_none_iff]
  unfold sendTo
  rcases linesForAll_cases command who with
    ⟨hnone, hlines⟩ | ⟨name, arguments, hsplit, -, hlines⟩ |
    ⟨name, arguments, echo, hsplit, -, -, hlines⟩
  · simp [hlines, hnone]
  · simp [hlines, hsplit]
  · simp [hlines, hsplit]

/-- A command that is neither refused nor missing goes to the servers. -/
theorem sendTo_eq_ok_or (f : Fleet) (refs : List ServerRef) (command who : String) :
    f.sendTo refs command who = .error .emptyCommand ∨
    (∃ name, f.sendTo refs command who = .error (.deniedCommand name)) ∨
    ∃ name arguments echo, ConsoleCommand.split? command = some (name, arguments) ∧
      ConsoleCommand.prepare? command who none = some [echo, lineForAll name arguments] ∧
      f.sendTo refs command who = .ok (f.writeToEach [echo, lineForAll name arguments] refs) := by
  unfold sendTo
  rcases linesForAll_cases command who with
    ⟨-, hlines⟩ | ⟨name, arguments, -, -, hlines⟩ |
    ⟨name, arguments, echo, hsplit, -, hprepared, hlines⟩
  · rw [hlines]
    exact .inl rfl
  · rw [hlines]
    exact .inr (.inl ⟨name, rfl⟩)
  · rw [hlines]
    exact .inr (.inr ⟨name, arguments, echo, hsplit, hprepared, rfl⟩)

theorem sendAll_eq (f : Fleet) (command who : String) :
    f.sendAll command who =
      (f.require who .admin).bind fun _ => f.sendTo (f.all.map (·.1)) command who := by
  unfold sendAll
  cases f.require who .admin <;> rfl

theorem broadcast_eq (f : Fleet) (message who : String) :
    f.broadcast message who = (f.require who .moderator).bind fun _ =>
      .ok (f.writeToEach (announcementOf message) (f.all.map (·.1))) := by
  unfold broadcast
  cases f.require who .moderator <;> rfl

/-- What it means that lines reach the servers of a list independently: each place counts for itself,
    and where no server stands in the list twice, each that takes all lines gets exactly them and is
    counted, and the others are not. -/
structure ReachesEach (f : Fleet) (lines : List String) (refs : List ServerRef) (n : Nat)
    (f' : Fleet) : Prop extends f.Delivers lines refs n f' where
  counted : refs.Nodup → n = refs.countP (f.takes · lines.length)
  gets : refs.Nodup → ∀ ref ∈ refs, ∀ s, f.server? ref = some s →
    s.console.takes lines.length = true →
    ∃ room, f'.server? ref = some { s with console := ⟨s.console.lines ++ lines, room⟩ }
  spared : ∀ ref, ref ∉ refs → f'.server? ref = f.server? ref

/-- Commands and announcements reach every console that works, whatever the other consoles do.

    - A command is refused exactly where its name is on the list, in whatever case, and it has
      arguments, and it is missing exactly where the text before the first semicolon or line break
      is blank. After an error nothing has changed.
    - Otherwise the two lines of the command reach each server of the list. So do the three lines of
      an announcement.
    - An administrator's command goes to the registered servers, and so does a moderator's
      announcement. -/
theorem reaches_every_working_console (f : Fleet) (refs : List ServerRef)
    (command message who : String) :
    ((∀ name, f.sendTo refs command who = .error (.deniedCommand name) ↔
        ∃ arguments, ConsoleCommand.split? command = some (name, arguments) ∧ arguments ≠ "" ∧
          ∃ word ∈ ConsoleCommand.deniedForAll, Text.sameLetters name word = true) ∧
      (f.sendTo refs command who = .error .emptyCommand ↔
        ∀ c ∈ ConsoleCommand.firstPart command, Text.isBlank c = true) ∧
      ∀ env e, f.sendAll command who = .error e →
        f.dispatch env (.sendAll who command) = (.error e.message, f)) ∧
    (f.sendTo refs command who = .error .emptyCommand ∨
      (∃ name, f.sendTo refs command who = .error (.deniedCommand name)) ∨
      ∃ name arguments echo n f', ConsoleCommand.split? command = some (name, arguments) ∧
        ConsoleCommand.prepare? command who none = some [echo, lineForAll name arguments] ∧
        f.sendTo refs command who = .ok (n, f') ∧
        f.ReachesEach [echo, lineForAll name arguments] refs n f') ∧
    (∃ rule told, announcementOf message = [rule, told, rule] ∧
      f.ReachesEach [rule, told, rule] refs (f.writeToEach (announcementOf message) refs).1
        (f.writeToEach (announcementOf message) refs).2) ∧
    f.sendAll command who =
      (f.require who .admin).bind (fun _ => f.sendTo (f.all.map (·.1)) command who) ∧
    f.broadcast message who = (f.require who .moderator).bind fun _ =>
      .ok (f.writeToEach (announcementOf message) (f.all.map (·.1))) := by
  have hreaches : ∀ lines : List String, 0 < lines.length →
      f.ReachesEach lines refs (f.writeToEach lines refs).1 (f.writeToEach lines refs).2 := by
    intro lines hpos
    have hdelivers := f.delivers_writeToEach hpos refs
    exact ⟨hdelivers, hdelivers.count_eq, fun hnodup ref hmem s => hdelivers.gets hnodup hmem,
      fun ref hmem => hdelivers.spares hmem⟩
  refine ⟨⟨fun name => sendTo_eq_denied_iff, sendTo_eq_empty_iff, ?_⟩, ?_, ?_,
    f.sendAll_eq command who, f.broadcast_eq message who⟩
  · intro env e herror
    show f.changed _ (f.sendAll command who) = _
    rw [herror]
    rfl
  · rcases f.sendTo_eq_ok_or refs command who with
      hempty | hdenied | ⟨name, arguments, echo, hsplit, hprepared, hsent⟩
    · exact .inl hempty
    · exact .inr (.inl hdenied)
    · have hpos : 0 < [echo, lineForAll name arguments].length := by show 0 < 2; omega
      exact .inr (.inr ⟨name, arguments, echo, _, _, hsplit, hprepared, hsent, hreaches _ hpos⟩)
  · have hpos : 0 < (announcementOf message).length := by show 0 < 3; omega
    exact ⟨_, _, rfl, hreaches _ hpos⟩

end Fleet

end HostDaemon
