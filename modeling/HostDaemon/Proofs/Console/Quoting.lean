import HostDaemon.Console.Command
import Mathlib.Data.List.Basic

/-! # User text between quotes

  Where the strings of a console line begin and end, and when that is where the line's form says.

  - `ConsoleCommand.delimiters` reads a line by the rule for which the escaping is made: a double
    quote belongs to a text exactly where a backslash stands directly before it.
  - `ConsoleCommand.IsOneString` says that the two quotes of a form are the only ones that delimit.
  - `ConsoleCommand.isOneString_iff` tells this from the parts of the line.
  - `ConsoleCommand.lines_are_one_string_iff` is the main result: what of a user's text decides
    whether the lines of a command, an announcement and a ban hold one string. -/

namespace HostDaemon.ConsoleCommand

/-! ### Reading a line -/

/-- The places of the double quotes that begin or end a string. `place` is that of the first
    character, and `escaped` says that a backslash stands directly before it. -/
def delimitersFrom (place : Nat) (escaped : Bool) : List Char → List Nat
  | [] => []
  | c :: cs =>
    (if c = '"' ∧ escaped = false then [place] else []) ++ delimitersFrom (place + 1) (c == '\\') cs

/-- The places of the double quotes that begin or end a string: those that have no backslash
    directly before them. -/
def delimiters (line : String) : List Nat := delimitersFrom 0 false line.toList

/-- Is the character after some others escaped? -/
def escapes (escaped : Bool) (cs : List Char) : Bool := cs.foldl (fun _ c => c == '\\') escaped

/-- Every double quote has a backslash directly before it. -/
def Guarded (s : String) : Prop :=
  ∀ before after, s.toList = before ++ '"' :: after → before.getLast? = some '\\'

/-- A text that ends with a backslash. -/
def EndsEscaping (s : String) : Prop := s.toList.getLast? = some '\\'

instance (s : String) : Decidable (EndsEscaping s) := inferInstanceAs (Decidable (_ = _))

/-- A line with a string between two double quotes. -/
def quotedLine (front inside back : String) : String := front ++ "\"" ++ inside ++ "\"" ++ back

/-- The double quotes around the string are those that delimit, and there are no others. -/
def IsOneString (front inside back : String) : Prop :=
  delimiters (quotedLine front inside back) = [front.length, front.length + 1 + inside.length]

variable {place : Nat} {escaped : Bool} {cs before after : List Char} {s front inside back : String}

theorem escapes_append :
    escapes escaped (before ++ after) = escapes (escapes escaped before) after :=
  List.foldl_append

theorem escapes_eq (escaped : Bool) (cs : List Char) :
    escapes escaped cs = if cs = [] then escaped else cs.getLast? == some '\\' := by
  rcases List.eq_nil_or_concat cs with rfl | ⟨front, last, rfl⟩
  · rfl
  · rw [List.concat_eq_append, escapes_append, if_neg (by simp), List.getLast?_concat]
    rfl

/-- Nothing before a text escapes its first quote, so that only the text's own end does. -/
theorem escapes_false_iff : escapes false cs = true ↔ cs.getLast? = some '\\' := by
  rw [escapes_eq]
  split
  next hnil => simp [hnil]
  next => rw [beq_iff_eq]

theorem delimitersFrom_append :
    delimitersFrom place escaped (before ++ after) =
      delimitersFrom place escaped before ++
        delimitersFrom (place + before.length) (escapes escaped before) after := by
  induction before generalizing place escaped with
  | nil => rfl
  | cons c before ih =>
    have hplace : place + 1 + before.length = place + (c :: before).length := by
      rw [List.length_cons]
      omega
    rw [List.cons_append, delimitersFrom, ih, delimitersFrom, List.append_assoc, hplace]
    rfl

/-- The places at which a quote delimits, read off the characters before it. -/
theorem mem_delimitersFrom_iff {i : Nat} :
    i ∈ delimitersFrom place escaped cs ↔
      ∃ before after, cs = before ++ '"' :: after ∧ i = place + before.length ∧
        escapes escaped before = false := by
  induction cs generalizing place escaped with
  | nil =>
    constructor
    · intro h
      cases h
    · rintro ⟨before, after, hsplit, -⟩
      simp at hsplit
  | cons c cs ih =>
    rw [delimitersFrom, List.mem_append, ih]
    constructor
    · rintro (hfirst | ⟨before, after, rfl, rfl, hescapes⟩)
      · split at hfirst
        next hquote =>
          obtain ⟨rfl, hplain⟩ := hquote
          exact ⟨[], cs, rfl, List.mem_singleton.1 hfirst, hplain⟩
        next => cases hfirst
      · refine ⟨c :: before, after, rfl, ?_, hescapes⟩
        rw [List.length_cons]
        omega
    · rintro ⟨before, after, hsplit, rfl, hescapes⟩
      cases before with
      | nil =>
        obtain ⟨rfl, rfl⟩ := List.cons.inj hsplit
        left
        rw [if_pos ⟨rfl, hescapes⟩]
        exact List.mem_singleton.2 rfl
      | cons d before =>
        obtain ⟨rfl, rfl⟩ := List.cons.inj hsplit
        right
        refine ⟨before, after, rfl, ?_, hescapes⟩
        rw [List.length_cons]
        omega

theorem place_of_mem_delimitersFrom {i : Nat} (h : i ∈ delimitersFrom place escaped cs) :
    place ≤ i ∧ i < place + cs.length := by
  obtain ⟨before, after, rfl, rfl, -⟩ := mem_delimitersFrom_iff.1 h
  rw [List.length_append, List.length_cons]
  omega

/-- A text holds no delimiter, wherever it stands, where every quote is guarded. -/
theorem delimitersFrom_eq_nil_iff (place : Nat) :
    delimitersFrom place false s.toList = [] ↔ Guarded s := by
  rw [List.eq_nil_iff_forall_not_mem]
  constructor
  · intro hnone before after hsplit
    have hplain := hnone (place + before.length)
    rw [mem_delimitersFrom_iff] at hplain
    by_contra hlast
    have hescapes : escapes false before = false := by
      rw [Bool.eq_false_iff, Ne, escapes_false_iff]
      exact hlast
    exact hplain ⟨before, after, hsplit, rfl, hescapes⟩
  · intro hguarded i hi
    obtain ⟨before, after, hsplit, -, hescapes⟩ := mem_delimitersFrom_iff.1 hi
    have hlast := escapes_false_iff.2 (hguarded before after hsplit)
    rw [hescapes] at hlast
    cases hlast

/-! ### Lines with one string -/

/-- The delimiters of a line with a string: those of its parts, and the quotes around the string. -/
theorem delimiters_quotedLine (front inside back : String) :
    delimiters (quotedLine front inside back) =
      delimitersFrom 0 false front.toList ++
      (if escapes false front.toList = false then [front.length] else []) ++
      delimitersFrom (front.length + 1) false inside.toList ++
      (if escapes false inside.toList = false then [front.length + 1 + inside.length] else []) ++
      delimitersFrom (front.length + 1 + inside.length + 1) false back.toList := by
  have hquote : "\"".toList = ['"'] := rfl
  have hsingle : ∀ (place : Nat) (escaped : Bool),
      delimitersFrom place escaped ['"'] = if escaped = false then [place] else [] := by
    intro place escaped
    simp [delimitersFrom]
  have hnone : ∀ escaped, escapes escaped ['"'] = false := by
    intro escaped
    rfl
  simp only [delimiters, quotedLine, String.toList_append, hquote, delimitersFrom_append,
    escapes_append, hsingle, hnone, List.length_append, String.length_toList,
    List.length_singleton, Nat.zero_add]

/-- Ascending places of which only two are left are those two. -/
theorem eq_pair_iff {first second third : List Nat} {p q : Nat} {a b : Prop} [Decidable a]
    [Decidable b] (hfirst : ∀ i ∈ first, i < p) (hsecond : ∀ i ∈ second, p < i ∧ i < q)
    (hthird : ∀ i ∈ third, q < i) (hpq : p < q) :
    first ++ (if a then [p] else []) ++ second ++ (if b then [q] else []) ++ third = [p, q] ↔
      (first = [] ∧ a) ∧ (second = [] ∧ b) ∧ third = [] := by
  constructor
  · intro heq
    have hmem : ∀ i, i ∈ first ++ (if a then [p] else []) ++ second ++ (if b then [q] else []) ++
        third ↔ i = p ∨ i = q := by
      intro i
      rw [heq]
      simp
    simp only [List.mem_append] at hmem
    -- Each part lies beside the two places, so that nothing of it can be among what is left.
    have hnone : ∀ {part : List Nat}, (∀ i ∈ part, i = p ∨ i = q) → (∀ i ∈ part, i ≠ p ∧ i ≠ q) →
        part = [] := by
      intro part hin hout
      rw [List.eq_nil_iff_forall_not_mem]
      intro i hi
      exact (hin i hi).elim (hout i hi).1 (hout i hi).2
    have hfirst' : first = [] := hnone (fun i hi => (hmem i).1 (by simp [hi])) fun i hi => by
      have hlt := hfirst i hi
      omega
    have hsecond' : second = [] := hnone (fun i hi => (hmem i).1 (by simp [hi])) fun i hi => by
      have hlt := hsecond i hi
      omega
    have hthird' : third = [] := hnone (fun i hi => (hmem i).1 (by simp [hi])) fun i hi => by
      have hlt := hthird i hi
      omega
    subst hfirst' hsecond' hthird'
    have ha : a := by
      by_contra ha
      have hp := (hmem p).2 (Or.inl rfl)
      simp [ha] at hp
      omega
    have hb : b := by
      by_contra hb
      have hq := (hmem q).2 (Or.inr rfl)
      simp [hb, ha] at hq
      omega
    exact ⟨⟨rfl, ha⟩, ⟨rfl, hb⟩, rfl⟩
  · rintro ⟨⟨rfl, ha⟩, ⟨rfl, hb⟩, rfl⟩
    simp [ha, hb]

/-- A line holds one string where its parts hold no delimiters and none of them escapes a quote of
    the form. -/
theorem isOneString_iff :
    IsOneString front inside back ↔
      (Guarded front ∧ ¬ EndsEscaping front) ∧ (Guarded inside ∧ ¬ EndsEscaping inside) ∧
        Guarded back := by
  have hplain : ∀ s : String, escapes false s.toList = false ↔ ¬ EndsEscaping s := by
    intro s
    rw [EndsEscaping, ← escapes_false_iff, Bool.not_eq_true]
  have hlength : ∀ s : String, s.toList.length = s.length := fun s => String.length_toList
  rw [IsOneString, delimiters_quotedLine, eq_pair_iff, hplain, hplain, delimitersFrom_eq_nil_iff,
    delimitersFrom_eq_nil_iff, delimitersFrom_eq_nil_iff]
  · intro i hi
    have hplace := place_of_mem_delimitersFrom hi
    rw [hlength] at hplace
    omega
  · intro i hi
    have hplace := place_of_mem_delimitersFrom hi
    rw [hlength] at hplace
    omega
  · intro i hi
    have hplace := place_of_mem_delimitersFrom hi
    omega
  · omega

/-! ### Parts of a line -/

theorem guarded_of_not_mem (h : '"' ∉ s.toList) : Guarded s := by
  intro before after hsplit
  rw [hsplit] at h
  exact absurd (by simp) h

/-- A text that does not begin with a quote is read as it is alone. -/
theorem delimitersFrom_eq_of_head (h : cs.head? ≠ some '"') :
    delimitersFrom place escaped cs = delimitersFrom place false cs := by
  cases cs with
  | nil => rfl
  | cons c cs =>
    have hc : c ≠ '"' := fun hquote => h (by rw [hquote]; rfl)
    simp [delimitersFrom, hc]

/-- Two texts are guarded together where each is alone, unless a backslash meets a quote between
    them. -/
theorem guarded_append {t : String} (h : ¬ EndsEscaping s ∨ t.toList.head? ≠ some '"') :
    Guarded (s ++ t) ↔ Guarded s ∧ Guarded t := by
  -- The state after the first text matters only if the second one begins with a quote.
  have hseam : ∀ place, delimitersFrom place (escapes false s.toList) t.toList =
      delimitersFrom place false t.toList := by
    intro place
    rcases h with hends | hhead
    · have hplain : escapes false s.toList = false := by
        rw [Bool.eq_false_iff, Ne, escapes_false_iff]
        exact hends
      rw [hplain]
    · exact delimitersFrom_eq_of_head hhead
  rw [← delimitersFrom_eq_nil_iff 0, String.toList_append, delimitersFrom_append, hseam,
    List.append_eq_nil_iff, delimitersFrom_eq_nil_iff, delimitersFrom_eq_nil_iff]

/-- A text ends like the last part of it that is not empty. -/
theorem endsEscaping_append {t : String} :
    EndsEscaping (s ++ t) ↔ EndsEscaping t ∨ t = "" ∧ EndsEscaping s := by
  unfold EndsEscaping
  rw [String.toList_append, List.getLast?_append]
  cases hlast : t.toList.getLast? with
  | none =>
    have hempty : t = "" := by
      rw [List.getLast?_eq_none_iff] at hlast
      exact String.toList_eq_nil_iff.1 hlast
    simp [hempty]
  | some c =>
    have hne : t ≠ "" := by
      rintro rfl
      cases hlast
    simp [hne]

theorem not_endsEscaping_append {t : String} (hsome : t ≠ "") (ht : ¬ EndsEscaping t) :
    ¬ EndsEscaping (s ++ t) := by
  rw [endsEscaping_append, not_or]
  exact ⟨ht, fun hempty => hsome hempty.1⟩

theorem escapes_escapeChar (escaped : Bool) (c : Char) :
    escapes escaped (escapeChar c) = (c == '\\') := by
  unfold escapeChar
  split
  next hquote =>
    subst hquote
    rfl
  next => rfl

theorem escapes_flatMap_escapeChar :
    escapes escaped (cs.flatMap escapeChar) = escapes escaped cs := by
  induction cs generalizing escaped with
  | nil => rfl
  | cons c cs ih =>
    rw [List.flatMap_cons, escapes_append, escapes_escapeChar, ih]
    rfl

theorem delimitersFrom_escapeChar (place : Nat) (escaped : Bool) (c : Char) :
    delimitersFrom place escaped (escapeChar c) = [] := by
  unfold escapeChar
  split
  next => rfl
  next hquote => simp [delimitersFrom, hquote]

theorem delimitersFrom_flatMap_escapeChar :
    delimitersFrom place escaped (cs.flatMap escapeChar) = [] := by
  induction cs generalizing place escaped with
  | nil => rfl
  | cons c cs ih =>
    rw [List.flatMap_cons, delimitersFrom_append, delimitersFrom_escapeChar, ih, List.append_nil]

/-- Escaped text holds no delimiter. -/
theorem guarded_escapeQuotes (text : String) : Guarded (escapeQuotes text) := by
  rw [← delimitersFrom_eq_nil_iff 0, escapeQuotes, String.toList_ofList]
  exact delimitersFrom_flatMap_escapeChar

/-- What follows escaped text is escaped where the text itself ends with a backslash. -/
theorem endsEscaping_escapeQuotes {text : String} :
    EndsEscaping (escapeQuotes text) ↔ EndsEscaping text := by
  rw [EndsEscaping, EndsEscaping, ← escapes_false_iff, ← escapes_false_iff, escapeQuotes,
    String.toList_ofList, escapes_flatMap_escapeChar]

/-! ### The lines of a command -/

/-- A character that is lowercase in itself stays in a text that is put in lowercase. -/
theorem mem_withContext {c : Char} (hlower : Text.Lowercase.ofChar c = [c]) (hsigma : c ≠ 'Σ')
    (h : c ∈ cs) (passed : List Char) : c ∈ Text.Lowercase.withContext passed cs := by
  induction cs generalizing passed with
  | nil => cases h
  | cons d cs ih =>
    rw [Text.Lowercase.withContext, List.mem_append]
    rcases List.mem_cons.1 h with rfl | hlater
    · left
      rw [if_neg hsigma, hlower]
      exact List.mem_singleton.2 rfl
    · right
      exact ih hlater (d :: passed)

/-- The name of a command whose arguments are put between quotes holds no quote. -/
theorem quote_not_mem_of_quoted {name : String}
    (h : quotedCommands.contains (Text.lowercase name) = true) : '"' ∉ name.toList := by
  intro hquote
  -- A quote would stay in the lowercase name, which is one of three words without any.
  have hlower : '"' ∈ (Text.lowercase name).toList := by
    rw [Text.lowercase, String.toList_ofList]
    exact mem_withContext (by decide) (by decide) hquote []
  have hnone : ∀ s ∈ quotedCommands, '"' ∉ s.toList := by decide
  exact hnone _ (List.contains_iff_mem.1 h) hlower

/-- The text that is put between quotes: the arguments, with the brand in a server's name. -/
def brandedArguments (name arguments : String) (brand : Option String) : String :=
  match brand with
  | some brand =>
    if Text.sameLetters name "sv_hostname" then Text.replace brandToken brand arguments
    else arguments
  | none => arguments

variable {name arguments sender message ip short reason : String} {brand : Option String}

theorem sentArguments_eq (name arguments : String) (brand : Option String) :
    sentArguments name arguments brand =
      if quotedCommands.contains (Text.lowercase name) && arguments ≠ "" then
        "\"" ++ escapeQuotes (brandedArguments name arguments brand) ++ "\""
      else arguments := rfl

/-- What an echo shows of a command. -/
def shownCommand (name sent : String) : String :=
  if sent = "" then name else name ++ " " ++ escapeQuotes sent

/-- The echo of a command shows the command and its sender between the quotes. -/
def echoText (name sent sender : String) : String :=
  "-> " ++ shownCommand name sent ++ " (RCON by " ++ escapeQuotes sender ++ ")"

/-- The line of a command, with its arguments as they are sent. -/
def commandLine (name sent : String) : String :=
  if sent = "" then name ++ ";" else name ++ " " ++ sent ++ ";"

/-- What an echo shows is guarded where the command's name is. -/
theorem guarded_shownCommand {sent rest : String} (hhead : rest.toList.head? = some ' ') :
    Guarded (shownCommand name sent ++ rest) ↔ Guarded name ∧ Guarded rest := by
  have hrest : rest.toList.head? ≠ some '"' := by rw [hhead]; decide
  unfold shownCommand
  split
  next => exact guarded_append (Or.inr hrest)
  next =>
    have hblank : Guarded " " := guarded_of_not_mem (by decide)
    rw [String.append_assoc, String.append_assoc, guarded_append, guarded_append, guarded_append]
    · simp [hblank, guarded_escapeQuotes]
    · exact Or.inr hrest
    · left
      decide
    · right
      simp

/-- The form of a line whose string is the whole line but for a word in front and a semicolon. -/
theorem isOneString_statement (hfront : '"' ∉ front.toList) (hends : ¬ EndsEscaping front) :
    IsOneString front inside ";" ↔ Guarded inside ∧ ¬ EndsEscaping inside := by
  have hsemicolon : Guarded ";" := guarded_of_not_mem (by decide)
  rw [isOneString_iff, and_iff_left hsemicolon,
    and_iff_right (⟨guarded_of_not_mem hfront, hends⟩ : Guarded front ∧ ¬ EndsEscaping front)]

/-- An echo holds one string where the command's name is guarded: nothing else of it stands there as
    it is. -/
theorem isOneString_echo {sent : String} :
    IsOneString "echo " (echoText name sent sender) ";" ↔ Guarded name := by
  unfold echoText
  rw [isOneString_statement (by decide) (by decide)]
  have harrow : Guarded "-> " := guarded_of_not_mem (by decide)
  have hby : Guarded " (RCON by " := guarded_of_not_mem (by decide)
  have hclose : Guarded ")" := guarded_of_not_mem (by decide)
  have hsender : Guarded (" (RCON by " ++ (escapeQuotes sender ++ ")")) := by
    rw [guarded_append, guarded_append]
    · exact ⟨hby, guarded_escapeQuotes sender, hclose⟩
    · exact Or.inr (by decide)
    · exact Or.inl (by decide)
  rw [and_iff_left (not_endsEscaping_append (by decide) (by decide))]
  simp only [String.append_assoc]
  rw [guarded_append (Or.inl (by decide)), guarded_shownCommand (by simp),
    and_iff_left hsender, and_iff_right harrow]

/-- A command with quoted text holds one string where the text does not end with a backslash. -/
theorem isOneString_command {text : String}
    (hquoted : quotedCommands.contains (Text.lowercase name) = true) :
    IsOneString (name ++ " ") (escapeQuotes text) ";" ↔ ¬ EndsEscaping text := by
  have hname : '"' ∉ (name ++ " ").toList := by
    rw [String.toList_append, List.mem_append, not_or]
    exact ⟨quote_not_mem_of_quoted hquoted, by decide⟩
  have hends : ¬ EndsEscaping (name ++ " ") := not_endsEscaping_append (by decide) (by decide)
  rw [isOneString_statement hname hends, endsEscaping_escapeQuotes,
    and_iff_right (guarded_escapeQuotes text)]

/-- A string that ends with escaped text after a blank: it is one where the text does not end with a
    backslash and what stands before it is guarded. -/
theorem guarded_lead_escapeQuotes {lead text : String} (hlead : lead.toList.getLast? = some ' ') :
    Guarded (lead ++ escapeQuotes text) ∧ ¬ EndsEscaping (lead ++ escapeQuotes text) ↔
      Guarded lead ∧ ¬ EndsEscaping text := by
  have hends : ¬ EndsEscaping lead := by
    unfold EndsEscaping
    rw [hlead]
    decide
  rw [guarded_append (Or.inl hends), endsEscaping_append, endsEscaping_escapeQuotes,
    and_iff_left (guarded_escapeQuotes text)]
  simp only [hends, and_false, or_false]

/-- An announcement holds one string where the message does not end with a backslash. -/
theorem isOneString_announcement :
    IsOneString "say " ("GLOBAL ANNOUNCEMENT: " ++ escapeQuotes message) ";" ↔
      ¬ EndsEscaping message := by
  have hlead : Guarded "GLOBAL ANNOUNCEMENT: " := guarded_of_not_mem (by decide)
  rw [isOneString_statement (by decide) (by decide),
    guarded_lead_escapeQuotes (by decide), and_iff_right hlead]

/-- A ban holds one string where the reason does not end with a backslash, and the address and the
    service's name are guarded. -/
theorem isOneString_ban :
    IsOneString ("addban " ++ ip ++ " perm ")
        ("\\ciBanned from all " ++ short ++ " servers: " ++ escapeQuotes reason) ";" ↔
      Guarded ip ∧ Guarded short ∧ ¬ EndsEscaping reason := by
  have hsemicolon : Guarded ";" := guarded_of_not_mem (by decide)
  have hfront : Guarded ("addban " ++ ip ++ " perm ") ∧
      ¬ EndsEscaping ("addban " ++ ip ++ " perm ") ↔ Guarded ip := by
    have haddban : Guarded "addban " := guarded_of_not_mem (by decide)
    have hperm : Guarded " perm " := guarded_of_not_mem (by decide)
    rw [and_iff_left (not_endsEscaping_append (by decide) (by decide)),
      guarded_append (Or.inr (by decide)), and_iff_left hperm,
      guarded_append (Or.inl (by decide)), and_iff_right haddban]
  have hlead : Guarded ("\\ciBanned from all " ++ short ++ " servers: ") ↔ Guarded short := by
    have hbanned : Guarded "\\ciBanned from all " := guarded_of_not_mem (by decide)
    have hservers : Guarded " servers: " := guarded_of_not_mem (by decide)
    rw [guarded_append (Or.inr (by decide)), and_iff_left hservers,
      guarded_append (Or.inl (by decide)), and_iff_right hbanned]
  have hblank : ("\\ciBanned from all " ++ short ++ " servers: ").toList.getLast? = some ' ' := by
    rw [String.toList_append, List.getLast?_append]
    rfl
  rw [isOneString_iff, hfront, and_iff_left hsemicolon, guarded_lead_escapeQuotes hblank, hlead]

/-! ### All lines that hold user text -/

theorem prepare?_eq {raw : String} (h : split? raw = some (name, arguments)) (sender : String)
    (brand : Option String) :
    prepare? raw sender brand =
      some [quotedLine "echo " (echoText name (sentArguments name arguments brand) sender) ";",
        commandLine name (sentArguments name arguments brand)] := by
  have hecho : ∀ sent, quotedLine "echo " (echoText name sent sender) ";" =
      "echo \"-> " ++ shownCommand name sent ++ " (RCON by " ++ escapeQuotes sender ++ ")\";" := by
    intro sent
    rw [← String.toList_inj]
    simp [quotedLine, echoText]
  simp only [prepare?, h, Option.map_some, hecho, shownCommand, commandLine]

theorem broadcastLines_eq (message : String) :
    broadcastLines message =
      [announcementRule, quotedLine "say " ("GLOBAL ANNOUNCEMENT: " ++ escapeQuotes message) ";",
        announcementRule] := by
  have hline : "say \"GLOBAL ANNOUNCEMENT: " ++ escapeQuotes message ++ "\";" =
      quotedLine "say " ("GLOBAL ANNOUNCEMENT: " ++ escapeQuotes message) ";" := by
    rw [← String.toList_inj]
    simp [quotedLine]
  rw [broadcastLines, hline]

/-- What stands between the quotes of the line above and below an announcement. -/
def announcementRuleText : String := "\\cf--------------\\cc"

theorem announcementRule_eq :
    announcementRule = quotedLine "say " announcementRuleText ";" := by
  rw [← String.toList_inj]
  decide

theorem banLine_eq (ip short reason : String) :
    banLine ip short reason =
      quotedLine ("addban " ++ ip ++ " perm ")
        ("\\ciBanned from all " ++ short ++ " servers: " ++ escapeQuotes reason) ";" := by
  rw [← String.toList_inj]
  simp [banLine, quotedLine]

/-- When the lines that hold user text hold one string, read by the rule of the escaping.

    - The echo of a command does where every quote in the command's name has a backslash before it:
      the arguments and the sender are escaped, the name is not.
    - The command itself, where its text is put between quotes, does where that text does not end
      with a backslash.
    - So do the lines of an announcement and of a ban, where the message and the reason do not end
      with a backslash. -/
theorem lines_are_one_string_iff {raw : String} (h : split? raw = some (name, arguments))
    (sender : String) (brand : Option String) (message ip short reason : String) :
    (prepare? raw sender brand =
        some [quotedLine "echo " (echoText name (sentArguments name arguments brand) sender) ";",
          commandLine name (sentArguments name arguments brand)] ∧
      (IsOneString "echo " (echoText name (sentArguments name arguments brand) sender) ";" ↔
        Guarded name)) ∧
    (quotedCommands.contains (Text.lowercase name) = true → arguments ≠ "" →
      commandLine name (sentArguments name arguments brand) =
          quotedLine (name ++ " ") (escapeQuotes (brandedArguments name arguments brand)) ";" ∧
        (IsOneString (name ++ " ") (escapeQuotes (brandedArguments name arguments brand)) ";" ↔
          ¬ EndsEscaping (brandedArguments name arguments brand))) ∧
    (broadcastLines message =
        [quotedLine "say " announcementRuleText ";",
          quotedLine "say " ("GLOBAL ANNOUNCEMENT: " ++ escapeQuotes message) ";",
          quotedLine "say " announcementRuleText ";"] ∧
      IsOneString "say " announcementRuleText ";" ∧
      (IsOneString "say " ("GLOBAL ANNOUNCEMENT: " ++ escapeQuotes message) ";" ↔
        ¬ EndsEscaping message)) ∧
    (banLine ip short reason =
        quotedLine ("addban " ++ ip ++ " perm ")
          ("\\ciBanned from all " ++ short ++ " servers: " ++ escapeQuotes reason) ";" ∧
      (IsOneString ("addban " ++ ip ++ " perm ")
          ("\\ciBanned from all " ++ short ++ " servers: " ++ escapeQuotes reason) ";" ↔
        Guarded ip ∧ Guarded short ∧ ¬ EndsEscaping reason)) := by
  refine ⟨⟨prepare?_eq h sender brand, isOneString_echo⟩, ?_,
    ⟨?_, ?_, isOneString_announcement⟩, ⟨banLine_eq ip short reason, isOneString_ban⟩⟩
  · intro hquoted hne
    refine ⟨?_, isOneString_command hquoted⟩
    have hsent : sentArguments name arguments brand =
        "\"" ++ escapeQuotes (brandedArguments name arguments brand) ++ "\"" := by
      rw [sentArguments_eq, if_pos (by rw [hquoted]; simpa using hne)]
    have hsome : sentArguments name arguments brand ≠ "" := by
      rw [hsent]
      simp
    rw [commandLine, if_neg hsome, hsent, quotedLine]
    simp only [String.append_assoc]
  · rw [broadcastLines_eq, announcementRule_eq]
  · unfold IsOneString
    decide

/-- A greeting with quotes in it stands in one string on both of its lines, and a message and a
    reason with quotes in them do on theirs. -/
theorem greeting_is_one_string :
    split? "say he said \"hi\" \\o/" = some ("say", "he said \"hi\" \\o/") ∧
      prepare? "say he said \"hi\" \\o/" "\"bob" none =
        some ["echo \"-> say \\\"he said \\\\\"hi\\\\\" \\o/\\\" (RCON by \\\"bob)\";",
          "say \"he said \\\"hi\\\" \\o/\";"] ∧
      IsOneString "echo "
        (echoText "say" (sentArguments "say" "he said \"hi\" \\o/" none) "\"bob") ";" ∧
      IsOneString "say " (escapeQuotes "he said \"hi\" \\o/") ";" ∧
      IsOneString "say " ("GLOBAL ANNOUNCEMENT: " ++ escapeQuotes "\"up\"") ";" ∧
      IsOneString "addban 10.0.0.1 perm "
        ("\\ciBanned from all xb servers: " ++ escapeQuotes "\"spam\"") ";" := by
  have hsplit : split? "say he said \"hi\" \\o/" = some ("say", "he said \"hi\" \\o/") := by
    decide +kernel
  obtain ⟨⟨-, hecho⟩, hcommand, ⟨-, -, hmessage⟩, -, hban⟩ :=
    lines_are_one_string_iff hsplit "\"bob" none "\"up\"" "10.0.0.1" "xb" "\"spam\""
  have hip : Guarded "10.0.0.1" := guarded_of_not_mem (by decide)
  have hshort : Guarded "xb" := guarded_of_not_mem (by decide)
  refine ⟨hsplit, by decide +kernel, hecho.2 (guarded_of_not_mem (by decide)),
    (hcommand (by decide +kernel) (by decide)).2.2 (by decide),
    hmessage.2 (by decide), ?_⟩
  exact hban.2 ⟨hip, hshort, by decide⟩

/-- A quote in the command's name ends the string of the echo before its text does, and a backslash
    at the end of a text takes the quote that ends the string of the other lines. -/
theorem name_and_backslash_move_delimiters :
    (prepare? "say\"x" "bob" none = some ["echo \"-> say\"x (RCON by bob)\";", "say\"x;"] ∧
      delimiters "echo \"-> say\"x (RCON by bob)\";" = [5, 12, 28]) ∧
    (prepare? "say hi\\" "bob" none =
        some ["echo \"-> say \\\"hi\\\\\" (RCON by bob)\";", "say \"hi\\\";"] ∧
      delimiters "say \"hi\\\";" = [4]) ∧
    delimiters (banLine "10.0.0.1" "xb" "spam\\") = [21] := by
  decide +kernel

end HostDaemon.ConsoleCommand
