import HostDaemon.Log.Banner
import HostDaemon.Proofs.Launch.OneLine
import HostDaemon.Proofs.Log.Appending
import HostDaemon.Proofs.Log.Forwarding

/-! # What the log of a server holds

  One run after the other is written to the log of a server: a banner, the server's lines with the
  time before each, and a footer when it stops. The banner repeats texts of the request, and a line
  feed in one of them is a line feed in the log.

  - `Log.Run.lines` are the lines of a run as they are meant, and `Log.recordAll` writes runs to a
    file. `Log.read_recordAll` says what the file holds then. That a fleet writes in this way is
    `Fleet.openLog_of_launch` for the banner and `Fleet.files_closeRun_foldl_logLine` for the rest.
  - `Log.pieces_ended_iff` says when a text comes apart into the lines that were put together, and
    `Log.Run.count_lines` how many lines a run makes.
  - `Log.not_isBannerLine` says that no line with a time before it looks like one of a banner.
  - `Log.Run.exists_piece_of_word` says that what stands behind a line feed on the command line begins
    a line.
  - `Log.log_of_runs` is the main result, for whatever is built from options. What
    `Log.line_feed_forges_line` shows is a request that makes a line of its own. -/

namespace HostDaemon

open Text (IsOneLine)

namespace Log

/-! ### Lines and the text they come to -/

/-- Lines with a line feed at the end of each. -/
def ended (lines : List String) : List Char := lines.flatMap (·.toList ++ ['\n'])

/-- How many line feeds a text holds. -/
def lineFeeds (s : String) : Nat := s.toList.count '\n'

/-- How many line feeds some texts hold together. -/
def lineFeedsIn (texts : List String) : Nat := (texts.flatMap String.toList).count '\n'

variable {texts more : List String} {s t : String}

theorem ended_append : ended (texts ++ more) = ended texts ++ ended more := List.flatMap_append

theorem ended_cons : ended (s :: texts) = s.toList ++ '\n' :: ended texts := by
  rw [ended, List.flatMap_cons, List.append_assoc]
  rfl

theorem lineFeeds_eq_zero : lineFeeds s = 0 ↔ IsOneLine s := List.count_eq_zero

theorem lineFeeds_append : lineFeeds (s ++ t) = lineFeeds s + lineFeeds t := by
  rw [lineFeeds, String.toList_append, List.count_append, lineFeeds, lineFeeds]

theorem lineFeedsIn_cons : lineFeedsIn (s :: texts) = lineFeeds s + lineFeedsIn texts := by
  rw [lineFeedsIn, List.flatMap_cons, List.count_append, lineFeeds, lineFeedsIn]

theorem lineFeedsIn_append : lineFeedsIn (texts ++ more) = lineFeedsIn texts + lineFeedsIn more := by
  rw [lineFeedsIn, List.flatMap_append, List.count_append, lineFeedsIn, lineFeedsIn]

theorem lineFeedsIn_eq_zero : lineFeedsIn texts = 0 ↔ ∀ s ∈ texts, IsOneLine s := by
  rw [lineFeedsIn, List.count_eq_zero, List.mem_flatMap]
  simp only [not_exists, not_and]
  rfl

theorem lineFeeds_joinWith {mark : String} (hmark : IsOneLine mark) (words : List String) :
    lineFeeds (Text.joinWith mark words) = lineFeedsIn words := by
  match words with
  | [] => rfl
  | [word] => simp [Text.joinWith, lineFeedsIn, lineFeeds]
  | word :: next :: others =>
    have hjoin : Text.joinWith mark (word :: next :: others) =
        word ++ mark ++ Text.joinWith mark (next :: others) := rfl
    rw [hjoin, lineFeeds_append, lineFeeds_append, lineFeeds_eq_zero.2 hmark,
      lineFeeds_joinWith hmark (next :: others), Nat.add_zero]
    exact lineFeedsIn_cons.symm

/-- A line counts, and so does every line feed in it. -/
theorem count_ended (lines : List String) :
    (ended lines).count '\n' = lines.length + lineFeedsIn lines := by
  induction lines with
  | nil => rfl
  | cons line lines ih =>
    rw [ended_cons, List.count_append, List.count_cons_self, ih, List.length_cons,
      lineFeedsIn_cons, lineFeeds]
    omega

theorem length_pieces (p : Char → Bool) (cs : List Char) :
    (Text.pieces p cs).length = cs.countP p + 1 := by
  induction cs with
  | nil => rfl
  | cons c cs ih =>
    rw [Text.pieces]
    split
    next hc => rw [List.length_cons, ih, List.countP_cons_of_pos hc]
    next hc =>
      rw [List.countP_cons_of_neg hc, ← ih]
      split
      next hnone => exact absurd hnone (Text.pieces_ne_nil p cs)
      next hpieces => rw [hpieces, List.length_cons, List.length_cons]

/-- Between the line feeds stand the lines again exactly where no line holds one. -/
theorem pieces_ended_iff :
    Text.pieces (· == '\n') (ended texts) = texts.map String.toList ++ [[]] ↔
      ∀ line ∈ texts, IsOneLine line := by
  constructor
  · intro hpieces line hline
    -- Where a line held a line feed there would be too many pieces.
    have hlength := congrArg List.length hpieces
    have hcount : (ended texts).countP (· == '\n') = (ended texts).count '\n' := rfl
    rw [length_pieces, hcount, count_ended, List.length_append, List.length_map,
      List.length_singleton] at hlength
    have hzero : lineFeedsIn texts = 0 := by omega
    exact lineFeedsIn_eq_zero.1 hzero line hline
  · intro htexts
    induction texts with
    | nil => rfl
    | cons line texts ih =>
      rw [List.forall_mem_cons] at htexts
      have hfirst : Text.pieces (· == '\n') line.toList = [line.toList] := by
        apply Text.pieces_eq_singleton
        intro c hc
        rw [beq_eq_false_iff_ne]
        rintro rfl
        exact htexts.1 hc
      have happend := Text.pieces_append (p := (· == '\n')) (beq_self_eq_true '\n') line.toList
        (ended texts)
      rw [ended_cons, happend, hfirst, ih htexts.2]
      rfl

/-! ### Times -/

theorem isDigit_of_mem_padNumber {width n : Nat} {c : Char}
    (h : c ∈ (Text.padNumber width n).toList) : c.isDigit = true := by
  rw [Text.padNumber, String.toList_ofList, List.mem_append] at h
  rcases h with hzero | hdigit
  · rw [List.eq_of_mem_replicate hzero]
    rfl
  · exact Nat.isDigit_of_mem_toDigits (by decide) (by decide) hdigit

theorem isOneLine_padNumber (width n : Nat) : IsOneLine (Text.padNumber width n) := by
  intro hmem
  cases isDigit_of_mem_padNumber hmem

theorem isOneLine_yearText (year : Int) : IsOneLine (Calendar.yearText year) := by
  have hsigns : IsOneLine "-" ∧ IsOneLine "+" := by decide
  unfold Calendar.yearText
  split
  · exact Text.isOneLine_append.2 ⟨hsigns.1, isOneLine_padNumber 4 _⟩
  · split
    · exact Text.isOneLine_append.2 ⟨hsigns.2, isOneLine_padNumber 4 _⟩
    · exact isOneLine_padNumber 4 _

theorem isOneLine_stamp (now : Int) : IsOneLine (Calendar.stamp now) := by
  have hmarks : IsOneLine "-" ∧ IsOneLine " " ∧ IsOneLine ":" := by decide
  have hmonths : ∀ n, IsOneLine (Calendar.monthNames.getD n "") := by
    intro n
    have hnames : ∀ name ∈ "" :: Calendar.monthNames, IsOneLine name := by decide
    apply hnames
    rw [List.getD_eq_getElem?_getD]
    cases hget : Calendar.monthNames[n]? with
    | none => exact List.mem_cons_self
    | some name => exact List.mem_cons_of_mem _ (List.mem_of_getElem? hget)
  simp only [Calendar.stamp, Text.isOneLine_append]
  simp only [hmarks, hmonths, isOneLine_yearText, isOneLine_padNumber, and_self]

theorem isOneLine_uptimeText (secs : Nat) : IsOneLine (uptimeText secs) := by
  have hunits : IsOneLine " " ∧ IsOneLine " and " ∧ IsOneLine "day" ∧ IsOneLine "hour" ∧
      IsOneLine "minute" ∧ IsOneLine "second" ∧ IsOneLine "s" := by decide
  have hcounted : ∀ n unit, IsOneLine unit → IsOneLine (counted n unit) := by
    intro n unit hunit
    unfold counted
    split
    · show IsOneLine (toString n ++ " " ++ unit)
      simp only [Text.isOneLine_append, Text.isOneLine_toString, hunits, hunit, and_self]
    · show IsOneLine (toString n ++ " " ++ unit ++ "s")
      simp only [Text.isOneLine_append, Text.isOneLine_toString, hunits, hunit, and_self]
  simp only [uptimeText, Text.isOneLine_append]
  simp only [hunits, hcounted, and_self]

theorem blank_not_mem_yearText (year : Int) : ' ' ∉ (Calendar.yearText year).toList := by
  have hnumber : ∀ n, ' ' ∉ (Text.padNumber 4 n).toList := by
    intro n hmem
    cases isDigit_of_mem_padNumber hmem
  unfold Calendar.yearText
  split
  · simp [hnumber]
  · split
    · simp [hnumber]
    · exact hnumber _

/-- A time does not begin with a blank, and it holds a colon. -/
theorem stamp_marks (now : Int) :
    (Calendar.stamp now).toList.head? ≠ some ' ' ∧ ':' ∈ (Calendar.stamp now).toList := by
  constructor
  · intro hhead
    simp only [Calendar.stamp, String.toList_append, List.append_assoc, List.head?_append] at hhead
    cases hyear : (Calendar.yearText (Calendar.dateOfDay (now.fdiv 86400)).year).toList.head? with
    | none =>
      rw [hyear] at hhead
      cases hhead
    | some c =>
      rw [hyear] at hhead
      cases hhead
      exact blank_not_mem_yearText _ (List.mem_of_mem_head? hyear)
  · simp [Calendar.stamp]

/-! ### The lines of a run -/

/-- A banner as lines. -/
def Banner.lines (b : Banner) (started : Int) : List String :=
  [rule, " Server started at " ++ Calendar.stamp started, " Owner: " ++ b.owner,
    " Service: " ++ b.service, " Node: " ++ b.node,
    " Hostline: " ++ Text.joinWith " " b.commandLine, rule]

/-- How many line feeds the texts of a banner hold. -/
def Banner.breaks (b : Banner) : Nat :=
  lineFeeds b.owner + lineFeeds b.service + lineFeeds b.node + lineFeedsIn b.commandLine

/-- One run of a server. -/
structure Run where
  /-- What the banner tells. -/
  banner : Banner
  /-- When it started. -/
  started : Int
  /-- The server's lines, each with the time at which it came. -/
  said : List (Int × String)
  /-- When it stopped, after how many seconds; `none` where that is not recorded. -/
  stopped : Option (Int × Nat)

namespace Run

/-- The server's lines as they are logged. -/
def saidLines (r : Run) : List String :=
  r.said.map fun (now, line) => Calendar.stamp now ++ " " ++ Text.trimEnd line

/-- The footer, where there is one. -/
def footerLines (r : Run) : List String :=
  match r.stopped with
  | none => []
  | some (now, secs) =>
    [Calendar.stamp now ++ " Server stopped! Uptime was " ++ uptimeText secs ++ "."]

/-- All lines of a run. -/
def lines (r : Run) : List String :=
  r.banner.lines r.started ++ r.saidLines ++ r.footerLines

end Run

theorem Banner.toList_render (b : Banner) (started : Int) :
    (b.render started).toList = ended (b.lines started) := by
  simp [Banner.render, Banner.lines, ended]

theorem Banner.lineFeedsIn_lines (b : Banner) (started : Int) :
    lineFeedsIn (b.lines started) = b.breaks := by
  have htitles : lineFeeds rule = 0 ∧ lineFeeds " Server started at " = 0 ∧
      lineFeeds " Owner: " = 0 ∧ lineFeeds " Service: " = 0 ∧ lineFeeds " Node: " = 0 ∧
      lineFeeds " Hostline: " = 0 := by decide
  have hblank : IsOneLine " " := by decide
  have hstamp : lineFeeds (Calendar.stamp started) = 0 :=
    lineFeeds_eq_zero.2 (isOneLine_stamp started)
  have hnone : lineFeedsIn [] = 0 := rfl
  simp only [Banner.lines, lineFeedsIn_cons, hnone, lineFeeds_append, lineFeeds_joinWith hblank,
    htitles, hstamp, Banner.breaks]
  omega

/-- No line that the daemon writes with a time before it holds a line feed. -/
theorem Run.isOneLine_body (r : Run) (hsaid : ∀ s ∈ r.said, IsOneLine s.2) :
    ∀ line ∈ r.saidLines ++ r.footerLines, IsOneLine line := by
  have hparts : IsOneLine " " ∧ IsOneLine " Server stopped! Uptime was " ∧ IsOneLine "." := by
    decide
  rw [List.forall_mem_append]
  constructor
  · rw [Run.saidLines, List.forall_mem_map]
    intro s hs
    have htrim : IsOneLine (Text.trimEnd s.2) := by
      apply Text.isOneLine_of_subset (hsaid s hs)
      intro c hc
      rw [Text.trimEnd, String.toList_ofList, Text.dropEndWhile, List.mem_reverse] at hc
      exact List.mem_reverse.1 ((List.dropWhile_sublist _).subset hc)
    simp only [Text.isOneLine_append, isOneLine_stamp, hparts, htrim, and_self]
  · unfold Run.footerLines
    split
    · intro line hline
      cases hline
    · rw [List.forall_mem_singleton]
      simp only [Text.isOneLine_append, isOneLine_stamp, isOneLine_uptimeText, hparts, and_self]

/-- A run has as many line feeds as lines, and those in the texts of its banner. -/
theorem Run.count_lines (r : Run) (hsaid : ∀ s ∈ r.said, IsOneLine s.2) :
    (ended r.lines).count '\n' = r.lines.length + r.banner.breaks := by
  have hbody : lineFeedsIn (r.saidLines ++ r.footerLines) = 0 :=
    lineFeedsIn_eq_zero.2 (r.isOneLine_body hsaid)
  rw [count_ended, Run.lines, List.append_assoc, lineFeedsIn_append, Banner.lineFeedsIn_lines, hbody,
    Nat.add_zero]

/-- All lines of a run are of one line where the texts of its banner are. -/
theorem Run.isOneLine_lines_iff (r : Run) (hsaid : ∀ s ∈ r.said, IsOneLine s.2) :
    (∀ line ∈ r.lines, IsOneLine line) ↔ r.banner.breaks = 0 := by
  rw [Run.lines, List.append_assoc, List.forall_mem_append, ← lineFeedsIn_eq_zero,
    Banner.lineFeedsIn_lines]
  exact and_iff_left (r.isOneLine_body hsaid)

/-- The texts of a banner hold no line feed where each of them is one line. -/
theorem Banner.breaks_eq_zero_iff (b : Banner) :
    b.breaks = 0 ↔ IsOneLine b.owner ∧ IsOneLine b.service ∧ IsOneLine b.node ∧
      ∀ word ∈ b.commandLine, IsOneLine word := by
  rw [Banner.breaks, Nat.add_eq_zero_iff, Nat.add_eq_zero_iff, Nat.add_eq_zero_iff,
    lineFeedsIn_eq_zero]
  simp only [lineFeeds_eq_zero, and_assoc]

/-! ### Whose line it is -/

/-- The line looks like one of a banner. -/
def IsBannerLine (line : String) : Prop := line = rule ∨ line.toList.head? = some ' '

theorem Banner.isBannerLine_lines (b : Banner) (started : Int) :
    ∀ line ∈ b.lines started, IsBannerLine line := by
  intro line hline
  simp only [Banner.lines, List.mem_cons, List.not_mem_nil, or_false] at hline
  rcases hline with rfl | rfl | rfl | rfl | rfl | rfl | rfl
  · exact .inl rfl
  · exact .inr (by simp)
  · exact .inr (by simp)
  · exact .inr (by simp)
  · exact .inr (by simp)
  · exact .inr (by simp)
  · exact .inl rfl

/-- What begins with a time does not look like a line of a banner. -/
theorem not_isBannerLine (now : Int) (text : String) :
    ¬IsBannerLine (Calendar.stamp now ++ text) := by
  obtain ⟨hhead, hcolon⟩ := stamp_marks now
  have hrule : Calendar.stamp now ++ text ≠ rule := by
    intro heq
    have hmem : ':' ∈ rule.toList := by
      rw [← heq, String.toList_append]
      exact List.mem_append_left _ hcolon
    -- The rule is made of dashes alone.
    have hdashes : rule.toList = List.replicate 64 '-' := String.toList_ofList
    rw [hdashes] at hmem
    cases List.eq_of_mem_replicate hmem
  have hblank : (Calendar.stamp now ++ text).toList.head? ≠ some ' ' := by
    rw [String.toList_append, List.head?_append]
    cases hstamp : (Calendar.stamp now).toList with
    | nil =>
      rw [hstamp] at hcolon
      cases hcolon
    | cons c rest =>
      rw [hstamp] at hhead
      exact hhead
  intro h
  exact h.elim hrule hblank

theorem Run.not_isBannerLine_body (r : Run) :
    ∀ line ∈ r.saidLines ++ r.footerLines, ¬IsBannerLine line := by
  rw [List.forall_mem_append]
  constructor
  · rw [Run.saidLines, List.forall_mem_map]
    rintro ⟨now, line⟩ _
    show ¬IsBannerLine (Calendar.stamp now ++ " " ++ Text.trimEnd line)
    rw [String.append_assoc]
    exact not_isBannerLine now _
  · unfold Run.footerLines
    split
    · intro line hline
      cases hline
    · rw [List.forall_mem_singleton, String.append_assoc, String.append_assoc]
      exact not_isBannerLine _ _

/-! ### What stands behind a line feed -/

/-- The first piece begins as the text does, up to the first line feed. -/
theorem exists_first_piece {start : List Char} (hstart : '\n' ∉ start) (rest : List Char) :
    ∃ piece others, Text.pieces (· == '\n') (start ++ rest) = piece :: others ∧
      start <+: piece := by
  induction start with
  | nil =>
    obtain ⟨piece, others, hpieces⟩ := List.exists_cons_of_ne_nil
      (Text.pieces_ne_nil (· == '\n') rest)
    exact ⟨piece, others, hpieces, List.nil_prefix⟩
  | cons c start ih =>
    rw [List.mem_cons, not_or] at hstart
    obtain ⟨piece, others, hpieces, hbegins⟩ := ih hstart.2
    have hc : ¬((c == '\n') = true) := by simpa using Ne.symm hstart.1
    refine ⟨c :: piece, others, ?_, List.cons_prefix_cons.2 ⟨rfl, hbegins⟩⟩
    rw [List.cons_append, Text.pieces, if_neg hc, hpieces]

/-- What a text goes on with behind a line feed is the beginning of one of its pieces. -/
theorem exists_piece_of_infix {start cs : List Char} (hstart : '\n' ∉ start)
    (h : '\n' :: start <:+: cs) : ∃ piece ∈ Text.pieces (· == '\n') cs, start <+: piece := by
  obtain ⟨before, after, rfl⟩ := h
  obtain ⟨piece, others, hpieces, hbegins⟩ := exists_first_piece hstart after
  have hsplit := Text.pieces_append (p := (· == '\n')) (beq_self_eq_true '\n') before
    (start ++ after)
  refine ⟨piece, ?_, hbegins⟩
  rw [List.append_assoc, List.cons_append, hsplit, hpieces]
  exact List.mem_append_right _ List.mem_cons_self

/-- A word stands in the text that the words come to. -/
theorem infix_joinWith (mark : String) {words : List String} (h : s ∈ words) :
    s.toList <:+: (Text.joinWith mark words).toList := by
  match words with
  | [] => cases h
  | [word] =>
    rw [List.mem_singleton.1 h]
    exact List.infix_rfl
  | word :: next :: others =>
    show s.toList <:+: (word ++ mark ++ Text.joinWith mark (next :: others)).toList
    rw [String.toList_append, String.toList_append]
    rcases List.mem_cons.1 h with rfl | hmore
    · rw [List.append_assoc]
      exact (List.prefix_append _ _).isInfix
    · exact (infix_joinWith mark hmore).trans (List.suffix_append _ _).isInfix

/-- What stands behind a line feed in a word of the command line begins a line of the log. -/
theorem Run.exists_piece_of_word (r : Run) {word : String} (hword : word ∈ r.banner.commandLine)
    {start : List Char} (hstart : '\n' ∉ start) (h : '\n' :: start <:+: word.toList) :
    ∃ piece ∈ Text.pieces (· == '\n') (ended r.lines), start <+: piece := by
  apply exists_piece_of_infix hstart
  have hline : " Hostline: " ++ Text.joinWith " " r.banner.commandLine ∈ r.lines := by
    simp [Run.lines, Banner.lines]
  have hended : (" Hostline: " ++ Text.joinWith " " r.banner.commandLine).toList <:+:
      ended r.lines := by
    obtain ⟨before, after, hlines⟩ := List.append_of_mem hline
    rw [hlines, ended_append, ended_cons]
    exact ⟨ended before, '\n' :: ended after, by simp⟩
  rw [String.toList_append] at hended
  exact ((h.trans (infix_joinWith " " hword)).trans (List.suffix_append _ _).isInfix).trans hended

/-! ### Lines of a process -/

/-- The lines that are forwarded from a process are of one line. -/
theorem isOneLine_of_forwarded {bytes : List UInt8} (h : s ∈ forwardedLines bytes) : IsOneLine s := by
  have hcut : ∀ {bytes lines}, IsCut bytes lines → ∀ line ∈ lines, (10 : UInt8) ∉ line := by
    intro bytes lines hcut
    induction hcut with
    | nil => simp
    | last hplain => simpa using hplain
    | lineFeed hplain _ _ ih => exact List.forall_mem_cons.2 ⟨hplain, ih⟩
    | returned hplain _ ih => exact List.forall_mem_cons.2 ⟨hplain, ih⟩
  -- A forwarded line is the text of a line of bytes, and such a line is cut at every byte 10.
  obtain ⟨rest, hlines, -⟩ := exists_leading (byteLines bytes)
  rw [← forwardedLines] at hlines
  intro hmem
  have hline : Text.Utf8.bytesOf s ∈ byteLines bytes := by
    rw [hlines]
    exact List.mem_append_left _ (List.mem_map_of_mem h)
  apply hcut (isCut_byteLines bytes) _ hline
  exact List.mem_flatMap.2 ⟨'\n', hmem, by decide⟩

/-! ### Writing runs to a file -/

/-- Write what comes after the banner of a run: the server's lines, and the footer where there is
    one. -/
def Run.writeBody (r : Run) (fs : FileSystem) (log : Location) : FileSystem :=
  let fs := r.said.foldl (fun fs (now, line) =>
    fs.appendAt log (Text.Utf8.bytesOf (stampedLine now (Text.trimEnd line)))) fs
  match r.stopped with
  | none => fs
  | some (now, secs) => fs.appendAt log (Text.Utf8.bytesOf (footer now secs))

/-- Open the log and write a run to it. -/
def Run.record (r : Run) (fs : FileSystem) (path : Path) : Except FileError FileSystem :=
  match fs.openLog path (r.banner.render r.started) with
  | (.error e, _) => .error e
  | (.ok log, fs) => .ok (r.writeBody fs log)

/-- Write one run after the other to the same log. -/
def recordAll (fs : FileSystem) (path : Path) : List Run → Except FileError FileSystem
  | [] => .ok fs
  | r :: runs =>
    match r.record fs path with
    | .error e => .error e
    | .ok fs => recordAll fs path runs

variable {fs opened : FileSystem} {path : Path} {log : Location}

theorem encode_append (cs ds : List Char) :
    Text.Utf8.encode (cs ++ ds) = Text.Utf8.encode cs ++ Text.Utf8.encode ds := List.flatMap_append

theorem isLog_writeBody (h : fs.IsLog path log) (r : Run) :
    (r.writeBody fs log).IsLog path log ∧ (r.writeBody fs log).bytesAt log =
      fs.bytesAt log ++ Text.Utf8.encode (ended (r.saidLines ++ r.footerLines)) := by
  -- First the lines, one after the other, and then the footer.
  have hsaid : ∀ (said : List (Int × String)) (fs : FileSystem), fs.IsLog path log →
      (said.foldl (fun fs (now, line) =>
        fs.appendAt log (Text.Utf8.bytesOf (stampedLine now (Text.trimEnd line)))) fs).IsLog
          path log ∧
      (said.foldl (fun fs (now, line) =>
        fs.appendAt log (Text.Utf8.bytesOf (stampedLine now (Text.trimEnd line)))) fs).bytesAt log =
        fs.bytesAt log ++ Text.Utf8.encode (ended
          (said.map fun (now, line) => Calendar.stamp now ++ " " ++ Text.trimEnd line)) := by
    intro said
    induction said with
    | nil =>
      intro fs hlog
      exact ⟨hlog, (List.append_nil _).symm⟩
    | cons first said ih =>
      intro fs hlog
      obtain ⟨now, line⟩ := first
      obtain ⟨hnext, hbytes⟩ :=
        hlog.appendAt (Text.Utf8.bytesOf (stampedLine now (Text.trimEnd line)))
      obtain ⟨hlast, hall⟩ := ih _ hnext
      refine ⟨hlast, ?_⟩
      have hline : Text.Utf8.bytesOf (stampedLine now (Text.trimEnd line)) = Text.Utf8.encode
          (ended [Calendar.stamp now ++ " " ++ Text.trimEnd line]) := by
        rw [Text.Utf8.bytesOf, stampedLine, String.toList_append, ended]
        simp
      rw [List.foldl_cons, hall, hbytes, List.append_assoc, hline, ← encode_append, ← ended_append]
      rfl
  obtain ⟨hlog, hbytes⟩ := hsaid r.said fs h
  unfold Run.writeBody Run.footerLines
  dsimp only
  split
  next =>
    -- Nothing is written for a run whose end is not recorded.
    rw [List.append_nil]
    exact ⟨hlog, hbytes⟩
  next now secs _ =>
    obtain ⟨hlast, hall⟩ := hlog.appendAt (Text.Utf8.bytesOf (footer now secs))
    refine ⟨hlast, ?_⟩
    have hfooter : Text.Utf8.bytesOf (footer now secs) = Text.Utf8.encode
        (ended [Calendar.stamp now ++ " Server stopped! Uptime was " ++ uptimeText secs ++ "."]) := by
      rw [Text.Utf8.bytesOf, footer, ended]
      simp
    rw [hall, hbytes, List.append_assoc, hfooter, ← encode_append, ← ended_append]
    rfl

/-- A run is written once its log is open. -/
theorem record_of_openLog {r : Run}
    (h : fs.openLog path (r.banner.render r.started) = (.ok log, opened)) :
    ∃ fs', r.record fs path = .ok fs' ∧ fs'.IsLog path log ∧
      fs'.bytesAt log = fs.bytesAt log ++ Text.Utf8.encode (ended r.lines) := by
  obtain ⟨hopened, hbanner⟩ := FileSystem.isLog_openLog h
  obtain ⟨hlog, hbody⟩ := isLog_writeBody hopened r
  refine ⟨r.writeBody opened log, by rw [Run.record, h], hlog, ?_⟩
  rw [hbody, hbanner, List.append_assoc, Text.Utf8.bytesOf, Banner.toList_render, ← encode_append,
    ← ended_append, Run.lines, List.append_assoc]

/-- A log can be opened for every run, and each is written behind those before it. -/
theorem recordAll_of_isLog (h : fs.IsLog path log) (runs : List Run) :
    ∃ fs', recordAll fs path runs = .ok fs' ∧ fs'.read path =
      .ok (fs.bytesAt log ++ Text.Utf8.encode (ended (runs.flatMap Run.lines))) := by
  induction runs generalizing fs with
  | nil =>
    refine ⟨fs, rfl, ?_⟩
    rw [h.read, List.flatMap_nil]
    simp [ended, Text.Utf8.encode]
  | cons r runs ih =>
    obtain ⟨next, hrecord, hlog, hbytes⟩ := record_of_openLog (h.openLog (r.banner.render r.started))
    obtain ⟨fs', hall, hread⟩ := ih hlog
    refine ⟨fs', by rw [recordAll, hrecord]; exact hall, ?_⟩
    rw [hread, hbytes, List.append_assoc, ← encode_append, ← ended_append, List.flatMap_cons]

/-- Where the log can be opened for the first run, all runs are written to it. -/
theorem read_recordAll {first : Run} (runs : List Run)
    (h : fs.openLog path (first.banner.render first.started) = (.ok log, opened)) :
    ∃ fs', recordAll fs path (first :: runs) = .ok fs' ∧ fs'.read path =
      .ok (fs.bytesAt log ++ Text.Utf8.encode (ended ((first :: runs).flatMap Run.lines))) := by
  obtain ⟨next, hrecord, hlog, hbytes⟩ := record_of_openLog h
  obtain ⟨fs', hall, hread⟩ := recordAll_of_isLog hlog runs
  refine ⟨fs', by rw [recordAll, hrecord]; exact hall, ?_⟩
  rw [hread, hbytes, List.append_assoc, ← encode_append, ← ended_append, List.flatMap_cons]

end Log

/-- The banner of a server's run on a port. -/
def LaunchSpec.banner (c : Config) (spec : LaunchSpec) (port : UInt16) : Log.Banner :=
  ⟨spec.owner, c.service.name, c.service.node, spec.commandLine c port⟩

namespace Fleet

variable {f : Fleet} {ref : ServerRef} {v : Supervisor} {s : Server}

/-- A launch that succeeds opens the log with the banner of its server, and whoever looks after the
    server writes to this log. -/
theorem openLog_of_launch {f' : Fleet} {env : Surroundings} {spec : LaunchSpec} {restarts : UInt32}
    {isRecovering : Bool} {port : UInt16}
    (h : f.launch env spec restarts isRecovering port = (.ok ref, f')) :
    ∃ (files : FileSystem) (log : Location),
      files.openLog (serverLog f.logDir spec.credentials.id)
        ((spec.banner f.config port).render env.nowSeconds) = (.ok log, f'.files) ∧
      f'.supervisors = f.supervisors ++ [⟨f.servers.length, log, port, true, true, .reading⟩] := by
  unfold launch at h
  simp only at h
  split at h
  · cases h
  · split at h
    · cases h
    · split at h
      · cases h
      next files _ _ _ =>
        split at h
        · cases h
        next log opened hopen =>
          obtain ⟨s, -, hadopt⟩ := adopt_eq { f with files := opened } env spec restarts isRecovering
            port (serverLog f.logDir spec.credentials.id) log
          rw [hadopt] at h
          cases h
          exact ⟨_, log, hopen, rfl⟩

/-- A line that comes from a server changes nothing but the files. -/
theorem logLine_eq (hv : f.supervisor? ref = some v) (env : Surroundings) (line : String) :
    f.logLine env ref line =
      { f with
        files := f.files.appendAt v.log
          (Text.Utf8.bytesOf (Log.stampedLine env.nowSeconds (Text.trimEnd line))) } := by
  rw [logLine, hv]

/-- What is given back at the end of a run is no file, and the footer is written. -/
theorem files_closeRun (hs : f.server? ref = some s) (env : Surroundings) :
    (f.closeRun env ref v).files = f.files.appendAt v.log
      (Text.Utf8.bytesOf (Log.footer env.nowSeconds (s.uptime env.now).toNat)) := by
  have hreleased : (f.releaseClaim ref).files = f.files := by
    unfold releaseClaim
    split
    · split <;> rfl
    · rfl
  rw [closeRun, hs]
  dsimp only
  rw [← hreleased, leaveLaunching]
  split <;> rfl

/-- What a fleet writes for a server, from its first line to its end, is what is written for a run. -/
theorem files_closeRun_foldl_logLine (hv : f.supervisor? ref = some v) (hs : f.server? ref = some s)
    (said : List (Surroundings × String)) (env : Surroundings) (b : Log.Banner) (started : Int) :
    ((said.foldl (fun f (now, line) => f.logLine now ref line) f).closeRun env ref v).files =
      (Log.Run.mk b started (said.map fun (now, line) => (now.nowSeconds, line))
        (some (env.nowSeconds, (s.uptime env.now).toNat))).writeBody f.files v.log := by
  induction said generalizing f with
  | nil => exact files_closeRun hs env
  | cons first said ih =>
    obtain ⟨now, line⟩ := first
    rw [List.foldl_cons]
    dsimp only
    rw [logLine_eq hv]
    exact ih hv hs

end Fleet

/-! ### The runs of a server -/

namespace Log

/-- The run is one of a server: its banner is the server's, on some port, and its lines were forwarded
    from a process. -/
structure Run.IsOf (c : Config) (spec : LaunchSpec) (r : Run) : Prop where
  banner : ∃ port, r.banner = spec.banner c port
  forwarded : ∀ s ∈ r.said, ∃ bytes, s.2 ∈ forwardedLines bytes

/-- What the log of a server holds after any number of runs.

    - Behind what was there it holds the lines of all runs: for each the seven of the banner, those of
      the server, and a footer where it stopped.
    - Cut at its line feeds it is these lines again exactly where no text of a banner holds a line
      feed. Each one that does makes one line more.
    - As far as the configuration, the identifier and the owner's name hold none, it depends on the
      texts of the request that come onto the command line. They hold none where no value of an option
      does.
    - The lines of banners are the rule or begin with a blank, and the others do not. -/
theorem log_of_runs {b : BuildContext} {owner id : String} {level : AccountLevel}
    {options : OptionList} {port : Option UInt16} {recovering : Bool} {spec : LaunchSpec}
    {fs opened : FileSystem} {path : Path} {log : Location} {first : Run} {others : List Run}
    (hbuild : b.build owner level options port recovering id = .ok spec)
    (hopen : fs.openLog path (first.banner.render first.started) = (.ok log, opened))
    (hruns : ∀ r ∈ first :: others, r.IsOf b.config spec) :
    (∃ fs', recordAll fs path (first :: others) = .ok fs' ∧ fs'.read path =
      .ok (fs.bytesAt log ++
        Text.Utf8.encode (ended ((first :: others).flatMap Run.lines)))) ∧
    (∀ r ∈ first :: others,
      r.lines.length = 7 + r.said.length + r.stopped.toList.length ∧
      (ended r.lines).count '\n' = r.lines.length + r.banner.breaks ∧
      (∀ line ∈ r.banner.lines r.started, IsBannerLine line) ∧
      ∀ line ∈ r.saidLines ++ r.footerLines, ¬IsBannerLine line) ∧
    (Text.pieces (· == '\n') (ended ((first :: others).flatMap Run.lines)) =
        ((first :: others).flatMap Run.lines).map String.toList ++ [[]] ↔
      ∀ r ∈ first :: others, r.banner.breaks = 0) ∧
    (b.config.IsOneLine → IsOneLine b.config.service.name → IsOneLine b.config.service.node →
      IsOneLine id → IsOneLine owner →
      ((∀ r ∈ first :: others, r.banner.breaks = 0) ↔
        ∀ text ∈ spec.requested, IsOneLine text)) ∧
    (IsOneLine owner → (∀ option ∈ options, IsOneLine option.2) →
      ∀ text ∈ spec.requested, IsOneLine text) := by
  -- However a process ends its lines, none holds a line feed once it is forwarded.
  have hsaid : ∀ r ∈ first :: others, ∀ s ∈ r.said, IsOneLine s.2 := by
    intro r hr s hs
    obtain ⟨bytes, hmem⟩ := (hruns r hr).forwarded s hs
    exact isOneLine_of_forwarded hmem
  refine ⟨read_recordAll others hopen, ?_, ?_, ?_, ?_⟩
  · intro r hr
    refine ⟨?_, r.count_lines (hsaid r hr), r.banner.isBannerLine_lines r.started,
      r.not_isBannerLine_body⟩
    have hfooter : r.footerLines.length = r.stopped.toList.length := by
      unfold Run.footerLines
      split
      next hnone => rw [hnone]; rfl
      next hsome => rw [hsome]; rfl
    rw [Run.lines, List.length_append, List.length_append, Run.saidLines, List.length_map, hfooter]
    rfl
  · rw [pieces_ended_iff, List.forall_mem_flatMap]
    apply forall₂_congr
    intro r hr
    exact r.isOneLine_lines_iff (hsaid r hr)
  · intro hconfig hname hnode hid howner
    obtain ⟨d, -, hfinished⟩ := BuildContext.finished_of_build hbuild
    -- Of the banner's four texts the command line alone depends on the request.
    have hbreaks : ∀ r ∈ first :: others, r.banner.breaks = 0 ↔
        ∀ text ∈ spec.requested, IsOneLine text := by
      intro r hr
      obtain ⟨launchPort, hbanner⟩ := (hruns r hr).banner
      rw [hbanner, Banner.breaks_eq_zero_iff,
        ← BuildContext.isOneLine_commandLine_iff_of_build hbuild hconfig hid howner launchPort]
      have hspec : IsOneLine spec.owner := hfinished.owner ▸ howner
      show IsOneLine spec.owner ∧ IsOneLine b.config.service.name ∧
        IsOneLine b.config.service.node ∧ _ ↔ _
      simp only [hspec, hname, hnode, true_and]
      rfl
    constructor
    · exact fun hzero => (hbreaks first List.mem_cons_self).1 (hzero first List.mem_cons_self)
    · exact fun hrequested r hr => (hbreaks r hr).2 hrequested
  · exact BuildContext.isOneLine_requested_of_build hbuild

/-- A run of a server on port 10 that says a line and stops. -/
def shortRun (spec : LaunchSpec) : Run :=
  ⟨spec.banner (BuildContext.twoPlaces []).config 10, 0, [(1, "ready")], some (65, 65)⟩

/-- A run on port 11 that does not stop. -/
def lastRun (spec : LaunchSpec) : Run :=
  ⟨spec.banner (BuildContext.twoPlaces []).config 11, 70, [], none⟩

theorem isOneLine_twoPlaces : (BuildContext.twoPlaces []).config.IsOneLine := by
  constructor <;> decide

/-- The log of a server with a plain name is written, and it is read back line by line. -/
theorem log_of_runs_duel :
    ∃ spec fs', (BuildContext.twoPlaces []).build "al" .registered
        [("iwad", "doom2"), ("hostname", "duel")] none false "id" = .ok spec ∧
      recordAll (BuildContext.twoPlaces []).files "/l/id.txt" [shortRun spec, lastRun spec] =
        .ok fs' ∧
      Text.pieces (· == '\n') (ended ([shortRun spec, lastRun spec].flatMap Run.lines)) =
        ([shortRun spec, lastRun spec].flatMap Run.lines).map String.toList ++ [[]] := by
  have hrun : ((BuildContext.twoPlaces []).build "al" .registered
      [("iwad", "doom2"), ("hostname", "duel")] none false "id").toOption.any (fun spec =>
        ((BuildContext.twoPlaces []).files.openLog "/l/id.txt"
          ((shortRun spec).banner.render 0)).1.toOption.any fun _ => true) = true := by
    decide +kernel
  obtain ⟨spec, hbuild, hspec⟩ := BuildContext.exists_ok_of_any hrun
  obtain ⟨log, hlog, -⟩ := BuildContext.exists_ok_of_any hspec
  have hruns : ∀ r ∈ [shortRun spec, lastRun spec], r.IsOf (BuildContext.twoPlaces []).config spec := by
    have hready : ∀ s ∈ [((1 : Int), "ready")], ∃ bytes, s.2 ∈ forwardedLines bytes := by
      rw [List.forall_mem_singleton]
      exact ⟨Text.Utf8.bytesOf "ready", by decide⟩
    rw [List.forall_mem_cons, List.forall_mem_singleton]
    exact ⟨⟨⟨10, rfl⟩, hready⟩, ⟨⟨11, rfl⟩, by simp [lastRun]⟩⟩
  obtain ⟨⟨fs', hrecord, -⟩, -, hpieces, hbreaks, hvalues⟩ :=
    log_of_runs hbuild (Prod.ext hlog rfl) hruns
  have hrequested := hvalues (by decide) (by decide)
  have hzero := (hbreaks isOneLine_twoPlaces (by decide) (by decide) (by decide) (by decide)).2
    hrequested
  exact ⟨spec, fs', hbuild, hrecord, hpieces.2 hzero⟩

/-- A request whose name for the server holds a line feed, and behind it what looks like a line of
    a log. -/
def forgedRequest : String := "iwad=doom2 hostname='duel\n2030-Jan-01 00:00:00 Server stopped!'"

/-- The banner of the server that is asked for. -/
def forgedBanner : Banner :=
  ⟨"al", "service", "node", ["/e/server", "-port", "10", "+exec", "/c/global.cfg", "-iwad",
    "/i/doom2.wad", "+skill", "3", "+sv_hostname", " duel\n2030-Jan-01 00:00:00 Server stopped!",
    "+sv_rconpassword", "i", "+sv_password", "d", "+sv_joinpassword", "d", "+sv_banfile",
    "/b/al.txt", "+sv_adminlistfile", "/b/al.txt", "+sv_banexemptionfile", "/b/al.txt", "-host"]⟩

/-- The request is accepted, and nine lines of the server come to ten in the file. One of them begins
    with a time that the daemon did not write. -/
theorem line_feed_forges_line :
    ∃ options spec fs' text, OptionList.parse forgedRequest = .ok options ∧
      (BuildContext.twoPlaces []).build "al" .registered options none false "id" = .ok spec ∧
      recordAll (BuildContext.twoPlaces []).files "/l/id.txt" [shortRun spec] = .ok fs' ∧
      fs'.read "/l/id.txt" = .ok (Text.Utf8.encode text) ∧
      (shortRun spec).lines.length = 9 ∧ text.count '\n' = 10 ∧
      ∃ line ∈ Text.pieces (· == '\n') text,
        "2030-Jan-01 00:00:00 Server stopped!".toList <+: line := by
  have hrun : (OptionList.parse forgedRequest).toOption.any (fun options =>
      ((BuildContext.twoPlaces []).build "al" .registered options none false "id").toOption.any
        fun spec => (shortRun spec).banner = forgedBanner) = true := by
    decide +kernel
  obtain ⟨options, hparse, hoptions⟩ := BuildContext.exists_ok_of_any hrun
  obtain ⟨spec, hbuild, hspec⟩ := BuildContext.exists_ok_of_any hoptions
  have hbanner : (shortRun spec).banner = forgedBanner := of_decide_eq_true hspec
  have hopen : ((BuildContext.twoPlaces []).files.openLog "/l/id.txt"
      (forgedBanner.render 0)).1.toOption.any
        (fun log => (BuildContext.twoPlaces []).files.bytesAt log = []) = true := by
    decide +kernel
  obtain ⟨log, hlog, hempty⟩ := BuildContext.exists_ok_of_any hopen
  have hopened : ((BuildContext.twoPlaces []).files.openLog "/l/id.txt"
      ((shortRun spec).banner.render (shortRun spec).started)).1 = .ok log := by
    rw [hbanner]
    exact hlog
  obtain ⟨fs', hrecord, hread⟩ := read_recordAll [] (Prod.ext hopened rfl)
  rw [of_decide_eq_true hempty, List.nil_append, List.flatMap_singleton] at hread
  have hready : ∀ s ∈ (shortRun spec).said, IsOneLine s.2 := by
    show ∀ s ∈ [((1 : Int), "ready")], IsOneLine s.2
    decide
  refine ⟨options, spec, fs', _, hparse, hbuild, hrecord, hread, rfl, ?_, ?_⟩
  · have hbreaks : forgedBanner.breaks = 1 := by decide +kernel
    rw [Run.count_lines _ hready, hbanner, hbreaks]
    rfl
  · have hword : " duel\n2030-Jan-01 00:00:00 Server stopped!" ∈
        (shortRun spec).banner.commandLine := by
      rw [hbanner]
      decide
    apply Run.exists_piece_of_word _ hword (by decide)
    exact ⟨" duel".toList, [], by decide⟩

end Log

end HostDaemon
