import HostDaemon.Proofs.Fleet.Edits
import Mathlib.Data.List.DropRight

/-! # What lines announce

  A line of a server that does not start it announces settings and nothing else. The start of a
  server is announced and recorded where its supervisor finishes it.

  - `Fleet.SettingNotice` lists the notices about settings. None of them announces a start
    (`Fleet.SettingNotice.not_mem_startNotices`), or tells of an end
    (`Fleet.SettingNotice.not_lifeNotice`), or of a port that is taken
    (`Fleet.SettingNotice.ne_takenNotice`).
  - `Fleet.Modest` says that nothing else was announced, and no start recorded; `Fleet.modest_onLine`
    proves it for lines.
  - `Fleet.records_finishStart` and `Fleet.records_rejectStart` say what the end of a start gives.
  - `Store.starts_of_records` says that the last starts are kept of those that were recorded. -/

namespace HostDaemon.Fleet

variable {f f' f'' : Fleet} {ref : ServerRef} {notice : Notice}

/-! ### Notices about settings -/

/-- A notice about a setting that the console of a server changes: it was changed, or is too short to
    be a password. -/
inductive SettingNotice : Notice → Prop where
  /-- A setting was changed. -/
  | changed (s : Server) (credential : Credential) (value : String) :
      SettingNotice (changeNotice s credential value)
  /-- A password is refused. -/
  | refused (s : Server) (credential : Credential) (least : UInt64) :
      SettingNotice (.error
        s!"{credential.label} change for '{s.hostname}' on port {s.port} failed: Must be {least} or more characters!")

/-- A text begins with what it begins with, whatever is written behind. -/
theorem head?_append {text : String} {c : Char} (h : text.toList.head? = some c) (rest : String) :
    (text ++ rest).toList.head? = some c := by
  rw [String.toList_append, List.head?_append, h, Option.some_or]

/-- A notice about a setting begins with what the setting is called. -/
theorem SettingNotice.head? (h : SettingNotice notice) :
    ∃ c ∈ ['H', 'R', 'J', 'C'], notice.message.toList.head? = some c := by
  have hlabel : ∀ credential : Credential,
      ∃ c ∈ ['H', 'R', 'J', 'C'], credential.label.toList.head? = some c := by
    intro credential
    cases credential with
    | hostname => exact ⟨'H', by decide, rfl⟩
    | rconPassword => exact ⟨'R', by decide, rfl⟩
    | joinPassword => exact ⟨'J', by decide, rfl⟩
    | connectPassword => exact ⟨'C', by decide, rfl⟩
  cases h with
  | changed _ credential | refused _ credential =>
    obtain ⟨c, hc, hhead⟩ := hlabel credential
    refine ⟨c, hc, ?_⟩
    repeat apply head?_append
    exact hhead

theorem head?_startNotices {s : Server} (hmem : notice ∈ f.startNotices s) :
    ∃ c ∈ ['S', 'T', 'Y'], notice.message.toList.head? = some c := by
  simp only [startNotices, List.map_cons, List.map_nil, List.mem_cons, List.not_mem_nil,
    or_false] at hmem
  rcases hmem with rfl | rfl | rfl | rfl
  · refine ⟨'S', by decide, ?_⟩
    repeat apply head?_append
    rfl
  · refine ⟨'T', by decide, ?_⟩
    repeat apply head?_append
    rfl
  · refine ⟨'Y', by decide, ?_⟩
    repeat apply head?_append
    rfl
  · refine ⟨'Y', by decide, ?_⟩
    repeat apply head?_append
    rfl

/-- No notice about a setting announces a start. -/
theorem SettingNotice.not_mem_startNotices (h : SettingNotice notice) (f : Fleet) (s : Server) :
    notice ∉ f.startNotices s := by
  intro hmem
  obtain ⟨c, hc, hhead⟩ := h.head?
  obtain ⟨c', hc', hhead'⟩ := head?_startNotices hmem
  rw [hhead, Option.some.injEq] at hhead'
  subst hhead'
  exact (by simp : ∀ c ∈ ['H', 'R', 'J', 'C'], c ∉ ['S', 'T', 'Y']) c hc hc'

/-! ### Notices about starts and ends -/

/-- A notice about the start of a server or about its end. -/
inductive LifeNotice : Notice → Prop where
  /-- A server started. -/
  | start (f : Fleet) (s : Server) {notice : Notice} (hmem : notice ∈ f.startNotices s) :
      LifeNotice notice
  /-- A server was stopped, crashed or did not start at all. -/
  | exit (s : Server) (now : Int64) {notice : Notice} (hmem : notice ∈ exitNotices s now) :
      LifeNotice notice

/-- The notice that a server is turned away, since its port is taken. -/
def takenNotice (s : Server) (e : PortTaken) : Notice :=
  .error (s!"{s.owner}'s server '{s.hostname}' could not be registered: " ++ e.message)

/-- A text ends in what it ends in, whatever is written before. -/
theorem suffix_append {text : String} {ending : List Char} (h : ending <:+ text.toList)
    (first : String) : ending <:+ (first ++ text).toList := by
  rw [String.toList_append]
  exact h.trans (List.suffix_append _ _)

/-- A time ends in its seconds. -/
theorem suffix_uptimeText (secs : Nat) :
    ∃ ending ∈ ["second".toList, "seconds".toList], ending <:+ (Log.uptimeText secs).toList := by
  have hcounted : ∀ n, ∃ ending ∈ ["second".toList, "seconds".toList],
      ending <:+ (Log.counted n "second").toList := by
    intro n
    unfold Log.counted
    split
    · exact ⟨"second".toList, by simp, suffix_append (List.suffix_refl _) _⟩
    · refine ⟨"seconds".toList, by simp, ?_⟩
      rw [String.append_assoc]
      exact suffix_append (List.suffix_refl _) _
  obtain ⟨ending, hmem, hsuffix⟩ := hcounted (secs % 60)
  exact ⟨ending, hmem, suffix_append hsuffix _⟩

/-- A notice about a start or an end is known by its first letter where it is for the owner, and by
    its last word where it is about an error. -/
theorem LifeNotice.signs (h : LifeNotice notice) :
    (∃ owner message, notice = .owner owner message ∧
        ∃ c ∈ ['S', 'T', 'Y'], message.toList.head? = some c) ∨
      (∃ message, notice = .moderation message) ∨
      ∃ message, notice = .error message ∧
        ∃ ending ∈ ["second".toList, "seconds".toList], ending <:+ message.toList := by
  cases h with
  | start f s hmem =>
    obtain ⟨message, -, rfl⟩ := List.mem_map.1 hmem
    exact Or.inl ⟨s.owner, message, rfl, head?_startNotices hmem⟩
  | exit s now hmem =>
    have hran : ∃ ending ∈ ["second".toList, "seconds".toList],
        ending <:+ ("Server ran for " ++ Log.uptimeText (s.uptime now).toNat).toList := by
      obtain ⟨ending, hending, hsuffix⟩ := suffix_uptimeText (s.uptime now).toNat
      exact ⟨ending, hending, suffix_append hsuffix _⟩
    have howner : ∀ {message : String} {c : Char}, c ∈ ['S', 'T', 'Y'] →
        message.toList.head? = some c → ∃ owner message', Notice.owner s.owner message =
          .owner owner message' ∧ ∃ c ∈ ['S', 'T', 'Y'], message'.toList.head? = some c :=
      fun hc hhead => ⟨_, _, rfl, _, hc, hhead⟩
    simp only [exitNotices] at hmem
    repeat' split at hmem
    all_goals simp only [List.mem_cons, List.not_mem_nil, or_false] at hmem
    · -- It was stopped by its owner.
      subst hmem
      refine Or.inl (howner (c := 'S') (by decide) ?_)
      repeat apply head?_append
      rfl
    · -- It was stopped by somebody else.
      rcases hmem with rfl | rfl
      · refine Or.inl (howner (c := 'S') (by decide) ?_)
        repeat apply head?_append
        rfl
      · exact Or.inr (Or.inl ⟨_, rfl⟩)
    · -- It crashed.
      rcases hmem with rfl | rfl
      · refine Or.inl (howner (c := 'S') (by decide) ?_)
        repeat apply head?_append
        rfl
      · obtain ⟨ending, hending, hsuffix⟩ := hran
        exact Or.inr (Or.inr ⟨_, rfl, ending, hending, suffix_append hsuffix _⟩)
    · -- It was unable to start.
      rcases hmem with rfl | rfl
      · refine Or.inl (howner (c := 'S') (by decide) ?_)
        repeat apply head?_append
        rfl
      · refine Or.inl (howner (c := 'Y') (by decide) ?_)
        repeat apply head?_append
        rfl

/-- The notice that a server is turned away ends in the last word of its reason. -/
theorem suffix_takenNotice (s : Server) (e : PortTaken) :
    "registered".toList <:+ (takenNotice s e).message.toList := by
  have hlast : "registered".toList <:+ " is already registered".toList :=
    ⟨" is already ".toList, rfl⟩
  have hreason : "registered".toList <:+ e.message.toList := suffix_append hlast _
  exact suffix_append hreason _

/-- A refusal ends with an exclamation. -/
theorem SettingNotice.suffix {message : String} (h : SettingNotice (.error message)) :
    "!".toList <:+ message.toList := by
  cases h with
  | refused s credential least =>
    have hlast : "!".toList <:+ " or more characters!".toList := ⟨" or more characters".toList, rfl⟩
    exact suffix_append hlast _

/-- No text ends in two words of which neither ends in the other. -/
theorem suffix_disjoint {text ending ending' : List Char} (h : ending <:+ text) (h' : ending' <:+ text)
    (hne : ¬ ending <:+ ending' ∧ ¬ ending' <:+ ending) : False :=
  (List.suffix_or_suffix_of_suffix h h').elim hne.1 hne.2

theorem SettingNotice.ne_takenNotice (h : SettingNotice notice) (s : Server) (e : PortTaken) :
    notice ≠ takenNotice s e := by
  rintro rfl
  exact suffix_disjoint h.suffix (suffix_takenNotice s e) (by decide)

/-- No notice about a setting is one about a start or an end. -/
theorem SettingNotice.not_lifeNotice (h : SettingNotice notice) : ¬ LifeNotice notice := by
  intro hlife
  rcases hlife.signs with ⟨owner, message, rfl, c, hc, hhead⟩ | ⟨message, rfl⟩ |
    ⟨message, rfl, ending, hending, hsuffix⟩
  · obtain ⟨c', hc', hhead'⟩ := h.head?
    change message.toList.head? = some c' at hhead'
    rw [hhead, Option.some.injEq] at hhead'
    subst hhead'
    exact (by simp : ∀ c ∈ ['H', 'R', 'J', 'C'], c ∉ ['S', 'T', 'Y']) c hc' hc
  · cases h
  · exact suffix_disjoint h.suffix hsuffix ((by decide :
      ∀ ending ∈ ["second".toList, "seconds".toList],
        ¬ "!".toList <:+ ending ∧ ¬ ending <:+ "!".toList) ending hending)

/-- That a server is turned away is not told as a start or an end. -/
theorem not_lifeNotice_takenNotice (s : Server) (e : PortTaken) : ¬ LifeNotice (takenNotice s e) := by
  intro hlife
  rcases hlife.signs with ⟨owner, message, heq, -⟩ | ⟨message, heq⟩ |
    ⟨message, heq, ending, hending, hsuffix⟩
  · cases heq
  · cases heq
  · have hregistered := suffix_takenNotice s e
    rw [heq] at hregistered
    exact suffix_disjoint hregistered hsuffix ((by decide :
      ∀ ending ∈ ["second".toList, "seconds".toList],
        ¬ "registered".toList <:+ ending ∧ ¬ ending <:+ "registered".toList) ending hending)

/-! ### Lines -/

/-- Nothing was announced but settings, and no start was recorded. -/
structure Modest (f f' : Fleet) : Prop where
  /-- What was announced. -/
  notices : ∃ news, f'.notices = f.notices ++ news ∧ ∀ notice ∈ news, SettingNotice notice
  /-- No start was recorded. -/
  store : f'.store = f.store

namespace Modest

/-- What leaves notices and start records alone announces nothing. -/
theorem of_eq (hnotices : f'.notices = f.notices) (hstore : f'.store = f.store) : Modest f f' :=
  ⟨⟨[], by rw [hnotices, List.append_nil], fun _ hmem => by cases hmem⟩, hstore⟩

theorem refl (f : Fleet) : Modest f f := of_eq rfl rfl

theorem trans (h : Modest f f') (h' : Modest f' f'') : Modest f f'' := by
  obtain ⟨news, hnews, hsettings⟩ := h.notices
  obtain ⟨more, hmore, hsettings'⟩ := h'.notices
  refine ⟨⟨news ++ more, by rw [hmore, hnews, List.append_assoc], ?_⟩, h'.store.trans h.store⟩
  intro notice hmem
  rcases List.mem_append.1 hmem with hold | hnew
  · exact hsettings notice hold
  · exact hsettings' notice hnew

end Modest

theorem modest_notify (f : Fleet) (hnotice : SettingNotice notice) : Modest f (f.notify notice) :=
  ⟨⟨[notice], rfl, fun _ hmem => List.mem_singleton.1 hmem ▸ hnotice⟩, rfl⟩

theorem modest_tellConsole (f : Fleet) (ref : ServerRef) (lines : List String) :
    Modest f (f.tellConsole ref lines) := by
  unfold tellConsole writeLines
  split <;> exact .of_eq rfl rfl

theorem modest_logLine (f : Fleet) (env : Surroundings) (ref : ServerRef) (line : String) :
    Modest f (f.logLine env ref line) := by
  unfold logLine
  split <;> exact .of_eq rfl rfl

theorem modest_onPlayer (f : Fleet) (ref : ServerRef) (ip : String) (checkReputation : Bool) :
    Modest f (f.onPlayer ref ip checkReputation) := by
  have hasked : Modest f (if checkReputation then f.askReputation ref ip else f) := by
    unfold askReputation
    repeat' split
    all_goals exact .of_eq rfl rfl
  unfold onPlayer
  split
  · exact .refl f
  · simp only
    split
    · exact hasked.trans (modest_tellConsole _ _ _)
    · exact hasked

theorem modest_onHostname (f : Fleet) (ref : ServerRef) (s : Server) (value : String) :
    Modest f (f.onHostname ref s value) := by
  unfold onHostname
  split
  · exact .refl f
  · have hset : Modest f
        (f.update ref fun s => { s with settings := s.settings.set value .hostname }) :=
      .of_eq rfl rfl
    simp only
    split
    · exact hset.trans (modest_notify _ (.changed s .hostname value))
    · exact (hset.trans (modest_tellConsole _ _ _)).trans
        (modest_notify _ (.changed s .hostname value))

theorem modest_onPassword (f : Fleet) (ref : ServerRef) (s : Server) (credential : Credential)
    (value : String) : Modest f (f.onPassword ref s credential value) := by
  unfold onPassword
  simp only
  split
  · exact f.modest_notify (.refused s credential _)
  · split
    · exact .refl f
    · have hset : Modest f
          (f.update ref fun s => { s with settings := s.settings.set value credential }) :=
        .of_eq rfl rfl
      exact hset.trans (modest_notify _ (.changed s credential value))

theorem modest_onCredential (f : Fleet) (ref : ServerRef) (credential : Credential)
    (value : String) : Modest f (f.onCredential ref credential value) := by
  unfold onCredential
  repeat' split
  · exact .refl f
  · exact .refl f
  · exact f.modest_onHostname ref _ value
  · exact f.modest_onPassword ref _ _ value

/-- An event announces settings alone, where it is not a start. -/
theorem modest_onEvent (f : Fleet) (env : Surroundings) (ref : ServerRef) {event : ConsoleEvent}
    (hevent : event ≠ .initialized) : Modest f (f.onEvent env ref event) := by
  cases event with
  | alternatePort | bindRetry | boundAddress | activity => exact .of_eq rfl rfl
  | initialized => exact absurd rfl hevent
  | playerSeen name ip checkReputation => exact f.modest_onPlayer ref ip checkReputation
  | credentialChanged credential value => exact f.modest_onCredential ref credential value

/-- A line announces settings alone, where it does not tell of the start of its server. -/
theorem modest_onLine (f : Fleet) (env : Surroundings) {line : String}
    (hnot : Traffic.startsNow f ref (ConsoleLine.recognize line) = false) :
    Modest f (f.onLine env ref line) :=
  onLine_keeps env hnot (f.modest_logLine env ref line) fun g _ hevent hg =>
    hg.trans (g.modest_onEvent env ref hevent)

/-! ### Records -/

/-- The notices that went out, the start records, and who is registered. -/
def records (f : Fleet) : List Notice × Store × Registry := (f.notices, f.store, f.registry)

theorem modest_of_records (h : f'.records = f.records) : Modest f f' :=
  .of_eq (congrArg (·.1) h) (congrArg (·.2.1) h)

/-- Only the launching servers are touched. -/
theorem exists_launching_of_leaveLaunching (f : Fleet) (ref : ServerRef) :
    ∃ launching, f.leaveLaunching ref = { f with launching := launching } := by
  unfold leaveLaunching
  split
  · exact ⟨f.launching, rfl⟩
  · exact ⟨_, rfl⟩

@[simp] theorem records_releaseClaim (f : Fleet) (ref : ServerRef) :
    (f.releaseClaim ref).records = f.records := by
  unfold releaseClaim
  repeat' split
  all_goals rfl

@[simp] theorem records_killProcess (f : Fleet) (ref : ServerRef) :
    (f.killProcess ref).records = f.records := by
  unfold killProcess
  repeat' split
  all_goals rfl

/-- A server that begins to start is on no record yet. -/
@[simp] theorem records_beginStart (f : Fleet) (ref : ServerRef) :
    (f.beginStart ref).records = f.records := by
  unfold beginStart settlePort
  repeat' split
  all_goals rfl

/-! ### Starts -/

/-- The start of a server is announced to its owner and recorded, unless it is being recovered. -/
theorem records_finishStart {s : Server} (hs : f.server? ref = some s) :
    (f.finishStart ref).records =
      if s.isRecovering then f.records
      else (f.notices ++ f.startNotices s, f.store.recordStart ⟨s.hostname, s.id, s.owner⟩,
        f.registry) := by
  obtain ⟨launching, hleft⟩ := f.exists_launching_of_leaveLaunching ref
  have hs' : server? { f with launching := launching } ref = some s := hs
  rw [finishStart, records_releaseClaim, hleft, announceStart, hs']
  simp only
  split <;> rfl

/-- A server that is turned away is told of, marked, and its process is killed. -/
theorem refuseStart_eq {s : Server} (hs : f.server? ref = some s) (e : PortTaken) :
    f.refuseStart ref e = ((f.notify (takenNotice s e)).update ref fun s =>
      { s with hidesStop := true }.markKilled false).killProcess ref := by
  rw [refuseStart, hs]
  rfl

/-- That a server is turned away is announced, and nothing else. -/
theorem records_rejectStart {s : Server} (hs : f.server? ref = some s) (e : PortTaken) :
    (f.rejectStart ref e).records = (f.notices ++ [takenNotice s e], f.store, f.registry) := by
  obtain ⟨launching, hleft⟩ := f.exists_launching_of_leaveLaunching ref
  have hs' : server? { f with launching := launching } ref = some s := hs
  rw [rejectStart, records_releaseClaim, hleft, refuseStart_eq hs', records_killProcess]
  rfl

end HostDaemon.Fleet

/-! ### The record of starts -/

namespace HostDaemon.Store

variable {s : Store}

/-- The last values of a list are those of what it ends with, where that is long enough. -/
theorem rtake_rtake_append {α : Type} (n : Nat) (front back : List α) :
    (front.rtake n ++ back).rtake n = (front ++ back).rtake n := by
  have hdrop : front.rtake n ++ back = (front ++ back).drop (front.length - n) := by
    rw [List.rtake, List.drop_append_of_le_length (Nat.sub_le _ _)]
  rw [hdrop, List.rtake, List.rtake, List.drop_drop, List.length_drop, List.length_append]
  congr 1
  omega

/-- A start is added, and the last ones are kept. With more records than are kept no record would go
    again, as one goes only when their number is reached. -/
theorem recordStart_eq (h : s.starts.length ≤ recentStarts) (record : StartRecord) :
    s.recordStart record = { s with starts := (s.starts ++ [record]).rtake recentStarts } := by
  rw [recordStart, List.rtake, List.length_append, List.length_singleton]
  -- By the bound, what is not full has room for one more.
  by_cases hfull : s.starts.length = recentStarts
  · rw [if_pos hfull, hfull, Nat.add_sub_cancel_left,
      List.drop_append_of_le_length (by rw [hfull]; decide)]
  · have hroom : s.starts.length + 1 - recentStarts = 0 := by omega
    rw [if_neg hfull, hroom, List.drop_zero]

/-- After a run of starts the last are kept of the records before it and its own. -/
theorem foldl_recordStart (h : s.starts.length ≤ recentStarts) (records : List StartRecord) :
    records.foldl recordStart s =
      { s with starts := (s.starts ++ records).rtake recentStarts } := by
  -- The bound on the records is what each start keeps.
  induction records generalizing s with
  | nil =>
    have hall : s.starts.length - recentStarts = 0 := Nat.sub_eq_zero_of_le h
    rw [List.append_nil, List.rtake, hall]
    rfl
  | cons record records ih =>
    have hkept : (s.recordStart record).starts.length ≤ recentStarts := by
      rw [recordStart_eq h, List.rtake, List.length_drop]
      omega
    rw [List.foldl_cons, ih hkept, recordStart_eq h, rtake_rtake_append, List.append_assoc,
      List.singleton_append]

/-- After any number of starts a new store holds the last of them in the order in which they came: all,
    or as many as are kept where there are more. It is otherwise as it was. -/
theorem starts_of_records (policy : PolicySettings) (defaultQuota : UInt32)
    (records : List StartRecord) :
    records.foldl recordStart (ofPolicy policy defaultQuota) =
      { ofPolicy policy defaultQuota with
        starts := records.rtake (min recentStarts records.length) } := by
  rw [foldl_recordStart (Nat.zero_le _)]
  have hsame : records.rtake recentStarts = records.rtake (min recentStarts records.length) := by
    rw [List.rtake, List.rtake]
    congr 1
    omega
  rw [← hsame]
  rfl

end HostDaemon.Store
