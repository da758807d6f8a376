import HostDaemon.Daemon.Contention
import HostDaemon.Proofs.Daemon.PidFile

/-! # Who owns the pid file

  A process owns the pid file from the moment at which it has created it until it takes it away or
  dies. A process that has found another one dead takes the file away in a step of its own, whoever
  owns it by then.

  - `Contention.robs` says that a step takes the file away from its owner.
  - `Contention.Orderly` says that one process at most owns the file, and what is in it. It is kept by
    every other step (`Contention.Orderly.step`), so that until somebody is robbed only the owner holds
    the directory (`Contention.Orderly.exclusive`) and is named (`Contention.Orderly.namedPid?`). -/

namespace HostDaemon

namespace Contender

/-- What is in the pid file while it is this process's own: nothing, until the process has written
    its identifier. -/
def claimed? (c : Contender) : Option (List UInt8) :=
  if c.isAlive then
    match c.stage with
    | .writing _ => some []
    | .holding | .releasing | .clearingOwn => some (Text.Utf8.bytesOf (toString c.pid))
    | _ => none
  else none

/-- Has it made the pid file, without having given it up? -/
def owns (c : Contender) : Bool := c.claimed?.isSome

variable {c : Contender}

theorem isAlive_of_owns (h : c.owns = true) : c.isAlive = true := by
  by_contra hdead
  simp [owns, claimed?, hdead] at h

theorem owns_of_holds (h : c.holds = true) : c.owns = true := by
  simp only [holds, Bool.and_eq_true, decide_eq_true_eq] at h
  simp [owns, claimed?, h.1, h.2]

theorem owns_of_clearing (h : c.stage = .clearingPidFile) : c.owns = false := by
  simp [owns, claimed?, h]

/-- Whoever has seen no daemon owns nothing yet. -/
theorem claimed?_whenStopped (c : Contender) :
    claimed? { c with stage := c.whenStopped } = none := by
  unfold claimed? whenStopped
  cases c.purpose <;> simp

theorem claimed?_whenTaken (c : Contender) (other : UInt32) (state : DaemonState) :
    claimed? { c with stage := c.whenTaken other state } = none := by
  unfold claimed? whenTaken
  cases c.purpose <;> simp

theorem whenStopped_ne_writing (c : Contender) (linked : Bool) :
    c.whenStopped ≠ .writing linked := by
  unfold whenStopped
  cases c.purpose <;> simp

theorem whenTaken_ne_writing (c : Contender) (other : UInt32) (state : DaemonState)
    (linked : Bool) : c.whenTaken other state ≠ .writing linked := by
  unfold whenTaken
  cases c.purpose <;> simp

/-- That its file is taken away is nothing to a process that has made none. -/
theorem claimed?_unlink (h : c.owns = false) : c.unlink.claimed? = none ∧
    (c.unlink.isAlive = true → c.unlink = c) := by
  rw [owns, Option.isSome_eq_false_iff, Option.isNone_iff_eq_none] at h
  unfold unlink
  split
  next linked hstage =>
    have hdead : c.isAlive = false := by
      by_contra halive
      simp [claimed?, halive, hstage] at h
    exact ⟨by simp [claimed?, hdead], fun halive => by simp [hdead] at halive⟩
  next => exact ⟨h, fun _ => rfl⟩

end Contender

namespace Contention

variable {d : DataDirectory} {t : Contention} {i j : Nat} {c c' e : Contender}

/-! ### Who owns the pid file -/

/-- Does a step take away, as stale, the pid file that a live process has made? -/
def robs (t : Contention) : Action → Bool
  | .proceed i => (t.contenders[i]?).any (fun c => c.isAlive && c.stage = .clearingPidFile) &&
      t.contenders.any (·.owns)
  | _ => false

/-- At most one process owns the pid file, and then the file is there and says so. -/
structure Orderly (d : DataDirectory) (t : Contention) : Prop where
  /-- One process owns the file. -/
  alone : ∀ (i j : Nat) (c e : Contender), t.contenders[i]? = some c →
    t.contenders[j]? = some e → c.owns = true → e.owns = true → i = j
  /-- In it is what the process has written. -/
  file : ∀ c ∈ t.contenders, ∀ bytes, c.claimed? = some bytes →
    ∃ runnable, t.files.node? d.pidFile = some (.file bytes runnable)
  /-- Nobody has another file open. -/
  linked : ∀ c ∈ t.contenders, c.isAlive = true → c.stage ≠ .writing false

/-- Where nobody owns the file all is well. -/
theorem orderly_of_nobody (hnobody : ∀ c ∈ t.contenders, c.owns = false)
    (hlinked : ∀ c ∈ t.contenders, c.isAlive = true → c.stage ≠ .writing false) : Orderly d t where
  alone := by
    intro i j c e hc _ howns
    rw [hnobody c (List.mem_of_getElem? hc)] at howns
    cases howns
  file := by
    intro c hmem bytes hbytes
    have hnone := hnobody c hmem
    rw [Contender.owns, hbytes] at hnone
    cases hnone
  linked := hlinked

/-- All others than the owner own nothing. -/
theorem Orderly.others (h : Orderly d t) (hget : t.contenders[i]? = some c)
    (hown : c.owns = true) (j : Nat) (e : Contender) (hne : j ≠ i)
    (he : t.contenders[j]? = some e) : e.owns = false := by
  by_contra hother
  exact hne (h.alone j i e c he hget (eq_true_of_ne_false hother) hown)

theorem getElem?_set_cases {cs : List Contender} (h : (cs.set i c')[j]? = some e) :
    j = i ∧ e = c' ∨ j ≠ i ∧ cs[j]? = some e := by
  rw [List.getElem?_set] at h
  split at h
  next hsame =>
    split at h
    next => exact Or.inl ⟨hsame.symm, (Option.some.inj h).symm⟩
    next => cases h
  next hne => exact Or.inr ⟨Ne.symm hne, h⟩

/-- A process went on that owns the file no more or as before. -/
theorem Orderly.set (h : Orderly d t) (hget : t.contenders[i]? = some c) {fs : FileSystem}
    (hfiles : fs.node? d.pidFile = t.files.node? d.pidFile)
    (hclaim : c'.claimed? = none ∨ c'.claimed? = c.claimed?)
    (hlinked : c'.stage ≠ .writing false) : Orderly d ⟨fs, t.contenders.set i c'⟩ := by
  have howns : c'.owns = true → c.owns = true := by
    intro hown
    rcases hclaim with hnone | hsame
    · rw [Contender.owns, hnone] at hown
      cases hown
    · rw [Contender.owns, ← hsame]
      exact hown
  constructor
  · intro j k e e' he he' hown hown'
    rcases getElem?_set_cases he with ⟨rfl, rfl⟩ | ⟨-, hold⟩
    · rcases getElem?_set_cases he' with ⟨rfl, rfl⟩ | ⟨-, hold'⟩
      · rfl
      · exact h.alone _ _ _ _ hget hold' (howns hown) hown'
    · rcases getElem?_set_cases he' with ⟨rfl, rfl⟩ | ⟨-, hold'⟩
      · exact h.alone _ _ _ _ hold hget hown (howns hown')
      · exact h.alone _ _ _ _ hold hold' hown hown'
  · intro e hmem bytes hbytes
    simp only
    rw [hfiles]
    rcases List.mem_or_eq_of_mem_set hmem with hold | rfl
    · exact h.file e hold bytes hbytes
    · rcases hclaim with hnone | hsame
      · rw [hnone] at hbytes
        cases hbytes
      · exact h.file c (List.mem_of_getElem? hget) bytes (hsame ▸ hbytes)
  · intro e hmem halive
    rcases List.mem_or_eq_of_mem_set hmem with hold | rfl
    · exact h.linked e hold halive
    · exact hlinked

/-- A process went on that is the only one to own the file. -/
theorem Orderly.own (h : Orderly d t) {fs : FileSystem}
    (hothers : ∀ j e, j ≠ i → t.contenders[j]? = some e → e.owns = false)
    (hfile : ∀ bytes, c'.claimed? = some bytes →
      ∃ runnable, fs.node? d.pidFile = some (.file bytes runnable))
    (hlinked : c'.stage ≠ .writing false) : Orderly d ⟨fs, t.contenders.set i c'⟩ := by
  constructor
  · intro j k e e' he he' hown hown'
    rcases getElem?_set_cases he with ⟨rfl, rfl⟩ | ⟨hne, hold⟩
    · rcases getElem?_set_cases he' with ⟨rfl, rfl⟩ | ⟨hne, hold'⟩
      · rfl
      · rw [hothers _ _ hne hold'] at hown'
        cases hown'
    · rw [hothers _ _ hne hold] at hown
      cases hown
  · intro e hmem bytes hbytes
    obtain ⟨j, hj⟩ := List.mem_iff_getElem?.1 hmem
    rcases getElem?_set_cases hj with ⟨rfl, rfl⟩ | ⟨hne, hold⟩
    · exact hfile bytes hbytes
    · have hnone := hothers _ _ hne hold
      rw [Contender.owns, hbytes] at hnone
      cases hnone
  · intro e hmem halive
    rcases List.mem_or_eq_of_mem_set hmem with hold | rfl
    · exact h.linked e hold halive
    · exact hlinked

/-- The pid file was taken away while nobody else owned it. -/
theorem Orderly.clear (h : Orderly d t) {fs : FileSystem}
    (hothers : ∀ j e, j ≠ i → t.contenders[j]? = some e → e.owns = false)
    (hclaim : c'.claimed? = none) (hlinked : c'.stage ≠ .writing false) :
    Orderly d ⟨fs, (t.contenders.map (·.unlink)).set i c'⟩ := by
  have hcases : ∀ e' ∈ (t.contenders.map (·.unlink)).set i c',
      e' = c' ∨ ∃ e ∈ t.contenders, e.owns = false ∧ e' = e.unlink := by
    intro e' hmem
    obtain ⟨j, hj⟩ := List.mem_iff_getElem?.1 hmem
    rcases getElem?_set_cases hj with ⟨-, rfl⟩ | ⟨hne, hold⟩
    · exact Or.inl rfl
    · rw [List.getElem?_map] at hold
      obtain ⟨e, he, rfl⟩ := Option.map_eq_some_iff.1 hold
      exact Or.inr ⟨e, List.mem_of_getElem? he, hothers j e hne he, rfl⟩
  refine orderly_of_nobody ?_ ?_
  · intro e' hmem
    rcases hcases e' hmem with rfl | ⟨e, -, hnone, rfl⟩
    · rw [Contender.owns, hclaim]
      rfl
    · rw [Contender.owns, (Contender.claimed?_unlink hnone).1]
      rfl
  · intro e' hmem halive
    rcases hcases e' hmem with rfl | ⟨e, he, hnone, rfl⟩
    · exact hlinked
    · have hsame : e.unlink = e := (Contender.claimed?_unlink hnone).2 halive
      rw [hsame] at halive ⊢
      exact h.linked e he halive

/-- A process came that owns nothing. -/
theorem Orderly.arrive (h : Orderly d t) (hnone : c'.claimed? = none)
    (hlinked : c'.stage ≠ .writing false) :
    Orderly d { t with contenders := t.contenders ++ [c'] } := by
  have hold : ∀ (j : Nat) (e : Contender), (t.contenders ++ [c'])[j]? = some e →
      e.owns = true → t.contenders[j]? = some e := by
    intro j e he hown
    rw [List.getElem?_append] at he
    split at he
    next => exact he
    next =>
      obtain rfl := List.mem_singleton.1 (List.mem_of_getElem? he)
      rw [Contender.owns, hnone] at hown
      cases hown
  constructor
  · intro j k e e' he he' hown hown'
    exact h.alone j k e e' (hold j e he hown) (hold k e' he' hown') hown hown'
  · intro e hmem bytes hbytes
    rcases List.mem_append.1 hmem with hmem | hmem
    · exact h.file e hmem bytes hbytes
    · obtain rfl := List.mem_singleton.1 hmem
      rw [hnone] at hbytes
      cases hbytes
  · intro e hmem halive
    rcases List.mem_append.1 hmem with hmem | hmem
    · exact h.linked e hmem halive
    · obtain rfl := List.mem_singleton.1 hmem
      exact hlinked

/-! ### One step -/

variable {others : Processes} {f : Contender → Contender}

theorem proceed_of_alive (hget : t.contenders[i]? = some c) (halive : c.isAlive = true)
    (others : Processes) : t.proceed d others i =
      ⟨(c.next d (t.processes others) t.files).2,
        (if c.clearsPidFile then t.contenders.map (·.unlink) else t.contenders).set i
          { c with stage := (c.next d (t.processes others) t.files).1 }⟩ := by
  simp [proceed, hget, halive]

/-- Only what is alive goes on. -/
theorem proceed_cases (t : Contention) (d : DataDirectory) (others : Processes) (i : Nat) :
    (t.proceed d others i = t ∧ ∀ c, t.contenders[i]? = some c → c.isAlive = false) ∨
      ∃ c, t.contenders[i]? = some c ∧ c.isAlive = true := by
  cases hget : t.contenders[i]? with
  | none => exact Or.inl ⟨by simp [proceed, hget], by simp⟩
  | some c =>
    cases halive : c.isAlive with
    | false => exact Or.inl ⟨by simp [proceed, hget, halive], by simp [halive]⟩
    | true => exact Or.inr ⟨c, rfl, halive⟩

/-- Only what is alive is changed. -/
theorem change_cases (t : Contention) (i : Nat) (f : Contender → Contender) :
    t.change i f = t ∨ ∃ c, t.contenders[i]? = some c ∧ c.isAlive = true ∧
      t.change i f = ⟨t.files, t.contenders.set i (f c)⟩ := by
  unfold change
  rw [List.modify_eq_set_getElem?]
  cases hget : t.contenders[i]? with
  | none => exact Or.inl rfl
  | some c =>
    cases halive : c.isAlive with
    | false =>
      obtain ⟨hlt, rfl⟩ := List.getElem?_eq_some_iff.1 hget
      exact Or.inl (by simp [halive])
    | true => exact Or.inr ⟨c, rfl, halive, by simp [halive]⟩

/-- Whoever goes on and does not take the pid file away leaves its owner what it has. -/
theorem Orderly.next (h : Orderly d t) (hget : t.contenders[i]? = some c)
    (halive : c.isAlive = true) (hkeeps : c.clearsPidFile = false) (p : Processes) :
    Orderly d ⟨(c.next d p t.files).2,
      t.contenders.set i { c with stage := (c.next d p t.files).1 }⟩ := by
  have hmem : c ∈ t.contenders := List.mem_of_getElem? hget
  -- What goes on without a claim, and leaves the pid file.
  have hplain : ∀ stage fs, fs.node? d.pidFile = t.files.node? d.pidFile →
      ({ c with stage := stage } : Contender).claimed? = none → stage ≠ .writing false →
      Orderly d ⟨fs, t.contenders.set i { c with stage := stage }⟩ :=
    fun stage fs hfiles hnone hlinked => h.set hget hfiles (Or.inl hnone) hlinked
  unfold Contender.next
  cases hstage : c.stage with
  | reading =>
    cases d.namedPid? t.files with
    | some named => exact hplain _ _ rfl (by simp [Contender.claimed?]) (by simp)
    | none => exact hplain _ _ rfl c.claimed?_whenStopped (c.whenStopped_ne_writing false)
  | judging named =>
    simp only
    split
    · exact hplain _ _ rfl (by simp [Contender.claimed?]) (by simp)
    · exact hplain _ _ rfl (by simp [Contender.claimed?]) (by simp)
  | connecting named =>
    exact hplain _ _ rfl (c.claimed?_whenTaken _ _) (c.whenTaken_ne_writing _ _ false)
  | clearingPidFile => simp [Contender.clearsPidFile, hstage] at hkeeps
  | clearingSocket =>
    exact hplain _ _ (d.node?_discard_socketFile t.files) c.claimed?_whenStopped
      (c.whenStopped_ne_writing false)
  | creating =>
    simp only
    split
    next fs hcreate =>
      -- There was no file, so that nobody owned one.
      obtain ⟨hfree, hmade⟩ := FileSystem.createNew_eq_ok hcreate
      refine h.own (fun _ e _ he => ?_) (fun bytes hbytes => ?_) (by simp)
      · by_contra hown
        obtain ⟨bytes, hbytes⟩ := Option.isSome_iff_exists.1 (eq_true_of_ne_false hown)
        obtain ⟨runnable, hfile⟩ := h.file e (List.mem_of_getElem? he) bytes hbytes
        rw [hfree] at hfile
        cases hfile
      · simp only [Contender.claimed?, halive, if_true, Option.some.injEq] at hbytes
        exact ⟨false, hbytes ▸ hmade⟩
    next => exact hplain _ _ rfl (by simp [Contender.claimed?]) (by simp)
    next => exact hplain _ _ rfl (by simp [Contender.claimed?]) (by simp)
  | naming => exact hplain _ _ rfl (by simp [Contender.claimed?]) (by simp)
  | writing linked =>
    have hlinked : linked = true := by
      cases linked with
      | true => rfl
      | false => exact absurd hstage (h.linked c hmem halive)
    have hown : c.owns = true := by simp [Contender.owns, Contender.claimed?, halive, hstage]
    simp only [hlinked, if_true]
    refine h.own (h.others hget hown) (fun bytes hbytes => ?_) (by simp)
    · simp only [Contender.claimed?, halive, if_true, Option.some.injEq] at hbytes
      obtain ⟨runnable, hfile⟩ := h.file c hmem [] (by simp [Contender.claimed?, halive, hstage])
      exact ⟨runnable, hbytes ▸ DataDirectory.node?_writePid c.pid hfile⟩
  | releasing =>
    simp only
    split
    · exact h.set hget rfl (Or.inr (by simp [Contender.claimed?, hstage])) (by simp)
    · exact hplain _ _ rfl (by simp [Contender.claimed?]) (by simp)
  | clearingOwn => simp [Contender.clearsPidFile, hstage] at hkeeps
  | holding => exact h.set hget rfl (Or.inr (by simp [Contender.claimed?, hstage])) (by simp)
  | released => exact hplain _ _ rfl (by simp [Contender.claimed?]) (by simp)
  | seen state => exact hplain _ _ rfl (by simp [Contender.claimed?]) (by simp)
  | refused cause => exact hplain _ _ rfl (by simp [Contender.claimed?]) (by simp)

/-- A process that goes on takes the file from nobody, unless it robs. -/
theorem Orderly.proceed (h : Orderly d t) (hspared : t.robs (.proceed i) = false)
    (others : Processes) : Orderly d (t.proceed d others i) := by
  rcases t.proceed_cases d others i with ⟨hsame, -⟩ | ⟨c, hget, halive⟩
  · rw [hsame]
    exact h
  rw [proceed_of_alive hget halive]
  cases hclears : c.clearsPidFile with
  | false => exact h.next hget halive hclears _
  | true =>
    rw [if_pos rfl]
    simp only [Contender.clearsPidFile, Bool.or_eq_true, decide_eq_true_eq] at hclears
    rcases hclears with hstage | hstage
    · -- It takes the file away as stale.
      simp only [robs, hget, Option.any_some, halive, hstage, decide_true, Bool.and_self,
        Bool.true_and, List.any_eq_false, Bool.not_eq_true] at hspared
      refine h.clear (fun j e _ he => hspared e (List.mem_of_getElem? he)) ?_ ?_
      all_goals simp [Contender.next, Contender.claimed?, hstage]
    · -- It takes its own file away.
      have hown : c.owns = true := by simp [Contender.owns, Contender.claimed?, halive, hstage]
      refine h.clear (h.others hget hown) ?_ ?_
      all_goals simp [Contender.next, Contender.claimed?, hstage]

/-- A process that changes where it stands, and owns what it owned or nothing. -/
theorem Orderly.change (h : Orderly d t)
    (hclaim : ∀ c : Contender, (f c).claimed? = none ∨ (f c).claimed? = c.claimed?)
    (hlinked : ∀ c : Contender, c.stage ≠ .writing false → (f c).stage ≠ .writing false)
    (i : Nat) : Orderly d (t.change i f) := by
  rcases t.change_cases i f with hsame | ⟨c, hget, halive, hchange⟩
  · rw [hsame]
    exact h
  · rw [hchange]
    exact h.set hget rfl (hclaim c) (hlinked c (h.linked c (List.mem_of_getElem? hget) halive))

/-- Whatever happens, at most one process owns the pid file, as long as nobody is robbed of it. -/
theorem Orderly.step (h : Orderly d t) {a : Action} (hspared : t.robs a = false)
    (others : Processes) : Orderly d (t.step d others a) := by
  cases a with
  | arrive pid purpose =>
    exact h.arrive rfl (by simp)
  | proceed i => exact h.proceed hspared others
  | giveUp i =>
    refine h.change (fun c => Or.inr ?_) (fun c hlinked => ?_) i
    · split
      next hstage => simp [Contender.claimed?, hstage]
      next => rfl
    · split
      · simp
      · exact hlinked
  | die i =>
    refine h.change (fun c => Or.inl ?_) (fun c hlinked => ?_) i
    · simp [Contender.claimed?]
    · exact hlinked

/-! ### A run -/

/-- Is a step always taken in a state in which it may be? -/
def always (may : Contention → Action → Bool) (d : DataDirectory) :
    Contention → List (Processes × Action) → Bool
  | _, [] => true
  | t, (others, a) :: steps => may t a && always may d (t.step d others a) steps

/-- What such steps preserve holds after all of them. -/
theorem run_of_always {may : Contention → Action → Bool} (inv : Contention → Prop)
    (hstep : ∀ t others a, inv t → may t a = true → inv (t.step d others a)) (h : inv t)
    {steps : List (Processes × Action)} (hmay : always may d t steps = true) :
    inv (t.run d steps) := by
  induction steps generalizing t with
  | nil => exact h
  | cons step steps ih =>
    obtain ⟨others, a⟩ := step
    simp only [always, Bool.and_eq_true] at hmay
    exact ih (hstep t others a h hmay.1) hmay.2

/-- Where a step may be taken it may also be taken by another rule, as long as what both preserve
    says so. -/
theorem always_of_always {may may' : Contention → Action → Bool} (inv : Contention → Prop)
    (hstep : ∀ t others a, inv t → may t a = true →
      may' t a = true ∧ inv (t.step d others a))
    (h : inv t) {steps : List (Processes × Action)} (hmay : always may d t steps = true) :
    always may' d t steps = true := by
  induction steps generalizing t with
  | nil => rfl
  | cons step steps ih =>
    obtain ⟨others, a⟩ := step
    simp only [always, Bool.and_eq_true] at hmay ⊢
    obtain ⟨hmay', hnext⟩ := hstep t others a h hmay.1
    exact ⟨hmay', ih hnext hmay.2⟩

/-- What is so of every step may be required of all of them. -/
theorem always_of_forall {p : Action → Bool} {steps : List (Processes × Action)}
    (h : ∀ step ∈ steps, p step.2 = true) (d : DataDirectory) (t : Contention) :
    always (fun _ => p) d t steps = true := by
  induction steps generalizing t with
  | nil => rfl
  | cons step steps ih =>
    simp only [always, Bool.and_eq_true]
    exact ⟨h step List.mem_cons_self, ih (fun s hs => h s (List.mem_cons_of_mem _ hs)) _⟩

theorem always_and {may may' : Contention → Action → Bool} {steps : List (Processes × Action)}
    (h : always may d t steps = true) (h' : always may' d t steps = true) :
    always (fun t a => may t a && may' t a) d t steps = true := by
  induction steps generalizing t with
  | nil => rfl
  | cons step steps ih =>
    simp only [always, Bool.and_eq_true] at h h' ⊢
    exact ⟨⟨h.1, h'.1⟩, ih h.2 h'.2⟩

/-- A step that takes the pid file away from nobody. -/
def spares (t : Contention) (a : Action) : Bool := !t.robs a

theorem Orderly.run (h : Orderly d t) {steps : List (Processes × Action)}
    (hspares : always spares d t steps = true) : Orderly d (t.run d steps) :=
  run_of_always (Orderly d)
    (fun _ others _ h hspares => h.step (by simpa [spares] using hspares) others) h hspares

theorem orderly_start (d : DataDirectory) (fs : FileSystem) : Orderly d (start fs) :=
  orderly_of_nobody (fun _ hmem => nomatch hmem) (fun _ hmem => nomatch hmem)

/-- Nobody else holds the directory while one process does. -/
theorem Orderly.exclusive (h : Orderly d t) : t.Exclusive :=
  fun i j c e hc he hholds hholds' =>
    h.alone i j c e hc he (Contender.owns_of_holds hholds) (Contender.owns_of_holds hholds')

/-- The pid file names its owner once the owner has written into it. -/
theorem Orderly.namedPid? (h : Orderly d t) (hmem : c ∈ t.contenders) (hown : c.owns = true) :
    d.namedPid? t.files = some c.pid ∨ c.stage = .writing true ∧ d.namedPid? t.files = none := by
  have halive := Contender.isAlive_of_owns hown
  obtain ⟨bytes, hbytes⟩ := Option.isSome_iff_exists.1 hown
  obtain ⟨runnable, hfile⟩ := h.file c hmem bytes hbytes
  rw [DataDirectory.namedPid?_eq, hfile]
  simp only [Contender.claimed?, halive, if_true] at hbytes
  split at hbytes
  next linked hstage =>
    cases hbytes
    refine Or.inr ⟨?_, DataDirectory.pidOf?_nil⟩
    cases linked with
    | true => exact hstage
    | false => exact absurd hstage (h.linked c hmem halive)
  all_goals first
    | cases hbytes
      exact Or.inl (DataDirectory.pidOf?_digits c.pid)
    | cases hbytes

end Contention

end HostDaemon
