import HostDaemon.Proofs.Daemon.Turns

/-! # Who holds a data directory

  - `Contention.Orderly.not_exclusive` says that after a process has been robbed of its pid file two
    processes can hold the directory.
  - `Contention.exclusive_of_run` is the result for every run: how a directory comes to be held twice,
    and when it does not. -/

namespace HostDaemon

namespace Contention

variable {d : DataDirectory} {t : Contention} {i j : Nat} {c e : Contender}

/-! ### After a robbery -/

/-- A process comes and claims the directory, and nobody comes in between. -/
def claimBy (others : Processes) (pid : UInt32) (i : Nat) : List (Processes × Action) :=
  [(others, .arrive pid .claim), (others, .proceed i), (others, .proceed i), (others, .proceed i)]

/-- Who came last goes on. -/
theorem proceed_concat (d : DataDirectory) (fs : FileSystem) (cs : List Contender)
    (halive : c.isAlive = true) (hkeeps : c.clearsPidFile = false) (others : Processes) :
    ∃ p, (⟨fs, cs ++ [c]⟩ : Contention).proceed d others cs.length =
      ⟨(c.next d p fs).2, cs ++ [{ c with stage := (c.next d p fs).1 }]⟩ := by
  refine ⟨(⟨fs, cs ++ [c]⟩ : Contention).processes others, ?_⟩
  rw [proceed_of_alive (List.getElem?_concat_length) halive, hkeeps]
  simp

/-- Where there is no pid file whoever claims the directory holds it. -/
theorem run_claimBy {l : Location} (hfree : t.files.locate d.pidFile = .ok (l, none))
    (others : Processes) (pid : UInt32) :
    (t.run d (claimBy others pid t.contenders.length)).contenders =
      t.contenders ++ [⟨pid, .claim, true, .holding⟩] := by
  obtain ⟨fs, cs⟩ := t
  have hnobody : d.namedPid? fs = none := DataDirectory.namedPid?_of_locate hfree
  have hcreate : fs.createNew d.pidFile [] = .ok (fs.put l (.file [] false)) := by
    rw [FileSystem.createNew, hfree]
  unfold run claimBy
  simp only [List.foldl_cons, List.foldl_nil, step]
  obtain ⟨p, hlook⟩ := proceed_concat d fs cs (c := ⟨pid, .claim, true, .reading⟩) rfl rfl others
  simp only [Contender.next, hnobody, Contender.whenStopped] at hlook
  rw [hlook]
  obtain ⟨p, hmake⟩ := proceed_concat d fs cs (c := ⟨pid, .claim, true, .creating⟩) rfl rfl others
  simp only [Contender.next, hcreate] at hmake
  rw [hmake]
  obtain ⟨p, hwrite⟩ := proceed_concat d (fs.put l (.file [] false)) cs
    (c := ⟨pid, .claim, true, .writing true⟩) rfl rfl others
  rw [hwrite]
  rfl

/-- Where a process holds the directory and its pid file is gone another process can hold it
    too. -/
theorem not_exclusive_claimBy {l : Location} (hfree : t.files.locate d.pidFile = .ok (l, none))
    (hget : t.contenders[j]? = some e) (hholds : e.holds = true) (others : Processes)
    (pid : UInt32) : ¬ (t.run d (claimBy others pid t.contenders.length)).Exclusive := by
  intro hexclusive
  have hlt : j < t.contenders.length := (List.getElem?_eq_some_iff.1 hget).1
  have hcontenders := run_claimBy hfree others pid
  have hsame := hexclusive j t.contenders.length e ⟨pid, .claim, true, .holding⟩
    (by rw [hcontenders, List.getElem?_append_left hlt, hget])
    (by rw [hcontenders, List.getElem?_concat_length]) hholds rfl
  omega

/-- Who is robbed while it holds the directory, or is about to, comes to hold it all the same, and
    there is no pid file. -/
theorem Orderly.robbed (h : Orderly d t) (hrobs : t.robs (.proceed i) = true)
    (hget : t.contenders[j]? = some e) (hown : e.owns = true)
    (hstage : e.stage = .holding ∨ e.stage = .writing true) (others others' : Processes) :
    ((t.proceed d others i).proceed d others' j).contenders[j]? =
        some { e with stage := .holding } ∧
      ((t.proceed d others i).proceed d others' j).contenders.length = t.contenders.length ∧
      ∃ l, ((t.proceed d others i).proceed d others' j).files.locate d.pidFile =
        .ok (l, none) := by
  have halive := Contender.isAlive_of_owns hown
  simp only [robs, Bool.and_eq_true, Option.any_eq_true, decide_eq_true_eq] at hrobs
  obtain ⟨⟨c, hthief, hcalive, hcstage⟩, -⟩ := hrobs
  have hne : i ≠ j := by
    rintro rfl
    obtain rfl := Option.some.inj (hthief.symm.trans hget)
    simp [hcstage] at hstage
  -- The file is taken away.
  have hfirst : t.proceed d others i = ⟨DataDirectory.discard t.files d.pidFile,
      (t.contenders.map (·.unlink)).set i { c with stage := .clearingSocket }⟩ := by
    rw [proceed_of_alive hthief hcalive]
    simp [Contender.next, Contender.clearsPidFile, hcstage]
  have hsecond : (t.proceed d others i).contenders[j]? = some e.unlink := by
    rw [hfirst]
    simp [List.getElem?_set_ne hne, hget]
  obtain ⟨bytes, hbytes⟩ := Option.isSome_iff_exists.1 hown
  obtain ⟨runnable, hfile⟩ := h.file e (List.mem_of_getElem? hget) bytes hbytes
  obtain ⟨l, hfree⟩ := FileSystem.locate_discard hfile
  -- Its owner writes into the file that it has open, or has written already.
  have hafter : (t.proceed d others i).proceed d others' j =
      ⟨DataDirectory.discard t.files d.pidFile,
        (t.proceed d others i).contenders.set j { e with stage := .holding }⟩ := by
    have hunlinked : e.unlink.isAlive = true := by
      unfold Contender.unlink
      split <;> exact halive
    rw [proceed_of_alive hsecond hunlinked]
    rcases hstage with hstage | hstage
    · simp [Contender.next, Contender.unlink, Contender.clearsPidFile, hstage, hfirst]
    · simp [Contender.next, Contender.unlink, Contender.clearsPidFile, hstage, hfirst]
  refine ⟨?_, ?_, l, ?_⟩
  · rw [hafter]
    simp [List.getElem?_set_self (List.getElem?_eq_some_iff.1 hsecond).1]
  · rw [hafter, hfirst]
    simp
  · rw [hafter]
    exact hfree

/-- After a robbery one more process that claims the directory is enough for it to be held
    twice. -/
theorem Orderly.not_exclusive (h : Orderly d t) (hrobs : t.robs (.proceed i) = true)
    (hget : t.contenders[j]? = some e) (hown : e.owns = true)
    (hstage : e.stage = .holding ∨ e.stage = .writing true) (others others' : Processes)
    (pid : UInt32) :
    ¬ ((t.step d others (.proceed i)).run d
      ((others', .proceed j) :: claimBy others' pid t.contenders.length)).Exclusive := by
  obtain ⟨hholder, hlength, l, hfree⟩ := h.robbed hrobs hget hown hstage others others'
  rw [← hlength]
  refine not_exclusive_claimBy hfree hholder ?_ others' pid
  simp [Contender.holds, Contender.isAlive_of_owns hown]

/-! ### All runs -/

/-- It is by one kind of step, and by no other, that a data directory comes to be held twice: a
    process takes away, as stale, a pid file that another has made.

    As long as there has been no such step at most one process holds the directory, and the pid file
    names that process. The step goes by an old look at the directory, for by then the file names its
    owner, which is alive, or its owner is about to write. After it the owner, where it does not give
    the directory up, and one more process that claims it hold it both.

    There is no such step where the pid file names nobody at first and nobody dies, nor where a
    process goes on only while all others have acted on what they have seen. -/
theorem exclusive_of_run (d : DataDirectory) (fs : FileSystem)
    (steps : List (Processes × Action)) (hgenuine : ∀ step ∈ steps, step.2.isGenuine = true) :
    let t := (start fs).run d steps
    (always spares d (start fs) steps = true →
      t.Exclusive ∧
      (∀ c ∈ t.contenders, c.holds = true → d.namedPid? t.files = some c.pid) ∧
      ∀ i, t.robs (.proceed i) = true →
        ∃ j e, t.contenders[j]? = some e ∧ e.owns = true ∧
          (d.namedPid? t.files = some e.pid ∧
              (∀ others, (t.processes others).isAlive e.pid = true) ∨
            e.stage = .writing true ∧ d.namedPid? t.files = none) ∧
          (e.stage = .holding ∨ e.stage = .writing true → ∀ others others' pid,
            ¬ ((t.step d others (.proceed i)).run d
              ((others', .proceed j) :: claimBy others' pid t.contenders.length)).Exclusive)) ∧
    (d.namedPid? fs = none → (∀ step ∈ steps, step.2.isDeath = false) →
      always spares d (start fs) steps = true) ∧
    (always takesTurn d (start fs) steps = true → always spares d (start fs) steps = true) := by
  intro t
  have hpids : ∀ pid ∈ t.pids, isProcessId pid = true :=
    run_of_always (fun t => ∀ pid ∈ t.pids, isProcessId pid = true)
      (fun _ others _ hold ha => genuine_step hold ha d others) (by simp [start, pids])
      (always_of_forall hgenuine d (start fs))
  refine ⟨fun hspares => ?_, fun hnobody hdeath => ?_, fun hturns => ?_⟩
  · have h : Orderly d t := (orderly_start d fs).run hspares
    refine ⟨h.exclusive, fun c hmem hholds => ?_, fun i hrobs => ?_⟩
    · rcases h.namedPid? hmem (Contender.owns_of_holds hholds) with hnamed | ⟨hwriting, -⟩
      · exact hnamed
      · simp [Contender.holds, hwriting] at hholds
    · have hany : t.contenders.any (·.owns) = true := by
        simp only [robs, Bool.and_eq_true] at hrobs
        exact hrobs.2
      obtain ⟨e, hmem, hown⟩ := List.any_eq_true.1 hany
      obtain ⟨j, hget⟩ := List.mem_iff_getElem?.1 hmem
      refine ⟨j, e, hget, hown, (h.namedPid? hmem hown).imp (fun hnamed => ⟨hnamed, ?_⟩) id,
        fun hstage => h.not_exclusive hrobs hget hown hstage⟩
      exact isAlive_processes hmem (Contender.isAlive_of_owns hown)
        (hpids _ (List.mem_map_of_mem hmem))
  · refine always_of_always (Calm d) ?_ (calm_start hnobody)
      (always_of_forall (p := fun a => a.isGenuine && !a.isDeath) ?_ d (start fs))
    · intro t others a h ha
      simp only [Bool.and_eq_true, Bool.not_eq_true'] at ha
      exact ⟨by rw [spares, h.robs_eq_false a]; rfl, h.step ha.1 ha.2 others⟩
    · intro step hmem
      rw [hgenuine step hmem, hdeath step hmem]
      rfl
  · refine always_of_always (Settled d) ?_ (settled_start d fs)
      (always_and (always_of_forall hgenuine d (start fs)) hturns)
    intro t others a h ha
    simp only [Bool.and_eq_true] at ha
    exact ⟨by rw [spares, h.robs_eq_false a]; rfl, h.step ha.1 ha.2 others⟩

/-- A machine on which a daemon has died and has left its pid file. -/
def leftBehind : FileSystem :=
  ⟨[(["data"], .directory), (["data", "gamehost.pid"], .file (Text.Utf8.bytesOf "4294967") false)]⟩

/-- Nobody else is there. -/
def deserted : Processes := ⟨fun _ => false, fun _ => false⟩

/-- Two processes come, and each finds that the daemon is dead. The second one takes the pid file
    away and claims the directory. -/
def overtaken : List (Processes × Action) :=
  [.arrive 100 .claim, .arrive 101 .claim, .proceed 0, .proceed 1, .proceed 0, .proceed 1,
    .proceed 1, .proceed 1, .proceed 1, .proceed 1].map (deserted, ·)

/-- Two processes come, and the second one looks when the first one has claimed the directory. -/
def oneByOne : List (Processes × Action) :=
  (deserted, .arrive 100 .claim) :: (deserted, .arrive 101 .claim) ::
    (List.replicate 6 (deserted, .proceed 0) ++ List.replicate 3 (deserted, .proceed 1))

/-- A process that has been overtaken has not taken the file away yet, and can make two hold the
    directory. Where there was no file, or one process looks after the other, this does not come
    about. -/
theorem exclusive_of_small_runs :
    (((start leftBehind).run ⟨"/data"⟩ overtaken).Exclusive ∧
      ∃ more, ¬ (((start leftBehind).run ⟨"/data"⟩ overtaken).run ⟨"/data"⟩ more).Exclusive) ∧
    ((start ⟨[(["data"], .directory)]⟩).run ⟨"/data"⟩ overtaken).Exclusive ∧
    ((start leftBehind).run ⟨"/data"⟩ oneByOne).Exclusive := by
  have hgenuine : ∀ step ∈ overtaken, step.2.isGenuine = true := by decide
  have hstale := exclusive_of_run ⟨"/data"⟩ leftBehind overtaken hgenuine
  have hnone := exclusive_of_run ⟨"/data"⟩ ⟨[(["data"], .directory)]⟩ overtaken hgenuine
  have hturns := exclusive_of_run ⟨"/data"⟩ leftBehind oneByOne (by decide)
  refine ⟨?_, (hnone.1 (hnone.2.1 (by decide +kernel) (by decide))).1,
    (hturns.1 (hturns.2.2 (by decide +kernel))).1⟩
  obtain ⟨hexclusive, -, hrobbery⟩ := hstale.1 (by decide +kernel)
  refine ⟨hexclusive, ?_⟩
  obtain ⟨j, e, hget, hown, -, htwo⟩ := hrobbery 0 (by decide +kernel)
  have hthere : ((start leftBehind).run ⟨"/data"⟩ overtaken).contenders =
      [⟨100, .claim, true, .clearingPidFile⟩, ⟨101, .claim, true, .holding⟩] := by
    decide +kernel
  have hstage : e.stage = .holding := by
    have hmem := List.mem_of_getElem? hget
    rw [hthere] at hmem
    simp only [List.mem_cons, List.not_mem_nil, or_false] at hmem
    rcases hmem with rfl | rfl
    · cases hown
    · rfl
  exact ⟨(deserted, .proceed 0) :: (deserted, .proceed j) :: claimBy deserted 102 _,
    htwo (Or.inl hstage) deserted deserted 102⟩

/-- When the first process goes on both hold the directory. -/
theorem two_hold_after_overtaking :
    ((start leftBehind).run ⟨"/data"⟩
        (overtaken ++ List.replicate 4 (deserted, .proceed 0))).contenders =
      [⟨100, .claim, true, .holding⟩, ⟨101, .claim, true, .holding⟩] ∧
    ¬ ((start leftBehind).run ⟨"/data"⟩
        (overtaken ++ List.replicate 4 (deserted, .proceed 0))).Exclusive := by
  have hboth : ((start leftBehind).run ⟨"/data"⟩
      (overtaken ++ List.replicate 4 (deserted, .proceed 0))).contenders =
      [⟨100, .claim, true, .holding⟩, ⟨101, .claim, true, .holding⟩] := by
    decide +kernel
  refine ⟨hboth, fun hexclusive => ?_⟩
  have hsame := hexclusive 0 1 _ _ (by rw [hboth]; rfl) (by rw [hboth]; rfl) rfl rfl
  cases hsame

end Contention

end HostDaemon
