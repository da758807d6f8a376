import HostDaemon.Log.Tail
import HostDaemon.Proofs.Text.Cutting
import HostDaemon.Proofs.Text.Utf8
import Mathlib.Data.List.DropRight
import Mathlib.Logic.Function.Iterate

/-! # The end of a log file

  Which lines of a file are shown. The search for their start runs backwards in chunks, and where
  these are cut makes no difference.

  - `Log.isTailStart_tailStart` says where the search ends: after the line feed that `n` others
    follow, or at the start of a file with no more than `n`.
  - `Log.search_ends` says that it does end: taken round by round, without a bound on their number,
    it comes to that place whatever the size of the chunks, and there is no other.
  - `Log.tailLines_eq` is the main result: the lines that are shown are the last `n`, but of a file
    whose last line is not ended and that has more than `n`, they are the `n` before the last. -/

namespace HostDaemon.Log

variable {bytes : List UInt8} {chunk fuel n seen pos rounds place other : Nat}

/-! ### The search -/

/-- The place from which on lines are shown: after the line feed that `n` others follow, or the
    start of a file with no more than `n`. -/
inductive IsTailStart (bytes : List UInt8) (n : Nat) : Nat → Prop
  | start (hfew : bytes.count 10 ≤ n) : IsTailStart bytes n 0
  | after {older newer : List UInt8} (hsplit : bytes = older ++ 10 :: newer)
      (hcount : newer.count 10 = n) : IsTailStart bytes n (older.length + 1)

/-- One chunk, its bytes last first: the line feeds in it are passed, or one is found with `n`
    after it. -/
theorem scanBack_cases (l : List UInt8) (pos : Nat) (h : seen ≤ n) :
    (scanBack n seen pos l = .passed (seen + l.count 10) ∧ seen + l.count 10 ≤ n) ∨
    ∃ newer older, l = newer ++ 10 :: older ∧ seen + newer.count 10 = n ∧
      scanBack n seen pos l = .found (pos - newer.length) := by
  induction l generalizing seen pos with
  | nil => exact Or.inl ⟨rfl, h⟩
  | cons b l ih =>
    rw [scanBack]
    by_cases hb : b = 10
    · subst hb
      by_cases hlast : n < seen + 1
      · refine Or.inr ⟨[], l, rfl, ?_, ?_⟩
        · rw [List.count_nil]
          omega
        · rw [if_pos rfl, if_pos hlast]
          rfl
      · rw [if_pos rfl, if_neg hlast, List.count_cons_self]
        have hmore : seen + 1 ≤ n := by omega
        rcases ih (pos - 1) hmore with
          ⟨hscan, hle⟩ | ⟨newer, older, rfl, hcount, hscan⟩
        · exact Or.inl ⟨by rw [hscan, Nat.add_right_comm, Nat.add_assoc], by omega⟩
        · refine Or.inr ⟨10 :: newer, older, rfl, ?_, ?_⟩
          · rw [List.count_cons_self]
            omega
          · rw [hscan, List.length_cons, Nat.sub_sub, Nat.add_comm 1]
    · rw [if_neg hb, List.count_cons_of_ne hb]
      rcases ih (pos - 1) h with ⟨hscan, hle⟩ | ⟨newer, older, rfl, hcount, hscan⟩
      · exact Or.inl ⟨hscan, hle⟩
      · refine Or.inr ⟨b :: newer, older, rfl, ?_, ?_⟩
        · rw [List.count_cons_of_ne hb, hcount]
        · rw [hscan, List.length_cons, Nat.sub_sub, Nat.add_comm 1]

/-- The line feed is found in a piece of the file, before which the search has passed the rest. -/
theorem IsTailStart.of_piece {front piece passed newer older : List UInt8}
    (hbytes : bytes = front ++ (piece ++ passed)) (hpos : pos = front.length + piece.length)
    (hsplit : piece.reverse = newer ++ 10 :: older)
    (hcount : passed.count 10 + newer.count 10 = n) :
    IsTailStart bytes n (pos - newer.length) := by
  rw [List.reverse_eq_iff, List.reverse_append, List.reverse_cons, List.append_assoc,
    List.singleton_append] at hsplit
  have hplace : pos - newer.length = (front ++ older.reverse).length + 1 := by
    rw [hpos, hsplit]
    simp only [List.length_append, List.length_reverse, List.length_cons]
    omega
  rw [hplace]
  have hlast : bytes = (front ++ older.reverse) ++ 10 :: (newer.reverse ++ passed) := by
    rw [hbytes, hsplit]
    simp
  refine .after hlast ?_
  rw [List.count_append, List.count_reverse, Nat.add_comm, hcount]

/-- The chunks from `pos` back. What has been seen are the line feeds after `pos`, and a chunk takes
    `pos` further back until it is the start of the file. -/
theorem isTailStart_scanFrom (hchunk : 0 < chunk) (hpos : pos ≤ bytes.length) (hfuel : pos ≤ fuel)
    (hseen : (bytes.drop pos).count 10 = seen) (hle : seen ≤ n) :
    IsTailStart bytes n (scanFrom chunk bytes n fuel seen pos) := by
  have hstart : ∀ {seen}, (bytes.drop 0).count 10 = seen → seen ≤ n → IsTailStart bytes n 0 :=
    fun hseen hle => .start (by rw [List.drop_zero] at hseen; omega)
  induction fuel generalizing seen pos with
  | zero =>
    obtain rfl : pos = 0 := by omega
    exact hstart hseen hle
  | succ fuel ih =>
    rw [scanFrom]
    by_cases hzero : pos = 0
    · subst hzero
      exact hstart hseen hle
    · rw [if_neg hzero]
      -- The file is what stands before the chunk, the chunk and what has been searched.
      have hdrop : bytes.drop (pos - chunk) =
          (bytes.drop (pos - chunk)).take (pos - (pos - chunk)) ++ bytes.drop pos := by
        conv_lhs => rw [← List.take_append_drop (pos - (pos - chunk)) (bytes.drop (pos - chunk))]
        rw [List.drop_drop, Nat.add_sub_cancel' (Nat.sub_le _ _)]
      have hlength : ((bytes.drop (pos - chunk)).take (pos - (pos - chunk))).length =
          pos - (pos - chunk) := by
        rw [List.length_take, List.length_drop]
        omega
      dsimp only
      generalize (bytes.drop (pos - chunk)).take (pos - (pos - chunk)) = piece at hdrop hlength ⊢
      rcases scanBack_cases piece.reverse pos hle with
        ⟨hscan, hmore⟩ | ⟨newer, older, hsplit, hcount, hscan⟩
      · -- The search goes on before this chunk, and knows of its line feeds.
        rw [hscan]
        rw [List.count_reverse] at hmore ⊢
        refine ih (by omega) (by omega) ?_ hmore
        rw [hdrop, List.count_append, hseen, Nat.add_comm]
      · have hbytes : bytes = bytes.take (pos - chunk) ++ (piece ++ bytes.drop pos) := by
          rw [← hdrop, List.take_append_drop]
        have hplace : pos = (bytes.take (pos - chunk)).length + piece.length := by
          rw [hlength, List.length_take]
          omega
        rw [hscan]
        exact .of_piece hbytes hplace hsplit (by rw [hseen, hcount])

/-- The search ends where it should. -/
theorem isTailStart_tailStart (bytes : List UInt8) (n : Nat) :
    IsTailStart bytes n (tailStart bytes n) :=
  isTailStart_scanFrom (by decide) (Nat.le_refl _) (Nat.le_refl _) (by simp) (Nat.zero_le _)

/-! ### Rounds -/

/-- Where the search stands between two chunks. -/
inductive Search where
  /-- It goes on before `pos`, and has passed `seen` line feeds. -/
  | onward (seen pos : Nat)
  /-- It has ended with a place. -/
  | ended (place : Nat)

namespace Search

/-- One round: the search ends at the start of the file, or the chunk before `pos` is searched. -/
def step (chunk : Nat) (bytes : List UInt8) (n : Nat) : Search → Search
  | .ended place => .ended place
  | .onward seen pos =>
    if pos = 0 then .ended 0
    else
      let start := pos - chunk
      match scanBack n seen pos ((bytes.drop start).take (pos - start)).reverse with
      | .found place => .ended place
      | .passed seen => .onward seen start

/-- A search that has ended stays where it is. -/
theorem iterate_step_ended (rounds place : Nat) :
    (step chunk bytes n)^[rounds] (.ended place) = .ended place :=
  Function.iterate_fixed rfl rounds

/-- Each chunk takes a round and one unit of fuel, so that the search ends before either is used
    up. -/
theorem iterate_step (hrounds : pos ≤ rounds * chunk) (hfuel : pos ≤ fuel * chunk) :
    (step chunk bytes n)^[rounds + 1] (.onward seen pos) =
      .ended (scanFrom chunk bytes n fuel seen pos) := by
  -- What is left of the file shrinks by a chunk with each round, as does what both bounds allow.
  induction rounds generalizing fuel seen pos with
  | zero =>
    obtain rfl : pos = 0 := by omega
    cases fuel <;> rfl
  | succ rounds ih =>
    rw [Function.iterate_succ_apply, step]
    by_cases hzero : pos = 0
    · subst hzero
      rw [if_pos rfl, iterate_step_ended]
      cases fuel <;> rfl
    · rw [if_neg hzero]
      cases fuel with
      | zero => omega
      | succ fuel =>
        rw [Nat.succ_mul] at hrounds hfuel
        rw [scanFrom, if_neg hzero]
        dsimp only
        cases scanBack n seen pos
            ((bytes.drop (pos - chunk)).take (pos - (pos - chunk))).reverse with
        | found place => exact iterate_step_ended (rounds + 1) place
        | passed seen => exact ih (by omega) (by omega)

end Search

/-- Of two line feeds the one with no fewer after it comes no later. -/
theorem length_le_of_count_le {older newer older' newer' : List UInt8}
    (hsame : older ++ 10 :: newer = older' ++ 10 :: newer')
    (hcount : newer'.count 10 ≤ newer.count 10) : older.length ≤ older'.length := by
  rcases List.append_eq_append_iff.1 hsame with ⟨between, rfl, -⟩ | ⟨between, rfl, hrest⟩
  · simp
  · cases between with
    | nil => simp
    | cons b between =>
      -- The later one would be among what comes after the earlier one.
      have hnewer : newer' = between ++ 10 :: newer := (List.cons.inj hrest).2
      rw [hnewer, List.count_append, List.count_cons_self] at hcount
      omega

/-- A file has one place from which on lines are shown. -/
theorem IsTailStart.unique (h : IsTailStart bytes n place) (h' : IsTailStart bytes n other) :
    place = other := by
  have hmany : ∀ {older newer : List UInt8}, bytes = older ++ 10 :: newer →
      newer.count 10 = n → ¬ bytes.count 10 ≤ n := by
    rintro older newer rfl rfl
    rw [List.count_append, List.count_cons_self]
    omega
  cases h with
  | start hfew =>
    cases h' with
    | start => rfl
    | after hsplit hcount => exact absurd hfew (hmany hsplit hcount)
  | after hsplit hcount =>
    cases h' with
    | start hfew => exact absurd hfew (hmany hsplit hcount)
    | after hsplit' hcount' =>
      have hsame := hsplit.symm.trans hsplit'
      have hle := length_le_of_count_le hsame (by omega)
      have hge := length_le_of_count_le hsame.symm (by omega)
      omega

/-- The search of a file ends, wherever its chunks are cut. Its place is the one after the line feed
    that `n` others follow, or the start of a file with no more than `n`. A round is made for each
    chunk, and one to see that nothing is left. -/
theorem search_ends (bytes : List UInt8) (n : Nat) :
    (∀ chunk rounds, 0 < chunk → bytes.length ≤ rounds * chunk →
      (Search.step chunk bytes n)^[rounds + 1] (.onward 0 bytes.length) =
        .ended (tailStart bytes n)) ∧
    ∀ place, tailStart bytes n = place ↔ IsTailStart bytes n place := by
  have hplace := isTailStart_tailStart bytes n
  constructor
  · intro chunk rounds hchunk hrounds
    have hother : IsTailStart bytes n (scanFrom chunk bytes n bytes.length 0 bytes.length) :=
      isTailStart_scanFrom hchunk (Nat.le_refl _) (Nat.le_refl _) (by simp) (Nat.zero_le n)
    rw [Search.iterate_step hrounds (Nat.le_mul_of_pos_right _ hchunk), hother.unique hplace]
  · intro place
    constructor
    · rintro rfl
      exact hplace
    · exact hplace.unique

/-! ### Lines of a file -/

/-- The lines of a file. Bytes that are not UTF-8 are replaced. -/
def fileLines (bytes : List UInt8) : List String :=
  (Text.linesOf (Text.Utf8.decodeLossy bytes)).map String.ofList

/-- The lines that a line feed ends, and the lines of what follows it. -/
theorem fileLines_append (before after : List UInt8) :
    fileLines (before ++ 10 :: after) =
      (((Text.pieces (· == '\n') (Text.Utf8.decodeLossy before)).map Text.dropReturn).map
        String.ofList) ++ fileLines after := by
  rw [fileLines, Text.Utf8.decodeLossy_append_lineFeed, Text.linesOf_append, List.map_append]
  rfl

theorem getLast?_append_lineFeed (before after : List UInt8) :
    (before ++ 10 :: after).getLast? = some 10 ↔ after = [] ∨ after.getLast? = some 10 := by
  cases after with
  | nil => simp
  | cons b after => rw [List.getLast?_append_cons, List.getLast?_cons_cons]; simp

/-- There are as many lines as line feeds, and one more where the last line is not ended. -/
theorem length_fileLines (bytes : List UInt8) :
    (fileLines bytes).length =
      bytes.count 10 + if bytes = [] ∨ bytes.getLast? = some 10 then 0 else 1 := by
  by_cases hmem : (10 : UInt8) ∈ bytes
  · -- The first line feed ends one line, and the rest is a shorter file.
    obtain ⟨before, after, rfl, hplain⟩ := List.eq_append_cons_of_mem hmem
    have hfirst : Text.pieces (· == '\n') (Text.Utf8.decodeLossy before) =
        [Text.Utf8.decodeLossy before] := by
      refine Text.pieces_eq_singleton fun c hc => ?_
      rw [beq_eq_false_iff_ne]
      rintro rfl
      exact Text.Utf8.lineFeed_not_mem_decodeLossy hplain hc
    have hrest := length_fileLines after
    rw [fileLines_append, hfirst, List.length_append, hrest, List.count_append,
      List.count_eq_zero_of_not_mem hplain, List.count_cons_self]
    simp only [getLast?_append_lineFeed, List.map_cons, List.map_nil, List.length_singleton]
    simp only [List.append_eq_nil_iff, List.cons_ne_nil, and_false, false_or]
    omega
  · have hplain := Text.Utf8.lineFeed_not_mem_decodeLossy hmem
    by_cases hne : bytes = []
    · subst hne
      rfl
    · have hlast : bytes.getLast? ≠ some 10 := fun h => hmem (List.mem_of_getLast? h)
      have hsome : Text.Utf8.decodeLossy bytes ≠ [] := by
        rw [Text.Utf8.decodeLossy, ne_eq, List.map_eq_nil_iff]
        exact Text.Utf8.decode_ne_nil hne
      rw [fileLines, Text.linesOf_eq_singleton hplain hsome, List.count_eq_zero_of_not_mem hmem]
      simp [hne, hlast]
termination_by bytes.length
decreasing_by
  subst_vars
  simp only [List.length_append, List.length_cons]
  omega

/-- The lines that are shown are the first from the place that was found. -/
theorem tailLines_eq_take (bytes : List UInt8) (n : Nat) :
    tailLines bytes n = (fileLines (bytes.drop (tailStart bytes n))).take n := by
  rw [tailLines]
  split
  next hnone =>
    rcases hnone with rfl | rfl
    · rw [List.take_zero]
    · rw [List.drop_nil]
      exact List.take_nil.symm
  next => rfl

/-! ### The last lines -/

section Last

variable {α : Type} {l front : List α}

theorem rtake_eq_self (h : l.length ≤ n) : l.rtake n = l := by
  rw [List.rtake, Nat.sub_eq_zero_of_le h, List.drop_zero]

theorem rtake_append_of_length (h : l.length = n) : (front ++ l).rtake n = l := by
  rw [List.rtake, List.length_append, h, Nat.add_sub_cancel, List.drop_left]

theorem dropLast_eq_take_of_length (h : l.length = n + 1) : l.dropLast = l.take n := by
  rw [List.dropLast_eq_take, h, Nat.add_sub_cancel]

/-- A list without its last value is the list without its first only where all values are one. -/
theorem dropLast_eq_tail_iff (h : l ≠ []) :
    l.dropLast = l.tail ↔ ∃ a, l = List.replicate l.length a := by
  induction l with
  | nil => exact absurd rfl h
  | cons a l ih =>
    cases l with
    | nil => simp
    | cons b l =>
      have hmore := ih (by simp)
      rw [List.dropLast_cons_cons, List.tail_cons, List.cons.injEq]
      rw [List.tail_cons] at hmore
      rw [hmore]
      constructor
      · rintro ⟨rfl, c, hc⟩
        refine ⟨c, ?_⟩
        rw [List.length_cons, List.replicate_succ, ← hc]
        rw [List.length_cons, List.replicate_succ, List.cons.injEq] at hc
        rw [hc.1]
      · rintro ⟨c, hc⟩
        rw [List.length_cons, List.replicate_succ, List.cons.injEq] at hc
        refine ⟨?_, c, hc.2⟩
        rw [List.length_cons, List.replicate_succ, List.cons.injEq] at hc
        rw [hc.1, hc.2.1]

/-- The values before the last one are the last ones only where all of them are one. -/
theorem rtake_dropLast_eq_iff (h : n < l.length) :
    l.dropLast.rtake n = l.rtake n ↔ ∃ a, l.rtake (n + 1) = List.replicate (n + 1) a := by
  have hlength : (l.rtake (n + 1)).length = n + 1 := by
    rw [List.rtake, List.length_drop]
    omega
  have hbefore : l.dropLast.rtake n = (l.rtake (n + 1)).dropLast := by
    rw [List.rtake, List.rtake, List.length_dropLast, List.dropLast_eq_take,
      List.dropLast_eq_take, List.drop_take, List.length_drop, Nat.sub_right_comm l.length,
      Nat.sub_sub l.length 1, Nat.add_comm 1]
  have hlast : l.rtake n = (l.rtake (n + 1)).tail := by
    rw [List.rtake, List.rtake, List.tail_drop]
    congr 1
    omega
  rw [hbefore, hlast, dropLast_eq_tail_iff (List.ne_nil_of_length_eq_add_one hlength), hlength]

end Last

/-- The first `n` lines from the place on are the last of the file, where its last line is ended. -/
theorem IsTailStart.take_fileLines {place : Nat} (h : IsTailStart bytes n place) :
    (fileLines (bytes.drop place)).take n =
      (if bytes.getLast? = some 10 ∨ (fileLines bytes).length ≤ n then fileLines bytes
        else (fileLines bytes).dropLast).rtake n := by
  have hlength := length_fileLines bytes
  cases h with
  | start hfew =>
    rw [List.drop_zero]
    by_cases hall : (fileLines bytes).length ≤ n
    · rw [if_pos (Or.inr hall), rtake_eq_self hall, List.take_of_length_le hall]
    · -- Only a line that is not ended makes one more of them than line feeds.
      have hopen : ¬ (bytes = [] ∨ bytes.getLast? = some 10) := by
        intro hended
        rw [if_pos hended] at hlength
        omega
      rw [if_neg hopen] at hlength
      have hbefore : (fileLines bytes).dropLast = (fileLines bytes).take n :=
        dropLast_eq_take_of_length (by omega)
      rw [if_neg (not_or.2 ⟨fun hended => hopen (Or.inr hended), hall⟩), hbefore,
        rtake_eq_self (List.length_take_le _ _)]
  | @after older newer hsplit hcount =>
    -- What is read is what stands behind the line feed that was found.
    have hdrop : bytes.drop (older.length + 1) = newer := by
      rw [hsplit, List.drop_append, List.drop_of_length_le (by omega)]
      simp
    have hnewer := length_fileLines newer
    rw [hcount] at hnewer
    have hlast := getLast?_append_lineFeed older newer
    have hfirst := List.length_pos_of_ne_nil
      (Text.pieces_ne_nil (· == '\n') (Text.Utf8.decodeLossy older))
    rw [hdrop, hsplit, fileLines_append]
    by_cases hended : newer = [] ∨ newer.getLast? = some 10
    · rw [if_pos hended, Nat.add_zero] at hnewer
      rw [if_pos (Or.inl (hlast.2 hended)), rtake_append_of_length hnewer,
        List.take_of_length_le (Nat.le_of_eq hnewer)]
    · rw [if_neg hended] at hnewer
      have hne : fileLines newer ≠ [] := List.ne_nil_of_length_eq_add_one hnewer
      have hbefore : (fileLines newer).dropLast = (fileLines newer).take n :=
        dropLast_eq_take_of_length hnewer
      -- The line that the found line feed ends is one more than the `n + 1` after it.
      rw [if_neg, List.dropLast_append_of_ne_nil hne,
        rtake_append_of_length (by rw [List.length_dropLast]; omega), hbefore]
      rw [hlast, not_or, List.length_append, List.length_map, List.length_map]
      exact ⟨hended, by omega⟩

/-- The lines that are shown of a file are its last `n`, where its last line is ended or there are
    no more than `n`. Otherwise they are the `n` lines before the last one, which are the last `n`
    only where the last `n + 1` are all the same. -/
theorem tailLines_eq (bytes : List UInt8) (n : Nat) :
    tailLines bytes n =
      (if bytes.getLast? = some 10 ∨ (fileLines bytes).length ≤ n then fileLines bytes
        else (fileLines bytes).dropLast).rtake n ∧
    (tailLines bytes n = (fileLines bytes).rtake n ↔
      bytes.getLast? = some 10 ∨ (fileLines bytes).length ≤ n ∨
        ∃ line, (fileLines bytes).rtake (n + 1) = List.replicate (n + 1) line) := by
  rw [tailLines_eq_take, (isTailStart_tailStart bytes n).take_fileLines]
  refine ⟨rfl, ?_⟩
  by_cases hended : bytes.getLast? = some 10 ∨ (fileLines bytes).length ≤ n
  · rw [if_pos hended, ← or_assoc]
    exact iff_of_true rfl (Or.inl hended)
  · rw [if_neg hended, ← or_assoc, or_iff_right hended]
    exact rtake_dropLast_eq_iff (by omega)

/-- Of a file whose last line is not ended, the last line is left out. -/
theorem unfinished_line_is_left_out :
    tailLines (Text.Utf8.bytesOf "a\nb\nc") 2 = ["a", "b"] ∧
      (fileLines (Text.Utf8.bytesOf "a\nb\nc")).rtake 2 = ["b", "c"] := by
  decide

end HostDaemon.Log
