import HostDaemon.Proofs.Json.Scalars

/-! # Values of a JSON text

  What the writer makes of a value, the reader takes for that value.

  - `Json.Plain` are the values for which this holds: without fractions, with whole numbers in the
    range that is kept, and not too deep.
  - `Json.Plain.readsBack` shows it, wherever the text of the value stands.
  - `Json.Plain.lineFeed_not_mem_write` says that the text of a value stays on its line. -/

namespace HostDaemon.Json

/-- A value without fractions, with its whole numbers in range, in which at most `depth` arrays and
    objects lie in each other. -/
inductive Plain : (depth : Nat) → Json → Prop where
  | null {depth : Nat} : Plain depth .null
  | bool {depth : Nat} (b : Bool) : Plain depth (.bool b)
  | integer {depth : Nat} {n : Int} (low : -0x8000000000000000 ≤ n)
      (high : n < 0x10000000000000000) : Plain depth (.integer n)
  | text {depth : Nat} (s : String) : Plain depth (.text s)
  | array {depth : Nat} {items : List Json} (inner : ∀ v ∈ items, Plain depth v) :
      Plain (depth + 1) (.array items)
  | object {depth : Nat} {members : List (String × Json)} (inner : ∀ m ∈ members, Plain depth m.2) :
      Plain (depth + 1) (.object members)

variable {depth fuel : Nat} {c : Char} {cs rest : List Char} {v : Json} {items : List Json}
  {members : List (String × Json)} {m : String × Json}

/-! ### The text of a value -/

/-- Items after others, each with the comma in front of it. -/
def writeMoreItems (items : List Json) : List Char := items.flatMap fun v => ',' :: write v

/-- A member of an object. -/
def writeMember (m : String × Json) : List Char := writeText m.1 ++ ':' :: write m.2

/-- Members after others, each with the comma in front of it. -/
def writeMoreMembers (members : List (String × Json)) : List Char :=
  members.flatMap fun m => ',' :: writeMember m

theorem writeItems_cons (v : Json) (items : List Json) :
    writeItems (v :: items) = write v ++ writeMoreItems items := by
  induction items generalizing v with
  | nil => simp [writeItems, writeMoreItems]
  | cons w items ih =>
    rw [writeItems, ih]
    · rfl
    · exact List.cons_ne_nil w items

theorem writeMoreItems_cons (v : Json) (items : List Json) :
    writeMoreItems (v :: items) = ',' :: writeItems (v :: items) := by
  rw [writeItems_cons]
  rfl

theorem writeMembers_cons (m : String × Json) (members : List (String × Json)) :
    writeMembers (m :: members) = writeMember m ++ writeMoreMembers members := by
  obtain ⟨name, v⟩ := m
  induction members generalizing name v with
  | nil => simp [writeMembers, writeMember, writeMoreMembers]
  | cons m members ih =>
    obtain ⟨next, w⟩ := m
    rw [writeMembers, ih]
    · simp [writeMember, writeMoreMembers]
    · exact List.cons_ne_nil _ members

theorem writeMoreMembers_cons (m : String × Json) (members : List (String × Json)) :
    writeMoreMembers (m :: members) = ',' :: writeMembers (m :: members) := by
  rw [writeMembers_cons]
  rfl

theorem exists_toDigits_eq_cons (n : Nat) :
    ∃ c cs, Nat.toDigits 10 n = c :: cs ∧ c.isDigit = true := by
  obtain ⟨c, cs, hcs⟩ := List.exists_cons_of_ne_nil (Nat.toDigits_ne_nil (n := n) (b := 10))
  have hc : c ∈ Nat.toDigits 10 n := by
    rw [hcs]
    exact List.mem_cons_self
  exact ⟨c, cs, hcs, Nat.isDigit_of_mem_toDigits (by decide) (by decide) hc⟩

/-- A digit is no other character that a value begins with, and no white space. -/
theorem isDigit_ne (h : c.isDigit = true) :
    isSpace c = false ∧ c ≠ 'n' ∧ c ≠ 't' ∧ c ≠ 'f' ∧ c ≠ '-' ∧ c ≠ ']' := by
  have hnot : ∀ d : Char, d.isDigit = false → c ≠ d := by
    rintro d hd rfl
    rw [hd] at h
    cases h
  refine ⟨?_, hnot _ rfl, hnot _ rfl, hnot _ rfl, hnot _ rfl, hnot _ rfl⟩
  have hspaces : c ≠ ' ' ∧ c ≠ '\n' ∧ c ≠ '\t' ∧ c ≠ '\r' :=
    ⟨hnot _ rfl, hnot _ rfl, hnot _ rfl, hnot _ rfl⟩
  simp [isSpace, hspaces]

/-- A value begins with a character that is no white space and closes no array. -/
theorem Plain.exists_write_eq_cons (h : Plain depth v) :
    ∃ c cs, write v = c :: cs ∧ isSpace c = false ∧ c ≠ ']' := by
  cases h with
  | null => exact ⟨_, _, rfl, by decide, by decide⟩
  | bool b =>
    cases b with
    | true => exact ⟨_, _, rfl, by decide, by decide⟩
    | false => exact ⟨_, _, rfl, by decide, by decide⟩
  | @integer _ n _ _ =>
    cases n with
    | ofNat n =>
      obtain ⟨c, cs, hcs, hc⟩ := exists_toDigits_eq_cons n
      obtain ⟨hspace, -, -, -, -, hbracket⟩ := isDigit_ne hc
      exact ⟨c, cs, hcs, hspace, hbracket⟩
    | negSucc n => exact ⟨'-', _, rfl, by decide, by decide⟩
  | text s => exact ⟨'"', _, rfl, by decide, by decide⟩
  | array _ => exact ⟨'[', _, by rw [write, List.cons_append], by decide, by decide⟩
  | object _ => exact ⟨'\x7b', _, by rw [write, List.cons_append], by decide, by decide⟩

theorem Plain.length_write_pos (h : Plain depth v) : 0 < (write v).length := by
  obtain ⟨c, cs, hcs, -, -⟩ := h.exists_write_eq_cons
  rw [hcs, List.length_cons]
  omega

/-! ### Reading it again -/

/-- The text of the value is read as the value, wherever it stands; fuel for its characters is
    enough. -/
def ReadsBack (depth : Nat) (v : Json) : Prop :=
  ∀ fuel rest, (write v).length ≤ fuel → EndsNumber rest →
    readValue depth fuel (write v ++ rest) = .ok (v, rest)

theorem skipSpace_cons (h : isSpace c = false) : skipSpace (c :: cs) = c :: cs :=
  List.dropWhile_cons_of_neg (by simp [h])

theorem endsNumber_cons (h : c.isDigit = false ∧ c ≠ '.' ∧ c ≠ 'e' ∧ c ≠ 'E') :
    EndsNumber (c :: rest) := by
  intro d hd
  cases hd
  exact h

/-- Fuel above a bound is one more than fuel that reaches the bound. -/
theorem exists_eq_succ {n : Nat} (h : n < fuel) : ∃ more, fuel = more + 1 ∧ n ≤ more :=
  ⟨fuel - 1, by omega, by omega⟩

theorem readsBack_null : ReadsBack depth .null := by
  intro fuel rest hfuel _
  obtain ⟨fuel, rfl, -⟩ := exists_eq_succ (Nat.lt_of_lt_of_le (by decide : 0 < 4) hfuel)
  show readValue depth (fuel + 1) ('n' :: 'u' :: 'l' :: 'l' :: rest) = _
  rw [readValue, skipSpace_cons (by decide)]
  rfl

theorem readsBack_bool (b : Bool) : ReadsBack depth (.bool b) := by
  intro fuel rest hfuel _
  cases b with
  | true =>
    obtain ⟨fuel, rfl, -⟩ := exists_eq_succ (Nat.lt_of_lt_of_le (by decide : 0 < 4) hfuel)
    show readValue depth (fuel + 1) ('t' :: 'r' :: 'u' :: 'e' :: rest) = _
    rw [readValue, skipSpace_cons (by decide)]
    rfl
  | false =>
    obtain ⟨fuel, rfl, -⟩ := exists_eq_succ (Nat.lt_of_lt_of_le (by decide : 0 < 5) hfuel)
    show readValue depth (fuel + 1) ('f' :: 'a' :: 'l' :: 's' :: 'e' :: rest) = _
    rw [readValue, skipSpace_cons (by decide)]
    rfl

theorem readsBack_integer {n : Int} (low : -0x8000000000000000 ≤ n)
    (high : n < 0x10000000000000000) : ReadsBack depth (.integer n) := by
  intro fuel rest hfuel hrest
  cases n with
  | ofNat n =>
    have hvalue : ofDigits false n = .integer n := by
      have hsmall : n < 0x10000000000000000 := by
        simp only [Int.ofNat_eq_natCast] at high
        omega
      rw [ofDigits, if_neg Bool.false_ne_true, if_pos hsmall]
    obtain ⟨c, cs, hcs, hc⟩ := exists_toDigits_eq_cons n
    obtain ⟨hspace, hn, ht, hf, hminus, -⟩ := isDigit_ne hc
    have hread := number_toDigits false n hrest hvalue
    rw [show write (.integer (.ofNat n)) = Nat.toDigits 10 n from rfl] at hfuel ⊢
    rw [hcs, List.cons_append] at hread
    rw [hcs] at hfuel ⊢
    rw [List.length_cons] at hfuel
    obtain ⟨fuel, rfl, -⟩ := exists_eq_succ hfuel
    rw [List.cons_append, readValue, skipSpace_cons hspace]
    dsimp only
    rw [if_neg hn, if_neg ht, if_neg hf, if_neg hminus, Number.isSome_digitValue?, hc, if_pos rfl]
    exact hread
  | negSucc n =>
    have hvalue : ofDigits true (n + 1) = .integer (.negSucc n) := by
      have hsmall : ¬ (n + 1 = 0 ∨ 0x8000000000000000 < n + 1) := by
        simp only [Int.negSucc_eq] at low
        omega
      rw [ofDigits, if_pos rfl, if_neg hsmall]
      rfl
    have hread := number_toDigits true (n + 1) hrest hvalue
    rw [show write (.integer (.negSucc n)) = '-' :: Nat.toDigits 10 (n + 1) from rfl] at hfuel ⊢
    rw [List.length_cons] at hfuel
    obtain ⟨fuel, rfl, -⟩ := exists_eq_succ hfuel
    rw [List.cons_append, readValue, skipSpace_cons (by decide)]
    exact hread

theorem writeText_append (s : String) (rest : List Char) :
    writeText s ++ rest = '"' :: (s.toList.flatMap writeChar ++ '"' :: rest) := by
  simp [writeText]

theorem readsBack_text (s : String) : ReadsBack depth (.text s) := by
  intro fuel rest hfuel _
  rw [write, writeText, List.cons_append, List.length_cons] at hfuel
  obtain ⟨fuel, rfl, -⟩ := exists_eq_succ hfuel
  rw [write, writeText_append, readValue, skipSpace_cons (by decide)]
  show (stringBody (s.toList.flatMap writeChar ++ '"' :: rest)).map _ = _
  rw [stringBody_escaped]
  rfl

/-! ### Arrays -/

theorem endsNumber_writeMoreItems (items : List Json) (rest : List Char) :
    EndsNumber (writeMoreItems items ++ ']' :: rest) := by
  cases items with
  | nil => exact endsNumber_cons (by decide)
  | cons v items => exact endsNumber_cons (by decide)

theorem readItems_bracket (first : Bool) :
    readItems depth (fuel + 1) first (']' :: rest) = .ok ([], rest) := by
  rw [readItems, skipSpace_cons (by decide)]
  rfl

/-- After a comma an item is read as the first one is. -/
theorem readItems_comma (hspace : isSpace c = false) (hbracket : c ≠ ']') :
    readItems depth (fuel + 1) false (',' :: c :: cs) =
      readItems depth (fuel + 1) true (c :: cs) := by
  rw [readItems, skipSpace_cons (by decide)]
  dsimp only
  rw [if_neg (by decide), if_neg Bool.false_ne_true, if_pos rfl, skipSpace_cons hspace]
  dsimp only
  rw [if_neg hbracket, readItems, skipSpace_cons hspace]
  dsimp only
  rw [if_neg hbracket, if_pos rfl]

/-- Items are read up to the bracket. -/
theorem readItems_writeItems (fuel : Nat) (rest : List Char) (hplain : ∀ v ∈ items, Plain depth v)
    (hback : ∀ v ∈ items, ReadsBack depth v) (hfuel : (writeItems items).length < fuel) :
    readItems depth fuel true (writeItems items ++ ']' :: rest) = .ok (items, rest) := by
  -- An item and what follows it have the same fuel, since it bounds the depth of the calls.
  induction items generalizing fuel with
  | nil =>
    obtain ⟨fuel, rfl, -⟩ := exists_eq_succ hfuel
    exact readItems_bracket true
  | cons v items ih =>
    have hv := hplain v List.mem_cons_self
    have hpos := hv.length_write_pos
    obtain ⟨c, cs, hcs, hspace, hbracket⟩ := hv.exists_write_eq_cons
    rw [writeItems_cons, List.length_append] at hfuel
    obtain ⟨fuel, rfl, hfuel⟩ := exists_eq_succ hfuel
    have hvalue := hback v List.mem_cons_self fuel _ (by omega)
      (endsNumber_writeMoreItems items rest)
    have hmore : readItems depth fuel false (writeMoreItems items ++ ']' :: rest) =
        .ok (items, rest) := by
      obtain ⟨fuel, rfl, -⟩ : ∃ more, fuel = more + 1 ∧ 0 ≤ more := exists_eq_succ (by omega)
      cases items with
      | nil => exact readItems_bracket false
      | cons w items =>
        obtain ⟨d, ds, hds, hspace, hbracket⟩ :=
          (hplain w (List.mem_cons_of_mem v List.mem_cons_self)).exists_write_eq_cons
        rw [writeMoreItems_cons, List.length_cons] at hfuel
        have hitems := ih (fuel + 1) (fun w hw => hplain w (List.mem_cons_of_mem v hw))
          (fun w hw => hback w (List.mem_cons_of_mem v hw)) (by omega)
        rw [writeMoreItems_cons, writeItems_cons, hds]
        rw [writeItems_cons, hds] at hitems
        exact (readItems_comma hspace hbracket).trans hitems
    rw [writeItems_cons, List.append_assoc]
    rw [hcs, List.cons_append] at hvalue ⊢
    rw [readItems, skipSpace_cons hspace]
    dsimp only
    rw [if_neg hbracket, if_pos rfl, hvalue]
    dsimp only [bind, Except.bind]
    rw [hmore]

theorem readsBack_array (hplain : ∀ v ∈ items, Plain depth v)
    (hback : ∀ v ∈ items, ReadsBack depth v) : ReadsBack (depth + 1) (.array items) := by
  intro fuel rest hfuel _
  rw [write, List.length_append, List.length_cons, List.length_singleton] at hfuel
  obtain ⟨fuel, rfl⟩ : ∃ more, fuel = more + 1 := ⟨fuel - 1, by omega⟩
  have hitems := readItems_writeItems fuel rest hplain hback (by omega)
  rw [write, List.cons_append, List.cons_append, List.append_assoc, List.singleton_append,
    readValue, skipSpace_cons (by decide)]
  show (readItems depth fuel true (writeItems items ++ ']' :: rest)).map _ = _
  rw [hitems]
  rfl

/-! ### Objects -/

theorem readMember_writeMember (fuel : Nat) (hback : ReadsBack depth m.2)
    (hfuel : (write m.2).length < fuel)
    (hends : EndsNumber rest) :
    readMember depth fuel (m.1.toList.flatMap writeChar ++ '"' :: ':' :: (write m.2 ++ rest)) =
      .ok (⟨m.1, m.2, rest⟩, rest) := by
  obtain ⟨fuel, rfl⟩ : ∃ more, fuel = more + 1 := ⟨fuel - 1, by omega⟩
  have hvalue := hback fuel rest (by omega) hends
  rw [readMember, stringBody_escaped]
  dsimp only [bind, Except.bind]
  rw [skipSpace_cons (by decide)]
  dsimp only
  rw [if_pos rfl, hvalue]

theorem writeMember_append (m : String × Json) (rest : List Char) :
    writeMember m ++ rest =
      '"' :: (m.1.toList.flatMap writeChar ++ '"' :: ':' :: (write m.2 ++ rest)) := by
  rw [writeMember, List.append_assoc, writeText_append, List.cons_append]

theorem length_writeMember (m : String × Json) :
    (write m.2).length + 1 < (writeMember m).length := by
  rw [writeMember, List.length_append, List.length_cons, writeText, List.length_append,
    List.length_cons, List.length_singleton]
  omega

theorem endsNumber_writeMoreMembers (members : List (String × Json)) (rest : List Char) :
    EndsNumber (writeMoreMembers members ++ '\x7d' :: rest) := by
  cases members with
  | nil => exact endsNumber_cons (by decide)
  | cons m members => exact endsNumber_cons (by decide)

theorem readMembers_brace (first : Bool) :
    readMembers depth (fuel + 1) first ('\x7d' :: rest) = .ok ([], rest) := by
  rw [readMembers, skipSpace_cons (by decide)]
  rfl

/-- After a comma a member is read as the first one is. -/
theorem readMembers_comma :
    readMembers depth (fuel + 1) false (',' :: '"' :: cs) =
      readMembers depth (fuel + 1) true ('"' :: cs) := by
  rw [readMembers, skipSpace_cons (by decide)]
  dsimp only
  rw [if_neg (by decide), if_neg Bool.false_ne_true, if_pos rfl, skipSpace_cons (by decide)]
  dsimp only
  rw [if_pos rfl, readMembers, skipSpace_cons (by decide)]
  dsimp only
  rw [if_neg (by decide), if_pos rfl, if_pos rfl]

/-- Members are read up to the brace. -/
theorem readMembers_writeMembers (fuel : Nat) (rest : List Char)
    (hback : ∀ m ∈ members, ReadsBack depth m.2) (hfuel : (writeMembers members).length < fuel) :
    ∃ found, readMembers depth fuel true (writeMembers members ++ '\x7d' :: rest) =
        .ok (found, rest) ∧ found.map (fun m => (m.name, m.value)) = members := by
  induction members generalizing fuel with
  | nil =>
    obtain ⟨fuel, rfl, -⟩ := exists_eq_succ hfuel
    exact ⟨[], readMembers_brace true, rfl⟩
  | cons m members ih =>
    have hlength := length_writeMember m
    rw [writeMembers_cons, List.length_append] at hfuel
    obtain ⟨fuel, rfl, hfuel⟩ := exists_eq_succ hfuel
    have hmember := readMember_writeMember fuel (hback m List.mem_cons_self) (by omega)
      (endsNumber_writeMoreMembers members rest)
    have hmore : ∃ found,
        readMembers depth fuel false (writeMoreMembers members ++ '\x7d' :: rest) =
          .ok (found, rest) ∧ found.map (fun m => (m.name, m.value)) = members := by
      obtain ⟨fuel, rfl, -⟩ : ∃ more, fuel = more + 1 ∧ 0 ≤ more := exists_eq_succ (by omega)
      cases members with
      | nil => exact ⟨[], readMembers_brace false, rfl⟩
      | cons next members =>
        rw [writeMoreMembers_cons, List.length_cons] at hfuel
        obtain ⟨found, hfound, hmap⟩ :=
          ih (fuel + 1) (fun m hm => hback m (List.mem_cons_of_mem _ hm)) (by omega)
        refine ⟨found, ?_, hmap⟩
        rw [writeMembers_cons, List.append_assoc, writeMember_append] at hfound
        rw [writeMoreMembers_cons, writeMembers_cons, List.cons_append, List.append_assoc,
          writeMember_append, readMembers_comma]
        exact hfound
    obtain ⟨found, hfound, hmap⟩ := hmore
    refine ⟨⟨m.1, m.2, writeMoreMembers members ++ '\x7d' :: rest⟩ :: found, ?_, ?_⟩
    · rw [writeMembers_cons, List.append_assoc, writeMember_append, readMembers,
        skipSpace_cons (by decide)]
      dsimp only
      rw [if_neg (by decide), if_pos rfl, if_pos rfl, hmember]
      dsimp only [bind, Except.bind]
      rw [hfound]
    · rw [List.map_cons, hmap]

theorem readsBack_object (hback : ∀ m ∈ members, ReadsBack depth m.2) :
    ReadsBack (depth + 1) (.object members) := by
  intro fuel rest hfuel _
  rw [write, List.length_append, List.length_cons, List.length_singleton] at hfuel
  obtain ⟨fuel, rfl⟩ : ∃ more, fuel = more + 1 := ⟨fuel - 1, by omega⟩
  obtain ⟨found, hfound, hmap⟩ :=
    readMembers_writeMembers fuel rest hback (by omega)
  rw [write, List.cons_append, List.cons_append, List.append_assoc, List.singleton_append,
    readValue, skipSpace_cons (by decide)]
  show (readMembers depth fuel true (writeMembers members ++ '\x7d' :: rest)).map _ = _
  rw [hfound]
  show Except.ok (Json.object (found.map fun m => (m.name, m.value)), rest) = _
  rw [hmap]

/-- The text of a plain value is read as that value. -/
theorem Plain.readsBack (h : Plain depth v) : ReadsBack depth v := by
  induction h with
  | null => exact readsBack_null
  | bool b => exact readsBack_bool b
  | integer low high => exact readsBack_integer low high
  | text s => exact readsBack_text s
  | array inner ih => exact readsBack_array inner ih
  | object inner ih => exact readsBack_object ih

/-! ### The characters of the text -/

theorem lineFeed_not_mem_writeChar (c : Char) : '\n' ∉ writeChar c := by
  rcases writeChar_cases c with ⟨hself, -, -, hplain⟩ | ⟨word, hword, hfeed, -⟩
  · rw [hself, List.mem_singleton]
    rintro rfl
    exact hplain (by decide)
  · rw [hword, List.mem_cons, not_or]
    exact ⟨by decide, hfeed⟩

theorem lineFeed_not_mem_writeText (s : String) : '\n' ∉ writeText s := by
  simp only [writeText, List.mem_append, List.mem_cons, List.mem_flatMap, not_or]
  refine ⟨⟨by decide, ?_⟩, by decide⟩
  rintro ⟨c, -, hc⟩
  exact lineFeed_not_mem_writeChar c hc

theorem lineFeed_not_mem_toDigits (n : Nat) : '\n' ∉ Nat.toDigits 10 n := by
  intro hmem
  have hdigit : '\n'.isDigit = true := Nat.isDigit_of_mem_toDigits (by decide) (by decide) hmem
  cases hdigit

theorem lineFeed_not_mem_writeItems (h : ∀ v ∈ items, '\n' ∉ write v) :
    '\n' ∉ writeItems items := by
  cases items with
  | nil => exact List.not_mem_nil
  | cons v items =>
    rw [writeItems_cons, List.mem_append, not_or]
    refine ⟨h v List.mem_cons_self, ?_⟩
    rw [writeMoreItems, List.mem_flatMap]
    rintro ⟨w, hw, hmem⟩
    rcases List.mem_cons.1 hmem with hcomma | hmem
    · cases hcomma
    · exact h w (List.mem_cons_of_mem v hw) hmem

theorem lineFeed_not_mem_writeMember (h : '\n' ∉ write m.2) : '\n' ∉ writeMember m := by
  rw [writeMember, List.mem_append, List.mem_cons, not_or, not_or]
  exact ⟨lineFeed_not_mem_writeText m.1, by decide, h⟩

theorem lineFeed_not_mem_writeMembers (h : ∀ m ∈ members, '\n' ∉ write m.2) :
    '\n' ∉ writeMembers members := by
  cases members with
  | nil => exact List.not_mem_nil
  | cons m members =>
    rw [writeMembers_cons, List.mem_append, not_or]
    refine ⟨lineFeed_not_mem_writeMember (h m List.mem_cons_self), ?_⟩
    rw [writeMoreMembers, List.mem_flatMap]
    rintro ⟨next, hnext, hmem⟩
    rcases List.mem_cons.1 hmem with hcomma | hmem
    · cases hcomma
    · exact lineFeed_not_mem_writeMember (h next (List.mem_cons_of_mem m hnext)) hmem

/-- A value is written on one line. -/
theorem Plain.lineFeed_not_mem_write (h : Plain depth v) : '\n' ∉ write v := by
  induction h with
  | null => decide
  | bool b =>
    cases b with
    | true => decide
    | false => decide
  | @integer _ n _ _ =>
    cases n with
    | ofNat n => exact lineFeed_not_mem_toDigits n
    | negSucc n =>
      show '\n' ∉ '-' :: Nat.toDigits 10 (n + 1)
      rw [List.mem_cons, not_or]
      exact ⟨by decide, lineFeed_not_mem_toDigits (n + 1)⟩
  | text s => exact lineFeed_not_mem_writeText s
  | array _ ih =>
    rw [write, List.mem_append, List.mem_cons, not_or, not_or]
    exact ⟨⟨by decide, lineFeed_not_mem_writeItems ih⟩, by decide⟩
  | object _ ih =>
    rw [write, List.mem_append, List.mem_cons, not_or, not_or]
    exact ⟨⟨by decide, lineFeed_not_mem_writeMembers ih⟩, by decide⟩

end HostDaemon.Json
