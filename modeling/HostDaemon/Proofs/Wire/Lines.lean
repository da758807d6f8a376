import HostDaemon.Proofs.Json.RoundTrip
import HostDaemon.Proofs.Text.Blank
import HostDaemon.Proofs.Text.Utf8
import HostDaemon.Wire.Line

/-! # Lines of messages

  The line of a message: what it is made of, and that it is read as the message.

  - `Wire.lineFeed_last` counts the line feeds among the bytes of a line: one, at the end.
  - `Wire.Tagged.nameFault?_eq_none` says that the look ahead for the name of a message finds
    nothing wrong with what the writer has made.
  - `Wire.readLine_writeLine` is the way back for any kind of message, whose fields it leaves to the
    records. -/

namespace HostDaemon

open Json

namespace Wire

variable {depth : Nat} {possible : List String} {tag : String} {fields : List (String × Json)}
  {rest : List Char}

theorem toList_writeLine (v : Json) : (writeLine v).toList = v.write ++ ['\n'] := by
  rw [writeLine, String.toList_ofList]

/-- The line of a value holds one line feed, its last byte. -/
theorem lineFeed_last {v : Json} (h : Plain depth v) :
    (Text.Utf8.bytesOf (writeLine v)).count 10 = 1 ∧
      (Text.Utf8.bytesOf (writeLine v)).getLast? = some 10 := by
  have hbytes : Text.Utf8.bytesOf (writeLine v) = Text.Utf8.encode v.write ++ [10] := by
    rw [Text.Utf8.bytesOf, toList_writeLine, Text.Utf8.encode, List.flatMap_append]
    rfl
  rw [hbytes, List.count_append, List.getLast?_concat,
    List.count_eq_zero_of_not_mem (Text.Utf8.lineFeed_not_mem_encode h.lineFeed_not_mem_write)]
  exact ⟨rfl, rfl⟩

/-! ### The name of a message -/

namespace Tagged

theorem tagOf_text (htag : tag ∈ possible) : tagOf possible (.text tag) = .ok tag := by
  rw [tagOf, if_pos htag]

/-- A name that is possible is in order. -/
theorem faultAtFront?_text (htag : tag ∈ possible) (hends : EndsNumber rest) :
    faultAtFront? possible (write (.text tag) ++ rest) = none := by
  have hback : ReadsBack 0 (.text tag) := readsBack_text tag
  have hread := hback (3 * (write (.text tag) ++ rest).length + 3) rest
    (by rw [List.length_append]; omega) hends
  rw [write, writeText_append] at hread ⊢
  rw [faultAtFront?, skipSpace_cons (by decide)]
  simp only [hread, tagOf_text htag]
  rfl

/-- The look ahead goes past a member that is no second name and no wrong one. -/
theorem faultInMembers?_writeMember {m : String × Json} {seen : Bool} (fuel : Nat)
    (hplain : Plain (maxDepth - 1) m.2)
    (hname : m.1 = tagName → seen = false ∧ ∃ tag ∈ possible, m.2 = .text tag)
    (hends : EndsNumber rest) :
    faultInMembers? possible (fuel + 1) seen (writeMember m ++ rest) =
      (Text.after? [','] (skipSpace rest)).bind
        (faultInMembers? possible fuel (seen || m.1 = tagName)) := by
  have hread := hplain.readsBack (3 * (write m.2 ++ rest).length + 3) rest
    (by rw [List.length_append]; omega) hends
  have hquote : Text.after? ['"'] ('"' :: (m.1.toList.flatMap writeChar ++
      '"' :: ':' :: (write m.2 ++ rest))) =
        some (m.1.toList.flatMap writeChar ++ '"' :: ':' :: (write m.2 ++ rest)) := rfl
  have hcolon : Text.after? [':'] (':' :: (write m.2 ++ rest)) = some (write m.2 ++ rest) := rfl
  have hsecond : ¬ (m.1 = tagName ∧ seen = true) := by
    rintro ⟨htag, hseen⟩
    rw [(hname htag).1] at hseen
    cases hseen
  have hfront :
      (if m.1 = tagName then faultAtFront? possible (write m.2 ++ rest) else none) = none := by
    split
    next htag =>
      obtain ⟨-, tag, hmem, htext⟩ := hname htag
      rw [htext]
      exact faultAtFront?_text hmem hends
    next => rfl
  rw [writeMember_append, faultInMembers?, skipSpace_cons (by decide), hquote]
  dsimp only
  rw [stringBody_escaped]
  dsimp only
  rw [skipSpace_cons (by decide), if_neg hsecond, hcolon]
  dsimp only
  simp only [hfront, hread]
  cases Text.after? [','] (skipSpace rest) with
  | none => rfl
  | some rest => rfl

/-- Members without a name are in order after the name. -/
theorem faultInMembers?_writeMembers (hplain : ∀ m ∈ fields, Plain (maxDepth - 1) m.2)
    (hnames : ∀ m ∈ fields, m.1 ≠ tagName) (fuel : Nat) :
    faultInMembers? possible fuel true (writeMembers fields ++ '\x7d' :: rest) = none := by
  -- The look ahead gives up without a fault where its fuel ends, so that any fuel will do.
  induction fields generalizing fuel with
  | nil =>
    cases fuel with
    | zero => rfl
    | succ fuel => rfl
  | cons m fields ih =>
    cases fuel with
    | zero => rfl
    | succ fuel =>
      rw [writeMembers_cons, List.append_assoc, faultInMembers?_writeMember fuel
        (hplain m List.mem_cons_self) (fun htag => absurd htag (hnames m List.mem_cons_self))
        (endsNumber_writeMoreMembers fields rest)]
      cases fields with
      | nil => rfl
      | cons next fields =>
        rw [writeMoreMembers_cons]
        exact ih (fun m hm => hplain m (List.mem_cons_of_mem _ hm))
          (fun m hm => hnames m (List.mem_cons_of_mem _ hm)) fuel

/-- There is nothing wrong with the name of a message as it is written. -/
theorem nameFault?_eq_none (htag : tag ∈ possible)
    (hplain : ∀ m ∈ fields, Plain (maxDepth - 1) m.2) (hnames : ∀ m ∈ fields, m.1 ≠ tagName) :
    nameFault? possible (write (encode tag fields)) = none := by
  have hwrite : write (encode tag fields) =
      '\x7b' :: (writeMember (tagName, .text tag) ++ (writeMoreMembers fields ++ ['\x7d'])) := by
    rw [encode, write, writeMembers_cons, List.cons_append, List.append_assoc]
  rw [hwrite, nameFault?, skipSpace_cons (by decide)]
  show faultInMembers? possible _ false _ = none
  -- The name comes first; from then on another one would be a fault.
  obtain ⟨fuel, hfuel⟩ : ∃ fuel, (writeMember (tagName, .text tag) ++
      (writeMoreMembers fields ++ ['\x7d'])).length = fuel + 1 := by
    apply Nat.exists_eq_add_one.2
    have hlength := length_writeMember (tagName, .text tag)
    rw [List.length_append]
    omega
  rw [hfuel, faultInMembers?_writeMember fuel (.text tag) (fun _ => ⟨rfl, tag, htag, rfl⟩)
    (endsNumber_writeMoreMembers fields [])]
  cases fields with
  | nil => rfl
  | cons m fields =>
    rw [writeMoreMembers_cons]
    exact faultInMembers?_writeMembers hplain hnames fuel

/-- A message is taken apart into its name and its fields. -/
theorem ofJson_encode (what : String) (htag : tag ∈ possible)
    (hnames : ∀ m ∈ fields, m.1 ≠ tagName) :
    ofJson what possible (encode tag fields) = .ok ⟨tag, .object fields⟩ := by
  have hnone : fields.filter (fun m => decide (m.1 = tagName)) = [] := by
    rw [List.filter_eq_nil_iff]
    intro m hm
    simpa using hnames m hm
  have hall : fields.filter (fun m => decide (m.1 ≠ tagName)) = fields := by
    rw [List.filter_eq_self]
    intro m hm
    simpa using hnames m hm
  have hfilter : ((tagName, Json.text tag) :: fields).filter (fun m => decide (m.1 = tagName)) =
      [(tagName, .text tag)] := by
    rw [List.filter_cons_of_pos (by simp), hnone]
  rw [encode, ofJson, hfilter]
  dsimp only
  rw [tagOf_text htag]
  dsimp only
  rw [List.filter_cons_of_neg (by simp), hall]
  rfl

end Tagged

/-! ### The way back -/

theorem plain_encode (tag : String) (hplain : ∀ m ∈ fields, Plain (maxDepth - 1) m.2) :
    Plain maxDepth (Tagged.encode tag fields) := by
  apply Plain.object
  intro m hm
  rcases List.mem_cons.1 hm with rfl | hm
  · exact .text tag
  · exact hplain m hm

/-- The line feed of a line and the blanks after it are dropped before it is read. -/
theorem trimEnd_writeLine (tag : String) (fields : List (String × Json)) {ws : String}
    (hblank : ∀ c ∈ ws.toList, Text.isBlank c = true) :
    Text.trimEnd (writeLine (Tagged.encode tag fields) ++ ws) =
      String.ofList (write (Tagged.encode tag fields)) := by
  have hafter : ∀ c ∈ '\n' :: ws.toList, Text.isBlank c = true := by
    intro c hc
    rcases List.mem_cons.1 hc with rfl | hc
    · decide
    · exact hblank c hc
  have hbefore : ∀ c ∈ (write (Tagged.encode tag fields)).getLast?, Text.isBlank c = false := by
    intro c hc
    rw [Tagged.encode, write, List.getLast?_concat] at hc
    cases hc
    decide
  rw [Text.trimEnd, String.toList_append, toList_writeLine, List.append_assoc,
    List.singleton_append, Text.dropEndWhile_append hafter hbefore]

/-- A message is read from its line, also where more blanks follow, if it is made again from its
    name and its fields. -/
theorem readLine_writeLine {α : Type} {ofTagged : Tagged → Except DecodeFault α} {message : α}
    (what : String) (htag : tag ∈ possible) (hplain : ∀ m ∈ fields, Plain (maxDepth - 1) m.2)
    (hnames : ∀ m ∈ fields, m.1 ≠ tagName) (hmessage : ofTagged ⟨tag, .object fields⟩ = .ok message)
    {ws : String} (hblank : ∀ c ∈ ws.toList, Text.isBlank c = true) :
    readLine what possible ofTagged (writeLine (Tagged.encode tag fields) ++ ws) = .ok message := by
  have hfront :
      readFront (write (Tagged.encode tag fields)) = .ok (Tagged.encode tag fields, []) := by
    have hread := (plain_encode tag hplain).readsBack
      (3 * (write (Tagged.encode tag fields)).length + 3) [] (by omega) (by intro c hc; cases hc)
    rw [List.append_nil] at hread
    exact hread
  have hsome : String.ofList (write (Tagged.encode tag fields)) ≠ "" := by
    intro hempty
    have hlist := congrArg String.toList hempty
    rw [String.toList_ofList, Tagged.encode, write] at hlist
    simp at hlist
  rw [readLine, trimEnd_writeLine tag fields hblank]
  dsimp only
  rw [if_neg hsome, String.toList_ofList, Tagged.nameFault?_eq_none htag hplain hnames]
  dsimp only
  rw [hfront]
  dsimp only
  rw [Tagged.ofJson_encode what htag hnames]
  dsimp only
  rw [hmessage]
  rfl

end Wire

end HostDaemon
