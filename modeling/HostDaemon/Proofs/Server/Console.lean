import HostDaemon.Server.Console

/-! # What a console takes

  An open console takes a line, and one that is still open after some lines has taken them all. How
  many lines a console takes and which ones depends on its room alone.

  - `Console.lines_writeAll_singleton` and `Console.writeAll_of_isOpen` are about open consoles.
  - `Console.takes` and `Console.filled` are a console's answer to lines and what it holds
    afterwards, both without a loop, and `Console.writeAll_eq` shows that this is what writing line
    by line comes to. `Console.filled_filled` puts two writes together. -/

namespace HostDaemon.Console

/-- A console that takes a line is open, and holds the line after the others. -/
theorem write?_eq_some {c c' : Console} {line : String} (h : c.write? line = some c') :
    c.isOpen = true ∧ c'.lines = c.lines ++ [line] := by
  unfold write? at h
  split at h
  · cases h
  next n hroom =>
    cases h
    simp [isOpen, hroom]
  next hroom =>
    cases h
    simp [isOpen, hroom]

/-- A console takes a line unless it is closed. -/
theorem exists_write? {c : Console} (hopen : c.isOpen = true) (line : String) :
    ∃ c', c.write? line = some c' := by
  unfold write?
  split
  next hroom => simp [isOpen, hroom] at hopen
  next => exact ⟨_, rfl⟩
  next => exact ⟨_, rfl⟩

/-- What is written to a console that is still open afterwards has been taken. -/
theorem writeAll_of_isOpen {c : Console} {lines : List String}
    (hopen : (c.writeAll lines).2.isOpen = true) :
    c.isOpen = true ∧ (c.writeAll lines).2.lines = c.lines ++ lines := by
  induction lines generalizing c with
  | nil => exact ⟨hopen, by simp [writeAll]⟩
  | cons line lines ih =>
    rw [writeAll] at hopen ⊢
    cases hwrite : c.write? line with
    | none =>
      -- Only a closed console takes no line.
      rw [hwrite] at hopen
      obtain ⟨c', hc'⟩ := exists_write? hopen line
      rw [hwrite] at hc'
      cases hc'
    | some c' =>
      rw [hwrite] at hopen
      obtain ⟨hbefore, hline⟩ := write?_eq_some hwrite
      have hlater := (ih hopen).2
      refine ⟨hbefore, ?_⟩
      simp only
      rw [hlater, hline, List.append_assoc, List.singleton_append]

/-- An open console takes one line. -/
theorem lines_writeAll_singleton {c : Console} (hopen : c.isOpen = true) (line : String) :
    (c.writeAll [line]).2.lines = c.lines ++ [line] := by
  obtain ⟨c', hwrite⟩ := exists_write? hopen line
  rw [writeAll, hwrite]
  exact (write?_eq_some hwrite).2

/-! ### All lines at once -/

/-- Does the console take that many lines? -/
def takes (c : Console) (n : Nat) : Bool := c.room.all (n ≤ ·)

/-- The console with as many of the lines as it takes, from the first on. -/
def filled (c : Console) (lines : List String) : Console :=
  match c.room with
  | none => ⟨c.lines ++ lines, none⟩
  | some room => ⟨c.lines ++ lines.take room, some (room - lines.length)⟩

variable {c : Console}

@[simp] theorem filled_nil (c : Console) : c.filled [] = c := by
  obtain ⟨lines, _ | room⟩ := c <;> simp [filled]

/-- Writing goes on where it stopped: what is left over of the room serves the lines that follow. -/
theorem filled_filled (c : Console) (lines more : List String) :
    (c.filled lines).filled more = c.filled (lines ++ more) := by
  obtain ⟨written, _ | room⟩ := c
  · simp [filled]
  · have hroom : room - lines.length - more.length = room - (lines.length + more.length) := by omega
    simp [filled, List.take_append, hroom]

/-- A console that has got lines takes more where it would have taken all of them together. -/
theorem takes_filled (c : Console) (lines : List String) {n : Nat} (hpos : 0 < n) :
    (c.filled lines).takes n = c.takes (lines.length + n) := by
  obtain ⟨written, _ | room⟩ := c
  · rfl
  · show decide (n ≤ room - lines.length) = decide (lines.length + n ≤ room)
    rw [decide_eq_decide]
    omega

/-- What a console holds that has taken all lines. -/
theorem lines_filled_of_takes {lines : List String} (h : c.takes lines.length = true) :
    (c.filled lines).lines = c.lines ++ lines := by
  obtain ⟨written, _ | room⟩ := c
  · rfl
  · have hroom : lines.length ≤ room := of_decide_eq_true h
    simp [filled, List.take_of_length_le hroom]

/-- Line by line the console takes what its room holds, and it takes all lines where they fit. -/
theorem writeAll_eq (c : Console) (lines : List String) :
    c.writeAll lines = (c.takes lines.length, c.filled lines) := by
  induction lines generalizing c with
  | nil =>
    obtain ⟨written, _ | room⟩ := c <;> simp [writeAll, takes]
  | cons line lines ih =>
    obtain ⟨written, room⟩ := c
    match room with
    | none => simp [writeAll, write?, ih, takes, filled]
    | some 0 => simp [writeAll, write?, takes, filled]
    | some (room + 1) => simp [writeAll, write?, ih, takes, filled]

end HostDaemon.Console
