import HostDaemon.Proofs.Console.Connects

/-! # Lines that tell a port

  What is read off the two lines on which the engine tells another port than the one that it was
  given.

  - `ConsoleLine.alternatePort?_number` and `ConsoleLine.bindRetry?_number` say that it is the number
    on the line, where that is the number of a port, and nothing where it is larger. -/

namespace HostDaemon.ConsoleLine

open Text

/-- The line on which the engine tells that it took another port. -/
def alternateLine (n : Nat) : List Char :=
  "using alternate port ".toList ++ (Nat.toDigits 10 n ++ ['.'])

/-- The line on which the engine tells that it could not take one port and tries another. -/
def retryLine (wanted n : Nat) : List Char :=
  "NETWORK_Construct: Couldn't bind to ".toList ++ ((Nat.toDigits 10 wanted ++ ['.']) ++
    (" Binding to ".toList ++ (Nat.toDigits 10 n ++ " instead...".toList)))

theorem port?_toDigits (n : Nat) :
    port? (Nat.toDigits 10 n) = if n ≤ 65535 then some (UInt16.ofNat n) else none := by
  rw [port?, Number.readUInt16?, Number.read?_toDigits]
  split <;> rfl

/-- A number is found where it has at most five digits. -/
theorem digits?_toDigits (n : Nat) (rest : List Char)
    (hrest : ∀ c ∈ rest.head?, isDecimalDigit c = false) :
    digits? 5 (Nat.toDigits 10 n ++ rest) =
      if n < 100000 then some (Nat.toDigits 10 n, rest) else none := by
  have hlength : (Nat.toDigits 10 n).length ≤ 5 ↔ n < 10 ^ 5 :=
    Nat.length_toDigits_le_iff (by decide) (by decide)
  have hfits : ((Nat.toDigits 10 n).isEmpty || decide (5 < (Nat.toDigits 10 n).length)) = true ↔
      ¬ n < 100000 := by
    rw [Bool.or_eq_true, List.isEmpty_iff, decide_eq_true_eq]
    have hne : Nat.toDigits 10 n ≠ [] := Nat.toDigits_ne_nil
    simp only [hne, false_or]
    omega
  rw [digits?_append (fun c hc => isDecimalDigit_of_mem_toDigits hc) hrest]
  simp only [hfits, ite_not]

/-- What is read off a number is the port of that number, where it is one. -/
theorem bind_port?_toDigits (n : Nat) (rest : List Char) (event : UInt16 → ConsoleEvent) :
    ((if n < 100000 then some (Nat.toDigits 10 n, rest) else none).bind fun found =>
      (port? found.1).bind fun port => some (event port)) =
      if n ≤ 65535 then some (event (UInt16.ofNat n)) else none := by
  by_cases hport : n ≤ 65535
  · have hshort : n < 100000 := by omega
    rw [if_pos hshort, if_pos hport, Option.bind_some, port?_toDigits, if_pos hport]
    rfl
  · rw [if_neg hport]
    split
    · rw [Option.bind_some, port?_toDigits, if_neg hport]
      rfl
    · rfl

/-- Another port is told where the number is that of a port. -/
theorem alternatePort?_number (n : Nat) :
    alternatePort? (alternateLine n) =
      if n ≤ 65535 then some (.alternatePort (UInt16.ofNat n)) else none := by
  have hserver : after? "Server ".toList (alternateLine n) = none := rfl
  have hwords : after? "using alternate port ".toList (alternateLine n) =
      some (Nat.toDigits 10 n ++ ['.']) := after?_append _ _
  have hdigits := digits?_toDigits n ['.'] (by rintro c ⟨⟩; decide)
  rw [← bind_port?_toDigits n ['.'] .alternatePort, ← hdigits, alternatePort?, hserver]
  simp only [bind, pure, Option.getD_none, hwords, Option.bind_some]
  refine Option.bind_congr fun found hfound => ?_
  rw [hdigits] at hfound
  split at hfound
  · cases hfound
    rfl
  · cases hfound

/-- The port that the engine tries instead is told where the number is that of a port. -/
theorem bindRetry?_number (wanted n : Nat) :
    bindRetry? (retryLine wanted n) =
      if n ≤ 65535 then some (.bindRetry (UInt16.ofNat n)) else none := by
  have hwords : after? "NETWORK_Construct: Couldn't bind to ".toList (retryLine wanted n) =
      some ((Nat.toDigits 10 wanted ++ ['.']) ++
        (" Binding to ".toList ++ (Nat.toDigits 10 n ++ " instead...".toList))) := after?_append _ _
  have hplain : ∀ c ∈ Nat.toDigits 10 wanted ++ ['.'], (!isBlank c) = true := by
    intro c hc
    rcases List.mem_append.1 hc with hc | hc
    · rw [isBlank_of_isDigit (Nat.isDigit_of_mem_toDigits (by decide) (by decide) hc)]
      rfl
    · cases List.mem_singleton.1 hc
      decide
  -- The port that could not be taken ends at the blank after its full stop.
  have hwanted : ((Nat.toDigits 10 wanted ++ ['.']) ++ (" Binding to ".toList ++
      (Nat.toDigits 10 n ++ " instead...".toList))).takeWhile (!isBlank ·) =
      Nat.toDigits 10 wanted ++ ['.'] := by
    rw [List.takeWhile_append_of_pos hplain]
    exact List.append_nil _
  have hstop : ¬ ((Nat.toDigits 10 wanted ++ ['.']).length < 2 ∨
      (Nat.toDigits 10 wanted ++ ['.']).getLast? ≠ some '.') := by
    have hlength : 0 < (Nat.toDigits 10 wanted).length :=
      List.length_pos_of_ne_nil Nat.toDigits_ne_nil
    simp only [List.length_append, List.length_singleton, List.getLast?_concat, ne_eq,
      not_true_eq_false, or_false]
    omega
  have hbinding : after? " Binding to ".toList (" Binding to ".toList ++
      (Nat.toDigits 10 n ++ " instead...".toList)) = some (Nat.toDigits 10 n ++
        " instead...".toList) := after?_append _ _
  have hdigits := digits?_toDigits n " instead...".toList (by rintro c ⟨⟩; decide)
  rw [← bind_port?_toDigits n " instead...".toList .bindRetry, ← hdigits, bindRetry?]
  simp only [bind, pure, hwords, Option.bind_some, hwanted, if_neg hstop, List.drop_left, hbinding]
  refine Option.bind_congr fun found hfound => ?_
  rw [hdigits] at hfound
  split at hfound
  · cases hfound
    exact if_pos rfl
  · cases hfound

end HostDaemon.ConsoleLine
