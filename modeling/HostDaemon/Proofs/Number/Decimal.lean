import HostDaemon.Number.Decimal
import Mathlib.Data.List.Basic

/-! # Decimal digits

  The digits that a number is written with, as a reader of digits sees them.

  - `Number.spanDigits_append` says where the digits at the front of a text end.
  - `Number.digitsValue_toDigits` says that the digits of a number have its value.
  - `Number.eq_nil_of_toDigits_eq_zero_cons` says that only zero is written with a zero in front.
  - `Number.toString_injective` says that different numbers are written differently.
  - `Number.readUInt32?_toString` says that a number that is written down is read again. -/

namespace HostDaemon.Number

variable {n : Nat} {c : Char} {cs ds : List Char}

theorem digitValue?_of_isDigit (h : c.isDigit = true) : digitValue? c = some (c.toNat - 48) := by
  simp only [Char.isDigit, Bool.and_eq_true, decide_eq_true_eq] at h
  rw [digitValue?, if_pos]
  simp only [Char.le_def]
  exact h

theorem isSome_digitValue? (c : Char) : (digitValue? c).isSome = c.isDigit := by
  by_cases h : c.isDigit = true
  · rw [digitValue?_of_isDigit h, h]
    rfl
  · rw [Bool.not_eq_true] at h
    have hrange : ¬ ('0' ≤ c ∧ c ≤ '9') := by
      simp only [Char.isDigit, Bool.and_eq_false_iff, decide_eq_false_iff_not] at h
      simp only [Char.le_def]
      rintro ⟨hlow, hhigh⟩
      rcases h with hnot | hnot
      · exact hnot hlow
      · exact hnot hhigh
    rw [digitValue?, if_neg hrange, h]
    rfl

/-- The digits in front end where the first character that is none stands. -/
theorem spanDigits_append (hdigits : ∀ c ∈ ds, c.isDigit = true)
    (hrest : ∀ c ∈ cs.head?, c.isDigit = false) : spanDigits (ds ++ cs) = (ds, cs) := by
  have hin : ∀ c ∈ ds, (digitValue? c).isSome = true := by
    intro c hc
    rw [isSome_digitValue?]
    exact hdigits c hc
  have hout : cs.takeWhile (digitValue? · |>.isSome) = [] ∧
      cs.dropWhile (digitValue? · |>.isSome) = cs := by
    cases cs with
    | nil => exact ⟨rfl, rfl⟩
    | cons c cs =>
      have hc : ¬ (digitValue? c).isSome = true := by
        rw [isSome_digitValue?, hrest c rfl]
        exact Bool.false_ne_true
      exact ⟨List.takeWhile_cons_of_neg hc, List.dropWhile_cons_of_neg hc⟩
  rw [spanDigits, List.takeWhile_append_of_pos hin, List.dropWhile_append_of_pos hin, hout.1,
    hout.2, List.append_nil]

theorem digitsValue_eq_ofDigitChars (h : ∀ c ∈ cs, c.isDigit = true) :
    digitsValue cs = Nat.ofDigitChars 10 cs 0 := by
  have hfrom : ∀ (cs : List Char) (soFar : Nat), (∀ c ∈ cs, c.isDigit = true) →
      cs.foldl (fun n c => n * 10 + (digitValue? c).getD 0) soFar =
        Nat.ofDigitChars 10 cs soFar := by
    intro cs
    induction cs with
    | nil => exact fun _ _ => rfl
    | cons c cs ih =>
      intro soFar hdigits
      rw [List.foldl_cons, ih _ (fun d hd => hdigits d (List.mem_cons_of_mem c hd)),
        digitValue?_of_isDigit (hdigits c List.mem_cons_self), Nat.mul_comm soFar 10]
      rfl
  exact hfrom cs 0 h

/-- The digits of a number have its value. -/
theorem digitsValue_toDigits (n : Nat) : digitsValue (Nat.toDigits 10 n) = n := by
  have hdigits : ∀ c ∈ Nat.toDigits 10 n, c.isDigit = true := by
    intro c hc
    exact Nat.isDigit_of_mem_toDigits (by decide) (by decide) hc
  rw [digitsValue_eq_ofDigitChars hdigits, Nat.ofDigitChars_ten_toDigits]

/-- Only zero is written with a zero in front. -/
theorem head?_toDigits_ne (h : n ≠ 0) : (Nat.toDigits 10 n).head? ≠ some '0' := by
  induction n using Nat.strongRecOn with
  | ind n ih =>
    by_cases hsmall : n < 10
    · have hdigit : ∀ d < 10, d ≠ 0 → d.digitChar ≠ '0' := by decide
      rw [Nat.toDigits_of_lt_base hsmall]
      intro hzero
      exact hdigit n hsmall h (Option.some.inj hzero)
    · rw [Nat.toDigits_of_base_le (by decide) (by omega), List.head?_append]
      have hfront := ih (n / 10) (by omega) (by omega)
      cases hhead : (Nat.toDigits 10 (n / 10)).head? with
      | none => exact absurd (List.head?_eq_none_iff.1 hhead) Nat.toDigits_ne_nil
      | some d =>
        rw [hhead] at hfront
        exact hfront

/-- A zero in front is the only digit. -/
theorem eq_nil_of_toDigits_eq_zero_cons (h : Nat.toDigits 10 n = '0' :: ds) : ds = [] := by
  by_cases hn : n = 0
  · subst hn
    cases h
    rfl
  · refine absurd ?_ (head?_toDigits_ne hn)
    rw [h]
    rfl

theorem readDigits?_eq (h : ∀ c ∈ cs, c.isDigit = true) (soFar : Nat) :
    readDigits? soFar cs = some (Nat.ofDigitChars 10 cs soFar) := by
  induction cs generalizing soFar with
  | nil => rfl
  | cons c cs ih =>
    rw [readDigits?, digitValue?_of_isDigit (h c List.mem_cons_self)]
    simp only
    rw [ih (fun d hd => h d (List.mem_cons_of_mem c hd)), Nat.mul_comm soFar 10]
    rfl

theorem toList_toString (n : Nat) : (toString n).toList = Nat.toDigits 10 n := by
  simp [toString]

/-- Different numbers are written with different digits. -/
theorem toString_injective : Function.Injective (toString : Nat → String) := by
  intro n m h
  have hvalue := congrArg (fun s : String => digitsValue s.toList) h
  simpa only [toList_toString, digitsValue_toDigits] using hvalue

/-- The digits of a number are read as that number. -/
theorem readChars?_toDigits (n : Nat) : readChars? (Nat.toDigits 10 n) = some n := by
  have hdigits : ∀ c ∈ Nat.toDigits 10 n, c.isDigit = true := by
    intro c hc
    exact Nat.isDigit_of_mem_toDigits (by decide) (by decide) hc
  have hdigitsRead := readDigits?_eq hdigits 0
  rw [Nat.ofDigitChars_ten_toDigits] at hdigitsRead
  obtain ⟨c, cs, hcons⟩ := List.exists_cons_of_ne_nil (Nat.toDigits_ne_nil (n := n) (b := 10))
  rw [hcons] at hdigits hdigitsRead ⊢
  have hplus : c ≠ '+' := by
    rintro rfl
    exact absurd (hdigits '+' List.mem_cons_self) (by decide)
  unfold readChars?
  split
  next heq => cases heq
  next heq => exact absurd (List.cons.inj heq).1 hplus
  next => exact hdigitsRead

/-- The digits of a number are read where the number does not exceed the bound. -/
theorem read?_toDigits (bound n : Nat) :
    read? bound (String.ofList (Nat.toDigits 10 n)) = if n ≤ bound then some n else none := by
  rw [read?, String.toList_ofList, readChars?_toDigits]
  by_cases hn : n ≤ bound <;> simp [Option.filter, hn]

/-- A number that is written down is read again. -/
theorem readUInt32?_toString (n : UInt32) : readUInt32? (toString n) = some n := by
  have hdigits : toString n = String.ofList (Nat.toDigits 10 n.toNat) := by
    rw [← toList_toString, String.ofList_toList]
    rfl
  have hbound : n.toNat ≤ 4294967295 := Nat.le_of_lt_succ n.toNat_lt
  rw [readUInt32?, hdigits, read?_toDigits, if_pos hbound]
  simp

end HostDaemon.Number
