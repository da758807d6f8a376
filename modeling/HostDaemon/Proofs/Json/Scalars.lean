import HostDaemon.Json.Printer
import HostDaemon.Json.Reader
import HostDaemon.Proofs.Number.Decimal

/-! # Strings and whole numbers of a JSON text

  A string and a whole number, written and read again.

  - `Json.writeChar_cases` says in which two ways a character of a string is written, and that each
    is read as that character.
  - `Json.stringBody_escaped` carries this over to a string.
  - `Json.number_toDigits` reads the digits of a number, where what follows does not go on with
    it. -/

namespace HostDaemon.Json

variable {c : Char} {cs rest : List Char} {fuel : Nat}

/-! ### Strings -/

theorem hexDigit?_hexDigit {n : Nat} (h : n < 16) : Number.hexDigit? (hexDigit n) = some n := by
  have hall : ∀ n < 16, Number.hexDigit? (Nat.digitChar n) = some n := by decide
  exact hall n h

/-- A control character is read from its number. -/
theorem escape_control (h : c.toNat < 0x20) (rest : List Char) :
    escape ('u' :: '0' :: '0' :: hexDigit (c.toNat / 16) :: hexDigit (c.toNat % 16) :: rest) =
      .ok (c, rest) := by
  have hzero : Number.hexDigit? '0' = some 0 := by decide
  have hvalue : ((0 * 16 + 0) * 16 + c.toNat / 16) * 16 + c.toNat % 16 = c.toNat := by omega
  have hnumber : hex4 ('0' :: '0' :: hexDigit (c.toNat / 16) :: hexDigit (c.toNat % 16) :: rest) =
      .ok (c.toNat, rest) := by
    rw [hex4, hzero, hexDigit?_hexDigit (by omega), hexDigit?_hexDigit (by omega)]
    dsimp only
    rw [hvalue]
  have hlow : ¬ (0xDC00 ≤ c.toNat ∧ c.toNat ≤ 0xDFFF) := by omega
  have hhigh : ¬ (0xD800 ≤ c.toNat ∧ c.toNat ≤ 0xDBFF) := by omega
  simp only [escape, hnumber, hlow, hhigh, bind, Except.bind, Char.ofNat_toNat]
  rfl

theorem lineFeed_not_mem_control (h : c.toNat < 0x20) :
    '\n' ∉ ['u', '0', '0', hexDigit (c.toNat / 16), hexDigit (c.toNat % 16)] := by
  have hdigit : ∀ n < 16, '\n' ≠ hexDigit n := by decide
  have hhigh := hdigit (c.toNat / 16) (by omega)
  have hlow := hdigit (c.toNat % 16) (by omega)
  simp [hhigh, hlow]

/-- A character of a string stands for itself or is written as an escape, which is read as it. -/
theorem writeChar_cases (c : Char) :
    (writeChar c = [c] ∧ c ≠ '"' ∧ c ≠ '\\' ∧ ¬ c.toNat < 0x20) ∨
      ∃ word, writeChar c = '\\' :: word ∧ '\n' ∉ word ∧
        ∀ rest, escape (word ++ rest) = .ok (c, rest) := by
  unfold writeChar
  split
  next h => exact Or.inr ⟨['"'], rfl, by decide, by subst h; exact fun _ => rfl⟩
  next hquote =>
    split
    next h => exact Or.inr ⟨['\\'], rfl, by decide, by subst h; exact fun _ => rfl⟩
    next hbackslash =>
      split
      next h => exact Or.inr ⟨['b'], rfl, by decide, by subst h; exact fun _ => rfl⟩
      split
      next h => exact Or.inr ⟨['f'], rfl, by decide, by subst h; exact fun _ => rfl⟩
      split
      next h => exact Or.inr ⟨['n'], rfl, by decide, by subst h; exact fun _ => rfl⟩
      split
      next h => exact Or.inr ⟨['r'], rfl, by decide, by subst h; exact fun _ => rfl⟩
      split
      next h => exact Or.inr ⟨['t'], rfl, by decide, by subst h; exact fun _ => rfl⟩
      split
      next hcontrol =>
        exact Or.inr ⟨_, rfl, lineFeed_not_mem_control hcontrol, escape_control hcontrol⟩
      next hcontrol => exact Or.inl ⟨rfl, hquote, hbackslash, hcontrol⟩

theorem writeChar_ne_nil (c : Char) : writeChar c ≠ [] := by
  rcases writeChar_cases c with ⟨hself, -⟩ | ⟨word, hword, -, -⟩
  · rw [hself]
    exact List.cons_ne_nil c []
  · rw [hword]
    exact List.cons_ne_nil _ word

theorem stringFrom_writeChar (fuel : Nat) (c : Char) (cs : List Char) :
    stringFrom (fuel + 1) (writeChar c ++ cs) =
      (stringFrom fuel cs).map fun (more, rest) => (c :: more, rest) := by
  rcases writeChar_cases c with ⟨hself, hquote, hbackslash, hcontrol⟩ | ⟨word, hword, -, hescape⟩
  · rw [hself, List.cons_append, List.nil_append, stringFrom, if_neg hquote, if_neg hbackslash,
      if_neg hcontrol]
    rfl
  · rw [hword, List.cons_append, stringFrom, if_neg (by decide), if_pos rfl, hescape]
    rfl

/-- A string ends where its closing quote stands. -/
theorem stringFrom_escaped (h : cs.length < fuel) :
    stringFrom fuel (cs.flatMap writeChar ++ '"' :: rest) = .ok (cs, rest) := by
  -- Each character takes one unit of fuel, however many characters it is written with.
  induction cs generalizing fuel with
  | nil =>
    obtain ⟨fuel, rfl⟩ := Nat.exists_eq_add_of_lt h
    rfl
  | cons c cs ih =>
    rw [List.length_cons] at h
    obtain ⟨fuel, rfl⟩ : ∃ more, fuel = more + 1 := ⟨fuel - 1, by omega⟩
    rw [List.flatMap_cons, List.append_assoc, stringFrom_writeChar, ih (by omega)]
    rfl

theorem length_le_length_flatMap_writeChar (cs : List Char) :
    cs.length ≤ (cs.flatMap writeChar).length := by
  induction cs with
  | nil => exact Nat.le_refl 0
  | cons c cs ih =>
    have hc : 0 < (writeChar c).length := List.length_pos_iff.2 (writeChar_ne_nil c)
    rw [List.flatMap_cons, List.length_append, List.length_cons]
    omega

/-- What a string's text is read as after its opening quote. -/
theorem stringBody_escaped (s : String) (rest : List Char) :
    stringBody (s.toList.flatMap writeChar ++ '"' :: rest) = .ok (s, rest) := by
  have hlength := length_le_length_flatMap_writeChar s.toList
  rw [stringBody, stringFrom_escaped (by rw [List.length_append]; omega)]
  show Except.ok (String.ofList s.toList, rest) = _
  rw [String.ofList_toList]

/-! ### Whole numbers -/

/-- What may follow a number: nothing with which the number would go on. -/
def EndsNumber (rest : List Char) : Prop :=
  ∀ c ∈ rest.head?, c.isDigit = false ∧ c ≠ '.' ∧ c ≠ 'e' ∧ c ≠ 'E'

/-- The digits of a number are read as that number. -/
theorem number_toDigits (negative : Bool) (n : Nat) (h : EndsNumber rest) {m : Int}
    (hvalue : ofDigits negative n = .integer m) :
    number negative (Nat.toDigits 10 n ++ rest) = .ok (.integer m, rest) := by
  have hdigits : ∀ c ∈ Nat.toDigits 10 n, c.isDigit = true := by
    intro c hc
    exact Nat.isDigit_of_mem_toDigits (by decide) (by decide) hc
  have hspan : Number.spanDigits (Nat.toDigits 10 n ++ rest) = (Nat.toDigits 10 n, rest) :=
    Number.spanDigits_append hdigits fun c hc => (h c hc).1
  obtain ⟨d, ds, hds⟩ := List.exists_cons_of_ne_nil (Nat.toDigits_ne_nil (n := n) (b := 10))
  have hzero : d = '0' → ds = [] := by
    intro hd
    rw [hd] at hds
    exact Number.eq_nil_of_toDigits_eq_zero_cons hds
  rw [← Number.digitsValue_toDigits n] at hvalue
  rw [hds] at hvalue hspan ⊢
  rw [List.cons_append] at hspan ⊢
  unfold number
  extract_lets goOn
  -- After the digits no point and no power of ten follow.
  have hgoOn : goOn (d :: ds, rest) = .ok (.integer m, rest) := by
    dsimp only [goOn]
    cases rest with
    | nil => simp [hvalue, bind, Except.bind]
    | cons c rest =>
      obtain ⟨-, hpoint, hlower, hupper⟩ := h c rfl
      have hpower : ¬ (c = 'e' ∨ c = 'E') := by
        rintro (hc | hc)
        · exact hlower hc
        · exact hupper hc
      split
      next heq =>
        cases heq
        exact absurd rfl hpoint
      next => simp [hpower, hvalue, bind, Except.bind]
  -- A zero in front is looked at together with the character after it.
  split
  next heq => cases heq
  next c more heq =>
    obtain ⟨hd, hmore⟩ := List.cons.inj heq
    rw [hzero hd, List.nil_append] at hmore
    subst hmore
    have hc : (Number.digitValue? c).isSome = false := by
      rw [Number.isSome_digitValue?]
      exact (h c rfl).1
    rw [hc, if_neg Bool.false_ne_true]
    rw [hd, hzero hd] at hgoOn
    exact hgoOn
  next c more _ heq =>
    obtain ⟨rfl, rfl⟩ := List.cons.inj heq
    rw [hspan]
    exact hgoOn

end HostDaemon.Json
