import HostDaemon.Text.Basic
import HostDaemon.Text.Lowercase

/-! # What becomes of characters in lowercase

  - `Text.not_mem_lowercase` says that no other character becomes a sign that comes before the
    letters, such as a slash.
  - `Text.lowercase_eq_self` says that a text whose characters are lowercase in themselves stays as
    it is.
  - `Text.lowercase_eq_iff` says which texts become a word of plain letters: those that differ from it
    in the case of the letters A to Z alone, unless a letter k is in it.
  - `Text.lowercase_eq_of_sameLetters` says that texts which differ in the case of the letters A to
    Z alone are the same in lowercase. -/

namespace HostDaemon.Text

/-! ### The letters from A to Z -/

theorem toNat_asciiLowerChar (c : Char) :
    (asciiLowerChar c).toNat =
      if 65 ≤ c.toNat ∧ c.toNat ≤ 90 then c.toNat + 32 else c.toNat := by
  have hletter : ('A' ≤ c ∧ c ≤ 'Z') ↔ 65 ≤ c.toNat ∧ c.toNat ≤ 90 := Iff.rfl
  rw [asciiLowerChar]
  by_cases h : 65 ≤ c.toNat ∧ c.toNat ≤ 90
  · have hvalid : (c.toNat + 32).isValidChar := by
      left
      omega
    rw [if_pos (hletter.2 h), if_pos h, Char.ofNat, dif_pos hvalid]
    rfl
  · rw [if_neg fun hupper => h (hletter.1 hupper), if_neg h]

/-- Beyond the letters from A to Z every character is its own lowercase form. -/
theorem asciiLowerChar_eq_self {c : Char} (h : c.toNat < 65 ∨ 90 < c.toNat) :
    asciiLowerChar c = c := by
  rw [asciiLowerChar, if_neg]
  rintro ⟨hfirst, hlast⟩
  have hlow : 65 ≤ c.toNat := hfirst
  have hhigh : c.toNat ≤ 90 := hlast
  omega

namespace Lowercase

variable {c mark : Char} {cs ds : List Char}

/-- No letter has a sign that comes before all of them as its lowercase form. -/
theorem ne_of_mem_caseRanges (hmark : mark.toNat < 'a'.toNat) :
    ∀ r ∈ caseRanges, ∀ n, r.holds n = true → (Int.ofNat n + r.shift).toNat ≠ mark.toNat := by
  have hbounds : ∀ r ∈ caseRanges, (96 : Int) < r.first + r.shift := by decide +kernel
  intro r hr n hholds
  have hfirst : r.first ≤ n := by
    simp only [CaseRange.holds, Bool.and_eq_true, decide_eq_true_eq] at hholds
    exact hholds.1.1
  have hbound := hbounds r hr
  have hletter : 'a'.toNat = 97 := rfl
  simp only [Int.ofNat_eq_natCast]
  omega

theorem ofNat_ne {n : Nat} (hzero : 0 < mark.toNat) (h : n ≠ mark.toNat) : Char.ofNat n ≠ mark := by
  by_cases hvalid : n.isValidChar
  · have hnat : (Char.ofNat n).toNat = n := by
      rw [Char.ofNat, dif_pos hvalid]
      rfl
    intro heq
    rw [heq] at hnat
    exact h hnat.symm
  · rw [Char.ofNat, dif_neg hvalid]
    rintro rfl
    cases hzero

/-- A sign that comes before the letters is the lowercase form of itself alone. -/
theorem eq_of_mem_ofChar (hzero : 0 < mark.toNat) (hmark : mark.toNat < 'a'.toNat)
    (h : mark ∈ ofChar c) : c = mark := by
  have hletter : 'a'.toNat = 97 := rfl
  unfold ofChar at h
  split at h
  next =>
    rw [List.mem_singleton] at h
    split at h
    next hupper =>
      have hlower : Char.ofNat (c.toNat + 32) ≠ mark := by
        apply ofNat_ne hzero
        have hfirst : 'A'.toNat ≤ c.toNat := hupper.1
        have hvalue : 'A'.toNat = 65 := rfl
        omega
      exact absurd h.symm hlower
    next => exact h.symm
  next =>
    split at h
    next =>
      -- The capital I with a dot becomes a letter and a dot of its own.
      exfalso
      rcases List.mem_cons.1 h with rfl | hdot
      · revert hmark
        decide
      · rw [List.mem_singleton.1 hdot] at hmark
        revert hmark
        decide
    next =>
      split at h
      next r hfind =>
        rw [List.mem_singleton] at h
        have hshifted := ne_of_mem_caseRanges hmark r (List.mem_of_find?_eq_some hfind) c.toNat
          (List.find?_eq_some_iff_append.1 hfind).1
        exact absurd h.symm (ofNat_ne hzero hshifted)
      next => exact (List.mem_singleton.1 h).symm

theorem not_mem_withContext (hzero : 0 < mark.toNat) (hmark : mark.toNat < 'a'.toNat)
    (h : mark ∉ cs) (passed : List Char) : mark ∉ withContext passed cs := by
  have hsigma : mark ≠ 'ς' ∧ mark ≠ 'σ' := by
    constructor <;> rintro rfl <;> revert hmark <;> decide
  induction cs generalizing passed with
  | nil => simp [withContext]
  | cons c cs ih =>
    rw [List.mem_cons, not_or] at h
    rw [withContext, List.mem_append, not_or]
    refine ⟨?_, ih h.2 (c :: passed)⟩
    split
    · split
      · rw [List.mem_singleton]
        exact hsigma.1
      · rw [List.mem_singleton]
        exact hsigma.2
    · intro hmem
      exact h.1 (eq_of_mem_ofChar hzero hmark hmem).symm

theorem withContext_eq_self (h : ∀ c ∈ cs, ofChar c = [c]) (passed : List Char) :
    withContext passed cs = cs := by
  induction cs generalizing passed with
  | nil => rfl
  | cons c cs ih =>
    have hfirst : ofChar c = [c] := h c List.mem_cons_self
    have hmore : withContext (c :: passed) cs = cs :=
      ih (fun d hd => h d (List.mem_cons_of_mem c hd)) (c :: passed)
    -- The capital sigma, whose form depends on its place, is not its own lowercase form.
    have hsigma : c ≠ 'Σ' := by
      rintro rfl
      revert hfirst
      decide +kernel
    rw [withContext, if_neg hsigma, hfirst, hmore, List.singleton_append]

/-! ### Words of plain letters -/

/-- Is it one of the first signs, apart from the first of all and the letter k, which is the
    lowercase form of the sign for kelvin too? -/
def isPlain (c : Char) : Bool := 0 < c.toNat && c.toNat < 128 && c != 'k'

/-- No letter beyond the first signs has a plain one as its lowercase form. -/
theorem not_isPlain_of_mem_caseRanges :
    ∀ r ∈ caseRanges, ∀ n, 128 ≤ n → r.holds n = true →
      isPlain (Char.ofNat (Int.ofNat n + r.shift).toNat) = false := by
  have hbounds : ∀ r ∈ caseRanges, r.last < 128 ∨ (128 : Int) ≤ r.first + r.shift ∨
      r.first = r.last ∧ r.first + r.shift = 'k'.toNat := by decide +kernel
  intro r hr n hfar hholds
  simp only [CaseRange.holds, Bool.and_eq_true, decide_eq_true_eq] at hholds
  obtain ⟨⟨hfirst, hlast⟩, -⟩ := hholds
  rw [Int.ofNat_eq_natCast]
  generalize hshifted : ((n : Int) + r.shift).toNat = m
  rcases hbounds r hr with hnear | hshift | ⟨hone, hshift⟩
  · omega
  · have hm : ¬m < 128 := by omega
    by_cases hvalid : m.isValidChar
    · have hnat : (Char.ofNat m).toNat = m := by
        rw [Char.ofNat, dif_pos hvalid]
        rfl
      simp [isPlain, hnat, hm]
    · rw [Char.ofNat, dif_neg hvalid]
      rfl
  · have hkelvin : m = 'k'.toNat := by omega
    rw [hkelvin]
    rfl

/-- One of the first signs has the lowercase form of the letters A to Z. -/
theorem ofChar_of_lt (h : c.toNat < 128) : ofChar c = [asciiLowerChar c] := by
  rw [ofChar, if_pos h, asciiLowerChar]

/-- Another character has something in its lowercase form that is not plain. -/
theorem exists_mem_ofChar (h : 128 ≤ c.toNat) : ∃ d ∈ ofChar c, isPlain d = false := by
  rw [ofChar, if_neg (by omega)]
  split
  · exact ⟨Char.ofNat 0x307, by simp, by decide⟩
  · split
    next r hfind =>
      have hr := List.mem_of_find?_eq_some hfind
      have hholds := (List.find?_eq_some_iff_append.1 hfind).1
      exact ⟨_, List.mem_singleton_self _, not_isPlain_of_mem_caseRanges r hr c.toNat h hholds⟩
    next =>
      have hfar : ¬c.toNat < 128 := by omega
      exact ⟨c, List.mem_singleton_self c, by simp [isPlain, hfar]⟩

theorem withContext_eq_iff (hplain : ∀ d ∈ ds, isPlain d = true) (passed : List Char) :
    withContext passed cs = ds ↔ cs.map asciiLowerChar = ds := by
  induction cs generalizing passed ds with
  | nil => simp [withContext]
  | cons c cs ih =>
    rw [withContext, List.map_cons]
    by_cases hnear : c.toNat < 128
    · have hsigma : c ≠ 'Σ' := by
        rintro rfl
        revert hnear
        decide
      rw [if_neg hsigma, ofChar_of_lt hnear, List.singleton_append]
      cases ds with
      | nil => simp
      | cons d ds =>
        rw [List.cons.injEq, List.cons.injEq,
          ih (fun e he => hplain e (List.mem_cons_of_mem d he)) (c :: passed)]
    · -- What the character leaves is not plain, neither in one form nor in the other.
      have hself : asciiLowerChar c = c := asciiLowerChar_eq_self (Or.inr (by omega))
      have hleft : ∃ d ∈ (if c = 'Σ' then
          if meetsCased passed && !meetsCased cs then ['ς'] else ['σ'] else ofChar c),
          isPlain d = false := by
        split
        · split
          · exact ⟨'ς', List.mem_singleton_self _, by decide⟩
          · exact ⟨'σ', List.mem_singleton_self _, by decide⟩
        · exact exists_mem_ofChar (by omega)
      constructor
      · rintro rfl
        obtain ⟨d, hd, hnot⟩ := hleft
        rw [hplain d (List.mem_append_left _ hd)] at hnot
        cases hnot
      · rintro rfl
        have hc := hplain (asciiLowerChar c) List.mem_cons_self
        rw [hself] at hc
        simp [isPlain, hnear] at hc

/-! ### Texts with the same letters -/

/-- The letters from A to Z are cased, in both cases, and none is passed over. -/
theorem cased_of_letter
    (h : 65 ≤ c.toNat ∧ c.toNat ≤ 90 ∨ 97 ≤ c.toNat ∧ c.toNat ≤ 122) :
    isCased c = true ∧ isIgnorable c = false := by
  have hpassed : ∀ r ∈ ignorableRanges, r.2 < 65 ∨ 90 < r.1 ∧ r.2 < 97 ∨ 122 < r.1 := by
    decide +kernel
  constructor
  · rw [isCased, CodeRanges.holdsChar, CodeRanges.holds, List.any_eq_true]
    rcases h with hupper | hlower
    · exact ⟨(0x41, 0x5A), List.mem_cons_self, by simpa using hupper⟩
    · exact ⟨(0x61, 0x7A), List.mem_cons_of_mem _ List.mem_cons_self, by simpa using hlower⟩
  · rw [isIgnorable, CodeRanges.holdsChar, CodeRanges.holds, List.any_eq_false]
    intro r hr
    have hout := hpassed r hr
    simp only [Bool.and_eq_true, decide_eq_true_eq]
    omega

/-- A letter from A to Z has the lowercase form of its own one, and counts as that does. -/
theorem alike_asciiLowerChar (c : Char) :
    isIgnorable (asciiLowerChar c) = isIgnorable c ∧ isCased (asciiLowerChar c) = isCased c ∧
      ofChar (asciiLowerChar c) = ofChar c ∧ (asciiLowerChar c = 'Σ' ↔ c = 'Σ') := by
  by_cases h : 65 ≤ c.toNat ∧ c.toNat ≤ 90
  · have hlower : (asciiLowerChar c).toNat = c.toNat + 32 := by
      rw [toNat_asciiLowerChar, if_pos h]
    obtain ⟨hcased, hpassed⟩ := cased_of_letter (Or.inl h)
    obtain ⟨hcased', hpassed'⟩ := cased_of_letter (c := asciiLowerChar c) (Or.inr (by omega))
    have hself : asciiLowerChar (asciiLowerChar c) = asciiLowerChar c :=
      asciiLowerChar_eq_self (Or.inr (by omega))
    have hsigma : 'Σ'.toNat = 931 := rfl
    refine ⟨hpassed'.trans hpassed.symm, hcased'.trans hcased.symm, ?_, ?_⟩
    · rw [ofChar_of_lt (by omega), ofChar_of_lt (by omega), hself]
    · rw [← Char.toNat_inj, ← Char.toNat_inj]
      omega
  · rw [asciiLowerChar_eq_self (by omega)]
    exact ⟨rfl, rfl, rfl, Iff.rfl⟩

theorem meetsCased_map (cs : List Char) : meetsCased (cs.map asciiLowerChar) = meetsCased cs := by
  have hpassed : isIgnorable ∘ asciiLowerChar = isIgnorable :=
    funext fun c => (alike_asciiLowerChar c).1
  rw [meetsCased, meetsCased, List.dropWhile_map, hpassed]
  cases cs.dropWhile isIgnorable with
  | nil => rfl
  | cons c cs => exact (alike_asciiLowerChar c).2.1

/-- The case of the letters A to Z makes no difference to the lowercase form. -/
theorem withContext_map (passed cs : List Char) :
    withContext (passed.map asciiLowerChar) (cs.map asciiLowerChar) = withContext passed cs := by
  induction cs generalizing passed with
  | nil => rfl
  | cons c cs ih =>
    obtain ⟨-, -, hchar, hsigma⟩ := alike_asciiLowerChar c
    have hmore := ih (c :: passed)
    rw [List.map_cons] at hmore
    rw [List.map_cons, withContext, withContext, meetsCased_map, meetsCased_map, hchar, hmore]
    simp only [hsigma]

end Lowercase

/-- Two names have the same letters where they are the same in lowercase. -/
theorem sameLetters_iff {a b : String} :
    sameLetters a b = true ↔ asciiLower a = asciiLower b := by
  rw [sameLetters, beq_iff_eq, asciiLower, asciiLower]
  constructor
  · intro h
    rw [h]
  · intro h
    have hlist := congrArg String.toList h
    rw [String.toList_ofList, String.toList_ofList] at hlist
    exact hlist

/-- A sign that comes before the letters and does not stand in a text does not stand in its
    lowercase form. -/
theorem not_mem_lowercase {mark : Char} {s : String} (hzero : 0 < mark.toNat)
    (hmark : mark.toNat < 'a'.toNat) (h : mark ∉ s.toList) : mark ∉ (lowercase s).toList := by
  rw [lowercase, String.toList_ofList]
  exact Lowercase.not_mem_withContext hzero hmark h []

/-- A text stays as it is where each of its characters is its own lowercase form. -/
theorem lowercase_eq_self {s : String} (h : ∀ c ∈ s.toList, Lowercase.ofChar c = [c]) :
    lowercase s = s := by
  rw [lowercase, Lowercase.withContext_eq_self h, String.ofList_toList]

/-- For a word of plain characters the full lowercase mapping decides as the letters A to Z do. -/
theorem lowercase_eq_iff {s word : String}
    (hplain : ∀ c ∈ word.toList, Lowercase.isPlain c = true) :
    lowercase s = word ↔ asciiLower s = word := by
  have hlists : Lowercase.withContext [] s.toList = word.toList ↔
      s.toList.map asciiLowerChar = word.toList := Lowercase.withContext_eq_iff hplain []
  rw [lowercase, asciiLower, ← String.toList_inj, ← String.toList_inj, String.toList_ofList,
    String.toList_ofList, hlists]

/-- Texts with the same letters are the same in lowercase. -/
theorem lowercase_eq_of_sameLetters {a b : String} (h : sameLetters a b = true) :
    lowercase a = lowercase b := by
  have hletters : a.toList.map asciiLowerChar = b.toList.map asciiLowerChar := beq_iff_eq.1 h
  rw [lowercase, lowercase, ← Lowercase.withContext_map [] a.toList, hletters,
    Lowercase.withContext_map]

end HostDaemon.Text
