import HostDaemon.Text.Utf8
import Mathlib.Algebra.Group.Nat.Defs
import Mathlib.Data.List.Basic

/-! # Decoding and encoding

  The machine that decodes bytes is held to the encoding, and line feeds are where they seem to be.

  - `Utf8.decode?_eq_some_iff` is the main result: bytes that are decoded are the encoding of what
    comes out, and everything that was encoded is decoded.
  - `Utf8.decode_append_lineFeed` says that a line feed ends whatever sequence has begun, so that
    the text after it does not depend on what stands before it.
  - `Utf8.lineFeed_not_mem_decode` and `Utf8.lineFeed_not_mem_encode` say that no other bytes are
    decoded to a line feed, and no other characters encoded with its byte. -/

namespace HostDaemon.Text.Utf8

variable {b : UInt8} {bytes rest : List UInt8} {o : Owed} {owed : Option Owed} {c : Char}
  {cs : List Char} {tail : List (Option Char)} {x y z w : Nat}

/-! ### The first byte -/

theorem toNat_byte (h : x < 0x100) : (UInt8.ofNat x).toNat = x := UInt8.toNat_ofNat_of_lt h

theorem begin_one (hx : x < 0x80) :
    begin (UInt8.ofNat x) = (some (some (Char.ofNat x)), none) := by
  simp only [begin, toNat_byte (show x < 0x100 by omega)]
  rw [if_pos hx]

theorem begin_two (hx : 2 ≤ x ∧ x < 0x20) :
    begin (UInt8.ofNat (0xC0 + x)) = (none, some ⟨x, 0x80, 0xBF, 0⟩) := by
  simp only [begin, toNat_byte (show 0xC0 + x < 0x100 by omega)]
  rw [if_neg (by omega), if_pos (by omega), Nat.add_sub_cancel_left]

/-- The second of three bytes is bounded so that nothing comes out that is encoded in two, and no
    surrogate. -/
theorem begin_three (hx : x < 0x10) :
    begin (UInt8.ofNat (0xE0 + x)) =
      (none, some ⟨x, if x = 0 then 0xA0 else 0x80, if x = 0xD then 0x9F else 0xBF, 1⟩) := by
  simp only [begin, toNat_byte (show 0xE0 + x < 0x100 by omega)]
  rw [if_neg (by omega), if_neg (by omega)]
  by_cases hlow : x = 0
  · simp [hlow]
  · by_cases hhigh : x = 0xD
    · simp [hhigh]
    · rw [if_neg (by omega), if_neg (by omega), if_pos (by omega), if_neg hlow, if_neg hhigh,
        Nat.add_sub_cancel_left]

/-- The second of four bytes is bounded so that nothing comes out that is encoded in three, and
    nothing that is too large. -/
theorem begin_four (hx : x ≤ 4) :
    begin (UInt8.ofNat (0xF0 + x)) =
      (none, some ⟨x, if x = 0 then 0x90 else 0x80, if x = 4 then 0x8F else 0xBF, 2⟩) := by
  simp only [begin, toNat_byte (show 0xF0 + x < 0x100 by omega)]
  rw [if_neg (by omega), if_neg (by omega), if_neg (by omega), if_neg (by omega),
    if_neg (by omega)]
  by_cases hlow : x = 0
  · simp [hlow]
  · by_cases hhigh : x = 4
    · simp [hhigh]
    · rw [if_neg (by omega), if_pos (by omega), if_neg hlow, if_neg hhigh, Nat.add_sub_cancel_left]

/-- The bytes by what they begin. -/
theorem lead_cases (b : UInt8) :
    (∃ x, b = UInt8.ofNat x ∧ x < 0x80) ∨
    (∃ x, b = UInt8.ofNat (0xC0 + x) ∧ 2 ≤ x ∧ x < 0x20) ∨
    (∃ x, b = UInt8.ofNat (0xE0 + x) ∧ x < 0x10) ∨
    (∃ x, b = UInt8.ofNat (0xF0 + x) ∧ x ≤ 4) ∨
    begin b = (some none, none) := by
  have hlead : ∀ {n}, n ≤ b.toNat → b = UInt8.ofNat (n + (b.toNat - n)) := fun h => by
    rw [Nat.add_sub_cancel' h, UInt8.ofNat_toNat]
  by_cases hone : b.toNat < 0x80
  · exact Or.inl ⟨b.toNat, UInt8.ofNat_toNat.symm, hone⟩
  · by_cases htwo : 0xC2 ≤ b.toNat ∧ b.toNat ≤ 0xDF
    · exact Or.inr (Or.inl ⟨_, hlead (show 0xC0 ≤ b.toNat by omega), by omega⟩)
    · by_cases hthree : 0xE0 ≤ b.toNat ∧ b.toNat ≤ 0xEF
      · exact Or.inr (Or.inr (Or.inl ⟨_, hlead hthree.1, by omega⟩))
      · by_cases hfour : 0xF0 ≤ b.toNat ∧ b.toNat ≤ 0xF4
        · exact Or.inr (Or.inr (Or.inr (Or.inl ⟨_, hlead hfour.1, by omega⟩)))
        · refine Or.inr (Or.inr (Or.inr (Or.inr ?_)))
          unfold begin
          dsimp only
          rw [if_neg hone, if_neg htwo, if_neg (by omega), if_neg (by omega), if_neg (by omega),
            if_neg (by omega), if_neg (by omega), if_neg (by omega)]

/-! ### One byte after another -/

theorem decodeFrom_none_cons :
    decodeFrom none (b :: bytes) = (begin b).1.toList ++ decodeFrom (begin b).2 bytes := rfl

/-- A byte that ends a sequence. -/
theorem decodeFrom_some_last (hb : o.low ≤ b.toNat ∧ b.toNat ≤ o.high) (hmore : o.more = 0) :
    decodeFrom (some o) (b :: bytes) =
      some (Char.ofNat (o.value * 64 + (b.toNat - 0x80))) :: decodeFrom none bytes := by
  simp only [decodeFrom, hb, and_self, if_true, hmore]

/-- A byte that continues a sequence. -/
theorem decodeFrom_some_next (hb : o.low ≤ b.toNat ∧ b.toNat ≤ o.high) {more : Nat}
    (hmore : o.more = more + 1) :
    decodeFrom (some o) (b :: bytes) =
      decodeFrom (some ⟨o.value * 64 + (b.toNat - 0x80), 0x80, 0xBF, more⟩) bytes := by
  simp only [decodeFrom, hb, and_self, if_true, hmore]

/-- A byte that cannot continue a sequence breaks it and begins the next one. -/
theorem decodeFrom_some_broken (hb : ¬ (o.low ≤ b.toNat ∧ b.toNat ≤ o.high)) :
    decodeFrom (some o) (b :: bytes) = none :: decodeFrom none (b :: bytes) := by
  rw [decodeFrom_none_cons, decodeFrom]
  simp only [hb, if_false]

theorem decodeFrom_some_ne_nil (o : Owed) (bytes : List UInt8) :
    decodeFrom (some o) bytes ≠ [] := by
  induction bytes generalizing o with
  | nil => simp [decodeFrom]
  | cons b bytes ih =>
    by_cases hb : o.low ≤ b.toNat ∧ b.toNat ≤ o.high
    · cases hmore : o.more with
      | zero => simp [decodeFrom_some_last hb hmore]
      | succ more =>
        rw [decodeFrom_some_next hb hmore]
        exact ih _
    · simp [decodeFrom_some_broken hb]

/-- Bytes are decoded to something. -/
theorem decode_ne_nil (h : bytes ≠ []) : decode bytes ≠ [] := by
  obtain ⟨b, bytes, rfl⟩ := List.exists_cons_of_ne_nil h
  rw [decode, decodeFrom_none_cons]
  rcases lead_cases b with ⟨x, rfl, hx⟩ | ⟨x, rfl, hx⟩ | ⟨x, rfl, hx⟩ | ⟨x, rfl, hx⟩ | hb
  · simp [begin_one hx]
  · rw [begin_two hx]
    exact decodeFrom_some_ne_nil _ _
  · rw [begin_three hx]
    exact decodeFrom_some_ne_nil _ _
  · rw [begin_four hx]
    exact decodeFrom_some_ne_nil _ _
  · simp [hb]

/-! ### Characters as bytes -/

theorem toNat_charOfNat (h : x.isValidChar) : (Char.ofNat x).toNat = x := by
  rw [Char.ofNat, dif_pos h]
  rfl

theorem utf8EncodeChar_one (hx : x < 0x80) :
    String.utf8EncodeChar (Char.ofNat x) = [UInt8.ofNat x] := by
  have hvalue : (Char.ofNat x).val.toNat = x := toNat_charOfNat (Or.inl (by omega))
  rw [String.utf8EncodeChar]
  simp only [hvalue]
  rw [if_pos (by omega)]

theorem utf8EncodeChar_two (hx : 2 ≤ x ∧ x < 0x20) (hy : y < 0x40) :
    String.utf8EncodeChar (Char.ofNat (x * 64 + y)) =
      [UInt8.ofNat (0xC0 + x), UInt8.ofNat (0x80 + y)] := by
  have hvalue : (Char.ofNat (x * 64 + y)).val.toNat = x * 64 + y :=
    toNat_charOfNat (Or.inl (by omega))
  rw [String.utf8EncodeChar]
  simp only [hvalue]
  rw [if_neg (by omega), if_pos (by omega)]
  have hlead : (x * 64 + y) / 64 % 0x20 + 0xC0 = 0xC0 + x := by omega
  have hlast : (x * 64 + y) % 0x40 + 0x80 = 0x80 + y := by omega
  rw [hlead, hlast]

theorem utf8EncodeChar_three (hx : x < 0x10) (hy : y < 0x40) (hz : z < 0x40)
    (hlow : 0x800 ≤ (x * 64 + y) * 64 + z) (hvalid : ((x * 64 + y) * 64 + z).isValidChar) :
    String.utf8EncodeChar (Char.ofNat ((x * 64 + y) * 64 + z)) =
      [UInt8.ofNat (0xE0 + x), UInt8.ofNat (0x80 + y), UInt8.ofNat (0x80 + z)] := by
  have hvalue : (Char.ofNat ((x * 64 + y) * 64 + z)).val.toNat = (x * 64 + y) * 64 + z :=
    toNat_charOfNat hvalid
  rw [String.utf8EncodeChar]
  simp only [hvalue]
  rw [if_neg (by omega), if_neg (by omega), if_pos (by omega)]
  have hlead : ((x * 64 + y) * 64 + z) / 4096 % 0x10 + 0xE0 = 0xE0 + x := by omega
  have hnext : ((x * 64 + y) * 64 + z) / 64 % 0x40 + 0x80 = 0x80 + y := by omega
  have hlast : ((x * 64 + y) * 64 + z) % 0x40 + 0x80 = 0x80 + z := by omega
  rw [hlead, hnext, hlast]

theorem utf8EncodeChar_four (hx : x < 8) (hy : y < 0x40) (hz : z < 0x40) (hw : w < 0x40)
    (hlow : 0x10000 ≤ ((x * 64 + y) * 64 + z) * 64 + w)
    (hvalid : (((x * 64 + y) * 64 + z) * 64 + w).isValidChar) :
    String.utf8EncodeChar (Char.ofNat (((x * 64 + y) * 64 + z) * 64 + w)) =
      [UInt8.ofNat (0xF0 + x), UInt8.ofNat (0x80 + y), UInt8.ofNat (0x80 + z),
        UInt8.ofNat (0x80 + w)] := by
  have hvalue : (Char.ofNat (((x * 64 + y) * 64 + z) * 64 + w)).val.toNat =
      ((x * 64 + y) * 64 + z) * 64 + w := toNat_charOfNat hvalid
  rw [String.utf8EncodeChar]
  simp only [hvalue]
  rw [if_neg (by omega), if_neg (by omega), if_neg (by omega)]
  have hlead : (((x * 64 + y) * 64 + z) * 64 + w) / 262144 % 8 + 0xF0 = 0xF0 + x := by omega
  have hnext : (((x * 64 + y) * 64 + z) * 64 + w) / 4096 % 0x40 + 0x80 = 0x80 + y := by omega
  have hthen : (((x * 64 + y) * 64 + z) * 64 + w) / 64 % 0x40 + 0x80 = 0x80 + z := by omega
  have hlast : (((x * 64 + y) * 64 + z) * 64 + w) % 0x40 + 0x80 = 0x80 + w := by omega
  rw [hlead, hnext, hthen, hlast]

/-! ### What was encoded is decoded -/

section Forward

variable {low high more : Nat}

theorem decodeFrom_last (hy : low ≤ 0x80 + y ∧ 0x80 + y ≤ high) (hsmall : y < 0x40) :
    decodeFrom (some ⟨x, low, high, 0⟩) (UInt8.ofNat (0x80 + y) :: rest) =
      some (Char.ofNat (x * 64 + y)) :: decodeFrom none rest := by
  have hbyte : (UInt8.ofNat (0x80 + y)).toNat = 0x80 + y := toNat_byte (by omega)
  rw [decodeFrom_some_last (by rw [hbyte]; exact hy) rfl, hbyte, Nat.add_sub_cancel_left]

theorem decodeFrom_next (hy : low ≤ 0x80 + y ∧ 0x80 + y ≤ high) (hsmall : y < 0x40) :
    decodeFrom (some ⟨x, low, high, more + 1⟩) (UInt8.ofNat (0x80 + y) :: rest) =
      decodeFrom (some ⟨x * 64 + y, 0x80, 0xBF, more⟩) rest := by
  have hbyte : (UInt8.ofNat (0x80 + y)).toNat = 0x80 + y := toNat_byte (by omega)
  rw [decodeFrom_some_next (by rw [hbyte]; exact hy) rfl, hbyte, Nat.add_sub_cancel_left]

/-- The last six bits of a number, and the bits before them. -/
theorem exists_bits (v : Nat) : ∃ x y, y < 0x40 ∧ v = x * 64 + y :=
  ⟨v / 64, v % 64, Nat.mod_lt _ (by decide), by omega⟩

/-- A character is decoded from its bytes, whatever follows them. -/
theorem decodeFrom_utf8EncodeChar (c : Char) (rest : List UInt8) :
    decodeFrom none (String.utf8EncodeChar c ++ rest) = some c :: decodeFrom none rest := by
  have hvalid : c.toNat.isValidChar := c.valid
  rw [← Char.ofNat_toNat c]
  generalize c.toNat = v at hvalid
  by_cases hone : v < 0x80
  · rw [utf8EncodeChar_one hone, List.singleton_append, decodeFrom_none_cons, begin_one hone]
    rfl
  · obtain ⟨x, y, hy, rfl⟩ := exists_bits v
    by_cases htwo : x * 64 + y < 0x800
    · have hx : 2 ≤ x ∧ x < 0x20 := by omega
      rw [utf8EncodeChar_two hx hy, List.cons_append, decodeFrom_none_cons, begin_two hx]
      exact decodeFrom_last (by omega) hy
    · obtain ⟨x, z, hz, rfl⟩ := exists_bits x
      by_cases hthree : (x * 64 + z) * 64 + y < 0x10000
      · have hx : x < 0x10 := by omega
        rw [utf8EncodeChar_three hx hz hy (by omega) hvalid, List.cons_append,
          decodeFrom_none_cons, begin_three hx]
        refine (decodeFrom_next ?_ hz).trans (decodeFrom_last (by omega) hy)
        unfold Nat.isValidChar at hvalid
        split <;> split <;> omega
      · obtain ⟨x, w, hw, rfl⟩ := exists_bits x
        have hx : x ≤ 4 := by
          unfold Nat.isValidChar at hvalid
          omega
        rw [utf8EncodeChar_four (by omega) hw hz hy (by omega) hvalid, List.cons_append,
          decodeFrom_none_cons, begin_four hx]
        refine (decodeFrom_next ?_ hw).trans
          ((decodeFrom_next (by omega) hz).trans (decodeFrom_last (by omega) hy))
        unfold Nat.isValidChar at hvalid
        split <;> split <;> omega

/-! ### What is decoded was encoded -/

theorem eq_byte_add (h : x ≤ b.toNat) : b = UInt8.ofNat (x + (b.toNat - x)) := by
  rw [Nat.add_sub_cancel' h, UInt8.ofNat_toNat]

/-- Where a character comes out of a sequence, its last byte is next. -/
theorem exists_last (h : decodeFrom (some ⟨x, low, high, 0⟩) bytes = some c :: tail)
    (hlow : 0x80 ≤ low) :
    ∃ y rest, bytes = UInt8.ofNat (0x80 + y) :: rest ∧ (low ≤ 0x80 + y ∧ 0x80 + y ≤ high) ∧
      c = Char.ofNat (x * 64 + y) ∧ decodeFrom none rest = tail := by
  cases bytes with
  | nil => simp [decodeFrom] at h
  | cons b bytes =>
    by_cases hb : low ≤ b.toNat ∧ b.toNat ≤ high
    · rw [decodeFrom_some_last hb rfl, List.cons.injEq, Option.some.injEq] at h
      have hbyte : b = UInt8.ofNat (0x80 + (b.toNat - 0x80)) := eq_byte_add (by omega)
      exact ⟨b.toNat - 0x80, bytes, by rw [← hbyte], by omega, h.1.symm, h.2⟩
    · rw [decodeFrom_some_broken hb] at h
      simp at h

/-- Where a character comes out of a sequence, the byte that comes next continues it. -/
theorem exists_next (h : decodeFrom (some ⟨x, low, high, more + 1⟩) bytes = some c :: tail)
    (hlow : 0x80 ≤ low) :
    ∃ y rest, bytes = UInt8.ofNat (0x80 + y) :: rest ∧ (low ≤ 0x80 + y ∧ 0x80 + y ≤ high) ∧
      decodeFrom (some ⟨x * 64 + y, 0x80, 0xBF, more⟩) rest = some c :: tail := by
  cases bytes with
  | nil => simp [decodeFrom] at h
  | cons b bytes =>
    by_cases hb : low ≤ b.toNat ∧ b.toNat ≤ high
    · rw [decodeFrom_some_next hb rfl] at h
      have hbyte : b = UInt8.ofNat (0x80 + (b.toNat - 0x80)) := eq_byte_add (by omega)
      exact ⟨b.toNat - 0x80, bytes, by rw [← hbyte], by omega, h⟩
    · rw [decodeFrom_some_broken hb] at h
      simp at h

end Forward

/-- A character that comes out of bytes was encoded as the first of them. -/
theorem exists_eq_utf8EncodeChar (h : decodeFrom none bytes = some c :: tail) :
    ∃ rest, bytes = String.utf8EncodeChar c ++ rest ∧ decodeFrom none rest = tail := by
  cases bytes with
  | nil => simp [decodeFrom] at h
  | cons b bytes =>
    rw [decodeFrom_none_cons] at h
    rcases lead_cases b with ⟨x, rfl, hx⟩ | ⟨x, rfl, hx⟩ | ⟨x, rfl, hx⟩ | ⟨x, rfl, hx⟩ | hb
    · rw [begin_one hx, Option.toList_some, List.singleton_append, List.cons.injEq,
        Option.some.injEq] at h
      refine ⟨bytes, ?_, h.2⟩
      rw [← h.1, utf8EncodeChar_one hx, List.singleton_append]
    · rw [begin_two hx, Option.toList_none, List.nil_append] at h
      obtain ⟨y, rest, rfl, hy, rfl, htail⟩ := exists_last h (Nat.le_refl _)
      refine ⟨rest, ?_, htail⟩
      rw [utf8EncodeChar_two hx (by omega)]
      rfl
    · rw [begin_three hx, Option.toList_none, List.nil_append] at h
      obtain ⟨y, rest, rfl, hy, h⟩ := exists_next h (by split <;> omega)
      obtain ⟨z, rest, rfl, hz, rfl, htail⟩ := exists_last h (Nat.le_refl _)
      have hbounds : y < 0x40 ∧ (x = 0 → 0x20 ≤ y) ∧ (x = 0xD → y < 0x20) := by
        split at hy <;> split at hy <;> omega
      refine ⟨rest, ?_, htail⟩
      rw [utf8EncodeChar_three hx hbounds.1 (by omega) (by omega)
        (by unfold Nat.isValidChar; omega)]
      rfl
    · rw [begin_four hx, Option.toList_none, List.nil_append] at h
      obtain ⟨y, rest, rfl, hy, h⟩ := exists_next h (by split <;> omega)
      obtain ⟨z, rest, rfl, hz, h⟩ := exists_next h (Nat.le_refl _)
      obtain ⟨w, rest, rfl, hw, rfl, htail⟩ := exists_last h (Nat.le_refl _)
      have hbounds : y < 0x40 ∧ (x = 0 → 0x10 ≤ y) ∧ (x = 4 → y < 0x10) := by
        split at hy <;> split at hy <;> omega
      refine ⟨rest, ?_, htail⟩
      rw [utf8EncodeChar_four (by omega) hbounds.1 (by omega) (by omega) (by omega)
        (by unfold Nat.isValidChar; omega)]
      rfl
    · rw [hb] at h
      simp at h

theorem decode_eq_map_some_iff : decode bytes = cs.map some ↔ encode cs = bytes := by
  constructor
  · intro h
    induction cs generalizing bytes with
    | nil =>
      by_contra hne
      exact decode_ne_nil (fun hnil => hne hnil.symm) h
    | cons c cs ih =>
      obtain ⟨rest, rfl, hrest⟩ := exists_eq_utf8EncodeChar h
      rw [encode, List.flatMap_cons, ← encode, ih hrest]
  · rintro rfl
    induction cs with
    | nil => rfl
    | cons c cs ih =>
      rw [encode, List.flatMap_cons, decode, decodeFrom_utf8EncodeChar]
      exact congrArg _ ih

/-- Decoding is the inverse of encoding: what is decoded was encoded, and what was encoded is
    decoded. -/
theorem decode?_eq_some_iff : decode? bytes = some cs ↔ encode cs = bytes := by
  have hall : ∀ (found : List (Option Char)) (cs : List Char),
      found.mapM id = some cs ↔ found = cs.map some := by
    intro found
    induction found with
    | nil => simp [List.mapM_nil]
    | cons c found ih =>
      intro cs
      cases c with
      | none => cases cs <;> simp [List.mapM_cons]
      | some c => cases cs <;> simp [List.mapM_cons, Option.bind_eq_some_iff, ih, and_comm]
  rw [decode?, hall, decode_eq_map_some_iff]

/-! ### Line feeds -/

/-- What may be owed between two bytes of a sequence: no byte below the continuing ones may come
    next, and what comes out in the end is no character of one byte. -/
structure Owed.Sound (o : Owed) : Prop where
  /-- The next byte is a continuing one. -/
  low : 0x80 ≤ o.low
  /-- The least number that can come out is one of several bytes. -/
  value : 0x80 ≤ (o.value * 64 + (o.low - 0x80)) * 64 ^ o.more

theorem sound_of_begin (h : o ∈ (begin b).2) : o.Sound := by
  rcases lead_cases b with ⟨x, rfl, hx⟩ | ⟨x, rfl, hx⟩ | ⟨x, rfl, hx⟩ | ⟨x, rfl, hx⟩ | hb
  · rw [begin_one hx] at h
    cases h
  · rw [begin_two hx, Option.mem_some] at h
    subst h
    exact ⟨Nat.le_refl _, by dsimp only; omega⟩
  · rw [begin_three hx, Option.mem_some] at h
    subst h
    constructor <;> (dsimp only; split <;> omega)
  · rw [begin_four hx, Option.mem_some] at h
    subst h
    constructor <;> (dsimp only; split <;> omega)
  · rw [hb] at h
    cases h

/-- A byte that continues a sequence leaves what may be owed. -/
theorem Owed.Sound.next (h : o.Sound) (hb : o.low ≤ b.toNat) {more : Nat}
    (hmore : o.more = more + 1) :
    (⟨o.value * 64 + (b.toNat - 0x80), 0x80, 0xBF, more⟩ : Owed).Sound := by
  constructor
  · exact Nat.le_refl _
  · have hvalue := h.value
    rw [hmore, Nat.pow_succ', ← Nat.mul_assoc] at hvalue
    refine Nat.le_trans hvalue (Nat.mul_le_mul_right _ ?_)
    dsimp only
    omega

theorem ofNat_ne_lineFeed (h : x ≠ 10) : Char.ofNat x ≠ '\n' := by
  by_cases hvalid : x.isValidChar
  · have hnat := toNat_charOfNat hvalid
    intro heq
    rw [heq] at hnat
    exact h hnat.symm
  · rw [Char.ofNat, dif_neg hvalid]
    decide

/-- A line feed is decoded where it stands: it continues no sequence. -/
theorem decodeFrom_append_lineFeed (howed : ∀ o ∈ owed, o.Sound) (before after : List UInt8) :
    decodeFrom owed (before ++ 10 :: after) =
      decodeFrom owed before ++ some '\n' :: decodeFrom none after := by
  have hstart : ∀ rest, decodeFrom none (10 :: rest) = some '\n' :: decodeFrom none rest :=
    fun rest => rfl
  induction before generalizing owed with
  | nil =>
    cases owed with
    | none => exact hstart after
    | some o =>
      have hlow : ¬ (o.low ≤ (10 : UInt8).toNat ∧ (10 : UInt8).toNat ≤ o.high) := by
        have hsound := (howed o rfl).low
        have hbyte : (10 : UInt8).toNat = 10 := rfl
        omega
      rw [List.nil_append, decodeFrom_some_broken hlow, hstart]
      rfl
  | cons b before ih =>
    have hplain : decodeFrom none (b :: before ++ 10 :: after) =
        decodeFrom none (b :: before) ++ some '\n' :: decodeFrom none after := by
      rw [List.cons_append, decodeFrom_none_cons, decodeFrom_none_cons,
        ih fun o => sound_of_begin, List.append_assoc]
    cases owed with
    | none => exact hplain
    | some o =>
      by_cases hb : o.low ≤ b.toNat ∧ b.toNat ≤ o.high
      · cases hmore : o.more with
        | zero =>
          rw [List.cons_append, decodeFrom_some_last hb hmore, decodeFrom_some_last hb hmore,
            ih (by simp), List.cons_append]
        | succ more =>
          rw [List.cons_append, decodeFrom_some_next hb hmore, decodeFrom_some_next hb hmore]
          refine ih fun p hp => ?_
          rw [Option.mem_some] at hp
          subst hp
          exact (howed o rfl).next hb.1 hmore
      · rw [List.cons_append, decodeFrom_some_broken hb, decodeFrom_some_broken hb,
          ← List.cons_append, hplain, List.cons_append]

theorem decode_append_lineFeed (before after : List UInt8) :
    decode (before ++ 10 :: after) = decode before ++ some '\n' :: decode after :=
  decodeFrom_append_lineFeed (by simp) before after

/-- Nothing but the byte of the line feed is decoded to one. -/
theorem lineFeed_not_mem_decodeFrom (howed : ∀ o ∈ owed, o.Sound) (h : (10 : UInt8) ∉ bytes) :
    some '\n' ∉ decodeFrom owed bytes := by
  induction bytes generalizing owed with
  | nil => cases owed <;> simp [decodeFrom]
  | cons b bytes ih =>
    rw [List.mem_cons, not_or] at h
    have hplain : some '\n' ∉ decodeFrom none (b :: bytes) := by
      rw [decodeFrom_none_cons, List.mem_append, not_or]
      refine ⟨?_, ih (fun o => sound_of_begin) h.2⟩
      rcases lead_cases b with ⟨x, rfl, hx⟩ | ⟨x, rfl, hx⟩ | ⟨x, rfl, hx⟩ | ⟨x, rfl, hx⟩ | hb
      · have hother : x ≠ 10 := by
          rintro rfl
          exact h.1 rfl
        rw [begin_one hx]
        simpa using (ofNat_ne_lineFeed hother).symm
      · rw [begin_two hx]
        exact List.not_mem_nil
      · rw [begin_three hx]
        exact List.not_mem_nil
      · rw [begin_four hx]
        exact List.not_mem_nil
      · simp [hb]
    cases owed with
    | none => exact hplain
    | some o =>
      have hsound := howed o rfl
      by_cases hb : o.low ≤ b.toNat ∧ b.toNat ≤ o.high
      · cases hmore : o.more with
        | zero =>
          -- What comes out of several bytes is too large for a line feed.
          have hvalue := hsound.value
          rw [hmore, Nat.pow_zero, Nat.mul_one] at hvalue
          have hlarge : o.value * 64 + (b.toNat - 0x80) ≠ 10 := by omega
          rw [decodeFrom_some_last hb hmore, List.mem_cons, Option.some.injEq, not_or]
          exact ⟨(ofNat_ne_lineFeed hlarge).symm, ih (by simp) h.2⟩
        | succ more =>
          rw [decodeFrom_some_next hb hmore]
          refine ih (fun p hp => ?_) h.2
          rw [Option.mem_some] at hp
          subst hp
          exact hsound.next hb.1 hmore
      · rw [decodeFrom_some_broken hb]
        simpa using hplain

theorem lineFeed_not_mem_decode (h : (10 : UInt8) ∉ bytes) : some '\n' ∉ decode bytes :=
  lineFeed_not_mem_decodeFrom (by simp) h

theorem decodeLossy_append_lineFeed (before after : List UInt8) :
    decodeLossy (before ++ 10 :: after) = decodeLossy before ++ '\n' :: decodeLossy after := by
  rw [decodeLossy, decode_append_lineFeed, List.map_append]
  rfl

theorem lineFeed_not_mem_decodeLossy (h : (10 : UInt8) ∉ bytes) : '\n' ∉ decodeLossy bytes := by
  rw [decodeLossy, List.mem_map]
  rintro ⟨read, hread, heq⟩
  cases read with
  | none => exact absurd heq (by decide)
  | some c =>
    rw [Option.getD_some] at heq
    subst heq
    exact lineFeed_not_mem_decode h hread

/-- Only the line feed is written with the byte of the line feed. -/
theorem lineFeed_not_mem_encode (h : '\n' ∉ cs) : (10 : UInt8) ∉ encode cs := by
  intro hmem
  obtain ⟨before, after, hsplit⟩ := List.append_of_mem hmem
  have hdecode : decode (encode cs) = cs.map some := decode_eq_map_some_iff.2 rfl
  rw [hsplit, decode_append_lineFeed] at hdecode
  have hread : some '\n' ∈ cs.map some := by
    rw [← hdecode]
    exact List.mem_append_right _ List.mem_cons_self
  simp only [List.mem_map, Option.some.injEq, exists_eq_right] at hread
  exact h hread

end HostDaemon.Text.Utf8
