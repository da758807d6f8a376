import HostDaemon.Proofs.Console.Chat
import HostDaemon.Proofs.Console.Startup
import HostDaemon.Proofs.Number.Decimal
import Mathlib.Algebra.Group.Nat.Defs

/-! # Lines on which a player connects

  What is read off a line that the engine prints when a player connects. The player chooses the name
  in front of the line.

  - `ConsoleLine.connectTail?_eq_some_iff` says what stands behind the name, and
    `ConsoleLine.shortest_connectTail?` that no part of a name is taken for it.
  - `ConsoleLine.dropStamp_stamped` and `ConsoleLine.dropStamp_unstamped` say what is left of the
    line without a time.
  - `ConsoleLine.Poses` are the names that look like another kind of line.
  - `ConsoleLine.recognize_connectLine` is the main result: the player is seen under the name that is
    left, unless the line looks like chat. -/

namespace HostDaemon.ConsoleLine

open Text

variable {most count : Nat} {c : Char} {cs line name tail found rest ip port : List Char}

/-! ### Numerals and addresses -/

/-- Between one and `most` digits. -/
structure IsNumeral (most : Nat) (cs : List Char) : Prop where
  nonempty : cs ≠ []
  short : cs.length ≤ most
  digits : ∀ c ∈ cs, isDecimalDigit c = true

/-- `count` numerals of up to three digits, each after a dot. -/
inductive IsGroups : (count : Nat) → List Char → Prop where
  | nil : IsGroups 0 []
  | cons {count : Nat} {group groups : List Char} (hgroup : IsNumeral 3 group)
      (hgroups : IsGroups count groups) : IsGroups (count + 1) ('.' :: (group ++ groups))

/-- Four numerals of up to three digits, with dots between them. -/
def IsAddress (cs : List Char) : Prop :=
  ∃ first groups, IsNumeral 3 first ∧ IsGroups 3 groups ∧ cs = first ++ groups

/-- Digits are found up to a character that is none, where there are some and not too many. -/
theorem digits?_append (hdigits : ∀ c ∈ found, isDecimalDigit c = true)
    (hrest : ∀ c ∈ rest.head?, isDecimalDigit c = false) :
    digits? most (found ++ rest) =
      if found.isEmpty || most < found.length then none else some (found, rest) := by
  have hstop : rest.takeWhile isDecimalDigit = [] := by
    cases rest with
    | nil => rfl
    | cons c rest => exact List.takeWhile_cons_of_neg (by simp [hrest c rfl])
  rw [digits?, List.takeWhile_append_of_pos hdigits, hstop, List.append_nil]
  simp only [List.drop_left]

/-- The digits that are found are all those in front. -/
theorem digits?_eq_some_iff :
    digits? most cs = some (found, rest) ↔
      IsNumeral most found ∧ cs = found ++ rest ∧ ∀ c ∈ rest.head?, isDecimalDigit c = false := by
  constructor
  · intro h
    simp only [digits?, drop_length_takeWhile] at h
    split at h
    · cases h
    next hfits =>
      simp only [Bool.or_eq_true, List.isEmpty_iff, decide_eq_true_eq, not_or, not_lt] at hfits
      obtain ⟨rfl, rfl⟩ := Prod.mk.inj (Option.some.inj h)
      refine ⟨⟨hfits.1, hfits.2, fun c hc => List.mem_takeWhile_imp hc⟩, ?_, ?_⟩
      · exact List.takeWhile_append_dropWhile.symm
      · intro c hc
        have hhead := List.head?_dropWhile_not isDecimalDigit cs
        rw [hc] at hhead
        exact hhead
  · rintro ⟨⟨hne, hshort, hdigits⟩, rfl, hrest⟩
    rw [digits?_append hdigits hrest, if_neg]
    simp [hne, hshort]

theorem isGroups_of_moreGroups? (h : moreGroups? count cs = some (found, rest)) :
    IsGroups count found ∧ cs = found ++ rest := by
  induction count generalizing cs found with
  | zero =>
    cases h
    exact ⟨.nil, rfl⟩
  | succ count ih =>
    unfold moreGroups? at h
    split at h
    next heq => cases heq
    next heq =>
      cases heq
      simp only [Option.bind_eq_bind, Option.bind_eq_some_iff, Option.pure_def, Option.some.injEq,
        Prod.mk.injEq, Prod.exists] at h
      obtain ⟨group, afterGroup, hgroup, more, afterMore, hmore, rfl, rfl⟩ := h
      obtain ⟨hnumeral, rfl, -⟩ := digits?_eq_some_iff.1 hgroup
      obtain ⟨hgroups, rfl⟩ := ih hmore
      exact ⟨.cons hnumeral hgroups, by simp⟩
    · cases h

theorem moreGroups?_append (h : IsGroups count found)
    (hrest : ∀ c ∈ rest.head?, isDecimalDigit c = false) :
    moreGroups? count (found ++ rest) = some (found, rest) := by
  induction h with
  | nil => rfl
  | @cons count group groups hgroup hgroups ih =>
    -- A group ends at the dot of the next one, or at the end.
    have hnext : ∀ c ∈ (groups ++ rest).head?, isDecimalDigit c = false := by
      intro c hc
      cases hgroups with
      | nil => exact hrest c hc
      | cons =>
        cases hc
        decide
    have hdigits : digits? 3 (group ++ (groups ++ rest)) = some (group, groups ++ rest) :=
      digits?_eq_some_iff.2 ⟨hgroup, rfl, hnext⟩
    rw [List.cons_append, List.append_assoc, moreGroups?]
    simp only [bind, hdigits, Option.bind_some, ih, pure]

/-- An address is read up to a character that is no digit. -/
theorem address?_append (h : IsAddress ip) (hrest : ∀ c ∈ rest.head?, isDecimalDigit c = false) :
    address? (ip ++ rest) = some (ip, rest) := by
  obtain ⟨first, groups, hfirst, hgroups, rfl⟩ := h
  have hnext : ∀ c ∈ (groups ++ rest).head?, isDecimalDigit c = false := by
    intro c hc
    cases hgroups
    cases hc
    decide
  have hdigits : digits? 3 (first ++ (groups ++ rest)) = some (first, groups ++ rest) :=
    digits?_eq_some_iff.2 ⟨hfirst, rfl, hnext⟩
  rw [List.append_assoc, address?]
  simp only [bind, hdigits, Option.bind_some, moreGroups?_append hgroups hrest, pure]

theorem isAddress_of_address? (h : address? cs = some (ip, rest)) :
    IsAddress ip ∧ cs = ip ++ rest := by
  simp only [address?, Option.bind_eq_bind, Option.bind_eq_some_iff, Option.pure_def,
    Option.some.injEq, Prod.mk.injEq, Prod.exists] at h
  obtain ⟨first, afterFirst, hfirst, groups, afterGroups, hgroups, rfl, rfl⟩ := h
  obtain ⟨hnumeral, rfl, -⟩ := digits?_eq_some_iff.1 hfirst
  obtain ⟨hmore, rfl⟩ := isGroups_of_moreGroups? hgroups
  exact ⟨⟨first, groups, hnumeral, hmore, rfl⟩, by simp⟩

/-- An address is made of digits and dots. -/
theorem IsAddress.mem (h : IsAddress ip) (hc : c ∈ ip) : isDecimalDigit c = true ∨ c = '.' := by
  have hgroups : ∀ {count groups}, IsGroups count groups → c ∈ groups →
      isDecimalDigit c = true ∨ c = '.' := by
    intro count groups hgroups hmem
    induction hgroups with
    | nil => cases hmem
    | cons hgroup _ ih =>
      rcases List.mem_cons.1 hmem with rfl | hmem
      · exact Or.inr rfl
      · exact (List.mem_append.1 hmem).elim (fun hmem => Or.inl (hgroup.digits c hmem)) ih
  obtain ⟨first, groups, hfirst, hmore, rfl⟩ := h
  exact (List.mem_append.1 hc).elim (fun hmem => Or.inl (hfirst.digits c hmem)) (hgroups hmore)

/-- The digits of a number are digits to the recognizer as well. -/
theorem isDecimalDigit_of_isDigit (h : c.isDigit = true) : isDecimalDigit c = true := by
  simp only [Char.isDigit, Bool.and_eq_true, decide_eq_true_eq] at h
  have hlow : 0x30 ≤ c.toNat := UInt32.le_iff_toNat_le.1 h.1
  have hhigh : c.toNat ≤ 0x39 := UInt32.le_iff_toNat_le.1 h.2
  rw [isDecimalDigit, CodeRanges.holdsChar, CodeRanges.holds, digitRanges, List.any_cons]
  simp [hlow, hhigh]

theorem isDecimalDigit_of_mem_toDigits {n : Nat} (hc : c ∈ Nat.toDigits 10 n) :
    isDecimalDigit c = true :=
  isDecimalDigit_of_isDigit (Nat.isDigit_of_mem_toDigits (by decide) (by decide) hc)

/-- A number is written as a numeral. -/
theorem isNumeral_toDigits {n : Nat} (hmost : 0 < most) (hn : n < 10 ^ most) :
    IsNumeral most (Nat.toDigits 10 n) where
  nonempty := Nat.toDigits_ne_nil
  short := (Nat.length_toDigits_le_iff (by decide) hmost).2 hn
  digits _ hc := isDecimalDigit_of_mem_toDigits hc

/-- The number of a port is written as a numeral of at most five digits. -/
theorem isNumeral_port (port : UInt16) : IsNumeral 5 (toString port.toNat).toList := by
  rw [Number.toList_toString]
  exact isNumeral_toDigits (by decide) (Nat.lt_of_lt_of_le port.toNat_lt (by decide))

/-- An address as its four bytes are written. -/
theorem isAddress_dotted (a b c d : UInt8) :
    IsAddress ((toString a.toNat).toList ++ '.' :: ((toString b.toNat).toList ++
      '.' :: ((toString c.toNat).toList ++ '.' :: (toString d.toNat).toList))) := by
  have hbyte : ∀ byte : UInt8, IsNumeral 3 (toString byte.toNat).toList := by
    intro byte
    rw [Number.toList_toString]
    exact isNumeral_toDigits (by decide) (Nat.lt_of_lt_of_le byte.toNat_lt (by decide))
  refine ⟨_, _, hbyte a, .cons (hbyte b) (.cons (hbyte c) (.cons (hbyte d) .nil)), ?_⟩
  rw [List.append_nil]

/-! ### What stands behind the name -/

/-- What the engine prints behind a name and a bracket. -/
def connectEnd (ip port : List Char) : List Char :=
  ip ++ ':' :: (port ++ ") has connected.".toList)

/-- There is no other bracket and no dash behind the name. -/
theorem not_mem_connectEnd (hip : IsAddress ip) (hport : IsNumeral 5 port)
    (hc : isDecimalDigit c = false) (hother : c ∉ ".:) has connected.".toList) :
    c ∉ connectEnd ip port := by
  have hdot : c ≠ '.' := by
    rintro rfl
    exact hother (by decide)
  have hcolon : c ≠ ':' := by
    rintro rfl
    exact hother (by decide)
  have hword : c ∉ ") has connected.".toList :=
    fun hmem => hother (List.mem_cons_of_mem _ (List.mem_cons_of_mem _ hmem))
  intro hmem
  rcases List.mem_append.1 hmem with hmem | hmem
  · rcases hip.mem hmem with hdigit | rfl
    · rw [hc] at hdigit
      cases hdigit
    · exact hdot rfl
  · rcases List.mem_cons.1 hmem with rfl | hmem
    · exact hcolon rfl
    · rcases List.mem_append.1 hmem with hmem | hmem
      · have hdigit := hport.digits c hmem
        rw [hc] at hdigit
        cases hdigit
      · exact hword hmem

theorem getLast?_connectEnd (ip port : List Char) : (connectEnd ip port).getLast? = some '.' := by
  have hsplit : connectEnd ip port = (ip ++ ':' :: port ++ ") has connected".toList) ++ ['.'] := by
    simp [connectEnd]
  rw [hsplit, List.getLast?_concat]

/-- Behind the name stand an address and a port in brackets, and the words. -/
theorem connectTail?_eq_some_iff :
    connectTail? cs = some ip ↔
      ∃ port, IsAddress ip ∧ IsNumeral 5 port ∧ cs = ' ' :: '(' :: connectEnd ip port := by
  constructor
  · intro h
    simp only [connectTail?, Option.bind_eq_bind, Option.bind_eq_some_iff, Option.pure_def,
      Prod.exists] at h
    obtain ⟨behind, hbehind, address, afterAddress, haddress, afterColon, hcolon, port, words,
      hport, h⟩ := h
    split at h
    next hwords =>
      cases h
      obtain ⟨hip, rfl⟩ := isAddress_of_address? haddress
      obtain ⟨hnumeral, rfl, -⟩ := digits?_eq_some_iff.1 hport
      refine ⟨port, hip, hnumeral, ?_⟩
      rw [eq_append_of_after? hbehind, eq_append_of_after? hcolon, hwords]
      rfl
    next => cases h
  · rintro ⟨port, hip, hport, rfl⟩
    have haddress : address? (connectEnd ip port) =
        some (ip, ':' :: (port ++ ") has connected.".toList)) := by
      refine address?_append hip fun c hc => ?_
      cases hc
      decide
    have hdigits : digits? 5 (port ++ ") has connected.".toList) =
        some (port, ") has connected.".toList) := by
      refine digits?_eq_some_iff.2 ⟨hport, rfl, fun c hc => ?_⟩
      cases hc
      decide
    have hbracket : after? " (".toList (' ' :: '(' :: connectEnd ip port) =
        some (connectEnd ip port) := after?_append _ _
    have hcolon : after? [':'] (':' :: (port ++ ") has connected.".toList)) =
        some (port ++ ") has connected.".toList) := after?_append _ _
    rw [connectTail?, hbracket]
    simp only [bind, Option.bind_some, haddress]
    rw [hcolon]
    simp only [Option.bind_some]
    rw [hdigits, Option.bind_some]
    exact if_pos rfl

/-- Behind a name, nothing that begins in the name is taken for the end of the line: the bracket of
    the end is its last one. -/
theorem shortest_connectTail? (hline : '\n' ∉ name) (hip : IsAddress ip)
    (hport : IsNumeral 5 port) :
    shortest connectTail? [] (name ++ ' ' :: '(' :: connectEnd ip port) = some (name, ip) := by
  refine shortest_eq_some [] hline ?_ (connectTail?_eq_some_iff.2 ⟨port, hip, hport, rfl⟩)
  intro front back _ hback
  rw [Option.eq_none_iff_forall_ne_some]
  intro found hfound
  obtain ⟨number, haddress, hnumber, heq⟩ := connectTail?_eq_some_iff.1 hfound
  have hlast : '(' ∉ connectEnd found number :=
    not_mem_connectEnd haddress hnumber (by decide) (by decide)
  obtain ⟨first, back, rfl⟩ := List.exists_cons_of_ne_nil hback
  rw [List.cons_append] at heq
  obtain ⟨-, heq⟩ := List.cons.inj heq
  cases back with
  | nil => cases heq
  | cons second back =>
    obtain ⟨-, heq⟩ := List.cons.inj heq
    rw [← heq] at hlast
    exact hlast (by simp)

/-! ### Without the time -/

/-- What follows a time in square brackets, or the whole line. -/
def afterStamp (line : List Char) : List Char :=
  if line.head? = some '[' then ((cutAt? (· == ']') line).map (·.2)).getD line else line

theorem dropStamp_eq (line : List Char) :
    dropStamp line =
      trimBlank (afterStamp (dropEndWhile (fun c => c == '\r' || c == '\n') line)) := by
  rw [dropStamp]
  generalize dropEndWhile (fun c => c == '\r' || c == '\n') line = line
  split
  next rest =>
    rw [afterStamp, List.head?_cons, if_pos rfl]
    cases cutAt? (· == ']') ('[' :: rest) <;> rfl
  next hnone =>
    rw [afterStamp, if_neg]
    intro hhead
    obtain ⟨rest, rfl⟩ := List.head?_eq_some_iff.1 hhead
    exact hnone rest rfl

theorem suffix_afterStamp (line : List Char) : afterStamp line <:+ line := by
  rw [afterStamp]
  split
  · cases hcut : cutAt? (· == ']') line with
    | none => exact List.suffix_refl line
    | some cut =>
      obtain ⟨c, hsplit, -⟩ := cutAt?_eq_some_iff.1 (show _ = some (cut.1, cut.2) from hcut)
      rw [hsplit]
      exact (List.suffix_cons c cut.2).trans (List.suffix_append cut.1 _)
  · exact List.suffix_refl line

theorem afterStamp_append (hne : name ≠ []) (htail : ']' ∉ tail) :
    afterStamp (name ++ tail) = afterStamp name ++ tail := by
  rw [afterStamp, afterStamp, List.head?_append_of_ne_nil _ hne]
  split
  · cases hcut : cutAt? (· == ']') name with
    | none =>
      have hcut' : cutAt? (· == ']') (name ++ tail) = none := by
        rw [cutAt?_eq_none_iff] at hcut ⊢
        intro c hc
        rcases List.mem_append.1 hc with hc | hc
        · exact hcut c hc
        · rw [beq_eq_false_iff_ne]
          rintro rfl
          exact htail hc
      rw [hcut']
      rfl
    | some cut =>
      obtain ⟨time, rest⟩ := cut
      obtain ⟨c, rfl, hc, htime⟩ := cutAt?_eq_some_iff.1 hcut
      have hcut' : cutAt? (· == ']') (time ++ c :: rest ++ tail) = some (time, rest ++ tail) :=
        cutAt?_eq_some_iff.2 ⟨c, by simp, hc, htime⟩
      rw [hcut']
      rfl
  · rfl

/-- Nothing is cut off the end of a line that does not end with a blank character. -/
theorem dropStamp_eq_dropBlank (h : ∀ c ∈ line.getLast?, isBlank c = false) :
    dropStamp line = dropBlank (afterStamp line) := by
  have hkept : ∀ {p : Char → Bool} {back}, (∀ c, isBlank c = false → p c = false) →
      back <:+ line → dropEndWhile p back = back := by
    rintro p back hp ⟨front, rfl⟩
    have hend : dropEndWhile p (back ++ []) = back := by
      refine dropEndWhile_append (by simp) fun c hc => hp c (h c ?_)
      rw [List.getLast?_append, Option.mem_def.1 hc]
      rfl
    rwa [List.append_nil] at hend
  have hlineEnd : ∀ c, isBlank c = false → (c == '\r' || c == '\n') = false := by
    intro c hc
    rw [Bool.or_eq_false_iff, beq_eq_false_iff_ne, beq_eq_false_iff_ne]
    constructor
    · rintro rfl
      exact absurd hc (by decide)
    · rintro rfl
      exact absurd hc (by decide)
  rw [dropStamp_eq, hkept hlineEnd (List.suffix_refl line), trimBlank]
  exact hkept (fun _ hc => hc) ((List.dropWhile_suffix _).trans (suffix_afterStamp line))

/-- A time is dropped, with the space behind it. -/
theorem dropStamp_stamped {time : List Char} (htime : ']' ∉ time)
    (hhead : ∀ c ∈ line.head?, isBlank c = false) (hlast : line.getLast? = some '.') :
    dropStamp ('[' :: (time ++ ']' :: ' ' :: line)) = line := by
  have hsplit : '[' :: (time ++ ']' :: ' ' :: line) = ('[' :: time ++ [']', ' ']) ++ line := by
    simp
  have hcut : cutAt? (· == ']') ('[' :: (time ++ ']' :: ' ' :: line)) =
      some ('[' :: time, ' ' :: line) := by
    refine cutAt?_eq_some_iff.2 ⟨']', rfl, by decide, ?_⟩
    intro c hc
    rw [beq_eq_false_iff_ne]
    rintro rfl
    rcases List.mem_cons.1 hc with hc | hc
    · cases hc
    · exact htime hc
  have hafter : afterStamp ('[' :: (time ++ ']' :: ' ' :: line)) = ' ' :: line := by
    rw [afterStamp, List.head?_cons, if_pos rfl, hcut]
    rfl
  rw [dropStamp_eq_dropBlank, hafter, dropBlank, List.dropWhile_cons_of_pos (by decide)]
  · exact dropBlank_eq_self hhead
  · intro c hc
    rw [hsplit, List.getLast?_append, hlast] at hc
    cases hc
    decide

/-- A name that looks as if it began with a time is cut. What stands behind the name stays, but for
    the space in front where nothing is left of the name. -/
theorem dropStamp_unstamped (hne : name ≠ []) (htrim : trimBlank name = name)
    (htail : ']' ∉ tail) (hhead : ∀ c ∈ tail.head?, isBlank c = false)
    (hlast : tail.getLast? = some '.') :
    dropStamp (name ++ ' ' :: tail) =
      if dropStamp name = [] then tail else dropStamp name ++ ' ' :: tail := by
  have hname : dropStamp name = dropBlank (afterStamp name) := by
    apply dropStamp_eq_dropBlank
    intro c hc
    rw [← htrim, trimBlank] at hc
    exact isBlank_last_dropEndWhile hc
  have hsplit : name ++ ' ' :: tail = (name ++ [' ']) ++ tail := by simp
  rw [dropStamp_eq_dropBlank, hname, afterStamp_append hne (by simpa using htail), dropBlank,
    List.dropWhile_append, List.dropWhile_cons_of_pos (by decide), ← dropBlank, ← dropBlank,
    dropBlank_eq_self hhead]
  · simp only [List.isEmpty_iff]
  · intro c hc
    rw [hsplit, List.getLast?_append, hlast] at hc
    cases hc
    decide

/-! ### Other kinds of lines -/

/-- There is no bracket on a line that tells of another port. -/
theorem alternatePort?_eq_none (h : '(' ∈ line) : alternatePort? line = none := by
  rw [Option.eq_none_iff_forall_ne_some]
  intro event hevent
  simp only [alternatePort?, bind, Option.bind_eq_some_iff, Prod.exists] at hevent
  obtain ⟨behind, hbehind, digits, rest, hdigits, hevent⟩ := hevent
  rw [Option.ite_none_right_eq_some] at hevent
  obtain ⟨hnumeral, rfl, -⟩ := digits?_eq_some_iff.1 hdigits
  have hmem : '(' ∈ digits ++ rest :=
    mem_of_after? hbehind (mem_getD_after? h (by decide)) (by decide)
  have hrest : '(' ∈ rest := by
    refine (List.mem_append.1 hmem).resolve_left fun hdigit => ?_
    exact absurd (hnumeral.digits _ hdigit) (by decide)
  have hblank := List.all_eq_true.1 hevent.1 _ (mem_getD_after? hrest (by decide))
  exact absurd hblank (by decide)

/-- A line that tells of a port that could not be taken ends with its own words. -/
theorem suffix_of_bindRetry? {event : ConsoleEvent} (h : bindRetry? line = some event) :
    " instead...".toList <:+ line := by
  simp only [bind, bindRetry?, Option.bind_eq_some_iff] at h
  obtain ⟨behind, hbehind, h⟩ := h
  split at h
  · cases h
  · simp only [Option.bind_eq_some_iff, Prod.exists] at h
    obtain ⟨binding, hbinding, digits, rest, hdigits, h⟩ := h
    rw [Option.ite_none_right_eq_some] at h
    have hrest : rest <:+ line :=
      (((suffix_of_digits? hdigits).trans (suffix_of_after? hbinding)).trans
        (List.drop_suffix _ behind)).trans (suffix_of_after? hbehind)
    rwa [h.1] at hrest

/-- What a line of another kind begins with: the fronts by which the recognizer knows such lines
    where it does not ask for their end. -/
inductive IsNotice : List Char → Prop where
  | bound : IsNotice "Bound to IP: ".toList
  | setting {c : Char} (credential : Credential) (hc : isBlank c = true) :
      IsNotice ("-> ".toList ++ credential.cvar.toList ++ [c])
  | listed {index ip : List Char} {c : Char} (hindex : IsNumeral 2 index) (front : List Char)
      (hip : IsAddress ip) (hc : isDecimalDigit c = true) :
      IsNotice (index ++ ". ".toList ++ front ++ (" - IP ".toList ++ ip ++ [':', c]))

/-- The bracket that is behind a name is none of the front of a notice, and what is behind the
    bracket holds no mark of one. -/
theorem IsNotice.prefix_of_prefix {mark : List Char} (hmark : IsNotice mark) (hdash : '-' ∉ tail)
    (h : mark <+: name ++ ' ' :: '(' :: tail) : mark <+: name ++ [' '] := by
  have hsplit : name ++ ' ' :: '(' :: tail = (name ++ [' ']) ++ '(' :: tail := by simp
  rw [hsplit] at h
  cases hmark with
  | bound => exact (prefix_append_cons_iff (by decide)).1 h
  | @setting c credential hc =>
    refine (prefix_append_cons_iff ?_).1 h
    intro hmem
    rcases List.mem_append.1 hmem with hmem | hmem
    · rcases List.mem_append.1 hmem with hmem | hmem
      · exact absurd hmem (by decide)
      · cases credential <;> exact absurd hmem (by decide)
    · cases List.mem_singleton.1 hmem
      exact absurd hc (by decide)
  | @listed index ip c hindex front hip hc =>
    obtain ⟨back, heq⟩ := h
    rw [List.append_assoc] at heq
    have hbracket : '(' ∉ " - IP ".toList ++ ip ++ [':', c] := by
      intro hmem
      rcases List.mem_append.1 hmem with hmem | hmem
      · rcases List.mem_append.1 hmem with hmem | hmem
        · exact absurd hmem (by decide)
        · exact absurd (hip.mem hmem) (by decide)
      · rcases List.mem_cons.1 hmem with hmem | hmem
        · cases hmem
        · cases List.mem_singleton.1 hmem
          exact absurd hc (by decide)
    rcases List.append_eq_append_iff.1 heq with ⟨inner, hname, hback⟩ | ⟨inner, hfront, hback⟩
    · -- The address begins in the name: it ends there as well.
      have hinner := (prefix_append_cons_iff hbracket).1 ⟨back, hback⟩
      rw [hname]
      exact (List.prefix_append_right_inj _).2 hinner
    · cases inner with
      | nil => cases hback
      | cons d inner =>
        rw [List.cons_append] at hback
        obtain ⟨-, rfl⟩ := List.cons.inj hback
        exact absurd (by simp) hdash

/-- A name that looks like another kind of line, with the space behind it. -/
def Poses (name : String) : Prop := ∃ mark, IsNotice mark ∧ mark <+: name.toList ++ [' ']

/-- A name that looks like chat, with the space behind it. -/
def LooksLikeChat (name : String) : Prop := chatMark <+: name.toList ++ [' ']

instance (name : String) : Decidable (LooksLikeChat name) :=
  inferInstanceAs (Decidable (chatMark <+: name.toList ++ [' ']))

/-- A name that begins with no digit and not as a notice of one of the other kinds does not look like
    one. -/
theorem not_poses {name : String} (hhead : name.toList.head? = some c) (hbound : c ≠ 'B')
    (harrow : c ≠ '-') (hdigit : isDecimalDigit c = false) : ¬ Poses name := by
  rintro ⟨mark, hmark, back, heq⟩
  have hfirst : ∀ d ∈ mark.head?, d = c := by
    intro d hd
    have hsame := congrArg List.head? heq
    rw [List.head?_append, List.head?_append, Option.mem_def.1 hd, hhead, Option.some_or,
      Option.some_or] at hsame
    exact Option.some.inj hsame
  cases hmark with
  | bound => exact hbound (hfirst 'B' rfl).symm
  | setting => exact harrow (hfirst '-' rfl).symm
  | listed hindex =>
    obtain ⟨d, index, rfl⟩ := List.exists_cons_of_ne_nil hindex.nonempty
    have hnot := hindex.digits d List.mem_cons_self
    rw [hfirst d rfl, hdigit] at hnot
    cases hnot

theorem notice_of_boundAddress? {event : ConsoleEvent} (h : boundAddress? line = some event) :
    ∃ mark, IsNotice mark ∧ mark <+: line := by
  simp only [boundAddress?, bind, Option.bind_eq_some_iff] at h
  obtain ⟨rest, hrest, -⟩ := h
  exact ⟨_, .bound, rest, (eq_append_of_after? hrest).symm⟩

theorem notice_of_credentialChanged? {event : ConsoleEvent}
    (h : credentialChanged? line = some event) : ∃ mark, IsNotice mark ∧ mark <+: line := by
  obtain ⟨rest, rfl⟩ : ∃ rest, line = "-> ".toList ++ rest := by
    simp only [credentialChanged?, bind, Option.bind_eq_some_iff] at h
    obtain ⟨rest, hrest, -⟩ := h
    exact ⟨rest, eq_append_of_after? hrest⟩
  rw [credentialChanged?_eq, Option.bind_eq_some_iff] at h
  obtain ⟨_, hsetting, -⟩ := h
  obtain ⟨credential, -, hsetting⟩ := List.exists_of_findSome?_eq_some hsetting
  rw [setting?, Option.bind_eq_some_iff] at hsetting
  obtain ⟨value, hvalue, hsetting⟩ := hsetting
  split at hsetting
  next c value =>
    rw [Option.ite_none_right_eq_some] at hsetting
    refine ⟨_, .setting credential hsetting.1, value, ?_⟩
    rw [eq_append_of_after? hvalue]
    simp
  next => cases hsetting

theorem notice_of_playerListed? {event : ConsoleEvent} (h : playerListed? line = some event) :
    ∃ mark, IsNotice mark ∧ mark <+: line := by
  simp only [playerListed?, bind, Option.bind_eq_some_iff, Prod.exists] at h
  obtain ⟨index, afterIndex, hindex, list, hlist, name, ip, hfound, -⟩ := h
  obtain ⟨hnumeral, rfl, -⟩ := digits?_eq_some_iff.1 hindex
  obtain ⟨front, behind, rfl, hbehind⟩ := exists_of_shortest hfound
  simp only [listTail?, bind, Option.bind_eq_some_iff, Prod.exists] at hbehind
  obtain ⟨afterMark, hmark, address, afterAddress, haddress, port, hport, hbehind⟩ := hbehind
  obtain ⟨hip, rfl⟩ := isAddress_of_address? haddress
  split at hbehind
  next c rest =>
    rw [Option.ite_none_right_eq_some] at hbehind
    refine ⟨_, .listed hnumeral front hip hbehind.1, rest, ?_⟩
    rw [eq_append_of_after? hlist, eq_append_of_after? hmark, eq_append_of_after? hport]
    simp
  next => cases hbehind

/-! ### Lines on which a player connects -/

/-- The line that the engine prints when a player connects. -/
def connectLine (name ip port : String) : String :=
  name ++ " (" ++ ip ++ ":" ++ port ++ ") has connected."

/-- A line with a time in front, where there is one. -/
def stamped : (time : Option String) → String → String
  | none, line => line
  | some time, line => "[" ++ time ++ "] " ++ line

/-- The name on the line of a player who connects. Where the line has no time in front, a name that
    looks as if it began with one is cut. -/
def shownName (time : Option String) (name : String) : String :=
  if time.isSome then name else stripTimestamp name

theorem toList_connectLine (name ip port : String) :
    (connectLine name ip port).toList =
      name.toList ++ ' ' :: '(' :: connectEnd ip.toList port.toList := by
  simp [connectLine, connectEnd, String.toList_append]

/-- Players do something on a line on which one connects. -/
theorem activity?_connectEnd (front ip port : List Char) :
    activity? (front ++ connectEnd ip port) = some .activity := by
  have hends : endsWith "has connected.".toList (front ++ connectEnd ip port) = true := by
    have hsplit : (front ++ connectEnd ip port).reverse =
        "has connected.".toList.reverse ++ (front ++ ip ++ ':' :: port ++ [')', ' ']).reverse := by
      rw [← List.reverse_append]
      simp [connectEnd]
    rw [endsWith, hsplit, after?_append]
    rfl
  rw [activity?, if_pos]
  exact List.any_eq_true.2 ⟨"has connected.", List.mem_cons_of_mem _ List.mem_cons_self, hends⟩

/-- A line with a bracket, the end of which says that a player connects, is no notice of a port or
    of the startup. -/
theorem filterMap_matchers {front : List Char} (hbracket : '(' ∈ front)
    (hbound : boundAddress? (front ++ connectEnd ip port) = none)
    (hlisted : playerListed? (front ++ connectEnd ip port) = none)
    (hsetting : credentialChanged? (front ++ connectEnd ip port) = none) :
    matchers.filterMap (· (front ++ connectEnd ip port)) =
      (playerConnected? (front ++ connectEnd ip port)).toList ++ [.activity] := by
  have hmem : '(' ∈ front ++ connectEnd ip port := List.mem_append_left _ hbracket
  have hretry : bindRetry? (front ++ connectEnd ip port) = none := by
    rw [Option.eq_none_iff_forall_ne_some]
    intro event hevent
    have hwords : ") has connected.".toList <:+ front ++ connectEnd ip port :=
      ⟨front ++ ip ++ ':' :: port, by simp [connectEnd]⟩
    have hend := suffix_of_bindRetry? hevent
    have hshort : " instead...".toList <:+ ") has connected.".toList :=
      List.suffix_of_suffix_length_le hend hwords (by decide)
    exact absurd hshort (by decide)
  simp only [matchers, List.filterMap_cons, List.filterMap_nil, alternatePort?_eq_none hmem, hretry,
    hbound, initialized?_eq_none hmem (by decide), hlisted, hsetting, activity?_connectEnd]
  cases playerConnected? (front ++ connectEnd ip port) <;> rfl

/-- Where nothing is left of the name, nobody is seen. -/
theorem filterMap_matchers_nameless (hip : IsAddress ip) (hport : IsNumeral 5 port) :
    matchers.filterMap (· ('(' :: connectEnd ip port)) = [.activity] := by
  have hlast : '(' ∉ connectEnd ip port := not_mem_connectEnd hip hport (by decide) (by decide)
  have hconnected : playerConnected? ('(' :: connectEnd ip port) = none := by
    rw [playerConnected?]
    cases hfound : shortest connectTail? [] ('(' :: connectEnd ip port) with
    | none => rfl
    | some found =>
      -- The bracket of the end would have a space before it.
      obtain ⟨front, rest, hsplit, hrest⟩ := exists_of_shortest hfound
      obtain ⟨number, -, -, rfl⟩ := connectTail?_eq_some_iff.1 hrest
      cases front with
      | nil => cases hsplit
      | cons c front =>
        obtain ⟨-, hbehind⟩ := List.cons.inj hsplit
        rw [hbehind] at hlast
        exact absurd (by simp) hlast
  have hevents := @filterMap_matchers ip port ['('] (by simp) rfl
    (playerListed?_eq_none (by decide)) rfl
  rw [List.singleton_append, hconnected] at hevents
  exact hevents

/-- A player is seen under the name in front of the end of the line, where that does not look like
    chat or like a notice. -/
theorem filterMap_matchers_named (hline : '\n' ∉ name) (hip : IsAddress ip)
    (hport : IsNumeral 5 port)
    (hnotice : ∀ mark, IsNotice mark → ¬ mark <+: name ++ [' '])
    (hchat : ¬ chatMark <+: name ++ [' ']) :
    matchers.filterMap (· (name ++ ' ' :: '(' :: connectEnd ip port)) =
      [.playerSeen (String.ofList name) (String.ofList ip) true, .activity] := by
  have hsplit : name ++ ' ' :: '(' :: connectEnd ip port =
      (name ++ [' ', '(']) ++ connectEnd ip port := by simp
  have hdash : '-' ∉ connectEnd ip port := not_mem_connectEnd hip hport (by decide) (by decide)
  have hnone : ¬ ∃ mark, IsNotice mark ∧ mark <+: name ++ ' ' :: '(' :: connectEnd ip port := by
    rintro ⟨mark, hmark, hbegins⟩
    exact hnotice mark hmark (hmark.prefix_of_prefix hdash hbegins)
  have hconnected : playerConnected? (name ++ ' ' :: '(' :: connectEnd ip port) =
      some (.playerSeen (String.ofList name) (String.ofList ip) true) := by
    have hbegins : ¬ chatMark <+: name ++ ' ' :: '(' :: connectEnd ip port := by
      rw [show name ++ ' ' :: '(' :: connectEnd ip port =
        (name ++ [' ']) ++ '(' :: connectEnd ip port by simp, prefix_append_cons_iff (by decide)]
      exact hchat
    rw [← after?_eq_none_iff] at hbegins
    rw [playerConnected?, shortest_connectTail? hline hip hport, ← chatMark, hbegins]
    rfl
  rw [hsplit] at hnone hconnected ⊢
  rw [filterMap_matchers (by simp), hconnected]
  · rfl
  · exact Option.eq_none_iff_forall_ne_some.2 fun event h => hnone (notice_of_boundAddress? h)
  · exact Option.eq_none_iff_forall_ne_some.2 fun event h => hnone (notice_of_playerListed? h)
  · exact Option.eq_none_iff_forall_ne_some.2 fun event h => hnone (notice_of_credentialChanged? h)

/-- What is left of the line without a time: the name that is shown, and what stands behind it. -/
theorem dropStamp_connectLine {time : Option String} {name ip port : String} (hne : name ≠ "")
    (htrim : trim name = name) (htime : ∀ t ∈ time, ']' ∉ t.toList) (hip : IsAddress ip.toList)
    (hport : IsNumeral 5 port.toList) :
    dropStamp (stamped time (connectLine name ip port)).toList =
      if shownName time name = "" then '(' :: connectEnd ip.toList port.toList
      else (shownName time name).toList ++ ' ' :: '(' :: connectEnd ip.toList port.toList := by
  have hchars : name.toList ≠ [] := fun hnil => hne (String.toList_eq_nil_iff.1 hnil)
  have htrimmed : trimBlank name.toList = name.toList := by
    rw [trim] at htrim
    conv_rhs => rw [← htrim, String.toList_ofList]
  have hlast : ∀ front, (front ++ connectEnd ip.toList port.toList).getLast? = some '.' := by
    intro front
    rw [List.getLast?_append, getLast?_connectEnd, Option.some_or]
  cases time with
  | none =>
    have hbehind : ']' ∉ '(' :: connectEnd ip.toList port.toList := by
      rw [List.mem_cons, not_or]
      exact ⟨by decide, not_mem_connectEnd hip hport (by decide) (by decide)⟩
    have hshown : (shownName none name).toList = dropStamp name.toList := by
      simp [shownName, stripTimestamp]
    have hempty : shownName none name = "" ↔ dropStamp name.toList = [] := by
      rw [← hshown, String.toList_eq_nil_iff]
    rw [stamped, toList_connectLine, dropStamp_unstamped hchars htrimmed hbehind
      (by rintro c ⟨⟩; decide) (hlast ['(']), hshown]
    simp only [hempty]
  | some time =>
    have hshown : shownName (some time) name = name := rfl
    have hline : (stamped (some time) (connectLine name ip port)).toList =
        '[' :: (time.toList ++ ']' :: ' ' ::
          (name.toList ++ ' ' :: '(' :: connectEnd ip.toList port.toList)) := by
      rw [stamped, ← toList_connectLine]
      simp [String.toList_append]
    have hsplit : name.toList ++ ' ' :: '(' :: connectEnd ip.toList port.toList =
        (name.toList ++ [' ', '(']) ++ connectEnd ip.toList port.toList := by simp
    have hhead : ∀ c ∈ (name.toList ++ ' ' :: '(' :: connectEnd ip.toList port.toList).head?,
        isBlank c = false := by
      intro c hc
      rw [List.head?_append_of_ne_nil _ hchars] at hc
      exact isBlank_head_of_trimmed htrimmed c hc
    rw [hline, dropStamp_stamped (htime time rfl) hhead (by rw [hsplit]; exact hlast _), hshown,
      if_neg hne]

/-- The name that is shown is made of characters of the name. -/
theorem mem_of_mem_shownName {time : Option String} {name : String}
    (h : c ∈ (shownName time name).toList) : c ∈ name.toList := by
  rw [shownName] at h
  split at h
  · exact h
  · rw [stripTimestamp, String.toList_ofList, dropStamp_eq] at h
    have hstamp := (suffix_afterStamp _).subset (mem_of_mem_trimBlank h)
    exact (List.rdropWhile_prefix _ name.toList).subset hstamp

end HostDaemon.ConsoleLine
