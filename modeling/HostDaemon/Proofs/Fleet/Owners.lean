import HostDaemon.Fleet.Control
import HostDaemon.Proofs.Fleet.Quota
import HostDaemon.Proofs.Launch.CommandLine

/-! # Who is the same account

  The name of an account decides in several places whom it stands for: whose servers may be acted on
  and are counted, which level and which quota the policy gives, and which files hold the bans, the
  administrators and the exemptions. The places do not decide alike.

  - `SameOwner` says that two names are one account to a fleet. This is so where the names differ in
    the case of the letters A to Z alone (`sameOwner_iff`).
  - `Store.Alike` says that a policy cannot tell two names apart. It takes them as they are written
    (`alike_iff`).
  - `ownerFile_eq_iff` says which names share their files: those that are the same without slashes,
    backslashes and blanks at the ends. Names of one account are never that, unless they are the same
    (`eq_of_cleanFileName_eq`).
  - `account_of_name` puts them together. On plain names, without capital letters and without what a
    file name loses, all of them agree. -/

namespace HostDaemon

variable {a b : String}

/-! ### Lists of which a part is lost -/

section Lost

variable {α : Type} {f : α → α} {p : α → Bool}

/-- Two lists are the same where `f` maps them to one list and they keep the same elements, as far as
    `f` leaves alone what is lost. -/
theorem eq_of_filter_eq (hkind : ∀ x, p (f x) = p x) (hlost : ∀ x, p x = false → f x = x) :
    ∀ {xs ys : List α}, xs.map f = ys.map f → xs.filter p = ys.filter p → xs = ys
  | [], [], _, _ => rfl
  | [], y :: ys, hmap, _ => by cases hmap
  | x :: xs, [], hmap, _ => by cases hmap
  | x :: xs, y :: ys, hmap, hkept => by
    rw [List.map_cons, List.map_cons, List.cons.injEq] at hmap
    obtain ⟨hfirst, hmore⟩ := hmap
    have hsame : p x = p y := by rw [← hkind x, hfirst, hkind]
    rw [List.filter_cons, List.filter_cons, ← hsame] at hkept
    cases hx : p x with
    | false =>
      have hy : p y = false := hsame.symm.trans hx
      rw [hx] at hkept
      rw [← hlost x hx, hfirst, hlost y hy, eq_of_filter_eq hkind hlost hmore hkept]
    | true =>
      rw [hx, if_pos rfl, if_pos rfl, List.cons.injEq] at hkept
      rw [hkept.1, eq_of_filter_eq hkind hlost hmore hkept.2]

/-- The same where elements are lost at the front alone. -/
theorem eq_of_dropWhile_eq (hkind : ∀ x, p (f x) = p x) (hlost : ∀ x, p x = true → f x = x) :
    ∀ {xs ys : List α}, xs.map f = ys.map f → xs.dropWhile p = ys.dropWhile p → xs = ys
  | [], [], _, _ => rfl
  | [], y :: ys, hmap, _ => by cases hmap
  | x :: xs, [], hmap, _ => by cases hmap
  | x :: xs, y :: ys, hmap, hkept => by
    rw [List.map_cons, List.map_cons, List.cons.injEq] at hmap
    obtain ⟨hfirst, hmore⟩ := hmap
    have hsame : p x = p y := by rw [← hkind x, hfirst, hkind]
    rw [List.dropWhile_cons, List.dropWhile_cons, ← hsame] at hkept
    cases hx : p x with
    | true =>
      have hy : p y = true := hsame.symm.trans hx
      rw [hx] at hkept
      rw [← hlost x hx, hfirst, hlost y hy, eq_of_dropWhile_eq hkind hlost hmore hkept]
    | false =>
      rw [hx] at hkept
      exact hkept

end Lost

/-! ### The names of files -/

namespace Text

theorem isBlank_asciiLowerChar (c : Char) : isBlank (asciiLowerChar c) = isBlank c := by
  rw [Bool.eq_iff_iff]
  simp only [isBlank, toNat_asciiLowerChar, Bool.or_eq_true, Bool.and_eq_true, decide_eq_true_eq,
    beq_iff_eq]
  split <;> omega

theorem asciiLowerChar_of_isBlank {c : Char} (h : isBlank c = true) : asciiLowerChar c = c := by
  apply asciiLowerChar_eq_self
  simp only [isBlank, Bool.or_eq_true, Bool.and_eq_true, decide_eq_true_eq, beq_iff_eq] at h
  omega

/-- Texts with the same letters are the same where they are without the blanks at their ends. -/
theorem eq_of_trimBlank_eq {cs ds : List Char}
    (hsame : cs.map asciiLowerChar = ds.map asciiLowerChar) (h : trimBlank cs = trimBlank ds) :
    cs = ds := by
  have hlost : ∀ c, isBlank c = true → asciiLowerChar c = c := fun c => asciiLowerChar_of_isBlank
  have hkind : isBlank ∘ asciiLowerChar = isBlank := funext isBlank_asciiLowerChar
  -- Inwards: the blanks at the end are those at the front of the reversed text.
  have hfront : (dropBlank cs).map asciiLowerChar = (dropBlank ds).map asciiLowerChar := by
    have hdropped := congrArg (List.dropWhile isBlank) hsame
    rwa [List.dropWhile_map, List.dropWhile_map, hkind] at hdropped
  have hends : (dropBlank cs).reverse = (dropBlank ds).reverse := by
    apply eq_of_dropWhile_eq isBlank_asciiLowerChar hlost
    · rw [List.map_reverse, List.map_reverse, hfront]
    · exact List.reverse_injective h
  exact eq_of_dropWhile_eq isBlank_asciiLowerChar hlost hsame (List.reverse_injective hends)

end Text

/-- Different names of one account become different names of files. -/
theorem eq_of_cleanFileName_eq (hsame : Text.sameLetters a b = true)
    (h : cleanFileName a = cleanFileName b) : a = b := by
  have hkept : ∀ c : Char, decide (c ≠ '/' ∧ c ≠ '\\') = decide (c.toNat ≠ 47 ∧ c.toNat ≠ 92) := by
    intro c
    have hslash : c = '/' ↔ c.toNat = 47 := Char.toNat_inj.symm
    have hbackslash : c = '\\' ↔ c.toNat = 92 := Char.toNat_inj.symm
    rw [decide_eq_decide, ne_eq, ne_eq, hslash, hbackslash]
  have hkind : ∀ c : Char, decide (Text.asciiLowerChar c ≠ '/' ∧ Text.asciiLowerChar c ≠ '\\') =
      decide (c ≠ '/' ∧ c ≠ '\\') := by
    intro c
    rw [hkept, hkept, Text.toNat_asciiLowerChar, decide_eq_decide]
    split <;> omega
  have hlost : ∀ c : Char, decide (c ≠ '/' ∧ c ≠ '\\') = false → Text.asciiLowerChar c = c := by
    intro c hc
    rw [hkept, decide_eq_false_iff_not] at hc
    apply Text.asciiLowerChar_eq_self
    omega
  have hletters : a.toList.map Text.asciiLowerChar = b.toList.map Text.asciiLowerChar :=
    beq_iff_eq.1 hsame
  rw [← String.toList_inj]
  apply eq_of_filter_eq hkind hlost hletters
  apply Text.eq_of_trimBlank_eq
  · have hfiltered := congrArg (List.filter fun c => decide (c ≠ '/' ∧ c ≠ '\\')) hletters
    rw [List.filter_map, List.filter_map] at hfiltered
    simpa only [Function.comp_def, hkind] using hfiltered
  · rw [← String.toList_inj] at h
    simpa only [cleanFileName, Text.trim, String.toList_ofList] using h

/-- The files of two names are the same where the names of the files are. -/
theorem ownerFile_eq_iff {dir : Path} :
    ownerFile dir a = ownerFile dir b ↔ cleanFileName a = cleanFileName b := by
  constructor
  · exact LaunchSpec.ownerFile_inj
  · intro h
    rw [ownerFile, ownerFile, h]

/-! ### The fleet's accounts -/

/-- Two names are one account to the fleet: for the ownership of servers, for lists of an owner's
    servers and for all that is counted against a quota. -/
structure SameOwner (a b : String) : Prop where
  owns : ∀ owner, Text.sameLetters owner a = Text.sameLetters owner b
  controlled : ∀ (f : Fleet) port level, f.controlled port a level = f.controlled port b level
  listed : ∀ f : Fleet, f.ofOwner a = f.ofOwner b
  counted : ∀ f : Fleet, f.pendingOf a = f.pendingOf b ∧ f.launchingOf a = f.launchingOf b ∧
    f.registeredOf a = f.registeredOf b
  placed : ∀ f : Fleet, f.holdPlace a = f.holdPlace b ∧ f.givePlaceBack a = f.givePlaceBack b

theorem sameOwner_iff : SameOwner a b ↔ Text.sameLetters a b = true := by
  constructor
  · intro h
    rw [← h.owns a, Text.sameLetters_iff]
  · intro h
    have hlower : Text.asciiLower a = Text.asciiLower b := Text.sameLetters_iff.1 h
    have howns : ∀ owner, Text.sameLetters owner a = Text.sameLetters owner b := by
      intro owner
      rw [Bool.eq_iff_iff, Text.sameLetters_iff, Text.sameLetters_iff, hlower]
    have hpending : ∀ f : Fleet, f.pendingOf a = f.pendingOf b := by
      intro f
      rw [Fleet.pendingOf, Fleet.pendingOf, hlower]
    have hlisted : ∀ f : Fleet, f.ofOwner a = f.ofOwner b := by
      intro f
      simp only [Fleet.ofOwner, Server.isOwnedBy, howns]
    constructor
    case owns => exact howns
    case listed => exact hlisted
    case controlled =>
      intro f port level
      unfold Fleet.controlled
      cases f.lookup port with
      | none => rfl
      | some found =>
        have hfound : found.2.isOwnedBy a = found.2.isOwnedBy b := howns found.2.owner
        simp only
        rw [hfound]
    case counted =>
      intro f
      refine ⟨hpending f, ?_, ?_⟩
      · simp only [Fleet.launchingOf, Server.isOwnedBy, howns]
      · rw [Fleet.registeredOf, Fleet.registeredOf, hlisted]
    case placed =>
      intro f
      simp only [Fleet.holdPlace, Fleet.givePlaceBack, Fleet.setPending, hpending, hlower,
        and_self]

/-! ### The policy's accounts -/

/-- No policy tells two names apart. -/
def Store.Alike (a b : String) : Prop :=
  ∀ s : Store, s.level a = s.level b ∧ s.quota a = s.quota b

theorem Store.alike_iff : Store.Alike a b ↔ a = b := by
  constructor
  · intro h
    by_contra hne
    -- A policy that names one of them and not the other.
    have hlevel := (h ⟨⟨[], [(a, .admin)], [], [], []⟩, 0, []⟩).1
    have hother : (b == a) = false := beq_eq_false_iff_ne.2 (Ne.symm hne)
    rw [level, level, List.lookup_cons, List.lookup_cons, hother] at hlevel
    simp at hlevel
  · intro h s
    rw [h]
    exact ⟨rfl, rfl⟩

/-- What a policy does not name it does not tell apart. -/
theorem Store.same_of_unnamed {s : Store} (ha : s.policy.levels.lookup a = none)
    (hb : s.policy.levels.lookup b = none) (ha' : s.policy.quotas.lookup a = none)
    (hb' : s.policy.quotas.lookup b = none) : s.level a = s.level b ∧ s.quota a = s.quota b := by
  rw [level, level, quota, quota, ha, hb, ha', hb']
  exact ⟨rfl, rfl⟩

/-! ### All of them -/

/-- A name in small letters, of which the name of a file loses nothing. -/
structure IsPlainName (name : String) : Prop where
  small : Text.asciiLower name = name
  kept : cleanFileName name = name

/-- What two names have in common.

    - To the fleet they are one account where they have the same letters, to every policy where they
      are the same, and they share their files where these have the same name.
    - Two names of one account that are not the same have different files, and some policy gives them
      different levels or quotas. No policy does that which names neither of them.
    - Plain names are the same for all of these, or for none. -/
theorem account_of_name (a b : String) :
    (SameOwner a b ↔ Text.sameLetters a b = true) ∧
    (Store.Alike a b ↔ a = b) ∧
    (∀ dir, ownerFile dir a = ownerFile dir b ↔ cleanFileName a = cleanFileName b) ∧
    (SameOwner a b → ((∀ dir, ownerFile dir a = ownerFile dir b) ↔ a = b)) ∧
    (∀ s : Store, s.policy.levels.lookup a = none → s.policy.levels.lookup b = none →
      s.policy.quotas.lookup a = none → s.policy.quotas.lookup b = none →
      s.level a = s.level b ∧ s.quota a = s.quota b) ∧
    (IsPlainName a → IsPlainName b →
      (SameOwner a b ↔ Store.Alike a b) ∧ ∀ dir, SameOwner a b ↔ ownerFile dir a = ownerFile dir b) := by
  refine ⟨sameOwner_iff, Store.alike_iff, fun dir => ownerFile_eq_iff, ?_, ?_, ?_⟩
  · intro hsame
    constructor
    · intro hfiles
      exact eq_of_cleanFileName_eq (sameOwner_iff.1 hsame) (ownerFile_eq_iff.1 (hfiles ""))
    · intro h dir
      rw [h]
  · intro s ha hb ha' hb'
    exact Store.same_of_unnamed ha hb ha' hb'
  · intro ha hb
    have hsame : SameOwner a b ↔ a = b := by
      rw [sameOwner_iff, Text.sameLetters_iff, ha.small, hb.small]
    refine ⟨by rw [hsame, Store.alike_iff], ?_⟩
    intro dir
    rw [hsame, ownerFile_eq_iff, ha.kept, hb.kept]

/-- An account that is written with a capital letter has neither its level nor its quota nor its files,
    and two accounts share their files of which one is written with a slash. -/
theorem capital_letter_is_another_account :
    let s : Store := .ofPolicy ⟨[("alice", 1)], [("alice", .registered)], [], [], []⟩ 3
    Text.sameLetters "alice" "Alice" = true ∧
    s.level "alice" = .registered ∧ s.level "Alice" = .none ∧
    s.quota "alice" = 1 ∧ s.quota "Alice" = 3 ∧
    ownerFile "/b" "alice" = "/b/alice.txt" ∧ ownerFile "/b" "Alice" = "/b/Alice.txt" ∧
    Text.sameLetters "a/b" "ab" = false ∧ ownerFile "/b" "a/b" = ownerFile "/b" "ab" := by
  decide +kernel

end HostDaemon
