import HostDaemon.Catalog
import HostDaemon.Proofs.Text.Lowercase
import Mathlib.Data.List.Nodup

/-! # What a catalog finds

  The names of versions are told apart by their full lowercase form when a catalog is made, and with
  no regard to the case of the letters A to Z when a version is asked for. The second makes fewer
  names the same than the first, so that the first version that is found is the only one.

  - `ofList_eq_ok_iff` says of which versions there is a catalog.
  - `get?_eq_some_iff` says what a name finds in versions that differ in lowercase.
  - `catalog_of_versions` puts both together. -/

namespace HostDaemon.Catalog

variable {seen : List String} {versions : List Version} {name : String} {v : Version} {c : Catalog}

/-- The name of a version as names are told apart. -/
def keyOf (v : Version) : String := Text.lowercase v.name

/-- No name is found twice where all names differ in lowercase. -/
theorem duplicate?_eq_none_iff :
    duplicate? seen versions = none ↔
      (versions.map keyOf).Nodup ∧ ∀ v ∈ versions, keyOf v ∉ seen := by
  induction versions generalizing seen with
  | nil => simp [duplicate?]
  | cons v versions ih =>
    have hstep : duplicate? seen (v :: versions) =
        if keyOf v ∈ seen then some v else duplicate? (keyOf v :: seen) versions := rfl
    rw [hstep, List.map_cons, List.nodup_cons, List.forall_mem_cons]
    by_cases hseen : keyOf v ∈ seen
    · simp [hseen]
    · -- To the later versions the key of this one is one of those before them.
      rw [if_neg hseen, ih]
      constructor
      · rintro ⟨hdistinct, hnew⟩
        refine ⟨⟨?_, hdistinct⟩, hseen, fun w hw hold => hnew w hw (List.mem_cons_of_mem _ hold)⟩
        rw [List.mem_map]
        rintro ⟨w, hw, hsame⟩
        exact hnew w hw (hsame ▸ List.mem_cons_self)
      · rintro ⟨⟨hfirst, hdistinct⟩, -, hnew⟩
        refine ⟨hdistinct, fun w hw hmem => ?_⟩
        rcases List.mem_cons.1 hmem with hsame | hold
        · exact hfirst (hsame ▸ List.mem_map_of_mem hw)
        · exact hnew w hw hold

/-- A catalog holds all versions, and its default is the only one that is marked. -/
theorem ofList_eq_ok_iff :
    ofList versions = .ok c ↔ versions ≠ [] ∧ (versions.map keyOf).Nodup ∧
      versions.filter (·.isDefault) = [c.default] ∧ c.entries = versions := by
  have hdistinct : duplicate? [] versions = none ↔ (versions.map keyOf).Nodup := by
    rw [duplicate?_eq_none_iff]
    simp
  rw [← hdistinct, ofList]
  by_cases hnone : versions = []
  · simp [hnone]
  · rw [if_neg hnone]
    cases hsame : duplicate? [] versions with
    | some v => simp
    | none =>
      dsimp only
      split
      next v hdefault =>
        constructor
        · rintro ⟨⟩
          exact ⟨hnone, rfl, hdefault, rfl⟩
        · rintro ⟨-, -, hfilter, hentries⟩
          obtain ⟨entries, default, hmem⟩ := c
          rw [hdefault, List.cons.injEq] at hfilter
          obtain ⟨rfl, -⟩ := hfilter
          cases hentries
          rfl
      next hdefaults =>
        constructor
        · rintro ⟨⟩
        · rintro ⟨-, -, hfilter, -⟩
          exact absurd hfilter (hdefaults c.default)

/-- The version that is found has the letters of the name. -/
theorem sameLetters_of_get? (h : c.get? name = some v) : Text.sameLetters v.name name = true :=
  (List.find?_eq_some_iff_append.1 h).1

/-- Where all names differ in lowercase, a name asks for the one version that has its letters. -/
theorem get?_eq_some_iff (hdistinct : (c.entries.map keyOf).Nodup) :
    c.get? name = some v ↔ v ∈ c.entries ∧ Text.sameLetters v.name name = true := by
  constructor
  · intro h
    exact ⟨List.mem_of_find?_eq_some h, sameLetters_of_get? h⟩
  · rintro ⟨hmem, hletters⟩
    obtain ⟨w, hfind⟩ : ∃ w, c.get? name = some w := by
      rw [← Option.isSome_iff_exists, get?, List.find?_isSome]
      exact ⟨v, hmem, hletters⟩
    -- Both have the letters of the name, so that they are the same in lowercase too.
    have hkey : keyOf w = keyOf v :=
      (Text.lowercase_eq_of_sameLetters (sameLetters_of_get? hfind)).trans
        (Text.lowercase_eq_of_sameLetters hletters).symm
    rw [hfind, List.inj_on_of_nodup_map hdistinct (List.mem_of_find?_eq_some hfind) hmem hkey]

/-- Which lists of versions make a catalog, and what it finds.

    - There has to be a version, all names have to differ in lowercase, and one version has to be
      marked as the default.
    - The catalog holds the versions of the list, and its default is the one that is marked.
    - A name asks for the version that has its letters, whatever their case. So every version can be
      asked for, and none stands in the way of another. -/
theorem catalog_of_versions (versions : List Version) :
    ((∃ c, ofList versions = .ok c) ↔ versions ≠ [] ∧ (versions.map keyOf).Nodup ∧
      versions.countP (·.isDefault) = 1) ∧
    ∀ c, ofList versions = .ok c → c.entries = versions ∧
      (∀ v, v = c.default ↔ v ∈ versions ∧ v.isDefault = true) ∧
      ∀ name v, c.get? name = some v ↔ v ∈ versions ∧ Text.sameLetters v.name name = true := by
  constructor
  · rw [List.countP_eq_length_filter, List.length_eq_one_iff]
    constructor
    · rintro ⟨c, hc⟩
      obtain ⟨hnone, hdistinct, hdefault, -⟩ := ofList_eq_ok_iff.1 hc
      exact ⟨hnone, hdistinct, c.default, hdefault⟩
    · rintro ⟨hnone, hdistinct, v, hdefault⟩
      have hmem : v ∈ versions := (List.mem_filter.1 (hdefault ▸ List.mem_singleton_self v)).1
      exact ⟨⟨versions, v, hmem⟩, ofList_eq_ok_iff.2 ⟨hnone, hdistinct, hdefault, rfl⟩⟩
  · intro c hc
    obtain ⟨-, hdistinct, hdefault, rfl⟩ := ofList_eq_ok_iff.1 hc
    refine ⟨rfl, ?_, fun name v => get?_eq_some_iff hdistinct⟩
    intro v
    rw [← List.mem_filter, hdefault, List.mem_singleton]

end HostDaemon.Catalog
