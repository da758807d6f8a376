import HostDaemon.Proofs.Fleet.Quota
import HostDaemon.Proofs.Traffic.Requests

/-! # Who holds a place in the quota

  - `Hosting.holdsPlace` says which requests hold a place: those that were permitted and are not yet
    answered.
  - `Traffic.Placed` is the invariant: the table of places counts exactly these, and one request at
    a time is past the gate. `Traffic.Serves.placed_step` keeps it. -/

namespace HostDaemon

/-- Was it permitted, and is it not answered? -/
def HostingStage.isPermitted : HostingStage → Bool
  | .permitted | .looked _ | .built _ | .claimed _ _ | .launched _ | .failed _ => true
  | .waiting | .countedPending _ | .countedLaunching _ | .answered _ => false

/-- Does the request hold a place? One for a server that is being recovered needs none. -/
def Hosting.holdsPlace (h : Hosting) : Bool := !h.recovering && h.stage.isPermitted

/-- Does the request hold a place of an owner? -/
def Hosting.holdsPlaceOf (owner : String) (h : Hosting) : Bool :=
  h.holdsPlace && Text.sameLetters owner h.owner

namespace Traffic

variable {t t' : Traffic} {i j : Nat} {asked : Hosting} {stage : HostingStage} {gate : Option Nat}
  {f : Fleet} {owner : String}

/-! ### One request -/

/-- A request that works towards a launch was permitted. -/
theorem isPermitted_of_isWorking (h : stage.isWorking = true) :
    stage.isPermitted = true ∧ stage.isCounting = false := by
  cases stage <;> first | exact ⟨rfl, rfl⟩ | cases h

/-- The table of places changes with the request that goes on, and as that does. -/
theorem Advance.pendingOf (owner : String) (h : Advance t i asked stage gate f)
    (hneeds : asked.stage.isCounting = true → asked.recovering = false)
    (hheld : asked.holdsPlaceOf owner = true → 0 < t.fleet.pendingOf owner) :
    f.pendingOf owner + (asked.holdsPlaceOf owner).toNat =
      t.fleet.pendingOf owner +
        (Hosting.holdsPlaceOf owner { asked with stage := stage }).toNat := by
  simp only [Hosting.holdsPlaceOf, Hosting.holdsPlace] at hheld ⊢
  cases h with
  | stay => rfl
  | enter hstage | count hstage | refuse hstage =>
    rw [hstage]
    rfl
  | grant hstage =>
    rw [hstage] at hneeds ⊢
    rw [Fleet.pendingOf_holdPlace, hneeds rfl]
    cases Text.sameLetters owner asked.owner <;> rfl
  | work hbefore hafter _ _ hpending =>
    rw [Fleet.pendingOf_of_pending hpending, (isPermitted_of_isWorking hbefore).1,
      (isPermitted_of_isWorking hafter).1]
  | launch hstage _ hpending =>
    rw [Fleet.pendingOf_of_pending hpending, hstage]
    rfl
  | finish hstage =>
    -- Whoever is answered now held a place, unless it needed none.
    have hpermitted : asked.stage.isPermitted = true := by
      rcases hstage with ⟨ref, hstage, -⟩ | ⟨e, hstage, -⟩
      · rw [hstage]
        rfl
      · rw [hstage]
        rfl
    rw [hpermitted] at hheld ⊢
    cases hrecovering : asked.recovering with
    | true => simp [leavePlace, hrecovering, HostingStage.isPermitted]
    | false =>
      rw [hrecovering] at hheld
      simp only [leavePlace, hrecovering, Bool.false_eq_true, if_false,
        Fleet.pendingOf_givePlaceBack, HostingStage.isPermitted, Bool.not_false, Bool.true_and,
        Bool.false_and, Bool.toNat_false, Nat.add_zero] at hheld ⊢
      cases hsame : Text.sameLetters owner asked.owner with
      | true => exact Nat.sub_add_cancel (hheld hsame)
      | false => rfl

/-- The gate is passed and left by the request that goes on alone. -/
theorem Advance.gate_iff (h : Advance t i asked stage gate f)
    (hmine : asked.stage.isCounting = true ↔ t.gate = some i) :
    (stage.isCounting = true ↔ gate = some i) ∧ ∀ j, j ≠ i → (gate = some j ↔ t.gate = some j) := by
  -- A request that is not past the gate changes nothing about it.
  have houtside : ∀ {before after : HostingStage}, asked.stage = before →
      before.isCounting = false → after.isCounting = false →
      (after.isCounting = true ↔ t.gate = some i) := by
    intro before after hbefore hnot hnot'
    rw [hbefore, hnot] at hmine
    rw [hnot']
    exact hmine
  -- One that leaves it was the one past it.
  have hleaves : asked.stage.isCounting = true → ∀ j, j ≠ i → (none = some j ↔ t.gate = some j) := by
    intro hcounting j hj
    rw [hmine.1 hcounting]
    constructor
    · intro hfalse
      cases hfalse
    · intro heq
      exact absurd (Option.some.inj heq).symm hj
  cases h with
  | stay => exact ⟨hmine, fun _ _ => Iff.rfl⟩
  | enter hstage hgate =>
    refine ⟨⟨fun _ => rfl, fun _ => rfl⟩, ?_⟩
    intro j hj
    rw [hgate]
    constructor
    · intro heq
      exact absurd (Option.some.inj heq).symm hj
    · intro hfalse
      cases hfalse
  | count hstage =>
    rw [hstage] at hmine
    exact ⟨hmine, fun _ _ => Iff.rfl⟩
  | grant hstage | refuse hstage =>
    refine ⟨⟨fun hfalse => (by cases hfalse), fun hfalse => (by cases hfalse)⟩, ?_⟩
    exact hleaves (by rw [hstage]; rfl)
  | work hbefore hafter =>
    exact ⟨houtside rfl (isPermitted_of_isWorking hbefore).2 (isPermitted_of_isWorking hafter).2,
      fun _ _ => Iff.rfl⟩
  | launch hstage => exact ⟨houtside hstage rfl rfl, fun _ _ => Iff.rfl⟩
  | finish hstage =>
    refine ⟨?_, fun _ _ => Iff.rfl⟩
    rcases hstage with ⟨ref, hstage, -⟩ | ⟨e, hstage, -⟩
    · exact houtside hstage rfl rfl
    · exact houtside hstage rfl rfl

/-- Nobody comes to the gate but by waiting at it from the first. -/
theorem Advance.at_gate (h : Advance t i asked stage gate f)
    (hstage : stage = .waiting ∨ stage.isCounting = true) :
    asked.stage = .waiting ∨ asked.stage.isCounting = true := by
  cases h with
  | stay => exact hstage
  | enter hwaiting => exact Or.inl hwaiting
  | count hcounted =>
    right
    rw [hcounted]
    rfl
  | grant | refuse | launch | finish =>
    rcases hstage with hfalse | hfalse
    · cases hfalse
    · cases hfalse
  | work _ hafter =>
    rcases hstage with hfalse | hfalse
    · rw [hfalse] at hafter
      cases hafter
    · rw [(isPermitted_of_isWorking hafter).2] at hfalse
      cases hfalse

/-! ### All requests -/

/-- What is counted among the requests changes with the one that goes on. -/
theorem countP_setStage (hget : t.hostings[i]? = some asked) (p : Hosting → Bool)
    (stage : HostingStage) :
    (t.setStage i stage).hostings.countP p + (p asked).toNat =
      t.hostings.countP p + (p { asked with stage := stage }).toNat := by
  obtain ⟨hlt, hget⟩ := List.getElem?_eq_some_iff.1 hget
  have hif : ∀ h : Hosting, (if p h = true then 1 else 0) = (p h).toNat := fun h => by
    cases p h <;> rfl
  -- Count those before, those after and the one that goes on.
  have hbefore : t.hostings.countP p = (t.hostings.take i).countP p +
      ((t.hostings.drop (i + 1)).countP p + (p asked).toNat) := by
    conv_lhs => rw [← List.take_append_drop i t.hostings, List.drop_eq_getElem_cons hlt, hget]
    rw [List.countP_append, List.countP_cons, hif]
  rw [hbefore, setStage, List.modify_eq_take_cons_drop hlt, hget, List.countP_append,
    List.countP_cons, hif]
  omega

/-- The requests, the gate and the table of places belong together. -/
structure Placed (t : Traffic) : Prop where
  /-- The request that has passed the gate and not left it is noted. -/
  gate : ∀ (i : Nat) (asked : Hosting), t.hostings[i]? = some asked →
    (asked.stage.isCounting = true ↔ t.gate = some i)
  /-- It is one of the requests. -/
  gate_lt : ∀ i, t.gate = some i → i < t.hostings.length
  /-- Only requests that need a place come to the gate. -/
  needs : ∀ asked ∈ t.hostings, asked.stage = .waiting ∨ asked.stage.isCounting = true →
    asked.recovering = false
  /-- The table of places counts the requests that hold one. -/
  pending : ∀ owner, t.fleet.pendingOf owner = t.hostings.countP (Hosting.holdsPlaceOf owner)

theorem Placed.held_pos (h : t.Placed) (hget : t.hostings[i]? = some asked)
    (hholds : asked.holdsPlaceOf owner = true) : 0 < t.fleet.pendingOf owner := by
  rw [h.pending, List.countP_pos_iff]
  exact ⟨asked, List.mem_of_getElem? hget, hholds⟩

/-- A request that has just come is not past the gate and holds no place. -/
theorem place_of_isFirst (owner : String) (h : asked.stage.IsFirst asked.recovering) :
    asked.stage.isCounting = false ∧ asked.holdsPlaceOf owner = false ∧
      (asked.stage = .waiting → asked.recovering = false) := by
  obtain ⟨who, level, options, port, recovering, stage⟩ := asked
  cases stage with
  | waiting => exact ⟨rfl, by simp [Hosting.holdsPlaceOf, Hosting.holdsPlace,
      HostingStage.isPermitted], fun _ => h⟩
  | permitted =>
    have hrecovering : recovering = true := h
    exact ⟨rfl, by simp [Hosting.holdsPlaceOf, Hosting.holdsPlace, hrecovering],
      fun hfalse => by cases hfalse⟩
  | answered outcome => exact ⟨rfl, by simp [Hosting.holdsPlaceOf, Hosting.holdsPlace,
      HostingStage.isPermitted], fun hfalse => by cases hfalse⟩
  | countedPending | countedLaunching | looked | built | claimed | launched | failed => exact h.elim

/-- Every step keeps requests, gate and places together. -/
theorem Serves.placed_step {a : Action} (h : Serves a t t') (hplaced : t.Placed) : t'.Placed := by
  cases h with
  | still hhostings hgate hpending =>
    refine ⟨?_, ?_, ?_, ?_⟩
    · rw [hhostings, hgate]
      exact hplaced.gate
    · rw [hhostings, hgate]
      exact hplaced.gate_lt
    · rw [hhostings]
      exact hplaced.needs
    · rw [hhostings]
      intro owner
      rw [Fleet.pendingOf_of_pending hpending, hplaced.pending]
  | @comes asked hfirst heq =>
    subst heq
    refine ⟨?_, ?_, ?_, ?_⟩
    · intro j other hget
      by_cases hlt : j < t.hostings.length
      · rw [List.getElem?_append_left hlt] at hget
        exact hplaced.gate j other hget
      · -- The one that has just come cannot be past the gate.
        rw [List.getElem?_append_right (Nat.le_of_not_lt hlt)] at hget
        have hother := List.mem_singleton.1 (List.mem_of_getElem? hget)
        subst hother
        rw [(place_of_isFirst "" hfirst).1]
        constructor
        · intro hfalse
          cases hfalse
        · intro hgate
          exact absurd (hplaced.gate_lt j hgate) hlt
    · intro j hj
      rw [List.length_append]
      exact Nat.lt_add_right _ (hplaced.gate_lt j hj)
    · intro other hmem hstage
      rcases List.mem_append.1 hmem with hold | hnew
      · exact hplaced.needs other hold hstage
      · rw [List.mem_singleton] at hnew
        subst hnew
        rcases hstage with hwaiting | hcounting
        · exact (place_of_isFirst "" hfirst).2.2 hwaiting
        · rw [(place_of_isFirst "" hfirst).1] at hcounting
          cases hcounting
    · intro owner
      rw [List.countP_append, List.countP_singleton, (place_of_isFirst owner hfirst).2.1]
      exact hplaced.pending owner
  | @goes i asked stage gate f ha hget hadvance heq =>
    subst heq
    have hneeds : asked.stage.isCounting = true → asked.recovering = false :=
      fun hcounting => hplaced.needs asked (List.mem_of_getElem? hget) (Or.inr hcounting)
    obtain ⟨hmine, hothers⟩ := hadvance.gate_iff (hplaced.gate i asked hget)
    have hlt := (List.getElem?_eq_some_iff.1 hget).1
    have hlength : (t.setStage i stage).hostings.length = t.hostings.length := List.length_modify ..
    refine ⟨?_, ?_, ?_, ?_⟩
    · intro j other hother
      change (t.setStage i stage).hostings[j]? = some other at hother
      rw [getElem?_setStage] at hother
      by_cases hj : j = i
      · rw [if_pos hj, hget] at hother
        cases hother
        rw [hj]
        exact hmine
      · rw [if_neg hj] at hother
        rw [hothers j hj]
        exact hplaced.gate j other hother
    · intro j hj
      change j < (t.setStage i stage).hostings.length
      rw [hlength]
      by_cases hi : j = i
      · rw [hi]
        exact hlt
      · exact hplaced.gate_lt j ((hothers j hi).1 hj)
    · intro other hmem hstage
      obtain ⟨j, hother⟩ := List.getElem?_of_mem hmem
      change (t.setStage i stage).hostings[j]? = some other at hother
      rw [getElem?_setStage] at hother
      split at hother
      next =>
        rw [hget] at hother
        cases hother
        exact hplaced.needs asked (List.mem_of_getElem? hget) (hadvance.at_gate hstage)
      next => exact hplaced.needs other (List.mem_of_getElem? hother) hstage
    · intro owner
      -- The table and the requests change by the same.
      have hchange := hadvance.pendingOf owner hneeds
        fun hholds => hplaced.held_pos hget hholds
      have hcount := countP_setStage hget (Hosting.holdsPlaceOf owner) stage
      have hbefore := hplaced.pending owner
      change f.pendingOf owner = (t.setStage i stage).hostings.countP _
      omega

/-- The table of places misses none of the requests that hold one. -/
theorem Placed.length_le_pendingOf (h : t.Placed) {requests : List Nat} (hnodup : requests.Nodup)
    (hholds : ∀ i ∈ requests, ∃ asked, t.hostings[i]? = some asked ∧
      asked.holdsPlaceOf owner = true) : requests.length ≤ t.fleet.pendingOf owner := by
  -- Number the requests, and keep those that hold a place.
  have hmem : requests ⊆
      ((t.hostings.zipIdx.filter fun e => e.1.holdsPlaceOf owner).map (·.2)) := by
    intro i hi
    obtain ⟨asked, hget, hheld⟩ := hholds i hi
    exact List.mem_map.2 ⟨(asked, i),
      List.mem_filter.2 ⟨List.mk_mem_zipIdx_iff_getElem?.2 hget, hheld⟩, rfl⟩
  have hlength := hnodup.length_le_of_subset hmem
  have hcount : (t.hostings.zipIdx.countP fun e => e.1.holdsPlaceOf owner) =
      t.hostings.countP (Hosting.holdsPlaceOf owner) := by
    conv_rhs => rw [← List.zipIdx_map_fst 0 t.hostings, List.countP_map]
    rfl
  rw [List.length_map, ← List.countP_eq_length_filter, hcount, ← h.pending] at hlength
  exact hlength

/-! ### Over whole runs -/

/-- Requests, gate and places belong together after every run in which no identifier is drawn
    twice. -/
theorem placed_run {config : Config} (logDir : Path) (files : FileSystem)
    (hmin : 0 < config.host.minPort) {steps : List (Surroundings × Action)}
    (hdrawn : (drawn steps).Nodup) :
    ((Traffic.start (.start config logDir files)).run steps).Placed := by
  have hnobody : (Traffic.start (.start config logDir files)).Placed := by
    refine ⟨?_, ?_, ?_, ?_⟩
    · intro i asked hget
      cases hget
    · intro i hgate
      cases hgate
    · intro asked hmem
      cases hmem
    · intro owner
      rfl
  exact keeps_run logDir files hmin hnobody hdrawn
    fun t env a _ hgoes hplaced => hgoes.serves.placed_step hplaced

/-- How many places a request holds for an owner: one or none. -/
def placesFor (t : Traffic) (owner : String) (i : Nat) : Nat :=
  (t.hostings[i]?).elim 0 fun asked => (asked.holdsPlaceOf owner).toNat

/-- Where no other request goes on the table of places changes with this one alone. -/
theorem Serves.pendingOf_alone {a : Action} (h : Serves a t t') (hplaced : t.Placed)
    (halone : ∀ j, a = .hosting j → j = i) (owner : String) :
    t'.fleet.pendingOf owner + t.placesFor owner i =
      t.fleet.pendingOf owner + t'.placesFor owner i := by
  cases h with
  | still hhostings _ hpending =>
    rw [Fleet.pendingOf_of_pending hpending, placesFor, placesFor, hhostings]
  | @comes asked hfirst heq =>
    subst heq
    have hsame : placesFor { t with hostings := t.hostings ++ [asked] } owner i =
        t.placesFor owner i := by
      rw [placesFor, placesFor]
      by_cases hlt : i < t.hostings.length
      · rw [List.getElem?_append_left hlt]
      · -- It is the one that has just come, or there is no such request.
        have hge := Nat.le_of_not_lt hlt
        rw [List.getElem?_append_right hge, List.getElem?_eq_none_iff.2 hge]
        cases hnew : [asked][i - t.hostings.length]? with
        | none => rfl
        | some other =>
          have hother := List.mem_singleton.1 (List.mem_of_getElem? hnew)
          rw [hother, Option.elim_some, (place_of_isFirst owner hfirst).2.1]
          rfl
    rw [hsame]
  | @goes j asked stage gate f ha hget hadvance heq =>
    subst heq
    obtain rfl := halone j ha
    have hchange := hadvance.pendingOf owner
      (fun hcounting => hplaced.needs asked (List.mem_of_getElem? hget) (Or.inr hcounting))
      fun hholds => hplaced.held_pos hget hholds
    have hafter : placesFor { t.setStage j stage with fleet := f, gate := gate } owner j =
        (Hosting.holdsPlaceOf owner { asked with stage := stage }).toNat := by
      change ((t.setStage j stage).hostings[j]?).elim _ _ = _
      rw [getElem?_setStage, if_pos rfl, hget]
      rfl
    rw [hafter, placesFor, hget]
    exact hchange

/-- A request that is over leaves the table of places as it found it, where no other request goes on
    in the meantime. -/
theorem pendingOf_run {config : Config} (logDir : Path) (files : FileSystem)
    (hmin : 0 < config.host.minPort) {before after : List (Surroundings × Action)}
    (hdrawn : (drawn (before ++ after)).Nodup)
    (halone : ∀ e ∈ after, ∀ j, e.2 = .hosting j → j = i) (owner : String) :
    let s := (Traffic.start (.start config logDir files)).run before
    let t := (Traffic.start (.start config logDir files)).run (before ++ after)
    t.fleet.pendingOf owner + s.placesFor owner i =
      s.fleet.pendingOf owner + t.placesFor owner i := by
  intro s t
  have hfresh := fresh_run logDir files hmin hdrawn
  have hbefore := nodup_drawn_left hdrawn
  have hsound : s.Sound := sound_run logDir files hmin hbefore
  have hplaced : s.Placed := placed_run logDir files hmin hbefore
  have hrun := hsound.run_keeps
    (P := fun t => t.Placed ∧ t.fleet.pendingOf owner + s.placesFor owner i =
      s.fleet.pendingOf owner + t.placesFor owner i) ⟨hplaced, rfl⟩ hfresh ?_
  · have hsplit : t = s.run after := run_append _ before after
    rw [hsplit]
    exact hrun.2.2
  · rintro t env a hmem - hgoes ⟨hplaced, hsame⟩
    have hserves := hgoes.serves
    have halone' := hserves.pendingOf_alone hplaced (halone _ hmem) owner
    refine ⟨hserves.placed_step hplaced, ?_⟩
    omega

end Traffic

end HostDaemon
