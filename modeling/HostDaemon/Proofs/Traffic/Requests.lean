import HostDaemon.Proofs.Traffic.Runs

/-! # What becomes of hosting requests

  A request waits at the gate, counts, is permitted or refused, works towards a launch, and is
  answered. Nothing else changes it.

  - `Traffic.Advance` lists the steps of a request, and `Traffic.stepHosting_cases` says that there
    are no others. `Traffic.Goes.serves` says what becomes of all requests in any step.
  - `Traffic.Hosted` is the invariant that ties servers to requests: every launch goes back to one
    request, whose owner it belongs to. -/

namespace HostDaemon

namespace HostingStage

/-- Is it permitted, and has it neither a server nor an answer? -/
def isWorking : HostingStage → Bool
  | .permitted | .looked _ | .built _ | .claimed _ _ | .failed _ => true
  | .waiting | .countedPending _ | .countedLaunching _ | .launched _ | .answered _ => false

/-- Has it passed the gate and not left it? -/
def isCounting : HostingStage → Bool
  | .countedPending _ | .countedLaunching _ => true
  | _ => false

/-- The server that was launched for it. -/
def server? : HostingStage → Option ServerRef
  | .launched ref | .answered (.ok ref) => some ref
  | _ => none

/-- Is it one with which a request begins? It waits at the gate, or needs no place, or is
    refused. -/
def IsFirst (recovering : Bool) : HostingStage → Prop
  | .waiting => recovering = false
  | .permitted => recovering = true
  | .answered (.error _) => True
  | _ => False

end HostingStage

namespace Traffic

variable {t t' : Traffic} {i j : Nat} {asked asked' : Hosting} {stage : HostingStage}
  {gate : Option Nat} {f : Fleet} {id : String}

/-! ### One request -/

/-- One step of a hosting request: its stage, the gate and the fleet afterwards. -/
inductive Advance (t : Traffic) (i : Nat) (asked : Hosting) :
    HostingStage → Option Nat → Fleet → Prop where
  /-- Somebody else is past the gate, or it is answered already. -/
  | stay (hstage : asked.stage = .waiting ∧ t.gate.isSome = true ∨ ∃ o, asked.stage = .answered o) :
      Advance t i asked asked.stage t.gate t.fleet
  /-- It passes the gate and counts the requests that hold a place. -/
  | enter (hstage : asked.stage = .waiting) (hgate : t.gate = none) :
      Advance t i asked (.countedPending (t.fleet.pendingOf asked.owner)) (some i) t.fleet
  /-- It counts the launching servers. -/
  | count {n : Nat} (hstage : asked.stage = .countedPending n) :
      Advance t i asked (.countedLaunching (n + t.fleet.launchingOf asked.owner)) t.gate t.fleet
  /-- It counts the registered servers and gets a place. -/
  | grant {n : Nat} (hstage : asked.stage = .countedLaunching n)
      (hroom : n + t.fleet.registeredOf asked.owner < (t.fleet.store.quota asked.owner).toNat) :
      Advance t i asked .permitted none (t.fleet.holdPlace asked.owner)
  /-- It counts the registered servers, and there is no place. -/
  | refuse {n : Nat} (hstage : asked.stage = .countedLaunching n)
      (hfull : (t.fleet.store.quota asked.owner).toNat ≤ n + t.fleet.registeredOf asked.owner) :
      Advance t i asked
        (.answered (.error (.quotaExceeded (t.fleet.store.quota asked.owner)))) none t.fleet
  /-- It works towards a launch, or fails. -/
  | work {stage : HostingStage} {f : Fleet} (hbefore : asked.stage.isWorking = true)
      (hafter : stage.isWorking = true)
      (hdrafts : ∀ spec ∈ stage.drafts, spec.owner = asked.owner ∨ spec ∈ asked.stage.drafts)
      (hspecs : f.specs = t.fleet.specs) (hpending : f.pending = t.fleet.pending) :
      Advance t i asked stage t.gate f
  /-- Its server is launched. -/
  | launch {spec : LaunchSpec} {port : UInt16} {f : Fleet} (hstage : asked.stage = .claimed spec port)
      (hspecs : f.specs = t.fleet.specs ++ [(spec, 0)]) (hpending : f.pending = t.fleet.pending) :
      Advance t i asked (.launched t.fleet.servers.length) t.gate f
  /-- It is answered and gives its place back. -/
  | finish {outcome : Except RequestError ServerRef}
      (hstage : (∃ ref, asked.stage = .launched ref ∧ outcome = .ok ref) ∨
        ∃ e, asked.stage = .failed e ∧ outcome = .error e) :
      Advance t i asked (.answered outcome) t.gate (leavePlace t.fleet asked)

/-- A request that comes into the stage in which it is stays as it is. -/
theorem setStage_self (hget : t.hostings[i]? = some asked) : t.setStage i asked.stage = t := by
  have hsame : (t.setStage i asked.stage).hostings = t.hostings := by
    apply List.ext_getElem?
    intro j
    rw [getElem?_setStage]
    split
    next heq => rw [heq, hget, Option.map_some]
    next => rfl
  have hbuilt : t.setStage i asked.stage =
      { t with hostings := (t.setStage i asked.stage).hostings } := rfl
  rw [hbuilt, hsame]

/-- A hosting request that goes on makes one of the steps. -/
theorem stepHosting_cases (env : Surroundings) (hget : t.hostings[i]? = some asked) :
    ∃ stage gate f, Advance t i asked stage gate f ∧
      t.stepHosting env i = { t.setStage i stage with fleet := f, gate := gate } := by
  have hself : { t.setStage i asked.stage with fleet := t.fleet, gate := t.gate } = t :=
    setStage_self hget
  unfold stepHosting
  simp only [hget]
  cases hstage : asked.stage with
  | waiting =>
    cases hgate : t.gate with
    | none => exact ⟨_, _, _, .enter hstage hgate, rfl⟩
    | some k =>
      refine ⟨_, _, _, .stay (Or.inl ⟨hstage, by rw [hgate]; rfl⟩), ?_⟩
      rw [hself]
      rfl
  | countedPending n => exact ⟨_, _, _, .count hstage, rfl⟩
  | countedLaunching n =>
    simp only [Fleet.grantPlace]
    by_cases hfull : (t.fleet.store.quota asked.owner).toNat ≤ n + t.fleet.registeredOf asked.owner
    · rw [if_pos hfull]
      exact ⟨_, _, _, .refuse hstage hfull, rfl⟩
    · rw [if_neg hfull]
      exact ⟨_, _, _, .grant hstage (Nat.lt_of_not_le hfull), rfl⟩
  | permitted =>
    refine ⟨_, _, _, .work ?_ ?_ ?_ rfl rfl, by simp only [nextStage, hstage]; rfl⟩
    · rw [hstage]
      rfl
    · rfl
    · exact fun spec hspec => by cases hspec
  | looked registered =>
    have hbefore : asked.stage.isWorking = true := by rw [hstage]; rfl
    simp only [nextStage, hstage]
    cases hbuild : t.fleet.buildSpec env registered asked.owner asked.level asked.optionLine
        asked.port asked.recovering with
    | error e =>
      exact ⟨.failed e, _, _, .work hbefore rfl (fun _ hspec => by cases hspec) rfl rfl, rfl⟩
    | ok spec =>
      refine ⟨.built spec, _, _, .work hbefore rfl ?_ rfl rfl, rfl⟩
      intro other hother
      rw [HostingStage.drafts, List.mem_singleton] at hother
      exact Or.inl (hother ▸ (Fleet.buildSpec_eq_ok hbuild).1)
  | built spec =>
    have hbefore : asked.stage.isWorking = true := by rw [hstage]; rfl
    simp only [nextStage, hstage]
    cases hreserve : t.fleet.reserveFor env spec with
    | error e =>
      exact ⟨.failed e, _, _, .work hbefore rfl (fun _ hspec => by cases hspec) rfl rfl, rfl⟩
    | ok claim =>
      obtain ⟨port, f⟩ := claim
      obtain ⟨-, hf⟩ := Fleet.reserveFor_eq_ok hreserve
      refine ⟨.claimed spec port, _, f, .work hbefore rfl ?_ ?_ ?_, rfl⟩
      · intro other hother
        rw [hstage]
        exact Or.inr hother
      · rw [hf]
        rfl
      · rw [hf]
  | claimed spec port =>
    have hbefore : asked.stage.isWorking = true := by rw [hstage]; rfl
    simp only [nextStage, hstage]
    rcases t.fleet.launch_cases env spec 0 asked.recovering port with
      ⟨e, files, hlaunch⟩ | ⟨files, logFile, log, hlaunch⟩
    · simp only [hlaunch]
      refine ⟨.failed (.start e), _,
        { t.fleet with files := files, ports := t.fleet.ports.release port }, .work hbefore rfl (fun _ hspec => by cases hspec) rfl rfl, rfl⟩
    · simp only [hlaunch]
      obtain ⟨hspecs, hpending⟩ := Fleet.specs_adopt { t.fleet with files := files } env spec 0
        asked.recovering port logFile log
      exact ⟨_, _, _, .launch hstage hspecs hpending, rfl⟩
  | launched ref =>
    simp only [nextStage, hstage]
    exact ⟨_, _, _, .finish (Or.inl ⟨ref, hstage, rfl⟩), rfl⟩
  | failed e =>
    simp only [nextStage, hstage]
    exact ⟨_, _, _, .finish (Or.inr ⟨e, hstage, rfl⟩), rfl⟩
  | answered outcome =>
    simp only [nextStage, hstage]
    refine ⟨_, _, _, .stay (Or.inr ⟨outcome, hstage⟩), ?_⟩
    rw [hstage]
    rfl

/-- A request has its server from the launch on. -/
theorem Advance.server_cases (h : Advance t i asked stage gate f) :
    (stage.server? = asked.stage.server? ∧ f.specs = t.fleet.specs) ∨
    ∃ spec port, asked.stage = .claimed spec port ∧ stage = .launched t.fleet.servers.length ∧
      f.specs = t.fleet.specs ++ [(spec, 0)] := by
  cases h with
  | stay => exact Or.inl ⟨rfl, rfl⟩
  | enter hstage | count hstage | grant hstage | refuse hstage =>
    rw [hstage]
    exact Or.inl ⟨rfl, rfl⟩
  | work hbefore hafter _ hspecs =>
    -- Whoever works towards a launch has no server yet.
    have hnone : ∀ stage : HostingStage, stage.isWorking = true → stage.server? = none := by
      intro stage hworking
      cases stage <;> first | rfl | cases hworking
    exact Or.inl ⟨(hnone _ hafter).trans (hnone _ hbefore).symm, hspecs⟩
  | launch hstage hspecs => exact Or.inr ⟨_, _, hstage, rfl, hspecs⟩
  | finish hstage =>
    left
    constructor
    · rcases hstage with ⟨ref, hstage, rfl⟩ | ⟨e, hstage, rfl⟩
      · rw [hstage]
        rfl
      · rw [hstage]
        rfl
    · unfold leavePlace
      split <;> rfl

/-- What a request is about to launch is its own. -/
theorem Advance.drafts_owner (h : Advance t i asked stage gate f) :
    ∀ spec ∈ stage.drafts, spec.owner = asked.owner ∨ spec ∈ asked.stage.drafts := by
  cases h with
  | stay => exact fun spec hspec => Or.inr hspec
  | work _ _ hdrafts => exact hdrafts
  | enter | count | grant | refuse | launch | finish => exact fun spec hspec => by cases hspec

/-- A request that is answered does nothing more. -/
theorem Advance.answered (h : Advance t i asked stage gate f)
    {outcome : Except RequestError ServerRef} (houtcome : asked.stage = .answered outcome) :
    stage = .answered outcome := by
  cases h with
  | stay => exact houtcome
  | enter hstage | count hstage | grant hstage | refuse hstage | launch hstage =>
    rw [houtcome] at hstage
    cases hstage
  | work hbefore =>
    rw [houtcome] at hbefore
    cases hbefore
  | finish hstage =>
    rcases hstage with ⟨ref, hstage, -⟩ | ⟨e, hstage, -⟩
    · rw [houtcome] at hstage
      cases hstage
    · rw [houtcome] at hstage
      cases hstage

/-! ### All requests -/

theorem firstStage_isFirst (f : Fleet) (owner : String) (recovering : Bool) :
    (firstStage f owner recovering).2.IsFirst recovering := by
  unfold firstStage
  split
  · trivial
  · split
    · trivial
    · cases recovering <;> rfl

/-- What an action does for the hosting requests. -/
inductive Serves (a : Action) (t t' : Traffic) : Prop where
  /-- They are as they were. -/
  | still (hhostings : t'.hostings = t.hostings) (hgate : t'.gate = t.gate)
      (hpending : t'.fleet.pending = t.fleet.pending)
      (hspecs : (∃ i, a = .hosting i) → t'.fleet.specs = t.fleet.specs)
  /-- One more comes. -/
  | comes {asked : Hosting} (hfirst : asked.stage.IsFirst asked.recovering)
      (heq : t' = { t with hostings := t.hostings ++ [asked] })
  /-- One goes on. -/
  | goes {i : Nat} {asked : Hosting} {stage : HostingStage} {gate : Option Nat} {f : Fleet}
      (ha : a = .hosting i) (hget : t.hostings[i]? = some asked)
      (hadvance : Advance t i asked stage gate f)
      (heq : t' = { t.setStage i stage with fleet := f, gate := gate })

/-- Every action serves the requests in one of these ways. -/
theorem Goes.serves {env : Surroundings} {a : Action} (h : Goes (t.scope env a) t (t.step env a)) :
    Serves a t (t.step env a) := by
  by_cases hdraws : a.draws = true
  · cases a with
    | hosting i =>
      cases hget : t.hostings[i]? with
      | none =>
        have hsame : t.step env (.hosting i) = t := by
          change t.stepHosting env i = t
          rw [stepHosting, hget]
        rw [hsame]
        exact .still rfl rfl rfl fun _ => rfl
      | some asked =>
        obtain ⟨stage, gate, f, hadvance, heq⟩ := stepHosting_cases env hget
        exact .goes rfl hget hadvance heq
    | _ => cases hdraws
  · by_cases hrequest : ∃ owner options port recovering,
        a = .request (.host owner options port recovering)
    · obtain ⟨owner, options, port, recovering, rfl⟩ := hrequest
      have hfirst := firstStage_isFirst t.fleet owner recovering
      exact @Serves.comes _ t _ ⟨owner, (firstStage t.fleet owner recovering).1, options, port,
        recovering, (firstStage t.fleet owner recovering).2⟩ hfirst rfl
    · have hstill := requests_still (t := t) env a (by simpa using hdraws)
        fun owner options port recovering heq => hrequest ⟨owner, options, port, recovering, heq⟩
      -- No hosting request goes on, so that nobody takes a place or gives one back.
      have hnever : ¬ ∃ i, a = .hosting i := by
        rintro ⟨i, rfl⟩
        exact hdraws rfl
      rcases h.pending with hhosts | hpending
      · exact absurd hhosts hnever
      · exact .still hstill.1 hstill.2 hpending fun hhosts => absurd hhosts hnever

/-- A request that has just come has no server and nothing to launch. -/
theorem nothing_of_isFirst {recovering : Bool} (h : stage.IsFirst recovering) :
    stage.server? = none ∧ stage.drafts = [] := by
  cases stage with
  | answered outcome =>
    cases outcome with
    | error e => exact ⟨rfl, rfl⟩
    | ok ref => exact h.elim
  | waiting | permitted => exact ⟨rfl, rfl⟩
  | countedPending | countedLaunching | looked | built | claimed | launched | failed => exact h.elim

/-- A request is the same afterwards, and made a step at most. -/
theorem Serves.after {a : Action} (h : Serves a t t') (hget : t.hostings[j]? = some asked) :
    ∃ stage, t'.hostings[j]? = some { asked with stage := stage } ∧
      (stage = asked.stage ∨
        a = .hosting j ∧ Advance t j asked stage t'.gate t'.fleet) := by
  cases h with
  | still hhostings =>
    rw [hhostings]
    exact ⟨asked.stage, hget, Or.inl rfl⟩
  | comes _ heq =>
    subst heq
    rw [List.getElem?_append_left (List.getElem?_eq_some_iff.1 hget).1]
    exact ⟨asked.stage, hget, Or.inl rfl⟩
  | @goes i moved stage gate f ha hmoved hadvance heq =>
    subst heq
    change ∃ stage', (t.setStage i stage).hostings[j]? = _ ∧ _
    rw [getElem?_setStage]
    by_cases hj : j = i
    · subst hj
      rw [hget, Option.some.injEq] at hmoved
      subst hmoved
      rw [if_pos rfl, hget]
      exact ⟨stage, rfl, Or.inr ⟨ha, hadvance⟩⟩
    · rw [if_neg hj, hget]
      exact ⟨asked.stage, rfl, Or.inl rfl⟩

/-- A request was the same before, unless it has just come. -/
theorem Serves.before {a : Action} (h : Serves a t t') (hget : t'.hostings[j]? = some asked') :
    (asked'.stage.IsFirst asked'.recovering ∧ t.hostings[j]? = none) ∨
      ∃ asked, t.hostings[j]? = some asked ∧ asked' = { asked with stage := asked'.stage } ∧
        (asked'.stage = asked.stage ∨
          a = .hosting j ∧ Advance t j asked asked'.stage t'.gate t'.fleet) := by
  -- A request that was there before is the one that is there now.
  have hold : ∀ asked, t.hostings[j]? = some asked →
      ∃ asked, t.hostings[j]? = some asked ∧ asked' = { asked with stage := asked'.stage } ∧
        (asked'.stage = asked.stage ∨
          a = .hosting j ∧ Advance t j asked asked'.stage t'.gate t'.fleet) := by
    intro asked hasked
    obtain ⟨stage, hafter, hstage⟩ := h.after hasked
    rw [hget, Option.some.injEq] at hafter
    subst hafter
    exact ⟨asked, hasked, rfl, hstage⟩
  cases hbefore : t.hostings[j]? with
  | some asked => exact Or.inr (hbefore ▸ hold asked hbefore)
  | none =>
    left
    refine ⟨?_, rfl⟩
    cases h with
    | still hhostings =>
      rw [hhostings, hbefore] at hget
      cases hget
    | comes hfirst heq =>
      subst heq
      rw [List.getElem?_append_right (List.getElem?_eq_none_iff.1 hbefore),
        List.getElem?_singleton] at hget
      split at hget
      · cases hget
        exact hfirst
      · cases hget
    | @goes i moved stage gate f _ hmoved _ heq =>
      subst heq
      change (t.setStage i stage).hostings[j]? = _ at hget
      rw [getElem?_setStage] at hget
      split at hget
      next hj =>
        rw [← hj, hbefore] at hmoved
        cases hmoved
      next =>
        rw [hbefore] at hget
        cases hget

/-! ### The servers of the requests -/

/-- A server with this identifier was launched for a request. -/
def Hosts (t : Traffic) (asked : Hosting) (id : String) : Prop :=
  ∃ ref spec, asked.stage.server? = some ref ∧ t.fleet.specs[ref]? = some (spec, 0) ∧
    spec.owner = asked.owner ∧ spec.credentials.id = id

/-- Servers and requests belong together. -/
structure Hosted (t : Traffic) : Prop where
  /-- What is about to be launched belongs to whoever asked. -/
  drafts_owner : ∀ asked ∈ t.hostings, ∀ spec ∈ asked.stage.drafts, spec.owner = asked.owner
  /-- The server of a request was launched for the first time, and belongs to whoever asked. -/
  hosted : ∀ asked ∈ t.hostings, ∀ ref, asked.stage.server? = some ref →
    ∃ spec, t.fleet.specs[ref]? = some (spec, 0) ∧ spec.owner = asked.owner
  /-- No two requests have servers with the same identifier. -/
  apart : ∀ (i j : Nat) (asked asked' : Hosting) (id : String), t.hostings[i]? = some asked →
    t.hostings[j]? = some asked' → t.Hosts asked id → t.Hosts asked' id → i = j
  /-- Every launch goes back to a request. -/
  served : ∀ e ∈ t.fleet.specs, ∃ asked ∈ t.hostings, t.Hosts asked e.1.credentials.id

/-- What was launched stays as it was launched. -/
theorem Goes.specs_mono {scope : Scope} (h : Goes scope t t') {ref : ServerRef}
    {e : LaunchSpec × UInt32} (he : t.fleet.specs[ref]? = some e) :
    t'.fleet.specs[ref]? = some e := by
  rcases h.made with hspecs | ⟨s, v, hspecs, -⟩
  · rw [hspecs]
    exact he
  · rw [hspecs, List.getElem?_append_left (List.getElem?_eq_some_iff.1 he).1]
    exact he

theorem Hosts.mono {scope : Scope} (h : Goes scope t t') (hhosts : t.Hosts asked id)
    (hserver : stage.server? = asked.stage.server?) :
    t'.Hosts { asked with stage := stage } id := by
  obtain ⟨ref, spec, href, hspec, howner, hid⟩ := hhosts
  exact ⟨ref, spec, hserver.trans href, h.specs_mono hspec, howner, hid⟩

/-- A request has its server from before, or it was launched in this step. -/
theorem Hosted.hosts_before (h : t.Hosted) {env : Surroundings} {a : Action}
    (hgoes : Goes (t.scope env a) t (t.step env a))
    (hget : (t.step env a).hostings[j]? = some asked') (hhosts : (t.step env a).Hosts asked' id) :
    (∃ asked, t.hostings[j]? = some asked ∧ t.Hosts asked id) ∨
      a = .hosting j ∧ ∃ asked spec, t.hostings[j]? = some asked ∧ spec ∈ asked.stage.drafts ∧
        spec.credentials.id = id := by
  obtain ⟨ref, spec, href, hspec, -, hid⟩ := hhosts
  -- What was launched for it before is what was launched for it.
  have hold : ∀ asked, t.hostings[j]? = some asked → asked.stage.server? = some ref →
      ∃ asked, t.hostings[j]? = some asked ∧ t.Hosts asked id := by
    intro asked hasked href
    obtain ⟨spec', hspec', howner⟩ := h.hosted asked (List.mem_of_getElem? hasked) ref href
    have hsame := hgoes.specs_mono hspec'
    rw [hspec, Option.some.injEq, Prod.mk.injEq] at hsame
    obtain ⟨rfl, -⟩ := hsame
    exact ⟨asked, hasked, ref, spec, href, hspec', howner, hid⟩
  rcases hgoes.serves.before hget with ⟨hfirst, -⟩ | ⟨asked, hasked, -, hsame | ⟨ha, hadvance⟩⟩
  · rw [(nothing_of_isFirst hfirst).1] at href
    cases href
  · rw [hsame] at href
    exact Or.inl (hold asked hasked href)
  · rcases hadvance.server_cases with ⟨hserver, -⟩ | ⟨spec', port, hstage, hlaunched, hspecs⟩
    · rw [hserver] at href
      exact Or.inl (hold asked hasked href)
    · right
      refine ⟨ha, asked, spec', hasked, by simp [hstage, HostingStage.drafts], ?_⟩
      rw [hlaunched, HostingStage.server?, Option.some.injEq, ← Fleet.length_specs] at href
      subst href
      rw [hspecs, List.getElem?_concat_length, Option.some.injEq, Prod.mk.injEq] at hspec
      rw [hspec.1, hid]

/-- The identifier of a server that is launched for a request is not that of any server before. -/
theorem Sound.hosts_apart_step (h : t.Sound) {env : Surroundings} {a : Action}
    (hgoes : Goes (t.scope env a) t (t.step env a)) (hhosted : t.Hosted) (i j : Nat)
    (asked asked' : Hosting) (id : String) (hi : (t.step env a).hostings[i]? = some asked)
    (hj : (t.step env a).hostings[j]? = some asked') (hhosts : (t.step env a).Hosts asked id)
    (hhosts' : (t.step env a).Hosts asked' id) : i = j := by
  -- What is about to be launched has an identifier that no server has.
  have hfresh : ∀ (j : Nat) (asked : Hosting) (spec : LaunchSpec), t.hostings[j]? = some asked →
      spec ∈ asked.stage.drafts → ∀ other, ¬ t.Hosts other spec.credentials.id := by
    rintro j asked spec hasked hspec other ⟨ref, spec', -, hspec', -, hid⟩
    obtain ⟨s, hs, heq⟩ := List.mem_map.1 (List.mem_of_getElem? hspec')
    refine h.drafts_fresh spec ?_ s hs ?_
    · exact List.mem_flatMap.2 ⟨asked, List.mem_of_getElem? hasked, hspec⟩
    · rw [← hid]
      exact congrArg (fun e => e.1.credentials.id) heq
  rcases hhosted.hosts_before hgoes hi hhosts with
    ⟨old, hold, hbefore⟩ | ⟨ha, old, spec, hold, hspec, rfl⟩
  · rcases hhosted.hosts_before hgoes hj hhosts' with
      ⟨old', hold', hbefore'⟩ | ⟨-, old', spec, hold', hspec, rfl⟩
    · exact hhosted.apart i j old old' id hold hold' hbefore hbefore'
    · exact absurd hbefore (hfresh j old' spec hold' hspec old)
  · rcases hhosted.hosts_before hgoes hj hhosts' with
      ⟨old', -, hbefore'⟩ | ⟨ha', -⟩
    · exact absurd hbefore' (hfresh i old spec hold hspec old')
    · rw [ha, Action.hosting.injEq] at ha'
      exact ha'

/-- Every launch after a step goes back to a request. -/
theorem Hosted.served_step (hhosted : t.Hosted) {env : Surroundings} {a : Action}
    (hgoes : Goes (t.scope env a) t (t.step env a)) :
    ∀ e ∈ (t.step env a).fleet.specs,
      ∃ asked ∈ (t.step env a).hostings, (t.step env a).Hosts asked e.1.credentials.id := by
  have hserves := hgoes.serves
  -- A launch from before goes back to the request to which it went back before.
  have hold : ∀ e ∈ t.fleet.specs,
      ∃ asked ∈ (t.step env a).hostings, (t.step env a).Hosts asked e.1.credentials.id := by
    intro e he
    obtain ⟨asked, hmem, hhosts⟩ := hhosted.served e he
    obtain ⟨j, hasked⟩ := List.getElem?_of_mem hmem
    obtain ⟨stage, hafter, hstage⟩ := hserves.after hasked
    refine ⟨_, List.mem_of_getElem? hafter, hhosts.mono hgoes ?_⟩
    rcases hstage with rfl | ⟨-, hadvance⟩
    · rfl
    · rcases hadvance.server_cases with ⟨hserver, -⟩ | ⟨spec, port, hclaimed, -⟩
      · exact hserver
      · obtain ⟨ref, -, href, -⟩ := hhosts
        rw [hclaimed] at href
        cases href
  intro e he
  rcases hgoes.made with hsame | ⟨s, v, hmade, -, hbegets⟩
  · rw [hsame] at he
    exact hold e he
  · rw [hmade, List.mem_append, List.mem_singleton] at he
    rcases he with hbefore | rfl
    · exact hold e hbefore
    · -- One more launch was made, so that the step is none that leaves the launches as they were.
      have hmore : (t.step env a).fleet.specs ≠ t.fleet.specs := by
        intro hsame
        have hlength := congrArg List.length hsame
        rw [hmade, List.length_append, List.length_singleton] at hlength
        omega
      cases hbegets with
      | @relaunched ref l v _ hlife _ =>
        -- A launch after an end goes back to whatever the launch before goes back to.
        obtain ⟨s, hs, hid⟩ := id_of_life? hlife
        obtain ⟨asked, hmem, hhosts⟩ :=
          hold (s.spec, s.restarts) (List.mem_map_of_mem (List.mem_of_getElem? hs))
        change (t.step env a).Hosts asked s.id at hhosts
        rw [hid] at hhosts
        exact ⟨asked, hmem, hhosts⟩
      | hosted hhosts _ _ =>
        cases hserves with
        | still _ _ _ hspecs => exact absurd (hspecs hhosts) hmore
        | comes _ heq => exact absurd (by rw [heq]) hmore
        -- It is the launch of the request that went on.
        | @goes i asked stage gate f ha hget hadvance heq =>
          rcases hadvance.server_cases with ⟨-, hsame⟩ | ⟨spec, port, hstage, hlaunched, hspecs⟩
          · exact absurd (by rw [heq]; exact hsame) hmore
          · rw [heq] at hmade ⊢
            change f.specs = _ at hmade
            rw [hspecs] at hmade
            have hnew := (List.append_inj' hmade rfl).2
            rw [List.singleton_inj] at hnew
            rw [← hnew]
            refine ⟨{ asked with stage := stage }, ?_, t.fleet.servers.length, spec, ?_, ?_, ?_, rfl⟩
            · refine List.mem_of_getElem? (i := i) ?_
              change (t.setStage i stage).hostings[i]? = _
              rw [getElem?_setStage, if_pos rfl, hget]
              rfl
            · rw [hlaunched]
              rfl
            · change f.specs[_]? = _
              rw [hspecs, ← Fleet.length_specs, List.getElem?_concat_length]
            · exact hhosted.drafts_owner asked (List.mem_of_getElem? hget) spec
                (by simp [hstage, HostingStage.drafts])

/-- Every step keeps servers and requests together. -/
theorem Sound.hosted_step (h : t.Sound) {env : Surroundings} {a : Action}
    (hgoes : Goes (t.scope env a) t (t.step env a)) (hhosted : t.Hosted) :
    (t.step env a).Hosted := by
  have hserves := hgoes.serves
  refine ⟨?_, ?_, h.hosts_apart_step hgoes hhosted, hhosted.served_step hgoes⟩
  · intro asked' hmem spec hspec
    obtain ⟨j, hget⟩ := List.getElem?_of_mem hmem
    rcases hserves.before hget with ⟨hfirst, -⟩ | ⟨asked, hasked, hmoved, hstage⟩
    · rw [(nothing_of_isFirst hfirst).2] at hspec
      cases hspec
    · have hmine := hhosted.drafts_owner asked (List.mem_of_getElem? hasked)
      rw [hmoved]
      rcases hstage with hsame | ⟨-, hadvance⟩
      · rw [hsame] at hspec
        exact hmine spec hspec
      · rcases hadvance.drafts_owner spec hspec with howner | hbefore
        · exact howner
        · exact hmine spec hbefore
  · intro asked' hmem ref href
    obtain ⟨j, hget⟩ := List.getElem?_of_mem hmem
    -- The server of a request stays, or it was launched just now under the draft of the request.
    rcases hserves.before hget with ⟨hfirst, -⟩ | ⟨asked, hasked, hmoved, hstage⟩
    · rw [(nothing_of_isFirst hfirst).1] at href
      cases href
    · have hmem' := List.mem_of_getElem? hasked
      have hold : asked.stage.server? = some ref →
          ∃ spec, (t.step env a).fleet.specs[ref]? = some (spec, 0) ∧ spec.owner = asked'.owner := by
        intro hbefore
        obtain ⟨spec, hspec, howner⟩ := hhosted.hosted asked hmem' ref hbefore
        rw [hmoved]
        exact ⟨spec, hgoes.specs_mono hspec, howner⟩
      rcases hstage with hsame | ⟨-, hadvance⟩
      · exact hold (hsame ▸ href)
      · rcases hadvance.server_cases with ⟨hserver, -⟩ | ⟨spec, port, hstage, hlaunched, hspecs⟩
        · exact hold (hserver ▸ href)
        · rw [hlaunched, HostingStage.server?, Option.some.injEq, ← Fleet.length_specs] at href
          subst href
          refine ⟨spec, ?_, ?_⟩
          · rw [hspecs, List.getElem?_concat_length]
          · rw [hmoved]
            exact hhosted.drafts_owner asked hmem' spec (by simp [hstage, HostingStage.drafts])

/-- Servers and requests belong together after every run in which no identifier is drawn twice. -/
theorem hosted_run {config : Config} (logDir : Path) (files : FileSystem)
    (hmin : 0 < config.host.minPort) {steps : List (Surroundings × Action)}
    (hdrawn : (drawn steps).Nodup) :
    ((Traffic.start (.start config logDir files)).run steps).Hosted := by
  have hnothing : (Traffic.start (.start config logDir files)).Hosted := by
    refine ⟨?_, ?_, ?_, ?_⟩
    · intro asked hmem
      cases hmem
    · intro asked hmem
      cases hmem
    · intro i j asked asked' id hi
      cases hi
    · intro e he
      cases he
  exact keeps_run logDir files hmin hnothing hdrawn
    fun t env a hsound hgoes hhosted => hsound.hosted_step hgoes hhosted

end Traffic

end HostDaemon
