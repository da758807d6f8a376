import HostDaemon.Proofs.Requests.Files
import HostDaemon.Proofs.Requests.Integrity

/-! # What others learn of a server

  Two fleets that differ only in the secrets of one server and in the bytes of one file answer alike
  whoever neither owns the server nor is a moderator. Two requests are an exception: a list shows
  the identifier of every server, and a status shows it together with the last lines of the log.

  - `Fleet.AgreeBeside` says in what two fleets may differ.
  - `Fleet.AgreeBeside.forall₂_all` says that they list the same servers in the same order.
  - `Fleet.responses_agree` is the main result, for every request.
  - `Fleet.status_shows_log_and_list_shows_id` says that these two do tell everyone. -/

namespace HostDaemon

/-- A server without its secrets: without the identifier and the passwords that it was launched
    with, and without the passwords that are known by now. -/
def Server.veiled (s : Server) : Server :=
  { s with
    spec := { s.spec with credentials := ⟨"", "", ""⟩ }
    settings := ⟨s.settings.hostname, "", "", ""⟩ }

/-- What does not depend on the secrets is the same for servers that differ in nothing else. -/
theorem Server.eq_of_veiled {α : Type} {s s' : Server} (view : Server → α)
    (hview : ∀ s, view s.veiled = view s) (h : s'.veiled = s.veiled) : view s' = view s := by
  rw [← hview s', h, hview]

/-- Everyone may see nothing of the secrets but the identifier. -/
theorem Server.summary_of_veiled {s s' : Server} (h : s'.veiled = s.veiled) (now : Int64) :
    s'.summary now = { s.summary now with id := s'.id } :=
  eq_of_veiled (fun s => { s.summary now with id := s'.id }) (fun _ => rfl) h

/-- Two summaries are the same, or show the one and the other identifier of a server and agree in
    everything else. -/
def ServerSummary.AgreeBesideId (id id' : String) (a b : ServerSummary) : Prop :=
  b = a ∨ a.id = id ∧ b = { a with id := id' }

/-- Two responses that agree but for the identifier of a server in a list or a status, and for the
    lines of a log in a status, where that `showsLog`. -/
inductive Response.AgreeBeside (id id' : String) (showsLog : Prop) : Response → Response → Prop where
  /-- They are the same. -/
  | same (r : Response) : AgreeBeside id id' showsLog r r
  /-- They list the same servers in the same order. -/
  | serverList {a b : List ServerSummary}
      (h : List.Forall₂ (ServerSummary.AgreeBesideId id id') a b) :
      AgreeBeside id id' showsLog (.serverList a) (.serverList b)
  /-- They tell the status of the same server. -/
  | queryResult {a b : QueryReport}
      (hsummary : ServerSummary.AgreeBesideId id id' a.summary b.summary)
      (hrecent : ¬ showsLog → b.recent = a.recent) :
      AgreeBeside id id' showsLog (.queryResult a) (.queryResult b)

namespace Fleet

/-- Two fleets that differ at most in the secrets of a server and in the bytes of the file at a
    location. Who is launching is noted by identifiers, which may differ; nothing is said about
    supervisors, notices and questions about addresses, which no response shows. -/
structure AgreeBeside (ref : ServerRef) (log : Location) (f f' : Fleet) : Prop where
  /-- They have one configuration. -/
  config : f'.config = f.config
  /-- The log files lie in the same directory. -/
  logDir : f'.logDir = f.logDir
  /-- The policy is the same. -/
  store : f'.store = f.store
  /-- The files are the same but for the bytes of one. -/
  files : f.files.AgreeBeside log f'.files
  /-- The server is the same but for its secrets. -/
  veiled : (f'.server? ref).map Server.veiled = (f.server? ref).map Server.veiled
  /-- Every other server is the same. -/
  others : ∀ other, other ≠ ref → f'.server? other = f.server? other
  /-- The same servers are registered. -/
  registry : f'.registry = f.registry
  /-- The same servers are launching. -/
  launching : f'.launching.map (·.2) = f.launching.map (·.2)
  /-- The same requests hold a place. -/
  pending : f'.pending = f.pending
  /-- The same ports are claimed. -/
  ports : f'.ports = f.ports
  /-- Hosting is turned on in both or in none. -/
  isAccepting : f'.isAccepting = f.isAccepting

/-- A server as both fleets know it. -/
structure Same (f f' : Fleet) (a b : ServerRef × Server) : Prop where
  /-- It is one server. -/
  ref : b.1 = a.1
  /-- What the first fleet knows. -/
  before : f.server? a.1 = some a.2
  /-- What the second fleet knows. -/
  after : f'.server? a.1 = some b.2

/-- What everyone may see of a server that was just launched depends on nothing but how and when it
    was launched. -/
theorem summary_of_launch {f f' : Fleet} {env : Surroundings} {spec : LaunchSpec}
    {restarts : UInt32} {isRecovering : Bool} {port : UInt16} {ref : ServerRef}
    (h : f.launch env spec restarts isRecovering port = (.ok ref, f')) (now : Int64) :
    (f'.server? ref).map (·.summary now) = some
      (((Server.create spec "" restarts isRecovering env.now).setPid (some env.freshPid)).summary
        now) := by
  rcases f.launch_cases env spec restarts isRecovering port with
    ⟨e, files, hlaunch⟩ | ⟨files, logFile, log, hlaunch⟩
  · rw [hlaunch] at h
    cases h
  · rw [hlaunch] at h
    cases h
    simp only [adopt, addServer, enterLaunching, server?, List.getElem?_concat_length,
      Option.map_some]
    rfl

/-- An operation that says the same is answered alike. -/
theorem changed_fst {f f' : Fleet} {α : Type} (text : α → String)
    {result result' : Except RequestError (α × Fleet)}
    (h : result'.map (·.1) = result.map (·.1)) :
    (f'.changed text result').1 = (f.changed text result).1 := by
  cases result with
  | error e =>
    cases result' with
    | error e' =>
      cases h
      rfl
    | ok done => cases h
  | ok done =>
    cases result' with
    | error e' => cases h
    | ok done' =>
      obtain ⟨a, g⟩ := done
      obtain ⟨a', g'⟩ := done'
      cases h
      rfl

/-- What only looks is answered by what it finds. -/
theorem answered_fst (f f' : Fleet) {α : Type} (respond : α → Response)
    (result : Except RequestError α) :
    (f'.answered respond result).1 = (f.answered respond result).1 := by
  cases result <;> rfl

namespace AgreeBeside

variable {ref : ServerRef} {log : Location} {f f' : Fleet} {env : Surroundings}

/-! ### Servers -/

/-- What two fleets know of a server. -/
theorem server?_cases (h : AgreeBeside ref log f f') (other : ServerRef) :
    (f.server? other = none ∧ f'.server? other = none) ∨
    ∃ s s', f.server? other = some s ∧ f'.server? other = some s' ∧ s'.veiled = s.veiled := by
  have hveiled : (f'.server? other).map Server.veiled = (f.server? other).map Server.veiled := by
    by_cases heq : other = ref
    · rw [heq]
      exact h.veiled
    · rw [h.others other heq]
  cases hbefore : f.server? other with
  | none =>
    rw [hbefore, Option.map_none, Option.map_eq_none_iff] at hveiled
    exact Or.inl ⟨rfl, hveiled⟩
  | some s =>
    rw [hbefore, Option.map_some, Option.map_eq_some_iff] at hveiled
    obtain ⟨s', hafter, hsame⟩ := hveiled
    exact Or.inr ⟨s, s', rfl, hafter, hsame⟩

theorem veiled_of_same (h : AgreeBeside ref log f f') {a b : ServerRef × Server}
    (hsame : Same f f' a b) : b.2.veiled = a.2.veiled := by
  rcases h.server?_cases a.1 with ⟨hnone, -⟩ | ⟨s, s', hs, hs', hveiled⟩
  · rw [hsame.before] at hnone
    cases hnone
  · rw [hsame.before, Option.some.injEq] at hs
    rw [hsame.after, Option.some.injEq] at hs'
    rw [hs, hs']
    exact hveiled

theorem eq_of_same (h : AgreeBeside ref log f f') {a b : ServerRef × Server}
    (hsame : Same f f' a b) (hne : a.1 ≠ ref) : b.2 = a.2 := by
  have hother := h.others a.1 hne
  rw [hsame.before, hsame.after, Option.some.injEq] at hother
  exact hother

/-- As many servers were made in both. -/
theorem length_servers (h : AgreeBeside ref log f f') : f'.servers.length = f.servers.length := by
  -- A server is missing in one where it is missing in the other.
  have hnone : ∀ other, f'.server? other = none ↔ f.server? other = none := by
    intro other
    rcases h.server?_cases other with ⟨hbefore, hafter⟩ | ⟨s, s', hbefore, hafter, -⟩
    · simp [hbefore, hafter]
    · simp [hbefore, hafter]
  have hle := (hnone f.servers.length).2 (List.getElem?_eq_none_iff.2 (Nat.le_refl _))
  have hge := (hnone f'.servers.length).1 (List.getElem?_eq_none_iff.2 (Nat.le_refl _))
  rw [server?, List.getElem?_eq_none_iff] at hle hge
  omega

/-- Some servers as both fleets know them. -/
theorem exists_paired (h : AgreeBeside ref log f f') (refs : List ServerRef) :
    ∃ pairs : List (ServerRef × Server × Server),
      (∀ e ∈ pairs, Same f f' (e.1, e.2.1) (e.1, e.2.2)) ∧
      refs.filterMap (fun r => (f.server? r).map (r, ·)) = pairs.map (fun e => (e.1, e.2.1)) ∧
      refs.filterMap (fun r => (f'.server? r).map (r, ·)) = pairs.map fun e => (e.1, e.2.2) := by
  induction refs with
  | nil => exact ⟨[], by simp, rfl, rfl⟩
  | cons first rest ih =>
    obtain ⟨pairs, hsame, hbefore, hafter⟩ := ih
    rcases h.server?_cases first with ⟨hnone, hnone'⟩ | ⟨s, s', hs, hs', -⟩
    · refine ⟨pairs, hsame, ?_, ?_⟩
      · rw [List.filterMap_cons, hnone, Option.map_none, hbefore]
      · rw [List.filterMap_cons, hnone', Option.map_none, hafter]
    · refine ⟨(first, s, s') :: pairs, ?_, ?_, ?_⟩
      · intro e he
        rcases List.mem_cons.1 he with rfl | hrest
        · exact ⟨rfl, hs, hs'⟩
        · exact hsame e hrest
      · rw [List.filterMap_cons, hs, Option.map_some, hbefore, List.map_cons]
      · rw [List.filterMap_cons, hs', Option.map_some, hafter, List.map_cons]

theorem forall₂_of_pairs {pairs : List (ServerRef × Server × Server)}
    (hsame : ∀ e ∈ pairs, Same f f' (e.1, e.2.1) (e.1, e.2.2)) :
    List.Forall₂ (Same f f') (pairs.map fun e => (e.1, e.2.1))
      (pairs.map fun e => (e.1, e.2.2)) := by
  rw [List.forall₂_map_left_iff, List.forall₂_map_right_iff, List.forall₂_same]
  exact hsame

/-- What does not depend on secrets is the same for servers that are found in the same order. -/
theorem map_eq {α : Type} (h : AgreeBeside ref log f f') (view : Server → α)
    (hview : ∀ s, view s.veiled = view s) {found found' : List (ServerRef × Server)}
    (hfound : List.Forall₂ (Same f f') found found') :
    found'.map (fun e => view e.2) = found.map fun e => view e.2 := by
  induction hfound with
  | nil => rfl
  | cons hsame _ ih =>
    rw [List.map_cons, List.map_cons, ih, Server.eq_of_veiled view hview (h.veiled_of_same hsame)]

/-- Registered servers are found in the same order. -/
theorem forall₂_all (h : AgreeBeside ref log f f') : List.Forall₂ (Same f f') f.all f'.all := by
  obtain ⟨pairs, hsame, hbefore, hafter⟩ := h.exists_paired f.registry.servers
  -- The order goes by ports, which are no secrets.
  have hport : ∀ e ∈ pairs, e.2.2.port = e.2.1.port := by
    intro e he
    exact Server.eq_of_veiled (·.port) (fun _ => rfl) (h.veiled_of_same (hsame e he))
  have hall : f.all =
      (pairs.mergeSort fun a b => a.2.1.port ≤ b.2.1.port).map fun e => (e.1, e.2.1) := by
    rw [all, inPortOrder, hbefore]
    refine Eq.symm (List.map_mergeSort ?_)
    exact fun a _ b _ => rfl
  have hall' : f'.all =
      (pairs.mergeSort fun a b => a.2.1.port ≤ b.2.1.port).map fun e => (e.1, e.2.2) := by
    rw [all, inPortOrder, h.registry, hafter]
    refine Eq.symm (List.map_mergeSort ?_)
    intro a ha b hb
    rw [hport a ha, hport b hb]
  rw [hall, hall']
  exact forall₂_of_pairs fun e he => hsame e (List.mem_mergeSort.1 he)

/-- The servers of an owner are found in the same order. -/
theorem forall₂_ofOwner (h : AgreeBeside ref log f f') (owner : String) :
    List.Forall₂ (Same f f') (f.ofOwner owner) (f'.ofOwner owner) := by
  unfold ofOwner
  generalize f.all = found, f'.all = found', h.forall₂_all = hall
  induction hall with
  | nil => exact .nil
  | @cons a b _ _ hsame _ ih =>
    obtain ⟨first, s⟩ := a
    obtain ⟨first', s'⟩ := b
    have howner : s'.isOwnedBy owner = s.isOwnedBy owner :=
      Server.eq_of_veiled (·.isOwnedBy owner) (fun _ => rfl) (h.veiled_of_same hsame)
    simp only [List.filter_cons, howner]
    split
    · exact .cons hsame ih
    · exact ih

/-- Any other secrets and any other bytes will do. -/
theorem of_secrets (f : Fleet) (ref : ServerRef) (log : Location) (change change' : Server → Server)
    (hchange : ∀ s, (change s).veiled = s.veiled) (hchange' : ∀ s, (change' s).veiled = s.veiled)
    (bytes bytes' : List UInt8) (runnable : Bool) :
    AgreeBeside ref log
      { f.update ref change with files := f.files.put log (.file bytes runnable) }
      { f.update ref change' with files := f.files.put log (.file bytes' runnable) } where
  config := rfl
  logDir := rfl
  store := rfl
  files := .of_put f.files log bytes bytes' runnable
  veiled := by
    have hsame : ∀ {change : Server → Server}, (∀ s, (change s).veiled = s.veiled) →
        ((f.update ref change).server? ref).map Server.veiled =
          (f.server? ref).map Server.veiled := by
      intro change hchange
      rw [server?_update, if_pos rfl, Option.map_map]
      exact Option.map_congr fun s _ => hchange s
    exact (hsame hchange').trans (hsame hchange).symm
  others := fun other hne => by
    have hsame : ∀ change : Server → Server,
        (f.update ref change).server? other = f.server? other := by
      intro change
      rw [server?_update, if_neg hne]
    exact (hsame change').trans (hsame change).symm
  registry := rfl
  launching := rfl
  pending := rfl
  ports := rfl
  isAccepting := rfl

/-! ### Places in the quota -/

theorem pendingOf_eq (h : AgreeBeside ref log f f') (owner : String) :
    f'.pendingOf owner = f.pendingOf owner :=
  pendingOf_of_pending h.pending owner

theorem registeredOf_eq (h : AgreeBeside ref log f f') (owner : String) :
    f'.registeredOf owner = f.registeredOf owner :=
  (h.forall₂_ofOwner owner).length_eq.symm

theorem launchingOf_eq (h : AgreeBeside ref log f f') (owner : String) :
    f'.launchingOf owner = f.launchingOf owner := by
  have hservers : ∀ f : Fleet, f.launchingServers =
      (f.launching.map (·.2)).filterMap fun r => (f.server? r).map (r, ·) := by
    intro f
    rw [launchingServers, List.filterMap_map]
    rfl
  obtain ⟨pairs, hsame, hbefore, hafter⟩ := h.exists_paired (f.launching.map (·.2))
  rw [launchingOf, launchingOf, hservers, hservers, h.launching, hbefore, hafter]
  rw [List.filter_map, List.filter_map, List.length_map, List.length_map]
  congr 1
  apply List.filter_congr
  intro e he
  exact Server.eq_of_veiled (·.isOwnedBy owner) (fun _ => rfl) (h.veiled_of_same (hsame e he))

/-- A place that is taken in both is nothing by which they differ. -/
theorem holdPlace (h : AgreeBeside ref log f f') (owner : String) :
    AgreeBeside ref log (f.holdPlace owner) (f'.holdPlace owner) := by
  refine { h with pending := ?_ }
  simp only [Fleet.holdPlace, setPending, h.pendingOf_eq, h.pending]

/-! ### Hosting requests -/

theorem buildSpec_eq (h : AgreeBeside ref log f f') {registered : List UInt16}
    {owner optionLine : String} {level : AccountLevel} {port : Option UInt16} {recovering : Bool}
    (hwads : ∀ options, OptionList.parse optionLine = .ok options →
      ∀ wad ∈ (f.buildContext env registered).namedWads options port,
        ¬ f.files.LeadsTo (f.config.resolveWad wad) log) :
    f'.buildSpec env registered owner level optionLine port recovering =
      f.buildSpec env registered owner level optionLine port recovering := by
  have hcontext : f'.buildContext env registered =
      { f.buildContext env registered with files := f'.files } := by
    simp only [buildContext, h.config, h.store, h.ports]
  unfold buildSpec
  cases hparse : OptionList.parse optionLine with
  | error e => rfl
  | ok options =>
    have hbuild := BuildContext.build_congr (b := f.buildContext env registered) h.files
      (hwads options hparse) owner level recovering env.freshId
    simp only [hcontext, hbuild]

theorem reserveFor_cases (h : AgreeBeside ref log f f') (env : Surroundings) (spec : LaunchSpec) :
    (∃ e, f.reserveFor env spec = .error e ∧ f'.reserveFor env spec = .error e) ∨
    ∃ port ports, f.reserveFor env spec = .ok (port, { f with ports := ports }) ∧
      f'.reserveFor env spec = .ok (port, { f' with ports := ports }) := by
  unfold reserveFor
  rw [h.ports]
  cases spec.requestedPort with
  | some port =>
    simp only
    cases f.ports.reserve env.isFree port with
    | ok ports => exact Or.inr ⟨port, ports, rfl, rfl⟩
    | error e => cases e <;> exact Or.inl ⟨_, rfl, rfl⟩
  | none =>
    simp only
    cases f.ports.reserveFirst? env.isFree with
    | some claim => exact Or.inr ⟨claim.1, claim.2, rfl, rfl⟩
    | none => exact Or.inl ⟨_, rfl, rfl⟩

/-- A launch succeeds in both, or fails in both for the same reason. -/
theorem launch_fst (h : AgreeBeside ref log f f') (env : Surroundings) (spec : LaunchSpec)
    (restarts : UInt32) (isRecovering : Bool) (port : UInt16) :
    (f'.launch env spec restarts isRecovering port).1 =
      (f.launch env spec restarts isRecovering port).1 := by
  have howners : f'.ownerDirectories = f.ownerDirectories := by
    rw [ownerDirectories, ownerDirectories, h.config]
  have hbanner : ∀ commandLine, f'.bannerOf spec.owner commandLine =
      f.bannerOf spec.owner commandLine := by
    intro commandLine
    rw [bannerOf, bannerOf, h.config]
  obtain ⟨hresult, hmade⟩ := h.files.ensureOwnerFiles_agree spec.owner f.ownerDirectories
  unfold launch
  simp only [h.config, h.logDir, h.files.isDirectory_eq, howners, hbanner]
  split
  next => rfl
  next =>
    cases hbefore : f.files.ensureOwnerFiles spec.owner f.ownerDirectories with
    | mk result made =>
      cases hafter : f'.files.ensureOwnerFiles spec.owner f.ownerDirectories with
      | mk result' made' =>
        rw [hbefore, hafter] at hresult hmade
        simp only at hresult hmade
        subst hresult
        cases result' with
        | error e => rfl
        | ok done =>
          simp only [hmade.checkSpawn_eq]
          cases made.checkSpawn (spec.commandLine f.config port) with
          | error e => rfl
          | ok done =>
            simp only
            obtain ⟨hlog, -⟩ := hmade.openLog_agree (serverLog f.logDir spec.credentials.id)
              ((f.bannerOf spec.owner (spec.commandLine f.config port)).render env.nowSeconds)
            revert hlog
            cases made.openLog (serverLog f.logDir spec.credentials.id)
              ((f.bannerOf spec.owner (spec.commandLine f.config port)).render env.nowSeconds) with
            | mk opened _ =>
              cases made'.openLog (serverLog f.logDir spec.credentials.id)
                ((f.bannerOf spec.owner (spec.commandLine f.config port)).render
                  env.nowSeconds) with
              | mk opened' _ =>
                rintro rfl
                cases opened' with
                | error e => rfl
                | ok there => exact congrArg Except.ok h.length_servers

theorem hostChecked_fst (h : AgreeBeside ref log f f') {owner optionLine : String}
    {level : AccountLevel} {port : Option UInt16} {recovering : Bool}
    (hwads : ∀ options, OptionList.parse optionLine = .ok options →
      ∀ wad ∈ (f.buildContext env f.registry.ports).namedWads options port,
        ¬ f.files.LeadsTo (f.config.resolveWad wad) log) :
    (f'.hostChecked env owner level optionLine port recovering).1 =
      (f.hostChecked env owner level optionLine port recovering).1 := by
  unfold hostChecked
  rw [h.registry, h.buildSpec_eq hwads]
  cases f.buildSpec env f.registry.ports owner level optionLine port recovering with
  | error e => rfl
  | ok spec =>
    simp only
    rcases h.reserveFor_cases env spec with ⟨e, hbefore, hafter⟩ |
      ⟨port, ports, hbefore, hafter⟩
    · rw [hbefore, hafter]
    · rw [hbefore, hafter]
      have hclaimed : AgreeBeside ref log { f with ports := ports } { f' with ports := ports } :=
        { h with ports := rfl }
      have hresult := hclaimed.launch_fst env spec 0 recovering port
      cases hlaunch : launch { f with ports := ports } env spec 0 recovering port with
      | mk result g =>
        cases hlaunch' : launch { f' with ports := ports } env spec 0 recovering port with
        | mk result' g' =>
          rw [hlaunch, hlaunch'] at hresult
          simp only at hresult
          subst hresult
          cases result' with
          | error e => simp only [hlaunch, hlaunch']
          | ok launched =>
            -- What is answered of the new server says nothing about where it was launched.
            have hsummary := summary_of_launch hlaunch env.now
            have hsummary' := summary_of_launch hlaunch' env.now
            obtain ⟨s, hs, hshown⟩ := Option.map_eq_some_iff.1 hsummary
            obtain ⟨s', hs', hshown'⟩ := Option.map_eq_some_iff.1 hsummary'
            simp only [hlaunch, hlaunch', hs, hs', hshown, hshown']

/-- A hosting request is answered alike, unless it names the file as a game file. -/
theorem host_fst (h : AgreeBeside ref log f f') {owner optionLine : String} {port : Option UInt16}
    {recovering : Bool}
    (hwads : ∀ options, OptionList.parse optionLine = .ok options →
      ∀ wad ∈ (f.buildContext env f.registry.ports).namedWads options port,
        ¬ f.files.LeadsTo (f.config.resolveWad wad) log) :
    (f'.host env owner optionLine port recovering).1 =
      (f.host env owner optionLine port recovering).1 := by
  have hrequire : f'.require owner .registered = f.require owner .registered := by
    rw [require, require, h.store]
  unfold host
  rw [h.isAccepting, hrequire]
  split
  next => rfl
  next =>
    cases f.require owner .registered with
    | error e => rfl
    | ok level =>
      simp only
      split
      next => exact h.hostChecked_fst hwads
      next =>
        rw [claimQuota, claimQuota, grantPlace, grantPlace, h.store, h.pendingOf_eq,
          h.launchingOf_eq, h.registeredOf_eq]
        by_cases hfull : (f.store.quota owner).toNat ≤
            f.pendingOf owner + f.launchingOf owner + f.registeredOf owner
        · rw [if_pos hfull, if_pos hfull]
        · rw [if_neg hfull, if_neg hfull]
          exact (h.holdPlace owner).hostChecked_fst hwads

/-! ### Requests that change something -/

/-- Under a port there is the same server. -/
theorem lookup_cases (h : AgreeBeside ref log f f') (port : UInt16) :
    (f.lookup port = none ∧ f'.lookup port = none) ∨
    ∃ found s s', f.lookup port = some (found, s) ∧ f'.lookup port = some (found, s') ∧
      Same f f' (found, s) (found, s') := by
  unfold lookup
  rw [h.registry]
  cases f.registry.lookup port with
  | none => exact Or.inl ⟨rfl, rfl⟩
  | some found =>
    simp only [Option.bind_some]
    rcases h.server?_cases found with ⟨hnone, hnone'⟩ | ⟨s, s', hs, hs', -⟩
    · rw [hnone, hnone']
      exact Or.inl ⟨rfl, rfl⟩
    · rw [hs, hs']
      exact Or.inr ⟨found, s, s', rfl, rfl, rfl, hs, hs'⟩

/-- Who may act on a server may do so in both. -/
theorem authorized_cases (h : AgreeBeside ref log f f') (port : UInt16) (who : String)
    (required : AccountLevel) :
    (∃ e, f.authorized port who required = .error e ∧
      f'.authorized port who required = .error e) ∨
    ∃ found s s' owns, f.authorized port who required = .ok (found, s, owns) ∧
      f'.authorized port who required = .ok (found, s', owns) ∧
      Same f f' (found, s) (found, s') := by
  have hrequire : f'.require who required = f.require who required := by
    rw [require, require, h.store]
  unfold authorized controlled
  rw [hrequire]
  cases f.require who required with
  | error e => exact Or.inl ⟨e, rfl, rfl⟩
  | ok level =>
    simp only
    rcases h.lookup_cases port with ⟨hnone, hnone'⟩ | ⟨found, s, s', hs, hs', hsame⟩
    · rw [hnone, hnone']
      exact Or.inl ⟨_, rfl, rfl⟩
    · have howner : s'.isOwnedBy who = s.isOwnedBy who :=
        Server.eq_of_veiled (·.isOwnedBy who) (fun _ => rfl) (h.veiled_of_same hsame)
      rw [hs, hs']
      simp only [howner]
      split
      · exact Or.inl ⟨_, rfl, rfl⟩
      · exact Or.inr ⟨found, s, s', s.isOwnedBy who, rfl, rfl, hsame⟩

theorem killOn_eq (h : AgreeBeside ref log f f') (port : UInt16) (who : String) :
    (f'.killOn port who).map (·.1) = (f.killOn port who).map (·.1) := by
  unfold killOn
  rcases h.authorized_cases port who .registered with ⟨e, hbefore, hafter⟩ |
    ⟨found, s, s', owns, hbefore, hafter, -⟩
  · rw [hbefore, hafter]
  · rw [hbefore, hafter]
    rfl

theorem killMine_eq (h : AgreeBeside ref log f f') (who : String) :
    (f'.killMine who).map (·.1) = (f.killMine who).map (·.1) := by
  have hrequire : f'.require who .registered = f.require who .registered := by
    rw [require, require, h.store]
  have hmine := h.forall₂_ofOwner who
  have hports := h.map_eq (fun s => toString s.port) (fun _ => rfl) hmine
  have hempty : (f'.ofOwner who).isEmpty = (f.ofOwner who).isEmpty := by
    rw [Bool.eq_iff_iff, List.isEmpty_iff_length_eq_zero, List.isEmpty_iff_length_eq_zero,
      hmine.length_eq]
  unfold killMine
  rw [hrequire]
  cases f.require who .registered with
  | error e => rfl
  | ok level =>
    simp only [hempty]
    split
    · rfl
    · simp only [Except.map]
      rw [hports, hmine.length_eq]

theorem protect_eq (h : AgreeBeside ref log f f') (port : UInt16) (who : String) :
    (f'.protect port who).map (·.1) = (f.protect port who).map (·.1) := by
  unfold protect
  rcases h.authorized_cases port who .vip with ⟨e, hbefore, hafter⟩ |
    ⟨found, s, s', owns, hbefore, hafter, hsame⟩
  · rw [hbefore, hafter]
  · have hprotected : s'.isProtected = s.isProtected :=
      Server.eq_of_veiled (·.isProtected) (fun _ => rfl) (h.veiled_of_same hsame)
    rw [hbefore, hafter]
    simp only [Except.map, hprotected]

/-- A console is no secret, so that it takes the same lines. -/
theorem writeLines_fst (h : AgreeBeside ref log f f') (other : ServerRef) (lines : List String) :
    (f'.writeLines other lines).1 = (f.writeLines other lines).1 := by
  unfold writeLines
  rcases h.server?_cases other with ⟨hnone, hnone'⟩ | ⟨s, s', hs, hs', hveiled⟩
  · rw [hnone, hnone']
  · have hconsole : s'.console = s.console :=
      Server.eq_of_veiled (·.console) (fun _ => rfl) hveiled
    simp only [hs, hs', hconsole]

theorem send_fst (h : AgreeBeside ref log f f') (port : UInt16) (command who : String) :
    (f'.send port command who).1 = (f.send port command who).1 := by
  unfold send
  rcases h.authorized_cases port who .registered with ⟨e, hbefore, hafter⟩ |
    ⟨found, s, s', owns, hbefore, hafter, -⟩
  · rw [hbefore, hafter]
  · rw [hbefore, hafter, h.config]
    simp only
    cases ConsoleCommand.prepare? command who (some f.config.host.hostnameBase) with
    | none => rfl
    | some lines =>
      have htaken := h.writeLines_fst found lines
      simp only
      revert htaken
      cases f.writeLines found lines with
      | mk taken g =>
        cases f'.writeLines found lines with
        | mk taken' g' =>
          rintro rfl
          cases taken' <;> rfl

/-! ### Requests that only look -/

/-- The secrets of a server of another owner are shown to nobody who is no moderator. -/
theorem info_eq (h : AgreeBeside ref log f f') {s : Server} (hs : f.server? ref = some s)
    {who : String} (hlevel : (f.store.level who).atLeast .moderator = false)
    (hother : s.isOwnedBy who = false) (port : UInt16) : f'.info port who = f.info port who := by
  unfold info
  rcases h.authorized_cases port who .registered with ⟨e, hbefore, hafter⟩ |
    ⟨found, o, o', owns, hbefore, hafter, hsame⟩
  · rw [hbefore, hafter]
  · have hne := ne_of_authorized hlevel hs hother hbefore
    have heq : o' = o := h.eq_of_same hsame (Ne.symm hne)
    rw [hbefore, hafter, heq]

/-- The log of a server is shown to nobody who neither owns a server that logs into the same file nor
    is a moderator. -/
theorem log_eq (h : AgreeBeside ref log f f') {s : Server} (hs : f.server? ref = some s)
    {who : String} (hlevel : (f.store.level who).atLeast .moderator = false)
    (hother : s.isOwnedBy who = false)
    (hlogs : ∀ other o, f.server? other = some o → o.isOwnedBy s.owner = false →
      ¬ f.files.LeadsTo o.logFile log) (port : UInt16) (lines : UInt64) :
    f'.log port lines who = f.log port lines who := by
  unfold Fleet.log
  rcases h.authorized_cases port who .registered with ⟨e, hbefore, hafter⟩ |
    ⟨found, o, o', owns, hbefore, hafter, hsame⟩
  · rw [hbefore, hafter]
  · have hne := ne_of_authorized hlevel hs hother hbefore
    have heq : o' = o := h.eq_of_same hsame (Ne.symm hne)
    obtain ⟨-, howner⟩ := owns_of_authorized hlevel hbefore
    -- The owner of the server that is asked about is another one.
    have hapart : o.isOwnedBy s.owner = false := by
      rw [Server.isOwnedBy, ← Bool.not_eq_true, Text.sameLetters_iff] at hother ⊢
      rw [Server.isOwnedBy, Text.sameLetters_iff] at howner
      exact fun hsame => hother (hsame.symm.trans howner)
    have hlines := h.files.lastLines_eq (hlogs found o hsame.before hapart) lines.toNat
    rw [hbefore, hafter, heq]
    simp only [hlines]

/-- What everyone may see of a server is the same, but for the identifier of one. -/
theorem summary_agree (h : AgreeBeside ref log f f') {s s' : Server} (hs : f.server? ref = some s)
    (hs' : f'.server? ref = some s') {a b : ServerRef × Server} (hsame : Same f f' a b)
    (now : Int64) : ServerSummary.AgreeBesideId s.id s'.id (a.2.summary now) (b.2.summary now) := by
  have hbefore := hsame.before
  have hafter := hsame.after
  by_cases heq : a.1 = ref
  · rw [heq, hs, Option.some.injEq] at hbefore
    rw [heq, hs', Option.some.injEq] at hafter
    right
    have hveiled := h.veiled_of_same hsame
    rw [← hbefore, ← hafter] at hveiled ⊢
    exact ⟨rfl, Server.summary_of_veiled hveiled now⟩
  · left
    rw [h.eq_of_same hsame heq]

/-- A list shows the same servers in the same order. -/
theorem list_agree (h : AgreeBeside ref log f f') {s s' : Server} (hs : f.server? ref = some s)
    (hs' : f'.server? ref = some s') (owner : Option String) :
    List.Forall₂ (ServerSummary.AgreeBesideId s.id s'.id) (f.list env owner)
      (f'.list env owner) := by
  have hshown : ∀ a b, Same f f' a b →
      ServerSummary.AgreeBesideId s.id s'.id (a.2.summary env.now) (b.2.summary env.now) :=
    fun a b hsame => h.summary_agree hs hs' hsame env.now
  unfold list
  rw [List.forall₂_map_left_iff, List.forall₂_map_right_iff]
  cases owner with
  | none => exact h.forall₂_all.imp hshown
  | some owner => exact (h.forall₂_ofOwner owner).imp hshown

/-- A status is the same, but for the identifier of one server and for lines of the log, where that
    is the one that may differ. -/
theorem query_agree (h : AgreeBeside ref log f f') {s s' : Server} (hs : f.server? ref = some s)
    (hs' : f'.server? ref = some s') (port : UInt16) :
    Response.AgreeBeside s.id s'.id
      (∃ other o, f.lookup port = some (other, o) ∧ f.files.LeadsTo o.logFile log)
      (f.answered .queryResult (f.query env port)).1
      (f'.answered .queryResult (f'.query env port)).1 := by
  unfold query probe
  rcases h.lookup_cases port with ⟨hnone, hnone'⟩ | ⟨found, o, o', ho, ho', hsame⟩
  · rw [hnone, hnone']
    exact .same _
  · have hfile : o'.logFile = o.logFile :=
      Server.eq_of_veiled (·.logFile) (fun _ => rfl) (h.veiled_of_same hsame)
    rw [ho, ho']
    simp only [hfile]
    rcases h.files.lastLines_cases o.logFile queryLines with ⟨e, hbefore, hafter⟩ |
      ⟨lines, lines', hbefore, hafter, hlines⟩
    · rw [hbefore, hafter]
      exact .same _
    · rw [hbefore, hafter]
      refine .queryResult (h.summary_agree hs hs' hsame env.now) fun hother => ?_
      exact hlines fun hlog => hother ⟨found, o, rfl, hlog⟩

end AgreeBeside

/-! ### All requests -/

/-- The game files besides the main one that a request names. -/
def namedWads (f : Fleet) (env : Surroundings) : Request → List WadRef
  | .host _ optionLine port _ =>
    match OptionList.parse optionLine with
    | .ok options => (f.buildContext env f.registry.ports).namedWads options port
    | .error _ => []
  | _ => []

/-- A request asks for the status of a server that logs into the file at a location. -/
def ShowsLog (f : Fleet) (log : Location) (r : Request) : Prop :=
  ∃ port other o, r = .query port ∧ f.lookup port = some (other, o) ∧ f.files.LeadsTo o.logFile log

/-- Who neither owns a server nor is a moderator learns nothing of its secrets and its log from a
    response, where the log is nobody else's file: neither a game file that the request names nor
    the log of another owner's server. Lists and statuses are for everyone. They tell the identifier
    of the server, and a status tells the last lines of the log. -/
theorem responses_agree (f f' : Fleet) (ref : ServerRef) (log : Location) (s s' : Server)
    (h : AgreeBeside ref log f f') (hs : f.server? ref = some s) (hs' : f'.server? ref = some s')
    (hlogs : ∀ other o, f.server? other = some o → o.isOwnedBy s.owner = false →
      ¬ f.files.LeadsTo o.logFile log) (env : Surroundings) (r : Request)
    (hwads : ∀ wad ∈ f.namedWads env r, ¬ f.files.LeadsTo (f.config.resolveWad wad) log)
    (hwho : ∀ who, r.requester? = some who →
      s.isOwnedBy who = false ∧ (f.store.level who).atLeast .moderator = false) :
    match r with
    | .list _ | .query _ =>
      Response.AgreeBeside s.id s'.id (f.ShowsLog log r) (f.dispatch env r).1 (f'.dispatch env r).1
    | _ => (f'.dispatch env r).1 = (f.dispatch env r).1 := by
  -- What needs a level that the requester does not have is refused in both alike.
  have hlow : ∀ {who : String} (required : AccountLevel), r.requester? = some who →
      AccountLevel.rank .moderator ≤ AccountLevel.rank required →
      f.require who required = .error (.permission required) ∧
        f'.require who required = .error (.permission required) := by
    intro who required hname hrank
    have hlevel := AccountLevel.atLeast_eq_false (hwho who hname).2 hrank
    refine ⟨require_eq_error hlevel, require_eq_error ?_⟩
    rw [h.store]
    exact hlevel
  cases r with
  | list owner => exact .serverList (h.list_agree hs hs' owner)
  | query port =>
    have hshows : f.ShowsLog log (.query port) ↔
        ∃ other o, f.lookup port = some (other, o) ∧ f.files.LeadsTo o.logFile log := by
      simp [ShowsLog]
    simp only [hshows]
    exact h.query_agree hs hs' port
  | host owner optionLine port recovering =>
    have hhost : (f'.host env owner optionLine port recovering).1 =
        (f.host env owner optionLine port recovering).1 := by
      refine h.host_fst fun options hparse wad hwad => hwads wad ?_
      simp only [namedWads, hparse]
      exact hwad
    simp only [dispatch]
    revert hhost
    cases f.host env owner optionLine port recovering with
    | mk result g =>
      cases f'.host env owner optionLine port recovering with
      | mk result' g' =>
        rintro rfl
        cases result' <;> rfl
  | send who port command =>
    have hsend := h.send_fst port command who
    simp only [dispatch]
    revert hsend
    cases f.send port command who with
    | mk result g =>
      cases f'.send port command who with
      | mk result' g' =>
        rintro rfl
        cases result' <;> rfl
  | kill who port => exact changed_fst id (h.killOn_eq port who)
  | killMine who => exact changed_fst id (h.killMine_eq who)
  | protect who port => exact changed_fst id (h.protect_eq port who)
  | info who port =>
    obtain ⟨hother, hlevel⟩ := hwho who rfl
    simp only [dispatch, h.info_eq hs hlevel hother, answered_fst f f']
  | log who port lines =>
    obtain ⟨hother, hlevel⟩ := hwho who rfl
    simp only [dispatch, h.log_eq hs hlevel hother hlogs, answered_fst f f']
  | killAll who | killVersion who | sendAll who | accepting who =>
    obtain ⟨hrefused, hrefused'⟩ := hlow .admin rfl (by decide)
    refine changed_fst _ ?_
    simp only [killAll, killVersion, sendAll, setAccepting, hrefused, hrefused', Except.map]
  | killInactive who | cleanup who | broadcast who =>
    obtain ⟨hrefused, hrefused'⟩ := hlow .moderator rfl (by decide)
    refine changed_fst _ ?_
    simp only [killInactive, cleanUp, broadcast, hrefused, hrefused', Except.map]
  | shutdown => rfl

/-- A list shows the identifiers of all registered servers. -/
theorem mem_ids_list_iff {f : Fleet} {env : Surroundings} {id : String} :
    id ∈ (f.list env none).map (·.id) ↔
      ∃ ref s, (ref ∈ f.registry.servers ∧ f.server? ref = some s) ∧ s.id = id := by
  simp only [list, List.map_map, List.mem_map, Prod.exists, mem_all_iff]
  rfl

/-! ### What the other account is told on the small machine -/

/-- A server with some secrets. -/
def withSecrets (id password : String) (s : Server) : Server :=
  { s with
    spec := { s.spec with credentials := .ofId id }
    settings := { s.settings with rconPassword := password } }

/-- The small machine with two accounts, where the server of the one has some secrets and a log. -/
def tellingFleet (id password line : String) : Fleet :=
  let files : FileSystem := ⟨[(["l"], .directory), (["l", "b.txt"], .file [] false)]⟩
  { sharedFleet.update 0 (withSecrets id password) with
    files := files.put ["l", "a.txt"] (.file (Text.Utf8.bytesOf line) false) }

theorem agreeBeside_tellingFleet (id id' password password' line line' : String) :
    AgreeBeside 0 ["l", "a.txt"] (tellingFleet id password line)
      (tellingFleet id' password' line') :=
  .of_secrets { sharedFleet with files := ⟨[(["l"], .directory), (["l", "b.txt"], .file [] false)]⟩ }
    0 ["l", "a.txt"] (withSecrets id password) (withSecrets id' password') (fun _ => rfl)
    (fun _ => rfl) (Text.Utf8.bytesOf line) (Text.Utf8.bytesOf line') false

/-- The other account is told nothing when it asks for the secrets of the one server. -/
theorem info_agrees_for_bo :
    let f := tellingFleet "a" "p" "one\n"
    let f' := tellingFleet "x" "q" "two\n"
    (f'.dispatch (sharedSurroundings "c") (.info "bo" 10)).1 =
      (f.dispatch (sharedSurroundings "c") (.info "bo" 10)).1 := by
  intro f f'
  obtain ⟨hlength, hal, hal', hbo, hlevel⟩ : f.servers.length = 2 ∧
      (f.server? 0).map (fun s => (s.isOwnedBy "bo", s.owner)) = some (false, "al") ∧
      (f'.server? 0).isSome = true ∧
      (f.server? 1).map (fun s => (f.files.locate s.logFile).toOption.map (·.1)) =
        some (some ["l", "b.txt"]) ∧
      (f.store.level "bo").atLeast .moderator = false := by decide +kernel
  obtain ⟨s, hs, howner⟩ := Option.map_eq_some_iff.1 hal
  obtain ⟨s', hs'⟩ := Option.isSome_iff_exists.1 hal'
  obtain ⟨hother, howner⟩ := Prod.mk.inj howner
  refine responses_agree f f' 0 ["l", "a.txt"] s s' (agreeBeside_tellingFleet _ _ _ _ _ _) hs hs' ?_
    (sharedSurroundings "c") (.info "bo" 10) ?_ ?_
  · -- There are two servers, of which the second one logs into a file of its own.
    intro other o ho hapart
    match other with
    | 0 =>
      rw [hs, Option.some.injEq] at ho
      rw [← ho, Server.isOwnedBy, Server.owner, Text.sameLetters_iff.2 rfl] at hapart
      cases hapart
    | 1 =>
      rintro ⟨node, hlocate⟩
      rw [ho, Option.map_some, hlocate] at hbo
      have hsame : ["l", "a.txt"] = ["l", "b.txt"] := Option.some.inj (Option.some.inj hbo)
      exact absurd hsame (by decide)
    | n + 2 =>
      have hlt := (List.getElem?_eq_some_iff.1 ho).1
      rw [hlength] at hlt
      omega
  · intro wad hwad
    cases hwad
  · intro who hwho
    cases hwho
    exact ⟨hother, hlevel⟩

/-- The status of a server tells everyone what stands in its log, and a list tells everyone its
    identifier. -/
theorem status_shows_log_and_list_shows_id :
    let f := tellingFleet "a" "p" "one\n"
    let told := tellingFleet "a" "p" "two\n"
    let named := tellingFleet "x" "p" "one\n"
    AgreeBeside 0 ["l", "a.txt"] f told ∧ AgreeBeside 0 ["l", "a.txt"] f named ∧
      (f.server? 0).map (·.logFile) = some "/l/a.txt" ∧
      f.files.LeadsTo "/l/a.txt" ["l", "a.txt"] ∧
      (Request.query 10).requester? = none ∧ (Request.list none).requester? = none ∧
      (told.dispatch (sharedSurroundings "c") (.query 10)).1 ≠
        (f.dispatch (sharedSurroundings "c") (.query 10)).1 ∧
      (named.dispatch (sharedSurroundings "c") (.list none)).1 ≠
        (f.dispatch (sharedSurroundings "c") (.list none)).1 := by
  intro f told named
  have hlog : f.files.locate "/l/a.txt" = .ok (["l", "a.txt"],
      some (.file (Text.Utf8.bytesOf "one\n") false)) := by decide +kernel
  obtain ⟨hfile, htold, hregistered, hid, hids⟩ : (f.server? 0).map (·.logFile) = some "/l/a.txt" ∧
      (told.dispatch (sharedSurroundings "c") (.query 10)).1 ≠
        (f.dispatch (sharedSurroundings "c") (.query 10)).1 ∧
      0 ∈ f.registry.servers ∧ (f.server? 0).map (·.id) = some "a" ∧
      ∀ s ∈ named.servers, s.id ≠ "a" := by
    decide +kernel
  refine ⟨agreeBeside_tellingFleet _ _ _ _ _ _, agreeBeside_tellingFleet _ _ _ _ _ _, hfile,
    ⟨_, hlog⟩, rfl, rfl, htold, ?_⟩
  -- Only the one list shows this identifier.
  intro hsame
  obtain ⟨s, hs, hmine⟩ := Option.map_eq_some_iff.1 hid
  have hlists := Response.serverList.inj hsame
  have hmem : "a" ∈ (f.list (sharedSurroundings "c") none).map (·.id) :=
    mem_ids_list_iff.2 ⟨0, s, ⟨hregistered, hs⟩, hmine⟩
  rw [← hlists] at hmem
  obtain ⟨ref, other, ⟨-, hother⟩, hfalse⟩ := mem_ids_list_iff.1 hmem
  exact hids other (List.mem_of_getElem? hother) hfalse

end Fleet

end HostDaemon
