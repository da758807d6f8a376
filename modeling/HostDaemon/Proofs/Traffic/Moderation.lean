import HostDaemon.Proofs.Console.Players
import HostDaemon.Proofs.Fleet.Bans
import HostDaemon.Proofs.Traffic.Registration
import Mathlib.Data.List.Induction

/-! # Moderation of players

  Which players are banned on the consoles of servers, whatever all servers print and whatever is
  answered to the questions about addresses. A line, the sending of a question and its answer are
  steps of their own, and may come in any order.

  - `Fleet.Moderated` says what can be known after any steps: which bans were written, and how each
    open question came up. `Fleet.moderated_moderateAll` proves it along the steps.
  - `Fleet.bans_of_moderateAll` is the main result. -/

namespace HostDaemon

/-! ### Steps -/

/-- What moderation goes by. -/
inductive ModerationStep where
  /-- A server prints a line. -/
  | line (server : ServerRef) (text : String)
  /-- A question about an address is sent. -/
  | lookupBegins (i : Nat)
  /-- A question about an address is answered. -/
  | lookupEnds (i : Nat)

/-- What the lines of a server tell. -/
def eventsOf (server : ServerRef) (steps : List (Surroundings × ModerationStep)) :
    List ConsoleEvent :=
  steps.flatMap fun (_, step) =>
    match step with
    | .line other text => if other = server then ConsoleLine.recognize text else []
    | _ => []

namespace Fleet

variable {f f' : Fleet} {ref : ServerRef} {steps more : List (Surroundings × ModerationStep)}
  {ip : String} {i : Nat} {env : Surroundings}

/-- One step. -/
def moderate (f : Fleet) (env : Surroundings) : ModerationStep → Fleet
  | .line server text => f.onLine env server text
  | .lookupBegins i => f.beginLookup i
  | .lookupEnds i => f.finishLookup env i

/-- Several steps, each in its surroundings. -/
def moderateAll (f : Fleet) (steps : List (Surroundings × ModerationStep)) : Fleet :=
  steps.foldl (fun f (env, step) => f.moderate env step) f

/-- A lookup fails: there is no score in the answer to a question that was sent. -/
def Fails (f : Fleet) (env : Surroundings) (i : Nat) : Prop :=
  ∃ q c e, f.lookups[i]? = some q ∧ q.isBegun = true ∧ f.checker = some c ∧
    c.score env.fetch q.ip = .error e

/-- No lookup has failed in some steps. -/
def NoneFailed (f : Fleet) (steps : List (Surroundings × ModerationStep)) : Prop :=
  ∀ before env i after, steps = before ++ (env, .lookupEnds i) :: after →
    ¬ (f.moderateAll before).Fails env i

/-- A player whose address is not whitelisted has connected to a server. -/
def Connected (f : Fleet) (steps : List (Surroundings × ModerationStep)) (server : ServerRef)
    (ip : String) : Prop :=
  ip ∉ f.store.policy.whitelist ∧ ∃ env text name, (env, .line server text) ∈ steps ∧
    ConsoleLine.playerConnected? (ConsoleLine.dropStamp text.toList) =
      some (.playerSeen name ip true)

/-- After a player has connected the question about the address was sent, and no lookup had failed
    by then. -/
def Sent (f : Fleet) (steps : List (Surroundings × ModerationStep)) (server : ServerRef)
    (ip : String) : Prop :=
  ∃ before env i after, steps = before ++ (env, .lookupBegins i) :: after ∧
    (f.moderateAll before).lookups[i]? = some ⟨server, ip, false⟩ ∧
    f.Connected before server ip ∧ f.NoneFailed before

/-- After the question about the address of a player was sent, it was answered with the minimum
    score or more. -/
def Caught (f : Fleet) (steps : List (Surroundings × ModerationStep)) (server : ServerRef)
    (ip : String) : Prop :=
  ∃ before env i after, steps = before ++ (env, .lookupEnds i) :: after ∧
    (f.moderateAll before).lookups[i]? = some ⟨server, ip, true⟩ ∧
    f.Sent before server ip ∧
    ∃ c score, f.checker = some c ∧ c.score env.fetch ip = .ok score ∧
      c.settings.minimum ≤ score

theorem moderateAll_concat (f : Fleet) (steps : List (Surroundings × ModerationStep))
    (env : Surroundings) (step : ModerationStep) :
    f.moderateAll (steps ++ [(env, step)]) = (f.moderateAll steps).moderate env step := by
  rw [moderateAll, List.foldl_append]
  rfl

theorem Connected.append (h : f.Connected steps ref ip) : f.Connected (steps ++ more) ref ip := by
  obtain ⟨hlisted, env, text, name, hmem, hseen⟩ := h
  exact ⟨hlisted, env, text, name, List.mem_append_left _ hmem, hseen⟩

theorem Sent.append (h : f.Sent steps ref ip) : f.Sent (steps ++ more) ref ip := by
  obtain ⟨before, env, i, after, rfl, hsent⟩ := h
  exact ⟨before, env, i, after ++ more, by simp, hsent⟩

theorem Caught.append (h : f.Caught steps ref ip) : f.Caught (steps ++ more) ref ip := by
  obtain ⟨before, env, i, after, rfl, hcaught⟩ := h
  exact ⟨before, env, i, after ++ more, by simp, hcaught⟩

/-- As long as the last step is no failure, none is added. -/
theorem NoneFailed.concat (h : f.NoneFailed steps) {step : ModerationStep}
    (hlast : ∀ i, step = .lookupEnds i → ¬ (f.moderateAll steps).Fails env i) :
    f.NoneFailed (steps ++ [(env, step)]) := by
  intro before env' i after hsplit
  rcases List.eq_nil_or_concat after with rfl | ⟨after, last, rfl⟩
  · obtain ⟨rfl, hstep⟩ := List.append_inj' hsplit rfl
    simp only [List.cons.injEq, Prod.mk.injEq, and_true] at hstep
    obtain ⟨rfl, rfl⟩ := hstep
    exact hlast i rfl
  · rw [List.concat_eq_append, ← List.cons_append, ← List.append_assoc] at hsplit
    exact h before env' i after (List.append_inj' hsplit rfl).1

theorem eventsOf_append (ref : ServerRef) (steps more : List (Surroundings × ModerationStep)) :
    eventsOf ref (steps ++ more) = eventsOf ref steps ++ eventsOf ref more :=
  List.flatMap_append

/-! ### Questions and answers -/

/-- A question is sent where questions are asked, and dropped where they are not. -/
theorem beginLookup_cases (f : Fleet) (i : Nat) :
    f.asks = true ∧
      f.beginLookup i = { f with lookups := f.lookups.modify i ({ · with isBegun := true }) } ∨
    f.beginLookup i = { f with lookups := f.lookups.eraseIdx i } := by
  unfold beginLookup asks
  cases hchecker : f.checker with
  | none => exact Or.inr rfl
  | some c =>
    cases henabled : c.enabled with
    | false => exact Or.inr (by simp [henabled])
    | true => exact Or.inl (by simp [henabled])

/-- A lookup that gives a score does not fail. -/
theorem not_fails_of_score {q : ReputationLookup} {c : Reputation.Checker} {score : Float}
    (hq : f.lookups[i]? = some q) (hc : f.checker = some c)
    (hscore : c.score env.fetch q.ip = .ok score) : ¬ f.Fails env i := by
  rintro ⟨q', c', e, hq', -, hc', hfails⟩
  rw [hq, Option.some.injEq] at hq'
  rw [hc, Option.some.injEq] at hc'
  subst hq' hc'
  rw [hscore] at hfails
  cases hfails

/-- Nothing is done with an answer where no question was sent, and no lookup fails there. -/
theorem finishLookup_of_idle (h : ∀ q, f.lookups[i]? = some q → q.isBegun = true → f.checker = none)
    (env : Surroundings) : f.finishLookup env i = f ∧ ¬ f.Fails env i := by
  constructor
  · unfold finishLookup
    split
    next q c hq hc =>
      cases hbegun : q.isBegun with
      | false => simp
      | true =>
        rw [h q hq hbegun] at hc
        cases hc
    next => rfl
  · rintro ⟨q, c, e, hq, hbegun, hc, -⟩
    rw [h q hq hbegun] at hc
    cases hc

/-- What an answer does: nothing, where no question was sent; it stops the questions, where there is
    no score in it; and it bans the player, where the score is the minimum or more. -/
theorem finishLookup_cases (f : Fleet) (env : Surroundings) (i : Nat) :
    (f.finishLookup env i = f ∧ ¬ f.Fails env i) ∨
    ∃ q c, f.lookups[i]? = some q ∧ q.isBegun = true ∧ f.checker = some c ∧
      ((∃ e, c.score env.fetch q.ip = .error e) ∧
        f.finishLookup env i =
          { f with lookups := f.lookups.eraseIdx i, checker := some c.disable } ∨
      ∃ score, c.score env.fetch q.ip = .ok score ∧
        Moderates q.server [] (if c.settings.minimum ≤ score then [.proxy q.ip] else [])
          { f with lookups := f.lookups.eraseIdx i } (f.finishLookup env i)) := by
  by_cases hasked : ∃ q c, f.lookups[i]? = some q ∧ q.isBegun = true ∧ f.checker = some c
  · obtain ⟨q, c, hq, hbegun, hc⟩ := hasked
    refine Or.inr ⟨q, c, hq, hbegun, hc, ?_⟩
    cases hscore : c.score env.fetch q.ip with
    | error e =>
      have hverdict : c.verdict env.fetch q.ip = (false, c.disable) := by
        rw [Reputation.Checker.verdict, hscore]
      refine Or.inl ⟨⟨e, rfl⟩, ?_⟩
      simp only [finishLookup, hq, hc, hbegun, if_true, hverdict]
      rfl
    | ok score =>
      have hverdict : c.verdict env.fetch q.ip = (decide (c.settings.minimum ≤ score), c) := by
        rw [Reputation.Checker.verdict, hscore]
      have hanswered : f.finishLookup env i =
          if c.settings.minimum ≤ score then
            ({ f with lookups := f.lookups.eraseIdx i }).tellConsole q.server
              [(Ban.proxy q.ip).line f.config.service.short]
          else { f with lookups := f.lookups.eraseIdx i } := by
        simp only [finishLookup, hq, hc, hbegun, if_true, hverdict, decide_eq_true_eq]
        rfl
      refine Or.inr ⟨score, rfl, ?_⟩
      rw [hanswered]
      split
      · exact moderates_ban { f with lookups := f.lookups.eraseIdx i } q.server (.proxy q.ip)
      · exact (Discreet.refl _).moderates
  · refine Or.inl (finishLookup_of_idle (fun q hq hbegun => ?_) env)
    rw [Option.eq_none_iff_forall_ne_some]
    exact fun c hc => hasked ⟨q, c, hq, hbegun, hc⟩

/-- After a question was sent each question is one that was open before, and where it is not as it
    was it is the one that was sent. -/
theorem exists_of_mem_begun {lookups : List ReputationLookup} {q : ReputationLookup}
    (h : q ∈ lookups.modify i ({ · with isBegun := true })) :
    ∃ q' j, lookups[j]? = some q' ∧ q'.server = q.server ∧ q'.ip = q.ip ∧ (q = q' ∨ j = i) := by
  obtain ⟨j, hj⟩ := List.mem_iff_getElem?.1 h
  rw [List.getElem?_modify] at hj
  obtain ⟨q', hq', hchanged⟩ := Option.map_eq_some_iff.1 hj
  refine ⟨q', j, hq', ?_⟩
  by_cases hself : i = j
  · rw [if_pos hself] at hchanged
    subst hchanged
    exact ⟨rfl, rfl, Or.inr hself.symm⟩
  · rw [if_neg hself] at hchanged
    subst hchanged
    exact ⟨rfl, rfl, Or.inl rfl⟩

/-! ### Along the steps -/

/-- A server was given some bans: those that the policy has for its players, in their order, and
    between them those of players who came through a proxy. -/
def Given (f : Fleet) (steps : List (Surroundings × ModerationStep)) (ref : ServerRef)
    (s s' : Server) : Prop :=
  ∃ bans : List Ban, s.console.Gets (bans.map (Ban.line f.config.service.short)) s'.console ∧
    bans.filter Ban.isPermanent = (eventsOf ref steps).filterMap f.store.policy.ban? ∧
    ∀ ip, .proxy ip ∈ bans → f.Caught steps ref ip

theorem Given.concat {s s' s'' : Server} {step : Surroundings × ModerationStep}
    (h : f.Given steps ref s s') (new : List Ban)
    (hgets : s'.console.Gets (new.map (Ban.line f.config.service.short)) s''.console)
    (hpermanent : new.filter Ban.isPermanent =
      (eventsOf ref [step]).filterMap f.store.policy.ban?)
    (hproxy : ∀ ip, .proxy ip ∈ new → f.Caught (steps ++ [step]) ref ip) :
    f.Given (steps ++ [step]) ref s s'' := by
  obtain ⟨bans, hbans, hseen, hcaught⟩ := h
  refine ⟨bans ++ new, ?_, ?_, ?_⟩
  · rw [List.map_append]
    exact hbans.trans hgets
  · rw [List.filter_append, hseen, hpermanent, eventsOf_append, List.filterMap_append]
  · intro ip hmem
    rcases List.mem_append.1 hmem with hold | hnew
    · exact (hcaught ip hold).append
    · exact hproxy ip hnew

/-- What can be known of a fleet after some steps. -/
structure Moderated (f : Fleet) (steps : List (Surroundings × ModerationStep)) (f' : Fleet) :
    Prop where
  /-- It is what the steps have made of the fleet. -/
  run : f' = f.moderateAll steps
  /-- There is one configuration. -/
  config : f'.config = f.config
  /-- There is one policy. -/
  policy : f'.store.policy = f.store.policy
  /-- There is one way to ask. -/
  settings : f'.checker.map (·.settings) = f.checker.map (·.settings)
  /-- Questions are asked until a lookup fails. -/
  noneFailed : f'.asks = true → f.NoneFailed steps
  /-- A question is about a player who has connected. -/
  connected : ∀ q ∈ f'.lookups, f.Connected steps q.server q.ip
  /-- A question that is marked so was sent. -/
  sent : ∀ q ∈ f'.lookups, q.isBegun = true → f.Sent steps q.server q.ip
  /-- Every server was given its bans. -/
  server : ∀ ref s, f.server? ref = some s →
    ∃ s', f'.server? ref = some s' ∧ f.Given steps ref s s'

namespace Moderated

theorem refl (hnone : f.lookups = []) : Moderated f [] f where
  run := rfl
  config := rfl
  policy := rfl
  settings := rfl
  noneFailed _ := by
    intro before env i after hsplit
    simp at hsplit
  connected := by simp [hnone]
  sent := by simp [hnone]
  server ref s hs := ⟨s, hs, [], .refl s.console, rfl, by simp⟩

/-- A step in which some bans are written to one console gives that server these bans more. -/
theorem server_of_moderates (h : Moderated f steps f') (step : Surroundings × ModerationStep)
    {g f'' : Fleet} {other : ServerRef} {asked : List String} {bans : List Ban}
    (hmoderates : Moderates other asked bans g f'') (hservers : g.servers = f'.servers)
    (hconfig : g.config = f'.config)
    (hpermanent : ∀ ref, (if other = ref then bans else []).filter Ban.isPermanent =
      (eventsOf ref [step]).filterMap f.store.policy.ban?)
    (hcaught : ∀ ip, .proxy ip ∈ bans → f.Caught (steps ++ [step]) other ip)
    (ref : ServerRef) (s : Server) (hs : f.server? ref = some s) :
    ∃ s'', f''.server? ref = some s'' ∧ f.Given (steps ++ [step]) ref s s'' := by
  obtain ⟨s', hs', hgiven⟩ := h.server ref s hs
  rw [server?, ← hservers, ← server?] at hs'
  obtain ⟨s'', hs'', hgets⟩ := hmoderates.console ref s' hs'
  rw [hconfig, h.config] at hgets
  refine ⟨s'', hs'', hgiven.concat (if other = ref then bans else []) ?_ (hpermanent ref) ?_⟩
  · split
    next hself => rwa [if_pos hself] at hgets
    next hself => rwa [if_neg hself] at hgets
  · intro ip hmem
    split at hmem
    next hself => exact hself ▸ hcaught ip hmem
    next => cases hmem

/-- A step that tells nothing of players and bans nobody leaves every server with its bans. -/
theorem server_concat (h : Moderated f steps f') (step : Surroundings × ModerationStep)
    (hquiet : ∀ ref, eventsOf ref [step] = []) (ref : ServerRef) (s : Server)
    (hs : f.server? ref = some s) :
    ∃ s', f'.server? ref = some s' ∧ f.Given (steps ++ [step]) ref s s' := by
  have hnone : Moderates ref [] [] f' f' := (Discreet.refl f').moderates
  refine h.server_of_moderates step hnone rfl rfl ?_ (by simp) ref s hs
  intro other
  rw [hquiet, ite_self]
  rfl

/-- A line of a server. -/
theorem line (h : Moderated f steps f') (env : Surroundings) (other : ServerRef) (text : String) :
    Moderated f (steps ++ [(env, .line other text)]) (f'.onLine env other text) := by
  have hline := f'.moderates_onLine env other text
  have hevents : ∀ ref, eventsOf ref [(env, .line other text)] =
      if other = ref then ConsoleLine.recognize text else [] :=
    fun ref => List.append_nil _
  refine ⟨?_, hline.config.trans h.config, hline.policy.trans h.policy, ?_, ?_, ?_, ?_, ?_⟩
  · rw [moderateAll_concat, h.run]
    rfl
  · rw [hline.checker, h.settings]
  · intro hasks
    rw [asks, hline.checker] at hasks
    exact (h.noneFailed hasks).concat (by simp)
  · intro q hq
    rw [hline.lookups] at hq
    rcases List.mem_append.1 hq with hold | hnew
    · exact (h.connected q hold).append
    · -- A new question is about a player who connects with this line.
      obtain ⟨ip, hip, rfl⟩ := List.mem_map.1 hnew
      unfold questions at hip
      split at hip
      · obtain ⟨event, hevent, hsuspect⟩ := List.mem_filterMap.1 hip
        obtain ⟨hlisted, name, rfl⟩ := PolicySettings.suspect?_eq_some hsuspect
        rw [h.policy] at hlisted
        rcases ConsoleLine.playerSeen_mem_recognize_iff.1 hevent with ⟨hconnected, -⟩ | ⟨-, hcheck⟩
        · exact ⟨hlisted, env, text, name, List.mem_append_right _ List.mem_cons_self, hconnected⟩
        · cases hcheck
      · cases hip
  · intro q hq hbegun
    rw [hline.lookups] at hq
    rcases List.mem_append.1 hq with hold | hnew
    · exact (h.sent q hold hbegun).append
    · obtain ⟨ip, -, rfl⟩ := List.mem_map.1 hnew
      cases hbegun
  · rw [h.policy] at hline
    have hpermanent : ∀ ban ∈ (ConsoleLine.recognize text).filterMap f.store.policy.ban?,
        ban.isPermanent = true := by
      intro ban hban
      obtain ⟨event, -, hevent⟩ := List.mem_filterMap.1 hban
      exact (PolicySettings.ban?_eq_some hevent).2
    refine h.server_of_moderates (env, .line other text) hline rfl rfl ?_ ?_
    · intro ref
      rw [hevents]
      split
      next => exact List.filter_eq_self.2 hpermanent
      next => rfl
    · intro ip hproxy
      cases hpermanent _ hproxy

/-- A question is sent, or dropped. -/
theorem lookupBegins (h : Moderated f steps f') (env : Surroundings) (i : Nat) :
    Moderated f (steps ++ [(env, .lookupBegins i)]) (f'.beginLookup i) := by
  have hrun : f'.beginLookup i = f.moderateAll (steps ++ [(env, .lookupBegins i)]) := by
    rw [moderateAll_concat, ← h.run]
    rfl
  have hserver := h.server_concat (env, .lookupBegins i) fun _ => rfl
  have hnone : f'.asks = true → f.NoneFailed (steps ++ [(env, .lookupBegins i)]) :=
    fun hasks => (h.noneFailed hasks).concat (by simp)
  rcases f'.beginLookup_cases i with ⟨hasks, hbegun⟩ | hdropped
  · rw [hbegun] at hrun ⊢
    refine ⟨hrun, h.config, h.policy, h.settings, hnone, ?_, ?_, hserver⟩
    · intro q hq
      obtain ⟨q', j, hq', hsame, hip, -⟩ := exists_of_mem_begun hq
      rw [← hsame, ← hip]
      exact (h.connected q' (List.mem_of_getElem? hq')).append
    · intro q hq hsent
      -- A question that is marked now and was not before is the one that was sent.
      obtain ⟨q', j, hq', hsame, hip, heq⟩ := exists_of_mem_begun hq
      have hmem := List.mem_of_getElem? hq'
      cases hbefore : q'.isBegun with
      | true =>
        rw [← hsame, ← hip]
        exact (h.sent q' hmem hbefore).append
      | false =>
        rcases heq with rfl | rfl
        · rw [hsent] at hbefore
          cases hbefore
        · rw [← hsame, ← hip]
          refine ⟨steps, env, j, [], rfl, ?_, h.connected q' hmem, h.noneFailed hasks⟩
          rw [← h.run, hq', ← hbefore]
  · rw [hdropped] at hrun ⊢
    refine ⟨hrun, h.config, h.policy, h.settings, hnone, ?_, ?_, hserver⟩
    · exact fun q hq => (h.connected q (List.mem_of_mem_eraseIdx hq)).append
    · exact fun q hq hsent => (h.sent q (List.mem_of_mem_eraseIdx hq) hsent).append

/-- A player whose question is answered now with the minimum score or more is caught. -/
theorem caught (h : Moderated f steps f') {q : ReputationLookup} {c : Reputation.Checker}
    {score : Float} (hq : f'.lookups[i]? = some q) (hbegun : q.isBegun = true)
    (hc : f'.checker = some c) (hscore : c.score env.fetch q.ip = .ok score)
    (hminimum : c.settings.minimum ≤ score) :
    f.Caught (steps ++ [(env, .lookupEnds i)]) q.server q.ip := by
  have hsettings := h.settings
  rw [hc, Option.map_some] at hsettings
  obtain ⟨c', hc', hsame⟩ := Option.map_eq_some_iff.1 hsettings.symm
  refine ⟨steps, env, i, [], rfl, ?_, h.sent q (List.mem_of_getElem? hq) hbegun, c', score, hc',
    ?_, ?_⟩
  · rw [← h.run, hq, ← hbegun]
  · rw [← hscore, Reputation.Checker.score, Reputation.Checker.score, hsame]
  · rwa [hsame]

/-- A question is answered. -/
theorem lookupEnds (h : Moderated f steps f') (env : Surroundings) (i : Nat) :
    Moderated f (steps ++ [(env, .lookupEnds i)]) (f'.finishLookup env i) := by
  have hrun : f'.finishLookup env i = f.moderateAll (steps ++ [(env, .lookupEnds i)]) := by
    rw [moderateAll_concat, ← h.run]
    rfl
  have hserver := h.server_concat (env, .lookupEnds i) fun _ => rfl
  have hnone : ¬ f'.Fails env i → f'.asks = true →
      f.NoneFailed (steps ++ [(env, .lookupEnds i)]) := by
    intro hfine hasks
    refine (h.noneFailed hasks).concat fun j hj => ?_
    cases hj
    rwa [← h.run]
  have hconnected : ∀ q ∈ f'.lookups.eraseIdx i,
      f.Connected (steps ++ [(env, .lookupEnds i)]) q.server q.ip :=
    fun q hq => (h.connected q (List.mem_of_mem_eraseIdx hq)).append
  have hsent : ∀ q ∈ f'.lookups.eraseIdx i, q.isBegun = true →
      f.Sent (steps ++ [(env, .lookupEnds i)]) q.server q.ip :=
    fun q hq hbegun => (h.sent q (List.mem_of_mem_eraseIdx hq) hbegun).append
  rcases f'.finishLookup_cases env i with ⟨hsame, hfine⟩ |
    ⟨q, c, hq, hbegun, hc, ⟨⟨e, hscore⟩, hstopped⟩ | ⟨score, hscore, hanswered⟩⟩
  · rw [hsame] at hrun ⊢
    exact ⟨hrun, h.config, h.policy, h.settings, hnone hfine,
      fun q hq => (h.connected q hq).append, fun q hq hbegun => (h.sent q hq hbegun).append,
      hserver⟩
  · -- From now on no question is sent.
    rw [hstopped] at hrun ⊢
    refine ⟨hrun, h.config, h.policy, ?_, fun hasks => ?_, hconnected, hsent, hserver⟩
    · rw [← h.settings, hc]
      rfl
    · cases hasks
  · have hfine : ¬ f'.Fails env i := not_fails_of_score hq hc hscore
    refine ⟨hrun, hanswered.config.trans h.config, hanswered.policy.trans h.policy, ?_, ?_, ?_, ?_,
      ?_⟩
    · rw [hanswered.checker, h.settings]
    · intro hasks
      rw [asks, hanswered.checker] at hasks
      exact hnone hfine hasks
    · rw [hanswered.lookups, List.map_nil, List.append_nil]
      exact hconnected
    · rw [hanswered.lookups, List.map_nil, List.append_nil]
      exact hsent
    · refine h.server_of_moderates (env, .lookupEnds i) hanswered rfl rfl ?_ ?_
      · intro ref
        have hproxy : (if c.settings.minimum ≤ score then [Ban.proxy q.ip] else []).filter
            Ban.isPermanent = [] := by split <;> rfl
        split
        next => exact hproxy
        next => rfl
      · intro ip hmem
        split at hmem
        next hminimum =>
          rw [List.mem_singleton, Ban.proxy.injEq] at hmem
          rw [hmem]
          exact h.caught hq hbegun hc hscore hminimum
        next => cases hmem

end Moderated

theorem moderated_moderateAll (hnone : f.lookups = [])
    (steps : List (Surroundings × ModerationStep)) :
    Moderated f steps (f.moderateAll steps) := by
  induction steps using List.reverseRecOn with
  | nil => exact .refl hnone
  | append_singleton steps step ih =>
    obtain ⟨env, step⟩ := step
    rw [moderateAll_concat]
    cases step with
    | line other text => exact ih.line env other text
    | lookupBegins i => exact ih.lookupBegins env i
    | lookupEnds i => exact ih.lookupEnds env i

/-- The lines that ban addresses on the console of a server, whatever all servers print and whatever
    is answered to the questions, as long as the console is open. The bans for good are those that
    the policy has for the players who were seen, one for each time they were seen. Whitelisted
    addresses are never banned, and a player is banned as one who came through a proxy only after a
    connect, a question that was sent before any lookup had failed, and an answer with the minimum
    score or more. -/
theorem bans_of_moderateAll (f : Fleet) (hnone : f.lookups = [])
    (steps : List (Surroundings × ModerationStep)) (ref : ServerRef) (s : Server)
    (hs : f.server? ref = some s) :
    ∃ t, (f.moderateAll steps).server? ref = some t ∧ (t.console.isOpen = true →
      ∃ bans : List Ban,
        t.console.banLines =
          s.console.banLines ++ bans.map (Ban.line f.config.service.short) ∧
        bans.filter Ban.isPermanent = (eventsOf ref steps).filterMap f.store.policy.ban? ∧
        (∀ ban ∈ bans, ban.ip ∉ f.store.policy.whitelist) ∧
        ∀ ip, .proxy ip ∈ bans → f.Caught steps ref ip) := by
  obtain ⟨t, ht, bans, hgets, hpermanent, hcaught⟩ :=
    (moderated_moderateAll hnone steps).server ref s hs
  refine ⟨t, ht, fun hopen => ⟨bans, hgets.banLines hopen, hpermanent, ?_, hcaught⟩⟩
  intro ban hban
  cases ban with
  | permanent ip reason =>
    have hmem : Ban.permanent ip reason ∈ bans.filter Ban.isPermanent :=
      List.mem_filter.2 ⟨hban, rfl⟩
    rw [hpermanent] at hmem
    obtain ⟨event, -, hevent⟩ := List.mem_filterMap.1 hmem
    exact (PolicySettings.ban?_eq_some hevent).1
  | proxy ip =>
    obtain ⟨before, env, i, after, -, -, hsent, -⟩ := hcaught ip hban
    obtain ⟨before', env', i', after', -, -, hconnected, -⟩ := hsent
    exact hconnected.1

/-! ### Players on a small machine -/

/-- The configuration of the small machine, where one address is banned, another whitelisted, and
    the service that is asked about the others has an address that is no URL. -/
def moderatedConfig : Config :=
  { Traffic.smallConfig 1 with
    reputation := ⟨true, "", "", 1⟩
    policy := ⟨[], [("al", .registered)], ["192.0.2.7"],
      [⟨"192.0.2.7", none⟩, ⟨"192.0.2.9", some "spam"⟩, ⟨"192.0.2.9", none⟩], []⟩ }

/-- A server has started on the small machine. -/
def moderatedFleet : Fleet :=
  let start : List Traffic.Action := [.line 0 "UDP Initialized.", .finishStart 0]
  ((Traffic.start (.start moderatedConfig "/l" Traffic.smallFiles)).run
    (Traffic.smallSteps (Traffic.smallHosting ++ start))).fleet

/-- Three players connect, and the first of them is listed too. The question about that one is
    answered before the last one comes. -/
def moderatedSteps : List (Surroundings × ModerationStep) :=
  [.line 0 "Eve (192.0.2.9:10666) has connected.", .line 0 "Al (192.0.2.7:10666) has connected.",
    .line 0 "0. Eve - IP 192.0.2.9:10666", .lookupBegins 0, .lookupEnds 0,
    .line 0 "Bo (192.0.2.8:10666) has connected."].map
      (⟨0, fun _ => true, fun _ => none, "y", 1⟩, ·)

/-- The banned address is banned each time it is seen, and the whitelisted one never. -/
theorem bans_of_small_steps :
    let f := moderatedFleet
    let spam := Ban.permanent "192.0.2.9" "spam"
    f.lookups = [] ∧
    ∃ s t, f.server? 0 = some s ∧ s.console.banLines = [] ∧
      (f.moderateAll moderatedSteps).server? 0 = some t ∧ t.console.isOpen = true ∧
      ∃ bans : List Ban, t.console.banLines = bans.map (Ban.line "s") ∧
        bans.filter Ban.isPermanent = [spam, spam] ∧ ∀ ban ∈ bans, ban.ip ≠ "192.0.2.7" := by
  intro f spam
  have hcomputed : (f.server? 0).map (·.console.banLines) = some [] ∧
      ((f.moderateAll moderatedSteps).server? 0).map (·.console.isOpen) = some true ∧
      f.lookups = [] ∧ f.config.service.short = "s" ∧ "192.0.2.7" ∈ f.store.policy.whitelist ∧
      (eventsOf 0 moderatedSteps).filterMap f.store.policy.ban? = [spam, spam] := by
    decide +kernel
  obtain ⟨hbefore, hafter, hnone, hservice, hlisted, hseen⟩ := hcomputed
  obtain ⟨s, hs, hlines⟩ := Option.map_eq_some_iff.1 hbefore
  obtain ⟨t, ht, hbans⟩ := bans_of_moderateAll f hnone moderatedSteps 0 s hs
  rw [ht] at hafter
  have hopen : t.console.isOpen = true := Option.some.inj hafter
  obtain ⟨bans, hwritten, hpermanent, hspared, -⟩ := hbans hopen
  rw [hlines, hservice, List.nil_append] at hwritten
  rw [hseen] at hpermanent
  exact ⟨hnone, s, t, hs, hlines, ht, hopen, bans, hwritten, hpermanent,
    fun ban hban hip => hspared ban hban (hip ▸ hlisted)⟩

end Fleet

end HostDaemon
