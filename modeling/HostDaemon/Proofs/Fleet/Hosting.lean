import HostDaemon.Fleet.Hosting
import HostDaemon.Proofs.Fleet.Crew
import HostDaemon.Proofs.Launch.Drafts

/-! # Parts of a hosting request

  What a hosting request finds out and claims before its server is launched. -/

namespace HostDaemon

/-! ### The specification and the claim -/

namespace Fleet

variable {f f' : Fleet} {env : Surroundings}

/-- What is launched for a request belongs to whoever asked, and has the identifier that was drawn
    for it. -/
theorem buildSpec_eq_ok {registered : List UInt16} {owner optionLine : String}
    {level : AccountLevel} {port : Option UInt16} {recovering : Bool} {spec : LaunchSpec}
    (h : f.buildSpec env registered owner level optionLine port recovering = .ok spec) :
    spec.owner = owner ∧ spec.credentials.id = env.freshId := by
  unfold buildSpec at h
  split at h
  next => cases h
  next =>
    split at h
    next => cases h
    next hbuild =>
      cases h
      obtain ⟨d, -, hfinished⟩ := BuildContext.finished_of_build hbuild
      exact ⟨hfinished.owner, hfinished.id⟩

/-- Where an option names a port, the specification asks for one that is no running server's. -/
theorem buildSpec_asksUnregistered {registered : List UInt16} {owner optionLine : String}
    {level : AccountLevel} {port : Option UInt16} {recovering : Bool} {spec : LaunchSpec}
    {options : OptionList} {value : String}
    (h : f.buildSpec env registered owner level optionLine port recovering = .ok spec)
    (hparse : OptionList.parse optionLine = .ok options) (hmem : ("port", value) ∈ options) :
    ∃ named, spec.requestedPort = some named ∧ named ∉ registered := by
  simp only [buildSpec, hparse] at h
  split at h
  next => cases h
  next hbuild =>
    cases h
    obtain ⟨d, happly, hfinished⟩ := BuildContext.finished_of_build hbuild
    obtain ⟨_, named, -, hport, hread⟩ := LaunchDraft.asksAvailable_applyAll happly ⟨value, hmem⟩
    exact ⟨named, hfinished.requestedPort.trans hport, (LaunchDraft.readPort_eq_ok_iff.1 hread).2.2.1⟩

/-- A port that is claimed for a request can be handed out. -/
theorem reserveFor_eq_ok {spec : LaunchSpec} {port : UInt16}
    (h : f.reserveFor env spec = .ok (port, f')) :
    f.ports.Gives env.isFree port ∧
      f' = { f with ports := { f.ports with claimed := port :: f.ports.claimed } } := by
  unfold reserveFor at h
  split at h
  next =>
    split at h
    next hreserve =>
      cases h
      obtain ⟨hgives, rfl⟩ := PortPool.reserve_eq_ok_iff.1 hreserve
      exact ⟨hgives, rfl⟩
    all_goals cases h
  next =>
    split at h
    next hreserve =>
      cases h
      obtain ⟨⟨hgives, -⟩, rfl⟩ := PortPool.reserveFirst?_eq_some_iff.1 hreserve
      exact ⟨hgives, rfl⟩
    next => cases h

/-- The port that is claimed for a request is the one for which its specification asks. -/
theorem reserveFor_named {spec : LaunchSpec} {named port : UInt16}
    (h : f.reserveFor env spec = .ok (port, f')) (hnamed : spec.requestedPort = some named) :
    port = named := by
  simp only [reserveFor, hnamed] at h
  split at h
  all_goals cases h
  rfl

end Fleet

end HostDaemon
