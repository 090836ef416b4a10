import AgentPulse.RelaySession

/-!
# The two ends of a host connection stay in step

One lemma for each step of an end: the messages that are written and not read are
those that the other end expects, and the relay holds what the phase of its handler
says. A run then never makes an end read what it does not know.
-/
namespace AgentPulse

open Std (ExtTreeMap)

namespace Relay

variable {lib : RelayLibrary} {config : RelayServerConfig} {s s' : Relay}

/-- A first message that makes a registration is an admitted hello of a host. -/
theorem handleOuter_registered {challenge : RelayChallenge} {now : Int} {message : EndpointMessage}
    {id : String}
    (h : s.handleOuter lib config challenge now message = (s', .registered id)) :
    ∃ hostId routes proof keys, message = .hostHello hostId routes proof ∧
      admitHost lib config challenge hostId routes proof = .ok keys ∧
      s'.hosts[challenge.connectionId]? =
        some ⟨⟨challenge.connectionId, keys⟩, none, none, true, true⟩ := by
  unfold handleOuter at h
  split at h
  · cases h
  split at h
  · cases h
  cases message with
  | hostHello hostId routes proof =>
    dsimp only at h
    unfold handleHost at h
    split at h
    · cases h
    next keys hkeys =>
    split at h
    · cases h
    split at h
    · cases h
    cases h
    refine ⟨hostId, routes, proof, keys, rfl, hkeys, ?_⟩
    rw [OrderedMap.getElem?_insert, if_pos rfl]
  | clientHello routeId proof =>
    dsimp only at h
    unfold handleClient at h
    split at h
    · cases h
    · split at h <;> cases h
  | pong pingId => cases h

theorem keys_of_admitHost {challenge : RelayChallenge} {hostId proof : String}
    {routes : List RouteRegistration} {keys : ExtTreeMap String Digest}
    (h : admitHost lib config challenge hostId routes proof = .ok keys) :
    routeKeys lib routes = .ok keys := by
  obtain ⟨expected, -, h⟩ := Fallible.bind_eq_ok.mp h
  split at h
  · cases h
  · exact h

end Relay

namespace RelaySession

section

variable {lib : RelayLibrary} {json : RelayJson} {config : SessionConfig} {s : RelaySession}

/-- The messages in flight go with the phases. -/
def Wired (lib : RelayLibrary) (json : RelayJson) (config : SessionConfig) (s : RelaySession) :
    Prop :=
  ∃ down up, Carried (decodeRelay lib json) s.toHost down ∧
    Carried (decodeEndpoint lib json) s.toRelay up ∧
    InStep lib config s.handler.phase s.connector.phase down up

/-- What the relay keeps of the connection in a phase of its handler. -/
structure Standing (lib : RelayLibrary) (config : SessionConfig) (relay : Relay)
    (phase : HandlerPhase) : Prop where
  safe : Relay.Safe lib relay
  delivered : relay.Delivered
  unused : phase = .greeting → relay.Fresh config.challenge.connectionId
  registered : phase.registered = true → ∃ host keys,
    relay.hosts[config.challenge.connectionId]? = some host ∧
      host.registration = ⟨config.challenge.connectionId, keys⟩ ∧
      Relay.routeKeys lib (sortRoutes config.routes) = .ok keys
  tunnel : ∀ client, phase = .tunnel client → ∃ handler claim,
    relay.clients[client]? = some handler ∧ handler.phase = .matched claim ∧
      claim.connectionId = config.challenge.connectionId

/-- The two ends agree, and the callback was called at most once, after the
registration. -/
structure Lockstep (lib : RelayLibrary) (json : RelayJson) (config : SessionConfig)
    (s : RelaySession) : Prop where
  wired : Wired lib json config s
  standing : Standing lib config s.relay s.handler.phase
  reported : if s.onWaiting then s.reported = 0
    else s.reported = 1 ∧ s.handler.phase.registered = true

section Standing

variable {relay : Relay} {phase phase' : HandlerPhase}

/-- A section of any connection but a first message of this one. -/
theorem Standing.step (h : Standing lib config relay phase) (op : RelayOp)
    (hfresh : ∀ id, Relay.opens op = some id → relay.Fresh id)
    (hop : Relay.opens op ≠ some config.challenge.connectionId) :
    Standing lib config (relay.step lib config.server op).1 phase := by
  have hchange := Relay.step_change lib config.server relay op
  have hevolves := hchange.evolves hfresh
  refine ⟨hchange.safe h.safe hfresh, Relay.delivered_step h.delivered op hfresh, ?_, ?_, ?_⟩
  · exact fun hgreeting => hchange.unused (h.unused hgreeting) hop
  · intro hregistered
    obtain ⟨host, keys, hhost, hregistration, hkeys⟩ := h.registered hregistered
    obtain ⟨host', hhost', hsame, -⟩ := hevolves.hosts _ host hhost
    exact ⟨host', keys, hhost', hsame.trans hregistration, hkeys⟩
  · intro client htunnel
    obtain ⟨handler, claim, hclient, hphase, hid⟩ := h.tunnel client htunnel
    exact ⟨handler, claim, hevolves.matched client handler claim hclient hphase, hphase, hid⟩

/-- In the loop of the handler the registration stays. -/
theorem Standing.loop (h : Standing lib config relay phase) (hregistered : phase.registered = true)
    (hgreeting : phase' ≠ .greeting) (htunnel : ∀ client, phase' ≠ .tunnel client) :
    Standing lib config relay phase' where
  safe := h.safe
  delivered := h.delivered
  unused he := absurd he hgreeting
  registered _ := h.registered hregistered
  tunnel client he := absurd he (htunnel client)

theorem Standing.refused (h : Standing lib config relay phase) :
    Standing lib config relay .refused where
  safe := h.safe
  delivered := h.delivered
  unused he := by cases he
  registered he := by cases he
  tunnel client he := by cases he

end Standing

/-- The callback after the handler has moved on. -/
theorem Lockstep.reported_of (h : Lockstep lib json config s) (phase : HandlerPhase)
    (hphase : s.handler.phase.registered = true → phase.registered = true) :
    if s.onWaiting then s.reported = 0 else s.reported = 1 ∧ phase.registered = true := by
  have hreported := h.reported
  cases hwaiting : s.onWaiting with
  | true =>
    rw [hwaiting] at hreported
    exact hreported
  | false =>
    rw [hwaiting] at hreported
    exact ⟨hreported.1, hphase hreported.2⟩

theorem Lockstep.handlerFailed (h : Lockstep lib json config s) (error : RelayError) :
    Lockstep lib json config (s.handlerFailed error) := ⟨h.wired, h.standing, h.reported⟩

theorem Lockstep.connectorFailed (h : Lockstep lib json config s) (error : RelayError) :
    Lockstep lib json config (s.connectorFailed error) := ⟨h.wired, h.standing, h.reported⟩

/-- A message of the handler is written, or the handler ends without it. -/
theorem lockstep_writeRelay (hjson : json.Lawful) {message : RelayMessage}
    (hunsent : Lockstep lib json config s)
    (hsent : ∀ payload, decodeRelay lib json payload = .ok message →
      Lockstep lib json config { s with toHost := s.toHost ++ [payload] }) :
    Lockstep lib json config (s.writeRelay lib json message) := by
  unfold writeRelay
  split
  · exact hunsent.handlerFailed _
  · next payload hencode => exact hsent payload (decodeRelay_encode hjson hencode)

theorem lockstep_pings (hjson : json.Lawful) (h : Lockstep lib json config s)
    (hphase : s.handler.phase = .waiting) (ping : UuidV7) :
    Lockstep lib json config
      ((s.inPhase (.pinging ping)).writeRelay lib json (.ping ping.val.toString)) := by
  obtain ⟨down, up, hdown, hup, hstep⟩ := h.wired
  have hstanding := h.standing
  rw [hphase] at hstep hstanding
  obtain ⟨hconnector, rfl, hwritten⟩ := hstep.waits
  have hloop : Standing lib config s.relay (.pinging ping) :=
    hstanding.loop rfl (by simp) fun _ => by simp
  have hreported := h.reported_of (.pinging ping) fun _ => rfl
  refine lockstep_writeRelay hjson ⟨⟨down, [], hdown, hup, ?_⟩, hloop, hreported⟩ ?_
  · show InStep lib config (.pinging ping) s.connector.phase down []
    rw [hconnector]
    exact ⟨rfl, .inl ⟨rfl, hwritten.trans (List.sublist_append_left [_] [_])⟩⟩
  · intro payload hpayload
    refine ⟨⟨down ++ [.ping ping.val.toString], [], hdown.append hpayload, hup, ?_⟩, hloop,
      hreported⟩
    show InStep lib config (.pinging ping) s.connector.phase _ []
    rw [hconnector]
    exact ⟨rfl, .inl ⟨rfl, hwritten.append (List.Sublist.refl [_])⟩⟩

theorem lockstep_receives (hjson : json.Lawful) (h : Lockstep lib json config s)
    (hphase : s.handler.phase = .waiting) :
    Lockstep lib json config (s.handlerReceives lib json config) := by
  unfold handlerReceives
  split
  · next registration client taken guarded receiving hhost =>
    obtain ⟨down, up, hdown, hup, hstep⟩ := h.wired
    have hstanding := h.standing
    rw [hphase] at hstep hstanding
    obtain ⟨hconnector, rfl, hwritten⟩ := hstep.waits
    let op : RelayOp := .receive config.challenge.connectionId
    have hfresh : ∀ id, Relay.opens op = some id → s.relay.Fresh id := fun id hid => by cases hid
    have hmoved := hstanding.step op hfresh (by simp [op, Relay.opens])
    have hmatched : ∃ handler claim,
        (s.relay.receive config.challenge.connectionId).1.clients[client]? = some handler ∧
          handler.phase = .matched claim ∧ claim.connectionId = config.challenge.connectionId := by
      obtain ⟨handler, claim, hclient, hmatched, hid⟩ :=
        h.standing.delivered _ _ client hhost rfl
      have hevolves := (Relay.step_change lib config.server s.relay op).evolves hfresh
      exact ⟨handler, claim, hevolves.matched client handler claim hclient hmatched, hmatched, hid⟩
    have hloop : Standing lib config (s.relay.receive config.challenge.connectionId).1
        (.tunnel client) := by
      refine ⟨hmoved.safe, hmoved.delivered, ?_, fun _ => hmoved.registered rfl, ?_⟩
      · intro he
        cases he
      · intro found hfound
        cases hfound
        exact hmatched
    have hreported := h.reported_of (.tunnel client) fun _ => rfl
    refine lockstep_writeRelay hjson ⟨⟨down, [], hdown, hup, ?_⟩, hloop, hreported⟩ ?_
    · show InStep lib config (.tunnel client) s.connector.phase down []
      rw [hconnector]
      exact ⟨rfl, rfl, hwritten.trans (List.sublist_append_left [_] [_])⟩
    · intro payload hpayload
      refine ⟨⟨down ++ [.tunnelReady client], [], hdown.append hpayload, hup, ?_⟩, hloop, hreported⟩
      show InStep lib config (.tunnel client) s.connector.phase _ []
      rw [hconnector]
      exact ⟨rfl, rfl, hwritten.append (List.Sublist.refl [_])⟩
  · exact h

/-- After the hello was read and refused: the error frame, if there is one. -/
theorem lockstep_refuse (hjson : json.Lawful) {error : RelayError} (hdown : s.toHost = [])
    (hup : s.toRelay = []) (hconnector : s.connector.phase = .waiting config.challenge.connectionId)
    (hstanding : Standing lib config s.relay .refused)
    (hreported : s.onWaiting = true ∧ s.reported = 0) :
    Lockstep lib json config (s.refuse lib json error) := by
  have hunsent : Lockstep lib json config (s.inPhase .refused) := by
    refine ⟨⟨[], [], ?_, ?_, ?_⟩, hstanding, ?_⟩
    · exact .of_nil hdown
    · exact .of_nil hup
    · show InStep lib config .refused s.connector.phase [] []
      rw [hconnector]
      exact ⟨rfl, rfl, .internal, "", false, List.nil_sublist _⟩
    · show if s.onWaiting then s.reported = 0 else _
      rw [hreported.1]
      exact hreported.2
  unfold refuse
  split
  · exact hunsent.handlerFailed error
  · next message hmessage =>
    have hframe : ∃ code text recoverable, message = .error code text recoverable := by
      unfold refusalFrame at hmessage
      split at hmessage
      · cases hmessage
        exact ⟨_, _, _, rfl⟩
      · cases hmessage
        exact ⟨_, _, _, rfl⟩
      · split at hmessage <;> cases hmessage <;> exact ⟨_, _, _, rfl⟩
      · cases hmessage
        exact ⟨_, _, _, rfl⟩
      · cases hmessage
    obtain ⟨code, text, recoverable, rfl⟩ := hframe
    have hwritten : Lockstep lib json config
        ((s.inPhase .refused).writeRelay lib json (.error code text recoverable)) := by
      refine lockstep_writeRelay hjson hunsent ?_
      intro payload hpayload
      refine ⟨⟨[.error code text recoverable], [], ?_, ?_, ?_⟩, hstanding, hunsent.reported⟩
      · exact (Carried.of_nil hdown).append hpayload
      · exact .of_nil hup
      · show InStep lib config .refused s.connector.phase _ []
        rw [hconnector]
        exact ⟨rfl, rfl, code, text, recoverable, List.Sublist.refl _⟩
    show Lockstep lib json config (if _ then _ else _)
    split
    · exact hwritten
    · exact hwritten.handlerFailed error

/-- The handler has read the hello. -/
theorem lockstep_greet (hjson : json.Lawful) (now : Int)
    {message : EndpointMessage} (hhello : HandlerPhase.greeting.Expects lib config message)
    (hdown : s.toHost = []) (hup : s.toRelay = [])
    (hconnector : s.connector.phase = .waiting config.challenge.connectionId)
    (hstanding : Standing lib config s.relay .greeting)
    (hreported : s.onWaiting = true ∧ s.reported = 0) :
    Lockstep lib json config (s.greet lib json config now message) := by
  let op : RelayOp := .hello config.challenge now message
  have hfresh : ∀ id, Relay.opens op = some id → s.relay.Fresh id := by
    intro id hid
    cases hid
    exact hstanding.unused rfl
  have hchange := Relay.step_change lib config.server s.relay op
  have hsafe := hchange.safe hstanding.safe hfresh
  have hdelivered := @Relay.delivered_step lib config.server _ hstanding.delivered op hfresh
  unfold greet
  rcases houter : s.relay.handleOuter lib config.server config.challenge now message with
    ⟨relay, outcome⟩
  have hrelay : (s.relay.step lib config.server op).1 = relay := congrArg Prod.fst houter
  rw [hrelay] at hsafe hdelivered
  have hother : Lockstep lib json config ({ s with relay := relay }.inPhase .refused) := by
    refine ⟨⟨[], [], ?_, ?_, ?_⟩, ⟨hsafe, hdelivered, ?_, ?_, ?_⟩, ?_⟩
    · exact .of_nil hdown
    · exact .of_nil hup
    · show InStep lib config .refused s.connector.phase [] []
      rw [hconnector]
      exact ⟨rfl, rfl, .internal, "", false, List.nil_sublist _⟩
    · exact fun he => by cases he
    · exact fun he => by cases he
    · exact fun client he => by cases he
    · show if s.onWaiting then s.reported = 0 else _
      rw [hreported.1]
      exact hreported.2
  cases outcome with
  | registered id =>
    dsimp only
    obtain ⟨hostId, routes, proof, keys, hmessage, hadmitted, hhost⟩ :=
      Relay.handleOuter_registered houter
    have hkeys : Relay.routeKeys lib (sortRoutes config.routes) = .ok keys := by
      obtain ⟨text, -, hexpected⟩ := Fallible.bind_eq_ok.mp hhello
      rw [hmessage] at hexpected
      cases hexpected
      exact Relay.keys_of_admitHost hadmitted
    have hstands : Standing lib config relay .waiting := by
      refine ⟨hsafe, hdelivered, (fun he => by cases he), ?_, (fun client he => by cases he)⟩
      exact fun _ => ⟨_, keys, hhost, rfl, hkeys⟩
    have hcallback : if s.onWaiting then s.reported = 0
        else s.reported = 1 ∧ HandlerPhase.waiting.registered = true := by
      rw [hreported.1]
      exact hreported.2
    refine lockstep_writeRelay hjson ⟨⟨[], [], ?_, ?_, ?_⟩, hstands, hcallback⟩ ?_
    · exact .of_nil hdown
    · exact .of_nil hup
    · show InStep lib config .waiting s.connector.phase [] []
      rw [hconnector]
      exact ⟨rfl, rfl, List.nil_sublist _⟩
    · intro payload hpayload
      refine ⟨⟨[.hostWaiting config.challenge.connectionId], [], ?_, ?_, ?_⟩, hstands, hcallback⟩
      · exact (Carried.of_nil hdown).append hpayload
      · exact .of_nil hup
      · show InStep lib config .waiting s.connector.phase _ []
        rw [hconnector]
        exact ⟨rfl, rfl, List.Sublist.refl _⟩
  | refused error => exact lockstep_refuse hjson hdown hup hconnector hstanding.refused hreported
  | claimed client => exact hother
  | handed host client => exact hother
  | silent => exact hother

theorem lockstep_handlerReads (hjson : json.Lawful)
    (h : Lockstep lib json config s) (now : Int) :
    Lockstep lib json config (s.handlerReads lib json config now) := by
  obtain ⟨down, up, hdown, hup, hstep⟩ := h.wired
  unfold handlerReads
  split
  · next payload rest hphase hread =>
    rw [hread] at hup
    obtain ⟨message, later, rfl, hdecode, hrest⟩ := hup.cons
    rw [hphase] at hstep
    obtain ⟨hconnector, rfl, rfl, hhello⟩ := hstep.hello
    have hstanding := h.standing
    rw [hphase] at hstanding
    have hreported : s.onWaiting = true ∧ s.reported = 0 := by
      have hcallback := h.reported
      rw [hphase] at hcallback
      cases hwaiting : s.onWaiting with
      | true =>
        rw [hwaiting] at hcallback
        exact ⟨rfl, hcallback⟩
      | false =>
        rw [hwaiting] at hcallback
        cases hcallback.2
    simp only [hdecode]
    refine lockstep_greet hjson now hhello ?_ ?_ hconnector hstanding hreported
    · exact List.map_eq_nil_iff.mp hdown
    · exact List.map_eq_nil_iff.mp hrest
  · next ping payload rest hphase hread =>
    rw [hread] at hup
    obtain ⟨message, later, rfl, hdecode, hrest⟩ := hup.cons
    rw [hphase] at hstep
    obtain ⟨hconnector, rfl, rfl, rfl⟩ := hstep.pong
    have hstanding := h.standing
    rw [hphase] at hstanding
    simp only [hdecode]
    unfold answered
    rw [if_pos rfl]
    refine ⟨⟨[], [], hdown, hrest, ?_⟩,
      hstanding.loop rfl (by simp [inPhase]) fun _ => by simp [inPhase],
      h.reported_of _ fun _ => rfl⟩
    show InStep lib config .waiting s.connector.phase [] []
    rw [hconnector]
    exact ⟨rfl, rfl, List.nil_sublist _⟩
  · exact h

theorem lockstep_handlerStep (hjson : json.Lawful)
    (h : Lockstep lib json config s) (op : SessionOp) :
    Lockstep lib json config (s.handlerStep lib json config op) := by
  cases op with
  | handlerReads now => exact lockstep_handlerReads hjson h now
  | handlerPings ping =>
    simp only [handlerStep]
    split
    · next hphase => exact lockstep_pings hjson h hphase ping
    · exact h
  | handlerReceives =>
    simp only [handlerStep]
    split
    · next hphase => exact lockstep_receives hjson h hphase
    · exact h
  | handlerStops =>
    simp only [handlerStep]
    split
    · exact h.handlerFailed _
    · exact h
  | handlerAbandoned =>
    simp only [handlerStep]
    split
    · exact h.handlerFailed _
    · exact h
  | handlerFails operation source => exact h.handlerFailed _
  | others op => exact h
  | connectorReads now stop current => exact h
  | connectorStops => exact h
  | connectorFails operation source => exact h

theorem lockstep_introduce (hlib : lib.Lawful) (hjson : json.Lawful) (now : Int)
    (hphase : s.handler.phase = .greeting) (hconnector : s.connector.phase = .connecting)
    (hdown : s.toHost = []) (hup : s.toRelay = [])
    (hstanding : Standing lib config s.relay s.handler.phase)
    (hreported : if s.onWaiting then s.reported = 0
      else s.reported = 1 ∧ s.handler.phase.registered = true) :
    Lockstep lib json config
      (s.introduce lib json config now (config.challenge.message lib)) := by
  have hunsent : Lockstep lib json config s := by
    refine ⟨⟨[], [], ?_, ?_, ?_⟩, hstanding, hreported⟩
    · exact .of_nil hdown
    · exact .of_nil hup
    · rw [hphase, hconnector]
      exact ⟨List.nil_sublist _, rfl⟩
  unfold introduce
  rw [readChallenge_message hlib]
  split
  · exact hunsent.connectorFailed _
  · next connectionId nonce expiresAt hchallenge =>
    split at hchallenge
    · cases hchallenge
    cases hchallenge
    split
    · exact hunsent.connectorFailed _
    · next payload hpayload =>
      obtain ⟨hello, hhello, hencoded⟩ := Fallible.bind_eq_ok.mp hpayload
      refine ⟨⟨[], [hello], ?_, ?_, ?_⟩, hstanding, hreported⟩
      · exact .of_nil hdown
      · exact (Carried.of_nil hup).append (decodeEndpoint_encode hjson hencoded)
      · show InStep lib config s.handler.phase (.waiting config.challenge.connectionId) [] [hello]
        rw [hphase]
        exact ⟨rfl, rfl, hello, hhello, List.Sublist.refl _⟩

/-- One turn of the loop of the connector, with what it has read. -/
theorem lockstep_turn (hjson : json.Lawful) (h : Lockstep lib json config s) {id : String}
    (hconnector : s.connector.phase = .waiting id) (hid : id = config.challenge.connectionId)
    {down : List RelayMessage} {up : List EndpointMessage}
    (hdown : Carried (decodeRelay lib json) s.toHost down)
    (hup : Carried (decodeEndpoint lib json) s.toRelay up) {message : RelayMessage}
    (hread : InStep.Read config s.handler.phase down up message) (current : Bool) :
    Lockstep lib json config (s.connectorTurn lib json id current message) := by
  generalize hphase : s.handler.phase = phase at hread
  cases hread with
  | waiting hregistered =>
    simp only [connectorTurn]
    rw [if_pos hid.symm]
    split
    · unfold report
      split
      · next hwaiting =>
        have hnone := h.reported
        rw [if_pos hwaiting] at hnone
        refine ⟨h.wired, h.standing, ?_⟩
        show s.reported + 1 = 1 ∧ s.handler.phase.registered = true
        rw [hnone, hphase]
        exact ⟨rfl, hregistered⟩
      · exact h
    · exact h.connectorFailed _
  | ping ping =>
    simp only [connectorTurn]
    split
    · split
      · exact h.connectorFailed _
      · next payload hencoded =>
        refine ⟨⟨[], [.pong ping.val.toString], hdown, ?_, ?_⟩, h.standing, h.reported⟩
        · exact hup.append (decodeEndpoint_encode hjson hencoded)
        · show InStep lib config s.handler.phase s.connector.phase [] _
          rw [hphase, hconnector]
          exact ⟨hid, .inr ⟨rfl, rfl⟩⟩
    · exact h.connectorFailed _
  | tunnel client =>
    refine ⟨⟨[], [], hdown, hup, ?_⟩, h.standing, h.reported⟩
    show InStep lib config s.handler.phase (.tunnel client) [] []
    rw [hphase]
    exact ⟨rfl, rfl, rfl⟩
  | error code text recoverable => exact h.connectorFailed _

theorem lockstep_connectorReads (hlib : lib.Lawful) (hjson : json.Lawful)
    (h : Lockstep lib json config s) (now : Int) (stop current : Bool) :
    Lockstep lib json config (s.connectorReads lib json config now stop current) := by
  obtain ⟨down, up, hdown, hup, hstep⟩ := h.wired
  unfold connectorReads
  split
  · next payload rest hconnector hread =>
    rw [hread] at hdown
    obtain ⟨message, later, rfl, hdecode, hrest⟩ := hdown.cons
    rw [hconnector] at hstep
    obtain ⟨hphase, hwritten, rfl⟩ := hstep.connecting
    obtain ⟨rfl, rfl⟩ := tail_of_sublist_single hwritten
    simp only [hdecode]
    exact lockstep_introduce hlib hjson now hphase hconnector (List.map_eq_nil_iff.mp hrest)
      (List.map_eq_nil_iff.mp hup) h.standing h.reported
  · next id payload rest hconnector hread =>
    rw [hread] at hdown
    obtain ⟨message, later, rfl, hdecode, hrest⟩ := hdown.cons
    rw [hconnector] at hstep
    obtain ⟨hid, hlater, hmessage⟩ := hstep.read
    have hdropped : Lockstep lib json config { s with toHost := rest } := by
      refine ⟨⟨later, up, hrest, hup, ?_⟩, h.standing, h.reported⟩
      show InStep lib config s.handler.phase s.connector.phase later up
      rw [hconnector]
      exact hlater
    simp only [hdecode]
    split
    · exact hdropped.connectorFailed _
    · exact lockstep_turn hjson hdropped hconnector hid hrest hup hmessage current
  · exact h

theorem lockstep_connectorStep (hlib : lib.Lawful) (hjson : json.Lawful)
    (h : Lockstep lib json config s) (op : SessionOp) :
    Lockstep lib json config (s.connectorStep lib json config op) := by
  cases op with
  | connectorReads now stop current => exact lockstep_connectorReads hlib hjson h now stop current
  | connectorStops =>
    simp only [connectorStep]
    split
    · exact h.connectorFailed _
    · exact h.connectorFailed _
    · exact h
  | connectorFails operation source => exact h.connectorFailed _
  | others op => exact h
  | handlerReads now => exact h
  | handlerPings ping => exact h
  | handlerReceives => exact h
  | handlerStops => exact h
  | handlerAbandoned => exact h
  | handlerFails operation source => exact h

theorem lockstep_others (h : Lockstep lib json config s) {op : RelayOp}
    (hop : s.elsewhere config op = true) :
    Lockstep lib json config { s with relay := (s.relay.step lib config.server op).1 } := by
  have hfresh : ∀ id, Relay.opens op = some id → s.relay.Fresh id := by
    intro id hid
    cases op with
    | hello other now message =>
      cases hid
      simp only [elsewhere, ne_eq, decide_eq_true_eq, Option.isNone_iff_eq_none] at hop
      exact hop.2
    | check | take | send | receive | dropGuard | dropReceiver | stop => cases hid
  have hown : Relay.opens op ≠ some config.challenge.connectionId := by
    cases op with
    | hello other now message =>
      simp only [elsewhere, ne_eq, decide_eq_true_eq] at hop
      simpa [Relay.opens] using hop.1
    | check | take | send | receive | dropGuard | dropReceiver | stop => simp [Relay.opens]
  exact ⟨h.wired, h.standing.step op hfresh hown, h.reported⟩

theorem lockstep_start (hjson : json.Lawful) :
    Lockstep lib json config (start lib json config) := by
  have hstanding : Standing lib config .empty .greeting := by
    refine ⟨Relay.safe_empty, Relay.delivered_empty, ?_, (fun he => by cases he),
      (fun _ he => by cases he)⟩
    intro _
    constructor <;> simp [Relay.empty]
  refine lockstep_writeRelay hjson ⟨⟨[], [], .nil, .nil, ?_⟩, hstanding, rfl⟩ ?_
  · exact ⟨List.nil_sublist _, rfl⟩
  · intro payload hpayload
    refine ⟨⟨[config.challenge.message lib], [], Carried.nil.append hpayload, .nil, ?_⟩, hstanding,
      rfl⟩
    exact ⟨List.Sublist.refl _, rfl⟩

theorem lockstep_step (hlib : lib.Lawful) (hjson : json.Lawful) (h : Lockstep lib json config s)
    (op : SessionOp) : Lockstep lib json config (s.step lib json config op).1 := by
  have hconnector : Lockstep lib json config
      (if s.connector.result.isNone then s.connectorStep lib json config op else s) := by
    split
    · exact lockstep_connectorStep hlib hjson h op
    · exact h
  have hhandler : Lockstep lib json config
      (if s.handler.result.isNone then s.handlerStep lib json config op else s) := by
    split
    · exact lockstep_handlerStep hjson h op
    · exact h
  cases op with
  | others op =>
    simp only [step]
    split
    · next hop => exact lockstep_others h hop
    · exact h
  | connectorReads now stop current => exact hconnector
  | connectorStops => exact hconnector
  | connectorFails operation source => exact hconnector
  | handlerReads now => exact hhandler
  | handlerPings ping => exact hhandler
  | handlerReceives => exact hhandler
  | handlerStops => exact hhandler
  | handlerAbandoned => exact hhandler
  | handlerFails operation source => exact hhandler

theorem lockstep_run (hlib : lib.Lawful) (hjson : json.Lawful) (ops : List SessionOp) :
    Lockstep lib json config (run lib json config ops) :=
  Trace.final_invariant (step lib json config) (Lockstep lib json config)
    (fun _ op h => lockstep_step hlib hjson h op) _ ops (lockstep_start hjson)

/-- Whatever the other connections, the clocks, the stop flags and the network do:
each end can decode what the other wrote and finds the message that it waits for,
and the hello of a host with the right identity and key passes the authentication of
the relay. The expiry, the capacity or an overlap may still refuse it. -/
theorem run_expected (hlib : lib.Lawful) (hjson : json.Lawful) (config : SessionConfig)
    (ops : List SessionOp) :
    let s := run lib json config ops
    (∀ payload rest, s.toHost = payload :: rest → ∃ message,
      decodeRelay lib json payload = .ok message ∧ s.connector.phase.Expects lib config message) ∧
    (∀ payload rest, s.toRelay = payload :: rest → ∃ message,
      decodeEndpoint lib json payload = .ok message ∧ s.handler.phase.Expects lib config message) ∧
    (config.host.hostId = config.server.hostId →
      config.host.hostAuthenticationKey = config.server.hostAuthenticationKey →
      ∀ payload rest, s.handler.phase = .greeting → s.toRelay = payload :: rest →
        ∃ proof keys, decodeEndpoint lib json payload =
            .ok (.hostHello config.host.hostId (sortRoutes config.routes) proof) ∧
          Relay.admitHost lib config.server config.challenge config.host.hostId
            (sortRoutes config.routes) proof = .ok keys) := by
  intro s
  have hlockstep : Lockstep lib json config s := lockstep_run hlib hjson ops
  obtain ⟨down, up, hdown, hup, hstep⟩ := hlockstep.wired
  have hhandler : ∀ payload rest, s.toRelay = payload :: rest → ∃ message,
      decodeEndpoint lib json payload = .ok message ∧
        s.handler.phase.Expects lib config message := by
    intro payload rest hread
    have hcarried : Carried (decodeEndpoint lib json) (payload :: rest) up := hread ▸ hup
    obtain ⟨message, later, hmessages, hdecode, -⟩ := hcarried.cons
    exact ⟨message, hdecode, hstep.expected.2 message later hmessages⟩
  refine ⟨?_, hhandler, ?_⟩
  · intro payload rest hread
    have hcarried : Carried (decodeRelay lib json) (payload :: rest) down := hread ▸ hdown
    obtain ⟨message, later, hmessages, hdecode, -⟩ := hcarried.cons
    exact ⟨message, hdecode, hstep.expected.1 message later hmessages⟩
  · intro hhost hkey payload rest hphase hread
    obtain ⟨message, hdecode, hexpected⟩ := hhandler payload rest hread
    rw [hphase] at hexpected
    obtain ⟨proof, keys, rfl, hadmitted⟩ :=
      admitHost_hello hhost hkey hexpected (validate_of_decodeEndpoint hdecode)
    exact ⟨proof, keys, hdecode, hadmitted⟩

/-- The connector reports at most once that it waits, and only after the relay has
installed its registration, which has the keys of its routes; it opens a tunnel only for
the client that the relay has matched with it, and that client has proved a key of one of
its routes. -/
theorem run_safe (hlib : lib.Lawful) (hjson : json.Lawful) (config : SessionConfig)
    (ops : List SessionOp) :
    let s := run lib json config ops
    s.reported ≤ 1 ∧
    (s.reported = 1 → ∃ host keys,
      s.relay.hosts[config.challenge.connectionId]? = some host ∧
        host.registration = ⟨config.challenge.connectionId, keys⟩ ∧
        Relay.routeKeys lib (sortRoutes config.routes) = .ok keys) ∧
    ∀ peer, s.connector.phase = .tunnel peer → s.handler.phase = .tunnel peer ∧
      ∃ client claim, s.relay.clients[peer]? = some client ∧ client.phase = .matched claim ∧
        claim.connectionId = config.challenge.connectionId ∧
        (ProofContext.client claim.key client.challenge client.routeId).Verifies lib client.proof ∧
        ∃ route ∈ config.routes, route.routeId = client.routeId ∧
          relayDecode32 lib "authentication_key" route.authenticationKey = .ok claim.key := by
  intro s
  have hlockstep : Lockstep lib json config s := lockstep_run hlib hjson ops
  have hreported := hlockstep.reported
  refine ⟨?_, ?_, ?_⟩
  · split at hreported <;> omega
  · intro hone
    split at hreported
    · omega
    · exact hlockstep.standing.registered hreported.2
  · intro peer hpeer
    obtain ⟨down, up, -, -, hstep⟩ := hlockstep.wired
    rw [hpeer] at hstep
    have htunnel : s.handler.phase = .tunnel peer := by
      generalize s.handler.phase = phase at hstep
      cases phase with
      | tunnel client => rw [hstep.1]
      | greeting => cases hstep
      | refused => cases hstep
      | waiting => cases hstep
      | pinging ping => cases hstep
    refine ⟨htunnel, ?_⟩
    obtain ⟨client, claim, hclient, hphase, hid⟩ := hlockstep.standing.tunnel peer htunnel
    have hfound := hlockstep.standing.safe.found peer client claim hclient (by rw [hphase]; rfl)
    have hproven := hlockstep.standing.safe.proven peer client claim hclient (by rw [hphase]; rfl)
    obtain ⟨host, hhost, hroute⟩ := hfound
    obtain ⟨own, keys, hown, hregistration, hkeys⟩ :=
      hlockstep.standing.registered (by rw [htunnel]; rfl)
    rw [hid, hown] at hhost
    cases hhost
    rw [hregistration] at hroute
    obtain ⟨route, hmem, hrouteId, hkey⟩ := route_of_routeKeys hkeys hroute
    exact ⟨client, claim, hclient, hphase, hid, hproven, route,
      List.mem_mergeSort.mp hmem, hrouteId, hkey⟩

end

end RelaySession

namespace Sample

open Serde (Json)

/-- Reader and writer of these values. -/
def tableJson (values : List Json) : RelayJson where
  toVec value := if value ∈ values then .ok value.toVec else .error "another value"
  fromSlice bytes :=
    match Json.readAmong values bytes with
    | some value => .ok value
    | none => .error "another text"
  dataError _ := "another record"

theorem tableJson_lawful {values : List Json} (hdistinct : (values.map Json.toVec).Nodup)
    (hnonempty : ∀ value ∈ values, value.toVec ≠ []) : (tableJson values).Lawful where
  fromSlice_toVec value bytes h := by
    simp only [tableJson] at h ⊢
    split at h
    · next hvalue =>
      cases h
      rw [Json.readAmong_toVec hdistinct hvalue]
    · cases h
  fromSlice_nil value h := by
    simp only [tableJson] at h
    split at h
    · next known hfound =>
      exact hnonempty known (Json.mem_of_readAmong hfound).1 (Json.mem_of_readAmong hfound).2
    · cases h

def hostSession : SessionConfig where
  server := relayConfig
  host := ⟨⟨"relay.example.com", 443⟩, relayHostId, relayKey, ⟨.v4 [127, 0, 0, 1], 0, 4000⟩⟩
  routes := [⟨routeText, relayLibrary.encode relayKey.val⟩]
  challenge := challenge

def hostPing : UuidV7 := ⟨(Ident.numbered .event 3).uuid, (Ident.numbered .event 3).version7⟩

def hostHelloMessage : EndpointMessage :=
  .hostHello relayHostId hostSession.routes
    (proofIn (.host relayKey challenge relayHostId hostSession.routes))

/-- Everything that the two ends say. -/
def sessionJson : RelayJson :=
  tableJson ([(challenge.message relayLibrary).serialize, hostHelloMessage.serialize,
    (RelayMessage.hostWaiting challenge.connectionId).serialize,
    (RelayMessage.ping hostPing.val.toString).serialize,
    (EndpointMessage.pong hostPing.val.toString).serialize,
    (RelayMessage.tunnelReady clientChallenge.connectionId).serialize].map relayEnvelope)

theorem sessionJson_lawful : sessionJson.Lawful :=
  tableJson_lawful (by decide +kernel) (by decide +kernel)

/-- The host registers and a client introduces itself. -/
def hostRegisters : List SessionOp :=
  [.connectorReads 5 false true, .handlerReads 5]

/-- A client is matched with the host after a heartbeat. -/
def hostServes : List SessionOp :=
  hostRegisters ++ [.others (.hello clientChallenge 6 (.clientHello routeText
      (proofIn (.client relayKey clientChallenge routeText)))),
    .connectorReads 6 false true, .handlerPings hostPing, .connectorReads 7 false true,
    .handlerReads 7, .others (.check clientChallenge.connectionId),
    .others (.take clientChallenge.connectionId), .others (.send clientChallenge.connectionId),
    .handlerReceives, .connectorReads 8 false true]

end Sample

namespace RelaySession

open Sample

theorem hostRegisters_introduced :
    let s := run relayLibrary sessionJson hostSession (hostRegisters.take 1)
    s.toRelay.length = 1 ∧ s.handler.phase = .greeting := by
  decide +kernel

theorem run_expected_registers :
    let s := run relayLibrary sessionJson hostSession (hostRegisters.take 1)
    s.toRelay.length = 1 ∧
    ∀ payload rest, s.toRelay = payload :: rest → ∃ proof keys,
      decodeEndpoint relayLibrary sessionJson payload =
        .ok (.hostHello relayHostId (sortRoutes hostSession.routes) proof) ∧
      Relay.admitHost relayLibrary relayConfig challenge relayHostId
        (sortRoutes hostSession.routes) proof = .ok keys :=
  ⟨hostRegisters_introduced.1, fun payload rest =>
    (run_expected relayLibrary_lawful sessionJson_lawful hostSession (hostRegisters.take 1)).2.2
      rfl rfl payload rest hostRegisters_introduced.2⟩

theorem hostServes_matched :
    let s := run relayLibrary sessionJson hostSession hostServes
    s.reported = 1 ∧ s.connector.phase = .tunnel clientChallenge.connectionId := by
  decide +kernel

/-- The connector has reported its registration and serves the client that proved the key
of its route. -/
theorem run_safe_serves :
    let s := run relayLibrary sessionJson hostSession hostServes
    s.reported = 1 ∧
      (∃ host keys, s.relay.hosts[hostSession.challenge.connectionId]? = some host ∧
        host.registration = ⟨hostSession.challenge.connectionId, keys⟩ ∧
        Relay.routeKeys relayLibrary (sortRoutes hostSession.routes) = .ok keys) ∧
      s.handler.phase = .tunnel clientChallenge.connectionId ∧
      ∃ client claim, s.relay.clients[clientChallenge.connectionId]? = some client ∧
        client.phase = .matched claim ∧
        (ProofContext.client claim.key client.challenge client.routeId).Verifies relayLibrary
          client.proof := by
  have hsafe := run_safe relayLibrary_lawful sessionJson_lawful hostSession hostServes
  have hreported := hostServes_matched.1
  have hregistered := hsafe.2.1 hreported
  obtain ⟨htunnel, client, claim, hclient, hmatched, -, hproved, -⟩ :=
    hsafe.2.2 clientChallenge.connectionId hostServes_matched.2
  exact ⟨hreported, hregistered, htunnel, client, claim, hclient, hmatched, hproved⟩

end RelaySession

end AgentPulse
