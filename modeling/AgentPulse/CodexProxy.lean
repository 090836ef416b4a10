import AgentPulse.Cancellation
import AgentPulse.CodexExit

/-!
# Proxied connections of other clients

A client of the App Server connects through the proxy. What it writes is sent on
to the server and what the server writes is sent on to the client; on the way the
texts of the server are mirrored into the shared state. Messages are numbered by
the order in which each side reads them.
-/
namespace AgentPulse

namespace Codex

open Std (ExtTreeMap)
open Cancellation (Registry Call System Op Doomed)
open Program (Preserves Triple fail ofExcept modify)
open Interleaved (Holds)

/-- The streams of each connection under the number of its route. -/
structure ProxyControl (σ : Type) where
  stopped : Bool
  connections : ExtTreeMap Nat (List σ)

namespace ProxyControl

variable {σ : Type}

def default : ProxyControl σ := ⟨false, ∅⟩

/-- `self.stopped.store(true)`, the first part of `request_stop`. -/
def raise (self : ProxyControl σ) : ProxyControl σ := { self with stopped := true }

/-- The section of `request_stop`: `std::mem::take(&mut *connections)`. -/
def takeConnections (self : ProxyControl σ) : ProxyControl σ × List σ :=
  ({ self with connections := ∅ }, (OrderedMap.values self.connections).flatten)

/-- The section of `register`; the answer is whether the connection may go on. -/
def register (self : ProxyControl σ) (route : Nat) (interrupt : σ) : ProxyControl σ × Bool :=
  if self.stopped then (self, false)
  else
    let streams := (self.connections[route]?.getD []) ++ [interrupt]
    ({ self with connections := self.connections.insert route streams }, true)

def unregister (self : ProxyControl σ) (route : Nat) : ProxyControl σ :=
  { self with connections := self.connections.erase route }

/-- A connection is known by its route. -/
def registry : Registry (ProxyControl σ) Nat Nat σ where
  raise := raise
  take := takeConnections
  enter self route interrupt :=
    ((self.register route interrupt).1,
      if (self.register route interrupt).2 then some route else none)
  remove := unregister

/-- The stream is one of those of the route. -/
def Holds (self : ProxyControl σ) (route : Nat) (stream : σ) : Prop :=
  stream ∈ self.connections[route]?.getD []

theorem holds_takeConnections {self : ProxyControl σ} {route : Nat} {stream : σ}
    (h : self.Holds route stream) : stream ∈ self.takeConnections.2 := by
  unfold Holds at h
  cases hstreams : self.connections[route]? with
  | none => simp [hstreams] at h
  | some streams =>
    rw [hstreams] at h
    exact List.mem_flatten.mpr ⟨streams, OrderedMap.mem_values.mpr ⟨route, hstreams⟩, h⟩

theorem registry_lawful :
    (registry : Registry (ProxyControl σ) Nat Nat σ).Lawful (fun _ => True) stopped Holds where
  valid_raise _ := trivial
  valid_take _ := trivial
  valid_enter _ _ _ := trivial
  valid_remove _ _ := trivial
  raised _ := rfl
  raise_held _ _ _ := Iff.rfl
  take_cancelled _ := rfl
  take_held _ route stream h := by simp [registry, takeConnections, Holds] at h
  taken _ h := holds_takeConnections h
  enter_cancelled self route stream := by
    simp only [registry, register]
    split <;> rfl
  admitted := by
    intro self route stream key _ henter
    simp only [registry, register] at henter ⊢
    cases hstopped : self.stopped with
    | true => simp [hstopped] at henter
    | false =>
      simp only [hstopped, Bool.false_eq_true, if_false, if_true, Option.some.injEq] at henter ⊢
      subst henter
      refine ⟨trivial, ?_⟩
      intro other s
      unfold Holds
      simp only [OrderedMap.getElem?_insert]
      by_cases hother : route = other
      · subst hother
        simp [or_comm]
      · simp [hother, Ne.symm hother]
  refused := by
    intro self route stream henter
    simp only [registry, register] at henter ⊢
    split
    · rfl
    · next hopen => simp [hopen] at henter
  remove_cancelled _ _ := rfl
  removed route other s _ := by
    simp only [registry, unregister, Holds]
    rw [OrderedMap.getElem?_erase]
    by_cases hother : route = other
    · simp [hother]
    · simp [hother, Ne.symm hother]

/-- Whatever the connections and the owner do in whatever order: after a stop has
returned no connection goes on past a registration, and both streams of each one
that is still there were shut down or are about to be. -/
theorem run_stops (ops : List (Op Nat Nat σ)) :
    let system := System.run registry default ops
    (system.registry.stopped = false → ∀ entry ∈ system.live,
      system.registry.Holds entry.1 entry.2) ∧
    (∀ (id : Nat) (s : σ), system.calls[id]? = some (.refused s) → s ∈ system.shut) ∧
    ∀ id : Nat, system.calls[id]? = some .cancelled →
      (∀ route stream, (system.registry.register route stream).2 = false) ∧
      (∀ entry ∈ system.live, Doomed system entry.2) ∧
      ((∀ (other : Nat) (call : Call σ), system.calls[other]? = some call → call.inHand = []) →
        ∀ entry ∈ system.live, entry.2 ∈ system.shut) := by
  intro system
  have hsound : Cancellation.Sound (fun _ => True) stopped Holds system :=
    Cancellation.sound_run registry_lawful trivial ops
  refine ⟨hsound.kept, fun id s hcall => hsound.refused id _ hcall s rfl, ?_⟩
  intro id hcall
  refine ⟨?_, Cancellation.doomed_of_emptied hsound hcall rfl,
    Cancellation.shut_of_cancelled hsound hcall⟩
  intro route stream
  have hstopped : system.registry.stopped = true := hsound.raised id _ hcall rfl
  simp [register, hstopped]

end ProxyControl

/-- A message, as far as the proxy tells them apart. -/
inductive Message where
  | text (text : String)
  | binary (bytes : List UInt8)
  | ping
  | pong
  | close
  | frame
  deriving DecidableEq, Repr

/-- What a read of a socket brings. -/
inductive SocketRead where
  | message (message : Message)
  | timeout
  | closed
  | failed (message : String)

/-- The two ways through the proxy: from the client to the server and back. -/
inductive Way where
  | up
  | down
  deriving DecidableEq, Repr

/-- The payloads that were read at one end and those sent on at the other, in order. -/
structure Path where
  heard : List Message
  sent : List Message

structure Proxied (B : Type) where
  shared : Interleaved (Worker B) (Foreign B)
  paths : Way → Path

/-- What the surroundings decide in one round: whether a stop was requested before
it, what each read brings, and the outcome of the write that follows it. -/
structure Lap where
  stop : Bool
  downstream : SocketRead
  upstreamWrite : Except String Unit
  upstream : SocketRead
  downstreamWrite : Except String Unit

abbrev Proxying (B α : Type) := Program (Proxied B) Halt α

namespace Proxying

variable {B α : Type}

def shared (x : Work B α) : Proxying B α :=
  Program.zoom Proxied.shared (fun s shared => { s with shared := shared }) x

/-- `proxy_transport_error` of a failed write. -/
def written (result : Except String Unit) : Proxying B Unit :=
  ofExcept (result.mapError fun message => .source (.transport s!"client proxy: {message}"))

def onPath (way : Way) (f : Path → Path) : Proxying B Unit :=
  modify fun s => { s with paths := Function.update s.paths way (f (s.paths way)) }

def hear (way : Way) (payload : Message) : Proxying B Unit :=
  onPath way fun path => { path with heard := path.heard ++ [payload] }

def send (way : Way) (payload : Message) (result : Except String Unit) : Proxying B Unit := do
  written result
  onPath way fun path => { path with sent := path.sent ++ [payload] }

/-- What follows a read; true when the connection is over. A close that is passed
on may fail without an effect. -/
def forward (way : Way) (mirror : String → Work B Unit) (result : Except String Unit) :
    SocketRead → Proxying B Bool
  | .message (.text text) => do
    hear way (.text text)
    shared (mirror text)
    send way (.text text) result
    pure false
  | .message (.binary bytes) => do
    hear way (.binary bytes)
    send way (.binary bytes) result
    pure false
  | .message .ping | .message .pong => do
    written result
    pure false
  | .message .frame | .timeout => pure false
  | .message .close | .closed => pure true
  | .failed message => fail (.source (.transport s!"client proxy: {message}"))

variable (host : ProviderHost B) (schema : ProtocolSchema) (route : ApprovalRoute)
  (parse : String → ParsedText)

/-- A text of the server is mirrored as far as that succeeds. -/
def mirror (text : String) : Work B Unit := do
  let _ ← Program.attempt (Work.observeProxyServerText host schema route (parse text))

/-- `while !control.is_stopped()`. -/
def laps (fuel : Nat) : List Lap → Proxying B Unit
  | [] => fail .unfinished
  | lap :: rest =>
    if lap.stop then pure ()
    else do
      shared (Work.flushApprovalResponses host schema route fuel)
      let ended ← forward .up (fun _ => pure ()) lap.upstreamWrite lap.downstream
      if ended then pure ()
      else do
        let ended ← forward .down (mirror host schema route parse) lap.downstreamWrite lap.upstream
        if ended then pure () else laps fuel rest

/-- Both sockets are registered and set up before the first round; `entered` is the
outcome of that. -/
def proxyConnectionLoop (fuel : Nat) (entered : Sourced Bool) (rounds : List Lap) :
    Proxying B Unit := do
  let entered ← ofExcept (entered.mapError Halt.source)
  if entered then laps host schema route parse fuel rounds else pure ()

/-- The interactions of a connection end with it. -/
def closeRoute : Work B Unit := do
  let closed ← Work.onApprovals host route fun approvals =>
    (.ok (approvals.closeRoute route).1, (approvals.closeRoute route).2)
  Work.publishAllClosed host route closed

def runProxyConnection (fuel : Nat) (entered : Sourced Bool) (rounds : List Lap) :
    Proxying B Unit := do
  match ← Program.attempt (proxyConnectionLoop host schema route parse fuel entered rounds) with
  | .error .unfinished => fail .unfinished
  | _ => shared (closeRoute host route)

/-- What a read has to be sent on. -/
def payload : SocketRead → List Message
  | .message (.text text) => [.text text]
  | .message (.binary bytes) => [.binary bytes]
  | _ => []

/-- The paths after more was heard and sent on. -/
def carry (paths : Way → Path) (way : Way) (heard sent : List Message) : Way → Path :=
  Function.update paths way ⟨(paths way).heard ++ heard, (paths way).sent ++ sent⟩

theorem carry_nil (paths : Way → Path) (way : Way) : carry paths way [] [] = paths := by
  unfold carry
  rw [List.append_nil, List.append_nil]
  exact Function.update_eq_self way paths

theorem carry_carry (paths : Way → Path) (way : Way) (heard sent heard' sent' : List Message) :
    carry (carry paths way heard sent) way heard' sent' =
      carry paths way (heard ++ heard') (sent ++ sent') := by
  unfold carry
  rw [Function.update_idem, Function.update_self]
  simp only [List.append_assoc]

section Forward

variable {paths : Way → Path} {way : Way} {E : Halt → Proxied B → Prop}

/-- A program on the shared state that cannot fail leaves the paths alone. -/
theorem triple_shared {x : Work B α} (hx : ∀ s, ∃ a, (x s).1 = .ok a) :
    Triple (fun s : Proxied B => s.paths = paths) (shared x) (fun _ s => s.paths = paths) E where
  returns s a s' hs h := by
    obtain ⟨-, rfl⟩ := Prod.mk.inj h
    exact hs
  fails s e s' hs h := by
    obtain ⟨a, ha⟩ := hx s.shared
    cases ha.symm.trans (Prod.mk.inj h).1

theorem triple_onPath (heard sent : List Message) {f : Path → Path}
    (hf : ∀ path, f path = ⟨path.heard ++ heard, path.sent ++ sent⟩) :
    Triple (fun s : Proxied B => s.paths = paths) (onPath way f)
      (fun _ s => s.paths = carry paths way heard sent) E := by
  apply Triple.modify
  intro s hs
  show Function.update s.paths way (f (s.paths way)) = _
  rw [hs, hf]
  rfl

theorem triple_hear (message : Message) :
    Triple (fun s : Proxied B => s.paths = paths) (hear way message)
      (fun _ s => s.paths = carry paths way [message] []) E :=
  triple_onPath [message] [] fun path => by rw [List.append_nil]

/-- A failed write leaves a source error and the paths as they were. -/
theorem triple_written (result : Except String Unit) :
    Triple (fun s : Proxied B => s.paths = paths) (written result) (fun _ s => s.paths = paths)
      fun e s => e ≠ .unfinished ∧ s.paths = paths := by
  apply Triple.ofExcept
  · exact fun _ s _ hs => hs
  · intro e s he hs
    cases result with
    | ok _ => cases he
    | error message =>
      cases he
      exact ⟨by simp, hs⟩

/-- After a message was heard: it is sent on, or the write fails and it stays. -/
theorem triple_send (message : Message) (result : Except String Unit) :
    Triple (fun s : Proxied B => s.paths = carry paths way [message] []) (send way message result)
      (fun _ s => s.paths = carry paths way [message] [message])
      fun e s => e ≠ .unfinished ∧ s.paths = carry paths way [message] [] := by
  apply Triple.bind (triple_written result)
  intro _
  have hsent : Triple (fun s : Proxied B => s.paths = carry paths way [message] [])
      (onPath way fun path => { path with sent := path.sent ++ [message] })
      (fun _ s => s.paths = carry (carry paths way [message] []) way [] [message])
      fun e s => e ≠ .unfinished ∧ s.paths = carry paths way [message] [] :=
    triple_onPath [] [message] fun path => by rw [List.append_nil]
  rwa [carry_carry] at hsent

/-- Whatever a read brings, its payload is heard, and sent on unless the write fails. -/
theorem triple_forward {mirror : String → Work B Unit}
    (hmirror : ∀ text s, ∃ a, (mirror text s).1 = .ok a) (result : Except String Unit)
    (read : SocketRead) :
    Triple (fun s => s.paths = paths) (forward way mirror result read)
      (fun _ s => s.paths = carry paths way (payload read) (payload read))
      fun e s => e ≠ .unfinished ∧ s.paths = carry paths way (payload read) [] := by
  have hquiet : ∀ ended, payload read = [] →
      Triple (fun s : Proxied B => s.paths = paths) (pure ended : Proxying B Bool)
        (fun _ s => s.paths = carry paths way (payload read) (payload read))
        fun e s => e ≠ .unfinished ∧ s.paths = carry paths way (payload read) [] := by
    intro ended hnone
    rw [hnone, carry_nil]
    exact Triple.pure fun s hs => hs
  have hflush : payload read = [] →
      Triple (fun s : Proxied B => s.paths = paths) (written result >>= fun _ => pure false)
        (fun _ s => s.paths = carry paths way (payload read) (payload read))
        fun e s => e ≠ .unfinished ∧ s.paths = carry paths way (payload read) [] := by
    intro hnone
    rw [hnone, carry_nil]
    exact Triple.bind (triple_written result) fun _ => Triple.pure fun s hs => hs
  cases read with
  | timeout => exact hquiet false rfl
  | closed => exact hquiet true rfl
  | failed message =>
    apply Triple.fail
    intro s hs
    exact ⟨by simp, hs.trans (carry_nil paths way).symm⟩
  | message message =>
    cases message with
    | text text =>
      apply Triple.bind (triple_hear (.text text))
      intro _
      apply Triple.bind (triple_shared (hmirror text))
      intro _
      exact Triple.bind (triple_send (.text text) result) fun _ => Triple.pure fun s hs => hs
    | binary bytes =>
      apply Triple.bind (triple_hear (.binary bytes))
      intro _
      exact Triple.bind (triple_send (.binary bytes) result) fun _ => Triple.pure fun s hs => hs
    | ping => exact hflush rfl
    | pong => exact hflush rfl
    | close => exact hquiet true rfl
    | frame => exact hquiet false rfl

end Forward

/-- What each side offers in some rounds. -/
def offered : Way → List Lap → List Message
  | .up, rounds => rounds.flatMap fun lap => payload lap.downstream
  | .down, rounds => rounds.flatMap fun lap => payload lap.upstream

/-- What was heard since is what the rounds offered first. -/
def HeardOf (before : Way → Path) (rounds : List Lap) (paths : Way → Path) : Prop :=
  ∀ way, ∃ more, (paths way).heard = (before way).heard ++ more ∧ more <+: offered way rounds

/-- Everything that was heard was sent on. -/
def AllSent (paths : Way → Path) : Prop := ∀ way, (paths way).sent = (paths way).heard

/-- At one end the last message may be missing. -/
def LastOwed (paths : Way → Path) : Prop :=
  ∃ way owed, owed.length ≤ 1 ∧ (paths way).heard = (paths way).sent ++ owed ∧
    ∀ other, other ≠ way → (paths other).sent = (paths other).heard

theorem allSent_carry {paths : Way → Path} (h : AllSent paths) (way : Way)
    (payload : List Message) : AllSent (carry paths way payload payload) := by
  intro other
  unfold carry
  by_cases hother : other = way
  · subst hother
    rw [Function.update_self]
    exact congrArg (· ++ payload) (h other)
  · rw [Function.update_of_ne hother]
    exact h other

theorem lastOwed_carry {paths : Way → Path} (h : AllSent paths) (way : Way)
    {payload : List Message} (hone : payload.length ≤ 1) :
    LastOwed (carry paths way payload []) := by
  refine ⟨way, payload, hone, ?_, ?_⟩
  · unfold carry
    rw [Function.update_self, List.append_nil]
    exact congrArg (· ++ payload) (h way).symm
  · intro other hother
    unfold carry
    rw [Function.update_of_ne hother]
    exact h other

theorem payload_length (read : SocketRead) : (payload read).length ≤ 1 := by
  cases read with
  | timeout => exact Nat.zero_le 1
  | closed => exact Nat.zero_le 1
  | failed message => exact Nat.zero_le 1
  | message message => cases message <;> simp [payload]

theorem carry_heard (paths : Way → Path) (way other : Way) (heard sent : List Message) :
    (carry paths way heard sent other).heard =
      (paths other).heard ++ if other = way then heard else [] := by
  unfold carry
  by_cases hother : other = way
  · subst hother
    rw [Function.update_self, if_pos rfl]
  · rw [Function.update_of_ne hother, if_neg hother, List.append_nil]

/-- A round in which both ends were heard comes before the others. -/
theorem heardOf_cons {paths final : Way → Path} {lap : Lap} {rest : List Lap}
    {up down : List Message}
    (h : HeardOf (carry (carry paths .up (payload lap.downstream) up) .down
      (payload lap.upstream) down) rest final) : HeardOf paths (lap :: rest) final := by
  intro way
  obtain ⟨more, hheard, hmore⟩ := h way
  rw [carry_heard, carry_heard] at hheard
  cases way with
  | up =>
    refine ⟨payload lap.downstream ++ more, by simpa using hheard, ?_⟩
    exact (List.prefix_append_right_inj _).mpr hmore
  | down =>
    refine ⟨payload lap.upstream ++ more, by simpa using hheard, ?_⟩
    exact (List.prefix_append_right_inj _).mpr hmore

/-- A round that ends after its first read. -/
theorem heardOf_up (paths : Way → Path) (lap : Lap) (rest : List Lap) (sent : List Message) :
    HeardOf paths (lap :: rest) (carry paths .up (payload lap.downstream) sent) := by
  intro way
  refine ⟨if way = .up then payload lap.downstream else [], carry_heard _ _ _ _ _, ?_⟩
  cases way with
  | up => exact List.prefix_append _ _
  | down => exact List.nil_prefix

theorem heardOf_refl (paths : Way → Path) (rounds : List Lap) : HeardOf paths rounds paths :=
  fun _ => ⟨[], (List.append_nil _).symm, List.nil_prefix⟩

variable (host : ProviderHost B) (schema : ProtocolSchema) (route : ApprovalRoute)
  (parse : String → ParsedText)

/-- What a run of the loop leaves on the paths: an error of the source may have kept
one message back. -/
def Left (before : Way → Path) (rounds : List Lap) (e : Halt) (paths : Way → Path) : Prop :=
  HeardOf before rounds paths ∧ (e = .unfinished → AllSent paths) ∧ LastOwed paths

theorem lastOwed_of_allSent {paths : Way → Path} (h : AllSent paths) : LastOwed paths :=
  ⟨.up, [], Nat.zero_le 1, by rw [List.append_nil]; exact (h .up).symm, fun other _ => h other⟩

theorem left_of_allSent {before paths : Way → Path} {rounds : List Lap} (e : Halt)
    (hheard : HeardOf before rounds paths) (h : AllSent paths) : Left before rounds e paths :=
  ⟨hheard, fun _ => h, lastOwed_of_allSent h⟩

/-- A section of the shared state may fail; the paths stay. -/
theorem triple_section {paths : Way → Path} {α : Type} (x : Work B α) :
    Triple (fun s : Proxied B => s.paths = paths) (shared x) (fun _ s => s.paths = paths)
      fun _ s => s.paths = paths where
  returns s a s' hs h := by
    obtain ⟨-, rfl⟩ := Prod.mk.inj h
    exact hs
  fails s e s' hs h := by
    obtain ⟨-, rfl⟩ := Prod.mk.inj h
    exact hs

theorem mirror_ok (text : String) (s : Interleaved (Worker B) (Foreign B)) :
    ∃ a, (mirror host schema route parse text s).1 = .ok a := ⟨(), rfl⟩

theorem triple_laps (fuel : Nat) (rounds : List Lap) (paths : Way → Path) (h : AllSent paths) :
    Triple (fun s => s.paths = paths) (laps host schema route parse fuel rounds)
      (fun _ s => HeardOf paths rounds s.paths ∧ AllSent s.paths)
      fun e s => Left paths rounds e s.paths := by
  induction rounds generalizing paths with
  | nil =>
    apply Triple.fail
    rintro s rfl
    exact left_of_allSent _ (heardOf_refl _ _) h
  | cons lap rest ih =>
    have hdone : ∀ found : Way → Path, HeardOf paths (lap :: rest) found → AllSent found →
        Triple (fun s : Proxied B => s.paths = found) (pure () : Proxying B Unit)
          (fun _ s => HeardOf paths (lap :: rest) s.paths ∧ AllSent s.paths)
          fun e s => Left paths (lap :: rest) e s.paths := by
      intro found hheard hsent
      apply Triple.pure
      rintro s rfl
      exact ⟨hheard, hsent⟩
    unfold laps
    apply Triple.ite
    · exact fun _ => hdone paths (heardOf_refl _ _) h
    intro _
    apply Triple.bind (Q := fun _ s => s.paths = paths)
    · apply (triple_section _).weaken (fun _ hs => hs) (fun _ _ hs => hs)
      rintro e s rfl
      exact left_of_allSent _ (heardOf_refl _ _) h
    intro _
    have hup := allSent_carry h .up (payload lap.downstream)
    apply Triple.bind
    · apply (triple_forward (fun _ _ => ⟨(), rfl⟩) _ _).weaken (fun _ hs => hs) (fun _ _ hs => hs)
      rintro e s ⟨he, hs⟩
      rw [hs]
      exact ⟨heardOf_up _ _ _ _, fun hunfinished => absurd hunfinished he,
        lastOwed_carry h .up (payload_length _)⟩
    intro ended
    apply Triple.ite
    · exact fun _ => hdone _ (heardOf_up _ _ _ _) hup
    intro _
    have hdown := allSent_carry hup .down (payload lap.upstream)
    apply Triple.bind
    · apply (triple_forward (mirror_ok host schema route parse) _ _).weaken (fun _ hs => hs)
        (fun _ _ hs => hs)
      rintro e s ⟨he, hs⟩
      rw [hs]
      exact ⟨heardOf_cons (heardOf_refl _ _), fun hunfinished => absurd hunfinished he,
        lastOwed_carry hup .down (payload_length _)⟩
    intro ended
    apply Triple.ite
    · exact fun _ => hdone _ (heardOf_cons (heardOf_refl _ _)) hdown
    intro _
    apply (ih _ hdown).weaken (fun _ hs => hs)
    · exact fun _ s hs => ⟨heardOf_cons hs.1, hs.2⟩
    · exact fun e s hs => ⟨heardOf_cons hs.1, hs.2⟩

/-- The worker as if only the interactions of the route were pending. -/
def ofRoute (w : Worker B) : Worker B :=
  { w with approvals := { w.approvals with
      pending := w.approvals.pending.filter fun _ p => p.route == route } }

theorem ofRoute_pending (w : Worker B) (id : InteractionId) :
    ((ofRoute route w).approvals.pending[id]?).isSome =
      w.approvals.holds (fun p => p.route == route) id := by
  unfold ofRoute ApprovalRuntimeState.holds
  rw [ExtTreeMap.getElem?_filter']
  cases w.approvals.pending[id]? with
  | none => rfl
  | some p => cases hp : p.route == route <;> simp [Option.filter, hp]

/-- Until the section that closes the route: what was pending for it still is, or
another thread has taken it. -/
structure Parting (before w : Worker B) : Prop where
  indexed : ApprovalRuntimeState.Indexed w.approvals
  grows : before.log <+: w.log
  pending : ∀ id : InteractionId, before.approvals.holds (fun p => p.route == route) id = true →
    w.approvals.holds (fun p => p.route == route) id = true ∨ Accounted before.log id w.log

/-- No operation of another thread hands an interaction of the route to another one. -/
theorem holds_apply {s : ApprovalRuntimeState} (hs : ApprovalRuntimeState.Indexed s)
    (op : ApprovalOp) {id : InteractionId} (h : s.holds (fun p => p.route == route) id = true)
    (hafter : (op.apply s).pending[id]?.isSome) :
    (op.apply s).holds (fun p => p.route == route) id = true := by
  unfold ApprovalRuntimeState.holds at h ⊢
  have heffect := ApprovalOp.apply_effect hs op
  generalize op.apply s = s' at heffect hafter ⊢
  cases heffect with
  | refused => exact h
  | removed _ hr =>
    rw [hr.pending] at hafter ⊢
    split at hafter
    · cases hafter
    · next hstays => rwa [if_neg hstays]
  | added other requestId method prepared hkey hid =>
    simp only [OrderedMap.getElem?_insert]
    split
    · next he =>
      rw [← he, hid] at h
      cases h
    · exact h
  | claimed response p result hp =>
    simp only [OrderedMap.getElem?_insert]
    split
    · next he =>
      rw [← he, hp] at h
      exact h
    · exact h
  | popped other =>
    rw [ApprovalRuntimeState.popOutboundFor_pending]
    exact h
  | marked found p response status hp =>
    simp only [OrderedMap.getElem?_insert]
    split
    · next he =>
      rw [← he, hp] at h
      exact h
    · exact h

variable {route}

theorem Parting.foreign {before w : Worker B} (h : Parting route before w) (step : Foreign B) :
    Parting route before (w.foreign host route step) := by
  have hkept : ∀ w' : Worker B, w'.approvals = w.approvals → (∃ more, w'.log = w.log ++ more) →
      Parting route before w' := by
    rintro w' happrovals ⟨more, hmore⟩
    constructor
    · rw [happrovals]
      exact h.indexed
    · rw [hmore]
      exact h.grows.trans (List.prefix_append _ _)
    · intro id hid
      rw [happrovals, hmore]
      exact (h.pending id hid).imp_right fun haccounted => haccounted.append more
  have hlog := Worker.foreign_log host route step w
  cases step with
  | accept command =>
    apply hkept _ _ hlog
    show (w.accept command).approvals = _
    unfold Worker.accept
    split <;> rfl
  | claimLocal response => exact hkept _ rfl hlog
  | mapping op => exact hkept _ rfl hlog
  | host f => exact hkept _ rfl hlog
  | approval op =>
    show Parting route before (w.approval route op)
    unfold Worker.approval
    split
    · constructor
      · exact ApprovalOp.apply_indexed h.indexed op
      · exact h.grows.trans (List.prefix_append _ _)
      · intro id hid
        rcases h.pending id hid with hpending | haccounted
        · cases hafter : (op.apply w.approvals).pending[id]?.isSome with
          | true => exact .inl (holds_apply route h.indexed op hpending hafter)
          | false =>
            have hbefore : w.approvals.pending[id]?.isSome := by
              unfold ApprovalRuntimeState.holds at hpending
              cases hp : w.approvals.pending[id]? with
              | none => simp [hp] at hpending
              | some p => rfl
            have hremoved := Worker.mem_removedBetween.mpr ⟨hbefore, hafter⟩
            exact .inr (accounted_last h.grows (.inr ⟨_, rfl, hremoved⟩))
        · exact .inr (haccounted.append _)
    · exact h

variable (route)

theorem cleared_closeRoute {s : ApprovalRuntimeState} (hs : ApprovalRuntimeState.Indexed s) :
    ApprovalRuntimeState.Cleared route (s.closeRoute route).2 := by
  have hr := ApprovalRuntimeState.closeMatching_removes hs fun p => p.route == route
  constructor
  · exact hr.indexed hs
  · intro id p hp hroute
    obtain ⟨hbefore, hstays⟩ := hr.kept hp
    simp [ApprovalRuntimeState.holds, hbefore, hroute] at hstays

/-- The section closes what is pending for the route, and the closes are attempted. -/
theorem triple_closeRoute (before : Worker B) :
    Triple (Holds (Parting route before)) (closeRoute host route)
      (fun _ => Holds (Worker.Closing route (ofRoute route before) [])) fun _ => Holds fun _ => False := by
  have hclose : Triple (Parting route before)
      (Work.part Worker.approvals (fun w approvals => { w with approvals := approvals })
        fun approvals => (.ok (approvals.closeRoute route).1, (approvals.closeRoute route).2))
      (fun closed => Worker.Closing route (ofRoute route before) closed)
      fun (_ : Halt) _ => False := by
    constructor
    · intro w closed w' hw hrun
      obtain ⟨hclosed, rfl⟩ := Prod.mk.inj hrun
      cases hclosed
      constructor
      · exact cleared_closeRoute route hw.indexed
      · exact hw.grows
      · intro id hid
        rw [ofRoute_pending] at hid
        exact (hw.pending id hid).imp_left ApprovalRuntimeState.mem_closed.mpr
    · intro w halt w' hw hrun
      cases hrun
  apply Triple.bind
    (Interleaved.triple_atomically (fun step w hw => Parting.foreign host hw step) hclose)
  exact fun closed => Work.triple_publishAllClosed host route (ofRoute route before) closed

section Keep

variable {I : Worker B → Prop}

/-- What holds of the shared state of a connection. -/
def Keeping (I : Worker B → Prop) (s : Proxied B) : Prop := I s.shared.state

theorem keeps_shared {α : Type} {x : Work B α} (hx : Preserves (Holds I) x) :
    Preserves (Keeping I) (shared x) :=
  Preserves.zoom hx (fun _ hs => hs) fun _ _ _ ht => ht

theorem keeps_onPath (way : Way) (f : Path → Path) :
    Preserves (Keeping I) (onPath way f : Proxying B Unit) :=
  Preserves.modify fun _ hs => hs

theorem keeps_send (way : Way) (message : Message) (result : Except String Unit) :
    Preserves (Keeping I) (send way message result : Proxying B Unit) :=
  Preserves.bind (Preserves.ofExcept _) fun _ => keeps_onPath way _

theorem keeps_forward (way : Way) {mirror : String → Work B Unit}
    (hmirror : ∀ text, Preserves (Holds I) (mirror text)) (result : Except String Unit)
    (read : SocketRead) : Preserves (Keeping I) (forward way mirror result read) := by
  cases read with
  | timeout => exact Preserves.pure _
  | closed => exact Preserves.pure _
  | failed message => exact Preserves.fail _
  | message message =>
    cases message with
    | text text =>
      apply Preserves.bind (keeps_onPath way _)
      intro _
      apply Preserves.bind (keeps_shared (hmirror text))
      intro _
      exact Preserves.bind (keeps_send way _ _) fun _ => Preserves.pure _
    | binary bytes =>
      apply Preserves.bind (keeps_onPath way _)
      intro _
      exact Preserves.bind (keeps_send way _ _) fun _ => Preserves.pure _
    | ping => exact Preserves.bind (Preserves.ofExcept _) fun _ => Preserves.pure _
    | pong => exact Preserves.bind (Preserves.ofExcept _) fun _ => Preserves.pure _
    | close => exact Preserves.pure _
    | frame => exact Preserves.pure _

variable {host schema route}

theorem keeps_mirror (h : Work.Quiet host schema route I) (hr : Work.KeepsRegistry host route I)
    (text : String) : Preserves (Holds I) (mirror host schema route parse text) := by
  have hobserve : Preserves (Holds I)
      (Work.observeProxyServerText host schema route (parse text)) := by
    apply Preserves.bind (Preserves.ofExcept _)
    intro frame
    cases frame with
    | notification method params => exact Work.keeps_processNotification h hr method params
    | request id method params =>
      apply Preserves.when
      exact fun _ => Work.keeps_processApprovalRequest h hr false id method params
    | passThrough => exact Preserves.pure _
  exact Preserves.bind (Preserves.attempt hobserve) fun _ => Preserves.pure _

theorem keeps_laps (h : Work.Quiet host schema route I) (hr : Work.KeepsRegistry host route I)
    (fuel : Nat) (rounds : List Lap) :
    Preserves (Keeping I) (laps host schema route parse fuel rounds) := by
  induction rounds with
  | nil => exact Preserves.fail _
  | cons lap rest ih =>
    apply Preserves.ite (fun _ => Preserves.pure _)
    intro _
    apply Preserves.bind (keeps_shared (Work.keeps_flushApprovalResponses h hr fuel))
    intro _
    apply Preserves.bind (keeps_forward .up (fun _ => Preserves.pure _) _ _)
    intro ended
    apply Preserves.ite (fun _ => Preserves.pure _)
    intro _
    apply Preserves.bind (keeps_forward .down (keeps_mirror parse h hr) _ _)
    intro ended
    exact Preserves.ite (fun _ => Preserves.pure _) fun _ => ih

theorem keeps_proxyConnectionLoop (h : Work.Quiet host schema route I)
    (hr : Work.KeepsRegistry host route I) (fuel : Nat) (entered : Sourced Bool)
    (rounds : List Lap) :
    Preserves (Keeping I) (proxyConnectionLoop host schema route parse fuel entered rounds) := by
  apply Preserves.bind (Preserves.ofExcept _)
  intro entered
  exact Preserves.ite (fun _ => keeps_laps parse h hr fuel rounds) fun _ => Preserves.pure _

end Keep

/-- Every section of the loop keeps the index of the registry consistent. -/
theorem proxyConnectionLoop_indexed (fuel : Nat) (entered : Sourced Bool) (rounds : List Lap)
    {s : Proxied B} (hs : ApprovalRuntimeState.Indexed s.shared.state.approvals) :
    ApprovalRuntimeState.Indexed
      (proxyConnectionLoop host schema route parse fuel entered rounds s).2.shared.state.approvals := by
  have hneutral : Neutral host route fun w : Worker B =>
      ApprovalRuntimeState.Indexed w.approvals :=
    Work.neutral_registry fun s op _ hs => ApprovalOp.apply_indexed hs op
  have hregistry := Work.keepsRegistry_registry hneutral fun s op hs =>
    ApprovalOp.apply_indexed hs op
  exact (keeps_proxyConnectionLoop parse (Work.quiet_of_neutral hneutral) hregistry fuel entered
    rounds).holds s hs

/-- No connection yet. -/
def fresh : Way → Path := fun _ => ⟨[], []⟩

theorem triple_proxyConnectionLoop (fuel : Nat) (entered : Sourced Bool) (rounds : List Lap)
    (paths : Way → Path) (h : AllSent paths) :
    Triple (fun s => s.paths = paths)
      (proxyConnectionLoop host schema route parse fuel entered rounds)
      (fun _ s => HeardOf paths rounds s.paths ∧ AllSent s.paths)
      fun e s => Left paths rounds e s.paths := by
  apply Triple.bind (Q := fun _ s => s.paths = paths)
  · apply Triple.ofExcept (fun _ _ _ hs => hs)
    rintro e s - rfl
    exact left_of_allSent _ (heardOf_refl _ _) h
  intro entered
  apply Triple.ite (fun _ => triple_laps host schema route parse fuel rounds paths h)
  intro _
  apply Triple.pure
  rintro s rfl
  exact ⟨heardOf_refl _ _, h⟩

theorem proxyConnectionLoop_left (fuel : Nat) (entered : Sourced Bool) (rounds : List Lap)
    {s : Proxied B} (h : AllSent s.paths) :
    let loop := proxyConnectionLoop host schema route parse fuel entered rounds s
    HeardOf s.paths rounds loop.2.paths ∧ LastOwed loop.2.paths ∧
      ((∀ error, loop.1 ≠ .error (.source error)) → AllSent loop.2.paths) := by
  have htriple := triple_proxyConnectionLoop host schema route parse fuel entered rounds s.paths h
  rcases hrun : proxyConnectionLoop host schema route parse fuel entered rounds s with ⟨result, t⟩
  cases result with
  | ok _ =>
    obtain ⟨hheard, hsent⟩ := htriple.returns s _ t rfl hrun
    exact ⟨hheard, lastOwed_of_allSent hsent, fun _ => hsent⟩
  | error halt =>
    obtain ⟨hheard, hsent, howed⟩ := htriple.fails s _ t rfl hrun
    refine ⟨hheard, howed, fun hother => hsent ?_⟩
    cases halt with
    | unfinished => rfl
    | source error => exact absurd rfl (hother error)

/-- A prefix of what was offered, also when the last message is owed. -/
theorem sent_first {rounds : List Lap} {paths : Way → Path} (hheard : HeardOf fresh rounds paths)
    (howed : LastOwed paths) (way : Way) : (paths way).sent <+: offered way rounds := by
  obtain ⟨more, hmore, hprefix⟩ := hheard way
  obtain ⟨late, owed, -, hlate, hothers⟩ := howed
  have hsent : (paths way).sent <+: (paths way).heard := by
    by_cases hway : way = late
    · subst hway
      rw [hlate]
      exact List.prefix_append _ _
    · rw [hothers way hway]
  have hall : (paths way).heard <+: offered way rounds := by
    rw [hmore]
    simpa [fresh] using hprefix
  exact hsent.trans hall

/-- Once the loop is over the interactions of the route are closed. -/
theorem runProxyConnection_closes (fuel : Nat) (entered : Sourced Bool) (rounds : List Lap)
    {s t : Proxied B} {result : Except Halt Unit}
    (hs : ApprovalRuntimeState.Indexed s.shared.state.approvals)
    (hloop : proxyConnectionLoop host schema route parse fuel entered rounds s = (result, t))
    (hover : result ≠ .error .unfinished) :
    ∃ u, runProxyConnection host schema route parse fuel entered rounds s = (.ok (), u) ∧
      u.paths = t.paths ∧
      Worker.Closing route (ofRoute route t.shared.state) [] u.shared.state := by
  have hindexed : ApprovalRuntimeState.Indexed t.shared.state.approvals := by
    have hkept := proxyConnectionLoop_indexed host schema route parse fuel entered rounds hs
    rwa [hloop] at hkept
  have hparting : Holds (Parting route t.shared.state) t.shared :=
    ⟨hindexed, List.prefix_refl _, fun _ hid => .inl hid⟩
  have hrun : runProxyConnection host schema route parse fuel entered rounds s =
      shared (closeRoute host route) t := by
    unfold runProxyConnection
    rw [Program.bind_of_ok (show Program.attempt _ s = (.ok result, t) by
      unfold Program.attempt
      rw [hloop])]
    cases result with
    | ok _ => rfl
    | error halt =>
      cases halt with
      | unfinished => exact absurd rfl hover
      | source error => rfl
  rcases hclose : closeRoute host route t.shared with ⟨closed, u⟩
  have hshared : shared (closeRoute host route) t = (closed, { t with shared := u }) := by
    show ((closeRoute host route t.shared).1, { t with shared := (closeRoute host route t.shared).2 }) = _
    rw [hclose]
  have htriple := triple_closeRoute host route t.shared.state
  cases closed with
  | error halt => exact absurd (htriple.fails _ _ _ hparting hclose) not_false
  | ok _ =>
    refine ⟨{ t with shared := u }, by rw [hrun, hshared], rfl, ?_⟩
    exact htriple.returns _ _ _ hparting hclose

/-- However the rounds go and whatever the other threads do: each side is sent what
the other wrote, unchanged and in order, even where mirroring fails; at most the
last message of one side is missing, and then the connection ended in an error.
When it is over, nothing is pending for its route and each interaction that was
has been closed or was taken by another thread. -/
theorem runProxyConnection_transparent (w : Worker B)
    (hreached : ApprovalRuntimeState.Reached w.approvals) (schedule : List (List (Foreign B)))
    (fuel : Nat) (entered : Sourced Bool) (rounds : List Lap) :
    let loop := proxyConnectionLoop host schema route parse fuel entered rounds
      ⟨⟨w, schedule⟩, fresh⟩
    let connection := runProxyConnection host schema route parse fuel entered rounds
      ⟨⟨w, schedule⟩, fresh⟩
    (∀ way, (loop.2.paths way).sent <+: offered way rounds) ∧ LastOwed loop.2.paths ∧
    ((∀ error, loop.1 ≠ .error (.source error)) → AllSent loop.2.paths) ∧
    (loop.1 ≠ .error .unfinished →
      connection.1 = .ok () ∧ connection.2.paths = loop.2.paths ∧
      (∀ (id : InteractionId) (p : PendingApproval),
        connection.2.shared.state.approvals.pending[id]? = some p → p.route ≠ route) ∧
      ∀ (id : InteractionId) (p : PendingApproval),
        loop.2.shared.state.approvals.pending[id]? = some p → p.route = route →
        Accounted loop.2.shared.state.log id connection.2.shared.state.log) := by
  intro loop connection
  obtain ⟨hheard, howed, hall⟩ := proxyConnectionLoop_left host schema route parse fuel entered
    rounds (s := ⟨⟨w, schedule⟩, fresh⟩) fun _ => rfl
  refine ⟨sent_first hheard howed, howed, hall, ?_⟩
  intro hover
  have hloop : proxyConnectionLoop host schema route parse fuel entered rounds
      ⟨⟨w, schedule⟩, fresh⟩ = (loop.1, loop.2) := rfl
  obtain ⟨u, hrun, hpaths, hclosing⟩ := runProxyConnection_closes host schema route parse fuel
    entered rounds (hreached.sound route).indexed hloop hover
  have hconnection : connection = (.ok (), u) := hrun
  rw [hconnection]
  refine ⟨rfl, hpaths, hclosing.cleared.pending, ?_⟩
  intro id p hp hroute
  have hheld : loop.2.shared.state.approvals.holds (fun p => p.route == route) id = true := by
    simp [ApprovalRuntimeState.holds, hp, hroute]
  rcases hclosing.pending id (by rw [ofRoute_pending]; exact hheld) with hmem | haccounted
  · cases hmem
  · exact haccounted

/-- A client that asks once, is asked a question in turn, and is stopped. -/
def sampleLaps : List Lap :=
  [⟨false, .message (.text "ask"), .ok (), .message (.text "question"), .ok ()⟩,
    ⟨true, .timeout, .ok (), .timeout, .ok ()⟩]

def sampleLoop : Except Halt Unit × Proxied Nat :=
  proxyConnectionLoop Sample.host Sample.schema (.proxy 1) (fun _ => .ok Sample.inputRequest) 3
    (.ok true) sampleLaps ⟨⟨Sample.observing [], []⟩, fresh⟩

def sampleConnection : Except Halt Unit × Proxied Nat :=
  runProxyConnection Sample.host Sample.schema (.proxy 1) (fun _ => .ok Sample.inputRequest) 3
    (.ok true) sampleLaps ⟨⟨Sample.observing [], []⟩, fresh⟩

/-- The question is pending when the loop ends, and no more when the connection is over. -/
theorem runProxyConnection_question :
    sampleLoop.1 = .ok () ∧ (sampleLoop.2.paths .up).sent = [.text "ask"] ∧
    (sampleLoop.2.paths .down).sent = [.text "question"] ∧
    (sampleLoop.2.shared.state.approvals.pending[Sample.asked]?.map PendingApproval.route) =
      some (.proxy 1) ∧
    ∀ (id : InteractionId) (p : PendingApproval),
      sampleConnection.2.shared.state.approvals.pending[id]? = some p → p.route ≠ .proxy 1 := by
  have hok : sampleLoop.1 = .ok () := by decide +kernel
  refine ⟨hok, by decide +kernel, by decide +kernel, by decide +kernel, ?_⟩
  have hover : sampleLoop.1 ≠ .error .unfinished := by
    rw [hok]
    simp
  have htransparent := runProxyConnection_transparent Sample.host Sample.schema (.proxy 1)
    (fun _ => .ok Sample.inputRequest) (Sample.observing []) (Work.sample_reached []) [] 3 (.ok true)
    sampleLaps
  unfold sampleLoop at hover
  unfold sampleConnection
  exact (htransparent.2.2.2 hover).2.2.1

end Proxying

end Codex

end AgentPulse
