import AgentPulse.CodexExit
import AgentPulse.Trace

/-!
# Requests and their answers

The engine of the connection and the worker each keep a map of the requests
without an answer. `Exchange` is both maps under the two operations that change
them: a request that is sent, and a text that is read. A history of these
operations says which requests are unanswered, and both maps follow it. The
rest of the worker does not touch them.
-/
namespace AgentPulse

namespace Codex

open Std (ExtTreeMap)
open Program (Preserves Triple)
open Interleaved (Holds)
open History (Throughout throughout_nil throughout_snoc)

/-- The two maps of unanswered requests. -/
structure Exchange where
  protocol : ProtocolEngine
  pending : ExtTreeMap RequestId PendingControl

/-- A request through `send_control_request` with the outcome of its write, or a text
from the socket. -/
inductive ExchangeOp where
  | send (expected : ExpectedResponse) (params : Value) (kind : PendingControl)
      (write : Except String Unit)
  | frame (text : ParsedText)

/-- What an operation comes to. A refused text ends the worker, an unmatched answer
has a request of the engine and none of the worker. -/
inductive Exchanged where
  | sent (id : RequestId) (expected : ExpectedResponse) (kind : PendingControl)
  | unsent
  | settled (id : RequestId) (expected : ExpectedResponse) (kind : PendingControl)
  | unmatched (id : RequestId)
  | other
  | refused

namespace Exchange

def send (schema : ProtocolSchema) (self : Exchange) (expected : ExpectedResponse) (params : Value)
    (kind : PendingControl) (write : Except String Unit) : Exchange × Exchanged :=
  match self.protocol.request schema expected params with
  | (.error _, protocol) => ({ self with protocol := protocol }, .unsent)
  | (.ok (id, _), protocol) =>
    match write with
    | .error _ => ({ self with protocol := protocol.cancelPending id }, .unsent)
    | .ok () => (⟨protocol, self.pending.insert id kind⟩, .sent id expected kind)

/-- The first section of an answer: its request leaves the map of the worker. -/
def settle (self : Exchange) (id : RequestId) (expected : ExpectedResponse) :
    Exchange × Exchanged :=
  match self.pending[id]? with
  | some kind => ({ self with pending := self.pending.erase id }, .settled id expected kind)
  | none => (self, .unmatched id)

def frame (schema : ProtocolSchema) (self : Exchange) (text : ParsedText) : Exchange × Exchanged :=
  match ProtocolEngine.parseServerText schema text self.protocol with
  | (.error _, protocol) => ({ self with protocol := protocol }, .refused)
  | (.ok (.response id expected _), protocol) =>
    ({ self with protocol := protocol } : Exchange).settle id expected
  | (.ok (.error id expected _ _), protocol) =>
    ({ self with protocol := protocol } : Exchange).settle id expected
  | (.ok _, protocol) => ({ self with protocol := protocol }, .other)

def step (schema : ProtocolSchema) (self : Exchange) : ExchangeOp → Exchange × Exchanged
  | .send expected params kind write => self.send schema expected params kind write
  | .frame text => self.frame schema text

end Exchange

/-- The request that a text answers, if it is an answer at all. -/
def replyTo (text : ParsedText) : Option RequestId :=
  match text with
  | .error _ => none
  | .ok value =>
    if value.isObject ∧ (value.get "method").isNone ∧ (value.get "id").isSome ∧
        (value.get "result").isSome ≠ (value.get "error").isSome then
      (RequestId.fromValue (value.index "id")).toOption
    else none

namespace ProtocolEngine

/-- The effect of a successful reading: an answer takes its request off the map. -/
def Reads (before : ProtocolEngine) (frame : ServerFrame) (after : ProtocolEngine) : Prop :=
  match frame with
  | .notification _ _ | .request _ _ _ => after = before
  | .response id expected _ | .error id expected _ _ =>
    before.pending[id]? = some expected ∧ after = before.cancelPending id

theorem responseFrame_ok {schema : ProtocolSchema} {id : RequestId} {expected : ExpectedResponse}
    {value : Value} {frame : ServerFrame} (h : responseFrame schema id expected value = .ok frame) :
    ∃ result, frame = .response id expected result := by
  unfold responseFrame at h
  cases hvalid : validate schema.jsonrpcResponse value "server response" with
  | error error =>
    rw [hvalid] at h
    cases h
  | ok _ =>
    rw [hvalid] at h
    cases hresult : value.get "result" with
    | none =>
      rw [hresult] at h
      cases h
    | some result =>
      cases hshape : validate (schema.response expected) result expected.method with
      | error error => simp [hresult, hshape, bind, Except.bind] at h
      | ok _ =>
        simp [hresult, hshape, bind, Except.bind] at h
        exact ⟨result, h.symm⟩

theorem errorFrame_ok {schema : ProtocolSchema} {id : RequestId} {expected : ExpectedResponse}
    {value : Value} {frame : ServerFrame} (h : errorFrame schema id expected value = .ok frame) :
    ∃ code message, frame = .error id expected code message := by
  unfold errorFrame at h
  cases hvalid : validate schema.jsonrpcError value "server error response" with
  | error error =>
    rw [hvalid] at h
    cases h
  | ok _ =>
    simp only [hvalid, bind, Except.bind] at h
    split at h
    · cases h
    · split at h
      · cases h
      · split at h
        · cases h
        · cases h
          exact ⟨_, _, rfl⟩

theorem triple_parseServerText (schema : ProtocolSchema) (text : ParsedText)
    (engine : ProtocolEngine) :
    Triple (fun e => e = engine) (parseServerText schema text) (fun frame e => Reads engine frame e)
      fun _ _ => True := by
  refine Triple.ofExcept_bind ?_ fun _ _ _ => trivial
  intro value _
  apply Triple.ite (fun _ => Triple.fail fun _ _ => trivial)
  intro _
  apply Triple.ite
  · intro _
    refine Triple.ofExcept_bind ?_ fun _ _ _ => trivial
    rintro ⟨method, params⟩ _
    apply Triple.ite
    · intro _
      refine Triple.ofExcept_bind ?_ fun _ _ _ => trivial
      intro _ _
      refine Triple.ofExcept_bind ?_ fun _ _ _ => trivial
      exact fun id _ => Triple.pure fun e he => he
    · intro _
      refine Triple.ofExcept_bind ?_ fun _ _ _ => trivial
      exact fun _ _ => Triple.pure fun e he => he
  · intro _
    refine Triple.ite ?_ fun _ => Triple.fail fun _ _ => trivial
    intro _
    refine Triple.ofExcept_bind ?_ fun _ _ _ => trivial
    intro id _
    apply Triple.bind (Q := fun found e => e = engine ∧ found = engine.pending[id]?)
      (Triple.reads fun e he => ⟨he, by rw [he]⟩)
    intro found
    cases found with
    | none => exact Triple.fail fun _ _ => trivial
    | some expected =>
      apply Triple.bind (Q := fun _ e => e = engine.cancelPending id ∧ engine.pending[id]? = some expected)
        (Triple.modify fun e he => ⟨by rw [he.1], he.2.symm⟩)
      intro _
      apply Triple.ite
      · intro _
        refine Triple.ofExcept ?_ fun _ _ _ _ => trivial
        intro frame e hframe he
        obtain ⟨result, rfl⟩ := responseFrame_ok hframe
        exact ⟨he.2, he.1⟩
      · intro _
        refine Triple.ofExcept ?_ fun _ _ _ _ => trivial
        intro frame e hframe he
        obtain ⟨code, message, rfl⟩ := errorFrame_ok hframe
        exact ⟨he.2, he.1⟩

/-- An answer without a pending request is refused. -/
theorem parseServerText_unknown (schema : ProtocolSchema) {text : ParsedText} {id : RequestId}
    (htext : replyTo text = some id) {engine : ProtocolEngine} (hid : engine.pending[id]? = none) :
    ∃ error, (parseServerText schema text engine).1 = .error error := by
  cases text with
  | error place => cases htext
  | ok value =>
    unfold replyTo at htext
    dsimp only at htext
    split at htext
    · next hshape =>
      obtain ⟨hobject, hmethod, hhas, hone⟩ := hshape
      cases hfrom : RequestId.fromValue (value.index "id") with
      | error error =>
        rw [hfrom] at htext
        cases htext
      | ok found =>
        rw [hfrom] at htext
        cases htext
        refine ⟨.protocol "response ID does not match a pending request", ?_⟩
        have hnot : (value.get "method").isSome = false := by simpa using hmethod
        unfold parseServerText parseServerValue
        simp [Program.bind_apply, parsedValue, Program.ofExcept, hobject, hnot, hhas, hone, hfrom, hid,
          Program.reads, Program.fail]
    · cases htext

end ProtocolEngine

/-- The request is sent and not answered. -/
def Unanswered (past : List Exchanged) (id : RequestId) (expected : ExpectedResponse)
    (kind : PendingControl) : Prop :=
  .sent id expected kind ∈ past ∧ ∀ e k, .settled id e k ∉ past

/-- A request has an identifier of its own, and an answer settles a request that is sent
and not settled before. -/
def Orderly (past : List Exchanged) : Exchanged → Prop
  | .sent id _ _ => ∀ e k, .sent id e k ∉ past
  | .settled id expected kind => Unanswered past id expected kind
  | .unmatched _ => False
  | .unsent | .other | .refused => True

namespace Exchange

/-- Both maps hold the unanswered requests of the history. -/
structure Follows (past : List Exchanged) (x : Exchange) : Prop where
  orderly : Throughout Orderly past
  issued : ∀ id expected kind, .sent id expected kind ∈ past →
    ∃ n, id = .number n ∧ n < x.protocol.nextRequestId
  protocol : ∀ id expected, x.protocol.pending[id]? = some expected ↔
    ∃ kind, Unanswered past id expected kind
  pending : ∀ id kind, x.pending[id]? = some kind ↔ ∃ expected, Unanswered past id expected kind

variable {past : List Exchanged} {x : Exchange} {schema : ProtocolSchema}

theorem follows_nil (hprotocol : x.protocol.pending = ∅) (hpending : x.pending = ∅) :
    Follows [] x where
  orderly := throughout_nil _
  issued id expected kind hmem := by cases hmem
  protocol id expected := by simp [hprotocol, Unanswered]
  pending id kind := by simp [hpending, Unanswered]

/-- Nothing but the history of requests and answers matters. -/
theorem Follows.skip (h : Follows past x) (entry : Exchanged) (horderly : Orderly past entry)
    (hsent : ∀ id e k, entry ≠ .sent id e k) (hsettled : ∀ id e k, entry ≠ .settled id e k)
    {x' : Exchange} (hnext : x.protocol.nextRequestId ≤ x'.protocol.nextRequestId)
    (hprotocol : ∀ id : RequestId, x'.protocol.pending[id]? = x.protocol.pending[id]?)
    (hpending : x'.pending = x.pending) : Follows (past ++ [entry]) x' := by
  have hopen : ∀ id e k, Unanswered (past ++ [entry]) id e k ↔ Unanswered past id e k := by
    intro id e k
    have hs : Exchanged.sent id e k ≠ entry := fun he => hsent id e k he.symm
    have hd : ∀ e k, Exchanged.settled id e k ≠ entry := fun e k he => hsettled id e k he.symm
    simp [Unanswered, hs, hd]
  constructor
  · exact throughout_snoc.mpr ⟨h.orderly, horderly⟩
  · intro id e k hmem
    have hmem : Exchanged.sent id e k ∈ past := by
      rcases List.mem_append.mp hmem with hold | hnew
      · exact hold
      · exact absurd (List.mem_singleton.mp hnew).symm (hsent id e k)
    obtain ⟨n, hid, hn⟩ := h.issued id e k hmem
    exact ⟨n, hid, lt_of_lt_of_le hn hnext⟩
  · intro id e
    rw [hprotocol, h.protocol]
    simp only [hopen]
  · intro id k
    rw [hpending, h.pending]
    simp only [hopen]

/-- The next identifier has not been used. -/
theorem Follows.fresh (h : Follows past x) (e : ExpectedResponse) (k : PendingControl) :
    .sent (.number x.protocol.nextRequestId) e k ∉ past := by
  intro hmem
  obtain ⟨n, hid, hn⟩ := h.issued _ e k hmem
  cases hid
  exact lt_irrefl _ hn

theorem Follows.unused (h : Follows past x) :
    x.protocol.pending[RequestId.number x.protocol.nextRequestId]? = none := by
  cases hfound : x.protocol.pending[RequestId.number x.protocol.nextRequestId]? with
  | none => rfl
  | some expected =>
    obtain ⟨kind, hopen⟩ := (h.protocol _ _).mp hfound
    exact absurd hopen.1 (h.fresh _ _)

/-- A request that is allocated and taken back leaves the map as it was. -/
theorem Follows.cancelled (h : Follows past x) (expected : ExpectedResponse) (id : RequestId) :
    ((x.protocol.pending.insert (.number x.protocol.nextRequestId) expected).erase
      (.number x.protocol.nextRequestId))[id]? = x.protocol.pending[id]? := by
  rw [OrderedMap.getElem?_erase, OrderedMap.getElem?_insert]
  split
  · next heq => rw [← heq, h.unused]
  · rfl

theorem Follows.settled_sent (h : Follows past x) {id : RequestId} {e : ExpectedResponse}
    {k : PendingControl} (hmem : .settled id e k ∈ past) : .sent id e k ∈ past := by
  obtain ⟨before, hbefore, hopen⟩ := h.orderly.of_mem hmem
  exact ((List.prefix_append before _).trans hbefore).subset hopen.1

theorem Follows.sent (h : Follows past x) (expected : ExpectedResponse) (kind : PendingControl) :
    let id := RequestId.number x.protocol.nextRequestId
    Follows (past ++ [.sent id expected kind])
      ⟨⟨x.protocol.pending.insert id expected, x.protocol.nextRequestId + 1⟩,
        x.pending.insert id kind⟩ := by
  intro id
  have hunsettled : ∀ e k, Exchanged.settled id e k ∉ past :=
    fun e k hmem => h.fresh e k (h.settled_sent hmem)
  have hnext : ∀ a e k, Unanswered (past ++ [.sent id expected kind]) a e k ↔
      (id = a ∧ expected = e ∧ kind = k) ∨ (id ≠ a ∧ Unanswered past a e k) := by
    intro a e k
    by_cases ha : id = a
    · subst ha
      have hfresh : Exchanged.sent id e k ∉ past := h.fresh e k
      simp [Unanswered, hfresh, hunsettled, eq_comm]
    · simp [Unanswered, ha, Ne.symm ha]
  constructor
  · exact throughout_snoc.mpr ⟨h.orderly, h.fresh⟩
  · intro a e k hmem
    rcases List.mem_append.mp hmem with hold | hnew
    · obtain ⟨n, ha, hn⟩ := h.issued a e k hold
      exact ⟨n, ha, hn.trans (Int.lt_succ _)⟩
    · cases List.mem_singleton.mp hnew
      exact ⟨_, rfl, Int.lt_succ _⟩
  · intro a e
    show (x.protocol.pending.insert id expected)[a]? = some e ↔ _
    rw [OrderedMap.getElem?_insert]
    simp only [hnext]
    split
    · next heq => simp [heq]
    · next hne => simp [hne, h.protocol]
  · intro a k
    show (x.pending.insert id kind)[a]? = some k ↔ _
    rw [OrderedMap.getElem?_insert]
    simp only [hnext]
    split
    · next heq => simp [heq]
    · next hne => simp [hne, h.pending]

theorem Follows.send (h : Follows past x) (expected : ExpectedResponse) (params : Value)
    (kind : PendingControl) (write : Except String Unit) :
    Follows (past ++ [(x.send schema expected params kind write).2])
      (x.send schema expected params kind write).1 := by
  have hskip : ∀ {x' : Exchange}, x'.protocol.nextRequestId = x.protocol.nextRequestId + 1 →
      x'.protocol.pending = (x.protocol.pending.insert (.number x.protocol.nextRequestId)
        expected).erase (.number x.protocol.nextRequestId) →
      x'.pending = x.pending → Follows (past ++ [.unsent]) x' := by
    intro x' hnext hprotocol hpending
    apply h.skip .unsent trivial (by simp) (by simp) _ _ hpending
    · omega
    · intro id
      rw [hprotocol]
      exact h.cancelled expected id
  unfold Exchange.send ProtocolEngine.request ProtocolEngine.allocate
  dsimp only
  cases validate schema.clientRequest
    (ProtocolEngine.requestValue (.number x.protocol.nextRequestId) expected params)
    "client request" with
  | error error => exact hskip rfl rfl rfl
  | ok _ =>
    cases write with
    | error message => exact hskip rfl rfl rfl
    | ok _ => exact h.sent expected kind

theorem Follows.settle (h : Follows past x) {id : RequestId} {expected : ExpectedResponse}
    (hid : x.protocol.pending[id]? = some expected) :
    let read : Exchange := { x with protocol := x.protocol.cancelPending id }
    Follows (past ++ [(read.settle id expected).2]) (read.settle id expected).1 := by
  intro read
  obtain ⟨kind, hopen⟩ := (h.protocol id expected).mp hid
  have hkind : x.pending[id]? = some kind := (h.pending id kind).mpr ⟨expected, hopen⟩
  have hsettle : read.settle id expected =
      ({ read with pending := read.pending.erase id }, .settled id expected kind) := by
    show (match x.pending[id]? with | some kind => _ | none => _) = _
    rw [hkind]
  have hnext : ∀ a e k, Unanswered (past ++ [.settled id expected kind]) a e k ↔
      id ≠ a ∧ Unanswered past a e k := by
    intro a e k
    unfold Unanswered
    constructor
    · rintro ⟨hsent, hunsettled⟩
      have hne : id ≠ a := by
        rintro rfl
        exact hunsettled expected kind (by simp)
      refine ⟨hne, by simpa using hsent, fun e k hmem => hunsettled e k (by simp [hmem])⟩
    · rintro ⟨hne, hsent, hunsettled⟩
      refine ⟨by simp [hsent], fun e k hmem => ?_⟩
      rcases List.mem_append.mp hmem with hold | hnew
      · exact hunsettled e k hold
      · cases List.mem_singleton.mp hnew
        exact hne rfl
  rw [hsettle]
  constructor
  · exact throughout_snoc.mpr ⟨h.orderly, hopen⟩
  · intro a e k hmem
    exact h.issued a e k (by simpa using hmem)
  · intro a e
    show (x.protocol.pending.erase id)[a]? = some e ↔ _
    rw [OrderedMap.getElem?_erase]
    simp only [hnext]
    split
    · next heq => simp [heq]
    · next hne => simp [hne, h.protocol]
  · intro a k
    show (x.pending.erase id)[a]? = some k ↔ _
    rw [OrderedMap.getElem?_erase]
    simp only [hnext]
    split
    · next heq => simp [heq]
    · next hne => simp [hne, h.pending]

theorem Follows.frame (h : Follows past x) (text : ParsedText)
    (hread : (x.frame schema text).2 ≠ .refused) :
    Follows (past ++ [(x.frame schema text).2]) (x.frame schema text).1 := by
  have hspec := (ProtocolEngine.triple_parseServerText schema text x.protocol).returns x.protocol
  unfold Exchange.frame at hread ⊢
  rcases hparse : ProtocolEngine.parseServerText schema text x.protocol with ⟨result, protocol⟩
  rw [hparse] at hread hspec
  cases result with
  | error error => exact absurd rfl hread
  | ok frame =>
    have hreads := hspec frame protocol rfl rfl
    cases frame with
    | notification method params =>
      cases hreads
      exact h.skip .other trivial (by simp) (by simp) le_rfl (fun _ => rfl) rfl
    | request id method params =>
      cases hreads
      exact h.skip .other trivial (by simp) (by simp) le_rfl (fun _ => rfl) rfl
    | response id expected result =>
      obtain ⟨hid, rfl⟩ := hreads
      exact h.settle hid
    | error id expected code message =>
      obtain ⟨hid, rfl⟩ := hreads
      exact h.settle hid

theorem follows_run (ops : List ExchangeOp) (h : Follows past x)
    (hread : ∀ e ∈ Trace.outputs (step schema) x ops, e ≠ .refused) :
    Follows (past ++ Trace.outputs (step schema) x ops) (Trace.final (step schema) x ops) := by
  induction ops generalizing past x with
  | nil => simpa using h
  | cons op ops ih =>
    have hnext : Follows (past ++ [(step schema x op).2]) (step schema x op).1 := by
      cases op with
      | send expected params kind write => exact h.send expected params kind write
      | frame text => exact h.frame text (hread _ (by simp [step]))
    have hrest := ih hnext fun e he => hread e (by simp [he])
    simpa [List.append_assoc] using hrest

/-- Every entry of the history is in order, the two maps have the same keys, and an answer
to anything but an unanswered request is refused. -/
structure Matched (schema : ProtocolSchema) (past : List Exchanged) (x : Exchange) : Prop where
  orderly : Throughout Orderly past
  keys : ∀ id, x.protocol.pending.contains id = x.pending.contains id
  refuses : ∀ text id, replyTo text = some id → (∀ e k, ¬ Unanswered past id e k) →
    (x.frame schema text).2 = .refused

theorem Follows.matched (h : Follows past x) : Matched schema past x where
  orderly := h.orderly
  keys id := by
    have hiff : x.protocol.pending[id]?.isSome ↔ x.pending[id]?.isSome := by
      simp only [Option.isSome_iff_exists, h.protocol, h.pending]
      exact exists_comm
    rw [← ExtTreeMap.isSome_getElem?_eq_contains, ← ExtTreeMap.isSome_getElem?_eq_contains]
    exact Bool.eq_iff_iff.mpr hiff
  refuses text id htext hnone := by
    have habsent : x.protocol.pending[id]? = none := by
      cases hfound : x.protocol.pending[id]? with
      | none => rfl
      | some expected =>
        obtain ⟨kind, hopen⟩ := (h.protocol id expected).mp hfound
        exact absurd hopen (hnone expected kind)
    obtain ⟨error, herror⟩ :=
      ProtocolEngine.parseServerText_unknown schema htext habsent
    unfold Exchange.frame
    rcases hparse : ProtocolEngine.parseServerText schema text x.protocol with ⟨result, protocol⟩
    rw [hparse] at herror
    cases herror
    rfl

end Exchange

def ExchangeOp.text : ExchangeOp → Option ParsedText
  | .send _ _ _ _ => none
  | .frame text => some text

/-- Some requests, and exactly these texts in order, lead to the exchange, and no text is
refused. -/
def Conducted (schema : ProtocolSchema) (start : Exchange) (texts : List ParsedText)
    (x : Exchange) : Prop :=
  ∃ ops : List ExchangeOp, ops.filterMap ExchangeOp.text = texts ∧
    (∀ e ∈ Trace.outputs (Exchange.step schema) start ops, e ≠ .refused) ∧
    Trace.final (Exchange.step schema) start ops = x

namespace Conducted

variable {schema : ProtocolSchema} {start x : Exchange} {texts : List ParsedText}

theorem nil : Conducted schema start [] start := ⟨[], rfl, by simp, rfl⟩

/-- One more operation that is not refused. -/
theorem snoc (h : Conducted schema start texts x) (op : ExchangeOp)
    (hop : (x.step schema op).2 ≠ .refused) :
    Conducted schema start (texts ++ op.text.toList) (x.step schema op).1 := by
  obtain ⟨ops, rfl, hread, rfl⟩ := h
  refine ⟨ops ++ [op], ?_, ?_, ?_⟩
  · cases op <;> simp [ExchangeOp.text]
  · rw [Trace.outputs_append]
    intro e he
    rcases List.mem_append.mp he with hold | hnew
    · exact hread e hold
    · simp only [Trace.outputs_cons, Trace.outputs_nil, List.mem_singleton] at hnew
      exact hnew ▸ hop
  · rw [Trace.final_append]
    rfl

theorem send (h : Conducted schema start texts x) (expected : ExpectedResponse) (params : Value)
    (kind : PendingControl) (write : Except String Unit) :
    Conducted schema start texts (x.send schema expected params kind write).1 := by
  have hnext := h.snoc (.send expected params kind write) (by
    show (x.send schema expected params kind write).2 ≠ .refused
    unfold Exchange.send
    split
    · simp
    · split <;> simp)
  have htexts : texts ++ (ExchangeOp.send expected params kind write).text.toList = texts :=
    List.append_nil texts
  exact htexts ▸ hnext

theorem frame (h : Conducted schema start texts x) (text : ParsedText)
    (hread : (x.frame schema text).2 ≠ .refused) :
    Conducted schema start (texts ++ [text]) (x.frame schema text).1 :=
  h.snoc (.frame text) hread

end Conducted

def Worker.exchange {B : Type} (w : Worker B) : Exchange := ⟨w.protocol, w.pending⟩

namespace Work

variable {B : Type} (host : ProviderHost B) (schema : ProtocolSchema) (route : ApprovalRoute)
  (start : Exchange) (texts : List ParsedText)

/-- The worker after the given texts. -/
def Conducts (w : Worker B) : Prop := Conducted schema start texts w.exchange

theorem foreign_exchange (step : Foreign B) (w : Worker B) :
    (w.foreign host route step).exchange = w.exchange := by
  cases step with
  | accept command =>
    show (w.accept command).exchange = w.exchange
    unfold Worker.accept
    split <;> rfl
  | claimLocal response => rfl
  | mapping op => rfl
  | approval op =>
    show (w.approval route op).exchange = w.exchange
    unfold Worker.approval
    split <;> rfl
  | host f => rfl

/-- The request is allocated and accepted by its schema, and not written yet. -/
def Allocated (expected : ExpectedResponse) (params : Value) (request : RequestId × Value)
    (w : Worker B) : Prop :=
  ∃ x, Conducted schema start texts x ∧ w.pending = x.pending ∧
    x.protocol.request schema expected params = (.ok request, w.protocol)

/-- A section of the engine, by its outcome. -/
theorem triple_onProtocol {α : Type} {x : Program ProtocolEngine CodexProviderSourceError α}
    {P : Worker B → Prop} {Q : α → Worker B → Prop} {E : Worker B → Prop}
    (hok : ∀ w a protocol, P w → x w.protocol = (.ok a, protocol) →
      Q a { w with protocol := protocol })
    (herror : ∀ w error protocol, P w → x w.protocol = (.error error, protocol) →
      E { w with protocol := protocol }) :
    Triple (Holds P) (onProtocol x : Work B α) (fun a => Holds (Q a)) fun _ => Holds E := by
  apply Interleaved.triple_locally
  constructor
  · intro w a w' hw hrun
    obtain ⟨hresult, rfl⟩ := Prod.mk.inj hrun
    apply hok w a _ hw
    cases hx : (x w.protocol).1 with
    | error error =>
      rw [hx] at hresult
      cases hresult
    | ok found =>
      rw [hx] at hresult
      cases hresult
      exact Prod.ext hx rfl
  · intro w halt w' hw hrun
    obtain ⟨hresult, rfl⟩ := Prod.mk.inj hrun
    cases hx : (x w.protocol).1 with
    | error error => exact herror w error _ hw (Prod.ext hx rfl)
    | ok found =>
      rw [hx] at hresult
      cases hresult

/-- The two maps follow a request through all of its exits. -/
theorem conducts_sendControlRequest (expected : ExpectedResponse) (params : Value)
    (kind : PendingControl) :
    Preserves (Holds (Conducts schema start texts : Worker B → Prop))
      (sendControlRequest schema expected params kind) := by
  have hsent : ∀ {x : Exchange} (write : Except String Unit) {request : RequestId × Value}
      {protocol : ProtocolEngine}, Conducted schema start texts x →
      x.protocol.request schema expected params = (.ok request, protocol) →
      Conducted schema start texts (match write with
        | .error _ => ⟨protocol.cancelPending request.1, x.pending⟩
        | .ok () => ⟨protocol, x.pending.insert request.1 kind⟩) := by
    intro x write request protocol hx hrequest
    have h := hx.send expected params kind write
    unfold Exchange.send at h
    rw [hrequest] at h
    cases write <;> exact h
  apply Triple.preserves
  apply Triple.bind (Q := fun request => Holds (Allocated schema start texts expected params request))
  · apply triple_onProtocol
    · exact fun w request protocol hw hrequest => ⟨w.exchange, hw, rfl, hrequest⟩
    · intro w error protocol hw hrequest
      have h := Conducted.send hw expected params kind (.ok ())
      unfold Exchange.send at h
      rw [show w.exchange.protocol.request schema expected params = _ from hrequest] at h
      exact h
  intro request
  have hwrite : Preserves
      (Holds (Allocated schema start texts expected params request : Worker B → Prop))
      (writeText request.2) := keeps_write (fun _ _ hw => hw) _
  apply Triple.bind (Q := fun _ => Holds (Allocated schema start texts expected params request))
    (Triple.attempt (Triple.of_preserves hwrite) (fun _ _ hs => hs) fun _ _ hs => hs)
  intro written
  cases written with
  | error halt =>
    apply Triple.bind (Q := fun _ => Holds (Conducts schema start texts))
    · apply Interleaved.triple_locally
      constructor
      · rintro w _ w' ⟨x, hx, hpending, hrequest⟩ hrun
        cases hrun
        show Conducted schema start texts ⟨w.protocol.cancelPending request.1, w.pending⟩
        rw [hpending]
        exact hsent (.error "") hx hrequest
      · rintro w error w' - hrun
        cases hrun
    · exact fun _ => Triple.fail fun _ hs => hs
  | ok _ =>
    apply Interleaved.triple_locally
    apply Triple.modify
    rintro w ⟨x, hx, hpending, hrequest⟩
    show Conducted schema start texts ⟨w.protocol, w.pending.insert request.1 kind⟩
    rw [hpending]
    exact hsent (.ok ()) hx hrequest

theorem conducts_indifferent :
    Indifferent host schema route (Conducts schema start texts : Worker B → Prop) where
  mapping _ _ hw := hw
  writes _ _ hw := hw
  controls _ _ hw := hw
  record _ _ hw := hw
  foreign step w hw := by
    have hsame := foreign_exchange host route step w
    unfold Conducts at hw ⊢
    rwa [hsame]
  asks := conducts_sendControlRequest schema start texts

theorem conducts_registry :
    KeepsRegistry host route (Conducts schema start texts : Worker B → Prop) where
  apply _ _ hw := hw
  popOutbound := by
    apply keeps_locked (conducts_indifferent host schema route start texts).quiet
    apply Preserves.update
    intro w hw
    dsimp only
    split
    · exact hw
    · exact hw
  marked _ _ hw := hw

/-- The text is read, and its answer is still pending for the worker. -/
def Parsed (text : ParsedText) (frame : ServerFrame) (w : Worker B) : Prop :=
  ∃ x, Conducted schema start texts x ∧ w.pending = x.pending ∧
    ProtocolEngine.parseServerText schema text x.protocol = (.ok frame, w.protocol)

theorem triple_parse (text : ParsedText) :
    Triple (Holds (Conducts schema start texts : Worker B → Prop))
      (onProtocol (ProtocolEngine.parseServerText schema text))
      (fun frame => Holds (Parsed schema start texts text frame)) fun _ => Holds fun _ => True := by
  apply triple_onProtocol
  · exact fun w frame protocol hw hparse => ⟨w.exchange, hw, rfl, hparse⟩
  · exact fun _ _ _ _ _ => trivial

variable {schema start texts}

/-- A text that is no answer is done with when it is read. -/
theorem Parsed.other {text : ParsedText} {frame : ServerFrame} {w : Worker B}
    (h : Parsed schema start texts text frame w)
    (hframe : ∀ (x : Exchange) protocol,
      ProtocolEngine.parseServerText schema text x.protocol = (.ok frame, protocol) →
      x.frame schema text = ({ x with protocol := protocol }, .other)) :
    Conducts schema start (texts ++ [text]) w := by
  obtain ⟨x, hx, hpending, hparse⟩ := h
  have hnext := hx.frame text (by simp [hframe x _ hparse])
  rw [hframe x _ hparse] at hnext
  unfold Conducts Worker.exchange
  rwa [hpending]

/-- An answer is done with when its request is taken. -/
theorem triple_take {text : ParsedText} {frame : ServerFrame} {id : RequestId}
    (expected : ExpectedResponse) (message : String)
    (hframe : ∀ (x : Exchange) protocol,
      ProtocolEngine.parseServerText schema text x.protocol = (.ok frame, protocol) →
      x.frame schema text = ({ x with protocol := protocol } : Exchange).settle id expected) :
    Triple (Holds (Parsed schema start texts text frame)) (takePending id message : Work B _)
      (fun _ => Holds (Conducts schema start (texts ++ [text]))) fun _ => Holds fun _ => True := by
  apply Triple.bind (Q := fun found => Holds fun w : Worker B => found.isSome →
    Conducts schema start (texts ++ [text]) w)
  · apply Interleaved.triple_locally
    apply Triple.update
    rintro w ⟨x, hx, hpending, hparse⟩ hfound
    dsimp only at hfound ⊢
    obtain ⟨kind, hkind⟩ := Option.isSome_iff_exists.mp hfound
    have hsettle : x.frame schema text =
        (⟨w.protocol, x.pending.erase id⟩, .settled id expected kind) := by
      rw [hframe x w.protocol hparse]
      unfold Exchange.settle
      dsimp only
      rw [← hpending, hkind]
    have hnext := hx.frame text (by simp [hsettle])
    rw [hsettle, ← hpending] at hnext
    exact hnext
  · intro found
    cases found with
    | some kind => exact Triple.pure fun _ hs => hs rfl
    | none => exact Triple.fail fun _ _ => trivial

variable (schema start texts)

/-- What the worker does with a frame after reading it. -/
theorem triple_processLiveFrame (text : ParsedText) :
    Triple (Holds (Conducts schema start texts)) (processLiveFrame host schema route text)
      (fun _ => Holds (Conducts schema start (texts ++ [text]))) fun _ => Holds fun _ => True := by
  have hindifferent := conducts_indifferent host schema route start (texts ++ [text])
  have hquiet := hindifferent.quiet
  have hregistry := conducts_registry host schema route start (texts ++ [text])
  have hkeep : ∀ {x : Work B Unit} {P : Worker B → Prop},
      (∀ w, P w → Conducts schema start (texts ++ [text]) w) →
      Preserves (Holds (Conducts schema start (texts ++ [text]))) x →
      Triple (Holds P) x (fun _ => Holds (Conducts schema start (texts ++ [text])))
        fun _ => Holds fun _ => True := fun hP hx =>
    (Triple.of_preserves hx).weaken (fun s hs => hP s.state hs) (fun _ _ hs => hs)
      fun _ _ _ => trivial
  apply Triple.bind (triple_parse schema start texts text)
  intro frame
  cases frame with
  | notification method params =>
    apply hkeep
    · intro w hw
      apply hw.other
      intro x protocol hparse
      unfold Exchange.frame
      rw [hparse]
    · exact keeps_processNotification hquiet hregistry method params
  | request id method params =>
    apply hkeep
    · intro w hw
      apply hw.other
      intro x protocol hparse
      unfold Exchange.frame
      rw [hparse]
    · apply Preserves.ite (fun _ => keeps_processApprovalRequest hquiet hregistry _ _ _ _)
      intro _
      exact Preserves.bind (Preserves.ofExcept _) fun frame => keeps_writeText hquiet frame
  | response id expected result =>
    apply Triple.bind (triple_take expected _ fun x protocol hparse => by
      unfold Exchange.frame
      rw [hparse])
    intro kind
    exact (triple_controlResponse hquiet hindifferent.keepsAnswers expected result kind).weaken
      (fun _ hs => ⟨hs, trivial⟩) (fun _ _ hs => hs) fun _ _ _ => trivial
  | error id expected code message =>
    apply Triple.bind (triple_take expected _ fun x protocol hparse => by
      unfold Exchange.frame
      rw [hparse])
    intro kind
    exact (triple_controlError hquiet hindifferent.keepsAnswers expected code message kind).weaken
      (fun _ hs => ⟨hs, trivial⟩) (fun _ _ hs => hs) fun _ _ _ => trivial

/-- The text that a read brings, if it brings one. -/
def ReadOutcome.received : ReadOutcome → List ParsedText
  | .text frame => [frame]
  | .timeout | .closed | .failed _ => []

theorem triple_readFrame (read : ReadOutcome) :
    Triple (Holds (Conducts schema start texts)) (readFrame host schema route read)
      (fun _ => Holds (Conducts schema start (texts ++ read.received)))
      fun _ => Holds fun _ => True := by
  cases read with
  | timeout =>
    apply Triple.pure
    intro s hs
    simpa [ReadOutcome.received] using hs
  | closed => exact Triple.fail fun _ _ => trivial
  | text text => exact triple_processLiveFrame host schema route start texts text
  | failed message => exact Triple.fail fun _ _ => trivial

theorem triple_outcome {P Q : Worker B → Prop} {x : Work B Unit}
    (hx : Triple (Holds P) x (fun _ => Holds Q) fun _ => Holds fun _ => True) :
    Triple (Holds P) (outcome x) (fun failure => Holds fun w => failure = none → Q w)
      fun _ => Holds fun _ => True := by
  apply Triple.bind (Q := fun result => Holds fun w => result = .ok () → Q w)
  · exact Triple.attempt hx (fun _ _ hs _ => hs) fun _ _ _ => nofun
  · intro result
    cases result with
    | ok _ => exact Triple.pure fun _ hs _ => hs rfl
    | error halt =>
      cases halt with
      | source error => exact Triple.pure fun _ _ => nofun
      | unfinished => exact Triple.fail fun _ _ => trivial

/-- A round that does not end the loop reads its text. -/
theorem triple_workerRound (fuel : Nat) (round : Round) :
    Triple (Holds (Conducts schema start texts)) (workerRound host schema route fuel round)
      (fun exit => Holds fun w => exit = none → Conducts schema start (texts ++ round.read.received) w)
      fun _ => Holds fun _ => True := by
  have hindifferent := conducts_indifferent host schema route start texts
  have hregistry := conducts_registry host schema route start texts
  have hflush : ∀ {x : Work B Unit}, Preserves (Holds (Conducts schema start texts)) x →
      Triple (Holds (Conducts schema start texts)) (outcome x)
        (fun failure => Holds fun w => failure = none → Conducts schema start texts w)
        fun _ => Holds fun _ => True := fun hx =>
    triple_outcome ((Triple.of_preserves hx).weaken (fun _ hs => hs) (fun _ _ hs => hs)
      fun _ _ _ => trivial)
  apply Triple.ite
  · exact fun _ => Triple.pure fun _ _ => nofun
  intro _
  apply Triple.bind
    (hflush (keeps_flushApprovalResponses hindifferent.quiet hregistry fuel))
  intro failure
  cases failure with
  | some error => exact Triple.pure fun _ _ => nofun
  | none =>
    apply Triple.bind (Q := fun failure => Holds fun w => failure = none →
      Conducts schema start texts w)
    · exact (hflush (keeps_flushControlCommands hindifferent.quiet hindifferent.keepsPrompts
        fuel)).weaken (fun _ hs => hs rfl) (fun _ _ hs => hs) fun _ _ hs => hs
    intro failure
    cases failure with
    | some error => exact Triple.pure fun _ _ => nofun
    | none =>
      apply Triple.bind (Q := fun failure => Holds fun w => failure = none →
        Conducts schema start (texts ++ round.read.received) w)
      · exact (triple_outcome (triple_readFrame host schema route start texts round.read)).weaken
          (fun _ hs => hs rfl) (fun _ _ hs => hs) fun _ _ hs => hs
      intro failure
      cases failure with
      | none => exact Triple.pure fun _ hs _ => hs rfl
      | some error => exact Triple.pure fun _ _ => nofun

/-- The state of the worker when the loop goes on after the given rounds. -/
def afterRounds (fuel : Nat) : List Round → Interleaved (Worker B) (Foreign B) →
    Option (Interleaved (Worker B) (Foreign B))
  | [], s => some s
  | round :: rest, s =>
    match workerRound host schema route fuel round s with
    | (.ok none, next) => afterRounds fuel rest next
    | _ => none

theorem workerLoop_afterRounds {fuel : Nat} {rounds : List Round}
    {s next : Interleaved (Worker B) (Foreign B)}
    (h : afterRounds host schema route fuel rounds s = some next) (rest : List Round) :
    workerLoop host schema route fuel (rounds ++ rest) s =
      workerLoop host schema route fuel rest next := by
  induction rounds generalizing s with
  | nil =>
    cases h
    rfl
  | cons round rounds ih =>
    unfold afterRounds at h
    rcases hround : workerRound host schema route fuel round s with ⟨result, t⟩
    rw [hround] at h
    match result with
    | .ok none => exact (Program.bind_of_ok hround).trans (ih h)
    | .ok (some exit) => cases h
    | .error halt => cases h

theorem conducts_afterRounds {fuel : Nat} {rounds : List Round}
    {s next : Interleaved (Worker B) (Foreign B)}
    (h : afterRounds host schema route fuel rounds s = some next)
    (hs : Conducts schema start texts s.state) :
    Conducts schema start (texts ++ rounds.flatMap fun round => round.read.received) next.state := by
  induction rounds generalizing s texts with
  | nil =>
    cases h
    simpa using hs
  | cons round rounds ih =>
    unfold afterRounds at h
    rcases hround : workerRound host schema route fuel round s with ⟨result, t⟩
    rw [hround] at h
    match result with
    | .ok none =>
      have hnext := (triple_workerRound host schema route start texts fuel round).returns s _ t hs
        hround rfl
      simpa [List.append_assoc] using ih _ h hnext
    | .ok (some exit) => cases h
    | .error halt => cases h

/-- The two sections before the loop. -/
def begin : Work B Unit := do
  editControls host route ControlRuntimeState.clearAllInflight
  alone (Program.modify fun w => { w with pending := ∅ })

theorem begin_exchange (w : Worker B) (schedule : List (List (Foreign B))) :
    (begin host route ⟨w, schedule⟩).2.state.exchange = ⟨w.protocol, ∅⟩ := by
  have hedit : Preserves (Holds fun v : Worker B => v.exchange.protocol = w.protocol)
      (editControls host route ControlRuntimeState.clearAllInflight) := by
    apply Interleaved.preserves_atomically
    · intro step v hv
      rw [foreign_exchange]
      exact hv
    · exact Preserves.modify fun _ hv => hv
  have hprotocol := hedit.holds ⟨w, schedule⟩ rfl
  show Exchange.mk (editControls host route ControlRuntimeState.clearAllInflight
    ⟨w, schedule⟩).2.state.protocol ∅ = _
  exact congrArg (fun protocol => Exchange.mk protocol ∅) hprotocol

theorem untilExit_eq (fuel : Nat) (rounds : List Round) (s : Interleaved (Worker B) (Foreign B)) :
    untilExit host schema route fuel rounds s =
      workerLoop host schema route fuel rounds (begin host route s).2 := by
  rfl

/-- The exchange on its own: as long as no text ends the worker, both maps have the same
keys after every operation, every request has an identifier of its own, every answer
settles the one request that is sent under it and not settled, and an answer to anything
else is refused. The worker: whenever its loop goes on, its two maps are those of such an
exchange, with exactly the texts that were read. -/
theorem afterRounds_matched (w : Worker B) (hw : w.protocol.pending = ∅)
    (schedule : List (List (Foreign B))) (fuel : Nat) (rounds : List Round)
    {s : Interleaved (Worker B) (Foreign B)}
    (hs : afterRounds host schema route fuel rounds (begin host route ⟨w, schedule⟩).2 = some s) :
    (∀ (x : Exchange) (ops : List ExchangeOp), x.protocol.pending = ∅ → x.pending = ∅ →
      (∀ e ∈ Trace.outputs (Exchange.step schema) x ops, e ≠ .refused) →
        Exchange.Matched schema (Trace.outputs (Exchange.step schema) x ops)
          (Trace.final (Exchange.step schema) x ops)) ∧
      (∀ rest, untilExit host schema route fuel (rounds ++ rest) ⟨w, schedule⟩ =
        workerLoop host schema route fuel rest s) ∧
      (∀ id, s.state.protocol.pending.contains id = s.state.pending.contains id) ∧
      ∃ ops : List ExchangeOp,
        ops.filterMap ExchangeOp.text = rounds.flatMap (fun round => round.read.received) ∧
        (∀ e ∈ Trace.outputs (Exchange.step schema) ⟨w.protocol, ∅⟩ ops, e ≠ .refused) ∧
        Trace.final (Exchange.step schema) ⟨w.protocol, ∅⟩ ops = s.state.exchange := by
  have hmatched : ∀ (x : Exchange) (ops : List ExchangeOp), x.protocol.pending = ∅ →
      x.pending = ∅ → (∀ e ∈ Trace.outputs (Exchange.step schema) x ops, e ≠ .refused) →
      Exchange.Matched schema (Trace.outputs (Exchange.step schema) x ops)
        (Trace.final (Exchange.step schema) x ops) := by
    intro x ops hprotocol hpending hread
    have hfollows := Exchange.follows_run ops (Exchange.follows_nil hprotocol hpending) hread
    exact hfollows.matched
  have hbegin : Conducts schema ⟨w.protocol, ∅⟩ [] (begin host route ⟨w, schedule⟩).2.state := by
    unfold Conducts
    rw [begin_exchange]
    exact Conducted.nil
  obtain ⟨ops, htexts, hread, hfinal⟩ :=
    conducts_afterRounds host schema route ⟨w.protocol, ∅⟩ [] hs hbegin
  refine ⟨hmatched, ?_, ?_, ops, by simpa using htexts, hread, hfinal⟩
  · intro rest
    rw [untilExit_eq]
    exact workerLoop_afterRounds host schema route hs rest
  · intro id
    have hkeys := (hmatched ⟨w.protocol, ∅⟩ ops hw rfl hread).keys id
    rw [hfinal] at hkeys
    exact hkeys

end Work

namespace Sample

/-- An empty catalog, as the answer to the first request. -/
def emptyCatalog : Value :=
  .object [("id", .int 1), ("result", .object [("data", .array [])])]

/-- The phone asks for the models, and the server answers in the next round. -/
def catalogRounds : List Work.Round :=
  [⟨false, .timeout, false⟩, ⟨false, .text (.ok emptyCatalog), false⟩]

/-- The start of the loop after which the phone asks for the models. -/
def catalogStart : Interleaved (Worker Nat) (Foreign Nat) :=
  (Work.begin host .observer ⟨observing [], [[.accept listModels]]⟩).2

end Sample

namespace Work

theorem afterRounds_matched_catalog :
    ∃ s, afterRounds Sample.host Sample.schema .observer 3 Sample.catalogRounds
        Sample.catalogStart = some s ∧
      (∀ id, s.state.protocol.pending.contains id = s.state.pending.contains id) ∧
      s.state.protocol.nextRequestId = 2 := by
  have hsome : (afterRounds Sample.host Sample.schema .observer 3 Sample.catalogRounds
      Sample.catalogStart).any (fun s => s.state.protocol.nextRequestId == 2) = true := by
    decide +kernel
  obtain ⟨s, hs, hnext⟩ := (Option.any_eq_true _ _).mp hsome
  have hmatched := afterRounds_matched Sample.host Sample.schema .observer (Sample.observing []) rfl
    [[.accept Sample.listModels]] 3 Sample.catalogRounds hs
  exact ⟨s, hs, hmatched.2.2.1, by simpa using hnext⟩

end Work

end Codex

end AgentPulse
