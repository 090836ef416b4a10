import AgentPulse.CodexPresent
import AgentPulse.CodexActiveTurn

/-!
# Which schema-valid approvals can be presented

`prepare_approval` reads values that passed the schema of the protocol once
more, with its own idea of their shape. The shapes below state what the bundled
schema says of the properties that it reads; what the schema says of the others
only narrows the values further.
-/
namespace AgentPulse

namespace Codex

open Serde (Json)

/-- A test of a value, as a part of the schema states it. -/
abbrev Shape := Value → Bool

namespace Shape

def string : Shape := fun value => value.asStr.isSome

def enum (names : List String) : Shape := fun value => value.asStr.any fun name => names.contains name

/-- The schema's `integer` admits `1000.0` as well; any numeral passes here. -/
def number : Shape
  | .int _ | .float _ => true
  | _ => false

def nullable (shape : Shape) : Shape
  | .null => true
  | value => shape value

def arrayOf (shape : Shape) : Shape := fun value => value.asArray.any fun items => items.all shape

def required (field : String) (shape : Shape) : Shape := fun value => (value.get field).any shape

def optional (field : String) (shape : Shape) : Shape := fun value => (value.get field).all shape

def object (properties : List Shape) : Shape := fun value =>
  value.isObject && properties.all fun property => property value

def networkApprovalContext : Shape :=
  object [required "host" string,
    required "protocol" (enum ["http", "https", "socks5Tcp", "socks5Udp"])]

def networkPolicyAmendment : Shape :=
  object [required "action" (enum ["allow", "deny"]), required "host" string]

/-- What the two requests have in common. -/
def requestHead : List Shape :=
  [required "itemId" string, required "startedAtMs" number, required "threadId" string,
    required "turnId" string, optional "reason" (nullable string)]

def commandExecutionRequestApprovalParams : Shape :=
  object (requestHead ++ [
    optional "kind" (enum ["command", "writeStdin"]),
    optional "command" (nullable string),
    optional "cwd" (nullable string),
    optional "networkApprovalContext" (nullable networkApprovalContext),
    optional "proposedExecpolicyAmendment" (nullable (arrayOf string)),
    optional "proposedNetworkPolicyAmendments" (nullable (arrayOf networkPolicyAmendment))])

def fileChangeRequestApprovalParams : Shape :=
  object (requestHead ++ [optional "grantRoot" (nullable string)])

def approvalParams (method : String) : Shape :=
  if method = "item/commandExecution/requestApproval" then commandExecutionRequestApprovalParams
  else if method = "item/fileChange/requestApproval" then fileChangeRequestApprovalParams
  else fun _ => false

/-- One of three objects, told apart by their type. -/
def patchChangeKind : Shape :=
  object [required "type" (enum ["add", "delete", "update"])]

def fileUpdateChange : Shape :=
  object [required "diff" string, required "kind" patchChangeKind, required "path" string]

/-- The items are told apart by their type; of the others than a file change no
property is required here. -/
def threadItem : Shape := fun value =>
  required "type" string value &&
    ((value.get "type").bind Json.asStr != some "fileChange" ||
      required "changes" (arrayOf fileUpdateChange) value)

theorem string_of_required {value : Value} {field : String} (h : required field string value = true) :
    ∃ text, stringField value field = .ok text ∧ (value.get field).bind Json.asStr = some text := by
  unfold required string at h
  cases hget : value.get field with
  | none => simp [hget] at h
  | some entry =>
    cases entry with
    | string text => exact ⟨text, by simp [stringField, hget, Json.asStr], rfl⟩
    | _ => simp [hget, Json.asStr] at h

/-- An enumerated property is one of the listed texts. -/
theorem name_of_required {value : Value} {field : String} {names : List String}
    (h : required field (enum names) value = true) :
    ∃ name ∈ names, stringField value field = .ok name := by
  unfold required enum at h
  cases hget : value.get field with
  | none => simp [hget] at h
  | some entry =>
    cases entry with
    | string name =>
      refine ⟨name, ?_, by simp [stringField, hget, Json.asStr]⟩
      simpa [hget, Json.asStr] using h
    | _ => simp [hget, Json.asStr] at h

/-- A text that may be missing is read without an error; a blank one counts as missing. -/
theorem optional_text {value : Value} {field : String}
    (h : optional field (nullable string) value = true) :
    ∃ text, optionalNonEmptyString value field = .ok text := by
  unfold optional at h
  unfold optionalNonEmptyString
  cases hget : value.get field with
  | none => exact ⟨none, rfl⟩
  | some entry =>
    cases entry with
    | null => exact ⟨none, rfl⟩
    | string text =>
      by_cases hblank : isBlank text = true
      · exact ⟨none, by simp [hblank]⟩
      · refine ⟨some ⟨text, by simpa using hblank⟩, ?_⟩
        simp [hblank, NonEmptyText.new, domain, Except.mapError, Except.map]
    | _ => simp [hget, nullable, string, Json.asStr] at h

/-- What an object's shape says of one of its properties. -/
theorem property_of_object {value : Value} {properties : List Shape} {property : Shape}
    (h : object properties value = true) (hmem : property ∈ properties) : property value = true := by
  unfold object at h
  simp only [Bool.and_eq_true, List.all_eq_true] at h
  exact h.2 property hmem

end Shape

theorem commandKind_of_shape {params : Value}
    (h : Shape.optional "kind" (Shape.enum ["command", "writeStdin"]) params = true) :
    ∃ kind, commandKind params = .ok kind := by
  unfold Shape.optional at h
  unfold commandKind
  cases hget : params.get "kind" with
  | none => exact ⟨.command, rfl⟩
  | some entry =>
    rw [hget, Option.all_some] at h
    cases entry with
    | string name =>
      have hname : name = "command" ∨ name = "writeStdin" := by
        simpa [Shape.enum, Json.asStr] using h
      rcases hname with rfl | rfl
      · exact ⟨.command, rfl⟩
      · exact ⟨.writeStdin, rfl⟩
    | _ => simp [Shape.enum, Json.asStr] at h

theorem paramOrItem_of_shape {params : Value} {field : String} (item : Option Value)
    (h : Shape.optional field (Shape.nullable Shape.string) params = true) :
    ∃ text, paramOrItem params item field = .ok text := by
  obtain ⟨text, htext⟩ := Shape.optional_text h
  unfold paramOrItem
  rw [htext]
  cases text with
  | some text => exact ⟨some text, rfl⟩
  | none => exact ⟨_, rfl⟩

/-- The host that a network request names is not blank. -/
def NamesHost (params : Value) : Prop :=
  ∀ context host, params.get "networkApprovalContext" = some context →
    (context.get "host").bind Json.asStr = some host → isBlank host = false

theorem networkContext_of_shape {params : Value}
    (h : Shape.optional "networkApprovalContext" (Shape.nullable Shape.networkApprovalContext)
      params = true) (hhost : NamesHost params) :
    ∃ network, networkContext params = .ok network := by
  unfold Shape.optional at h
  cases hget : params.get "networkApprovalContext" with
  | none => exact ⟨none, by simp [networkContext, hget]⟩
  | some context =>
    rw [hget, Option.all_some] at h
    by_cases hnull : context = .null
    · subst hnull
      exact ⟨none, by simp [networkContext, hget]⟩
    · have hshape : Shape.networkApprovalContext context = true := by
        cases context <;> first | exact h | exact absurd rfl hnull
      have hhostShape : Shape.required "host" Shape.string context = true :=
        Shape.property_of_object hshape (by simp)
      have hprotocolShape : Shape.required "protocol"
          (Shape.enum ["http", "https", "socks5Tcp", "socks5Udp"]) context = true :=
        Shape.property_of_object hshape (by simp)
      obtain ⟨host, hread, hfound⟩ := Shape.string_of_required hhostShape
      obtain ⟨protocol, hmem, hprotocol⟩ := Shape.name_of_required hprotocolShape
      have hnamed : isBlank host = false := hhost context host hget hfound
      have hblank : isBlank protocol = false := by
        simp only [List.mem_cons, List.not_mem_nil, or_false] at hmem
        rcases hmem with rfl | rfl | rfl | rfl <;> decide
      refine ⟨some ⟨⟨host, hnamed⟩, ⟨protocol, hblank⟩⟩, ?_⟩
      unfold networkContext
      rw [hget]
      have hcontext : (do
          let host ← stringField context "host"
          let hostText ← domain (NonEmptyText.new host)
          let protocol ← stringField context "protocol"
          let protocolText ← domain (NonEmptyText.new protocol)
          .ok (some ⟨hostText, protocolText⟩) : Sourced (Option ApprovalNetworkContext)) =
          .ok (some ⟨⟨host, hnamed⟩, ⟨protocol, hblank⟩⟩) := by
        rw [hread, hprotocol]
        simp only [bind, Except.bind, domain_text hnamed, domain_text hblank]
      cases context with
      | null => exact absurd rfl hnull
      | _ => exact hcontext

theorem commandSubject_of_shape {params : Value} (item : Option Value)
    (h : Shape.commandExecutionRequestApprovalParams params = true) (hhost : NamesHost params) :
    ∃ presented, commandSubject params item = .ok presented := by
  have htext : ∀ field ∈ ["command", "cwd", "reason"],
      Shape.optional field (Shape.nullable Shape.string) params = true := by
    intro field hfield
    apply Shape.property_of_object h
    simp only [List.mem_cons, List.not_mem_nil, or_false] at hfield
    rcases hfield with rfl | rfl | rfl <;> simp [Shape.requestHead]
  obtain ⟨kind, hkind⟩ := commandKind_of_shape (Shape.property_of_object h (by simp))
  obtain ⟨network, hnetwork⟩ :=
    networkContext_of_shape (Shape.property_of_object h (by simp)) hhost
  obtain ⟨reason, hreason⟩ := Shape.optional_text (htext "reason" (by simp))
  unfold commandSubject
  dsimp only
  generalize item.filter _ = item
  obtain ⟨command, hcommand⟩ := paramOrItem_of_shape item (htext "command" (by simp))
  obtain ⟨cwd, hcwd⟩ := paramOrItem_of_shape item (htext "cwd" (by simp))
  simp only [hkind, hcommand, hcwd, hreason, hnetwork, bind, Except.bind]
  split
  · rw [domain_text (by decide)]
    exact ⟨_, rfl⟩
  · exact ⟨_, rfl⟩

/-- The changes that `file_subject` finds in the cached item. -/
def cachedChanges (item : Option Value) : List Value :=
  (((item.filter fun value => (value.get "type").bind Json.asStr = some "fileChange").bind
    fun value => value.get "changes").bind Json.asArray).getD []

theorem cachedChanges_of_shape {item : Option Value}
    (h : ∀ value ∈ item, Shape.threadItem value = true) :
    ∀ change ∈ cachedChanges item, Shape.fileUpdateChange change = true := by
  cases item with
  | none =>
    intro change hchange
    cases hchange
  | some value =>
    have hvalue := h value rfl
    unfold Shape.threadItem Shape.required Shape.arrayOf at hvalue
    unfold cachedChanges
    intro change hchange
    by_cases htype : (value.get "type").bind Json.asStr = some "fileChange"
    · simp only [Option.filter_some, htype, decide_true, if_true, Option.bind_some] at hchange
      cases hget : value.get "changes" with
      | none => simp [hget] at hchange
      | some entry =>
        cases harray : entry.asArray with
        | none => simp [hget, harray] at hchange
        | some changes =>
          have hall : ∀ change ∈ changes, Shape.fileUpdateChange change = true := by
            have hboth : Option.any Shape.string (value.get "type") = true ∧
                ∀ change ∈ changes, Shape.fileUpdateChange change = true := by
              simpa [htype, hget, harray] using hvalue
            exact hboth.2
          have hmem : change ∈ changes := by simpa [hget, harray] using hchange
          exact hall change hmem
    · rw [Option.filter_some, if_neg (by simpa using htype)] at hchange
      cases hchange

/-- The kind of a schema-valid change is an object, and no text. -/
theorem fileChange_of_shape {value : Value} (h : Shape.fileUpdateChange value = true) :
    fileChange value = protocolError "kind must be a string" := by
  have hkind : Shape.required "kind" Shape.patchChangeKind value = true :=
    Shape.property_of_object h (by simp)
  have hread : stringField value "kind" = protocolError "kind must be a string" := by
    unfold Shape.required Shape.patchChangeKind Shape.object at hkind
    unfold stringField
    cases hget : value.get "kind" with
    | none => simp [hget] at hkind
    | some entry =>
      cases entry with
      | object entries => rfl
      | _ => simp [hget, Json.isObject] at hkind
  unfold fileChange
  rw [hread]
  rfl

theorem fileSubject_of_shape {params : Value} {item : Option Value}
    (h : Shape.fileChangeRequestApprovalParams params = true)
    (hitem : ∀ value ∈ item, Shape.threadItem value = true) :
    if cachedChanges item = [] then ∃ presented, fileSubject params item = .ok presented
    else fileSubject params item = protocolError "kind must be a string" := by
  obtain ⟨reason, hreason⟩ : ∃ text, optionalNonEmptyString params "reason" = .ok text :=
    Shape.optional_text (Shape.property_of_object h (by simp [Shape.requestHead]))
  obtain ⟨grantRoot, hgrantRoot⟩ : ∃ text, optionalNonEmptyString params "grantRoot" = .ok text :=
    Shape.optional_text (Shape.property_of_object h (by simp))
  have hshapes := cachedChanges_of_shape hitem
  have hsubject : fileSubject params item = (cachedChanges item).mapM fileChange >>= fun changes =>
      if changes.isEmpty then do
        let unavailable ← domain (NonEmptyText.new
          "Codex file-change details were not available; use the desktop Codex client")
        .ok (.fileChange changes grantRoot reason, some unavailable)
      else .ok (.fileChange changes grantRoot reason, none) := by
    unfold fileSubject cachedChanges
    rw [hreason, hgrantRoot]
    rfl
  rw [hsubject]
  cases hchanges : cachedChanges item with
  | nil =>
    rw [if_pos rfl]
    refine ⟨(.fileChange [] grantRoot reason, some ⟨
      "Codex file-change details were not available; use the desktop Codex client", by decide⟩), ?_⟩
    rfl
  | cons change rest =>
    rw [if_neg (by simp), List.mapM_cons, fileChange_of_shape (hshapes change (by simp [hchanges]))]
    rfl

namespace ProviderHost

variable {B : Type} (host : ProviderHost B)

/-- The next identifiers that the generator gives out. -/
def drawn (k : IdKind) : Nat → B → List (Ident k)
  | 0, _ => []
  | n + 1, b => (host.newId k b).1 :: drawn k n (host.newId k b).2

/-- The host after as many draws. -/
def afterDraws (k : IdKind) : Nat → B → B
  | 0, b => b
  | n + 1, b => afterDraws k n (host.newId k b).2

theorem drawn_succ (k : IdKind) (n : Nat) (b : B) :
    host.drawn k (n + 1) b = host.drawn k n b ++ [(host.newId k (host.afterDraws k n b)).1] := by
  induction n generalizing b with
  | zero => rfl
  | succ n ih =>
    rw [drawn, ih]
    rfl

theorem drawn_prefix (k : IdKind) {n m : Nat} (h : n ≤ m) (b : B) :
    host.drawn k n b <+: host.drawn k m b := by
  induction h with
  | refl => exact List.prefix_refl _
  | step _ ih =>
    rw [drawn_succ]
    exact ih.trans (List.prefix_append _ _)

theorem afterDraws_succ (k : IdKind) (n : Nat) (b : B) :
    host.afterDraws k (n + 1) b = (host.newId k (host.afterDraws k n b)).2 := by
  induction n generalizing b with
  | zero => rfl
  | succ n ih =>
    rw [afterDraws, ih]
    rfl

end ProviderHost

theorem isBlank_append {front : String} (h : isBlank front = false) (rest : String) :
    isBlank (front ++ rest) = false := by
  unfold isBlank at h ⊢
  simp only [String.toList_append, List.all_append, h, Bool.false_and]

/-- Both texts of an offered decision can be shown. -/
structure OfferedDecision.Readable (offered : OfferedDecision) : Prop where
  label : isBlank offered.label = false
  description : isBlank offered.description = false

theorem sessionScope_readable (subject : ApprovalSubject) : isBlank (sessionScope subject) = false := by
  cases subject with
  | command kind command cwd reason network =>
    show isBlank "Allow this operation and matching future prompts for this Codex session" = false
    decide
  | fileChange changes grantRoot reason =>
    cases grantRoot with
    | none =>
      show isBlank
        "Allow this change and future changes to the same files for this Codex session" = false
      exact isBlank_cons (by decide)
    | some root =>
      have hfront : isBlank "Allow this change and future writes under " = false :=
        isBlank_cons (by decide)
      exact isBlank_append (isBlank_append hfront _) _

theorem leadingDecisions_readable (method : String) (params : Value) (subject : ApprovalSubject) :
    ∀ offered ∈ leadingDecisions method params subject, offered.Readable := by
  intro offered hoffered
  unfold leadingDecisions at hoffered
  rcases List.mem_append.mp hoffered with hfixed | hamended
  · simp only [List.mem_cons, List.not_mem_nil, or_false] at hfixed
    rcases hfixed with rfl | rfl
    · exact ⟨by decide, by decide⟩
    · have hlabel : isBlank "Approve for session" = false := isBlank_cons (by decide)
      exact ⟨hlabel, sessionScope_readable subject⟩
  · split at hamended
    · unfold execpolicyDecision at hamended
      split at hamended
      · cases hamended
      · cases hamended
      · simp only [List.mem_cons, List.not_mem_nil, or_false] at hamended
        subst hamended
        have hlabel : isBlank "Approve and remember command rule" = false := isBlank_cons (by decide)
        have hfront : isBlank "Apply Codex exec policy amendment: " = false := isBlank_cons (by decide)
        exact ⟨hlabel, isBlank_append hfront _⟩
    · cases hamended

theorem closingDecisions_readable : ∀ offered ∈ closingDecisions, offered.Readable := by
  intro offered hoffered
  simp only [closingDecisions, List.mem_cons, List.not_mem_nil, or_false] at hoffered
  rcases hoffered with rfl | rfl <;> exact ⟨by decide, by decide⟩

theorem networkDecision_of_shape {amendment : Value}
    (h : Shape.networkPolicyAmendment amendment = true) :
    ∃ offered, networkDecision amendment = .ok offered ∧ offered.Readable := by
  have hactionShape : Shape.required "action" (Shape.enum ["allow", "deny"]) amendment = true :=
    Shape.property_of_object h (by simp)
  have hhostShape : Shape.required "host" Shape.string amendment = true :=
    Shape.property_of_object h (by simp)
  obtain ⟨action, hmem, haction⟩ := Shape.name_of_required hactionShape
  obtain ⟨host, hhost, -⟩ := Shape.string_of_required hhostShape
  have hdescription : isBlank s!"Apply persistent Codex network policy for {host}" = false :=
    isBlank_append (isBlank_cons (by decide) :
      isBlank "Apply persistent Codex network policy for " = false) _
  unfold networkDecision
  simp only [haction, hhost, bind, Except.bind]
  simp only [List.mem_cons, List.not_mem_nil, or_false] at hmem
  rcases hmem with rfl | rfl
  · rw [if_pos rfl]
    have hlabel : isBlank s!"Always allow {host}" = false :=
      isBlank_append (isBlank_cons (by decide) : isBlank "Always allow " = false) _
    exact ⟨_, rfl, hlabel, hdescription⟩
  · rw [if_neg (by decide), if_pos rfl]
    have hlabel : isBlank s!"Always deny {host}" = false :=
      isBlank_append (isBlank_cons (by decide) : isBlank "Always deny " = false) _
    exact ⟨_, rfl, hlabel, hdescription⟩

theorem networkAmendments_of_shape {method : String} {params : Value}
    (h : Shape.approvalParams method params = true) :
    ∀ amendment ∈ networkAmendments method params, Shape.networkPolicyAmendment amendment = true := by
  intro amendment hamendment
  unfold networkAmendments at hamendment
  split at hamendment
  · next hmethod =>
    rw [Shape.approvalParams, if_pos hmethod] at h
    have hshape : Shape.optional "proposedNetworkPolicyAmendments"
        (Shape.nullable (Shape.arrayOf Shape.networkPolicyAmendment)) params = true :=
      Shape.property_of_object h (by simp)
    unfold Shape.optional at hshape
    cases hget : params.get "proposedNetworkPolicyAmendments" with
    | none => simp [hget] at hamendment
    | some entry =>
      cases entry with
      | array items =>
        have hall : items.all Shape.networkPolicyAmendment = true := by
          rw [hget] at hshape
          exact hshape
        have hmem : amendment ∈ items := by simpa [hget, Json.asArray] using hamendment
        exact List.all_eq_true.mp hall amendment hmem
      | _ => simp [hget, Json.asArray] at hamendment
  · cases hamendment

namespace Hosting

variable {B : Type} {host : ProviderHost B} {b : B}

/-- The options so far, with the identifiers drawn since the start. -/
structure Offers (host : ProviderHost B) (b : B) (offer : Offer) (b' : B) : Prop where
  ids : offer.1.map ApprovalOption.id = host.drawn .approvalOption offer.1.length b
  state : b' = host.afterDraws .approvalOption offer.1.length b

theorem addOption_offers {offer : Offer} {b' : B} {offered : OfferedDecision}
    (hoffer : Offers host b offer b') (hreadable : offered.Readable) :
    ∃ next b'', addOption host offer offered b' = (.ok next, b'') ∧ Offers host b next b'' ∧
      next.1.length = offer.1.length + 1 := by
  refine ⟨(offer.1 ++ [⟨(host.newId .approvalOption b').1, offered.disposition,
    ⟨offered.label, hreadable.label⟩, some ⟨offered.description, hreadable.description⟩⟩],
    offer.2.insert (host.newId .approvalOption b').1 offered.decision),
    (host.newId .approvalOption b').2, ?_, ⟨?_, ?_⟩, by simp⟩
  · unfold addOption
    rw [domain_text hreadable.label, domain_text hreadable.description]
    rfl
  · rw [List.length_append, List.length_singleton, host.drawn_succ, ← hoffer.state, ← hoffer.ids]
    simp
  · rw [List.length_append, List.length_singleton, host.afterDraws_succ, ← hoffer.state]

theorem addOptions_offers {offer : Offer} {b' : B} {decisions : List OfferedDecision}
    (hoffer : Offers host b offer b') (hreadable : ∀ offered ∈ decisions, offered.Readable) :
    ∃ next b'', addOptions host offer decisions b' = (.ok next, b'') ∧ Offers host b next b'' ∧
      next.1.length = offer.1.length + decisions.length := by
  induction decisions generalizing offer b' with
  | nil => exact ⟨offer, b', rfl, hoffer, rfl⟩
  | cons offered rest ih =>
    obtain ⟨middle, c, hadd, hmiddle, hone⟩ := addOption_offers hoffer (hreadable offered (by simp))
    obtain ⟨next, b'', hrest, hnext, hlength⟩ := ih hmiddle fun o ho => hreadable o (by simp [ho])
    refine ⟨next, b'', ?_, hnext, ?_⟩
    · rw [addOptions, Program.bind_of_ok hadd]
      exact hrest
    · rw [List.length_cons]
      omega

theorem addNetworkOptions_offers {offer : Offer} {b' : B} {amendments : List Value}
    (hoffer : Offers host b offer b')
    (hshapes : ∀ amendment ∈ amendments, Shape.networkPolicyAmendment amendment = true) :
    ∃ next b'', addNetworkOptions host offer amendments b' = (.ok next, b'') ∧
      Offers host b next b'' ∧ next.1.length = offer.1.length + amendments.length := by
  induction amendments generalizing offer b' with
  | nil => exact ⟨offer, b', rfl, hoffer, rfl⟩
  | cons amendment rest ih =>
    obtain ⟨offered, hdecision, hreadable⟩ := networkDecision_of_shape (hshapes amendment (by simp))
    obtain ⟨middle, c, hadd, hmiddle, hone⟩ := addOption_offers hoffer hreadable
    obtain ⟨next, b'', hrest, hnext, hlength⟩ := ih hmiddle fun a ha => hshapes a (by simp [ha])
    have hread : (Program.ofExcept (networkDecision amendment) : Hosting B OfferedDecision) b' =
        (.ok offered, b') := by
      rw [hdecision]
      rfl
    refine ⟨next, b'', ?_, hnext, ?_⟩
    · rw [addNetworkOptions, Program.bind_of_ok hread, Program.bind_of_ok hadd]
      exact hrest
    · rw [List.length_cons]
      omega

theorem leadingDecisions_length (method : String) (params : Value) (subject : ApprovalSubject) :
    (leadingDecisions method params subject).length ≤ 3 := by
  have hone : (execpolicyDecision params).length ≤ 1 := by
    unfold execpolicyDecision
    split <;> simp
  unfold leadingDecisions
  rw [List.length_append]
  split
  · exact Nat.add_le_add (Nat.le_refl 2) hone
  · exact Nat.le_succ 2

/-- At most five options besides those of the network amendments. -/
def optionLimit (method : String) (params : Value) : Nat := 5 + (networkAmendments method params).length

/-- The options of a schema-valid request are never empty, and were drawn in a row. -/
theorem approvalOptions_offers {method : String} {params : Value} (subject : ApprovalSubject)
    (h : Shape.approvalParams method params = true) (b : B) :
    ∃ offer b', approvalOptions host method params subject b = (.ok offer, b') ∧
      Offers host b offer b' ∧ 0 < offer.1.length ∧
      offer.1.length ≤ optionLimit method params := by
  have hstart : Offers host b ([], ∅) b := ⟨rfl, rfl⟩
  obtain ⟨leading, c, hleading, hc, hcount⟩ :=
    addOptions_offers hstart (leadingDecisions_readable method params subject)
  obtain ⟨amended, d, hamended, hd, hmore⟩ :=
    addNetworkOptions_offers hc (networkAmendments_of_shape h)
  obtain ⟨offer, b', hclosing, hb', hlast⟩ := addOptions_offers hd closingDecisions_readable
  have hthree := leadingDecisions_length method params subject
  have htwo : closingDecisions.length = 2 := rfl
  have hzero : (([], ∅) : Offer).1.length = 0 := rfl
  refine ⟨offer, b', ?_, hb', by omega, ?_⟩
  · rw [approvalOptions, Program.bind_of_ok hleading, Program.bind_of_ok hamended]
    exact hclosing
  · unfold optionLimit
    omega

theorem oversizedReason_ok : ∃ reason, oversizedReason = .ok reason :=
  ⟨_, domain_text (isBlank_append (isBlank_append (isBlank_cons (by decide)) _) _)⟩

/-- Either there is a reason why nothing is offered, or the offered options make a request. -/
theorem offeredOptions_of_shape {method : String} {params : Value} (subject : ApprovalSubject)
    (unavailable : Option NonEmptyText) (h : Shape.approvalParams method params = true)
    (hids : (host.drawn .approvalOption (optionLimit method params) b).Nodup) :
    ∃ reason offer b', offeredOptions host method params subject unavailable b =
        (.ok (reason, offer), b') ∧
      (reason = none → offer.1 ≠ [] ∧ (offer.1.map ApprovalOption.id).Nodup) := by
  obtain ⟨oversized, hoversized⟩ := oversizedReason_ok
  obtain ⟨offer, b', hoffer, hdrawn, hnonempty, hlimit⟩ :=
    approvalOptions_offers (B := B) subject h b
  have hnodup : (offer.1.map ApprovalOption.id).Nodup := by
    rw [hdrawn.ids]
    exact hids.sublist (host.drawn_prefix .approvalOption hlimit b).sublist
  -- withheld details: one of the two reasons, and no options
  have hwithheld : ∀ reason, ∃ found offer b', (pure (some reason, ([], ∅)) :
      Hosting B (Option NonEmptyText × Offer)) b = (.ok (found, offer), b') ∧
      (found = none → offer.1 ≠ [] ∧ (offer.1.map ApprovalOption.id).Nodup) :=
    fun reason => ⟨some reason, ([], ∅), b, rfl, fun hnone => by cases hnone⟩
  unfold offeredOptions
  rw [hoversized]
  by_cases hsize : presentationBytes subject > maxApprovalPresentationBytes
  · rw [if_pos hsize]
    exact hwithheld oversized
  · rw [if_neg hsize]
    cases unavailable with
    | some reason => exact hwithheld reason
    | none =>
      simp only [Program.bind_apply, Program.ofExcept, hoffer, Program.ite_apply]
      split
      · exact ⟨some oversized, ([], ∅), b', rfl, fun hnone => by cases hnone⟩
      · exact ⟨none, offer, b', rfl, fun _ => ⟨List.ne_nil_of_length_pos hnonempty, hnodup⟩⟩

theorem actionable_ok (subject : ApprovalSubject) {options : List ApprovalOption}
    (hnonempty : options ≠ []) (hnodup : (options.map ApprovalOption.id).Nodup) :
    ∃ approval, ApprovalRequest.actionable subject options = .ok approval := by
  have hscan : firstDuplicate [] (options.map ApprovalOption.id) = none :=
    (firstDuplicate_eq_none_iff _ []).mpr ⟨hnodup, by simp⟩
  unfold ApprovalRequest.actionable
  rw [dif_neg hnonempty]
  split
  · next id hfound =>
    rw [hscan] at hfound
    cases hfound
  · exact ⟨_, rfl⟩

/-- The request can be answered, or it says why it cannot. -/
def Presented (result : Sourced PreparedApproval) : Prop :=
  ∃ prepared approval, result = .ok prepared ∧ prepared.request.payload = .approval approval ∧
    (approval.isActionable = true ∨ approval.unavailableReason.isSome = true)

/-- The request is one of the two approvals, its parameters and the cached item pass the schema,
the texts are not blank and the instant is one that a timestamp can have. -/
structure SchemaValid (method : String) (params : Value) (item : Option Value) : Prop where
  ofParams : Shape.approvalParams method params = true
  ofItem : ∀ value ∈ item, Shape.threadItem value = true
  namesHost : NamesHost params
  inRange : ∀ ms, params.get "startedAtMs" = some (.int ms) →
    -377705116800000000000 ≤ ms * 1000000 ∧ ms * 1000000 ≤ 253402300799999999999

/-- The approval of a file change whose item shows what would change. -/
def ShowsChanges (method : String) (item : Option Value) : Prop :=
  method = "item/fileChange/requestApproval" ∧ cachedChanges item ≠ []

namespace SchemaValid

variable {method : String} {params : Value} {item : Option Value}

theorem requestHead (h : SchemaValid method params item) :
    ∀ property ∈ Shape.requestHead, property params = true := by
  intro property hproperty
  have hparams := h.ofParams
  unfold Shape.approvalParams at hparams
  split at hparams
  · exact Shape.property_of_object hparams (List.mem_append_left _ hproperty)
  · split at hparams
    · exact Shape.property_of_object hparams (List.mem_append_left _ hproperty)
    · cases hparams

theorem stringField_ok (h : SchemaValid method params item) {field : String}
    (hfield : Shape.required field Shape.string ∈ Shape.requestHead) :
    ∃ text, stringField params field = .ok text := by
  obtain ⟨text, htext, -⟩ := Shape.string_of_required (h.requestHead _ hfield)
  exact ⟨text, htext⟩

/-- The instant is read exactly when it is written as an integer. -/
theorem startedAt (h : SchemaValid method params item) :
    (∃ ms requestedAt, params.get "startedAtMs" = some (.int ms) ∧
      i64Field params "startedAtMs" = .ok ms ∧
      domain (Timestamp.fromUnixTimestampNanos (ms * 1000000)) = .ok requestedAt) ∨
    (∀ ms, params.get "startedAtMs" ≠ some (.int ms)) ∧
      i64Field params "startedAtMs" = protocolError "startedAtMs must be an int64" := by
  have hnumber : Shape.required "startedAtMs" Shape.number params = true :=
    h.requestHead _ (by simp [Shape.requestHead])
  unfold Shape.required at hnumber
  cases hget : params.get "startedAtMs" with
  | none => simp [hget] at hnumber
  | some entry =>
    cases entry with
    | int ms =>
      left
      obtain ⟨hlow, hhigh⟩ := h.inRange ms hget
      have hi64 : -(2 ^ 63) ≤ ms ∧ ms < 2 ^ 63 := by omega
      refine ⟨ms, ⟨ms * 1000000, hlow, hhigh⟩, rfl, ?_, ?_⟩
      · simp only [i64Field, hget, Option.bind_some, Json.asI64, if_pos hi64]
      · simp only [Timestamp.fromUnixTimestampNanos, dif_pos (And.intro hlow hhigh)]
        rfl
    | float numeral =>
      right
      refine ⟨fun ms => nofun, ?_⟩
      unfold i64Field
      rw [hget]
      rfl
    | _ => simp [hget, Shape.number] at hnumber

theorem approvalSubject (h : SchemaValid method params item) :
    ShowsChanges method item ∧
        approvalSubject method params item = protocolError "kind must be a string" ∨
      ¬ ShowsChanges method item ∧
        ∃ presented, Hosting.approvalSubject method params item = .ok presented := by
  have hparams := h.ofParams
  unfold Shape.approvalParams at hparams
  unfold Hosting.approvalSubject ShowsChanges
  split at hparams
  · next hmethod =>
    right
    subst hmethod
    exact ⟨fun hshows => by simp at hshows, commandSubject_of_shape item hparams h.namesHost⟩
  · next hother =>
    split at hparams
    · next hmethod =>
      have hsubject := fileSubject_of_shape hparams h.ofItem
      rw [if_neg hother, if_pos hmethod]
      split at hsubject
      · next hnone => exact .inr ⟨fun hshows => hshows.2 hnone, hsubject⟩
      · next hsome => exact .inl ⟨⟨hmethod, hsome⟩, hsubject⟩
    · cases hparams

theorem approvalPrompt (h : SchemaValid method params item) :
    ∃ prompt, approvalPrompt method = .ok prompt ∧ isBlank prompt = false := by
  have hparams := h.ofParams
  unfold Shape.approvalParams at hparams
  unfold Hosting.approvalPrompt
  split at hparams
  · exact ⟨_, if_pos ‹_›, by decide⟩
  · next hother =>
    split at hparams
    · next hmethod =>
      rw [if_neg hother, if_pos hmethod]
      exact ⟨_, rfl, by decide⟩
    · cases hparams

end SchemaValid

/-- `prepare_approval` from the subject on. -/
theorem prepareApproval_of_subject {method : String} {params : Value} {item : Option Value}
    (h : SchemaValid method params item) (hids : (host.drawn .approvalOption (optionLimit method params) b).Nodup)
    {ms : Int} {requestedAt : Timestamp} {presented : ApprovalSubject × Option NonEmptyText}
    (hstarted : i64Field params "startedAtMs" = .ok ms)
    (hrequested : domain (Timestamp.fromUnixTimestampNanos (ms * 1000000)) = .ok requestedAt)
    (hsubject : approvalSubject method params item = .ok presented) (sessionId : SessionId) :
    Presented (prepareApproval host method params item sessionId b).1 := by
  obtain ⟨threadId, hthread⟩ : ∃ text, stringField params "threadId" = .ok text :=
    h.stringField_ok (by simp [Shape.requestHead])
  obtain ⟨turnId, hturn⟩ : ∃ text, stringField params "turnId" = .ok text :=
    h.stringField_ok (by simp [Shape.requestHead])
  obtain ⟨itemId, hitem⟩ : ∃ text, stringField params "itemId" = .ok text :=
    h.stringField_ok (by simp [Shape.requestHead])
  obtain ⟨prompt, hprompt, hblank⟩ := h.approvalPrompt
  obtain ⟨subject, unavailable⟩ := presented
  obtain ⟨reason, ⟨options, decisions⟩, b', hoffered, hoffer⟩ :=
    offeredOptions_of_shape subject unavailable h.ofParams hids
  have hrun : ∃ prepared approval b'', prepareApproval host method params item sessionId b =
      (.ok prepared, b'') ∧ prepared.request.payload = .approval approval := by
    unfold prepareApproval
    simp only [Program.bind_apply, Program.ofExcept, hthread, hturn, hitem, hstarted, hrequested,
      hsubject, hoffered, hprompt, domain_text hblank, newId, Program.update, Program.pure_apply]
    cases reason with
    | some reason => exact ⟨_, _, _, rfl, rfl⟩
    | none =>
      obtain ⟨hnonempty, hnodup⟩ := hoffer rfl
      obtain ⟨approval, hactionable⟩ := actionable_ok subject hnonempty hnodup
      simp only [hactionable, domain, Except.mapError]
      exact ⟨_, _, _, rfl, rfl⟩
  obtain ⟨prepared, approval, b'', hprepared, hpayload⟩ := hrun
  refine ⟨prepared, approval, by rw [hprepared], hpayload, ?_⟩
  -- an approval without options carries its reason
  cases hoptions : approval.options with
  | nil => exact .inr (approval.exclusive.mp hoptions)
  | cons option rest => exact .inl (by simp [ApprovalRequest.isActionable, hoptions])

/-- A schema-valid approval is presented exactly when its instant is written as an integer and
it is not a file change whose item shows what would change. -/
theorem prepareApproval_presented_iff (host : ProviderHost B) (b : B) (method : String)
    (params : Value) (item : Option Value) (sessionId : SessionId)
    (h : SchemaValid method params item) (hids : (host.drawn .approvalOption (optionLimit method params) b).Nodup) :
    Presented (prepareApproval host method params item sessionId b).1 ↔
      (∃ ms, params.get "startedAtMs" = some (.int ms)) ∧ ¬ ShowsChanges method item := by
  obtain ⟨threadId, hthread⟩ : ∃ text, stringField params "threadId" = .ok text :=
    h.stringField_ok (by simp [Shape.requestHead])
  obtain ⟨turnId, hturn⟩ : ∃ text, stringField params "turnId" = .ok text :=
    h.stringField_ok (by simp [Shape.requestHead])
  obtain ⟨itemId, hitem⟩ : ∃ text, stringField params "itemId" = .ok text :=
    h.stringField_ok (by simp [Shape.requestHead])
  have hrefused : ∀ e : CodexProviderSourceError, ¬ Presented (.error e) := by
    rintro e ⟨prepared, approval, hok, -⟩
    cases hok
  rcases h.startedAt with ⟨ms, requestedAt, hget, hstarted, hrequested⟩ | ⟨hfloat, hstarted⟩
  · rcases h.approvalSubject with ⟨hshows, hsubject⟩ | ⟨hhides, presented, hsubject⟩
    · have hresult : (prepareApproval host method params item sessionId b).1 =
          .error (.protocol "kind must be a string") := by
        unfold prepareApproval
        simp only [Program.bind_apply, Program.ofExcept, hthread, hturn, hitem, hstarted, hrequested,
          hsubject, protocolError]
      rw [hresult]
      exact ⟨fun hpresented => absurd hpresented (hrefused _), fun hgood => absurd hshows hgood.2⟩
    · exact ⟨fun _ => ⟨⟨ms, hget⟩, hhides⟩, fun _ =>
        prepareApproval_of_subject h hids hstarted hrequested hsubject sessionId⟩
  · have hresult : (prepareApproval host method params item sessionId b).1 =
        .error (.protocol "startedAtMs must be an int64") := by
      unfold prepareApproval
      simp only [Program.bind_apply, Program.ofExcept, hthread, hturn, hitem, hstarted, protocolError]
    rw [hresult]
    refine ⟨fun hpresented => absurd hpresented (hrefused _), ?_⟩
    rintro ⟨⟨ms, hget⟩, -⟩
    exact absurd hget (hfloat ms)

namespace Sample

def approvalParams : Value :=
  .object [
    ("threadId", .string Codex.Sample.thread), ("turnId", .string "t1"), ("itemId", .string "i1"),
    ("startedAtMs", .int 1000), ("reason", .string "Apply fix")]

/-- A change carries its kind as an object. -/
def fileChangeItem (changes : List Value) : Value :=
  .object [
    ("id", .string "i1"), ("type", .string "fileChange"), ("status", .string "inProgress"),
    ("changes", .array changes)]

def update : Value :=
  .object [
    ("path", .string "src/main.rs"), ("diff", .string "@@ -1 +1 @@"),
    ("kind", .object [("type", .string "update"), ("move_path", .null)])]

theorem schemaValid (changes : List Value) (h : changes.all Shape.fileUpdateChange = true) :
    SchemaValid "item/fileChange/requestApproval" approvalParams (some (fileChangeItem changes)) where
  ofParams := by decide +kernel
  ofItem := by
    rintro value hvalue
    cases hvalue
    exact h
  namesHost := by
    rintro context host hcontext -
    cases hcontext
  inRange := by
    intro ms hms
    cases hms
    decide

end Sample

/-- A file change whose details are not there is presented as unavailable. -/
theorem prepareApproval_without_changes :
    Presented (prepareApproval Codex.Sample.host "item/fileChange/requestApproval"
      Sample.approvalParams (some (Sample.fileChangeItem [])) (Ident.numbered .session 0) 0).1 := by
  have hids : (Codex.Sample.host.drawn .approvalOption (optionLimit
      "item/fileChange/requestApproval" Sample.approvalParams) 0).Nodup := by decide +kernel
  rw [prepareApproval_presented_iff _ _ _ _ _ _ (Sample.schemaValid [] rfl) hids]
  exact ⟨⟨1000, rfl⟩, fun hshows => hshows.2 (by decide +kernel)⟩

/-- An update that passes the schema ends the connection in an error. -/
theorem prepareApproval_of_update :
    SchemaValid "item/fileChange/requestApproval" Sample.approvalParams
      (some (Sample.fileChangeItem [Sample.update])) ∧
    (prepareApproval Codex.Sample.host "item/fileChange/requestApproval"
      Sample.approvalParams (some (Sample.fileChangeItem [Sample.update]))
      (Ident.numbered .session 0) 0).1 = .error (.protocol "kind must be a string") := by
  refine ⟨Sample.schemaValid [Sample.update] (by decide +kernel), ?_⟩
  rfl

end Hosting

end Codex

end AgentPulse
