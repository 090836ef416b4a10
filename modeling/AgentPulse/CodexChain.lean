import AgentPulse.CodexExchange

/-!
# Chains of page requests

The answer to one request of the worker can make it send another: the next page
of a catalog, or of the history of a thread. A chain is what one command leads
to when every answer is carried out. A catalog remembers the cursors it has
asked for; the history of a thread does not.
-/
namespace AgentPulse

namespace Codex

open Program (Preserves fail)
open Interleaved (Holds)
open Serde (Json)

/-- A request as it is handed to `send_control_request`. -/
structure Asked where
  expected : ExpectedResponse
  params : Value
  kind : PendingControl

namespace Asked

def cursor (self : Asked) : Option String := (self.params.get "cursor").bind Json.asStr

def catalogPage (cursor : String) (kind : PendingControl) : Asked :=
  ⟨.modelList, .object [("limit", .int 50), ("cursor", .string cursor)], kind⟩

def firstItems (session : SessionId) (threadId : String) : Asked :=
  ⟨.threadItemsList, .object [("threadId", .string threadId), ("limit", .int 100),
    ("sortDirection", .string "asc")], .historyItems session threadId⟩

def nextItems (session : SessionId) (threadId cursor : String) : Asked :=
  ⟨.threadItemsList, .object [("threadId", .string threadId), ("cursor", .string cursor),
    ("limit", .int 100), ("sortDirection", .string "asc")], .historyItems session threadId⟩

@[simp] theorem cursor_nextItems (session : SessionId) (threadId cursor : String) :
    (nextItems session threadId cursor).cursor = some cursor := rfl

end Asked

/-- The cursor after a page of the history. -/
def historyCursor (page : Value) : Option String :=
  ((page.get "data").bind Json.asArray).bind fun _ => (page.get "nextCursor").bind Json.asStr

/-- The page of a catalog that follows, with all that was read so far. -/
def followPage (result : Value) (models : List Value) (cursors : List String)
    (kind : List Value → List String → PendingControl) : Option Asked :=
  match Work.catalogPage result models cursors with
  | .next cursor models cursors => some (.catalogPage cursor (kind models cursors))
  | .report _ | .whole _ => none

/-- The request that follows from an answer. `started` is the session that the resumption of
a thread has started, if the thread was not tracked before. -/
def followUp (started : Option SessionId) (result : Value) : PendingControl → Option Asked
  | .models session models cursors => followPage result models cursors (.models session)
  | .selectModel session model effort models cursors =>
    followPage result models cursors (.selectModel session model effort)
  | .resumeThread _ =>
    (nestedId result "thread").bind fun threadId =>
      started.map fun session => .firstItems session threadId
  | .historyItems session threadId => (historyCursor result).map (.nextItems session threadId)
  | _ => none

/-- The requests that follow one another when the answers are these. -/
def chain (started : Option SessionId) : PendingControl → List Value → List Asked
  | _, [] => []
  | kind, result :: rest =>
    match followUp started result kind with
    | none => []
    | some asked => asked :: chain started asked.kind rest

/-- The request with which a command for the catalog or the history of a thread begins. -/
def firstRequest (command : AgentCommand) : Option Asked :=
  match command.payload with
  | .listModels => some ⟨.modelList, pageLimit, .models command.sessionId [] []⟩
  | .selectModel model effort =>
    some ⟨.modelList, pageLimit,
      .selectModel command.sessionId model.asStr (effort.map NonEmptyText.asStr) [] []⟩
  | .resumeThread threadId =>
    some ⟨.threadResume, .object [("threadId", .string threadId.asStr)],
      .resumeThread command.sessionId⟩
  | _ => none

namespace Work

variable {B : Type} (host : ProviderHost B) (route : ApprovalRoute)

def ask (schema : ProtocolSchema) (asked : Asked) : Work B Unit :=
  sendControlRequest schema asked.expected asked.params asked.kind

/-- What is done with a catalog page apart from asking for the next one. -/
def readCatalog (session : SessionId) (result : Value) (models : List Value) (cursors : List String)
    (whole : Value → Work B Unit) : Work B Unit :=
  match catalogPage result models cursors with
  | .report text => report host route session text
  | .next _ _ _ => pure ()
  | .whole models => whole (.object [("data", .array models)])

/-- The thread of an answer is tracked from here on; its session, if it was not before. -/
def resumedSession (result : Value) : Work B (Option SessionId) := do
  let threadId ← ofSourced (responseThread result "thread/resume omitted thread.id")
  let tracked ← readMapper host route fun m => m.isThreadTracked threadId
  onMapping host route (Mapping.resumeThread host result)
  if tracked then pure none
  else
    match ← readMapper host route fun m => m.sessionIdForThread threadId with
    | none => fail (.source (.protocol "resumed thread was not tracked"))
    | some session => pure (some session)

/-- What an answer does without sending anything. -/
def carryOut (expected : ExpectedResponse) (result : Value) :
    PendingControl → Work B (Option SessionId)
  | .models session models cursors => do
    readCatalog host route session result models cursors (showModels host route session)
    pure none
  | .selectModel session model effort models cursors => do
    readCatalog host route session result models cursors
      (modelSelected host route session model effort)
    pure none
  | .resumeThread _ => resumedSession host route result
  | .historyItems _ threadId =>
    match (result.get "data").bind Json.asArray with
    | none => fail (.source (.protocol "thread/items/list omitted data"))
    | some data => do
      onMapping host route (Mapping.publishHistoryItems host threadId data)
      pure none
  | .implementPlan session threadId => do
    planAccepted host route session threadId
    pure none
  | .report session => do
    let currentCwd ← readMapper host route fun m => m.cwdForSession session
    let text ← ofSourced (formatCatalog expected result currentCwd)
    report host route session text
    pure none
  | .observeThread _ _ => do
    onMapping host route (Mapping.resumeThread host result)
    pure none
  | .startThread | .forkThread => do
    let threadId ← ofSourced (responseThread result "thread response omitted thread.id")
    onMapping host route (Mapping.startThread host threadId result)
    pure none
  | .turnStart session threadId prompt => do
    turnAccepted host route session threadId prompt
    pure none
  | .silent _ => pure none

/-- What a command does before it sends its first request. -/
def prepare (command : AgentCommand) : Work B Unit := do
  let _ ← commandContext host route command.sessionId
  match command.payload with
  | .resumeThread threadId => onMapping host route (Mapping.trackDiscoveredThread threadId.asStr)
  | _ => pure ()

def askNext (schema : ProtocolSchema) : Option Asked → Work B Unit
  | none => pure ()
  | some asked => ask schema asked

theorem runCommand_eq (schema : ProtocolSchema) {command : AgentCommand} {first : Asked}
    (h : firstRequest command = some first) :
    runCommand host schema route command =
      prepare host route command >>= fun _ => ask schema first := by
  unfold firstRequest at h
  unfold runCommand prepare
  dsimp only
  rw [Program.bind_assoc]
  congr 1
  funext context
  split at h
  · next hpayload =>
    cases h
    rw [hpayload]
    rfl
  · next model effort hpayload =>
    cases h
    rw [hpayload]
    rfl
  · next threadId hpayload =>
    cases h
    rw [hpayload]
    rfl
  · cases h

theorem readPage_eq (schema : ProtocolSchema) (session : SessionId) (result : Value)
    (models : List Value) (cursors : List String)
    (kind : List Value → List String → PendingControl) (whole : Value → Work B Unit) :
    readPage host schema route session result models cursors kind whole =
      readCatalog host route session result models cursors whole >>= fun _ =>
        askNext schema (followPage result models cursors kind) := by
  unfold readPage readCatalog followPage
  cases catalogPage result models cursors with
  | report text => exact (Program.bind_unit _).symm
  | next cursor models cursors => rfl
  | whole models => exact (Program.bind_unit _).symm

theorem threadResumed_eq (schema : ProtocolSchema) (source : SessionId) (result : Value) :
    threadResumed host schema route result =
      resumedSession host route result >>= fun started =>
        askNext schema (followUp started result (.resumeThread source)) := by
  unfold threadResumed resumedSession
  cases hthread : responseThread result "thread/resume omitted thread.id" with
  | error error => rfl
  | ok threadId =>
    have hid : nestedId result "thread" = some threadId := by
      unfold responseThread at hthread
      cases hnested : nestedId result "thread" with
      | none =>
        rw [hnested] at hthread
        cases hthread
      | some found =>
        rw [hnested] at hthread
        cases hthread
        rfl
    have hread : (ofSourced (.ok threadId) : Work B String) = pure threadId := rfl
    simp only [hread, Program.pure_bind, Program.bind_assoc]
    congr 1
    funext tracked
    congr 1
    funext _
    cases tracked with
    | true => simp [followUp, askNext, Program.pure_bind]
    | false =>
      simp only [Bool.false_eq_true, if_false, Program.bind_assoc]
      congr 1
      funext session
      cases session with
      | none => rfl
      | some session => simp [followUp, hid, Program.pure_bind, askNext, ask, Asked.firstItems]

/-- What follows an answer is sent when everything else about it is done. -/
theorem controlResponse_eq (schema : ProtocolSchema) (expected : ExpectedResponse) (result : Value)
    (kind : PendingControl) :
    controlResponse host schema route expected result kind =
      carryOut host route expected result kind >>= fun started =>
        askNext schema (followUp started result kind) := by
  cases kind with
  | models session models cursors =>
    simp only [controlResponse, carryOut, readPage_eq, Program.bind_assoc, Program.pure_bind]
    rfl
  | selectModel session model effort models cursors =>
    simp only [controlResponse, carryOut, readPage_eq, Program.bind_assoc, Program.pure_bind]
    rfl
  | resumeThread source => exact threadResumed_eq host route schema source result
  | historyItems session threadId =>
    unfold controlResponse carryOut historyPage
    cases hdata : (result.get "data").bind Json.asArray with
    | none => rfl
    | some data =>
      simp only [Program.bind_assoc, Program.pure_bind, followUp, historyCursor, hdata,
        Option.bind_some]
      congr 1
      funext _
      cases (result.get "nextCursor").bind Json.asStr with
      | none => rfl
      | some cursor => rfl
  | implementPlan session threadId =>
    simp only [carryOut, Program.bind_assoc, Program.pure_bind, followUp, askNext, Program.bind_unit]
    rfl
  | report session =>
    simp only [carryOut, Program.bind_assoc, Program.pure_bind, followUp, askNext, Program.bind_unit]
    rfl
  | observeThread session threadId =>
    simp only [carryOut, Program.bind_assoc, Program.pure_bind, followUp, askNext, Program.bind_unit]
    rfl
  | startThread | forkThread =>
    simp only [carryOut, Program.bind_assoc, Program.pure_bind, followUp, askNext, Program.bind_unit]
    rfl
  | turnStart session threadId prompt =>
    simp only [carryOut, Program.bind_assoc, Program.pure_bind, followUp, askNext, Program.bind_unit]
    rfl
  | silent session => rfl

/-- The schema that lets no request through. -/
def mute : ProtocolSchema where
  clientRequest _ := some ""
  serverNotification _ := none
  serverRequest _ := none
  jsonrpcResponse _ := none
  jsonrpcError _ := none
  response _ _ := none
  commandApprovalResponse _ := none
  fileApprovalResponse _ := none
  userInputResponse _ := none

variable {host route}

theorem indifferent_pending (pending : Std.ExtTreeMap RequestId PendingControl) :
    Indifferent host mute route fun w : Worker B => w.pending = pending where
  mapping _ _ hw := hw
  writes _ _ hw := hw
  controls _ _ hw := hw
  record _ _ hw := hw
  foreign step w hw := by
    have hsame := congrArg Exchange.pending (foreign_exchange host route step w)
    exact hsame.trans hw
  asks _ _ _ := ⟨fun _ hs => hs⟩

/-- What is carried out leaves the unanswered requests as they are. -/
theorem carryOut_pending (expected : ExpectedResponse) (result : Value) (kind : PendingControl)
    (pending : Std.ExtTreeMap RequestId PendingControl) :
    Preserves (Holds fun w : Worker B => w.pending = pending)
      (carryOut host route expected result kind) := by
  have h : Indifferent host mute route fun w : Worker B => w.pending = pending :=
    indifferent_pending pending
  have hread : ∀ session models cursors whole,
      (∀ value, Preserves (Holds fun w : Worker B => w.pending = pending) (whole value)) →
      Preserves (Holds fun w : Worker B => w.pending = pending)
        (readCatalog host route session result models cursors whole) := by
    intro session models cursors whole hwhole
    unfold readCatalog
    cases catalogPage result models cursors with
    | report text => exact keeps_report h.quiet _ _
    | next cursor models cursors => exact Preserves.pure _
    | whole models => exact hwhole _
  cases kind with
  | models session models cursors =>
    exact Preserves.bind (hread _ _ _ _ fun value => keeps_showModels h.quiet session value)
      fun _ => Preserves.pure _
  | selectModel session model effort models cursors =>
    exact Preserves.bind
      (hread _ _ _ _ fun value => keeps_modelSelected h.quiet session model effort value)
      fun _ => Preserves.pure _
  | resumeThread source =>
    apply Preserves.bind (Preserves.ofExcept _)
    intro threadId
    apply Preserves.bind (keeps_onMapping h.quiet _)
    intro tracked
    apply Preserves.bind (keeps_onMapping h.quiet _)
    intro _
    apply Preserves.ite (fun _ => Preserves.pure _)
    intro _
    apply Preserves.bind (keeps_onMapping h.quiet _)
    intro session
    cases session with
    | none => exact Preserves.fail _
    | some session => exact Preserves.pure _
  | historyItems session threadId =>
    simp only [carryOut]
    split
    · exact Preserves.fail _
    · exact Preserves.bind (keeps_onMapping h.quiet _) fun _ => Preserves.pure _
  | implementPlan session threadId =>
    apply Preserves.bind
    · apply Preserves.bind (h.keepsNote _)
      intro _
      apply Preserves.bind (h.keepsControls _)
      intro _
      exact Preserves.bind (keeps_onMapping h.quiet _) fun _ => keeps_onMapping h.quiet _
    · exact fun _ => Preserves.pure _
  | report session =>
    apply Preserves.bind (keeps_onMapping h.quiet _)
    intro currentCwd
    apply Preserves.bind (Preserves.ofExcept _)
    intro text
    exact Preserves.bind (keeps_report h.quiet _ _) fun _ => Preserves.pure _
  | observeThread session threadId =>
    exact Preserves.bind (keeps_onMapping h.quiet _) fun _ => Preserves.pure _
  | startThread | forkThread =>
    apply Preserves.bind (Preserves.ofExcept _)
    intro threadId
    exact Preserves.bind (keeps_onMapping h.quiet _) fun _ => Preserves.pure _
  | turnStart session threadId prompt =>
    exact Preserves.bind (h.keepsTurnAccepted session threadId prompt) fun _ => Preserves.pure _
  | silent session => exact Preserves.pure _

end Work

theorem catalogPage_next {result : Value} {models models' : List Value} {cursors cursors' : List String}
    {cursor : String} (h : Work.catalogPage result models cursors = .next cursor models' cursors') :
    cursors' = cursors ++ [cursor] ∧ cursor ∉ cursors ∧ cursors.length < 20 := by
  unfold Work.catalogPage at h
  dsimp only at h
  split at h
  · cases h
  · split at h
    · split at h
      · cases h
      · next hnot =>
        cases h
        obtain ⟨hlength, hmem⟩ := not_or.mp hnot
        exact ⟨rfl, hmem, by omega⟩
    · cases h

/-- The cursors that a catalog request remembers. -/
def PendingControl.seen : PendingControl → Option (List String)
  | .models _ _ cursors | .selectModel _ _ _ _ cursors => some cursors
  | _ => none

theorem followPage_some {result : Value} {models : List Value} {cursors : List String}
    {kind : List Value → List String → PendingControl} {asked : Asked}
    (h : followPage result models cursors kind = some asked) :
    ∃ cursor models', asked = .catalogPage cursor (kind models' (cursors ++ [cursor])) ∧
      cursor ∉ cursors ∧ cursors.length < 20 := by
  unfold followPage at h
  cases hpage : Work.catalogPage result models cursors with
  | report text =>
    rw [hpage] at h
    cases h
  | whole models =>
    rw [hpage] at h
    cases h
  | next cursor models' cursors' =>
    rw [hpage] at h
    cases h
    obtain ⟨rfl, hnew, hlength⟩ := catalogPage_next hpage
    exact ⟨cursor, models', rfl, hnew, hlength⟩

/-- The next page of a catalog has a cursor that was not requested before. -/
theorem followUp_catalog {started : Option SessionId} {result : Value} {kind : PendingControl}
    {seen : List String} {asked : Asked} (hseen : kind.seen = some seen)
    (h : followUp started result kind = some asked) :
    ∃ cursor, asked.cursor = some cursor ∧ asked.kind.seen = some (seen ++ [cursor]) ∧
      cursor ∉ seen ∧ seen.length < 20 := by
  cases kind with
  | models session models cursors =>
    cases hseen
    obtain ⟨cursor, models', rfl, hnew, hlength⟩ := followPage_some h
    exact ⟨cursor, rfl, rfl, hnew, hlength⟩
  | selectModel session model effort models cursors =>
    cases hseen
    obtain ⟨cursor, models', rfl, hnew, hlength⟩ := followPage_some h
    exact ⟨cursor, rfl, rfl, hnew, hlength⟩
  | _ => cases hseen

theorem chain_catalog {started : Option SessionId} {kind : PendingControl} {seen : List String}
    (hseen : kind.seen = some seen) (hnodup : seen.Nodup) (results : List Value) :
    (seen ++ (chain started kind results).filterMap Asked.cursor).Nodup ∧
      (chain started kind results).length ≤ 20 - seen.length := by
  induction results generalizing kind seen with
  | nil => simpa [chain] using hnodup
  | cons result rest ih =>
    unfold chain
    cases hfollow : followUp started result kind with
    | none => simpa using hnodup
    | some asked =>
      obtain ⟨cursor, hcursor, hnext, hnew, hlength⟩ := followUp_catalog hseen hfollow
      have hsnoc : (seen ++ [cursor]).Nodup := by
        rw [List.nodup_append]
        refine ⟨hnodup, List.nodup_singleton _, ?_⟩
        intro a ha b hb hab
        rw [List.mem_singleton.mp hb] at hab
        exact hnew (hab ▸ ha)
      obtain ⟨hrest, hbound⟩ := ih hnext hsnoc
      constructor
      · simpa [hcursor, List.append_assoc] using hrest
      · simp only [List.length_append, List.length_singleton] at hbound
        simp only [List.length_cons]
        omega

/-- The cursors of pages of the history, up to the first page without one. -/
def pageCursors : List Value → List String
  | [] => []
  | page :: rest =>
    match historyCursor page with
    | none => []
    | some cursor => cursor :: pageCursors rest

/-- The history of a thread asks for every cursor it is given. -/
theorem chain_items (started : Option SessionId) (session : SessionId) (threadId : String)
    (pages : List Value) :
    (chain started (.historyItems session threadId) pages).map Asked.cursor =
      (pageCursors pages).map some := by
  induction pages with
  | nil => rfl
  | cons page rest ih =>
    unfold chain pageCursors
    cases hcursor : historyCursor page with
    | none => simp [followUp, hcursor]
    | some cursor =>
      have hkind : (Asked.nextItems session threadId cursor).kind = .historyItems session threadId :=
        rfl
      simpa [followUp, hcursor, hkind] using ih

theorem pageCursors_all {pages : List Value} (h : ∀ page ∈ pages, (historyCursor page).isSome) :
    pageCursors pages = pages.filterMap historyCursor ∧ (pageCursors pages).length = pages.length := by
  induction pages with
  | nil => exact ⟨rfl, rfl⟩
  | cons page rest ih =>
    obtain ⟨cursor, hcursor⟩ := Option.isSome_iff_exists.mp (h page (by simp))
    obtain ⟨hlist, hlength⟩ := ih fun page hpage => h page (by simp [hpage])
    constructor
    · simp [pageCursors, hcursor, hlist]
    · simp [pageCursors, hcursor, hlength]

theorem pageCursors_stop {page : Value} (h : historyCursor page = none) (pages rest : List Value) :
    pageCursors (pages ++ page :: rest) = pageCursors pages := by
  induction pages with
  | nil => simp [pageCursors, h]
  | cons first pages ih =>
    simp only [List.cons_append, pageCursors]
    cases historyCursor first with
    | none => rfl
    | some cursor => simp [ih]

/-- The answers of a stream, as far as they have come. -/
def firstAnswers (answers : Nat → Value) (n : Nat) : List Value := (List.range n).map answers

/-- Some page has no cursor, and the cursors of the pages before it differ. -/
def PagesEnd (pages : Nat → Value) : Prop :=
  ∃ n, historyCursor (pages n) = none ∧
    ∀ i j, i < j → j < n → historyCursor (pages i) ≠ historyCursor (pages j)

/-- Up to the first page without a cursor all pages have one. -/
theorem firstAnswers_some {pages : Nat → Value} {n : Nat}
    (h : ∀ i < n, historyCursor (pages i) ≠ none) :
    ∀ page ∈ firstAnswers pages n, (historyCursor page).isSome := by
  intro page hpage
  obtain ⟨i, hi, rfl⟩ := List.mem_map.mp hpage
  exact Option.isSome_iff_ne_none.mpr (h i (List.mem_range.mp hi))

theorem nodup_pageCursors {pages : Nat → Value} {n : Nat}
    (h : ∀ i < n, historyCursor (pages i) ≠ none) :
    (pageCursors (firstAnswers pages n)).Nodup ↔
      ∀ i j, i < j → j < n → historyCursor (pages i) ≠ historyCursor (pages j) := by
  rw [(pageCursors_all (firstAnswers_some h)).1]
  unfold firstAnswers
  rw [List.filterMap_map]
  constructor
  · intro hnodup i j hij hj heq
    obtain ⟨cursor, hcursor⟩ := Option.ne_none_iff_exists'.mp (h i (hij.trans hj))
    have hpairs := List.pairwise_filterMap.mp hnodup
    have hpair := List.pairwise_iff_getElem.mp hpairs i j (by simpa using hij.trans hj)
      (by simpa using hj) hij cursor (by simp [hcursor]) cursor (by simp [← heq, hcursor])
    exact hpair rfl
  · intro hdistinct
    apply List.pairwise_filterMap.mpr
    apply List.pairwise_iff_getElem.mpr
    intro i j hi hj hij a ha b hb hab
    have hne := hdistinct i j hij (by simpa using hj)
    simp only [List.getElem_range, Function.comp_apply] at ha hb
    exact hne (ha.trans (hab ▸ hb.symm))

/-- The chain of the history over a stream of pages is bounded and asks for no cursor twice
exactly when the pages end before they repeat one. -/
theorem pages_end_iff (pages : Nat → Value) :
    ((∃ bound, ∀ n, (pageCursors (firstAnswers pages n)).length ≤ bound) ∧
      ∀ n, (pageCursors (firstAnswers pages n)).Nodup) ↔ PagesEnd pages := by
  constructor
  · rintro ⟨⟨bound, hbound⟩, hnodup⟩
    have hex : ∃ n, historyCursor (pages n) = none := by
      by_contra hall
      have hsome : ∀ i < bound + 1, historyCursor (pages i) ≠ none :=
        fun i _ hi => hall ⟨i, hi⟩
      have hlength := (pageCursors_all (firstAnswers_some hsome)).2
      have hle := hbound (bound + 1)
      rw [hlength] at hle
      simp [firstAnswers] at hle
    refine ⟨Nat.find hex, Nat.find_spec hex, ?_⟩
    exact (nodup_pageCursors fun i hi => Nat.find_min hex hi).mp (hnodup _)
  · rintro ⟨last, hlast, hdistinct⟩
    have hex : ∃ n, historyCursor (pages n) = none := ⟨last, hlast⟩
    have hle : Nat.find hex ≤ last := Nat.find_min' hex hlast
    have hstop : ∀ n, ∃ m ≤ Nat.find hex,
        pageCursors (firstAnswers pages n) = pageCursors (firstAnswers pages m) := by
      intro n
      by_cases hn : n ≤ Nat.find hex
      · exact ⟨n, hn, rfl⟩
      · refine ⟨Nat.find hex, le_rfl, ?_⟩
        obtain ⟨k, rfl⟩ := Nat.exists_eq_add_of_lt (not_le.mp hn)
        have hsplit : firstAnswers pages (Nat.find hex + k + 1) =
            firstAnswers pages (Nat.find hex) ++ pages (Nat.find hex) ::
              (List.range k).map fun i => pages (Nat.find hex + (i + 1)) := by
          unfold firstAnswers
          rw [Nat.add_assoc, List.range_add, List.map_append, List.range_succ_eq_map]
          simp [Function.comp_def]
        rw [hsplit, pageCursors_stop (Nat.find_spec hex)]
    constructor
    · refine ⟨Nat.find hex, fun n => ?_⟩
      obtain ⟨m, hm, heq⟩ := hstop n
      rw [heq, (pageCursors_all (firstAnswers_some fun i hi =>
        Nat.find_min hex (lt_of_lt_of_le hi hm))).2]
      simpa [firstAnswers] using hm
    · intro n
      obtain ⟨m, hm, heq⟩ := hstop n
      rw [heq]
      apply (nodup_pageCursors fun i hi => Nat.find_min hex (lt_of_lt_of_le hi hm)).mpr
      exact fun i j hij hj => hdistinct i j hij (lt_of_lt_of_le hj (hm.trans hle))

/-- Over a stream of answers only boundedly many requests follow, and no cursor is requested
twice. -/
def Ends (started : Option SessionId) (kind : PendingControl) (answers : Nat → Value) : Prop :=
  (∃ bound, ∀ n, (chain started kind (firstAnswers answers n)).length ≤ bound) ∧
    ∀ n, ((chain started kind (firstAnswers answers n)).filterMap Asked.cursor).Nodup

/-- The history that the command loads, if it loads one, ends before it repeats a cursor. -/
def HistoryEnds (started : Option SessionId) (answers : Nat → Value) (command : AgentCommand) :
    Prop :=
  match command.payload with
  | .resumeThread _ => started = none ∨ nestedId (answers 0) "thread" = none ∨
      PagesEnd fun n => answers (n + 1)
  | _ => True

theorem ends_catalog (started : Option SessionId) {kind : PendingControl} (hkind : kind.seen = some [])
    (answers : Nat → Value) : Ends started kind answers := by
  constructor
  · exact ⟨20, fun n => (chain_catalog hkind List.nodup_nil (firstAnswers answers n)).2⟩
  · exact fun n => (chain_catalog hkind List.nodup_nil (firstAnswers answers n)).1

theorem firstAnswers_succ (answers : Nat → Value) (n : Nat) :
    firstAnswers answers (n + 1) = answers 0 :: firstAnswers (fun n => answers (n + 1)) n := by
  unfold firstAnswers
  rw [List.range_succ_eq_map]
  simp [Function.comp_def]

/-- A resumption that starts a session leads to the pages of its history. -/
theorem chain_resumed (session source : SessionId) {threadId : String} {answers : Nat → Value}
    (hid : nestedId (answers 0) "thread" = some threadId) (n : Nat) :
    chain (some session) (.resumeThread source) (firstAnswers answers (n + 1)) =
      .firstItems session threadId :: chain (some session) (.historyItems session threadId)
        (firstAnswers (fun n => answers (n + 1)) n) := by
  rw [firstAnswers_succ]
  simp [chain, followUp, hid, Asked.firstItems]

theorem cursors_items (started : Option SessionId) (session : SessionId) (threadId : String)
    (pages : List Value) :
    (chain started (.historyItems session threadId) pages).filterMap Asked.cursor =
        pageCursors pages ∧
      (chain started (.historyItems session threadId) pages).length =
        (pageCursors pages).length := by
  have hmap := chain_items started session threadId pages
  constructor
  · have hcursors := congrArg (List.filterMap id) hmap
    simpa [List.filterMap_map] using hcursors
  · simpa using congrArg List.length hmap

theorem ends_resumed_iff {session source : SessionId} {threadId : String} {answers : Nat → Value}
    (hid : nestedId (answers 0) "thread" = some threadId) :
    Ends (some session) (.resumeThread source) answers ↔ PagesEnd fun n => answers (n + 1) := by
  rw [← pages_end_iff]
  have hitems := cursors_items (some session) session threadId
  have hchain := chain_resumed session source hid
  have hnone : (Asked.firstItems session threadId).cursor = none := rfl
  constructor
  · rintro ⟨⟨bound, hbound⟩, hnodup⟩
    constructor
    · refine ⟨bound, fun n => ?_⟩
      have hle := hbound (n + 1)
      rw [hchain, List.length_cons, (hitems _).2] at hle
      omega
    · intro n
      have h := hnodup (n + 1)
      rw [hchain, List.filterMap_cons_none hnone, (hitems _).1] at h
      exact h
  · rintro ⟨⟨bound, hbound⟩, hnodup⟩
    constructor
    · refine ⟨bound + 1, fun n => ?_⟩
      cases n with
      | zero => exact Nat.zero_le _
      | succ n =>
        rw [hchain, List.length_cons, (hitems _).2]
        exact Nat.succ_le_succ (hbound n)
    · intro n
      cases n with
      | zero => exact List.nodup_nil
      | succ n =>
        rw [hchain, List.filterMap_cons_none hnone, (hitems _).1]
        exact hnodup n

/-- Nothing follows a resumption that starts no session. -/
theorem ends_unstarted {started : Option SessionId} {source : SessionId} {answers : Nat → Value}
    (h : started = none ∨ nestedId (answers 0) "thread" = none) :
    Ends started (.resumeThread source) answers := by
  have hchain : ∀ n, chain started (.resumeThread source) (firstAnswers answers n) = [] := by
    intro n
    cases n with
    | zero => rfl
    | succ n =>
      rw [firstAnswers_succ]
      rcases h with rfl | hnone
      · cases hid : nestedId (answers 0) "thread" <;> simp [chain, followUp, hid]
      · simp [chain, followUp, hnone]
  constructor
  · exact ⟨0, fun n => by simp [hchain]⟩
  · intro n
    simp [hchain]

/-- The worker sends what the chain says: a command its first request, an answer the one that
follows it, and carrying the answer out sends nothing. The chain of a command ends, without
asking for a cursor twice, exactly when the history it loads does. -/
theorem chain_ends_iff {B : Type} (host : ProviderHost B) (schema : ProtocolSchema)
    (route : ApprovalRoute) (command : AgentCommand) {first : Asked}
    (hfirst : firstRequest command = some first) (started : Option SessionId)
    (answers : Nat → Value) :
    (Ends started first.kind answers ↔ HistoryEnds started answers command) ∧
      Work.runCommand host schema route command =
        (Work.prepare host route command >>= fun _ => Work.ask schema first) ∧
      (∀ expected result kind, Work.controlResponse host schema route expected result kind =
        Work.carryOut host route expected result kind >>= fun started =>
          Work.askNext schema (followUp started result kind)) ∧
      ∀ expected result kind pending, Preserves (Holds fun w : Worker B => w.pending = pending)
        (Work.carryOut host route expected result kind) := by
  refine ⟨?_, Work.runCommand_eq host route schema hfirst, Work.controlResponse_eq host route schema,
    Work.carryOut_pending⟩
  unfold firstRequest at hfirst
  unfold HistoryEnds
  split at hfirst
  · next hpayload =>
    cases hfirst
    rw [hpayload]
    exact iff_of_true (ends_catalog started rfl answers) trivial
  · next model effort hpayload =>
    cases hfirst
    rw [hpayload]
    exact iff_of_true (ends_catalog started rfl answers) trivial
  · next threadId hpayload =>
    cases hfirst
    rw [hpayload]
    dsimp only
    cases started with
    | none => exact iff_of_true (ends_unstarted (.inl rfl)) (.inl rfl)
    | some session =>
      cases hid : nestedId (answers 0) "thread" with
      | none => exact iff_of_true (ends_unstarted (.inr hid)) (.inr (.inl rfl))
      | some found =>
        rw [ends_resumed_iff hid]
        simp
  · cases hfirst

namespace Sample

def resumeThread : AgentCommand :=
  ⟨Ident.numbered .command 0, session, Ident.numbered .channel 0, AgentPulse.Sample.instant,
    .resumeThread ⟨thread, by decide⟩⟩

/-- A page of the history that names the same page again. -/
def samePage : Value := .object [("data", .array []), ("nextCursor", .string "c")]

def lastPage : Value := .object [("data", .array [])]

/-- The thread is resumed, and all of its pages are this one. -/
def historyOf (page : Value) : Nat → Value
  | 0 => resumeResult []
  | _ + 1 => page

def answerTo (id : Int) (result : Value) : Work.Round :=
  ⟨false, .text (.ok (.object [("id", .int id), ("result", result)])), false⟩

/-- The worker before it knows the thread; the phone resumes it. -/
def resuming : Interleaved (Worker Nat) (Foreign Nat) :=
  (Work.begin host .observer ⟨{ worker .new with mapping := empty }, [[.accept resumeThread]]⟩).2

/-- The resumption and three pages, each with the same cursor. -/
def samePages : List Work.Round :=
  [⟨false, .timeout, false⟩, answerTo 1 (resumeResult []), answerTo 2 samePage, answerTo 3 samePage,
    answerTo 4 samePage]

end Sample

/-- One page suffices to end the chain. -/
theorem chain_ends_lastPage :
    Ends (some Sample.session) (.resumeThread Sample.session) (Sample.historyOf Sample.lastPage) :=
  (chain_ends_iff Sample.host Sample.schema .observer Sample.resumeThread rfl
    (some Sample.session) (Sample.historyOf Sample.lastPage)).1.mpr
      (.inr (.inr ⟨0, by decide +kernel, by simp⟩))

/-- A server that always names the same page is asked for it again and again. -/
theorem chain_repeats :
    ¬ Ends (some Sample.session) (.resumeThread Sample.session) (Sample.historyOf Sample.samePage) ∧
      (chain (some Sample.session) (.resumeThread Sample.session)
        (firstAnswers (Sample.historyOf Sample.samePage) 4)).map Asked.cursor =
          [none, some "c", some "c", some "c"] ∧
      (Work.afterRounds Sample.host Sample.schema .observer 3 Sample.samePages
        Sample.resuming).any (fun s => s.state.protocol.nextRequestId == 6 &&
          s.state.pending.contains (.number 5)) = true := by
  have hcursor : ∀ n, historyCursor (Sample.historyOf Sample.samePage (n + 1)) = some "c" := by
    intro n
    show historyCursor Sample.samePage = some "c"
    decide +kernel
  refine ⟨?_, by decide +kernel, by decide +kernel⟩
  intro hends
  have hid : nestedId (Sample.historyOf Sample.samePage 0) "thread" = some Sample.thread := by
    decide +kernel
  obtain ⟨n, hnone, -⟩ := (ends_resumed_iff hid).mp hends
  rw [hcursor] at hnone
  cases hnone

end Codex

end AgentPulse
