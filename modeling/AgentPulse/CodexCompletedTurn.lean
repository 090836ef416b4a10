import AgentPulse.CodexActiveTurn

/-!
# Completed turns

The notifications of a turn that is remembered as complete are dropped. The
other writers of the running turn do not ask whether the turn is complete: a
server request takes over an idle thread, and a resumed payload is believed.
-/
namespace AgentPulse

namespace Codex

open Std (ExtTreeMap)
open Program (Preserves bind_apply)
open Serde (Json)

namespace Mapping

variable {B : Type} {host : ProviderHost B} {thread turn : String}

/-- The end of a turn leaves its thread idle. -/
theorem finishTurn_idle {s s' : MapperState B} {completed : Value} {d : MappingDisposition}
    (h : finishTurn host thread turn completed s = (.ok d, s')) :
    s'.mapper.activeTurn thread = none := by
  obtain ⟨turnStatus, s₁, -, h⟩ := Program.bind_eq_ok h
  obtain ⟨completedAt, s₂, -, h⟩ := Program.bind_eq_ok h
  obtain ⟨timestamp, s₃, -, h⟩ := Program.bind_eq_ok h
  obtain ⟨mapping, s₄, -, h⟩ := Program.bind_eq_ok h
  obtain ⟨outcome, s₅, -, h⟩ := Program.bind_eq_ok h
  obtain ⟨u₆, s₆, -, h⟩ := Program.bind_eq_ok h
  obtain ⟨u₇, s₇, -, h⟩ := Program.bind_eq_ok h
  obtain ⟨u₈, s₈, hidle, h⟩ := Program.bind_eq_ok h
  cases hidle
  cases h
  show ((s₇.mapper.updateThread thread _).threads[thread]?).bind _ = none
  rw [CodexEventMapper.threads_updateThread, if_pos rfl]
  cases s₇.mapper.threads[thread]? with
  | none => rfl
  | some mapping => rfl

theorem turnCompleted_idle {s s' : MapperState B} {params : Value} {d : MappingDisposition}
    (h : turnCompleted host thread params s = (.ok d, s')) :
    s'.mapper.activeTurn thread = none := by
  obtain ⟨completed, s₁, -, h⟩ := Program.bind_eq_ok h
  obtain ⟨turnId, s₂, -, h⟩ := Program.bind_eq_ok h
  obtain ⟨u, s₃, -, h⟩ := Program.bind_eq_ok h
  have hfinish : finishTurn host thread turnId completed s₃ = (.ok d, s') := h
  exact finishTurn_idle hfinish

theorem dispatch_turnCompleted (threadId : String) (params : Value) :
    dispatch host "turn/completed" threadId params = turnCompleted host threadId params := by
  simp [dispatch]

/-- A completion that was mapped went through its handler, and so left the thread idle. -/
theorem notifyTracked_completed {s s' : MapperState B} {params : Value}
    (h : notifyTracked host "turn/completed" thread params s = (.ok .mapped, s')) :
    s'.mapper.activeTurn thread = none := by
  unfold notifyTracked at h
  rw [dispatch_turnCompleted] at h
  obtain ⟨key, s₁, -, h⟩ := Program.bind_eq_ok h
  obtain ⟨seen, s₂, -, h⟩ := Program.bind_eq_ok h
  rw [Program.ite_apply] at h
  split at h
  · cases h
  · obtain ⟨disposition, s₃, hcompleted, h⟩ := Program.bind_eq_ok h
    have hidle : OfTurn thread (· = none) s₃ := turnCompleted_idle hcompleted
    have hfinal := (preserves_remember key disposition).holds s₃ hidle
    cases key <;> simp only [h] at hfinal <;> exact hfinal

theorem notification_completed {s s' : MapperState B} {params : Value}
    (hthread : notificationThread params = some thread)
    (h : notification host "turn/completed" params s = (.ok .mapped, s')) :
    s'.mapper.activeTurn thread = none := by
  rw [notification_apply, if_neg (by simp)] at h
  unfold notifyThread at h
  simp only [hthread] at h
  obtain ⟨known, s₁, -, h⟩ := Program.bind_eq_ok h
  rw [Program.ite_apply] at h
  split at h
  · cases h
  · obtain ⟨u, s₂, -, h⟩ := Program.bind_eq_ok h
    obtain ⟨late, s₃, -, h⟩ := Program.bind_eq_ok h
    rw [Program.ite_apply] at h
    split at h
    · cases h
    · exact notifyTracked_completed h

/-- The payload lists the turn as the running one of the thread. -/
def listsAsRunning (thread turn : String) (payload : Value) : Bool :=
  (payload.get "thread").any fun value =>
    (value.get "id").bind Json.asStr = some thread ∧
      latestInProgressTurn value = .ok (some turn)

theorem lists_of_not_running {payload : Value} (h : listsAsRunning thread turn payload = false) :
    Lists thread (· ≠ some turn) payload := by
  rintro value hvalue hid found hfound rfl
  simp [listsAsRunning, hvalue, hid, hfound] at h

end Mapping

namespace MapperOp

open Mapping in
/-- The operations that take over a turn without asking whether it is complete: a server
request of the turn on an idle thread, a payload that still lists the turn as running, and a
turn/started whose `turnId` names another turn than the `turn` it carries. -/
def revives (thread turn : String) (m : CodexEventMapper) : MapperOp → Bool
  | .approvalContext threadId turnId _ =>
    threadId == thread && turnId == turn && (m.activeTurn thread).isNone
  | .resumeThread result => listsAsRunning thread turn result
  | .startThread _ result => listsAsRunning thread turn result
  | .notification method params =>
    if method = "thread/started" ∧ m.discoverThreads then listsAsRunning thread turn params
    else
      method == "turn/started" && notificationThread params == some thread &&
        nestedId params "turn" == some turn && notificationTurn params != some turn &&
        (m.activeTurn thread).isNone
  | _ => false

end MapperOp

namespace MapperState

variable {B : Type} (host : ProviderHost B) {thread turn : String}

open Mapping in
/-- The notification that the turn is complete, mapped. -/
structure Completed (s : MapperState B) (thread turn : String) (params : Value)
    (s' : MapperState B) : Prop where
  ofThread : notificationThread params = some thread
  ofTurn : nestedId params "turn" = some turn
  mapped : notification host "turn/completed" params s = (.ok .mapped, s')

/-- The turn is still remembered as complete, and the operation does not take it over. -/
def LeavesCompleted (thread turn : String) (s : MapperState B) (op : MapperOp) : Prop :=
  s.mapper.recentKeys.contains (Mapping.completedKey thread turn) = true ∧
    op.revives thread turn s.mapper = false

open Mapping in
/-- A notification that gets past both checks names another turn. -/
theorem admits_of_remembered {s : MapperState B} {method : String} {params : Value}
    (hremembered : s.mapper.recentKeys.contains (completedKey thread turn) = true)
    (hcurrent : ((notificationTurn params).any fun turnId =>
      s.mapper.recentKeys.contains (completedKey thread turnId)) = false)
    (hfresh : ∀ key, notificationKey method params thread = .ok (some key) →
      s.mapper.recentKeys.contains key = false)
    (hstarted : method = "turn/started" → nestedId params "turn" = some turn →
      notificationTurn params = some turn) :
    Admits (· ≠ some turn) method params := by
  have hlate : notificationTurn params ≠ some turn := by
    intro hturn
    rw [hturn, Option.any_some, hremembered] at hcurrent
    cases hcurrent
  constructor
  · rintro turnId hnamed - hturnId
    cases hturnId
    unfold namedTurn at hnamed
    split at hnamed
    · next hmethod =>
      rcases hmethod with rfl | rfl
      · exact hlate (hstarted rfl hnamed)
      · -- a repeated completion has the remembered key itself
        have hkey : notificationKey "turn/completed" params thread =
            .ok (some (completedKey thread turn)) := by
          simp only [notificationKey, hnamed, or_true, if_true]
          rfl
        rw [hfresh _ hkey] at hremembered
        cases hremembered
    · apply hlate
      rw [notificationTurn, hnamed]
      rfl
  · intro _ _ _ _ hnone
    cases hnone

open Mapping in
/-- One operation does not make a completed turn the running one again. -/
theorem step_completed {s : MapperState B} {op : MapperOp}
    (hs : s.mapper.activeTurn thread ≠ some turn) (hop : LeavesCompleted thread turn s op) :
    (s.step host op).1.mapper.activeTurn thread ≠ some turn := by
  obtain ⟨hremembered, hleaves⟩ := hop
  -- a thread that runs another turn goes on with it
  have hbusy : ∀ active, s.mapper.activeTurn thread = some active →
      op.completes thread active = false → op.resumed s.mapper = none →
      (s.step host op).1.mapper.activeTurn thread ≠ some turn := by
    intro active hactive hopen hresumed
    have hrunning : Running thread active (s.step host op).1 := by
      apply step_running host hactive hopen
      intro payload hpayload
      rw [hresumed] at hpayload
      cases hpayload
    rw [show (s.step host op).1.mapper.activeTurn thread = some active from hrunning, ← hactive]
    exact hs
  by_cases hrequest : ∃ itemId, op = .approvalContext thread turn itemId
  · obtain ⟨itemId, rfl⟩ := hrequest
    cases hactive : s.mapper.activeTurn thread with
    | none => simp [MapperOp.revives, hactive] at hleaves
    | some active => exact hbusy active hactive rfl rfl
  by_cases hstart : ∃ params, op = .notification "turn/started" params ∧
      notificationThread params = some thread ∧ nestedId params "turn" = some turn ∧
      notificationTurn params ≠ some turn
  · obtain ⟨params, rfl, hthread, hnested, hother⟩ := hstart
    cases hactive : s.mapper.activeTurn thread with
    | none => simp [MapperOp.revives, hthread, hnested, hother, hactive] at hleaves
    | some active => exact hbusy active hactive rfl rfl
  refine step_ofTurn host (P := (· ≠ some turn)) hs ?_ ?_ ?_
  · intro payload hpayload
    apply lists_of_not_running
    cases op with
    | resumeThread result =>
      cases hpayload
      exact hleaves
    | startThread threadId result =>
      cases hpayload
      exact hleaves
    | notification method params =>
      simp only [MapperOp.resumed, MapperOp.revives] at hpayload hleaves
      split at hpayload
      · next hdiscovers =>
        cases hpayload
        rwa [if_pos hdiscovers] at hleaves
      · cases hpayload
    | _ => cases hpayload
  · rintro turnId itemId rfl - hturnId
    cases hturnId
    exact hrequest ⟨itemId, rfl⟩
  · rintro method params rfl hthread hcurrent hfresh
    apply admits_of_remembered hremembered hcurrent hfresh
    rintro rfl hnested
    by_contra hother
    exact hstart ⟨params, rfl, hthread, hnested, hother⟩

/-- After a completion was mapped, as long as it is remembered and no operation takes the
turn over unasked, the thread does not run the turn again. -/
theorem run_completed_turn (s s' : MapperState B) (params : Value) (ops : List MapperOp)
    (hcompleted : Completed host s thread turn params s')
    (hops : Trace.Along (step host) (LeavesCompleted thread turn) s' ops) :
    (Trace.final (step host) s' ops).mapper.activeTurn thread ≠ some turn := by
  apply Trace.along_invariant (step host) (LeavesCompleted thread turn)
    (fun s => s.mapper.activeTurn thread ≠ some turn) (fun t op ht hop => step_completed host ht hop)
    hops
  rw [Mapping.notification_completed hcompleted.ofThread hcompleted.mapped]
  exact nofun

open AgentPulse.Codex.Sample (discovered turnStarted)

/-- The observer when the turn `t1` has run and is complete. -/
def finished : MapperState Nat :=
  (Mapping.notification Sample.host "turn/completed" (Sample.turnParams "t1" "completed")
    (discovered.step Sample.host (turnStarted "t1")).1).2

theorem completed_first : Completed Sample.host (discovered.step Sample.host (turnStarted "t1")).1
    Sample.thread "t1" (Sample.turnParams "t1" "completed") finished where
  ofThread := by decide +kernel
  ofTurn := by decide +kernel
  mapped := by
    have hresult : (Mapping.notification Sample.host "turn/completed"
        (Sample.turnParams "t1" "completed") (discovered.step Sample.host (turnStarted "t1")).1).1 =
        .ok .mapped := by decide +kernel
    unfold finished
    rw [← hresult]

/-- An item of the completed turn that the slower of two connections delivers late. -/
def lateItem : MapperOp :=
  .notification "item/started" (.object [
    ("threadId", .string Sample.thread), ("turnId", .string "t1"),
    ("startedAtMs", .int 3), ("item", .object [("id", .string "i1"), ("type", .string "plan")])])

/-- A late item and a repeated completion leave the thread idle. -/
theorem run_completed_turn_late :
    (Trace.final (step Sample.host) finished
      [lateItem, .notification "turn/completed" (Sample.turnParams "t1" "completed")]).mapper.activeTurn
        Sample.thread ≠ some "t1" := by
  apply run_completed_turn Sample.host _ _ _ _ completed_first
  refine ⟨⟨?_, ?_⟩, ⟨?_, ?_⟩, trivial⟩ <;> decide +kernel

/-- The thread as another connection announces it, from before the completion. -/
def mirrored : MapperOp :=
  .notification "thread/started"
    (.object [("thread", Sample.threadValue Sample.active [Sample.turn "t1" "inProgress"])])

/-- A late server request of the turn makes it the running one again, and so does a
mirrored thread/started: both without an error, and with the completion still remembered. -/
theorem completed_turn_revived :
    Completed Sample.host (discovered.step Sample.host (turnStarted "t1")).1
      Sample.thread "t1" (Sample.turnParams "t1" "completed") finished ∧
    finished.mapper.recentKeys.contains (Mapping.completedKey Sample.thread "t1") = true ∧
    ∀ op ∈ [MapperOp.approvalContext Sample.thread "t1" "i1", mirrored],
      (finished.step Sample.host op).2 = .ok () ∧
      (finished.step Sample.host op).1.mapper.activeTurn Sample.thread = some "t1" := by
  refine ⟨completed_first, ?_, ?_⟩
  · decide +kernel
  · simp only [List.forall_mem_cons, List.not_mem_nil, false_imp_iff, implies_true, and_true]
    refine ⟨⟨?_, ?_⟩, ?_, ?_⟩ <;> decide +kernel

end MapperState

end Codex

end AgentPulse
