import AgentPulse.CodexMirrorRun

/-!
# The window of remembered keys over whole runs

The set of remembered keys and the queue that evicts them are written together,
under the check that a key is not remembered yet. In every run of the mapper
they hold the same keys, each once: those of the last notifications that were
mapped. A key that was evicted may be mapped again and is then the youngest.
-/
namespace AgentPulse

namespace Codex

open Std (ExtTreeMap ExtTreeSet)
open Program (Preserves Triple bind_apply)

namespace Mapping

variable {B : Type} {host : ProviderHost B}

theorem keepsWindow_trackDiscoveredThread (mapper : CodexEventMapper) (threadId : String) :
    Preserves (KeepsWindow (B := B) mapper) (trackDiscoveredThread threadId) := by
  apply Preserves.ofExcept_bind
  intro sessionId _
  apply Preserves.modify
  intro s hs
  dsimp only
  split
  · exact hs
  · exact hs

theorem keepsWindow_retryObserverResume (mapper : CodexEventMapper) (threadId : String) :
    (mapper.retryObserverResume threadId).recentKeys = mapper.recentKeys ∧
      (mapper.retryObserverResume threadId).recentOrder = mapper.recentOrder := by
  unfold CodexEventMapper.retryObserverResume
  split <;> exact ⟨rfl, rfl⟩

end Mapping

/-- A notification is the only section that remembers a key. -/
def MapperOp.isNotification : MapperOp → Bool
  | .notification _ _ => true
  | _ => false

open Mapping in
theorem MapperOp.keepsWindow {B : Type} (host : ProviderHost B) {op : MapperOp}
    (hop : op.isNotification = false) (mapper : CodexEventMapper) :
    Preserves (KeepsWindow (B := B) mapper) (op.run host) := by
  have huntouched : Untouched host (KeepsWindow mapper) := untouched_window mapper
  have hsteady := huntouched.steady
  cases op with
  | notification method params => cases hop
  | resumeThread result => exact untouched_resumeThread huntouched result
  | approvalContext threadId turnId itemId =>
    exact Preserves.bind
      (steady_approvalContext itemId (untouched_ensureActiveTurn huntouched threadId turnId))
      fun _ => Preserves.pure _
  | beginReconnect => exact steady_beginReconnect hsteady
  | disconnectAll => exact steady_disconnectAll hsteady
  | publishPayload threadId occurredAt payload => exact steady_publishPayload hsteady _ _ _
  | publishHistoryItems threadId entries => exact steady_publishHistoryItems hsteady _ _
  | trackDiscoveredThread threadId => exact keepsWindow_trackDiscoveredThread mapper threadId
  | startThread threadId result =>
    exact Preserves.bind (keepsWindow_trackDiscoveredThread mapper threadId) fun _ =>
      untouched_resumeThread huntouched result
  | publishLocalChoice threadId request plan => exact steady_publishLocalChoice hsteady _ _ _
  | closeLocalChoice id => exact steady_closeLocalChoice hsteady id
  | respondLocalChoice threadId response =>
    exact Preserves.bind (steady_respondLocalChoice hsteady threadId response) fun _ =>
      Preserves.pure _
  | dismissLocalPlan threadId => exact steady_dismissPlan hsteady threadId
  | dismissPlan threadId => exact huntouched.thread threadId _
  | deferObserverResume threadId => exact ⟨fun _ hs => hs⟩
  | retryObserverResume threadId =>
    constructor
    intro s hs
    obtain ⟨hkeys, horder⟩ := keepsWindow_retryObserverResume s.mapper threadId
    exact ⟨hkeys.trans hs.1, horder.trans hs.2⟩
  | takeObserverResumes => exact ⟨fun _ hs => hs⟩

namespace MapperState

variable {B : Type} (host : ProviderHost B)

/-- The subject that a section maps. -/
def mapped (s : MapperState B) : MapperOp → List Subject
  | .notification method params =>
    Mapping.heardAfter [] method params (Mapping.notification host method params s).1
  | _ => []

/-- The subjects that a run maps, in order. -/
def mappedBy : MapperState B → List MapperOp → List Subject
  | _, [] => []
  | s, op :: ops => mapped host s op ++ mappedBy (s.step host op).1 ops

theorem mappedBy_append (s : MapperState B) (xs ys : List MapperOp) :
    mappedBy host s (xs ++ ys) =
      mappedBy host s xs ++ mappedBy host (Trace.final (step host) s xs) ys := by
  induction xs generalizing s with
  | nil => rfl
  | cons op ops ih =>
    rw [List.cons_append, mappedBy, ih, mappedBy, List.append_assoc]
    rfl

theorem heardAfter_append (heard : List Subject) (method : String) (params : Value)
    (result : Except CodexProviderSourceError MappingDisposition) :
    Mapping.heardAfter heard method params result =
      heard ++ Mapping.heardAfter [] method params result := by
  unfold Mapping.heardAfter
  split
  · rw [List.nil_append]
  · rw [List.append_nil]

theorem step_notification (s : MapperState B) (method : String) (params : Value) :
    (s.step host (.notification method params)).1 =
      (Mapping.notification host method params s).2 := by
  simp only [step, MapperOp.run, bind_apply]
  rcases Mapping.notification host method params s with ⟨result, s'⟩
  cases result <;> rfl

theorem op_remembers {s : MapperState B} {heard : List Subject} (h : Remembers s.mapper heard)
    (op : MapperOp) :
    Remembers (s.step host op).1.mapper (heard ++ mapped host s op) := by
  cases hop : op.isNotification with
  | false =>
    have hkept := (MapperOp.keepsWindow host hop s.mapper).holds s ⟨rfl, rfl⟩
    have hnone : mapped host s op = [] := by
      cases op with
      | notification method params => cases hop
      | _ => rfl
    rw [hnone, List.append_nil]
    exact Mapping.remembers_of_window h hkept.1 hkept.2
  | true =>
    cases op with
    | notification method params =>
      rw [step_notification, mapped, ← heardAfter_append]
      exact Mapping.notification_hears host h
    | _ => cases hop

theorem run_remembers {s : MapperState B} {heard : List Subject} (h : Remembers s.mapper heard)
    (ops : List MapperOp) :
    Remembers (Trace.final (step host) s ops).mapper (heard ++ mappedBy host s ops) := by
  induction ops generalizing s heard with
  | nil => simpa [mappedBy] using h
  | cons op ops ih =>
    have hnext := ih (op_remembers host h op)
    rwa [List.append_assoc] at hnext

theorem new_remembers (providerId : ProviderId) (threads : List ConfiguredThread)
    (discoverThreads : Bool) : Remembers (.new providerId threads discoverThreads) [] where
  order := rfl
  keys key := by simp [CodexEventMapper.new]
  nodup := List.nodup_nil

/-- A notification whose key is remembered changes neither the mapper nor the
host. -/
theorem redelivered {s : MapperState B} {method thread key : String} {params : Value}
    (hthread : Mapping.notificationThread params = some thread)
    (hkey : notificationKey method params thread = .ok (some key))
    (hseen : s.mapper.recentKeys.contains key = true) :
    Mapping.notification host method params s = (.ok .validatedUnmapped, s) := by
  have hmethod : method ≠ "thread/started" ∧ method ≠ "thread/status/changed" := by
    constructor
    · rintro rfl
      simp [notificationKey] at hkey
    · rintro rfl
      simp [notificationKey] at hkey
  rw [Mapping.notification_apply, if_neg fun h => hmethod.1 h.1]
  unfold Mapping.notifyThread
  rw [hthread]
  simp only [bind_apply, Program.reads, Program.ite_apply, Program.when, if_neg hmethod.2,
    Program.pure_apply]
  split
  · rfl
  · split
    · rfl
    · unfold Mapping.notifyTracked
      simp only [bind_apply, Program.ofExcept, hkey, Program.reads, Program.ite_apply,
        Option.any_some, hseen, if_true, Program.pure_apply]

/-- In every state that the mapper reaches, the remembered keys are those of the
queue, each once and at most as many as the limit: the keys of the last
notifications that were mapped, in the order in which they were. Delivering such
a notification again changes nothing and publishes nothing. -/
theorem run_window (providerId : ProviderId) (threads : List ConfiguredThread)
    (discoverThreads : Bool) (b : B) (ops : List MapperOp) :
    let start : MapperState B := ⟨.new providerId threads discoverThreads, b⟩
    let s := Trace.final (step host) start ops
    let keys := (mappedBy host start ops).map Subject.key
    (∀ key, s.mapper.recentKeys.contains key = true ↔ key ∈ s.mapper.recentOrder) ∧
      s.mapper.recentOrder.Nodup ∧ s.mapper.recentOrder.length ≤ recentNotificationLimit ∧
      s.mapper.recentOrder = keys.drop (keys.length - recentNotificationLimit) ∧
      ∀ method params thread key, Mapping.notificationThread params = some thread →
        notificationKey method params thread = .ok (some key) →
        key ∈ s.mapper.recentOrder →
        Mapping.notification host method params s = (.ok .validatedUnmapped, s) := by
  intro start s keys
  have h : Remembers s.mapper (mappedBy host start ops) :=
    run_remembers host (s := start) (new_remembers providerId threads discoverThreads) ops
  refine ⟨h.keys, h.nodup, ?_, ?_, ?_⟩
  · rw [h.order, List.length_map, Remembers.length_window]
    exact Nat.min_le_right _ _
  · rw [h.order, Hearing.window, List.map_drop, List.length_map]
  · intro method params thread key hthread hkey hmem
    exact redelivered host hthread hkey ((h.keys key).mpr hmem)

end MapperState

namespace Sample

/-- A host of the sample that keeps its record. -/
def recordingHost : ProviderHost (Nat × List AgentEvent) := recording host

def unstarted : MapperState (Nat × List AgentEvent) :=
  ⟨.new (Ident.numbered .provider 0) [] true, (0, [])⟩

/-- Identifiers of items, told apart by their length. -/
def itemName (n : Nat) : String := String.ofList (List.replicate n 'i')

def itemSubject (n : Nat) : Subject := .item thread "t1" (itemName n)

def itemMessage (n : Nat) : MapperOp :=
  .notification "item/completed" (messageParams "t1" (itemName n) "one")

/-- One item more than the window holds, and the first one again. -/
def revisited : List MapperOp :=
  threadStarted ::
    ((List.range (recentNotificationLimit + 1)).map itemMessage ++ [itemMessage 0])

end Sample

namespace MapperState

open AgentPulse.Codex.Sample (recordingHost unstarted itemName itemSubject itemMessage revisited)

theorem itemSubject_inj {m n : Nat} (h : (itemSubject m).key = (itemSubject n).key) : m = n := by
  have hlist := congrArg String.toList h
  simp only [itemSubject, itemName, Subject.key_item, toString, String.toList_append,
    String.toList_ofList] at hlist
  have hlength := congrArg List.length hlist
  simpa using hlength

theorem item_ne_completed (n : Nat) :
    (itemSubject n).key ≠ (Subject.completed Sample.thread "t1").key := by
  intro h
  have hlist := congrArg String.toList h
  simp [itemSubject, Subject.key_item, Subject.key_completed, toString, String.toList_append] at hlist

/-- What an item of the turn meets: its thread with numbers left, and a window of
other items. -/
structure Receptive (n budget : Nat) (s : MapperState (Nat × List AgentEvent))
    (heard : List Subject) : Prop where
  followed : ∃ view said, Hears Sample.thread view budget said s ∧
    (view.activeTurnId = none ∨ view.activeTurnId = some "t1")
  remembers : Remembers s.mapper heard
  items : ∀ subject ∈ Hearing.window heard, ∃ i, i ≠ n ∧ subject = itemSubject i

/-- Such an item is mapped. -/
theorem receptive_mapped {n budget : Nat} {s : MapperState (Nat × List AgentEvent)}
    {heard : List Subject} (h : Receptive n (budget + 2) s heard) :
    mapped recordingHost s (itemMessage n) = [itemSubject n] ∧
      (∃ view said, Hears Sample.thread view budget said (s.step recordingHost (itemMessage n)).1 ∧
        (view.activeTurnId = none ∨ view.activeTurnId = some "t1")) := by
  obtain ⟨⟨view, said, hs, hactive⟩, hremembers, hitems⟩ := h
  have hsubject : Subject.ofNotification "item/completed"
      (Sample.messageParams "t1" (itemName n) "one") = some (itemSubject n) := rfl
  have hsaid : SaysItem (Sample.messageParams "t1" (itemName n) "one") (.object [
      ("id", .string (itemName n)), ("type", .string "agentMessage"), ("text", .string "one")])
      "agentMessage" (some ⟨⟨"one", by decide⟩, false, false⟩) :=
    ⟨.inl rfl, rfl, rfl, rfl, 3, rfl, fun _ h => by cases h; exact ⟨_, rfl⟩⟩
  have hplain := Mapping.hears_keys hs []
  have hdrops : ¬ ThreadView.Drops Sample.thread { view with keys := [] }
      (.itemCompleted "t1" (itemName n) (some ⟨⟨"one", by decide⟩, false, false⟩)) := by
    rintro (⟨turn, -, hknown⟩ | ⟨subject, -, hknown⟩) <;> cases hknown
  have hfits : ThreadView.Fits { view with keys := [] }
      (.itemCompleted "t1" (itemName n) (some ⟨⟨"one", by decide⟩, false, false⟩)) := by
    intro turn hturn
    cases hturn
    exact hactive
  have hcommits : Commits Sample.host := fun _ _ => rfl
  obtain ⟨d, t, hitem, ht, hmapped⟩ := (Mapping.triple_itemCompleted_follows hcommits
    rfl rfl rfl rfl hsaid hdrops hfits).exists_return hplain
  obtain rfl : d = .mapped := hmapped.mpr rfl
  have hcurrent : s.mapper.recentKeys.contains (Mapping.completedKey Sample.thread "t1") = false := by
    rw [Bool.eq_false_iff]
    intro hlate
    obtain ⟨subject, hmem, hkey⟩ := (hremembers.contains_iff _).mp hlate
    obtain ⟨i, -, rfl⟩ := hitems subject hmem
    exact item_ne_completed i hkey
  have hfresh : s.mapper.recentKeys.contains (itemSubject n).key = false := by
    rw [Bool.eq_false_iff]
    intro hseen
    obtain ⟨subject, hmem, hkey⟩ := (hremembers.contains_iff _).mp hseen
    obtain ⟨i, hother, rfl⟩ := hitems subject hmem
    exact hother (itemSubject_inj hkey)
  have hrun : Mapping.notification recordingHost "item/completed"
      (Sample.messageParams "t1" (itemName n) "one") s =
      (.ok .mapped, { t with mapper := t.mapper.rememberKey (itemSubject n).key }) := by
    rw [Mapping.notification_item recordingHost s hsubject,
      if_pos ⟨Mapping.known_of_follows hs.1, hcurrent, hfresh⟩]
    have hcompleted : Mapping.itemCompleted recordingHost Sample.thread
        (Sample.messageParams "t1" (itemName n) "one") s = (.ok .mapped, t) := hitem
    rw [hcompleted]
    rfl
  constructor
  · rw [itemMessage, mapped, hrun]
    show [] ++ (Subject.ofNotification _ _).toList = _
    rw [hsubject]
    rfl
  · rw [itemMessage, step_notification, hrun]
    refine ⟨_, _, ⟨Mapping.follows_rememberKey ht.1 _, ht.2⟩, .inr ?_⟩
    rw [ThreadView.active_hear, if_neg (Mapping.heard_of_fits hdrops hfits id)]
    rfl

/-- The first items of the run, each mapped once. -/
theorem messages_mapped {count budget : Nat} {s : MapperState (Nat × List AgentEvent)}
    (hs : ∃ view said, Hears Sample.thread view (budget + 2 * count) said s ∧
      (view.activeTurnId = none ∨ view.activeTurnId = some "t1"))
    (hempty : Remembers s.mapper []) :
    mappedBy recordingHost s ((List.range count).map itemMessage) =
        (List.range count).map itemSubject ∧
      ∃ view said, Hears Sample.thread view budget said
          (Trace.final (step recordingHost) s ((List.range count).map itemMessage)) ∧
        (view.activeTurnId = none ∨ view.activeTurnId = some "t1") := by
  induction count generalizing budget with
  | zero => exact ⟨rfl, hs⟩
  | succ count ih =>
    have hroom : budget + 2 * (count + 1) = (budget + 2) + 2 * count := by omega
    rw [hroom] at hs
    obtain ⟨hmapped, hfollowed⟩ := ih hs
    have hremembers := run_remembers recordingHost hempty ((List.range count).map itemMessage)
    rw [hmapped, List.nil_append] at hremembers
    have hnext := receptive_mapped (n := count) ⟨hfollowed, hremembers, by
      intro subject hmem
      obtain ⟨i, hi, rfl⟩ := List.mem_map.mp (Remembers.mem_heard hmem)
      exact ⟨i, (List.mem_range.mp hi).ne, rfl⟩⟩
    rw [List.range_succ, List.map_append, List.map_append, List.map_singleton, List.map_singleton,
      Trace.final_append]
    refine ⟨?_, hnext.2⟩
    rw [mappedBy_append, hmapped, mappedBy, mappedBy, hnext.1, List.append_nil]

/-- The state after the thread was started, before any item. -/
def opened : MapperState (Nat × List AgentEvent) :=
  (step recordingHost unstarted Sample.threadStarted).1

theorem opened_mapping : ∃ mapping, opened.mapper.threads[Sample.thread]? = some mapping ∧
    mapping.activeTurnId = none ∧
    mapping.nextSequence.get + opened.mapper.localChoices.size + 5000 < 2 ^ 64 := by
  have hsample : (opened.mapper.threads[Sample.thread]?.any fun mapping =>
      decide (mapping.activeTurnId = none) &&
        decide (mapping.nextSequence.get + opened.mapper.localChoices.size + 5000 < 2 ^ 64)) =
        true := by decide +kernel
  obtain ⟨mapping, hmapping, hboth⟩ := (Option.any_eq_true _ _).mp hsample
  rw [Bool.and_eq_true, decide_eq_true_eq, decide_eq_true_eq] at hboth
  exact ⟨mapping, hmapping, hboth.1, hboth.2⟩

/-- The announcement of the thread has no key. -/
theorem mapped_threadStarted (s : MapperState (Nat × List AgentEvent)) :
    mapped recordingHost s Sample.threadStarted = [] := by
  show Mapping.heardAfter [] _ _ _ = []
  have hnone : Subject.ofNotification "thread/started"
      (.object [("thread", Sample.threadValue Sample.idle [])]) = none := rfl
  unfold Mapping.heardAfter
  split
  · rw [hnone]
    rfl
  · rfl

theorem opened_remembers : Remembers opened.mapper [] := by
  have hnew : Remembers unstarted.mapper [] := new_remembers _ _ _
  have h := op_remembers recordingHost hnew Sample.threadStarted
  rwa [mapped_threadStarted] at h

/-- The items of the run and the window behind the first one. -/
theorem itemSubjects_range :
    (List.range (recentNotificationLimit + 1)).map itemSubject =
      itemSubject 0 :: itemSubject 1 :: itemSubject 2 ::
        (List.range' 3 (recentNotificationLimit - 2)).map itemSubject := by
  rw [List.range_eq_range']
  rfl

/-- The subjects that the run maps: the first item at both ends. -/
theorem revisited_mapped :
    mappedBy recordingHost unstarted revisited =
      (List.range (recentNotificationLimit + 1)).map itemSubject ++ [itemSubject 0] := by
  obtain ⟨mapping, hmapping, hidle, hroom⟩ := opened_mapping
  have hopened : ∃ view said,
      Hears Sample.thread view (2 + 2 * (recentNotificationLimit + 1)) said opened ∧
        (view.activeTurnId = none ∨ view.activeTurnId = some "t1") := by
    refine ⟨ThreadView.ofMapping mapping [], _, ⟨⟨by decide +kernel, mapping, hmapping,
      ThreadView.ofMapping_describes mapping _, ?_⟩, rfl⟩, .inl hidle⟩
    unfold recentNotificationLimit
    omega
  obtain ⟨hmapped, hfollowed⟩ := messages_mapped hopened opened_remembers
  have hremembers := run_remembers recordingHost opened_remembers
    ((List.range (recentNotificationLimit + 1)).map itemMessage)
  rw [hmapped, List.nil_append] at hremembers
  have hitems : ∀ subject ∈ Hearing.window
      ((List.range (recentNotificationLimit + 1)).map itemSubject),
      ∃ i, i ≠ 0 ∧ subject = itemSubject i := by
    intro subject hmem
    rw [Hearing.window, List.length_map, List.length_range, Nat.add_sub_cancel_left,
      List.range_succ_eq_map, List.map_cons, List.drop_succ_cons, List.drop_zero,
      List.map_map] at hmem
    obtain ⟨i, -, rfl⟩ := List.mem_map.mp hmem
    exact ⟨i + 1, Nat.succ_ne_zero i, rfl⟩
  have hagain := receptive_mapped ⟨hfollowed, hremembers, hitems⟩
  have hrest : mappedBy recordingHost opened
      ((List.range (recentNotificationLimit + 1)).map itemMessage ++ [itemMessage 0]) =
      (List.range (recentNotificationLimit + 1)).map itemSubject ++ [itemSubject 0] := by
    rw [mappedBy_append, hmapped, mappedBy, mappedBy, hagain.1, List.append_nil]
  rw [revisited, mappedBy, mapped_threadStarted, List.nil_append]
  exact hrest

/-- A key that is mapped again after its eviction is the youngest of the window,
though it was mapped before every other one. -/
theorem evicted_returns_youngest :
    let keys := (mappedBy recordingHost unstarted revisited).map Subject.key
    ¬ (Trace.final (step recordingHost) unstarted revisited).mapper.recentOrder.Pairwise
      fun first second => keys.idxOf first < keys.idxOf second := by
  intro keys hordered
  have hnew : Remembers unstarted.mapper [] := new_remembers _ _ _
  have horder := (run_remembers recordingHost hnew revisited).order
  have hmapped := revisited_mapped
  rw [itemSubjects_range] at hmapped
  rw [List.nil_append, hmapped] at horder
  have hkeys : keys.idxOf (itemSubject 0).key = 0 := by
    show ((mappedBy recordingHost unstarted revisited).map Subject.key).idxOf _ = 0
    rw [hmapped]
    exact List.idxOf_cons_self
  rw [horder, Hearing.window] at hordered
  have hlength : ((itemSubject 0 :: itemSubject 1 :: itemSubject 2 ::
      (List.range' 3 (recentNotificationLimit - 2)).map itemSubject) ++ [itemSubject 0]).length -
        recentNotificationLimit = 2 := by
    simp only [List.length_append, List.length_cons, List.length_map, List.length_range',
      List.length_nil]
    rfl
  rw [hlength] at hordered
  have hpair := (List.pairwise_cons.mp hordered).1 (itemSubject 0).key
    (List.mem_map.mpr ⟨_, List.mem_append_right _ List.mem_cons_self, rfl⟩)
  rw [hkeys] at hpair
  exact absurd hpair (Nat.not_lt_zero _)

end MapperState

end Codex

end AgentPulse
