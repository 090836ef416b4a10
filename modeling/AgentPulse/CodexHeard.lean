import AgentPulse.CodexCompletedTurn
import AgentPulse.CodexRecord

/-!
# Messages published once

The observer and the proxies deliver the same notifications, so the mapper keeps
the keys of the last ones it mapped. A run is watched here with the history of
what was mapped and with the events that were committed: whether a completed
item is published exactly once depends on which of the mapped notifications
share its key.
-/
namespace AgentPulse

namespace Codex

open Std (ExtTreeMap ExtTreeSet)
open Program (Preserves Triple bind_apply)
open Serde (Json)

/-- The turn or the item of a notification that is remembered once it is mapped. -/
inductive Subject where
  | started (thread turn : String)
  | completed (thread turn : String)
  | item (thread turn item : String)
  deriving DecidableEq, Repr

namespace Subject

/-- The key that the mapper remembers; that of an item does not name its turn. -/
def key : Subject → String
  | started thread turn => s!"turn/started:{thread}:{turn}"
  | completed thread turn => s!"turn/completed:{thread}:{turn}"
  | item thread _ itemId => s!"item/completed:{thread}:{itemId}"

theorem key_started (thread turn : String) :
    (started thread turn).key = s!"turn/started:{thread}:{turn}" := rfl

theorem key_completed (thread turn : String) :
    (completed thread turn).key = s!"turn/completed:{thread}:{turn}" := rfl

theorem key_item (thread turn itemId : String) :
    (item thread turn itemId).key = s!"item/completed:{thread}:{itemId}" := rfl

def ofNotification (method : String) (params : Value) : Option Subject :=
  (Mapping.notificationThread params).bind fun thread =>
    if method = "turn/started" then (nestedId params "turn").map (started thread)
    else if method = "turn/completed" then (nestedId params "turn").map (completed thread)
    else if method = "item/completed" then
      ((params.get "turnId").bind Json.asStr).bind fun turn =>
        (nestedId params "item").map (item thread turn)
    else none

end Subject

/-- The mapper with the subjects of the notifications it mapped, in order. -/
structure Hearing (B : Type) where
  run : MapperState B
  heard : List Subject

namespace Hearing

variable {B : Type} (host : ProviderHost B)

/-- One notification with the events that were committed while it was handled. -/
def step (self : Hearing B) (input : String × Value) : Hearing B × List AgentEvent :=
  match Mapping.notification (recording host) input.1 input.2
      ⟨self.run.mapper, self.run.host, []⟩ with
  | (result, s) =>
    (⟨⟨s.mapper, s.host.1⟩,
      match result with
      | .ok .mapped => self.heard ++ (Subject.ofNotification input.1 input.2).toList
      | _ => self.heard⟩, s.host.2)

/-- The subjects of the last notifications that were mapped. -/
def window (heard : List Subject) : List Subject :=
  heard.drop (heard.length - recentNotificationLimit)

end Hearing

def isMessage (event : AgentEvent) : Bool :=
  match event.payload with
  | .message _ => true
  | _ => false

/-- The messages that are published for an item: those committed while one of its
notifications is handled. -/
def messagesOf (subject : Subject) (input : String × Value) (events : List AgentEvent) :
    List AgentEvent :=
  if Subject.ofNotification input.1 input.2 = some subject then events.filter isMessage else []

/-- The mapper remembers the keys of the window, none of them twice. -/
structure Remembers (mapper : CodexEventMapper) (heard : List Subject) : Prop where
  order : mapper.recentOrder = (Hearing.window heard).map Subject.key
  keys : ∀ key, mapper.recentKeys.contains key = true ↔ key ∈ mapper.recentOrder
  nodup : mapper.recentOrder.Nodup

namespace Remembers

variable {mapper : CodexEventMapper} {heard : List Subject}

theorem contains_iff (h : Remembers mapper heard) (key : String) :
    mapper.recentKeys.contains key = true ↔
      ∃ subject ∈ Hearing.window heard, subject.key = key := by
  rw [h.keys, h.order, List.mem_map]

theorem mem_heard {subject : Subject} (h : subject ∈ Hearing.window heard) : subject ∈ heard :=
  List.mem_of_mem_drop h

theorem length_window (heard : List Subject) :
    (Hearing.window heard).length = min heard.length recentNotificationLimit := by
  unfold Hearing.window
  rw [List.length_drop]
  omega

/-- A full window loses its oldest subject to a new one. -/
theorem window_snoc (heard : List Subject) (subject : Subject) :
    Hearing.window (heard ++ [subject]) =
      if heard.length < recentNotificationLimit then Hearing.window heard ++ [subject]
      else (Hearing.window heard).tail ++ [subject] := by
  unfold Hearing.window
  rw [List.length_append, List.length_singleton]
  split
  · next hroom =>
    have hnone : heard.length + 1 - recentNotificationLimit = 0 := by omega
    have hbefore : heard.length - recentNotificationLimit = 0 := by omega
    rw [hnone, hbefore, List.drop_zero, List.drop_zero]
  · next hfull =>
    have hnext : heard.length + 1 - recentNotificationLimit =
        (heard.length - recentNotificationLimit) + 1 := by omega
    have hlimit : 0 < recentNotificationLimit := by decide
    rw [hnext, List.drop_append_of_le_length (by omega), List.tail_drop]

/-- The expired key of a window without repetitions leaves the others remembered. -/
theorem remembered (h : Remembers mapper heard) {subject : Subject}
    (hfresh : mapper.recentKeys.contains subject.key = false) :
    Remembers (mapper.rememberKey subject.key) (heard ++ [subject]) := by
  have hnew : subject.key ∉ mapper.recentOrder := by
    intro hmem
    rw [(h.keys subject.key).mpr hmem] at hfresh
    cases hfresh
  have hlength : mapper.recentOrder.length = min heard.length recentNotificationLimit := by
    rw [h.order, List.length_map, length_window]
  have hnodup : (mapper.recentOrder ++ [subject.key]).Nodup := by
    rw [List.nodup_append]
    exact ⟨h.nodup, by simp, by simp; exact fun a ha hkey => hnew (hkey ▸ ha)⟩
  have hkeys : ∀ key, (mapper.recentKeys.insert subject.key).contains key = true ↔
      key ∈ mapper.recentOrder ++ [subject.key] := by
    intro key
    rw [ExtTreeSet.contains_insert, Bool.or_eq_true, h.keys key, List.mem_append,
      List.mem_singleton, or_comm, beq_iff_eq, Std.compare_eq_iff_eq, @eq_comm _ key]
  unfold CodexEventMapper.rememberKey
  dsimp only
  by_cases hroom : heard.length < recentNotificationLimit
  · have hfits : ¬ (mapper.recentOrder ++ [subject.key]).length > recentNotificationLimit := by
      simp only [List.length_append, List.length_singleton]
      omega
    rw [if_neg hfits]
    refine ⟨?_, hkeys, hnodup⟩
    show mapper.recentOrder ++ [subject.key] = _
    rw [window_snoc, if_pos hroom, List.map_append, h.order]
    rfl
  · have hover : (mapper.recentOrder ++ [subject.key]).length > recentNotificationLimit := by
      simp only [List.length_append, List.length_singleton]
      omega
    rw [if_pos hover]
    have hlimit : 0 < recentNotificationLimit := by decide
    have horder := h.order
    cases hold : mapper.recentOrder with
    | nil =>
      rw [hold] at hlength
      simp only [List.length_nil] at hlength
      omega
    | cons expired rest =>
      rw [hold] at hkeys hnodup horder
      rw [List.cons_append] at hnodup
      have hexpired := List.nodup_cons.mp hnodup
      refine ⟨?_, ?_, hexpired.2⟩
      · show rest ++ [subject.key] = _
        rw [window_snoc, if_neg hroom, List.map_append, List.map_tail, ← horder]
        rfl
      · intro key
        show ((mapper.recentKeys.insert subject.key).erase expired).contains key = true ↔
          key ∈ rest ++ [subject.key]
        rw [ExtTreeSet.contains_erase, Bool.and_eq_true, hkeys key]
        constructor
        · rintro ⟨hne, hmem⟩
          rcases List.mem_cons.mp hmem with rfl | hmem
          · simp at hne
          · exact hmem
        · intro hmem
          refine ⟨?_, List.mem_cons_of_mem _ hmem⟩
          have hne : expired ≠ key := fun heq => hexpired.1 (heq ▸ hmem)
          simpa [compare_eq_iff_eq] using hne

end Remembers

namespace Mapping

variable {B : Type} {host : ProviderHost B}

/-- The window of remembered keys is written nowhere but where a key is remembered. -/
def KeepsWindow (mapper : CodexEventMapper) (s : MapperState B) : Prop :=
  s.mapper.recentKeys = mapper.recentKeys ∧ s.mapper.recentOrder = mapper.recentOrder

theorem keepsWindow_updateThread (mapper : CodexEventMapper) (threadId : String)
    (f : ThreadMapping → ThreadMapping) :
    (mapper.updateThread threadId f).recentKeys = mapper.recentKeys ∧
      (mapper.updateThread threadId f).recentOrder = mapper.recentOrder := by
  unfold CodexEventMapper.updateThread
  split <;> exact ⟨rfl, rfl⟩

theorem untouched_window (mapper : CodexEventMapper) :
    Untouched host (KeepsWindow (B := B) mapper) where
  nowUtc := ⟨fun _ hs => hs⟩
  newId _ := ⟨fun _ hs => hs⟩
  publishCommitted event := by
    have hpublish : Preserves (KeepsWindow (B := B) mapper)
        (Program.update fun s : MapperState B =>
          ((host.publishEvent s.host event).2,
            { s with host := (host.publishEvent s.host event).1 }) :
          Mapping B (Except ProviderEventIngressError ProviderEventReport)) :=
      Preserves.update fun _ hs => hs
    apply Preserves.bind hpublish
    intro result
    cases result with
    | ok report => exact Preserves.pure _
    | error error => exact Preserves.ite (fun _ => Preserves.pure _) fun _ => Preserves.fail _
  choices _ := ⟨fun _ hs => hs⟩
  items _ := ⟨fun _ hs => hs⟩
  thread threadId f := by
    constructor
    intro s hs
    obtain ⟨hkeys, horder⟩ := keepsWindow_updateThread s.mapper threadId f
    exact ⟨hkeys.trans hs.1, horder.trans hs.2⟩
  track _ _ := ⟨fun _ hs => hs⟩
  discover _ _ := ⟨fun _ hs => hs⟩

theorem remembers_of_window {mapper mapper' : CodexEventMapper} {heard : List Subject}
    (h : Remembers mapper heard) (hkeys : mapper'.recentKeys = mapper.recentKeys)
    (horder : mapper'.recentOrder = mapper.recentOrder) : Remembers mapper' heard where
  order := horder.trans h.order
  keys key := by
    rw [hkeys, horder]
    exact h.keys key
  nodup := by
    rw [horder]
    exact h.nodup

/-- A handled notification is about the subject whose key it left. -/
theorem subject_of_key {method threadId : String} {params : Value} {key : String}
    {s s' : MapperState B} {d : MappingDisposition}
    (hthread : notificationThread params = some threadId)
    (hkey : notificationKey method params threadId = .ok (some key))
    (hrun : dispatch host method threadId params s = (.ok d, s')) :
    ∃ subject, Subject.ofNotification method params = some subject ∧ subject.key = key := by
  unfold notificationKey at hkey
  unfold Subject.ofNotification
  rw [hthread, Option.bind_some]
  by_cases hstarted : method = "turn/started"
  · subst hstarted
    cases hid : nestedId params "turn" with
    | none =>
      simp only [hid, true_or, if_true] at hkey
      cases hkey
    | some turn =>
      simp only [hid, true_or, if_true] at hkey
      cases hkey
      exact ⟨.started threadId turn, rfl, rfl⟩
  by_cases hcompleted : method = "turn/completed"
  · subst hcompleted
    cases hid : nestedId params "turn" with
    | none =>
      simp only [hid, or_true, if_true] at hkey
      cases hkey
    | some turn =>
      simp only [hid, or_true, if_true] at hkey
      cases hkey
      exact ⟨.completed threadId turn, rfl, rfl⟩
  by_cases hitem : method = "item/completed"
  · subst hitem
    have hdispatch : dispatch host "item/completed" threadId params =
        itemCompleted host threadId params := by simp [dispatch]
    rw [hdispatch] at hrun
    obtain ⟨turn, t, hturn, -⟩ := Program.bind_eq_ok hrun
    obtain ⟨hturn, -⟩ := Program.ofExcept_eq_ok hturn
    cases hid : nestedId params "item" with
    | none => simp [hid, protocolError] at hkey
    | some itemId =>
      simp only [hid, hstarted, hcompleted, or_self, if_false, if_true] at hkey
      cases hkey
      refine ⟨.item threadId turn itemId, ?_, rfl⟩
      simp [string_of_ok hturn]
  · simp [hstarted, hcompleted, hitem] at hkey

/-- A notification without a key has no subject. -/
theorem subject_none_of_key {method threadId : String} {params : Value}
    (hthread : notificationThread params = some threadId)
    (hkey : notificationKey method params threadId = .ok none) :
    Subject.ofNotification method params = none := by
  have hother : method ≠ "turn/started" ∧ method ≠ "turn/completed" ∧
      method ≠ "item/completed" := by
    refine ⟨?_, ?_, ?_⟩
    · rintro rfl
      cases hid : nestedId params "turn" <;> simp [notificationKey, hid, protocolError] at hkey
    · rintro rfl
      cases hid : nestedId params "turn" <;> simp [notificationKey, hid, protocolError] at hkey
    · rintro rfl
      cases hid : nestedId params "item" <;> simp [notificationKey, hid, protocolError] at hkey
  unfold Subject.ofNotification
  rw [hthread, Option.bind_some, if_neg hother.1, if_neg hother.2.1, if_neg hother.2.2]

/-- The history after a notification with this result. -/
def heardAfter (heard : List Subject) (method : String) (params : Value)
    (result : Except CodexProviderSourceError MappingDisposition) : List Subject :=
  match result with
  | .ok .mapped => heard ++ (Subject.ofNotification method params).toList
  | _ => heard

theorem notifyTracked_hears {method threadId : String} {params : Value} {heard : List Subject}
    {s : MapperState B} (hs : Remembers s.mapper heard)
    (hthread : notificationThread params = some threadId) :
    Remembers (notifyTracked host method threadId params s).2.mapper
      (heardAfter heard method params (notifyTracked host method threadId params s).1) := by
  unfold notifyTracked
  simp only [bind_apply, Program.ofExcept]
  cases hkey : notificationKey method params threadId with
  | error e => exact hs
  | ok key =>
    simp only [Program.reads, Program.ite_apply]
    split
    · exact hs
    · next hfresh =>
      have huntouched : Untouched host _ := untouched_window s.mapper
      have hwindow := (untouched_dispatch huntouched method threadId params).holds s ⟨rfl, rfl⟩
      rw [bind_apply]
      rcases hrun : dispatch host method threadId params s with ⟨result, t⟩
      rw [hrun] at hwindow
      have ht : Remembers t.mapper heard := remembers_of_window hs hwindow.1 hwindow.2
      cases result with
      | error e => exact ht
      | ok disposition =>
        cases key with
        | none =>
          have hnone := subject_none_of_key hthread hkey
          cases disposition with
          | mapped =>
            show Remembers t.mapper (heard ++ (Subject.ofNotification method params).toList)
            rw [hnone]
            simpa using ht
          | validatedUnmapped => exact ht
        | some key =>
          cases disposition with
          | validatedUnmapped => exact ht
          | mapped =>
            obtain ⟨subject, hsubject, rfl⟩ := subject_of_key hthread hkey hrun
            have hnew : t.mapper.recentKeys.contains subject.key = false := by
              rw [hwindow.1]
              exact Bool.eq_false_iff.mpr hfresh
            show Remembers (t.mapper.rememberKey subject.key)
              (heard ++ (Subject.ofNotification method params).toList)
            rw [hsubject]
            exact ht.remembered hnew

variable (host) in
theorem notification_hears {method : String} {params : Value} {heard : List Subject}
    {s : MapperState B} (hs : Remembers s.mapper heard) :
    Remembers (notification host method params s).2.mapper
      (heardAfter heard method params (notification host method params s).1) := by
  rw [notification_apply]
  split
  · next hdiscovers =>
    -- the discovery of a thread has no key
    have hnone : Subject.ofNotification method params = none := by
      rw [hdiscovers.1, Subject.ofNotification]
      cases notificationThread params <;> simp
    have huntouched : Untouched host _ := untouched_window s.mapper
    have hwindow := (untouched_threadStarted huntouched params).holds s ⟨rfl, rfl⟩
    have ht := remembers_of_window hs hwindow.1 hwindow.2
    unfold heardAfter
    split
    · rw [hnone]
      simpa using ht
    · exact ht
  · unfold notifyThread
    cases hthread : notificationThread params with
    | none => exact hs
    | some threadId =>
      simp only [bind_apply, Program.reads, Program.ite_apply]
      split
      · exact hs
      · have hretried : ∃ m : CodexEventMapper,
            (Program.when (method = "thread/status/changed")
              (onMapper fun m => m.retryObserverResume threadId) : Mapping B Unit) s =
              (.ok (), { s with mapper := m }) ∧ Remembers m heard := by
          unfold Program.when
          rw [Program.ite_apply]
          split
          · refine ⟨s.mapper.retryObserverResume threadId, rfl, ?_⟩
            unfold CodexEventMapper.retryObserverResume
            split
            · exact remembers_of_window hs rfl rfl
            · exact hs
          · exact ⟨s.mapper, rfl, hs⟩
        obtain ⟨m, hran, hm⟩ := hretried
        simp only [hran]
        split
        · exact hm
        · exact notifyTracked_hears (s := { s with mapper := m }) hm hthread

end Mapping

namespace Hearing

variable {B : Type} (host : ProviderHost B)

theorem step_remembers {s : Hearing B} (hs : Remembers s.run.mapper s.heard)
    (input : String × Value) :
    Remembers (s.step host input).1.run.mapper (s.step host input).1.heard :=
  Mapping.notification_hears (recording host) hs

end Hearing

namespace Mapping

variable {B : Type} {host : ProviderHost B}

/-- The thread can number one more event. -/
def HasRoom (threadId : String) (m : CodexEventMapper) : Prop :=
  ∀ mapping, m.threads[threadId]? = some mapping → mapping.nextSequence.checkedNext.isSome

/-- The events committed so far, in a thread with room. -/
def Logged (threadId : String) (events : List AgentEvent) (s : MapperState (B × List AgentEvent)) :
    Prop :=
  s.host.2 = events ∧ HasRoom threadId s.mapper

/-- The event that shows a text of the agent. -/
def Announces (text : String) (event : AgentEvent) : Prop :=
  ∃ content : NonEmptyText, content.asStr = text ∧
    event.payload = .message ⟨.assistant, .info, content⟩

theorem logged_updateThread {threadId : String} {events : List AgentEvent}
    {s : MapperState (B × List AgentEvent)} (h : Logged threadId events s) (id : String)
    {f : ThreadMapping → ThreadMapping}
    (hf : ∀ mapping, (f mapping).nextSequence = mapping.nextSequence) :
    Logged threadId events { s with mapper := s.mapper.updateThread id f } := by
  refine ⟨h.1, ?_⟩
  intro mapping hmapping
  rw [CodexEventMapper.threads_updateThread] at hmapping
  split at hmapping
  · obtain ⟨before, hbefore, rfl⟩ := Option.map_eq_some_iff.mp hmapping
    rw [hf]
    exact h.2 before hbefore
  · exact h.2 mapping hmapping

theorem triple_trackedThread {P : MapperState B → Prop} {E : CodexProviderSourceError →
    MapperState B → Prop} (threadId : String) (hE : ∀ e s, P s → E e s) :
    Triple P (trackedThread threadId : Mapping B ThreadMapping)
      (fun mapping s => P s ∧ s.mapper.threads[threadId]? = some mapping) E where
  returns s mapping s' hs h := by
    obtain ⟨hmapping, rfl⟩ := trackedThread_eq_ok h
    exact ⟨hs, hmapping⟩
  fails s e s' hs h := by
    cases hmapping : s.mapper.threads[threadId]? with
    | none =>
      rw [trackedThread_of_none hmapping] at h
      cases h
      exact hE _ s hs
    | some mapping =>
      rw [trackedThread_of_some hmapping] at h
      cases h

theorem triple_messageCompleted (threadId : String) (params item : Value) (itemType text : String)
    (events : List AgentEvent) :
    Triple (Logged threadId events) (messageCompleted (recording host) threadId params item itemType text)
      (fun d s => d = .mapped ∧ ∃ event, s.host.2 = events ++ [event] ∧ Announces text event)
      fun _ s => s.host.2 = events := by
  refine Triple.ofExcept_bind ?_ fun _ s hs => hs.1
  intro content hcontent
  have htext : content.asStr = text := by
    have hnew : NonEmptyText.new text = .ok content := Fallible.mapError_eq_ok.mp hcontent
    unfold NonEmptyText.new at hnew
    split at hnew
    · cases hnew
    · cases hnew
      rfl
  refine Triple.bind (triple_trackedThread threadId fun _ s hs => hs.1) ?_
  intro tracked
  refine Triple.bind (Triple.modify (Q := fun _ => Logged threadId events) fun s hs =>
    logged_updateThread hs.1 threadId fun _ => rfl) ?_
  intro _
  refine Triple.ofExcept_bind ?_ fun _ s hs => hs.1
  intro completedAt _
  refine Triple.ofExcept_bind ?_ fun _ s hs => hs.1
  intro timestamp _
  rw [publishPayload_message]
  refine Triple.bind (Q := fun _ s => ∃ event, s.host.2 = events ++ [event] ∧ Announces text event)
    ?_ fun _ => Triple.pure fun s hs => ⟨rfl, hs⟩
  constructor
  · intro s _ s' hs h
    rcases publishTracked_cases host threadId timestamp
      (.message ⟨.assistant, .info, content⟩) s with ⟨e, b, he⟩ |
      ⟨mapping, event, b, -, -, hpayload, ⟨-, e, he⟩ | ⟨next, -, hok⟩⟩
    · rw [he] at h
      cases h
    · rw [he] at h
      cases h
    · rw [hok] at h
      cases h
      exact ⟨event, by rw [hs.1], content, htext, hpayload⟩
  · intro s e s' hs h
    rcases publishTracked_cases host threadId timestamp
      (.message ⟨.assistant, .info, content⟩) s with ⟨e, b, he⟩ |
      ⟨mapping, event, b, hmapping, -, -, ⟨hnone, -⟩ | ⟨next, -, hok⟩⟩
    · rw [he] at h
      cases h
      exact hs.1
    · have hroom := hs.2 mapping hmapping
      rw [hnone] at hroom
      cases hroom
    · rw [hok] at h
      cases h

theorem triple_ensureActiveTurn (threadId turnId : String) (events : List AgentEvent) :
    Triple (Logged threadId events)
      (ensureActiveTurn threadId turnId : Mapping (B × List AgentEvent) Unit)
      (fun _ => Logged threadId events) fun _ s => s.host.2 = events := by
  refine Triple.bind (triple_trackedThread threadId fun _ s hs => hs.1) ?_
  intro mapping
  cases mapping.activeTurnId with
  | some active =>
    exact Triple.ite (fun _ => Triple.fail fun s hs => hs.1.1) fun _ => Triple.pure fun s hs => hs.1
  | none => exact Triple.modify fun s hs => logged_updateThread hs.1 threadId fun _ => rfl

variable (host) in
/-- An item is published once when it is mapped, and not at all otherwise. -/
theorem triple_itemCompleted (threadId : String) (params : Value) (events : List AgentEvent) :
    Triple (Logged threadId events) (itemCompleted (recording host) threadId params)
      (fun d s => (d = .mapped ∧ ∃ event item text, s.host.2 = events ++ [event] ∧
          params.get "item" = some item ∧ stringField item "text" = .ok text ∧
          Announces text event) ∨
        (d = .validatedUnmapped ∧ s.host.2 = events))
      fun _ s => s.host.2 = events := by
  refine Triple.ofExcept_bind ?_ fun _ s hs => hs.1
  intro turnId _
  refine Triple.bind (triple_ensureActiveTurn threadId turnId events) ?_
  intro _
  refine Triple.ofExcept_bind ?_ fun _ s hs => hs.1
  intro item hitem
  refine Triple.ofExcept_bind ?_ fun _ s hs => hs.1
  intro itemId hitemId
  refine Triple.bind (Triple.modify (Q := fun _ => Logged threadId events) fun s hs => hs) ?_
  intro _
  refine Triple.ofExcept_bind ?_ fun _ s hs => hs.1
  intro itemType _
  refine Triple.ite (fun _ => Triple.pure fun s hs => .inr ⟨rfl, hs.1⟩) ?_
  intro _
  refine Triple.ofExcept_bind ?_ fun _ s hs => hs.1
  intro text htext
  refine Triple.ite (fun _ => Triple.pure fun s hs => .inr ⟨rfl, hs.1⟩) ?_
  intro _
  refine (triple_messageCompleted threadId params item itemType text events).weaken
    (fun s hs => hs) ?_ fun _ s hs => hs
  rintro d s ⟨rfl, event, hevents, hannounces⟩
  exact .inl ⟨rfl, event, item, text, hevents, (fields_of_ok hitem hitemId).1, htext, hannounces⟩

/-- A message of the agent as its notification carries it. -/
structure MessageItem (params item : Value) (completedAt : Timestamp) : Prop where
  found : objectField params "item" = .ok item
  kind : ∃ kind, stringField item "type" = .ok kind ∧ (kind = "agentMessage" ∨ kind = "plan")
  text : ∃ text, stringField item "text" = .ok text ∧ isBlank text = false
  instant : ∃ value, i64Field params "completedAtMs" = .ok value ∧
    timestampWithMultiplier value 1000000 = .ok completedAt

/-- The host, and what numbers the next event of the thread. -/
def Numbered (threadId : String) (session : SessionId) (sequence : EventSequence) (b : B)
    (s : MapperState (B × List AgentEvent)) : Prop :=
  s.host.1 = b ∧ ∃ mapping, s.mapper.threads[threadId]? = some mapping ∧
    mapping.sessionId = session ∧ mapping.nextSequence = sequence

theorem numbered_updateThread {threadId : String} {session : SessionId} {sequence : EventSequence}
    {b : B} {s : MapperState (B × List AgentEvent)} (h : Numbered threadId session sequence b s)
    {f : ThreadMapping → ThreadMapping}
    (hf : ∀ mapping, (f mapping).sessionId = mapping.sessionId ∧
      (f mapping).nextSequence = mapping.nextSequence) :
    Numbered threadId session sequence b { s with mapper := s.mapper.updateThread threadId f } := by
  obtain ⟨hhost, mapping, hmapping, hsession, hsequence⟩ := h
  refine ⟨hhost, f mapping, ?_, (hf mapping).1.trans hsession, (hf mapping).2.trans hsequence⟩
  rw [CodexEventMapper.threads_updateThread, if_pos rfl, hmapping]
  rfl

theorem triple_trackedThread_numbered {threadId : String} {session : SessionId}
    {sequence : EventSequence} {b : B} :
    Triple (Numbered threadId session sequence b)
      (trackedThread threadId : Mapping (B × List AgentEvent) ThreadMapping)
      (fun mapping s => Numbered threadId session sequence b s ∧
        s.mapper.threads[threadId]? = some mapping) fun _ _ => False where
  returns s mapping s' hs h := by
    obtain ⟨hmapping, rfl⟩ := trackedThread_eq_ok h
    exact ⟨hs, hmapping⟩
  fails s e s' hs h := by
    obtain ⟨mapping, hmapping, -⟩ := hs.2
    rw [trackedThread_of_some hmapping] at h
    cases h

/-- The check of the running turn passes on an idle thread and for that turn. -/
theorem triple_ensureActiveTurn_passes {threadId turnId : String} {session : SessionId}
    {sequence : EventSequence} {b : B} :
    Triple (fun s : MapperState (B × List AgentEvent) => Numbered threadId session sequence b s ∧
        (s.mapper.activeTurn threadId = none ∨ s.mapper.activeTurn threadId = some turnId))
      (ensureActiveTurn threadId turnId : Mapping (B × List AgentEvent) Unit)
      (fun _ => Numbered threadId session sequence b) fun _ _ => False where
  returns s _ s' hs h := by
    obtain ⟨mapping, t, hread, hrest⟩ := Program.bind_eq_ok h
    obtain ⟨hmapping, rfl⟩ := trackedThread_eq_ok hread
    cases hactive : mapping.activeTurnId with
    | none =>
      rw [hactive] at hrest
      cases hrest
      exact numbered_updateThread hs.1 fun _ => ⟨rfl, rfl⟩
    | some active =>
      simp only [hactive, Program.ite_apply] at hrest
      split at hrest
      · cases hrest
      · cases hrest
        exact hs.1
  fails s e s' hs h := by
    obtain ⟨⟨hhost, mapping, hmapping, hnumbered⟩, hactive⟩ := hs
    unfold ensureActiveTurn at h
    rw [Program.bind_of_ok (trackedThread_of_some hmapping)] at h
    rw [activeTurn_of_mapping hmapping] at hactive
    rcases hactive with hidle | hrunning
    · rw [hidle] at h
      cases h
    · simp only [hrunning, ne_eq, not_true_eq_false, if_false] at h
      cases h

/-- A message of the running turn, or of an idle thread, is mapped if the host takes it. -/
theorem triple_itemCompleted_mapped {threadId turnId itemId : String} {params item : Value}
    {completedAt : Timestamp} {session : SessionId} {sequence : EventSequence} {b : B}
    (hturn : stringField params "turnId" = .ok turnId) (hitem : MessageItem params item completedAt)
    (hid : stringField item "id" = .ok itemId) (hroom : sequence.checkedNext.isSome)
    (hcommits : ∀ event, event.sessionId = session → event.sequence = sequence →
      isMessage event = true → committed (host.publishEvent (host.newId .event b).2 event).2 = true) :
    Triple (fun s : MapperState (B × List AgentEvent) => Numbered threadId session sequence b s ∧
        (s.mapper.activeTurn threadId = none ∨ s.mapper.activeTurn threadId = some turnId))
      (itemCompleted (recording host) threadId params) (fun d _ => d = .mapped)
      fun _ _ => False := by
  obtain ⟨kind, hkind, hshown⟩ := hitem.kind
  obtain ⟨text, htext, hreadable⟩ := hitem.text
  obtain ⟨value, hvalue, hinstant⟩ := hitem.instant
  have hother : ¬ (kind ≠ "agentMessage" ∧ kind ≠ "plan") := by
    rcases hshown with rfl | rfl <;> simp
  unfold itemCompleted
  rw [Program.ofExcept_ok_bind hturn]
  refine Triple.bind triple_ensureActiveTurn_passes ?_
  intro _
  rw [Program.ofExcept_ok_bind hitem.found, Program.ofExcept_ok_bind hid]
  refine Triple.bind (Triple.modify (Q := fun _ => Numbered threadId session sequence b)
    fun s hs => hs) ?_
  intro _
  rw [Program.ofExcept_ok_bind hkind, if_neg hother, Program.ofExcept_ok_bind htext,
    if_neg (Bool.eq_false_iff.mp hreadable)]
  unfold messageCompleted
  rw [Program.ofExcept_ok_bind (domain_text hreadable)]
  refine Triple.bind triple_trackedThread_numbered ?_
  intro tracked
  refine Triple.bind (Triple.modify (Q := fun _ => Numbered threadId session sequence b)
    fun s hs => numbered_updateThread hs.1 fun _ => ⟨rfl, rfl⟩) ?_
  intro _
  have htimestamp : (timestampMilliseconds (recording host) (some value) :
      Mapping (B × List AgentEvent) Timestamp) = Program.ofExcept (.ok completedAt) := by
    show Program.ofExcept (timestampWithMultiplier value 1000000) = _
    rw [hinstant]
  rw [Program.ofExcept_ok_bind hvalue, htimestamp, Program.ofExcept_ok_bind rfl,
    publishPayload_message]
  refine Triple.bind (Q := fun _ _ => True) ?_ fun _ => Triple.pure fun _ _ => rfl
  constructor
  · intro s _ s' _ _
    trivial
  · intro s e s' hs h
    obtain ⟨rfl, mapping, hmapping, rfl, rfl⟩ := hs
    have hpublished : ∃ t, publishTracked (recording host) threadId completedAt
        (.message ⟨.assistant, .info, ⟨text, hreadable⟩⟩) s = (.ok (), t) := by
      refine publishTracked_of_commits hmapping hroom rfl ?_
      intro event hsession hsequence hpayload
      exact hcommits event hsession hsequence (by rw [isMessage, hpayload])
    obtain ⟨t, hok⟩ := hpublished
    rw [hok] at h
    cases h

/-- What a notification about an item says. -/
theorem item_of_subject {method : String} {params : Value} {thread turn item : String}
    (h : Subject.ofNotification method params = some (.item thread turn item)) :
    method = "item/completed" ∧ notificationThread params = some thread ∧
      (params.get "turnId").bind Json.asStr = some turn ∧
      nestedId params "item" = some item := by
  unfold Subject.ofNotification at h
  obtain ⟨found, hthread, h⟩ := Option.bind_eq_some_iff.mp h
  by_cases hstarted : method = "turn/started"
  · rw [if_pos hstarted] at h
    obtain ⟨id, -, hid⟩ := Option.map_eq_some_iff.mp h
    cases hid
  rw [if_neg hstarted] at h
  by_cases hcompleted : method = "turn/completed"
  · rw [if_pos hcompleted] at h
    obtain ⟨id, -, hid⟩ := Option.map_eq_some_iff.mp h
    cases hid
  rw [if_neg hcompleted] at h
  by_cases hitem : method = "item/completed"
  · rw [if_pos hitem] at h
    obtain ⟨turnId, hturn, h⟩ := Option.bind_eq_some_iff.mp h
    obtain ⟨id, hid, hsubject⟩ := Option.map_eq_some_iff.mp h
    cases hsubject
    exact ⟨hitem, hthread, hturn, hid⟩
  · rw [if_neg hitem] at h
    cases h

variable (host) in
/-- The filters in front of a completed item. -/
theorem notification_item {params : Value} {thread turn item : String} (s : MapperState B)
    (h : Subject.ofNotification "item/completed" params = some (.item thread turn item)) :
    notification host "item/completed" params s =
      if (s.mapper.configured.contains thread && s.mapper.threads.contains thread) = true ∧
          s.mapper.recentKeys.contains (completedKey thread turn) = false ∧
          s.mapper.recentKeys.contains (Subject.item thread turn item).key = false then
        match itemCompleted host thread params s with
        | (.ok .mapped, s') =>
          (.ok .mapped,
            { s' with mapper := s'.mapper.rememberKey (Subject.item thread turn item).key })
        | (result, s') => (result, s')
      else (.ok .validatedUnmapped, s) := by
  obtain ⟨-, hthread, hturn, hitem⟩ := item_of_subject h
  have hnotified : notificationTurn params = some turn := by
    rw [notificationTurn, hturn, Option.some_or]
  have hkey : notificationKey "item/completed" params thread =
      .ok (some (Subject.item thread turn item).key) := by
    have hstarted : ¬ ("item/completed" = "turn/started" ∨ "item/completed" = "turn/completed") := by
      simp
    simp only [notificationKey, hitem, hstarted, if_false, if_true]
    rfl
  have hdispatch : dispatch host "item/completed" thread params = itemCompleted host thread params := by
    simp [dispatch]
  have hother : ¬ ("item/completed" = "thread/started" ∧ s.mapper.discoverThreads = true) := by simp
  have hstatus : ¬ "item/completed" = "thread/status/changed" := by simp
  rw [notification_apply, if_neg hother]
  unfold notifyThread notifyTracked
  rw [hthread, hnotified]
  simp only [hkey, hdispatch, bind_apply, Program.reads, Program.ofExcept, Program.ite_apply, Program.when,
    if_neg hstatus, Program.pure_apply, Option.any_some]
  cases hknown : s.mapper.configured.contains thread && s.mapper.threads.contains thread with
  | false => simp
  | true =>
    cases hlate : s.mapper.recentKeys.contains (completedKey thread turn) with
    | true => simp
    | false =>
      cases hseen : s.mapper.recentKeys.contains (Subject.item thread turn item).key with
      | true => simp
      | false =>
        simp only [Bool.not_true, Bool.false_eq_true, if_false, and_self, if_true]
        rcases itemCompleted host thread params s with ⟨result, s'⟩
        cases result with
        | error e => rfl
        | ok d => cases d <;> rfl

end Mapping

namespace Hearing

variable {B : Type} (host : ProviderHost B)

/-- A notification that the mapper has not handled finds its key free, one that it has
handled finds it remembered, and its thread can number the event. -/
structure Fair (s : Hearing B) (input : String × Value) : Prop where
  first : ∀ thread turn item,
    Subject.ofNotification input.1 input.2 = some (.item thread turn item) →
    Subject.item thread turn item ∉ s.heard →
    ∀ other ∈ window s.heard, other.key ≠ (Subject.item thread turn item).key ∧
      (other.key = (Subject.completed thread turn).key → other = .completed thread turn)
  again : ∀ thread turn item,
    Subject.ofNotification input.1 input.2 = some (.item thread turn item) →
    Subject.item thread turn item ∈ s.heard →
    Subject.item thread turn item ∈ window s.heard ∨ Subject.completed thread turn ∈ window s.heard
  room : ∀ thread turn item,
    Subject.ofNotification input.1 input.2 = some (.item thread turn item) →
    Mapping.HasRoom thread s.run.mapper

/-- A message of a tracked thread that arrives before its turn is complete, while no
other turn of the thread is running. -/
structure Receives (s : Hearing B) (input : String × Value) (thread turn item : String) : Prop where
  subject : Subject.ofNotification input.1 input.2 = some (.item thread turn item)
  message : ∃ value completedAt, Mapping.MessageItem input.2 value completedAt
  known : (s.run.mapper.configured.contains thread && s.run.mapper.threads.contains thread) = true
  alone : s.run.mapper.activeTurn thread = none ∨ s.run.mapper.activeTurn thread = some turn
  running : Subject.completed thread turn ∉ s.heard
  commits : ∀ mapping event, s.run.mapper.threads[thread]? = some mapping →
    event.sessionId = mapping.sessionId → event.sequence = mapping.nextSequence →
    isMessage event = true →
    committed (host.publishEvent (host.newId .event s.run.host).2 event).2 = true

variable {host} {thread turn item : String}

theorem heard_subset (s : Hearing B) (input : String × Value) {subject : Subject}
    (h : subject ∈ s.heard) : subject ∈ (s.step host input).1.heard := by
  show subject ∈ Mapping.heardAfter s.heard input.1 input.2 _
  unfold Mapping.heardAfter
  split
  · exact List.mem_append_left _ h
  · exact h

variable (host) in
/-- A notification about something else changes nothing for the item. -/
theorem step_other {s : Hearing B} {input : String × Value} {subject : Subject}
    (h : Subject.ofNotification input.1 input.2 ≠ some subject) :
    messagesOf subject input (s.step host input).2 = [] ∧
      (subject ∈ (s.step host input).1.heard → subject ∈ s.heard) := by
  refine ⟨if_neg h, ?_⟩
  show subject ∈ Mapping.heardAfter s.heard input.1 input.2 _ → _
  unfold Mapping.heardAfter
  split
  · intro hmem
    rcases List.mem_append.mp hmem with hold | hnew
    · exact hold
    · exact absurd (Option.mem_toList.mp hnew) h
  · exact id

/-- A message that is received has not been filtered out. -/
theorem free_of_receives {s : Hearing B} {input : String × Value}
    (hs : Remembers s.run.mapper s.heard) (hfair : Fair s input)
    (h : Receives host s input thread turn item) (hnew : Subject.item thread turn item ∉ s.heard) :
    (s.run.mapper.configured.contains thread && s.run.mapper.threads.contains thread) = true ∧
      s.run.mapper.recentKeys.contains (Mapping.completedKey thread turn) = false ∧
      s.run.mapper.recentKeys.contains (Subject.item thread turn item).key = false := by
  have hfirst := hfair.first thread turn item h.subject hnew
  refine ⟨h.known, ?_, ?_⟩
  · rw [Bool.eq_false_iff]
    intro hlate
    obtain ⟨other, hmem, hkey⟩ := (hs.contains_iff _).mp hlate
    rw [(hfirst other hmem).2 hkey] at hmem
    exact h.running (Remembers.mem_heard hmem)
  · rw [Bool.eq_false_iff]
    intro hseen
    obtain ⟨other, hmem, hkey⟩ := (hs.contains_iff _).mp hseen
    exact (hfirst other hmem).1 hkey

/-- A message that is received is mapped, unless a filter holds it back. -/
theorem mapped_of_receives {s : Hearing B} {params : Value}
    (hroom : Mapping.HasRoom thread s.run.mapper)
    (h : Receives host s ("item/completed", params) thread turn item) :
    ∃ s', Mapping.itemCompleted (recording host) thread params ⟨s.run.mapper, s.run.host, []⟩ =
      (.ok .mapped, s') := by
  obtain ⟨-, hthread, hturn, hitem⟩ := Mapping.item_of_subject h.subject
  obtain ⟨value, completedAt, hmessage⟩ := h.message
  have hturnId : stringField params "turnId" = .ok turn := by
    unfold stringField
    rw [hturn]
  have hid : stringField value "id" = .ok item := by
    have hget : params.get "item" = some value := by
      have hfound := hmessage.found
      unfold objectField at hfound
      split at hfound
      · split at hfound
        · cases hfound
          assumption
        · cases hfound
      · cases hfound
    rw [nestedId, hget, Option.bind_some] at hitem
    unfold stringField
    rw [hitem]
  obtain ⟨mapping, hmapping⟩ : ∃ mapping, s.run.mapper.threads[thread]? = some mapping := by
    have hknown := h.known
    rw [Bool.and_eq_true] at hknown
    exact Option.isSome_iff_exists.mp (by simpa using hknown.2)
  obtain ⟨d, s', hrun, rfl⟩ := (Mapping.triple_itemCompleted_mapped hturnId hmessage hid
    (hroom mapping hmapping) fun event hsession hsequence hshown =>
      h.commits mapping event hmapping hsession hsequence hshown).exists_return
    (s := ⟨s.run.mapper, s.run.host, []⟩) ⟨⟨rfl, mapping, hmapping, rfl, rfl⟩, h.alone⟩
  exact ⟨s', hrun⟩

variable (host) in
/-- A notification about the item: it is handled once, with one message. -/
theorem step_item {s : Hearing B} {input : String × Value}
    (hs : Remembers s.run.mapper s.heard) (hfair : Fair s input)
    (h : Subject.ofNotification input.1 input.2 = some (.item thread turn item)) :
    let events := messagesOf (.item thread turn item) input (s.step host input).2
    let next := (s.step host input).1.heard
    (Subject.item thread turn item ∈ s.heard → events = []) ∧
    (Subject.item thread turn item ∉ s.heard →
      (events.length = 1 ∧ Subject.item thread turn item ∈ next) ∨
      (events = [] ∧ Subject.item thread turn item ∉ next ∧
        ¬ Receives host s input thread turn item)) := by
  obtain ⟨method, params⟩ := input
  obtain ⟨rfl, -⟩ := Mapping.item_of_subject h
  have hrun := Mapping.notification_item (recording host)
    ⟨s.run.mapper, s.run.host, []⟩ h
  have hevents : (s.step host ("item/completed", params)).2 =
      (Mapping.notification (recording host) "item/completed" params
        ⟨s.run.mapper, s.run.host, []⟩).2.host.2 := rfl
  have hnext : (s.step host ("item/completed", params)).1.heard =
      Mapping.heardAfter s.heard "item/completed" params
        (Mapping.notification (recording host) "item/completed" params
          ⟨s.run.mapper, s.run.host, []⟩).1 := rfl
  dsimp only
  rw [hevents, hnext, messagesOf, if_pos h, hrun]
  constructor
  · intro hold
    -- the key of the item, or of the end of its turn, is still remembered
    have hfiltered : ¬ ((s.run.mapper.configured.contains thread &&
        s.run.mapper.threads.contains thread) = true ∧
        s.run.mapper.recentKeys.contains (Mapping.completedKey thread turn) = false ∧
        s.run.mapper.recentKeys.contains (Subject.item thread turn item).key = false) := by
      rintro ⟨-, hcurrent, hfree⟩
      rcases hfair.again thread turn item h hold with hmem | hmem
      · rw [(hs.contains_iff _).mpr ⟨_, hmem, rfl⟩] at hfree
        cases hfree
      · have hkey : s.run.mapper.recentKeys.contains (Mapping.completedKey thread turn) = true :=
          (hs.contains_iff _).mpr ⟨_, hmem, rfl⟩
        rw [hkey] at hcurrent
        cases hcurrent
    rw [if_neg hfiltered]
    rfl
  · intro hnew
    split
    · have hroom : Mapping.Logged thread []
          (⟨s.run.mapper, s.run.host, []⟩ : MapperState (B × List AgentEvent)) :=
        ⟨rfl, hfair.room thread turn item h⟩
      have hspec := Mapping.triple_itemCompleted host thread params []
      rcases hresult : Mapping.itemCompleted (recording host) thread params
        ⟨s.run.mapper, s.run.host, []⟩ with ⟨result, s'⟩
      cases result with
      | error e =>
        have hnone : s'.host.2 = [] := hspec.fails _ e s' hroom hresult
        refine .inr ⟨?_, hnew, ?_⟩
        · dsimp only
          rw [hnone]
          rfl
        · intro hreceives
          obtain ⟨t, hmapped⟩ := mapped_of_receives (hfair.room thread turn item h) hreceives
          rw [hresult] at hmapped
          cases hmapped
      | ok d =>
        rcases hspec.returns _ d s' hroom hresult with ⟨rfl, event, value, text, hone, -, -, hshown⟩ |
          ⟨rfl, hnone⟩
        · left
          obtain ⟨content, -, hpayload⟩ := hshown
          have hmessage : isMessage event = true := by rw [isMessage, hpayload]
          refine ⟨?_, ?_⟩
          · dsimp only
            rw [hone, List.nil_append, List.filter_cons_of_pos hmessage]
            rfl
          · show Subject.item thread turn item ∈ s.heard ++ _
            rw [h]
            simp
        · refine .inr ⟨?_, hnew, ?_⟩
          · dsimp only
            rw [hnone]
            rfl
          · intro hreceives
            obtain ⟨t, hmapped⟩ := mapped_of_receives (hfair.room thread turn item h) hreceives
            rw [hresult] at hmapped
            cases hmapped
    · next hfiltered =>
      refine .inr ⟨rfl, hnew, ?_⟩
      intro hreceives
      exact hfiltered (free_of_receives hs hfair hreceives hnew)

theorem run_messages {s : Hearing B} {inputs : List (String × Value)}
    (hs : Remembers s.run.mapper s.heard) (hfair : Trace.Along (step host) Fair s inputs) :
    let messages := Trace.collected (step host) (messagesOf (.item thread turn item)) s inputs
    (Subject.item thread turn item ∈ s.heard → messages = []) ∧
    (Subject.item thread turn item ∉ s.heard → messages.length ≤ 1 ∧
      ∀ before input after, inputs = before ++ input :: after →
        Receives host (Trace.final (step host) s before) input thread turn item →
        messages.length = 1) := by
  induction inputs generalizing s with
  | nil =>
    refine ⟨fun _ => rfl, fun _ => ⟨Nat.zero_le 1, ?_⟩⟩
    intro before input after hnil
    simp at hnil
  | cons input rest ih =>
    have hnext := ih (step_remembers host hs input) hfair.2
    dsimp only at hnext ⊢
    rw [Trace.collected]
    by_cases hsubject : Subject.ofNotification input.1 input.2 = some (.item thread turn item)
    · have hstep := step_item host hs hfair.1 hsubject
      dsimp only at hstep
      constructor
      · intro hold
        rw [hstep.1 hold, hnext.1 (heard_subset s input hold)]
        rfl
      · intro hnew
        rcases hstep.2 hnew with ⟨hone, hheard⟩ | ⟨hnone, hheard, hmissed⟩
        · have hrest := hnext.1 hheard
          rw [hrest, List.append_nil, hone]
          exact ⟨le_rfl, fun _ _ _ _ _ => rfl⟩
        · rw [hnone, List.nil_append]
          obtain ⟨hmost, hreceived⟩ := hnext.2 hheard
          refine ⟨hmost, ?_⟩
          intro before found after hsplit hreceives
          cases before with
          | nil =>
            cases hsplit
            exact absurd hreceives hmissed
          | cons first before =>
            obtain ⟨rfl, hrest⟩ := List.cons.inj hsplit
            exact hreceived before found after hrest hreceives
    · obtain ⟨hnone, hheard⟩ := step_other host hsubject
      rw [hnone, List.nil_append]
      constructor
      · exact fun hold => hnext.1 (heard_subset s input hold)
      · intro hnew
        obtain ⟨hmost, hreceived⟩ := hnext.2 fun hmem => hnew (hheard hmem)
        refine ⟨hmost, ?_⟩
        intro before found after hsplit hreceives
        cases before with
        | nil =>
          cases hsplit
          exact absurd hreceives.subject hsubject
        | cons first before =>
          obtain ⟨rfl, hrest⟩ := List.cons.inj hsplit
          exact hreceived before found after hrest hreceives

/-- In a run whose notifications find their keys free, a message is published at most
once, and once it is received exactly once. -/
theorem message_published_once (host : ProviderHost B) (mapper : CodexEventMapper) (b : B)
    (inputs : List (String × Value)) (thread turn item : String)
    (horder : mapper.recentOrder = []) (hkeys : mapper.recentKeys = ∅)
    (hfair : Trace.Along (step host) Fair ⟨⟨mapper, b⟩, []⟩ inputs) :
    let messages := Trace.collected (step host) (messagesOf (.item thread turn item))
      ⟨⟨mapper, b⟩, []⟩ inputs
    messages.length ≤ 1 ∧
      ∀ before input after, inputs = before ++ input :: after →
        Receives host (Trace.final (step host) ⟨⟨mapper, b⟩, []⟩ before) input thread turn item →
        messages.length = 1 := by
  have hs : Remembers mapper [] := by
    refine ⟨by rw [horder]; rfl, ?_, by rw [horder]; exact List.nodup_nil⟩
    intro key
    rw [hkeys, horder]
    simp
  exact (run_messages (s := ⟨⟨mapper, b⟩, []⟩) hs hfair).2 (by simp)

end Hearing

namespace Sample

/-- A message of the agent as the server reports it. -/
def messageParams (turn item text : String) : Value :=
  .object [
    ("threadId", .string thread), ("turnId", .string turn), ("completedAtMs", .int 3),
    ("item", .object [
      ("id", .string item), ("type", .string "agentMessage"), ("text", .string text)])]

/-- The first item of both turns has the same identifier. -/
def twoTurns : List (String × Value) :=
  [("turn/started", turnParams "t1" "inProgress"), ("item/completed", messageParams "t1" "i1" "one"),
    ("turn/completed", turnParams "t1" "completed"),
    ("turn/started", turnParams "t2" "inProgress")]

end Sample

namespace Hearing

open AgentPulse.Codex.Sample (discovered messageParams twoTurns)

/-- One message, delivered by the observer and by a proxy, is published once. -/
theorem message_published_once_mirrored :
    (Trace.collected (step Sample.host) (messagesOf (.item Sample.thread "t1" "i1"))
      ⟨⟨discovered.mapper, discovered.host⟩, []⟩
      [("item/completed", messageParams "t1" "i1" "one"),
        ("item/completed", messageParams "t1" "i1" "one")]).length = 1 := by
  have hroom : ∀ mapper : CodexEventMapper, (mapper.threads[Sample.thread]?.all fun mapping =>
      mapping.nextSequence.checkedNext.isSome) = true → Mapping.HasRoom Sample.thread mapper := by
    intro mapper hall mapping hmapping
    rw [hmapping] at hall
    exact hall
  have hsubject : Subject.ofNotification "item/completed" (messageParams "t1" "i1" "one") =
      some (.item Sample.thread "t1" "i1") := by decide +kernel
  have hreceives : Receives Sample.host ⟨⟨discovered.mapper, discovered.host⟩, []⟩
      ("item/completed", messageParams "t1" "i1" "one") Sample.thread "t1" "i1" := by
    constructor
    · exact hsubject
    · exact ⟨_, _, ⟨rfl, ⟨"agentMessage", rfl, .inl rfl⟩, ⟨"one", rfl, by decide⟩, ⟨3, rfl, rfl⟩⟩⟩
    · decide +kernel
    · exact .inl (by decide +kernel)
    · simp
    · exact fun _ _ _ _ _ _ => rfl
  refine (message_published_once Sample.host discovered.mapper discovered.host
    [("item/completed", messageParams "t1" "i1" "one"),
      ("item/completed", messageParams "t1" "i1" "one")] Sample.thread "t1" "i1"
    (by decide +kernel) rfl ?_).2 [] _ _ rfl hreceives
  refine ⟨?_, ?_, trivial⟩
  · constructor
    · intro thread turn item _ _ other hother
      cases hother
    · intro thread turn item _ hheard
      cases hheard
    · intro thread turn item hfound
      cases hsubject.symm.trans hfound
      exact hroom _ (by decide +kernel)
  · constructor
    · intro thread turn item hfound hnew
      cases hsubject.symm.trans hfound
      exact absurd (by decide +kernel) hnew
    · intro thread turn item hfound _
      cases hsubject.symm.trans hfound
      exact .inl (by decide +kernel)
    · intro thread turn item hfound
      cases hsubject.symm.trans hfound
      exact hroom _ (by decide +kernel)

/-- A message of the second turn whose item has an identifier of the first is lost. -/
theorem message_lost :
    Receives Sample.host (Trace.final (step Sample.host)
        ⟨⟨discovered.mapper, discovered.host⟩, []⟩ twoTurns)
      ("item/completed", messageParams "t2" "i1" "two") Sample.thread "t2" "i1" ∧
    Trace.collected (step Sample.host) (messagesOf (.item Sample.thread "t2" "i1"))
      ⟨⟨discovered.mapper, discovered.host⟩, []⟩
      (twoTurns ++ [("item/completed", messageParams "t2" "i1" "two")]) = [] := by
  refine ⟨?_, ?_⟩
  · constructor
    · decide +kernel
    · exact ⟨_, _, ⟨rfl, ⟨"agentMessage", rfl, .inl rfl⟩, ⟨"two", rfl, by decide⟩, ⟨3, rfl, rfl⟩⟩⟩
    · decide +kernel
    · decide +kernel
    · decide +kernel
    · exact fun _ _ _ _ _ _ => rfl
  · decide +kernel

end Hearing

end Codex

end AgentPulse
