import AgentPulse.Trace
import AgentPulse.Waiting

/-!
# The permits and the lock of the bridge

Each call through a handle locks the permit of the handle, then the bridge, and
keeps both while its operation runs. A port that the operation delivers to may
call any handle from there. The threads move one lock step at a time, in any
order.
-/
namespace AgentPulse

/-- What a call is made through. -/
inductive HostEntry (Handle : Type) where
  /-- `publish_event` and the operations of a channel handle. -/
  | ingress (handle : Handle)
  /-- A method of the host itself. -/
  | host
  /-- `IngressPermit::revoke`. -/
  | revoke (handle : Handle)
  deriving DecidableEq

inductive CallOutcome where
  | done | inactive | reentrantBridgeAccess
  deriving DecidableEq, Repr

/-- Where a call is. -/
inductive CallStage where
  /-- Before the lock of its permit. -/
  | asking
  /-- In, and before the check of the owner. -/
  | entered
  /-- Before the lock of the bridge. -/
  | awaiting
  /-- The bridge is locked and the owner is not written yet. -/
  | acquired
  | running
  /-- The owner is cleared and the bridge is not unlocked yet. -/
  | closing
  /-- Before it drops its permit. -/
  | returning (outcome : CallOutcome)
  deriving DecidableEq, Repr

structure CallFrame (Handle : Type) where
  entry : HostEntry Handle
  stage : CallStage
  deriving DecidableEq

/-- The mutexes of the host with the threads that hold them, and the calls of
each thread, the innermost first. -/
structure HostLocks (Thread Handle : Type) where
  active : Handle → Bool
  permit : Handle → Option Thread
  bridge : Option Thread
  owner : Option Thread
  calls : Thread → List (CallFrame Handle)

inductive HostAction (Thread Handle : Type) where
  | ingress (thread : Thread) (handle : Handle)
  | host (thread : Thread)
  | revoke (thread : Thread) (handle : Handle)
  /-- The innermost call of the thread takes its next step, if it can. -/
  | proceed (thread : Thread)

structure ReturnedCall where
  /-- The call was made while its thread held the bridge. -/
  nested : Bool
  outcome : CallOutcome
  deriving DecidableEq, Repr

def HostEntry.handle? {Handle : Type} : HostEntry Handle → Option Handle
  | .ingress handle => some handle
  | .host => none
  | .revoke handle => some handle

def HostAction.thread {Thread Handle : Type} : HostAction Thread Handle → Thread
  | .ingress thread _ => thread
  | .host thread => thread
  | .revoke thread _ => thread
  | .proceed thread => thread

namespace HostLocks

variable {Thread Handle : Type} [DecidableEq Thread] [DecidableEq Handle]

def start (active : Handle → Bool) : HostLocks Thread Handle :=
  ⟨active, fun _ => none, none, none, fun _ => []⟩

def setStack (self : HostLocks Thread Handle) (thread : Thread) (stack : List (CallFrame Handle)) :
    HostLocks Thread Handle :=
  { self with calls := Function.update self.calls thread stack }

def setPermit (self : HostLocks Thread Handle) (handle : Handle) (holder : Option Thread) :
    HostLocks Thread Handle :=
  { self with permit := Function.update self.permit handle holder }

def deactivate (self : HostLocks Thread Handle) (handle : Handle) : HostLocks Thread Handle :=
  { self with active := Function.update self.active handle false }

def dropPermit (self : HostLocks Thread Handle) (entry : HostEntry Handle) :
    HostLocks Thread Handle :=
  match entry.handle? with
  | some handle => self.setPermit handle none
  | none => self

/-- One step of a call of the thread that has no call within. -/
def proceed (self : HostLocks Thread Handle) (thread : Thread) :
    HostLocks Thread Handle × Option ReturnedCall :=
  match self.calls thread with
  | [] => (self, none)
  | frame :: below =>
    let moved := fun stage => ⟨frame.entry, stage⟩ :: below
    match frame.stage with
    | .asking =>
      match frame.entry with
      | .host => (self.setStack thread (moved .entered), none)
      | .ingress handle =>
        if self.permit handle = none then
          let stage := if self.active handle then .entered else .returning .inactive
          ((self.setPermit handle (some thread)).setStack thread (moved stage), none)
        else (self, none)
      | .revoke handle =>
        if self.permit handle = none then
          (((self.setPermit handle (some thread)).deactivate handle).setStack thread
            (moved (.returning .done)), none)
        else (self, none)
    | .entered =>
      if self.owner = some thread then
        (self.setStack thread (moved (.returning .reentrantBridgeAccess)), none)
      else (self.setStack thread (moved .awaiting), none)
    | .awaiting =>
      if self.bridge = none then
        ({ self with bridge := some thread }.setStack thread (moved .acquired), none)
      else (self, none)
    | .acquired => ({ self with owner := some thread }.setStack thread (moved .running), none)
    | .running => ({ self with owner := none }.setStack thread (moved .closing), none)
    | .closing => ({ self with bridge := none }.setStack thread (moved (.returning .done)), none)
    | .returning outcome =>
      ((self.dropPermit frame.entry).setStack thread below, some ⟨!below.isEmpty, outcome⟩)

/-- Calls start outside of any call, and through handles also inside a running operation. -/
def step (self : HostLocks Thread Handle) :
    HostAction Thread Handle → HostLocks Thread Handle × Option ReturnedCall
  | .ingress thread handle =>
    match self.calls thread with
    | [] => (self.setStack thread [⟨.ingress handle, .asking⟩], none)
    | frame :: below =>
      if frame.stage = .running then
        (self.setStack thread (⟨.ingress handle, .asking⟩ :: frame :: below), none)
      else (self, none)
  | .host thread =>
    if self.calls thread = [] then (self.setStack thread [⟨.host, .asking⟩], none) else (self, none)
  | .revoke thread handle =>
    if self.calls thread = [] then (self.setStack thread [⟨.revoke handle, .asking⟩], none)
    else (self, none)
  | .proceed thread => self.proceed thread

inductive HostLock (Handle : Type) where
  | permit (handle : Handle)
  | bridge
  deriving DecidableEq

/-- The lock that the innermost call asks for. -/
def waits (self : HostLocks Thread Handle) (thread : Thread) : Option (HostLock Handle) :=
  match self.calls thread with
  | [] => none
  | frame :: _ =>
    match frame.stage with
    | .asking => frame.entry.handle?.map .permit
    | .awaiting => some .bridge
    | _ => none

def holder (self : HostLocks Thread Handle) : HostLock Handle → Option Thread
  | .permit handle => self.permit handle
  | .bridge => self.bridge

/-- A thread waits for a permit that is held by itself, or by a thread that waits
for the bridge while the first one holds it. -/
def Stuck (self : HostLocks Thread Handle) : Prop :=
  ∃ thread handle other, self.waits thread = some (.permit handle) ∧
    self.permit handle = some other ∧
    (other = thread ∨ self.waits other = some .bridge ∧ self.bridge = some thread)

end HostLocks

namespace CallFrame

variable {Handle : Type}

def permit? (self : CallFrame Handle) : Option Handle :=
  if self.stage = .asking then none else self.entry.handle?

def HoldsBridge (self : CallFrame Handle) : Prop :=
  self.stage = .acquired ∨ self.stage = .running ∨ self.stage = .closing

instance (self : CallFrame Handle) : Decidable self.HoldsBridge :=
  inferInstanceAs (Decidable (_ ∨ _ ∨ _))

end CallFrame

/-- A thread is in no call, in one, or in a second one that the running operation
of the first has made and that does not get as far as the bridge. -/
inductive CallShape {Handle : Type} : List (CallFrame Handle) → Prop where
  | idle : CallShape []
  | outer (entry : HostEntry Handle) (stage : CallStage)
      (hrevoke : ∀ handle, entry = .revoke handle →
        stage = .asking ∨ stage = .returning .done) : CallShape [⟨entry, stage⟩]
  | nested (entry : HostEntry Handle) (handle : Handle) (stage : CallStage)
      (hrevoke : ∀ other, entry ≠ .revoke other)
      (hstage : stage = .asking ∨ stage = .entered ∨ stage = .returning .inactive ∨
        stage = .returning .reentrantBridgeAccess) :
      CallShape [⟨.ingress handle, stage⟩, ⟨entry, .running⟩]

namespace HostLocks

variable {Thread Handle : Type} [DecidableEq Thread] [DecidableEq Handle]

/-- The locks are held by the calls that have taken them, each by one. -/
structure Consistent (locks : HostLocks Thread Handle) : Prop where
  shape : ∀ thread, CallShape (locks.calls thread)
  permits : ∀ thread handle, locks.permit handle = some thread ↔
    handle ∈ (locks.calls thread).filterMap CallFrame.permit?
  nodup : ∀ thread, ((locks.calls thread).filterMap CallFrame.permit?).Nodup
  bridges : ∀ thread, locks.bridge = some thread ↔ ∃ frame ∈ locks.calls thread, frame.HoldsBridge
  owners : ∀ thread, locks.owner = some thread ↔ ∃ frame ∈ locks.calls thread, frame.stage = .running

omit [DecidableEq Thread] [DecidableEq Handle] in
theorem consistent_start (active : Handle → Bool) :
    (start active : HostLocks Thread Handle).Consistent where
  shape _ := .idle
  permits _ _ := by simp [start]
  nodup _ := by simp [start]
  bridges _ := by simp [start]
  owners _ := by simp [start]

omit [DecidableEq Handle] in
/-- A step of one thread leaves what the others hold. -/
theorem Consistent.update {self next : HostLocks Thread Handle} (hself : self.Consistent)
    (thread : Thread) (stack : List (CallFrame Handle))
    (hcalls : next.calls = Function.update self.calls thread stack)
    (hpermit : ∀ other handle, other ≠ thread →
      (next.permit handle = some other ↔ self.permit handle = some other))
    (hbridge : ∀ other, other ≠ thread → (next.bridge = some other ↔ self.bridge = some other))
    (howner : ∀ other, other ≠ thread → (next.owner = some other ↔ self.owner = some other))
    (hshape : CallShape stack)
    (hpermits : ∀ handle, next.permit handle = some thread ↔
      handle ∈ stack.filterMap CallFrame.permit?)
    (hnodup : (stack.filterMap CallFrame.permit?).Nodup)
    (hbridges : next.bridge = some thread ↔ ∃ frame ∈ stack, frame.HoldsBridge)
    (howners : next.owner = some thread ↔ ∃ frame ∈ stack, frame.stage = .running) :
    next.Consistent := by
  have hsame : next.calls thread = stack := by rw [hcalls, Function.update_self]
  have hother : ∀ other, other ≠ thread → next.calls other = self.calls other :=
    fun other hne => by rw [hcalls, Function.update_of_ne hne]
  constructor
  · intro other
    by_cases hne : other = thread
    · rw [hne, hsame]
      exact hshape
    · rw [hother other hne]
      exact hself.shape other
  · intro other handle
    by_cases hne : other = thread
    · rw [hne, hsame]
      exact hpermits handle
    · rw [hother other hne, hpermit other handle hne]
      exact hself.permits other handle
  · intro other
    by_cases hne : other = thread
    · rw [hne, hsame]
      exact hnodup
    · rw [hother other hne]
      exact hself.nodup other
  · intro other
    by_cases hne : other = thread
    · rw [hne, hsame]
      exact hbridges
    · rw [hother other hne, hbridge other hne]
      exact hself.bridges other
  · intro other
    by_cases hne : other = thread
    · rw [hne, hsame]
      exact howners
    · rw [hother other hne, howner other hne]
      exact hself.owners other

omit [DecidableEq Thread] [DecidableEq Handle] in
theorem Consistent.bridge_of_owner {self : HostLocks Thread Handle} (hself : self.Consistent)
    {thread : Thread} (h : self.owner = some thread) : self.bridge = some thread := by
  obtain ⟨frame, hframe, hrunning⟩ := (hself.owners thread).mp h
  exact (hself.bridges thread).mpr ⟨frame, hframe, .inr (.inl hrunning)⟩

omit [DecidableEq Handle] in
theorem Consistent.push {self : HostLocks Thread Handle} (hself : self.Consistent)
    (thread : Thread) (entry : HostEntry Handle)
    (hshape : CallShape (⟨entry, .asking⟩ :: self.calls thread)) :
    (self.setStack thread (⟨entry, .asking⟩ :: self.calls thread)).Consistent := by
  have hold : (⟨entry, .asking⟩ : CallFrame Handle).permit? = none := rfl
  refine hself.update thread _ rfl (fun _ _ _ => Iff.rfl) (fun _ _ => Iff.rfl)
    (fun _ _ => Iff.rfl) hshape ?_ ?_ ?_ ?_
  · intro handle
    rw [List.filterMap_cons_none hold]
    exact hself.permits thread handle
  · rw [List.filterMap_cons_none hold]
    exact hself.nodup thread
  · simpa [CallFrame.HoldsBridge, setStack] using hself.bridges thread
  · simpa [setStack] using hself.owners thread

omit [DecidableEq Handle] in
/-- A step that leaves the permits as they are. -/
theorem Consistent.pass {self : HostLocks Thread Handle} (hself : self.Consistent)
    {thread : Thread} {entry : HostEntry Handle} {stage next : CallStage}
    {below : List (CallFrame Handle)} (bridge owner : Option Thread)
    (hcalls : self.calls thread = ⟨entry, stage⟩ :: below)
    (hpermit : (⟨entry, next⟩ : CallFrame Handle).permit? =
      (⟨entry, stage⟩ : CallFrame Handle).permit?)
    (hshape : CallShape (⟨entry, next⟩ :: below))
    (hbridge : ∀ other, other ≠ thread → (bridge = some other ↔ self.bridge = some other))
    (howner : ∀ other, other ≠ thread → (owner = some other ↔ self.owner = some other))
    (hbridges : bridge = some thread ↔
      ∃ frame ∈ (⟨entry, next⟩ :: below : List (CallFrame Handle)), frame.HoldsBridge)
    (howners : owner = some thread ↔
      ∃ frame ∈ (⟨entry, next⟩ :: below : List (CallFrame Handle)), frame.stage = .running) :
    ({ self with bridge := bridge, owner := owner }.setStack thread
      (⟨entry, next⟩ :: below)).Consistent := by
  have hsame : (⟨entry, next⟩ :: below : List (CallFrame Handle)).filterMap CallFrame.permit? =
      (self.calls thread).filterMap CallFrame.permit? := by
    rw [hcalls, List.filterMap_cons, List.filterMap_cons, hpermit]
  refine hself.update thread _ rfl (fun _ _ _ => Iff.rfl) hbridge howner hshape ?_ ?_ hbridges
    howners
  · intro handle
    rw [hsame]
    exact hself.permits thread handle
  · rw [hsame]
    exact hself.nodup thread

theorem Consistent.enter {self : HostLocks Thread Handle} (hself : self.Consistent)
    {thread : Thread} {entry : HostEntry Handle} {below : List (CallFrame Handle)}
    {handle : Handle} {stage : CallStage} (active : Handle → Bool)
    (hcalls : self.calls thread = ⟨entry, .asking⟩ :: below) (hfree : self.permit handle = none)
    (hhandle : entry.handle? = some handle)
    (hstage : stage = .entered ∨ ∃ outcome, stage = .returning outcome)
    (hshape : CallShape (⟨entry, stage⟩ :: below)) :
    ({ (self.setPermit handle (some thread)).setStack thread (⟨entry, stage⟩ :: below) with
      active := active } : HostLocks Thread Handle).Consistent := by
  have hnew : (⟨entry, stage⟩ : CallFrame Handle).permit? = some handle := by
    rcases hstage with rfl | ⟨outcome, rfl⟩ <;> simpa [CallFrame.permit?] using hhandle
  have hold : (⟨entry, .asking⟩ : CallFrame Handle).permit? = none := rfl
  have hbelow : ∀ other, self.permit other = some thread ↔
      other ∈ below.filterMap CallFrame.permit? := by
    intro other
    rw [hself.permits, hcalls, List.filterMap_cons_none hold]
  have habsent : handle ∉ below.filterMap CallFrame.permit? := by
    rw [← hbelow, hfree]
    simp
  refine hself.update thread (⟨entry, stage⟩ :: below) rfl ?_ (fun _ _ => Iff.rfl)
    (fun _ _ => Iff.rfl) hshape ?_ ?_ ?_ ?_
  · intro other key hne
    by_cases hkey : key = handle
    · subst hkey
      simp [setPermit, setStack, hfree, Ne.symm hne]
    · simp [setPermit, setStack, hkey]
  · intro key
    rw [List.filterMap_cons_some hnew]
    by_cases hkey : key = handle
    · simp [setPermit, setStack, hkey]
    · simpa [setPermit, setStack, hkey] using hbelow key
  · rw [List.filterMap_cons_some hnew, List.nodup_cons]
    have hnodup := hself.nodup thread
    rw [hcalls, List.filterMap_cons_none hold] at hnodup
    exact ⟨habsent, hnodup⟩
  · have hbridge := hself.bridges thread
    rw [hcalls] at hbridge
    rcases hstage with rfl | ⟨outcome, rfl⟩ <;> simpa [CallFrame.HoldsBridge, setPermit, setStack] using hbridge
  · have howner := hself.owners thread
    rw [hcalls] at howner
    rcases hstage with rfl | ⟨outcome, rfl⟩ <;> simpa [setPermit, setStack] using howner

theorem Consistent.return {self : HostLocks Thread Handle} (hself : self.Consistent)
    {thread : Thread} {entry : HostEntry Handle} {below : List (CallFrame Handle)}
    {outcome : CallOutcome} (hcalls : self.calls thread = ⟨entry, .returning outcome⟩ :: below)
    (hshape : CallShape below) :
    ((self.dropPermit entry).setStack thread below).Consistent := by
  have hpermits := hself.permits thread
  have hnodup := hself.nodup thread
  have hbridge := hself.bridges thread
  have howner := hself.owners thread
  rw [hcalls] at hpermits hnodup hbridge howner
  cases hhandle : entry.handle? with
  | none =>
    have hfirst : (⟨entry, .returning outcome⟩ : CallFrame Handle).permit? = none := hhandle
    rw [List.filterMap_cons_none hfirst] at hpermits hnodup
    have hdrop : self.dropPermit entry = self := by simp [dropPermit, hhandle]
    rw [hdrop]
    refine hself.update thread below rfl (fun _ _ _ => Iff.rfl) (fun _ _ => Iff.rfl)
      (fun _ _ => Iff.rfl) hshape hpermits hnodup ?_ ?_
    · simpa [CallFrame.HoldsBridge, setStack] using hbridge
    · simpa [setStack] using howner
  | some handle =>
    have hfirst : (⟨entry, .returning outcome⟩ : CallFrame Handle).permit? = some handle := hhandle
    rw [List.filterMap_cons_some hfirst] at hpermits hnodup
    have hheld : self.permit handle = some thread := (hpermits handle).mpr (by simp)
    have hdrop : self.dropPermit entry = self.setPermit handle none := by
      simp [dropPermit, hhandle]
    rw [List.nodup_cons] at hnodup
    rw [hdrop]
    refine hself.update thread below rfl ?_ (fun _ _ => Iff.rfl) (fun _ _ => Iff.rfl) hshape ?_
      hnodup.2 ?_ ?_
    · intro other key hne
      by_cases hkey : key = handle
      · subst hkey
        simp [setPermit, setStack, hheld, Ne.symm hne]
      · simp [setPermit, setStack, hkey]
    · intro key
      by_cases hkey : key = handle
      · subst hkey
        simpa [setPermit, setStack] using hnodup.1
      · simpa [setPermit, setStack, hkey] using hpermits key
    · simpa [CallFrame.HoldsBridge, setPermit, setStack] using hbridge
    · simpa [setPermit, setStack] using howner

theorem consistent_proceed {self : HostLocks Thread Handle} (hself : self.Consistent)
    (thread : Thread) : (self.proceed thread).1.Consistent := by
  have hshape := hself.shape thread
  have hbridges := hself.bridges thread
  have howners := hself.owners thread
  unfold proceed
  generalize hcalls : self.calls thread = calls at hshape
  rw [hcalls] at hbridges howners
  cases hshape with
  | idle => exact hself
  | outer entry stage hrevoke =>
    have hrevoked : ∀ next : CallStage, stage ≠ .asking → (∀ outcome, stage ≠ .returning outcome) →
        CallShape [(⟨entry, next⟩ : CallFrame Handle)] := by
      intro next hasking hreturning
      refine .outer entry next fun handle hentry => ?_
      rcases hrevoke handle hentry with h | h
      · exact absurd h hasking
      · exact absurd h (hreturning .done)
    cases stage with
    | asking =>
      cases entry with
      | host =>
        refine hself.pass self.bridge self.owner hcalls rfl (.outer _ _ (by simp))
          (fun _ _ => Iff.rfl) (fun _ _ => Iff.rfl) ?_ ?_
        · simpa [CallFrame.HoldsBridge] using hbridges
        · simpa using howners
      | ingress handle =>
        dsimp only
        split
        · next hfree =>
          cases hactive : self.active handle with
          | true => exact hself.enter _ hcalls hfree rfl (.inl rfl) (.outer _ _ (by simp))
          | false => exact hself.enter _ hcalls hfree rfl (.inr ⟨_, rfl⟩) (.outer _ _ (by simp))
        · exact hself
      | revoke handle =>
        dsimp only
        split
        · next hfree => exact hself.enter _ hcalls hfree rfl (.inr ⟨_, rfl⟩) (.outer _ _ (by simp))
        · exact hself
    | entered =>
      dsimp only
      split
      · next howner => simp [howner] at howners
      · refine hself.pass self.bridge self.owner hcalls rfl (hrevoked _ (by simp) (by simp))
          (fun _ _ => Iff.rfl) (fun _ _ => Iff.rfl) ?_ ?_
        · simpa [CallFrame.HoldsBridge] using hbridges
        · simpa using howners
    | awaiting =>
      dsimp only
      split
      · next hfree =>
        refine hself.pass (some thread) self.owner hcalls rfl (hrevoked _ (by simp) (by simp)) ?_
          (fun _ _ => Iff.rfl) ?_ ?_
        · intro other hne
          simp [hfree, Ne.symm hne]
        · simp [CallFrame.HoldsBridge]
        · simpa using howners
      · exact hself
    | acquired =>
      have hheld : self.bridge = some thread := hbridges.mpr (by simp [CallFrame.HoldsBridge])
      have hfree : ∀ other, other ≠ thread → self.owner ≠ some other := by
        intro other hne howner
        have hbridge := hself.bridge_of_owner howner
        rw [hheld] at hbridge
        exact hne (Option.some.inj hbridge).symm
      refine hself.pass self.bridge (some thread) hcalls rfl (hrevoked _ (by simp) (by simp))
        (fun _ _ => Iff.rfl) ?_ ?_ ?_
      · intro other hne
        simp [hfree other hne, Ne.symm hne]
      · simp [CallFrame.HoldsBridge, hheld]
      · simp
    | running =>
      have hheld : self.bridge = some thread := hbridges.mpr (by simp [CallFrame.HoldsBridge])
      have howner : self.owner = some thread := howners.mpr (by simp)
      refine hself.pass self.bridge none hcalls rfl (hrevoked _ (by simp) (by simp))
        (fun _ _ => Iff.rfl) ?_ ?_ ?_
      · intro other hne
        simp [howner, Ne.symm hne]
      · simp [CallFrame.HoldsBridge, hheld]
      · simp
    | closing =>
      have hheld : self.bridge = some thread := hbridges.mpr (by simp [CallFrame.HoldsBridge])
      refine hself.pass none self.owner hcalls rfl (hrevoked _ (by simp) (by simp)) ?_
        (fun _ _ => Iff.rfl) ?_ ?_
      · intro other hne
        simp [hheld, Ne.symm hne]
      · simp [CallFrame.HoldsBridge]
      · simpa using howners
    | returning outcome => exact hself.return hcalls .idle
  | nested entry handle stage hrevoke hstage =>
    have hheld : self.bridge = some thread := hbridges.mpr (by simp [CallFrame.HoldsBridge])
    have howner : self.owner = some thread := howners.mpr (by simp)
    have hbelow : CallShape [(⟨entry, .running⟩ : CallFrame Handle)] :=
      .outer _ _ fun other hentry => absurd hentry (hrevoke other)
    rcases hstage with rfl | rfl | rfl | rfl
    · dsimp only
      split
      · next hfree =>
        cases hactive : self.active handle with
        | true =>
          exact hself.enter _ hcalls hfree rfl (.inl rfl) (.nested _ _ _ hrevoke (by simp))
        | false =>
          exact hself.enter _ hcalls hfree rfl (.inr ⟨_, rfl⟩) (.nested _ _ _ hrevoke (by simp))
      · exact hself
    · dsimp only
      rw [if_pos howner]
      refine hself.pass self.bridge self.owner hcalls rfl (.nested _ _ _ hrevoke (by simp))
        (fun _ _ => Iff.rfl) (fun _ _ => Iff.rfl) ?_ ?_
      · simp [CallFrame.HoldsBridge, hheld]
      · simp [howner]
    · exact hself.return hcalls hbelow
    · exact hself.return hcalls hbelow

theorem consistent_step {self : HostLocks Thread Handle} (hself : self.Consistent)
    (action : HostAction Thread Handle) : (self.step action).1.Consistent := by
  cases action with
  | proceed thread => exact consistent_proceed hself thread
  | host thread =>
    unfold step
    dsimp only
    split
    · next hidle =>
      have hpush := hself.push thread .host
        (by rw [hidle]; exact .outer _ _ (by simp))
      rwa [hidle] at hpush
    · exact hself
  | revoke thread handle =>
    unfold step
    dsimp only
    split
    · next hidle =>
      have hpush := hself.push thread (.revoke handle)
        (by rw [hidle]; exact .outer _ _ (by simp))
      rwa [hidle] at hpush
    · exact hself
  | ingress thread handle =>
    have hshape := hself.shape thread
    generalize hcalls : self.calls thread = calls at hshape
    simp only [step, hcalls]
    cases hshape with
    | idle =>
      have hpush := hself.push thread (.ingress handle)
        (by rw [hcalls]; exact .outer _ _ (by simp))
      rwa [hcalls] at hpush
    | outer entry stage hrevoke =>
      dsimp only
      split
      · next hrunning =>
        subst hrunning
        have hpush := hself.push thread (.ingress handle)
          (by
            rw [hcalls]
            exact .nested _ _ _ (fun other hentry => by simpa using hrevoke other hentry) (by simp))
        rwa [hcalls] at hpush
      · exact hself
    | nested entry inner stage hrevoke hstage =>
      have hnot : stage ≠ .running := by
        rcases hstage with rfl | rfl | rfl | rfl <;> simp
      dsimp only
      rw [if_neg hnot]
      exact hself

theorem nested_returned {self : HostLocks Thread Handle} (hself : self.Consistent)
    {action : HostAction Thread Handle} {returned : ReturnedCall}
    (h : (self.step action).2 = some returned) (hnested : returned.nested = true) :
    returned.outcome = .reentrantBridgeAccess ∨ returned.outcome = .inactive := by
  cases action with
  | host thread =>
    simp only [step] at h
    split at h <;> cases h
  | revoke thread handle =>
    simp only [step] at h
    split at h <;> cases h
  | ingress thread handle =>
    simp only [step] at h
    split at h
    · cases h
    · split at h <;> cases h
  | proceed thread =>
    simp only [step, proceed] at h
    have hshape := hself.shape thread
    generalize hcalls : self.calls thread = calls at hshape h
    cases hshape with
    | idle => cases h
    | outer entry stage hrevoke =>
      cases stage with
      | returning outcome =>
        cases h
        cases hnested
      | asking =>
        cases entry with
        | host => cases h
        | ingress handle =>
          dsimp only at h
          split at h <;> cases h
        | revoke handle =>
          dsimp only at h
          split at h <;> cases h
      | entered =>
        dsimp only at h
        split at h <;> cases h
      | awaiting =>
        dsimp only at h
        split at h <;> cases h
      | acquired => cases h
      | running => cases h
      | closing => cases h
    | nested entry handle stage hrevoke hstage =>
      rcases hstage with rfl | rfl | rfl | rfl
      · dsimp only at h
        split at h <;> cases h
      · dsimp only at h
        split at h <;> cases h
      · cases h
        exact .inr rfl
      · cases h
        exact .inl rfl

omit [DecidableEq Handle] in
@[simp] theorem setStack_calls_self (self : HostLocks Thread Handle) (thread : Thread)
    (stack : List (CallFrame Handle)) : (self.setStack thread stack).calls thread = stack := by
  simp [setStack]

omit [DecidableEq Thread] in
theorem dropPermit_calls (self : HostLocks Thread Handle) (entry : HostEntry Handle) :
    (self.dropPermit entry).calls = self.calls := by
  unfold dropPermit
  split <;> rfl

theorem proceed_calls_other (self : HostLocks Thread Handle) {thread other : Thread}
    (hne : other ≠ thread) : (self.proceed thread).1.calls other = self.calls other := by
  unfold proceed
  split
  · rfl
  · next frame below hcalls =>
    dsimp only
    split
    · split
      · simp [setStack, hne]
      · split
        · simp [setStack, setPermit, hne]
        · rfl
      · split
        · simp [setStack, setPermit, deactivate, hne]
        · rfl
    · split <;> simp [setStack, hne]
    · split
      · simp [setStack, hne]
      · rfl
    · simp [setStack, hne]
    · simp [setStack, hne]
    · simp [setStack, hne]
    · simp [setStack, hne, dropPermit_calls]

theorem step_calls_other (self : HostLocks Thread Handle) (action : HostAction Thread Handle)
    {other : Thread} (hne : other ≠ action.thread) :
    (self.step action).1.calls other = self.calls other := by
  cases action with
  | proceed thread => exact proceed_calls_other self hne
  | host thread =>
    have hother : other ≠ thread := hne
    simp only [step]
    split
    · simp [setStack, hother]
    · rfl
  | revoke thread handle =>
    have hother : other ≠ thread := hne
    simp only [step]
    split
    · simp [setStack, hother]
    · rfl
  | ingress thread handle =>
    have hother : other ≠ thread := hne
    simp only [step]
    split
    · simp [setStack, hother]
    · split
      · simp [setStack, hother]
      · rfl

/-- The call of the thread is on its way from its permit to the bridge. -/
def Bound (self : HostLocks Thread Handle) (thread : Thread) : Prop :=
  ∃ entry stage, self.calls thread = [⟨entry, stage⟩] ∧ (stage = .entered ∨ stage = .awaiting)

/-- A port that the bridge delivers to is calling the handle and is not yet in. -/
def CallingBack (self : HostLocks Thread Handle) (thread : Thread) (handle : Handle) : Prop :=
  ∃ outer, self.calls thread = [⟨.ingress handle, .asking⟩, outer]

/-- No port calls back a handle that its own call went through, or that another
call holds on its way to the bridge; and no call enters a handle that a port is
calling back. -/
def Apart (self : HostLocks Thread Handle) : HostAction Thread Handle → Prop
  | .ingress thread handle =>
    ∀ entry, self.calls thread = [⟨entry, .running⟩] →
      self.permit handle ≠ some thread ∧
        ∀ other, self.permit handle = some other → ¬ self.Bound other
  | .proceed thread =>
    ∀ handle, self.calls thread = [⟨.ingress handle, .asking⟩] → self.permit handle = none →
      self.active handle = true → ∀ other, ¬ self.CallingBack other handle
  | .host _ => True
  | .revoke _ _ => True

omit [DecidableEq Thread] [DecidableEq Handle] in
theorem Consistent.permit_congr {self next : HostLocks Thread Handle} (hself : self.Consistent)
    (hnext : next.Consistent) {thread : Thread} (hcalls : next.calls thread = self.calls thread)
    (handle : Handle) : next.permit handle = some thread ↔ self.permit handle = some thread := by
  rw [hnext.permits, hself.permits, hcalls]

omit [DecidableEq Thread] [DecidableEq Handle] in
theorem Consistent.single_permit {self : HostLocks Thread Handle} (hself : self.Consistent)
    {thread : Thread} {entry : HostEntry Handle} {stage : CallStage}
    (hcalls : self.calls thread = [⟨entry, stage⟩]) (hstage : stage ≠ .asking) (handle : Handle) :
    self.permit handle = some thread ↔ entry.handle? = some handle := by
  have hpermit : ([⟨entry, stage⟩] : List (CallFrame Handle)).filterMap CallFrame.permit? =
      entry.handle?.toList := by
    cases hhandle : entry.handle? <;> simp [CallFrame.permit?, hstage, hhandle]
  rw [hself.permits, hcalls, hpermit]
  simp

/-- A call gets on its way to the bridge by entering its permit. -/
theorem bound_proceed {self : HostLocks Thread Handle} (hself : self.Consistent) {thread : Thread}
    {handle : Handle} (hbound : (self.proceed thread).1.Bound thread)
    (hholds : (self.proceed thread).1.permit handle = some thread) :
    (self.Bound thread ∧ self.permit handle = some thread) ∨
    (self.calls thread = [⟨.ingress handle, .asking⟩] ∧ self.permit handle = none ∧
      self.active handle = true) := by
  have hnext := consistent_proceed hself thread
  obtain ⟨entry, stage, hcalls', hstage⟩ := hbound
  have hentry : entry.handle? = some handle :=
    (hnext.single_permit hcalls' (by rcases hstage with rfl | rfl <;> simp) handle).mp hholds
  have hshape := hself.shape thread
  generalize hcalls : self.calls thread = calls at hshape
  simp only [proceed, hcalls] at hcalls'
  cases hshape with
  | idle =>
    rw [hcalls] at hcalls'
    cases hcalls'
  | outer before current hrevoke =>
    have hbefore : current = .entered ∨ current = .awaiting → before.handle? = some handle →
        (self.Bound thread ∧ self.permit handle = some thread) := by
      intro hcurrent hhandle
      have hasking : current ≠ .asking := by
        rcases hcurrent with rfl | rfl <;> simp
      exact ⟨⟨before, current, hcalls, hcurrent⟩,
        (hself.single_permit hcalls hasking handle).mpr hhandle⟩
    cases current with
    | asking =>
      cases before with
      | host =>
        rw [setStack_calls_self] at hcalls'
        cases hcalls'
        cases hentry
      | ingress key =>
        dsimp only at hcalls'
        split at hcalls'
        · next hfree =>
          rw [setStack_calls_self] at hcalls'
          obtain ⟨rfl, hstage'⟩ : HostEntry.ingress key = entry ∧
              (if self.active key = true then CallStage.entered else .returning .inactive) = stage := by
            simpa using hcalls'
          obtain rfl : key = handle := Option.some.inj hentry
          refine .inr ⟨rfl, hfree, ?_⟩
          by_contra hinactive
          rw [if_neg hinactive] at hstage'
          subst hstage'
          simp at hstage
        · rw [hcalls] at hcalls'
          cases hcalls'
          simp at hstage
      | revoke key =>
        dsimp only at hcalls'
        split at hcalls'
        · rw [setStack_calls_self] at hcalls'
          cases hcalls'
          simp at hstage
        · rw [hcalls] at hcalls'
          cases hcalls'
          simp at hstage
    | entered =>
      dsimp only at hcalls'
      split at hcalls'
      · rw [setStack_calls_self] at hcalls'
        cases hcalls'
        simp at hstage
      · rw [setStack_calls_self] at hcalls'
        cases hcalls'
        exact .inl (hbefore (.inl rfl) hentry)
    | awaiting =>
      dsimp only at hcalls'
      split at hcalls'
      · rw [setStack_calls_self] at hcalls'
        cases hcalls'
        simp at hstage
      · rw [hcalls] at hcalls'
        cases hcalls'
        exact .inl (hbefore (.inr rfl) hentry)
    | acquired =>
      rw [setStack_calls_self] at hcalls'
      cases hcalls'
      simp at hstage
    | running =>
      rw [setStack_calls_self] at hcalls'
      cases hcalls'
      simp at hstage
    | closing =>
      rw [setStack_calls_self] at hcalls'
      cases hcalls'
      simp at hstage
    | returning outcome =>
      rw [setStack_calls_self] at hcalls'
      cases hcalls'
  | nested outer inner current hrevoke hcurrent =>
    rcases hcurrent with rfl | rfl | rfl | rfl
    · dsimp only at hcalls'
      split at hcalls'
      · rw [setStack_calls_self] at hcalls'
        cases hcalls'
      · rw [hcalls] at hcalls'
        cases hcalls'
    · dsimp only at hcalls'
      split at hcalls'
      · rw [setStack_calls_self] at hcalls'
        cases hcalls'
      · rw [setStack_calls_self] at hcalls'
        cases hcalls'
    · rw [setStack_calls_self] at hcalls'
      cases hcalls'
      simp at hstage
    · rw [setStack_calls_self] at hcalls'
      cases hcalls'
      simp at hstage

/-- A step of a call either does nothing or leaves its thread past the locks it asked for. -/
theorem proceed_not_asking {self : HostLocks Thread Handle} (hself : self.Consistent)
    (thread : Thread) : (self.proceed thread).1 = self ∨
      ∀ frame ∈ ((self.proceed thread).1.calls thread).head?, frame.stage ≠ .asking := by
  have hshape := hself.shape thread
  unfold proceed
  split
  · exact .inl rfl
  · next frame below hcalls =>
    dsimp only
    split
    · split
      · exact .inr (by simp)
      · split
        · refine .inr ?_
          split <;> simp
        · exact .inl rfl
      · split
        · exact .inr (by simp)
        · exact .inl rfl
    · split
      · exact .inr (by simp)
      · exact .inr (by simp)
    · split
      · exact .inr (by simp)
      · exact .inl rfl
    · exact .inr (by simp)
    · exact .inr (by simp)
    · exact .inr (by simp)
    · refine .inr ?_
      rw [hcalls] at hshape
      cases hshape with
      | outer entry stage hrevoke => simp
      | nested entry handle stage hrevoke hstage => simp

/-- Only a call from a running operation makes a port call back. -/
theorem callingBack_step {self : HostLocks Thread Handle} (hself : self.Consistent)
    {action : HostAction Thread Handle} {handle : Handle}
    (h : (self.step action).1.CallingBack action.thread handle) :
    (self.step action).1 = self ∨
    ∃ thread entry, action = .ingress thread handle ∧ self.calls thread = [⟨entry, .running⟩] ∧
      (self.step action).1.permit = self.permit := by
  obtain ⟨outer, hcalls'⟩ := h
  cases action with
  | proceed thread =>
    rcases proceed_not_asking hself thread with hsame | htop
    · exact .inl hsame
    · have hcalls : (self.proceed thread).1.calls thread = _ := hcalls'
      rw [hcalls] at htop
      exact absurd rfl (htop _ rfl)
  | host thread =>
    simp only [step, HostAction.thread] at hcalls' ⊢
    split at hcalls'
    · simp at hcalls'
    · next hbusy => exact .inl (by rw [if_neg hbusy])
  | revoke thread key =>
    simp only [step, HostAction.thread] at hcalls' ⊢
    split at hcalls'
    · simp at hcalls'
    · next hbusy => exact .inl (by rw [if_neg hbusy])
  | ingress thread key =>
    have hshape := hself.shape thread
    generalize hcalls : self.calls thread = calls at hshape
    simp only [step, HostAction.thread, hcalls] at hcalls' ⊢
    cases hshape with
    | idle => simp at hcalls'
    | outer entry stage hrevoke =>
      dsimp only at hcalls' ⊢
      split at hcalls'
      · next hrunning =>
        subst hrunning
        rw [setStack_calls_self] at hcalls'
        cases hcalls'
        exact .inr ⟨thread, entry, rfl, hcalls, rfl⟩
      · next hnot => exact .inl (by rw [if_neg hnot])
    | nested entry inner stage hrevoke hstage =>
      have hnot : stage ≠ .running := by
        rcases hstage with rfl | rfl | rfl | rfl <;> simp
      dsimp only
      exact .inl (by rw [if_neg hnot])

/-- The port of no thread waits for a call that is on its way to the bridge. -/
def Unblocked (self : HostLocks Thread Handle) : Prop :=
  ∀ thread handle, self.CallingBack thread handle → self.permit handle ≠ some thread ∧
    ∀ other, self.permit handle = some other → ¬ self.Bound other

omit [DecidableEq Thread] [DecidableEq Handle] in
theorem bound_congr {self next : HostLocks Thread Handle} {thread : Thread}
    (h : next.calls thread = self.calls thread) : next.Bound thread ↔ self.Bound thread := by
  rw [Bound, Bound, h]

/-- Starting a call brings no thread on its way to the bridge. -/
theorem bound_step {self : HostLocks Thread Handle} (hself : self.Consistent)
    {action : HostAction Thread Handle} {handle : Handle}
    (hbound : (self.step action).1.Bound action.thread)
    (hholds : (self.step action).1.permit handle = some action.thread) :
    (self.Bound action.thread ∧ self.permit handle = some action.thread) ∨
    ∃ thread, action = .proceed thread ∧ self.calls thread = [⟨.ingress handle, .asking⟩] ∧
      self.permit handle = none ∧ self.active handle = true := by
  cases action with
  | proceed thread =>
    rcases bound_proceed hself hbound hholds with hbefore | ⟨hcalls, hfree, hactive⟩
    · exact .inl hbefore
    · exact .inr ⟨thread, rfl, hcalls, hfree, hactive⟩
  | host thread =>
    refine .inl ?_
    simp only [step, HostAction.thread] at hbound hholds ⊢
    split at hbound
    · obtain ⟨entry, stage, hcalls, hstage⟩ := hbound
      rw [setStack_calls_self] at hcalls
      cases hcalls
      simp at hstage
    · next hbusy =>
      rw [if_neg hbusy] at hholds
      exact ⟨hbound, hholds⟩
  | revoke thread key =>
    refine .inl ?_
    simp only [step, HostAction.thread] at hbound hholds ⊢
    split at hbound
    · obtain ⟨entry, stage, hcalls, hstage⟩ := hbound
      rw [setStack_calls_self] at hcalls
      cases hcalls
      simp at hstage
    · next hbusy =>
      rw [if_neg hbusy] at hholds
      exact ⟨hbound, hholds⟩
  | ingress thread key =>
    refine .inl ?_
    simp only [step, HostAction.thread] at hbound hholds ⊢
    cases hcalls : self.calls thread with
    | nil =>
      rw [hcalls] at hbound
      obtain ⟨entry, stage, hcalls', hstage⟩ := hbound
      rw [setStack_calls_self] at hcalls'
      cases hcalls'
      simp at hstage
    | cons frame below =>
      rw [hcalls] at hbound hholds
      dsimp only at hbound hholds
      by_cases hrunning : frame.stage = .running
      · rw [if_pos hrunning] at hbound
        obtain ⟨entry, stage, hcalls', hstage⟩ := hbound
        rw [setStack_calls_self] at hcalls'
        cases hcalls'
      · rw [if_neg hrunning] at hbound hholds
        exact ⟨hbound, hholds⟩

theorem unblocked_step {self : HostLocks Thread Handle} (hself : self.Consistent)
    (hunblocked : self.Unblocked) {action : HostAction Thread Handle} (hapart : self.Apart action) :
    (self.step action).1.Unblocked := by
  intro thread handle hcalling
  have hnext := consistent_step hself action
  by_cases hactor : thread = action.thread
  · subst hactor
    rcases callingBack_step hself hcalling with hsame | ⟨caller, entry, haction, hcalls, hpermit⟩
    · rw [hsame] at hcalling ⊢
      exact hunblocked _ _ hcalling
    · subst haction
      obtain ⟨hown, hothers⟩ := hapart entry hcalls
      rw [hpermit]
      refine ⟨hown, fun other hholds hbound => hothers other hholds ?_⟩
      have hne : other ≠ caller := by
        rintro rfl
        exact hown hholds
      exact (bound_congr (step_calls_other self (.ingress caller handle) hne)).mp hbound
  · have hcalls := step_calls_other self action hactor
    have hbefore : self.CallingBack thread handle := by
      rw [CallingBack, hcalls] at hcalling
      exact hcalling
    obtain ⟨hown, hothers⟩ := hunblocked thread handle hbefore
    refine ⟨fun hholds => hown ((hself.permit_congr hnext hcalls handle).mp hholds), ?_⟩
    intro other hholds hbound
    by_cases hother : other = action.thread
    · subst hother
      rcases bound_step hself hbound hholds with ⟨hbound, hholds⟩ |
        ⟨caller, haction, hcaller, hfree, hactive⟩
      · exact hothers _ hholds hbound
      · subst haction
        exact hapart handle hcaller hfree hactive thread hbefore
    · have hsame := step_calls_other self action hother
      exact hothers other ((hself.permit_congr hnext hsame handle).mp hholds)
        ((bound_congr hsame).mp hbound)

/-- How many kinds of lock are still before the thread. -/
def rank (self : HostLocks Thread Handle) (thread : Thread) : Nat :=
  match self.calls thread with
  | [⟨_, .asking⟩] => 3
  | [⟨_, .awaiting⟩] => 2
  | [⟨_, .asking⟩, _] => 1
  | _ => 0

omit [DecidableEq Thread] [DecidableEq Handle] in
theorem rank_holder {self : HostLocks Thread Handle} (hself : self.Consistent) {thread : Thread}
    {handle : Handle} (hholds : self.permit handle = some thread) : self.rank thread ≤ 2 := by
  have hmem := (hself.permits thread handle).mp hholds
  have hshape := hself.shape thread
  unfold rank
  generalize self.calls thread = calls at hmem hshape
  cases hshape with
  | idle => simp
  | outer entry stage hrevoke => cases stage <;> simp [CallFrame.permit?] at hmem ⊢
  | nested entry inner stage hrevoke hstage => rcases hstage with rfl | rfl | rfl | rfl <;> simp

omit [DecidableEq Thread] [DecidableEq Handle] in
theorem rank_bridge {self : HostLocks Thread Handle} (hself : self.Consistent) {thread : Thread}
    (hholds : self.bridge = some thread) : self.rank thread ≤ 1 := by
  have hmem := (hself.bridges thread).mp hholds
  have hshape := hself.shape thread
  unfold rank
  generalize self.calls thread = calls at hmem hshape
  cases hshape with
  | idle => simp
  | outer entry stage hrevoke => cases stage <;> simp [CallFrame.HoldsBridge] at hmem ⊢
  | nested entry inner stage hrevoke hstage => rcases hstage with rfl | rfl | rfl | rfl <;> simp

omit [DecidableEq Thread] [DecidableEq Handle] in
theorem Consistent.running {self : HostLocks Thread Handle} (hself : self.Consistent)
    {thread : Thread} {entry : HostEntry Handle} (above : List (CallFrame Handle))
    (hcalls : self.calls thread = above ++ [⟨entry, .running⟩]) :
    self.bridge = some thread ∧ self.owner = some thread := by
  have hmem : (⟨entry, .running⟩ : CallFrame Handle) ∈ self.calls thread := by
    rw [hcalls]
    simp
  exact ⟨(hself.bridges thread).mpr ⟨_, hmem, .inr (.inl rfl)⟩,
    (hself.owners thread).mpr ⟨_, hmem, rfl⟩⟩

omit [DecidableEq Thread] [DecidableEq Handle] in
theorem CallingBack.bridge {self : HostLocks Thread Handle} (hself : self.Consistent)
    {thread : Thread} {handle : Handle} (h : self.CallingBack thread handle) :
    self.bridge = some thread ∧ self.owner = some thread := by
  obtain ⟨outer, hcalls⟩ := h
  have hshape := hself.shape thread
  rw [hcalls] at hshape
  cases hshape
  exact hself.running [_] hcalls

omit [DecidableEq Thread] [DecidableEq Handle] in
/-- Waiting leads down the rank. -/
theorem rank_waitsFor {self : HostLocks Thread Handle} (hself : self.Consistent)
    (hunblocked : self.Unblocked) {thread other : Thread}
    (h : Waiting.WaitsFor self.waits self.holder thread other) :
    self.rank other < self.rank thread := by
  obtain ⟨lock, hwaits, hholder⟩ := h
  have hshape := hself.shape thread
  generalize hcalls : self.calls thread = calls at hshape
  cases hshape with
  | idle => simp [waits, hcalls] at hwaits
  | outer entry stage hrevoke =>
    cases stage with
    | asking =>
      simp only [waits, hcalls, Option.map_eq_some_iff] at hwaits
      obtain ⟨handle, -, rfl⟩ := hwaits
      have hrank : self.rank thread = 3 := by simp [rank, hcalls]
      have hother := rank_holder hself hholder
      omega
    | awaiting =>
      simp only [waits, hcalls, Option.some.injEq] at hwaits
      subst hwaits
      have hrank : self.rank thread = 2 := by simp [rank, hcalls]
      have hother := rank_bridge hself hholder
      omega
    | entered => simp [waits, hcalls] at hwaits
    | acquired => simp [waits, hcalls] at hwaits
    | running => simp [waits, hcalls] at hwaits
    | closing => simp [waits, hcalls] at hwaits
    | returning outcome => simp [waits, hcalls] at hwaits
  | nested entry handle stage hrevoke hstage =>
    rcases hstage with rfl | rfl | rfl | rfl
    · simp only [waits, hcalls, HostEntry.handle?, Option.map_some, Option.some.injEq] at hwaits
      subst hwaits
      have hcalling : self.CallingBack thread handle := ⟨_, hcalls⟩
      obtain ⟨hown, hothers⟩ := hunblocked thread handle hcalling
      have hrank : self.rank thread = 1 := by simp [rank, hcalls]
      have hother : self.rank other = 0 := by
        have hnotBound := hothers other hholder
        have hne : other ≠ thread := by
          rintro rfl
          exact hown hholder
        have hmem := (hself.permits other handle).mp hholder
        have hothershape := hself.shape other
        generalize hcallsOther : self.calls other = calls at hmem hothershape
        cases hothershape with
        | idle => simp [rank, hcallsOther]
        | outer entry stage hrevoke =>
          cases stage with
          | asking => simp [CallFrame.permit?] at hmem
          | awaiting => exact absurd ⟨entry, _, hcallsOther, .inr rfl⟩ hnotBound
          | entered => exact absurd ⟨entry, _, hcallsOther, .inl rfl⟩ hnotBound
          | acquired => simp [rank, hcallsOther]
          | running => simp [rank, hcallsOther]
          | closing => simp [rank, hcallsOther]
          | returning outcome => simp [rank, hcallsOther]
        | nested entry inner stage hrevoke hstage =>
          have hbridge := (hself.running [_] hcallsOther).1
          rw [(hcalling.bridge hself).1] at hbridge
          exact absurd (Option.some.inj hbridge).symm hne
      omega
    · simp [waits, hcalls] at hwaits
    · simp [waits, hcalls] at hwaits
    · simp [waits, hcalls] at hwaits

omit [DecidableEq Thread] [DecidableEq Handle] in
/-- The two ways to get stuck are cycles of waiting. -/
theorem deadlock_of_stuck {self : HostLocks Thread Handle} (h : self.Stuck) :
    Waiting.Deadlock self.waits self.holder := by
  obtain ⟨thread, handle, other, hwaits, hholds, hcycle⟩ := h
  have hfirst : Waiting.WaitsFor self.waits self.holder thread other := ⟨_, hwaits, hholds⟩
  rcases hcycle with rfl | ⟨hother, hbridge⟩
  · exact ⟨other, .single hfirst⟩
  · exact ⟨thread, .tail (.single hfirst) ⟨_, hother, hbridge⟩⟩

omit [DecidableEq Thread] [DecidableEq Handle] in
theorem holder_busy {self : HostLocks Thread Handle} (hself : self.Consistent) {thread : Thread}
    {lock : HostLock Handle} (h : self.holder lock = some thread) : self.calls thread ≠ [] := by
  intro hidle
  cases lock with
  | permit handle =>
    have hmem := (hself.permits thread handle).mp h
    rw [hidle] at hmem
    simp at hmem
  | bridge =>
    have hmem := (hself.bridges thread).mp h
    rw [hidle] at hmem
    simp at hmem

theorem proceed_entered {self : HostLocks Thread Handle} {thread : Thread}
    {entry : HostEntry Handle} {below : List (CallFrame Handle)}
    (hcalls : self.calls thread = ⟨entry, .entered⟩ :: below) (howner : self.owner ≠ some thread) :
    (self.proceed thread).1 = self.setStack thread (⟨entry, .awaiting⟩ :: below) := by
  simp [proceed, hcalls, howner]

/-- A step that does not keep the calls apart leads to a thread that waits for
itself, or for the thread that waits for it. -/
theorem stuck_of_not_apart {self : HostLocks Thread Handle} (hself : self.Consistent)
    {action : HostAction Thread Handle} (h : ¬ self.Apart action) :
    ∃ more, (Trace.final step self (action :: more)).Stuck := by
  cases action with
  | host thread => exact absurd trivial h
  | revoke thread handle => exact absurd trivial h
  | ingress thread handle =>
    simp only [Apart, not_forall] at h
    obtain ⟨entry, hcalls, hblocked⟩ := h
    obtain ⟨hbridge, howner⟩ := hself.running [] hcalls
    have hstep : (self.step (.ingress thread handle)).1 =
        self.setStack thread [⟨.ingress handle, .asking⟩, ⟨entry, .running⟩] := by
      simp [step, hcalls]
    have hwaits : ∀ locks : HostLocks Thread Handle,
        locks.calls thread = [⟨.ingress handle, .asking⟩, ⟨entry, .running⟩] →
        locks.waits thread = some (.permit handle) := by
      intro locks hlocks
      simp [waits, hlocks, HostEntry.handle?]
    by_cases hown : self.permit handle = some thread
    · refine ⟨[], ?_⟩
      rw [Trace.final_cons, hstep]
      exact ⟨thread, handle, thread, hwaits _ (by simp), hown, .inl rfl⟩
    · obtain ⟨other, hholds, outer, stage, hother, hstage⟩ :
          ∃ other, self.permit handle = some other ∧ self.Bound other := by
        by_contra hnone
        exact hblocked ⟨hown, fun other hholds hbound => hnone ⟨other, hholds, hbound⟩⟩
      have hne : other ≠ thread := by
        rintro rfl
        exact hown hholds
      have hotherStack : (self.setStack thread
          [⟨.ingress handle, .asking⟩, ⟨entry, .running⟩]).calls other = [⟨outer, stage⟩] := by
        simpa [setStack, hne] using hother
      rcases hstage with rfl | rfl
      · -- The other call has not yet looked at the owner; after that it waits.
        have hnotOwner : self.owner ≠ some other := by
          rw [howner]
          exact fun heq => hne (Option.some.inj heq).symm
        refine ⟨[.proceed other], ?_⟩
        rw [Trace.final_cons, hstep, Trace.final_cons, Trace.final_nil, step,
          proceed_entered hotherStack hnotOwner]
        refine ⟨thread, handle, other, hwaits _ ?_, hholds, .inr ⟨?_, hbridge⟩⟩
        · simp [setStack, hne.symm]
        · simp [waits]
      · refine ⟨[], ?_⟩
        rw [Trace.final_cons, hstep]
        refine ⟨thread, handle, other, hwaits _ (by simp), hholds, .inr ⟨?_, hbridge⟩⟩
        simp [waits, hotherStack]
  | proceed thread =>
    simp only [Apart, not_forall, not_not] at h
    obtain ⟨handle, hcalls, hfree, hactive, other, hcalling⟩ := h
    obtain ⟨hbridge, howner⟩ := hcalling.bridge hself
    obtain ⟨outer, hother⟩ := hcalling
    have hne : other ≠ thread := by
      rintro rfl
      rw [hcalls] at hother
      cases hother
    have hnotOwner : self.owner ≠ some thread := by
      rw [howner]
      exact fun heq => hne (Option.some.inj heq)
    have hstep : (self.step (.proceed thread)).1 =
        (self.setPermit handle (some thread)).setStack thread [⟨.ingress handle, .entered⟩] := by
      simp [step, proceed, hcalls, hfree, hactive]
    have hentered : (((self.setPermit handle (some thread)).setStack thread
        [⟨.ingress handle, .entered⟩]).proceed thread).1 = _ :=
      proceed_entered (setStack_calls_self _ _ _) hnotOwner
    refine ⟨[.proceed thread], ?_⟩
    rw [Trace.final_cons, hstep, Trace.final_cons, Trace.final_nil, step, hentered]
    refine ⟨other, handle, thread, ?_, ?_, .inr ⟨?_, hbridge⟩⟩
    · simp [waits, setStack, setPermit, hne, hother, HostEntry.handle?]
    · simp [setStack, setPermit]
    · simp [waits]

/-- In a run whose steps keep the calls apart, a call from within a running
operation returns with one of its two errors, no thread waits for itself, and
some thread in a call can go on. A first step that does not keep them apart gets
threads stuck. -/
theorem run_unblocked (active : Handle → Bool) (actions : List (HostAction Thread Handle))
    (h : Trace.Along step Apart (start active) actions) :
    (∀ returned, some returned ∈ Trace.outputs step (start active) actions →
      returned.nested = true →
      returned.outcome = .reentrantBridgeAccess ∨ returned.outcome = .inactive) ∧
    (let locks := Trace.final step (start active) actions;
      ¬ locks.Stuck ∧ ¬ Waiting.Deadlock locks.waits locks.holder ∧
      ((∃ thread, locks.calls thread ≠ []) → ∃ thread, locks.calls thread ≠ [] ∧
        ∀ other, ¬ Waiting.WaitsFor locks.waits locks.holder thread other) ∧
      ∀ action, ¬ locks.Apart action →
        ∃ more, (Trace.final step (start active) (actions ++ action :: more)).Stuck) := by
  have hconsistent : (Trace.final step (start active) actions).Consistent :=
    Trace.final_invariant step Consistent (fun locks action hlocks => consistent_step hlocks action)
      _ actions (consistent_start active)
  have hunblocked : (Trace.final step (start active) actions).Unblocked := by
    have hinvariant := Trace.along_invariant step Apart
      (fun locks => locks.Consistent ∧ locks.Unblocked)
      (fun locks action hlocks hapart =>
        ⟨consistent_step hlocks.1 action, unblocked_step hlocks.1 hlocks.2 hapart⟩)
      h ⟨consistent_start active, fun thread handle ⟨outer, hcalls⟩ => by simp [start] at hcalls⟩
    exact hinvariant.2
  constructor
  · intro returned hreturned hnested
    exact Trace.outputs_invariant step Consistent
      (fun output => ∀ returned, output = some returned → returned.nested = true →
        returned.outcome = .reentrantBridgeAccess ∨ returned.outcome = .inactive)
      (fun locks action hlocks => consistent_step hlocks action)
      (fun locks action hlocks returned h hnested => nested_returned hlocks h hnested)
      (consistent_start active) hreturned returned rfl hnested
  · intro locks
    have hrank : ∀ thread other, Waiting.WaitsFor locks.waits locks.holder thread other →
        locks.rank other < locks.rank thread :=
      fun thread other hwaits => rank_waitsFor hconsistent hunblocked hwaits
    have hnoDeadlock := Waiting.not_deadlock_of_rank hrank
    refine ⟨fun hstuck => hnoDeadlock (deadlock_of_stuck hstuck), hnoDeadlock, ?_, ?_⟩
    · intro hbusy
      exact Waiting.exists_unblocked hrank
        (fun thread other _ ⟨lock, _, hholds⟩ => holder_busy hconsistent hholds) hbusy
    · intro action hapart
      obtain ⟨more, hstuck⟩ := stuck_of_not_apart hconsistent hapart
      refine ⟨more, ?_⟩
      rw [Trace.final_append]
      exact hstuck

/-- A port that calls back another handle is refused, and the run goes on. -/
theorem run_unblocked_reentrant :
    (∀ returned, some returned ∈ Trace.outputs step (start fun _ => true : HostLocks Nat Nat)
        [.ingress 0 0, .proceed 0, .proceed 0, .proceed 0, .proceed 0, .ingress 0 1, .proceed 0,
          .proceed 0, .proceed 0] →
      returned.nested = true →
      returned.outcome = .reentrantBridgeAccess ∨ returned.outcome = .inactive) ∧
    some ⟨true, .reentrantBridgeAccess⟩ ∈
      Trace.outputs step (start fun _ => true : HostLocks Nat Nat)
        [.ingress 0 0, .proceed 0, .proceed 0, .proceed 0, .proceed 0, .ingress 0 1, .proceed 0,
          .proceed 0, .proceed 0] := by
  refine ⟨(run_unblocked _ _ ?_).1, by decide⟩
  simp only [Trace.Along, Apart, step, proceed, start, setStack, setPermit, CallingBack,
    Function.update_apply]
  simp
  intro other outer
  split <;> simp

/-- A port that calls back the handle of its own call waits for itself. -/
theorem reentrant_handle_stuck :
    ¬ ∀ actions : List (HostAction Nat Nat),
      (∀ returned, some returned ∈ Trace.outputs step (start fun _ => true) actions →
        returned.nested = true →
        returned.outcome = .reentrantBridgeAccess ∨ returned.outcome = .inactive) ∧
      ¬ (Trace.final step (start fun _ => true) actions).Stuck := by
  intro h
  have hrun := h [.ingress 0 0, .proceed 0, .proceed 0, .proceed 0, .proceed 0, .ingress 0 0]
  exact hrun.2 ⟨0, 0, 0, by decide, by decide, .inl rfl⟩

/-- Two threads: the port of the first calls back the handle that the second has entered. -/
example : (Trace.final step (start fun _ => true : HostLocks Nat Nat)
    [.ingress 0 0, .proceed 0, .proceed 0, .proceed 0, .proceed 0, .ingress 1 1, .proceed 1,
      .proceed 1, .ingress 0 1]).Stuck :=
  ⟨0, 1, 1, by decide, by decide, .inr ⟨by decide, by decide⟩⟩

end HostLocks

end AgentPulse
