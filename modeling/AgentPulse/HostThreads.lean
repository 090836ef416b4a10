import AgentPulse.PairingAuthority
import Std.Data.ExtTreeSet.Lemmas

/-!
# The configured threads

`agentpulse threads` loads the identity, edits the list of threads and stores it. The store
locks its file for the load and again for the write, so that other invocations may come in
between.
-/
namespace AgentPulse

open Std (ExtTreeSet)
open HostCredentialStore (stored)

inductive ThreadsCommand where
  | list
  | add (threadIds : List String)
  | remove (threadIds : List String)
  deriving DecidableEq, Repr

inductive ThreadsError where
  | pairing (error : PairingError)
  | failed (message : String)
  deriving DecidableEq, Repr

namespace ThreadsCommand

/-- The loop of the removals. -/
def removeAll (configured : ExtTreeSet String) :
    List String → Except ThreadsError (ExtTreeSet String)
  | [] => .ok configured
  | threadId :: threadIds =>
    if configured.contains threadId then removeAll (configured.erase threadId) threadIds
    else .error (.failed s!"thread {threadId} is not configured")

/-- The list that the command stores, if it stores any. -/
def configure (loaded : List String) : ThreadsCommand → Except ThreadsError (Option (List String))
  | list => .ok none
  | add threadIds =>
    if threadIds.isEmpty then .error (.failed "at least one thread ID is required")
    else .ok (some ((ExtTreeSet.ofList loaded).insertMany threadIds).toList)
  | remove threadIds =>
    if threadIds.isEmpty then .error (.failed "at least one thread ID is required")
    else (removeAll (.ofList loaded) threadIds).map fun configured => some configured.toList

end ThreadsCommand

inductive ThreadsPhase where
  | started
  /-- Between the two operations, with the list to store. -/
  | loaded (configured : List String)
  | done (result : Except ThreadsError Unit)
  deriving DecidableEq

structure ThreadsInvocation where
  command : ThreadsCommand
  phase : ThreadsPhase
  deriving DecidableEq

namespace ThreadsInvocation

variable {α : Type} (lib : StoreLibrary α) (store : HostCredentialStore)

/-- The next store operation of the invocation, with what follows it in the process. -/
def advance (env : Surroundings) (self : ThreadsInvocation) (file : Option α) :
    ThreadsInvocation × Option α :=
  match self.phase with
  | .started =>
    let (identity, file) := store.loadIdentity lib env file
    match identity with
    | .error error => ({ self with phase := .done (.error (.pairing error)) }, file)
    | .ok identity =>
      match self.command.configure identity.threadIds with
      | .error error => ({ self with phase := .done (.error error) }, file)
      | .ok none => ({ self with phase := .done (.ok ()) }, file)
      | .ok (some configured) => ({ self with phase := .loaded configured }, file)
  | .loaded configured =>
    let (result, file) := store.setThreadIds lib env configured file
    ({ self with phase := .done (result.mapError .pairing) }, file)
  | .done _ => (self, file)

/-- The command, once the invocation has succeeded. -/
def succeeded (self : ThreadsInvocation) : Option ThreadsCommand :=
  if self.phase = .done (.ok ()) then some self.command else none

/-- A list that waits to be stored is the one that the command gives for these threads. -/
def upToDate (self : ThreadsInvocation) (threadIds : List String) : Bool :=
  match self.phase with
  | .loaded configured => self.command.configure threadIds = .ok (some configured)
  | _ => true

end ThreadsInvocation

/-- The processes and the file that they share. -/
structure ThreadsSystem (α : Type) where
  invocations : List ThreadsInvocation
  file : Option α

namespace ThreadsSystem

section

variable {α : Type} (lib : StoreLibrary α) (store : HostCredentialStore)

/-- The process with the index goes on; its command comes out when it succeeds. -/
def step (self : ThreadsSystem α) (turn : Nat × Surroundings) :
    ThreadsSystem α × Option ThreadsCommand :=
  match self.invocations[turn.1]? with
  | none => (self, none)
  | some invocation =>
    let (next, file) := invocation.advance lib store turn.2 self.file
    (⟨self.invocations.set turn.1 next, file⟩,
      if invocation.succeeded = none then next.succeeded else none)

/-- All processes of one run, before their first operation. -/
def launch (commands : List ThreadsCommand) (file : Option α) : ThreadsSystem α :=
  ⟨commands.map (⟨·, .started⟩), file⟩

def after (commands : List ThreadsCommand) (file : Option α) (turns : List (Nat × Surroundings)) :
    ThreadsSystem α :=
  Trace.final (step lib store) (launch commands file) turns

def successes (self : ThreadsSystem α) : List ThreadsCommand :=
  self.invocations.filterMap ThreadsInvocation.succeeded

end

/-- When a process stores its list, the command still gives that list for the stored threads. -/
def Current {α : Type} (lib : StoreLibrary α) (self : ThreadsSystem α) (turn : Nat × Surroundings) :
    Prop :=
  ∀ invocation ∈ self.invocations[turn.1]?, ∀ record ∈ stored lib self.file,
    invocation.upToDate record.threadIds = true

instance {α : Type} (lib : StoreLibrary α) (self : ThreadsSystem α) (turn : Nat × Surroundings) :
    Decidable (Current lib self turn) :=
  inferInstanceAs (Decidable (∀ invocation ∈ self.invocations[turn.1]?,
    ∀ record ∈ stored lib self.file, invocation.upToDate record.threadIds = true))

end ThreadsSystem

namespace ThreadsCommand

/-- The effect of a command on the set of threads. -/
def meaning : ThreadsCommand → Set String → Set String
  | list, threads => threads
  | add threadIds, threads => threads ∪ {id | id ∈ threadIds}
  | remove threadIds, threads => threads \ {id | id ∈ threadIds}

/-- The command, executed alone, succeeds. -/
def Allowed : ThreadsCommand → Set String → Prop
  | list, _ => True
  | add threadIds, _ => threadIds ≠ []
  | remove threadIds, threads => threadIds ≠ [] ∧ threadIds.Nodup ∧ ∀ id ∈ threadIds, id ∈ threads

/-- The commands one after another. -/
def executed (threads : Set String) (commands : List ThreadsCommand) : Set String :=
  commands.foldl (fun threads command => command.meaning threads) threads

def Executable (threads : Set String) (commands : List ThreadsCommand) : Prop :=
  ∀ before command after, commands = before ++ command :: after →
    command.Allowed (executed threads before)

theorem executed_snoc (threads : Set String) (commands : List ThreadsCommand)
    (command : ThreadsCommand) :
    executed threads (commands ++ [command]) = command.meaning (executed threads commands) := by
  simp [executed]

theorem executable_snoc {threads : Set String} {commands : List ThreadsCommand}
    {command : ThreadsCommand} (h : Executable threads commands)
    (hlast : command.Allowed (executed threads commands)) :
    Executable threads (commands ++ [command]) := by
  intro before other after hsplit
  rcases List.eq_nil_or_concat after with rfl | ⟨init, last, rfl⟩
  · obtain ⟨rfl, hsame⟩ := List.append_inj' hsplit rfl
    cases hsame
    exact hlast
  · rw [List.concat_eq_append, ← List.cons_append, ← List.append_assoc] at hsplit
    obtain ⟨rfl, -⟩ := List.append_inj' hsplit rfl
    exact h before other init rfl

/-- What was added and not removed is there. -/
theorem mem_executed {threads : Set String} {commands : List ThreadsCommand} {id : String}
    (hadded : ∃ threadIds, .add threadIds ∈ commands ∧ id ∈ threadIds)
    (hkept : ∀ threadIds, .remove threadIds ∈ commands → id ∉ threadIds) :
    id ∈ executed threads commands := by
  induction commands using List.reverseRecOn with
  | nil =>
    obtain ⟨threadIds, hmem, -⟩ := hadded
    cases hmem
  | append_singleton commands command ih =>
    rw [executed_snoc]
    have hearlier : (∃ threadIds, .add threadIds ∈ commands ∧ id ∈ threadIds) →
        id ∈ executed threads commands :=
      fun h => ih h fun threadIds hmem => hkept threadIds (by simp [hmem])
    obtain ⟨added, hmem, hid⟩ := hadded
    rw [List.mem_append, List.mem_singleton] at hmem
    cases command with
    | list =>
      rcases hmem with hmem | hmem
      · exact hearlier ⟨added, hmem, hid⟩
      · cases hmem
    | add threadIds =>
      rcases hmem with hmem | hmem
      · exact .inl (hearlier ⟨added, hmem, hid⟩)
      · cases hmem
        exact .inr hid
    | remove threadIds =>
      rcases hmem with hmem | hmem
      · exact ⟨hearlier ⟨added, hmem, hid⟩, hkept threadIds (by simp)⟩
      · cases hmem

theorem removeAll_eq_ok {configured result : ExtTreeSet String} {threadIds : List String} :
    removeAll configured threadIds = .ok result →
      threadIds.Nodup ∧ (∀ id ∈ threadIds, id ∈ configured) ∧
        ∀ id, id ∈ result ↔ id ∈ configured ∧ id ∉ threadIds := by
  induction threadIds generalizing configured with
  | nil =>
    intro h
    cases h
    simp
  | cons threadId threadIds ih =>
    intro h
    rw [removeAll] at h
    split at h
    · next hcontains =>
      obtain ⟨hnodup, hmem, hresult⟩ := ih h
      refine ⟨List.nodup_cons.mpr ⟨?_, hnodup⟩, ?_, ?_⟩
      · intro hagain
        have herased := hmem threadId hagain
        simp at herased
      · intro id hid
        rcases List.mem_cons.mp hid with rfl | hid
        · exact hcontains
        · exact (ExtTreeSet.mem_erase.mp (hmem id hid)).2
      · intro id
        rw [hresult, ExtTreeSet.mem_erase, ne_eq, Std.compare_eq_iff_eq, List.mem_cons]
        constructor
        · rintro ⟨⟨hother, hid⟩, hrest⟩
          exact ⟨hid, not_or.mpr ⟨fun heq => hother heq.symm, hrest⟩⟩
        · rintro ⟨hid, hnot⟩
          obtain ⟨hother, hrest⟩ := not_or.mp hnot
          exact ⟨⟨fun heq => hother heq.symm, hid⟩, hrest⟩
    · cases h

/-- A command that has a list to store stores what it is for. -/
theorem configure_eq_some {command : ThreadsCommand} {loaded configured : List String}
    (h : command.configure loaded = .ok (some configured)) :
    command.Allowed {id | id ∈ loaded} ∧
      {id | id ∈ configured} = command.meaning {id | id ∈ loaded} := by
  cases command with
  | list => cases h
  | add threadIds =>
    rw [configure] at h
    split at h
    · cases h
    · next hsome =>
      cases h
      refine ⟨fun hempty => hsome (List.isEmpty_iff.mpr hempty), ?_⟩
      ext id
      simp [meaning]
  | remove threadIds =>
    rw [configure] at h
    split at h
    · cases h
    · next hsome =>
      obtain ⟨result, hresult, hconfigured⟩ := Fallible.map_eq_ok.mp h
      cases hconfigured
      obtain ⟨hnodup, hmem, hsame⟩ := removeAll_eq_ok hresult
      refine ⟨⟨by simpa using hsome, hnodup, by simpa using hmem⟩, ?_⟩
      ext id
      simp [meaning, hsame]

theorem configure_eq_none {command : ThreadsCommand} {loaded : List String}
    (h : command.configure loaded = .ok none) : command = .list := by
  cases command with
  | list => rfl
  | add threadIds =>
    rw [configure] at h
    split at h <;> cases h
  | remove threadIds =>
    rw [configure] at h
    split at h
    · cases h
    · obtain ⟨result, -, hnone⟩ := Fallible.map_eq_ok.mp h
      cases hnone

end ThreadsCommand

namespace HostCredentialStore

variable {α : Type} {lib : StoreLibrary α} {store : HostCredentialStore} {env : Surroundings}

variable (lib) in
/-- The threads of the stored record; a host without one has none. -/
def threadsOf (file : Option α) : Set String :=
  {id | ∃ record, stored lib file = some record ∧ id ∈ record.threadIds}

theorem threadsOf_stored {file : Option α} {record : StoreRecord}
    (h : stored lib file = some record) : threadsOf lib file = {id | id ∈ record.threadIds} := by
  ext id
  simp [threadsOf, h]

theorem renewLeaf_threadIds {old new : StoreRecord} (h : renewLeaf lib env old = .ok new) :
    new.threadIds = old.threadIds := by
  unfold renewLeaf at h
  simp only [Fallible.bind_eq_ok] at h
  obtain ⟨_, -, _, -, _, -, _, -, _, -, _, -, h⟩ := h
  cases h
  rfl

theorem snapshot_threadIds {record : StoreRecord} {identity : HostIdentitySnapshot}
    (h : snapshot lib record = .ok identity) : identity.threadIds = record.threadIds := by
  unfold snapshot at h
  simp only [Fallible.bind_eq_ok] at h
  obtain ⟨_, -, _, -, _, -, h⟩ := h
  cases h
  rfl

variable (store) in
/-- A load reads the stored threads and leaves them. -/
theorem loadIdentity_threads (hlib : lib.Lawful) (hatomic : env.syncParent = .ok ())
    (file : Option α) :
    threadsOf lib (store.loadIdentity lib env file).2 = threadsOf lib file ∧
      ∀ identity, (store.loadIdentity lib env file).1 = .ok identity →
        threadsOf lib file = {id | id ∈ identity.threadIds} := by
  unfold loadIdentity
  rcases update_cases hlib hatomic (fun record =>
      if record.certificates.leafNotAfterUnixSeconds ≤ env.nowUtc + daySeconds leafRenewalDays then
        renewLeaf lib env record
      else .ok record) file with ⟨new, file', hupdate, ⟨old, hold, hoperation⟩, -, hsaved⟩ | ⟨e, hupdate⟩
  · have hsame : new.threadIds = old.threadIds := by
      split at hoperation
      · exact renewLeaf_threadIds hoperation
      · cases hoperation
        rfl
    rw [hupdate]
    dsimp only
    rw [threadsOf_stored hold, threadsOf_stored hsaved, hsame]
    refine ⟨rfl, ?_⟩
    intro identity hidentity
    rw [snapshot_threadIds hidentity, hsame]
  · rw [hupdate]
    refine ⟨rfl, ?_⟩
    intro identity hidentity
    cases hidentity

variable (store) in
/-- A write stores its list in the place of a stored one, or does nothing. -/
theorem setThreadIds_threads (hlib : lib.Lawful) (hatomic : env.syncParent = .ok ())
    (threadIds : List String) (file : Option α) :
    (∃ old, stored lib file = some old ∧ (store.setThreadIds lib env threadIds file).1 = .ok () ∧
      threadsOf lib (store.setThreadIds lib env threadIds file).2 = {id | id ∈ threadIds}) ∨
    ∃ e, store.setThreadIds lib env threadIds file = (.error e, file) := by
  unfold setThreadIds
  split
  · next e _ => exact .inr ⟨e, rfl⟩
  · rcases update_cases hlib hatomic (fun record => .ok { record with threadIds }) file with
      ⟨new, file', hupdate, ⟨old, hold, hoperation⟩, -, hsaved⟩ | ⟨e, hupdate⟩
    · cases hoperation
      rw [hupdate]
      exact .inl ⟨old, hold, rfl, threadsOf_stored hsaved⟩
    · rw [hupdate]
      exact .inr ⟨e, rfl⟩

end HostCredentialStore

namespace ThreadsSystem

open HostCredentialStore (threadsOf threadsOf_stored loadIdentity_threads setThreadIds_threads)
open ThreadsCommand (executed Executable executed_snoc executable_snoc)

theorem filterMap_set_perm {β γ : Type} (f : β → Option γ) {l : List β} {i : Nat} {x y : β} {c : γ}
    (hx : l[i]? = some x) (hold : f x = none) (hnew : f y = some c) :
    ((l.set i y).filterMap f).Perm (l.filterMap f ++ [c]) := by
  induction l generalizing i with
  | nil => simp at hx
  | cons z l ih =>
    cases i with
    | zero =>
      have hsame : z = x := by simpa using hx
      rw [List.set_cons_zero, List.filterMap_cons_some hnew, List.filterMap_cons_none (hsame ▸ hold)]
      exact (List.perm_append_singleton c _).symm
    | succ i =>
      have hrest := ih (by simpa using hx)
      rw [List.set_cons_succ, List.filterMap_cons, List.filterMap_cons]
      cases f z with
      | none => exact hrest
      | some d => exact hrest.cons d

theorem filterMap_set_same {β γ : Type} (f : β → Option γ) {l : List β} {i : Nat} {x y : β}
    (hx : l[i]? = some x) (hsame : f y = f x) : (l.set i y).filterMap f = l.filterMap f := by
  induction l generalizing i with
  | nil => rfl
  | cons z l ih =>
    cases i with
    | zero =>
      have hz : z = x := by simpa using hx
      rw [List.set_cons_zero, List.filterMap_cons, List.filterMap_cons, hsame, hz]
    | succ i =>
      rw [List.set_cons_succ, List.filterMap_cons, List.filterMap_cons, ih (by simpa using hx)]

variable {α : Type} {lib : StoreLibrary α} {store : HostCredentialStore}

variable (store) in
/-- An operation of a process leaves the threads alone, or completes its command. -/
theorem advance_effect (hlib : lib.Lawful) {env : Surroundings} (hatomic : env.syncParent = .ok ())
    (invocation : ThreadsInvocation) (file : Option α)
    (hcurrent : ∀ record ∈ stored lib file, invocation.upToDate record.threadIds = true) :
    ((invocation.advance lib store env file).1.succeeded = invocation.succeeded ∧
      threadsOf lib (invocation.advance lib store env file).2 = threadsOf lib file) ∨
    (invocation.succeeded = none ∧
      (invocation.advance lib store env file).1.succeeded = some invocation.command ∧
      invocation.command.Allowed (threadsOf lib file) ∧
      threadsOf lib (invocation.advance lib store env file).2 =
        invocation.command.meaning (threadsOf lib file)) := by
  obtain ⟨command, phase⟩ := invocation
  cases phase with
  | started =>
    obtain ⟨hkept, hread⟩ := loadIdentity_threads store hlib hatomic file
    rcases hload : store.loadIdentity lib env file with ⟨identity, file'⟩
    rw [hload] at hkept hread
    unfold ThreadsInvocation.advance
    dsimp only
    rw [hload]
    cases identity with
    | error error => exact .inl ⟨rfl, hkept⟩
    | ok identity =>
      dsimp only
      cases hconfigure : command.configure identity.threadIds with
      | error error => exact .inl ⟨rfl, hkept⟩
      | ok configured =>
        cases configured with
        | none =>
          cases ThreadsCommand.configure_eq_none hconfigure
          exact .inr ⟨rfl, rfl, trivial, hkept⟩
        | some configured => exact .inl ⟨rfl, hkept⟩
  | loaded configured =>
    unfold ThreadsInvocation.advance
    dsimp only
    rcases setThreadIds_threads store hlib hatomic configured file with
      ⟨old, hold, hresult, hthreads⟩ | ⟨e, hfailed⟩
    · obtain ⟨hallowed, hmeaning⟩ :=
        ThreadsCommand.configure_eq_some (of_decide_eq_true (hcurrent old hold))
      rw [hresult, hthreads, threadsOf_stored hold]
      exact .inr ⟨rfl, rfl, hallowed, hmeaning⟩
    · rw [hfailed]
      exact .inl ⟨rfl, rfl⟩
  | done result => exact .inl ⟨rfl, rfl⟩

/-- The commands that have succeeded, in this order, explain the stored threads. -/
structure Explains (lib : StoreLibrary α) (initial : Set String) (past : List ThreadsCommand)
    (s : ThreadsSystem α) : Prop where
  allowed : Executable initial past
  threads : threadsOf lib s.file = executed initial past
  succeeded : past.Perm s.successes

variable (store) in
/-- One process goes on. -/
theorem step_explains (hlib : lib.Lawful) {initial : Set String} {past : List ThreadsCommand}
    {s : ThreadsSystem α} {turn : Nat × Surroundings} (hatomic : turn.2.syncParent = .ok ())
    (hcurrent : Current lib s turn) (h : Explains lib initial past s) :
    Explains lib initial (past ++ (step lib store s turn).2.toList) (step lib store s turn).1 := by
  obtain ⟨index, env⟩ := turn
  unfold step
  dsimp only at hatomic ⊢
  cases hfound : s.invocations[index]? with
  | none => simpa using h
  | some invocation =>
    rcases advance_effect store hlib hatomic invocation s.file
      (hcurrent invocation hfound) with
      ⟨hsame, hthreads⟩ | ⟨hbefore, hafter, hallowed, hthreads⟩
    · have hquiet : (if invocation.succeeded = none then
          (invocation.advance lib store env s.file).1.succeeded else none) = none := by
        rw [hsame]
        split
        · next hnone => exact hnone
        · rfl
      dsimp only
      rw [hquiet, Option.toList_none, List.append_nil]
      refine ⟨h.allowed, hthreads.trans h.threads, ?_⟩
      rw [successes, filterMap_set_same _ hfound hsame]
      exact h.succeeded
    · dsimp only
      rw [if_pos hbefore, hafter, Option.toList_some]
      refine ⟨executable_snoc h.allowed (h.threads ▸ hallowed), ?_, ?_⟩
      · rw [executed_snoc, hthreads, h.threads]
      · have hperm := filterMap_set_perm _ hfound hbefore hafter
        exact (h.succeeded.append_right _).trans hperm.symm

theorem run_explains (hlib : lib.Lawful) {initial : Set String} {past : List ThreadsCommand}
    {s : ThreadsSystem α} {turns : List (Nat × Surroundings)}
    (hatomic : ∀ turn ∈ turns, turn.2.syncParent = .ok ())
    (hcurrent : Trace.Along (step lib store) (Current lib) s turns) (h : Explains lib initial past s) :
    ∃ order, Explains lib initial order (Trace.final (step lib store) s turns) := by
  induction turns generalizing past s with
  | nil => exact ⟨past, h⟩
  | cons turn turns ih =>
    obtain ⟨hfirst, hrest⟩ := hcurrent
    have hnext := step_explains store hlib (hatomic turn (by simp)) hfirst h
    exact ih (fun other hother => hatomic other (by simp [hother])) hrest hnext

theorem explains_launch (commands : List ThreadsCommand) (file : Option α) :
    Explains lib (threadsOf lib file) [] (launch commands file) where
  allowed := by
    intro before command after hsplit
    simp at hsplit
  threads := rfl
  succeeded := by
    have hnone : (launch commands file).successes = [] := by
      simp [successes, launch, ThreadsInvocation.succeeded]
    rw [hnone]

end ThreadsSystem

open HostCredentialStore (threadsOf) in
open ThreadsCommand (executed Executable) in
/-- However the processes take turns: if each of them stores a list that its command still
gives for the stored threads, then the threads are those of the commands that succeeded,
executed in some order. What was added by one of them and removed by none is there. -/
theorem threads_edits_kept {α : Type} {lib : StoreLibrary α} (hlib : lib.Lawful)
    (store : HostCredentialStore) (commands : List ThreadsCommand) (file : Option α)
    {turns : List (Nat × Surroundings)} (hatomic : ∀ turn ∈ turns, turn.2.syncParent = .ok ())
    (hcurrent : Trace.Along (ThreadsSystem.step lib store) (ThreadsSystem.Current lib)
      (ThreadsSystem.launch commands file) turns) :
    let final := ThreadsSystem.after lib store commands file turns
    (∃ order, order.Perm final.successes ∧ Executable (threadsOf lib file) order ∧
      threadsOf lib final.file = executed (threadsOf lib file) order) ∧
    ∀ id, (∃ threadIds, .add threadIds ∈ final.successes ∧ id ∈ threadIds) →
      (∀ threadIds, .remove threadIds ∈ final.successes → id ∉ threadIds) →
      id ∈ threadsOf lib final.file := by
  intro final
  obtain ⟨order, hallowed, hthreads, hperm⟩ := ThreadsSystem.run_explains hlib hatomic hcurrent
    (ThreadsSystem.explains_launch commands file)
  refine ⟨⟨order, hperm, hallowed, hthreads⟩, ?_⟩
  rintro id ⟨added, hadded, hid⟩ hkept
  have hmem : ∀ command, command ∈ final.successes ↔ command ∈ order :=
    fun command => hperm.mem_iff.symm
  have hexecuted : id ∈ executed (threadsOf lib file) order :=
    ThreadsCommand.mem_executed ⟨added, (hmem _).mp hadded, hid⟩
      fun threadIds h => hkept threadIds ((hmem _).mpr h)
  exact hthreads ▸ hexecuted

namespace Sample

def firstThread : String := (Ident.numbered .session 11).toString
def secondThread : String := (Ident.numbered .session 12).toString

def threadAdds : List ThreadsCommand := [.add [firstThread], .add [secondThread]]

def threadsFile : Option StoreRecord :=
  HostCredentialStore.fileAfter pairingLibrary pairingStore
    [(.create "Studio Host", pairingSurroundings)]

def turn (index : Nat) : Nat × Surroundings := (index, pairingSurroundings)

end Sample

open Sample in
/-- Two processes one after the other keep both threads. -/
theorem threads_edits_kept_twice :
    firstThread ∈ HostCredentialStore.threadsOf pairingLibrary
      (ThreadsSystem.after pairingLibrary pairingStore threadAdds threadsFile
        [turn 0, turn 0, turn 1, turn 1]).file := by
  have hatomic : ∀ entry ∈ [turn 0, turn 0, turn 1, turn 1], entry.2.syncParent = .ok () := by
    decide +kernel
  obtain ⟨hcurrent, hsuccesses⟩ :
      Trace.Along (ThreadsSystem.step pairingLibrary pairingStore)
        (ThreadsSystem.Current pairingLibrary) (ThreadsSystem.launch threadAdds threadsFile)
        [turn 0, turn 0, turn 1, turn 1] ∧
      (ThreadsSystem.after pairingLibrary pairingStore threadAdds threadsFile
        [turn 0, turn 0, turn 1, turn 1]).successes = threadAdds := by
    decide +kernel
  refine (threads_edits_kept pairingLibrary_lawful pairingStore threadAdds threadsFile hatomic
    hcurrent).2 firstThread ?_ ?_
  · rw [hsuccesses]
    exact ⟨[firstThread], by simp [threadAdds], by simp⟩
  · rw [hsuccesses]
    simp [threadAdds]

open Sample in
/-- When both load before either stores, both succeed and the first thread is lost. -/
theorem threads_edit_lost :
    (ThreadsSystem.after pairingLibrary pairingStore threadAdds threadsFile
      [turn 0, turn 1, turn 0, turn 1]).successes = [.add [firstThread], .add [secondThread]] ∧
    firstThread ∉ HostCredentialStore.threadsOf pairingLibrary
      (ThreadsSystem.after pairingLibrary pairingStore threadAdds threadsFile
        [turn 0, turn 1, turn 0, turn 1]).file := by
  obtain ⟨hsuccesses, hstored⟩ :
      (ThreadsSystem.after pairingLibrary pairingStore threadAdds threadsFile
        [turn 0, turn 1, turn 0, turn 1]).successes = threadAdds ∧
      (HostCredentialStore.stored pairingLibrary
        (ThreadsSystem.after pairingLibrary pairingStore threadAdds threadsFile
          [turn 0, turn 1, turn 0, turn 1]).file).map (·.threadIds) = some [secondThread] := by
    decide +kernel
  obtain ⟨record, hrecord, hthreads⟩ := Option.map_eq_some_iff.mp hstored
  refine ⟨hsuccesses, ?_⟩
  rw [HostCredentialStore.threadsOf_stored hrecord, hthreads]
  show firstThread ∉ [secondThread]
  decide +kernel

end AgentPulse
