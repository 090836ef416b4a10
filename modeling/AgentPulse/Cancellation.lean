import AgentPulse.OrderedMap
import AgentPulse.Trace

/-!
# One-shot cancellation of registered streams

Threads open streams and register a handle of each under a lock. A cancellation
raises a flag, takes all handles under the lock and shuts them down one by one.
A registration that finds the flag raised shuts its own stream down instead. The
collection behind the lock is a parameter with its laws.
-/
namespace Cancellation

open Std (ExtTreeMap)

/-- The sections of a collection of streams. `enter` answers with the key, or
refuses the stream. -/
structure Registry (ρ κ α σ : Type) where
  raise : ρ → ρ
  take : ρ → ρ × List σ
  enter : ρ → α → σ → ρ × Option κ
  remove : ρ → κ → ρ

variable {ρ κ α σ : Type}

/-- What the sections do to the flag and to the entries held. -/
structure Registry.Lawful (registry : Registry ρ κ α σ) (valid : ρ → Prop)
    (cancelled : ρ → Bool) (Held : ρ → κ → σ → Prop) : Prop where
  valid_raise : ∀ {r}, valid r → valid (registry.raise r)
  valid_take : ∀ {r}, valid r → valid (registry.take r).1
  valid_enter : ∀ {r} a s, valid r → valid (registry.enter r a s).1
  valid_remove : ∀ {r} k, valid r → valid (registry.remove r k)
  raised : ∀ r, cancelled (registry.raise r) = true
  raise_held : ∀ r k s, Held (registry.raise r) k s ↔ Held r k s
  take_cancelled : ∀ r, cancelled (registry.take r).1 = cancelled r
  take_held : ∀ r k s, ¬ Held (registry.take r).1 k s
  taken : ∀ {r k s}, valid r → Held r k s → s ∈ (registry.take r).2
  enter_cancelled : ∀ r a s, cancelled (registry.enter r a s).1 = cancelled r
  admitted : ∀ {r a s k}, valid r → (registry.enter r a s).2 = some k → cancelled r = false ∧
    ∀ k' s', Held (registry.enter r a s).1 k' s' ↔ k' = k ∧ s' = s ∨ Held r k' s'
  refused : ∀ {r a s}, (registry.enter r a s).2 = none → (registry.enter r a s).1 = r
  remove_cancelled : ∀ r k, cancelled (registry.remove r k) = cancelled r
  removed : ∀ {r} k k' s, valid r → (Held (registry.remove r k) k' s ↔ k' ≠ k ∧ Held r k' s)

/-- How far a call has come. -/
inductive Call (σ : Type) where
  /-- The flag is raised, the streams are not yet taken. -/
  | raised
  | shutting (streams : List σ)
  | cancelled
  /-- A registration that was refused, before it shuts its stream down. -/
  | refusing (stream : σ)
  | refused (stream : σ)
  | registered

/-- What the threads share, their calls, and what has happened: the streams that
were admitted and not given back, and those that were shut down. -/
structure System (ρ κ σ : Type) where
  registry : ρ
  calls : ExtTreeMap Nat (Call σ)
  live : List (κ × σ)
  shut : List σ

inductive Op (κ α σ : Type) where
  | cancel (call : Nat)
  | take (call : Nat)
  | shut (call : Nat)
  | register (call : Nat) (argument : α) (stream : σ)
  | unregister (key : κ)

namespace System

def start (r : ρ) : System ρ κ σ := ⟨r, ∅, [], []⟩

variable [DecidableEq κ] (registry : Registry ρ κ α σ)

/-- The first stream in hand is shut down; without one the call returns. -/
def shutNext (self : System ρ κ σ) (call : Nat) : System ρ κ σ :=
  match self.calls[call]? with
  | some (.shutting (s :: rest)) =>
    { self with calls := self.calls.insert call (.shutting rest), shut := s :: self.shut }
  | some (.shutting []) => { self with calls := self.calls.insert call .cancelled }
  | some (.refusing s) =>
    { self with calls := self.calls.insert call (.refused s), shut := s :: self.shut }
  | _ => self

/-- One section of one call. A section that is not the next one of its call does nothing. -/
def step (self : System ρ κ σ) : Op κ α σ → System ρ κ σ × Unit
  | .cancel call =>
    match self.calls[call]? with
    | none =>
      ({ self with
        registry := registry.raise self.registry
        calls := self.calls.insert call .raised }, ())
    | some _ => (self, ())
  | .take call =>
    match self.calls[call]? with
    | some .raised =>
      ({ self with
        registry := (registry.take self.registry).1
        calls := self.calls.insert call (.shutting (registry.take self.registry).2) }, ())
    | _ => (self, ())
  | .shut call => (self.shutNext call, ())
  | .register call argument stream =>
    match self.calls[call]? with
    | none =>
      match registry.enter self.registry argument stream with
      | (r, some key) =>
        ({ self with
          registry := r
          calls := self.calls.insert call .registered
          live := (key, stream) :: self.live }, ())
      | (r, none) =>
        ({ self with registry := r, calls := self.calls.insert call (.refusing stream) }, ())
    | some _ => (self, ())
  | .unregister key =>
    ({ self with
      registry := registry.remove self.registry key
      live := self.live.filter fun entry => decide (entry.1 ≠ key) }, ())

def run (r : ρ) (ops : List (Op κ α σ)) : System ρ κ σ :=
  Trace.final (step registry) (start r) ops

end System

/-- The streams that a running call still has to shut down. -/
def Call.inHand : Call σ → List σ
  | .shutting streams => streams
  | .refusing stream => [stream]
  | _ => []

/-- A cancellation that has the streams, or is through with them. -/
def Call.emptied : Call σ → Bool
  | .shutting _ | .cancelled => true
  | _ => false

def Call.hasRaised : Call σ → Bool
  | .raised | .shutting _ | .cancelled => true
  | _ => false

def Call.refusal : Call σ → Option σ
  | .refused stream => some stream
  | _ => none

theorem hasRaised_of_emptied {call : Call σ} (h : call.emptied = true) : call.hasRaised = true := by
  cases call <;> first | rfl | cases h

/-- The stream is shut down, or some call is about to do it. -/
def Doomed (self : System ρ κ σ) (s : σ) : Prop :=
  s ∈ self.shut ∨ ∃ (id : Nat) (call : Call σ), self.calls[id]? = some call ∧ s ∈ call.inHand

structure Sound (valid : ρ → Prop) (cancelled : ρ → Bool) (Held : ρ → κ → σ → Prop)
    (system : System ρ κ σ) : Prop where
  valid : valid system.registry
  raised : ∀ (id : Nat) (call : Call σ), system.calls[id]? = some call → call.hasRaised = true →
    cancelled system.registry = true
  emptied : ∀ (id : Nat) (call : Call σ), system.calls[id]? = some call → call.emptied = true →
    ∀ k s, ¬ Held system.registry k s
  live : ∀ entry ∈ system.live, Held system.registry entry.1 entry.2 ∨ Doomed system entry.2
  kept : cancelled system.registry = false → ∀ entry ∈ system.live, Held system.registry entry.1 entry.2
  refused : ∀ (id : Nat) (call : Call σ), system.calls[id]? = some call →
    ∀ s, call.refusal = some s → s ∈ system.shut

section Invariant

variable {valid : ρ → Prop} {cancelled : ρ → Bool} {Held : ρ → κ → σ → Prop}
  {self : System ρ κ σ}

/-- A call moves on. Its streams stay in hand or are shut down. -/
theorem doomed_insert {id : Nat} {call : Call σ} {shut : List σ} {r : ρ} {live : List (κ × σ)}
    (hshut : ∀ s ∈ self.shut, s ∈ shut)
    (hhand : ∀ old, self.calls[id]? = some old → ∀ s ∈ old.inHand, s ∈ shut ∨ s ∈ call.inHand)
    {s : σ} (h : Doomed self s) :
    Doomed ⟨r, self.calls.insert id call, live, shut⟩ s := by
  rcases h with hold | ⟨other, found, hfound, hs⟩
  · exact .inl (hshut s hold)
  · by_cases hid : id = other
    · subst hid
      rcases hhand found hfound s hs with hnow | hnow
      · exact .inl hnow
      · exact .inr ⟨id, call, by rw [OrderedMap.getElem?_insert, if_pos rfl], hnow⟩
    · exact .inr ⟨other, found, by rw [OrderedMap.getElem?_insert, if_neg hid]; exact hfound, hs⟩

/-- What is asked of one call after it has moved on. -/
theorem forall_insert {id : Nat} {call : Call σ} {P : Call σ → Prop} (hcall : P call)
    (hold : ∀ (other : Nat) (found : Call σ), self.calls[other]? = some found → P found)
    (other : Nat) (found : Call σ) (hfound : (self.calls.insert id call)[other]? = some found) :
    P found := by
  rw [OrderedMap.getElem?_insert] at hfound
  split at hfound
  · cases hfound
    exact hcall
  · exact hold other found hfound

variable {registry : Registry ρ κ α σ}

theorem sound_start {r : ρ} (h : valid r) : Sound valid cancelled Held (System.start r) where
  valid := h
  raised id call hcall := by simp [System.start] at hcall
  emptied id call hcall := by simp [System.start] at hcall
  live entry hmem := by cases hmem
  kept _ entry hmem := by cases hmem
  refused id call hcall := by simp [System.start] at hcall

theorem sound_cancel (hlaw : registry.Lawful valid cancelled Held)
    (h : Sound valid cancelled Held self) {id : Nat} (hnew : self.calls[id]? = none) :
    Sound valid cancelled Held { self with
      registry := registry.raise self.registry
      calls := self.calls.insert id .raised } where
  valid := hlaw.valid_raise h.valid
  raised _ _ _ _ := hlaw.raised self.registry
  emptied := by
    refine forall_insert (fun hemptied => by cases hemptied) ?_
    intro other found hfound hemptied k s hheld
    exact h.emptied other found hfound hemptied k s ((hlaw.raise_held _ k s).mp hheld)
  live entry hmem := by
    rcases h.live entry hmem with hheld | hdoomed
    · exact .inl ((hlaw.raise_held _ _ _).mpr hheld)
    · refine .inr (doomed_insert (fun s hs => hs) ?_ hdoomed)
      intro old hold
      rw [hnew] at hold
      cases hold
  kept hopen := by
    rw [hlaw.raised] at hopen
    cases hopen
  refused := forall_insert (fun s hs => by cases hs) h.refused

theorem sound_take (hlaw : registry.Lawful valid cancelled Held)
    (h : Sound valid cancelled Held self) {id : Nat} (hcall : self.calls[id]? = some .raised) :
    Sound valid cancelled Held { self with
      registry := (registry.take self.registry).1
      calls := self.calls.insert id (.shutting (registry.take self.registry).2) } where
  valid := hlaw.valid_take h.valid
  raised _ _ _ _ := by
    rw [hlaw.take_cancelled]
    exact h.raised id .raised hcall rfl
  emptied _ _ _ _ := hlaw.take_held self.registry
  live entry hmem := by
    rcases h.live entry hmem with hheld | hdoomed
    · have hcall' : (self.calls.insert id (.shutting (registry.take self.registry).2))[id]? =
          some (.shutting (registry.take self.registry).2) := by
        rw [OrderedMap.getElem?_insert, if_pos rfl]
      exact .inr (.inr ⟨id, _, hcall', hlaw.taken h.valid hheld⟩)
    · refine .inr (doomed_insert (fun s hs => hs) ?_ hdoomed)
      intro old hold s hs
      rw [hcall] at hold
      cases hold
      cases hs
  kept hopen := by
    rw [hlaw.take_cancelled, h.raised id .raised hcall rfl] at hopen
    cases hopen
  refused := forall_insert (fun s hs => by cases hs) h.refused

/-- A stream in hand is shut down. -/
theorem sound_shut (h : Sound valid cancelled Held self) {id : Nat} {old call : Call σ}
    (streams : List σ) (hcall : self.calls[id]? = some old)
    (hraised : call.hasRaised = true → old.hasRaised = true)
    (hemptied : call.emptied = true → old.emptied = true)
    (hhand : ∀ s ∈ old.inHand, s ∈ streams ∨ s ∈ call.inHand)
    (hrefusal : ∀ s, call.refusal = some s → s ∈ streams) :
    Sound valid cancelled Held { self with
      calls := self.calls.insert id call
      shut := streams ++ self.shut } where
  valid := h.valid
  raised := forall_insert (fun hr => h.raised id old hcall (hraised hr)) h.raised
  emptied := forall_insert (fun he => h.emptied id old hcall (hemptied he)) h.emptied
  live entry hmem := by
    rcases h.live entry hmem with hheld | hdoomed
    · exact .inl hheld
    · refine .inr (doomed_insert (fun s hs => List.mem_append_right streams hs) ?_ hdoomed)
      intro found hfound s hs
      cases hcall.symm.trans hfound
      rcases hhand s hs with hnow | hlater
      · exact .inl (List.mem_append_left _ hnow)
      · exact .inr hlater
  kept := h.kept
  refused := by
    refine forall_insert (fun s hs => List.mem_append_left _ (hrefusal s hs)) ?_
    intro other found hfound s hs
    exact List.mem_append_right _ (h.refused other found hfound s hs)

theorem sound_shutNext (h : Sound valid cancelled Held self) (id : Nat) :
    Sound valid cancelled Held (self.shutNext id) := by
  unfold System.shutNext
  split
  · next s rest hcall =>
    exact sound_shut h [s] hcall (fun hr => hr) (fun he => he)
      (fun t ht => by simpa [Call.inHand] using ht) (fun t ht => by cases ht)
  · next hcall =>
    exact sound_shut h [] hcall (fun hr => hr) (fun he => he)
      (fun t ht => by cases ht) (fun t ht => by cases ht)
  · next s hcall =>
    exact sound_shut h [s] hcall (fun hr => by cases hr) (fun he => by cases he)
      (fun t ht => .inl ht) (fun t ht => by cases ht; exact List.mem_singleton_self s)
  · exact h

theorem sound_register (hlaw : registry.Lawful valid cancelled Held)
    (h : Sound valid cancelled Held self) {id : Nat} (hnew : self.calls[id]? = none)
    {argument : α} {stream : σ} {key : κ}
    (henter : (registry.enter self.registry argument stream).2 = some key) :
    Sound valid cancelled Held { self with
      registry := (registry.enter self.registry argument stream).1
      calls := self.calls.insert id .registered
      live := (key, stream) :: self.live } := by
  obtain ⟨hopen, hheld⟩ := hlaw.admitted h.valid henter
  refine ⟨hlaw.valid_enter argument stream h.valid, ?_, ?_, ?_, ?_, ?_⟩
  · refine forall_insert (fun hr => by cases hr) ?_
    intro other found hfound hr
    rw [hlaw.enter_cancelled]
    exact h.raised other found hfound hr
  · -- the flag is down, so no cancellation has begun
    refine forall_insert (fun he => by cases he) ?_
    intro other found hfound he
    rw [h.raised other found hfound (hasRaised_of_emptied he)] at hopen
    cases hopen
  · intro entry hmem
    rcases List.mem_cons.mp hmem with rfl | hold
    · exact .inl ((hheld key stream).mpr (.inl ⟨rfl, rfl⟩))
    · rcases h.live entry hold with hstill | hdoomed
      · exact .inl ((hheld _ _).mpr (.inr hstill))
      · refine .inr (doomed_insert (fun s hs => hs) ?_ hdoomed)
        intro old hcall
        rw [hnew] at hcall
        cases hcall
  · intro hstill entry hmem
    rcases List.mem_cons.mp hmem with rfl | hold
    · exact (hheld key stream).mpr (.inl ⟨rfl, rfl⟩)
    · exact (hheld _ _).mpr (.inr (h.kept hopen entry hold))
  · exact forall_insert (fun s hs => by cases hs) h.refused

theorem sound_refuse (hlaw : registry.Lawful valid cancelled Held)
    (h : Sound valid cancelled Held self) {id : Nat} (hnew : self.calls[id]? = none)
    {argument : α} {stream : σ}
    (henter : (registry.enter self.registry argument stream).2 = none) :
    Sound valid cancelled Held { self with
      registry := (registry.enter self.registry argument stream).1
      calls := self.calls.insert id (.refusing stream) } := by
  rw [hlaw.refused henter]
  refine ⟨h.valid, forall_insert (fun hr => by cases hr) h.raised,
    forall_insert (fun he => by cases he) h.emptied, ?_, h.kept,
    forall_insert (fun s hs => by cases hs) h.refused⟩
  intro entry hmem
  rcases h.live entry hmem with hheld | hdoomed
  · exact .inl hheld
  · refine .inr (doomed_insert (fun s hs => hs) ?_ hdoomed)
    intro old hcall
    rw [hnew] at hcall
    cases hcall

/-- Once a cancellation has the streams, every stream that is still out was shut
down or is in the hands of a call that is about to do it. -/
theorem doomed_of_emptied (h : Sound valid cancelled Held self) {id : Nat} {call : Call σ}
    (hcall : self.calls[id]? = some call) (hemptied : call.emptied = true) :
    ∀ entry ∈ self.live, Doomed self entry.2 := by
  intro entry hmem
  rcases h.live entry hmem with hheld | hdoomed
  · exact absurd hheld (h.emptied id call hcall hemptied entry.1 entry.2)
  · exact hdoomed

/-- When no other call is running, they are all shut down. -/
theorem shut_of_cancelled (h : Sound valid cancelled Held self) {id : Nat}
    (hcall : self.calls[id]? = some .cancelled)
    (hidle : ∀ (other : Nat) (found : Call σ), self.calls[other]? = some found → found.inHand = []) :
    ∀ entry ∈ self.live, entry.2 ∈ self.shut := by
  intro entry hmem
  rcases doomed_of_emptied h hcall rfl entry hmem with hshut | ⟨other, found, hfound, hs⟩
  · exact hshut
  · rw [hidle other found hfound] at hs
    cases hs

variable [DecidableEq κ]

theorem sound_unregister (hlaw : registry.Lawful valid cancelled Held)
    (h : Sound valid cancelled Held self) (key : κ) :
    Sound valid cancelled Held { self with
      registry := registry.remove self.registry key
      live := self.live.filter fun entry => decide (entry.1 ≠ key) } where
  valid := hlaw.valid_remove key h.valid
  raised id call hcall hr := by
    rw [hlaw.remove_cancelled]
    exact h.raised id call hcall hr
  emptied id call hcall he k s hheld :=
    h.emptied id call hcall he k s ((hlaw.removed key k s h.valid).mp hheld).2
  live entry hmem := by
    obtain ⟨hold, hkey⟩ := List.mem_filter.mp hmem
    rcases h.live entry hold with hheld | hdoomed
    · exact .inl ((hlaw.removed key _ _ h.valid).mpr ⟨of_decide_eq_true hkey, hheld⟩)
    · exact .inr hdoomed
  kept hopen entry hmem := by
    obtain ⟨hold, hkey⟩ := List.mem_filter.mp hmem
    rw [hlaw.remove_cancelled] at hopen
    exact (hlaw.removed key _ _ h.valid).mpr ⟨of_decide_eq_true hkey, h.kept hopen entry hold⟩
  refused := h.refused

theorem sound_step (hlaw : registry.Lawful valid cancelled Held)
    (h : Sound valid cancelled Held self) (op : Op κ α σ) :
    Sound valid cancelled Held (self.step registry op).1 := by
  cases op with
  | cancel call =>
    simp only [System.step]
    split
    · next hnew => exact sound_cancel hlaw h hnew
    · exact h
  | take call =>
    simp only [System.step]
    split
    · next hcall => exact sound_take hlaw h hcall
    · exact h
  | shut call => exact sound_shutNext h call
  | register call argument stream =>
    simp only [System.step]
    split
    · next hnew =>
      split
      · next r key henter =>
        have hsound := sound_register hlaw h hnew (congrArg Prod.snd henter)
        rwa [henter] at hsound
      · next r henter =>
        have hsound := sound_refuse hlaw h hnew (congrArg Prod.snd henter)
        rwa [henter] at hsound
    · exact h
  | unregister key => exact sound_unregister hlaw h key

theorem sound_run (hlaw : registry.Lawful valid cancelled Held) {r : ρ} (hr : valid r)
    (ops : List (Op κ α σ)) : Sound valid cancelled Held (System.run registry r ops) :=
  Trace.final_invariant (System.step registry) (Sound valid cancelled Held)
    (fun _ op h => sound_step hlaw h op) (System.start r) ops (sound_start hr)

end Invariant

end Cancellation
