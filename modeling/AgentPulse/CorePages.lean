import AgentPulse.CoreRetention

/-!
# Pages of the retained window

A page is filtered out of the window, not indexed. Because the window is a
numbered end of the accepted history, the filter finds exactly the events of the
requested numbers whenever the window reaches back to the cursor.
-/
namespace AgentPulse

open Trace (final)

namespace SessionAggregate

/-- `retained_event_page_after(after_sequence, usize::MAX)`. -/
def retainedEventsAfter (self : SessionAggregate) (afterSequence : Nat) : Option (List AgentEvent) :=
  self.retainedEventPageAfter afterSequence (2 ^ 64 - 1)

/-- The events of a numbered history that a page after a cursor can hold. -/
def pageOf (history : List AgentEvent) (afterSequence maxEvents : Nat) : List AgentEvent :=
  history.filter fun event =>
    decide (afterSequence < event.sequence.get ∧ event.sequence.get ≤ afterSequence + maxEvents)

theorem pageOf_eq {history : List AgentEvent} (h : Numbered history) (afterSequence maxEvents : Nat) :
    pageOf history afterSequence maxEvents = (history.drop afterSequence).take maxEvents := by
  have hafter : history.drop afterSequence =
      history.filter fun event => decide (event.sequence.get > afterSequence) := by
    have hall := filter_after h (Nat.zero_le afterSequence)
    rw [List.drop_zero] at hall
    exact hall.symm
  have hboth : pageOf history afterSequence maxEvents =
      (history.drop afterSequence).filter fun event =>
        decide (event.sequence.get ≤ afterSequence + maxEvents) := by
    rw [hafter, List.filter_filter]
    unfold pageOf
    congr 1
    funext event
    rw [Bool.decide_and, Bool.and_comm]
  have hsplit := List.take_append_drop maxEvents (history.drop afterSequence)
  have hfirst : ((history.drop afterSequence).take maxEvents).filter
      (fun event => decide (event.sequence.get ≤ afterSequence + maxEvents)) =
      (history.drop afterSequence).take maxEvents := by
    rw [List.filter_eq_self]
    intro event hmem
    exact decide_eq_true (mem_page_sequence h hmem)
  have hrest : ((history.drop afterSequence).drop maxEvents).filter
      (fun event => decide (event.sequence.get ≤ afterSequence + maxEvents)) = [] := by
    rw [List.filter_eq_nil_iff, List.drop_drop]
    intro event hmem
    have hlater := mem_drop_sequence h hmem
    simp only [decide_eq_true_eq]
    omega
  calc
    pageOf history afterSequence maxEvents
        = ((history.drop afterSequence).take maxEvents ++
            (history.drop afterSequence).drop maxEvents).filter fun event =>
              decide (event.sequence.get ≤ afterSequence + maxEvents) := by rw [hboth, hsplit]
    _ = (history.drop afterSequence).take maxEvents := by
      rw [List.filter_append, hfirst, hrest, List.append_nil]

/-- The window starts where as many events were dropped as it lacks of the history. -/
theorem front_sequence {config : SessionAggregateConfig} {history : List AgentEvent}
    {self : SessionAggregate} (h : Reduces config history self) {front : AgentEvent}
    (hfront : self.recentEvents.head? = some front) :
    front.sequence.get = history.length - self.recentEvents.length + 1 := by
  have hnumbered : Numbered history := (reduces_anchored h).sequences
  have hwindow : self.recentEvents =
      history.drop (history.length - self.recentEvents.length) := by
    rw [reduces_recentEvents h]
    exact window_eq_drop config history
  have hpage := numbered_page hnumbered (history.length - self.recentEvents.length)
    self.recentEvents.length
  rw [← hwindow, List.take_length] at hpage
  have hhead := congrArg List.head? hpage
  rw [List.head?_map, hfront, List.head?_range'] at hhead
  split at hhead
  · cases hhead
  · exact Option.some.inj hhead

/-- What a page covers, by the numbers of the window. -/
theorem covers_iff {config : SessionAggregateConfig} {history : List AgentEvent}
    {self : SessionAggregate} (h : Reduces config history self) (afterSequence : Nat) :
    (afterSequence < history.length ∧
        history.length - self.recentEvents.length ≤ afterSequence) ↔
      afterSequence < history.length ∧
        ∃ front, self.recentEvents.head? = some front ∧ front.sequence.get ≤ afterSequence + 1 := by
  apply and_congr_right
  intro hbelow
  constructor
  · intro hreaches
    have hsome : self.recentEvents ≠ [] := by
      intro hnil
      rw [hnil, List.length_nil] at hreaches
      omega
    obtain ⟨front, rest, hcons⟩ := List.exists_cons_of_ne_nil hsome
    have hfront : self.recentEvents.head? = some front := by rw [hcons]; rfl
    refine ⟨front, hfront, ?_⟩
    rw [front_sequence h hfront]
    omega
  · rintro ⟨front, hfront, hle⟩
    rw [front_sequence h hfront] at hle
    omega

/-- Without a limit the page goes up to the last event. -/
theorem run_retained_after {initial : AgentEvent} {config : SessionAggregateConfig}
    {start : SessionAggregate} (h : fromInitialEventWithConfig initial config = .ok start)
    (calls : List AgentEvent) {afterSequence : Nat} {page : List AgentEvent}
    (hpage : (final apply start calls).retainedEventsAfter afterSequence = some page) :
    page = (initial :: start.accepted calls).drop afterSequence := by
  have hreduces := reduces_of_run h calls
  have hanchor := reduces_anchored hreduces
  have hbound := (final apply start calls).lastSequence.bounded
  rw [hanchor.cursor] at hbound
  rw [retainedEventsAfter, retainedEventPageAfter_eq hreduces] at hpage
  split at hpage
  · cases hpage
    apply List.take_of_length_le
    rw [List.length_drop]
    omega
  · cases hpage

/-- After any run, a page exists exactly when the cursor is the last event or the window holds the
event after it, and it consists of the accepted events of the next numbers, each once and in order. -/
theorem run_retained_page {initial : AgentEvent} {config : SessionAggregateConfig}
    {start : SessionAggregate} (h : fromInitialEventWithConfig initial config = .ok start)
    (calls : List AgentEvent) (afterSequence maxEvents : Nat) :
    let self := final apply start calls
    let last := self.lastSequence.get
    ((self.retainedEventPageAfter afterSequence maxEvents).isSome ↔
      afterSequence = last ∨ (afterSequence < last ∧
        ∃ front, self.recentEvents.head? = some front ∧ front.sequence.get ≤ afterSequence + 1)) ∧
    ∀ page, self.retainedEventPageAfter afterSequence maxEvents = some page →
      page = pageOf (initial :: start.accepted calls) afterSequence maxEvents ∧
      page.map (fun event => event.sequence.get) =
        List.range' (afterSequence + 1) (min maxEvents (last - afterSequence)) := by
  have hreduces := reduces_of_run h calls
  have hanchor := reduces_anchored hreduces
  have hnumbered : Numbered (initial :: start.accepted calls) := hanchor.sequences
  have hpage := retainedEventPageAfter_eq hreduces afterSequence maxEvents
  dsimp only
  rw [hanchor.cursor, ← covers_iff hreduces, hpage]
  constructor
  · split
    · next hcovers => exact iff_of_true rfl hcovers
    · next hmisses => exact iff_of_false Bool.false_ne_true hmisses
  · intro page hsome
    split at hsome
    · cases hsome
      rw [pageOf_eq hnumbered]
      exact ⟨rfl, numbered_page hnumbered afterSequence maxEvents⟩
    · cases hsome

/-- A window of one event, asked for what comes after the event before it. -/
theorem run_retained_page_last :
    ∃ start, fromInitialEventWithConfig (Sample.started 0 0) (.new 1) = .ok start ∧
      ∀ page, (final apply start [Sample.message 0 1]).retainedEventPageAfter 1 5 = some page →
        page = pageOf (Sample.started 0 0 :: start.accepted [Sample.message 0 1]) 1 5 :=
  ⟨_, rfl, fun page hpage =>
    ((run_retained_page rfl [Sample.message 0 1] 1 5).2 page hpage).1⟩

end SessionAggregate

end AgentPulse
