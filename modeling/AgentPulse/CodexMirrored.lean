import AgentPulse.CodexView

/-!
# Two copies of the notifications of a thread

Both copies reach one view, each in its own order. Where turns do not overlap, a
report that the other copy delivered before is settled, so the merged reports
agree with the single stream in everything but the state: a late status is shown
again. `Overtaken` says when such a status does not outlive the run.
-/
namespace AgentPulse

namespace Codex

open Mirror (Copy Behind Interleaving leading delivered)

namespace ThreadView

variable {thread : String} {view : ThreadView} {reports : List ThreadReport}
  {run : List (Copy × ThreadReport)}

theorem hearAll_append (view : ThreadView) (xs ys : List ThreadReport) :
    view.hearAll thread (xs ++ ys) = (view.hearAll thread xs).hearAll thread ys :=
  List.foldl_append

theorem hearAll_snoc (view : ThreadView) (xs : List ThreadReport) (report : ThreadReport) :
    view.hearAll thread (xs ++ [report]) = (view.hearAll thread xs).hear thread report :=
  hearAll_append view xs [report]

theorem tellsAll_append (view : ThreadView) (xs ys : List ThreadReport) :
    view.tellsAll thread (xs ++ ys) =
      view.tellsAll thread xs ++ (view.hearAll thread xs).tellsAll thread ys := by
  induction xs generalizing view with
  | nil => rfl
  | cons report rest ih =>
    rw [List.cons_append, tellsAll, tellsAll, ih, List.append_assoc]
    rfl

theorem tellsAll_snoc (view : ThreadView) (xs : List ThreadReport) (report : ThreadReport) :
    view.tellsAll thread (xs ++ [report]) =
      view.tellsAll thread xs ++ (view.hearAll thread xs).tells thread report := by
  rw [tellsAll_append, tellsAll, tellsAll, List.append_nil]

/-- A turn is reported only after the completion of every other turn that was
reported before it or was running at the start. -/
def Sequential (self : ThreadView) (reports : List ThreadReport) : Prop :=
  ∀ before report after, reports = before ++ report :: after → ∀ turn ∈ report.turn,
    ∀ earlier, (self.activeTurnId = some earlier ∨ ∃ r ∈ before, r.turn = some earlier) →
      earlier ≠ turn → ∃ ending, .turnCompleted earlier ending ∈ before

/-- What was reported is settled, and the running turn is one of them. -/
structure Caught (thread : String) (view : ThreadView) (before : List ThreadReport) : Prop where
  settled : ∀ report ∈ before, (view.hearAll thread before).Settled thread report
  running : ∀ turn, (view.hearAll thread before).activeTurnId = some turn →
    ¬ (view.hearAll thread before).Knows (.completed thread turn)
  reported : ∀ turn, (view.hearAll thread before).activeTurnId = some turn →
    view.activeTurnId = some turn ∨ ∃ report ∈ before, report.turn = some turn

theorem completed_of_leaves {report : ThreadReport} {left : Subject} {turn : String}
    (hleaves : view.leaves thread report = some left)
    (hkey : left.key = (Subject.completed thread turn).key) :
    ∃ found ending, report = .turnCompleted found ending := by
  cases report with
  | status loaded => cases hleaves
  | turnStarted found =>
    simp only [leaves, Option.ite_none_right_eq_some, Option.some.injEq] at hleaves
    obtain ⟨-, rfl⟩ := hleaves
    exact absurd hkey (started_ne_completed found turn)
  | itemStarted found => cases hleaves
  | itemCompleted found item text =>
    cases text with
    | none => cases hleaves
    | some text =>
      cases hleaves
      have hlist := congrArg String.toList hkey
      simp [Subject.key_item, Subject.key_completed, toString, String.toList_append] at hlist
  | turnCompleted found ending => exact ⟨found, ending, rfl⟩

/-- The turn that is running after a report was running before, or is the report's. -/
theorem active_cases {report : ThreadReport} {turn : String}
    (h : (view.hear thread report).activeTurnId = some turn) :
    view.activeTurnId = some turn ∨
      ¬ view.Ignores thread report ∧ report.turn = some turn := by
  rw [active_hear] at h
  split at h
  · exact .inl h
  · next hheard =>
    cases report with
    | status loaded => exact .inl h
    | turnStarted found => exact .inr ⟨hheard, h⟩
    | itemStarted found => exact .inr ⟨hheard, h⟩
    | itemCompleted found item text => cases text <;> exact .inr ⟨hheard, h⟩
    | turnCompleted found ending => cases h

namespace Caught

theorem nil (hcurrent : ∀ turn, view.activeTurnId = some turn →
    ¬ view.Knows (.completed thread turn)) : Caught thread view [] where
  settled _ hmem := by cases hmem
  running := hcurrent
  reported _ h := .inl h

/-- The next report of a stream is not about another than the running turn. -/
theorem fits {before after : List ThreadReport} {report : ThreadReport}
    (h : Caught thread view before) (hsequential : view.Sequential reports)
    (hreports : reports = before ++ report :: after) :
    (view.hearAll thread before).Fits report := by
  intro turn hturn
  cases hactive : (view.hearAll thread before).activeTurnId with
  | none => exact .inl rfl
  | some running =>
    by_cases hsame : running = turn
    · exact .inr (congrArg some hsame)
    · obtain ⟨ending, hended⟩ := hsequential before report after hreports turn hturn running
        (h.reported running hactive) hsame
      exact absurd (h.settled _ hended) (h.running running hactive)

theorem snoc {before : List ThreadReport} {report : ThreadReport} (h : Caught thread view before)
    (hfits : (view.hearAll thread before).Fits report) :
    Caught thread view (before ++ [report]) where
  settled := by
    rw [hearAll_snoc]
    intro earlier hmem
    rcases List.mem_append.mp hmem with hold | hnew
    · exact (h.settled earlier hold).hear report
    · obtain rfl := List.mem_singleton.mp hnew
      exact settled_hear (.inr hfits)
  running := by
    rw [hearAll_snoc]
    intro turn hactive hknown
    have hbefore : ¬ (view.hearAll thread before).Knows (.completed thread turn) := by
      rcases active_cases hactive with hold | ⟨hheard, hturn⟩
      · exact h.running turn hold
      · exact fun hover => hheard (.inl (.inl ⟨turn, hturn, hover⟩))
    rcases knows_hear.mp hknown with hold | ⟨hheard, left, hleaves, hkey⟩
    · exact hbefore hold
    · obtain ⟨found, ending, rfl⟩ := completed_of_leaves hleaves hkey
      rw [active_hear, if_neg hheard, takes] at hactive
      cases hactive
  reported := by
    rw [hearAll_snoc]
    intro turn hactive
    rcases active_cases hactive with hold | ⟨-, hturn⟩
    · rcases h.reported turn hold with hidle | ⟨earlier, hmem, hturn⟩
      · exact .inl hidle
      · exact .inr ⟨earlier, List.mem_append_left _ hmem, hturn⟩
    · exact .inr ⟨report, by simp, hturn⟩

/-- A stream of turns that do not overlap is caught at every point. -/
theorem along (hcurrent : ∀ turn, view.activeTurnId = some turn →
    ¬ view.Knows (.completed thread turn)) (hsequential : view.Sequential reports)
    (before : List ThreadReport) : ∀ after, reports = before ++ after →
      Caught thread view before := by
  induction before using List.reverseRecOn with
  | nil => exact fun _ _ => nil hcurrent
  | append_singleton before report ih =>
    intro after hreports
    have hsplit : reports = before ++ report :: after := by simpa using hreports
    have hbefore := ih _ hsplit
    exact hbefore.snoc (hbefore.fits hsequential hsplit)

end Caught

/-- The view that the merged reports leave. -/
def merged (thread : String) (view : ThreadView) (run : List (Copy × ThreadReport)) : ThreadView :=
  view.hearAll thread (run.map Prod.snd)

/-- The view that the stream alone leaves, as far as it has been delivered. -/
def alone (thread : String) (view : ThreadView) (run : List (Copy × ThreadReport)) : ThreadView :=
  view.hearAll thread (leading run)

theorem merged_snoc (view : ThreadView) (run : List (Copy × ThreadReport)) (copy : Copy)
    (report : ThreadReport) :
    view.merged thread (run ++ [(copy, report)]) = (view.merged thread run).hear thread report := by
  rw [merged, List.map_append, List.map_cons, List.map_nil, hearAll_snoc, merged]

/-- The merged reports have told the same and agree with the stream alone. -/
structure Along (thread : String) (view : ThreadView) (before : List (Copy × ThreadReport)) :
    Prop where
  agree : Agree thread (view.merged thread before) (view.alone thread before)
  told : view.tellsAll thread (before.map Prod.snd) = view.tellsAll thread (leading before)
  caught : Caught thread view (leading before)

theorem along_merge (hcurrent : ∀ turn, view.activeTurnId = some turn →
    ¬ view.Knows (.completed thread turn)) (hsequential : view.Sequential reports)
    (h : Interleaving reports run) (before : List (Copy × ThreadReport)) :
    ∀ after, run = before ++ after → Along thread view before := by
  refine h.induction ⟨Agree.refl view, rfl, Caught.nil hcurrent⟩ ?_ ?_ before
  · intro before copy report after rest hrun hreports hleading _ hbefore
    have hcaught := hbefore.caught.snoc (hbefore.caught.fits hsequential hreports)
    refine ⟨?_, ?_, hleading ▸ hcaught⟩
    · rw [merged_snoc, alone, hleading, hearAll_snoc]
      exact hbefore.agree.hear report
    · rw [hleading, tellsAll_snoc, List.map_append, List.map_cons, List.map_nil, tellsAll_snoc,
        hbefore.told]
      exact congrArg _ (hbefore.agree.tells report)
  · intro before copy report after hrun hmem hleading _ hbefore
    have hsettled : (view.merged thread before).Settled thread report :=
      hbefore.agree.symm.settled (hbefore.caught.settled report hmem)
    by_cases hturn : report.turn = none
    · have hstatus : ∃ loaded, report = .status loaded := by
        cases report with
        | status loaded => exact ⟨loaded, rfl⟩
        | _ => cases hturn
      obtain ⟨loaded, rfl⟩ := hstatus
      refine ⟨?_, ?_, hleading.symm ▸ hbefore.caught⟩
      · rw [merged_snoc, alone, hleading]
        exact hbefore.agree.hear_status loaded
      · rw [hleading, List.map_append, List.map_cons, List.map_nil, tellsAll_snoc, hbefore.told]
        simp [tells]
    · obtain ⟨hsame, hsilent, -⟩ := hear_of_settled hsettled hturn
      refine ⟨?_, ?_, hleading.symm ▸ hbefore.caught⟩
      · rw [merged_snoc, alone, hleading, hsame]
        exact hbefore.agree
      · rw [hleading, List.map_append, List.map_cons, List.map_nil, tellsAll_snoc, hbefore.told]
        exact (congrArg _ hsilent).trans (List.append_nil _)

theorem connection_hearAll (view : ThreadView) (xs : List ThreadReport) :
    (view.hearAll thread xs).connection = (xs.filterMap connects).getLast?.getD view.connection := by
  induction xs using List.reverseRecOn with
  | nil => rfl
  | append_singleton xs report ih =>
    rw [hearAll_snoc, List.filterMap_append]
    cases hconnects : connects report with
    | none => simp [hear, hconnects, ih]
    | some connection => simp [hear, hconnects]

/-- The last status of the run is the last of the stream. -/
theorem connection_merged (h : Interleaving reports run) :
    (view.merged thread run).connection = (view.hearAll thread reports).connection := by
  obtain ⟨copy, hlast⟩ := Mirror.exists_copy_last connects run
  rw [merged, connection_hearAll, connection_hearAll, hlast, h.copies copy]

theorem state_hear (view : ThreadView) (report : ThreadReport) :
    (view.hear thread report).state = (view.shows thread report).getD view.state := rfl

/-- The delivery shows no state: it repeats what a turn reported, or reports none. -/
def Silent (thread : String) (view : ThreadView) (past : List (Copy × ThreadReport)) (copy : Copy)
    (report : ThreadReport) : Prop :=
  Behind copy past ∧ report.turn ≠ none ∨ (view.alone thread past).shows thread report = none

/-- Every delivery after the first part of the run is silent. -/
def SilentAfter (thread : String) (view : ThreadView) (past after : List (Copy × ThreadReport)) :
    Prop :=
  ∀ mid copy report rest, after = mid ++ (copy, report) :: rest →
    Silent thread view (past ++ mid) copy report

/-- A late status of a loaded thread shows the state in which the stream ends,
unless another state is shown after it. -/
def Overtaken (thread : String) (view : ThreadView) (reports : List ThreadReport)
    (run : List (Copy × ThreadReport)) : Prop :=
  ∀ before copy loaded after, run = before ++ (copy, .status (some loaded)) :: after →
    Behind copy before →
    SilentAfter thread view (before ++ [(copy, .status (some loaded))]) after →
    (view.alone thread before).presented loaded = (view.hearAll thread reports).state

theorem shows_status (view : ThreadView) (loaded : AgentState) :
    view.shows thread (.status (some loaded)) = some (view.presented loaded) := by
  have hheard : ¬ view.Ignores thread (.status (some loaded)) := by
    simp [Ignores, Drops, Fits, Restarts, ThreadReport.turn, ThreadReport.subject]
  exact if_neg hheard

theorem SilentAfter.snoc {past after : List (Copy × ThreadReport)} {copy : Copy}
    {report : ThreadReport} (h : SilentAfter thread view past after)
    (hsilent : Silent thread view (past ++ after) copy report) :
    SilentAfter thread view past (after ++ [(copy, report)]) := by
  intro mid copy' report' rest hafter
  rcases List.eq_nil_or_concat rest with rfl | ⟨rest, last, rfl⟩
  · have hlast := List.append_inj' hafter rfl
    obtain ⟨rfl, hsame⟩ := hlast
    obtain ⟨rfl, rfl⟩ := Prod.mk.inj (List.singleton_inj.mp hsame)
    exact hsilent
  · have hmore : after = mid ++ (copy', report') :: rest := by
      have hboth : after ++ [(copy, report)] = (mid ++ (copy', report') :: rest) ++ [last] := by
        simpa using hafter
      exact (List.append_inj' hboth rfl).1
    exact h mid copy' report' rest hmore

/-- The state of the merged view is that of the stream, or the one that the last
late status shows. -/
def Explained (thread : String) (view : ThreadView) (before : List (Copy × ThreadReport)) : Prop :=
  (view.merged thread before).state = (view.alone thread before).state ∨
    ∃ past copy loaded since, before = past ++ (copy, .status (some loaded)) :: since ∧
      Behind copy past ∧
      SilentAfter thread view (past ++ [(copy, .status (some loaded))]) since ∧
      (view.merged thread before).state = (view.alone thread past).presented loaded

theorem Explained.snoc {before : List (Copy × ThreadReport)} {copy : Copy}
    {report : ThreadReport} (h : Explained thread view before)
    (hsilent : Silent thread view before copy report)
    (hmerged : (view.merged thread (before ++ [(copy, report)])).state =
      (view.merged thread before).state)
    (halone : (view.alone thread (before ++ [(copy, report)])).state =
      (view.alone thread before).state) :
    Explained thread view (before ++ [(copy, report)]) := by
  unfold Explained
  rw [hmerged, halone]
  rcases h with hsame | ⟨past, late, loaded, since, rfl, hlate, hsince, hstate⟩
  · exact .inl hsame
  · refine .inr ⟨past, late, loaded, since ++ [(copy, report)], by simp, hlate, ?_, hstate⟩
    exact hsince.snoc (by simpa using hsilent)

namespace Along

variable {before : List (Copy × ThreadReport)} {copy : Copy} {report : ThreadReport}

/-- A silent delivery shows nothing in the merged view either. -/
theorem shows_of_silent (h : Along thread view before)
    (hmem : Behind copy before → report ∈ leading before)
    (hsilent : Silent thread view before copy report) :
    (view.merged thread before).shows thread report = none := by
  rcases hsilent with ⟨hbehind, hturn⟩ | hnone
  · have hsettled := h.agree.symm.settled (h.caught.settled report (hmem hbehind))
    exact (hear_of_settled hsettled hturn).2.2
  · rw [h.agree.shows, hnone]

end Along

/-- The reports of two copies, past some of the deliveries. -/
theorem mem_leading (h : Interleaving reports run) {before after : List (Copy × ThreadReport)}
    {copy : Copy} {report : ThreadReport} (hrun : run = before ++ (copy, report) :: after)
    (hbehind : Behind copy before) : report ∈ leading before := by
  rcases (hrun ▸ h).delivery_cases with ⟨-, -, hmem⟩ | ⟨hahead, -⟩
  · exact hmem
  · exact absurd hbehind hahead

section Runs

variable (hcurrent : ∀ turn, view.activeTurnId = some turn → ¬ view.Knows (.completed thread turn))
  (hsequential : view.Sequential reports) (h : Interleaving reports run)
include hcurrent hsequential h

/-- Silent deliveries leave the state of the merged view. -/
theorem state_of_silentAfter {past after : List (Copy × ThreadReport)} (hrun : run = past ++ after)
    (hsilent : SilentAfter thread view past after) (mid : List (Copy × ThreadReport)) :
    ∀ rest, after = mid ++ rest →
      (view.merged thread (past ++ mid)).state = (view.merged thread past).state := by
  induction mid using List.reverseRecOn with
  | nil => simp
  | append_singleton mid delivery ih =>
    rcases delivery with ⟨copy, report⟩
    intro rest hafter
    have hsplit : after = mid ++ (copy, report) :: rest := by simpa using hafter
    have hwhole : run = (past ++ mid) ++ (copy, report) :: rest := by
      rw [hrun, hsplit, List.append_assoc]
    have halong := along_merge hcurrent hsequential h (past ++ mid) _ hwhole
    have hnone := halong.shows_of_silent (mem_leading h hwhole) (hsilent mid copy report rest hsplit)
    rw [← List.append_assoc, merged_snoc, state_hear, hnone, Option.getD_none]
    exact ih _ hsplit

/-- The merged view shows the state of the stream, or that of a late status. -/
theorem explained (before : List (Copy × ThreadReport)) : ∀ after, run = before ++ after →
    Explained thread view before := by
  refine h.induction (.inl rfl) ?_ ?_ before
  · intro before copy report after rest hrun hreports hleading hahead hbefore
    have halong := along_merge hcurrent hsequential h before _ hrun
    have hmerged : (view.merged thread (before ++ [(copy, report)])).state =
        ((view.alone thread before).shows thread report).getD (view.merged thread before).state := by
      rw [merged_snoc, state_hear, halong.agree.shows]
    have halone : (view.alone thread (before ++ [(copy, report)])).state =
        ((view.alone thread before).shows thread report).getD (view.alone thread before).state := by
      rw [alone, hleading, hearAll_snoc, state_hear, ← alone]
    cases hshows : (view.alone thread before).shows thread report with
    | some state =>
      left
      rw [hmerged, halone, hshows]
      rfl
    | none =>
      rw [hshows] at hmerged halone
      exact hbefore.snoc (.inr hshows) hmerged halone
  · intro before copy report after hrun hmem hleading hbehind hbefore
    have halong := along_merge hcurrent hsequential h before _ hrun
    have halone : (view.alone thread (before ++ [(copy, report)])).state =
        (view.alone thread before).state := by rw [alone, hleading, ← alone]
    by_cases hsilent : Silent thread view before copy report
    · have hnone := halong.shows_of_silent (fun _ => hmem) hsilent
      have hmerged : (view.merged thread (before ++ [(copy, report)])).state =
          (view.merged thread before).state := by
        rw [merged_snoc, state_hear, hnone, Option.getD_none]
      exact hbefore.snoc hsilent hmerged halone
    · -- a late status is what is shown now
      obtain ⟨loaded, rfl⟩ : ∃ loaded, report = .status (some loaded) := by
        cases report with
        | status loaded =>
          cases loaded with
          | some state => exact ⟨state, rfl⟩
          | none => exact absurd (.inr (by simp [shows])) hsilent
        | turnStarted turn => exact absurd (.inl ⟨hbehind, by simp [ThreadReport.turn]⟩) hsilent
        | itemStarted turn => exact absurd (.inl ⟨hbehind, by simp [ThreadReport.turn]⟩) hsilent
        | itemCompleted turn item text => exact absurd (.inl ⟨hbehind, by simp [ThreadReport.turn]⟩) hsilent
        | turnCompleted turn ending => exact absurd (.inl ⟨hbehind, by simp [ThreadReport.turn]⟩) hsilent
      right
      refine ⟨before, copy, loaded, [], rfl, hbehind, ?_, ?_⟩
      · intro mid copy' report' rest hnil
        simp at hnil
      · rw [merged_snoc, state_hear, halong.agree.shows, shows_status]
        rfl

/-- The merged reports end in the state of the stream exactly if every late
status has been overtaken or shows that state. -/
theorem state_merged_iff :
    (view.merged thread run).state = (view.hearAll thread reports).state ↔
      Overtaken thread view reports run := by
  have halone : view.alone thread run = view.hearAll thread reports := by
    rw [alone, h.leading_run]
  constructor
  · intro hsame before copy loaded after hrun hbehind hsilent
    have hwhole : run = (before ++ [(copy, .status (some loaded))]) ++ after := by simpa using hrun
    have hkept := state_of_silentAfter hcurrent hsequential h hwhole hsilent after [] (by simp)
    rw [← hwhole, hsame, merged_snoc, state_hear,
      (along_merge hcurrent hsequential h before _ hrun).agree.shows, shows_status] at hkept
    exact hkept.symm
  · intro hovertaken
    rcases explained hcurrent hsequential h run [] (by simp) with
      hsame | ⟨past, copy, loaded, since, hrun, hbehind, hsilent, hstate⟩
    · rw [hsame, halone]
    · rw [hstate]
      exact hovertaken past copy loaded since hrun hbehind hsilent

end Runs

end ThreadView

end Codex

end AgentPulse
