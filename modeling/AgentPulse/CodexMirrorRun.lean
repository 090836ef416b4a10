import AgentPulse.CodexFollow
import AgentPulse.CodexMirrored

/-!
# Mirrored delivery

Two copies of the notifications of a thread, merged in any way, against the
notifications alone. What is told and what the turns leave is the same. The
state is the same exactly if no late status outlives the run.
-/
namespace AgentPulse

namespace Codex

open Mirror (Copy Behind Interleaving leading delivered)

/-- Delivers one notification. -/
def MapperState.deliver {B : Type} (host : ProviderHost B) (s : MapperState (B × List AgentEvent))
    (input : String × Value) :
    MapperState (B × List AgentEvent) × Except CodexProviderSourceError MappingDisposition :=
  match Mapping.notification (recording host) input.1 input.2 s with
  | (result, s') => (s', result)

namespace ThreadView

/-- The view of a mapping, with the keys that are remembered. -/
def ofMapping (mapping : ThreadMapping) (keys : List String) : ThreadView where
  state := mapping.state
  connection := mapping.connection
  activeTurnId := mapping.activeTurnId
  lastMessage := mapping.lastMessage
  lastFinalMessage := mapping.lastFinalMessage
  proposedPlan := mapping.proposedPlan
  planReady := mapping.planReady
  keys := keys

theorem ofMapping_describes (mapping : ThreadMapping) (keys : List String) :
    (ofMapping mapping keys).Describes mapping := ⟨rfl, rfl, rfl, rfl, rfl, rfl, rfl⟩

/-- No report of the sequence meets another running turn. -/
def Passes (thread : String) (view : ThreadView) (reports : List ThreadReport) : Prop :=
  ∀ before report after, reports = before ++ report :: after →
    (view.hearAll thread before).Drops thread report ∨ (view.hearAll thread before).Fits report

variable {thread : String} {view : ThreadView} {reports : List ThreadReport}
  {run : List (Copy × ThreadReport)}

theorem Passes.tail {report : ThreadReport} (h : Passes thread view (report :: reports)) :
    Passes thread (view.hear thread report) reports := by
  intro before next after hreports
  exact h (report :: before) next after (by rw [hreports]; rfl)

theorem length_keys_hear (view : ThreadView) (report : ThreadReport) :
    view.keys.length ≤ (view.hear thread report).keys.length := by
  rw [keys_hear]
  split
  · exact le_rfl
  · rw [keys_takes, List.length_append]
    omega

theorem length_keys_hearAll (view : ThreadView) (reports : List ThreadReport) :
    view.keys.length ≤ (view.hearAll thread reports).keys.length := by
  induction reports generalizing view with
  | nil => exact le_rfl
  | cons report rest ih => exact (length_keys_hear view report).trans (ih _)

/-- A settled report is dropped, or it belongs to the running turn. -/
theorem passes_of_settled {report : ThreadReport} (h : view.Settled thread report) :
    view.Drops thread report ∨ view.Fits report := by
  have hactive : ∀ turn, view.activeTurnId = some turn → report.turn = some turn →
      view.Fits report := by
    intro turn hrunning hturn other hother
    rw [hturn] at hother
    cases hother
    exact .inr hrunning
  cases report with
  | status loaded => exact .inr fun turn hturn => by cases hturn
  | turnStarted turn =>
    rcases h with hover | hbegun | hrunning
    · exact .inl (.inl ⟨turn, rfl, hover⟩)
    · exact .inl (.inr ⟨_, rfl, hbegun⟩)
    · exact .inr (hactive turn hrunning rfl)
  | itemStarted turn =>
    rcases h with hover | hrunning
    · exact .inl (.inl ⟨turn, rfl, hover⟩)
    · exact .inr (hactive turn hrunning rfl)
  | itemCompleted turn item text =>
    rcases h with hover | hknown | ⟨-, hrunning⟩
    · exact .inl (.inl ⟨turn, rfl, hover⟩)
    · exact .inl (.inr ⟨_, rfl, hknown⟩)
    · exact .inr (hactive turn hrunning rfl)
  | turnCompleted turn ending => exact .inl (.inl ⟨turn, rfl, h⟩)

section Runs

variable (hcurrent : ∀ turn, view.activeTurnId = some turn → ¬ view.Knows (.completed thread turn))
  (hsequential : view.Sequential reports)
include hcurrent hsequential

theorem passes_alone : Passes thread view reports := by
  intro before report after hreports
  have hcaught := Caught.along hcurrent hsequential before (report :: after) hreports
  exact .inr (hcaught.fits hsequential hreports)

/-- The merged reports pass as well: a report that leads meets the turn that the
stream alone runs, and one that trails is settled. -/
theorem passes_merged (h : Interleaving reports run) : Passes thread view (run.map Prod.snd) := by
  intro before report after hrun
  obtain ⟨deliveries, rest, rfl, rfl, hrest⟩ := List.map_eq_append_iff.mp hrun
  obtain ⟨⟨copy, found⟩, others, rfl, rfl, -⟩ := List.map_eq_cons_iff.mp hrest
  have halong := along_merge hcurrent hsequential h deliveries _ rfl
  rcases h.delivery_cases with ⟨-, -, hmem⟩ | ⟨-, -, later, hreports⟩
  · exact passes_of_settled (halong.agree.symm.settled (halong.caught.settled found hmem))
  · right
    have hfits := halong.caught.fits hsequential hreports
    intro turn hturn
    rw [← merged, halong.agree.active]
    exact hfits turn hturn

end Runs

end ThreadView

namespace MapperState

variable {B : Type} {host : ProviderHost B} {thread : String} {view : ThreadView}
  {said : List AgentEventPayload} {report : String × Value → ThreadReport}

/-- A run whose reports pass returns throughout and moves the thread as they move
the view. -/
theorem deliver_follows (hcommits : Commits host) (inputs : List (String × Value)) (budget : Nat)
    {s : MapperState (B × List AgentEvent)}
    (hsaid : ∀ input ∈ inputs, Says thread input.1 input.2 (report input))
    (hpasses : ThreadView.Passes thread view (inputs.map report))
    (hs : Hears thread view (budget + 2 * inputs.length) said s)
    (hkeys : Mapping.Recalls view.keys s.mapper)
    (hlimit : (view.hearAll thread (inputs.map report)).keys.length ≤ recentNotificationLimit) :
    (∀ result ∈ Trace.outputs (deliver host) s inputs, ∃ d, result = .ok d) ∧
      Hears thread (view.hearAll thread (inputs.map report)) budget
        (said ++ view.tellsAll thread (inputs.map report)) (Trace.final (deliver host) s inputs) := by
  induction inputs generalizing view said s with
  | nil =>
    refine ⟨fun result hresult => by simp at hresult, ?_⟩
    rw [List.map_nil, ThreadView.tellsAll, List.append_nil]
    exact hs
  | cons input rest ih =>
    have hroom : Hears thread view ((budget + 2 * rest.length) + 2) said s := by
      have hlength : budget + 2 * (input :: rest).length = budget + 2 * rest.length + 2 := by
        rw [List.length_cons]
        omega
      rwa [hlength] at hs
    have hnext : (view.hear thread (report input)).keys.length ≤ recentNotificationLimit :=
      (ThreadView.length_keys_hearAll _ (rest.map report)).trans hlimit
    obtain ⟨d, s', hrun, hs', hkeys'⟩ := Mapping.notification_follows hcommits
      (hsaid input List.mem_cons_self) hroom hkeys (hpasses [] (report input) _ rfl) hnext
    have hstep : s.deliver host input = (s', .ok d) := by
      unfold deliver
      rw [hrun]
    obtain ⟨hreturns, hfinal⟩ := ih (fun other hother => hsaid other (List.mem_cons_of_mem _ hother))
      hpasses.tail hs' hkeys' hlimit
    rw [Trace.outputs_cons, Trace.final_cons, hstep]
    refine ⟨?_, ?_⟩
    · intro result hresult
      rcases List.mem_cons.mp hresult with rfl | hlater
      · exact ⟨d, rfl⟩
      · exact hreturns result hlater
    · rw [List.append_assoc] at hfinal
      exact hfinal

/-- The merged delivery returns throughout, tells what the stream alone tells, and
leaves the thread as the stream alone leaves it. -/
structure Transparent (host : ProviderHost B) (thread : String)
    (s : MapperState (B × List AgentEvent)) (inputs : List (String × Value))
    (run : List (Copy × (String × Value))) : Prop where
  returns : ∀ result ∈ Trace.outputs (deliver host) s (run.map Prod.snd), ∃ d, result = .ok d
  told : told (Trace.final (deliver host) s (run.map Prod.snd)).host.2 =
    told (Trace.final (deliver host) s inputs).host.2
  mapping : ∃ merged alone,
    (Trace.final (deliver host) s (run.map Prod.snd)).mapper.threads[thread]? = some merged ∧
    (Trace.final (deliver host) s inputs).mapper.threads[thread]? = some alone ∧
    merged.state = alone.state ∧ merged.connection = alone.connection ∧
    merged.activeTurnId = alone.activeTurnId ∧ merged.planReady = alone.planReady

theorem delivered_map (report : String × Value → ThreadReport) (copy : Copy)
    (run : List (Copy × (String × Value))) :
    delivered copy (run.map fun delivery => (delivery.1, report delivery.2)) =
      (delivered copy run).map report := by
  simp only [delivered, List.filter_map, List.map_map]
  rfl

/-- Mirrored delivery of turns that do not overlap shows nothing else than the
stream alone, exactly if its late statuses are overtaken. -/
theorem mirrored_iff (hcommits : Commits host) {inputs : List (String × Value)}
    {run : List (Copy × (String × Value))} {s : MapperState (B × List AgentEvent)}
    {mapping : ThreadMapping}
    (hconfigured : s.mapper.configured.contains thread = true)
    (hmapping : s.mapper.threads[thread]? = some mapping)
    (hroom : mapping.nextSequence.get + s.mapper.localChoices.size + 4 * inputs.length < 2 ^ 64)
    (hkeys : Mapping.Recalls s.mapper.recentOrder s.mapper)
    (hcurrent : ∀ turn, mapping.activeTurnId = some turn →
      (Subject.completed thread turn).key ∉ s.mapper.recentOrder)
    (hsaid : ∀ input ∈ inputs, Says thread input.1 input.2 (report input))
    (hsequential : (ThreadView.ofMapping mapping s.mapper.recentOrder).Sequential
      (inputs.map report))
    (h : Interleaving inputs run)
    (halone : ((ThreadView.ofMapping mapping s.mapper.recentOrder).hearAll thread
      (inputs.map report)).keys.length ≤ recentNotificationLimit)
    (hmerged : ((ThreadView.ofMapping mapping s.mapper.recentOrder).hearAll thread
      (run.map fun delivery => report delivery.2)).keys.length ≤ recentNotificationLimit) :
    Transparent host thread s inputs run ↔
      ThreadView.Overtaken thread (ThreadView.ofMapping mapping s.mapper.recentOrder)
        (inputs.map report) (run.map fun delivery => (delivery.1, report delivery.2)) := by
  let view := ThreadView.ofMapping mapping s.mapper.recentOrder
  let reports := run.map fun delivery => (delivery.1, report delivery.2)
  have hreports : reports.map Prod.snd = (run.map Prod.snd).map report := by
    simp only [reports, List.map_map]
    rfl
  have hmerge : Interleaving (inputs.map report) reports := by
    constructor
    intro copy
    rw [delivered_map, h.copies]
  have hrunSays : ∀ input ∈ run.map Prod.snd, Says thread input.1 input.2 (report input) := by
    intro input hinput
    obtain ⟨delivery, hmem, rfl⟩ := List.mem_map.mp hinput
    refine hsaid _ ?_
    rw [← h.copies delivery.1]
    exact List.mem_map.mpr ⟨delivery, List.mem_filter.mpr ⟨hmem, by simp⟩, rfl⟩
  have hfollows : ∀ budget, budget ≤ 4 * inputs.length →
      Hears thread view budget (told s.host.2) s := by
    intro budget hbudget
    exact ⟨⟨hconfigured, mapping, hmapping, ThreadView.ofMapping_describes mapping _, by omega⟩, rfl⟩
  have hlength := h.length_run
  obtain ⟨-, hfinal⟩ := deliver_follows hcommits inputs 0 hsaid
    (ThreadView.passes_alone hcurrent hsequential) (hfollows _ (by omega)) hkeys halone
  obtain ⟨hreturns, hrunFinal⟩ := deliver_follows hcommits (run.map Prod.snd) 0
    hrunSays (hreports ▸ ThreadView.passes_merged hcurrent hsequential hmerge)
    (hfollows _ (by rw [List.length_map]; omega)) hkeys (by rw [List.map_map]; exact hmerged)
  have halong := ThreadView.along_merge hcurrent hsequential hmerge reports [] (by simp)
  have hagree := halong.agree
  have htold := halong.told
  rw [ThreadView.merged, ThreadView.alone, hmerge.leading_run] at hagree
  rw [hmerge.leading_run, hreports] at htold
  have hconnection : (view.merged thread reports).connection =
      (view.hearAll thread (inputs.map report)).connection :=
    ThreadView.connection_merged hmerge
  have hstate := ThreadView.state_merged_iff hcurrent hsequential hmerge
  rw [ThreadView.merged] at hconnection hstate
  rw [hreports] at hagree hconnection hstate
  obtain ⟨⟨-, alone, haloneMapping, haloneDescribes, -⟩, haloneTold⟩ := hfinal
  obtain ⟨⟨-, merged, hmergedMapping, hmergedDescribes, -⟩, hmergedTold⟩ := hrunFinal
  rw [← hstate]
  constructor
  · rintro ⟨-, -, found, other, hfound, hother, hsame, -⟩
    rw [hmergedMapping] at hfound
    rw [haloneMapping] at hother
    cases hfound
    cases hother
    rw [← hmergedDescribes.state, ← haloneDescribes.state, hsame]
  · intro hsame
    refine ⟨hreturns, by rw [hmergedTold, haloneTold, htold], merged, alone, hmergedMapping,
      haloneMapping, ?_, ?_, ?_, ?_⟩
    · rw [hmergedDescribes.state, haloneDescribes.state, hsame]
    · rw [hmergedDescribes.connection, haloneDescribes.connection, hconnection]
    · rw [hmergedDescribes.activeTurnId, haloneDescribes.activeTurnId, hagree.active]
    · rw [hmergedDescribes.planReady, haloneDescribes.planReady, hagree.planReady]

end MapperState

namespace Sample

/-- The host of the sample with its record. -/
def recorded : MapperState (Nat × List AgentEvent) := ⟨discovered.mapper, (discovered.host, [])⟩

/-- A turn that starts, is shown as active and completes. -/
def wholeTurn : List (String × Value) :=
  [("turn/started", turnParams "t1" "inProgress"),
    ("thread/status/changed", .object [("threadId", .string thread), ("status", active)]),
    ("turn/completed", turnParams "t1" "completed")]

def wholeTurnReport (input : String × Value) : ThreadReport :=
  if input.1 = "turn/started" then .turnStarted "t1"
  else if input.1 = "turn/completed" then .turnCompleted "t1" .completed
  else .status (some .running)

/-- The sample thread before the turn. -/
def idleView : ThreadView where
  state := .idle
  connection := .connected
  activeTurnId := none
  lastMessage := none
  lastFinalMessage := none
  proposedPlan := none
  planReady := false
  keys := []

/-- The second copy arrives after the first. -/
def oneAfterTheOther : List (Copy × (String × Value)) :=
  wholeTurn.map (fun input => (Copy.first, input)) ++ wholeTurn.map fun input => (Copy.second, input)

end Sample

namespace MapperState

open AgentPulse.Codex.Sample (recorded wholeTurn wholeTurnReport idleView oneAfterTheOther)

theorem wholeTurn_told :
    ∀ input ∈ wholeTurn, Says Sample.thread input.1 input.2 (wholeTurnReport input) := by
  simp only [wholeTurn, List.mem_cons, List.not_mem_nil, or_false, forall_eq_or_imp, forall_eq]
  refine ⟨?_, ?_, ?_⟩
  · exact .turnStarted rfl rfl rfl rfl rfl fun _ h => by cases h
  · exact .status rfl rfl rfl ⟨⟨_, rfl, by decide⟩, rfl⟩
  · exact .turnCompleted rfl rfl rfl rfl rfl rfl (fun _ h => by cases h) rfl

theorem wholeTurn_sequential : idleView.Sequential (wholeTurn.map wholeTurnReport) := by
  have hone : ∀ report ∈ wholeTurn.map wholeTurnReport, ∀ turn ∈ report.turn, turn = "t1" := by
    decide +kernel
  intro before report after hreports turn hturn earlier hearlier hother
  have hmine : turn = "t1" := hone report (by rw [hreports]; simp) turn hturn
  rcases hearlier with hrunning | ⟨past, hpast, hpastTurn⟩
  · cases hrunning
  · have htheirs := hone past (by rw [hreports]; exact List.mem_append_left _ hpast) earlier
      hpastTurn
    exact absurd (htheirs.trans hmine.symm) hother

theorem interleaving_oneAfterTheOther : Interleaving wholeTurn oneAfterTheOther :=
  ⟨fun copy => by cases copy <;> rfl⟩

theorem recorded_mapping : ∃ mapping, recorded.mapper.threads[Sample.thread]? = some mapping ∧
    ThreadView.ofMapping mapping recorded.mapper.recentOrder = idleView ∧
    mapping.nextSequence.get + recorded.mapper.localChoices.size + 12 < 2 ^ 64 := by
  have hsample : (recorded.mapper.threads[Sample.thread]?.any fun mapping =>
      decide (ThreadView.ofMapping mapping recorded.mapper.recentOrder = idleView) &&
        decide (mapping.nextSequence.get + recorded.mapper.localChoices.size + 12 < 2 ^ 64)) =
        true := by decide +kernel
  obtain ⟨mapping, hmapping, hboth⟩ := (Option.any_eq_true _ _).mp hsample
  rw [Bool.and_eq_true, decide_eq_true_eq, decide_eq_true_eq] at hboth
  exact ⟨mapping, hmapping, hboth.1, hboth.2⟩

theorem recorded_recalls : Mapping.Recalls recorded.mapper.recentOrder recorded.mapper := by
  have hempty : recorded.mapper.recentKeys.toList = [] := by decide +kernel
  have horder : recorded.mapper.recentOrder = [] := by decide +kernel
  refine ⟨rfl, ?_⟩
  intro key
  rw [horder, ← Std.ExtTreeSet.contains_toList, hempty]
  simp

theorem mirrored_iff_whole_turn :
    Transparent Sample.host Sample.thread recorded wholeTurn oneAfterTheOther ↔
      ThreadView.Overtaken Sample.thread idleView (wholeTurn.map wholeTurnReport)
        (oneAfterTheOther.map fun delivery => (delivery.1, wholeTurnReport delivery.2)) := by
  obtain ⟨mapping, hmapping, hview, hroom⟩ := recorded_mapping
  have hactive : mapping.activeTurnId = none := congrArg ThreadView.activeTurnId hview
  have hcommits : Commits Sample.host := fun _ _ => rfl
  have hroom : mapping.nextSequence.get + recorded.mapper.localChoices.size +
      4 * wholeTurn.length < 2 ^ 64 := hroom
  have hiff := mirrored_iff hcommits (by decide +kernel) hmapping hroom recorded_recalls (by rw [hactive]; simp) wholeTurn_told
    (hview ▸ wholeTurn_sequential) interleaving_oneAfterTheOther (hview ▸ by decide +kernel)
    (hview ▸ by decide +kernel)
  rwa [hview] at hiff

/-- The late status shows the completed turn as running for good. -/
theorem late_status_stays :
    (∀ input ∈ wholeTurn, Says Sample.thread input.1 input.2 (wholeTurnReport input)) ∧
      Interleaving wholeTurn oneAfterTheOther ∧
      ¬ Transparent Sample.host Sample.thread recorded wholeTurn oneAfterTheOther := by
  refine ⟨wholeTurn_told, interleaving_oneAfterTheOther, ?_⟩
  rintro ⟨-, -, merged, alone, hmerged, halone, hstate, -⟩
  have hcommits : Commits Sample.host := fun _ _ => rfl
  obtain ⟨mapping, hmapping, hview, hroom⟩ := recorded_mapping
  have hdescribes : idleView.Describes mapping := hview ▸ ThreadView.ofMapping_describes mapping _
  have hs : Hears Sample.thread idleView 12 [] recorded :=
    ⟨⟨by decide +kernel, mapping, hmapping, hdescribes, hroom⟩, rfl⟩
  have hkeys : Mapping.Recalls idleView.keys recorded.mapper := by
    have horder : recorded.mapper.recentOrder = idleView.keys := congrArg ThreadView.keys hview
    rw [← horder]
    exact recorded_recalls
  have hidle : ∀ turn, idleView.activeTurnId = some turn →
      ¬ idleView.Knows (.completed Sample.thread turn) := fun _ h => by cases h
  have hcopies : Interleaving (wholeTurn.map wholeTurnReport)
      (oneAfterTheOther.map fun delivery => (delivery.1, wholeTurnReport delivery.2)) :=
    ⟨fun copy => by cases copy <;> rfl⟩
  obtain ⟨-, hfinal⟩ := deliver_follows hcommits wholeTurn 6
    wholeTurn_told (ThreadView.passes_alone hidle wholeTurn_sequential) hs hkeys
    (by decide +kernel)
  have hboth : ∀ input ∈ oneAfterTheOther.map Prod.snd,
      Says Sample.thread input.1 input.2 (wholeTurnReport input) := by
    intro input hinput
    refine wholeTurn_told input ?_
    have hlist : oneAfterTheOther.map Prod.snd = wholeTurn ++ wholeTurn := rfl
    rw [hlist, List.mem_append, or_self] at hinput
    exact hinput
  obtain ⟨-, hrunFinal⟩ := deliver_follows hcommits (oneAfterTheOther.map Prod.snd) 0
    hboth (ThreadView.passes_merged hidle wholeTurn_sequential hcopies) hs hkeys
    (by decide +kernel)
  obtain ⟨other, hother, haloneDescribes, -⟩ := hfinal.1.tracked
  obtain ⟨found, hfound, hmergedDescribes, -⟩ := hrunFinal.1.tracked
  rw [halone] at hother
  rw [hmerged] at hfound
  cases hother
  cases hfound
  rw [haloneDescribes.state, hmergedDescribes.state] at hstate
  exact absurd hstate (by decide +kernel)

end MapperState

end Codex

end AgentPulse
