import Reporting.Proofs.Authorization
import Reporting.Proofs.InsightKinds
import Reporting.Proofs.RunOutcomes

/-!
# Entry points that agree

A report is run under its id, as a preview of its definition, for an export and for the feed of the
home page. All four come to the same run (`State.execute`): a preview of a report gives what the
report gives, under another id, an export delivers the result or fails as the run does, and an
entry of the feed has the summary of the run or, exactly where it fails, a fixed text
(`State.entryPoints_agree`).
-/

namespace Reporting

/-! ## Summaries -/

namespace Insight

/-- Whether a text has a character that the text in place of a summary does not have. -/
def Tells (detail : String) : Prop := ∃ c ∈ detail.toList, c ∉ State.noInsight.toList

variable {rows rawRows : List Row} {columns : List String} {metric : String} {insight : Insight}

theorem tells_of_trend? (h : trend? rows metric = .ok (some insight)) : Tells insight.detail := by
  obtain ⟨-, hnone⟩ | ⟨-, _, _, _, _, hsome⟩ := trend?_cases h
  · cases hnone
  · rw [Option.some.inj hsome]
    exact ⟨'%', by simp, by decide⟩

theorem tells_of_driver? (h : driver? columns rows metric = .ok (some insight)) :
    Tells insight.detail := by
  obtain ⟨-, hnone⟩ | ⟨-, _, hsome⟩ := driver?_cases h
  · cases hnone
  · rw [Option.some.inj hsome]
    exact ⟨'L', by simp, by decide⟩

theorem tells_of_anomaly? (h : anomaly? columns rows metric = .ok (some insight)) :
    Tells insight.detail := by
  obtain hnone | ⟨-, _, hsome⟩ := anomaly?_cases h
  · cases hnone
  · rw [Option.some.inj hsome]
    exact ⟨'D', by simp, by decide⟩

theorem tells_of_forecast? (h : forecast? rows metric = .ok (some insight)) :
    Tells insight.detail := by
  obtain hnone | ⟨-, _, hsome⟩ := forecast?_cases h
  · cases hnone
  · rw [Option.some.inj hsome]
    exact ⟨'S', by simp, by decide⟩

theorem tells_quality (rawRows : List Row) : Tells (quality rawRows).detail := by
  unfold quality
  split
  · exact ⟨'w', by decide, by decide⟩
  · exact ⟨'F', by simp, by decide⟩

end Insight

namespace Insights

open Insight

theorem tells_of_ofMetric {columns : List String} {rows : List Row} {metric : String}
    {bullets : List Insight} (h : ofMetric columns rows metric = .ok bullets) :
    ∀ insight ∈ bullets, Tells insight.detail := by
  obtain ⟨trend, driver, anomaly, forecast, hfinds, rfl⟩ := ofMetric_inv h
  intro insight hinsight
  obtain ⟨o, ho, hsome⟩ := List.mem_filterMap.1 hinsight
  obtain rfl : o = some insight := hsome
  simp only [List.mem_cons, List.not_mem_nil, or_false] at ho
  rcases ho with rfl | rfl | rfl | rfl
  · exact tells_of_trend? hfinds.trend
  · exact tells_of_driver? hfinds.driver
  · exact tells_of_anomaly? hfinds.anomaly
  · exact tells_of_forecast? hfinds.forecast

/-- A summary starts with the first detail. -/
theorem summarize_ne_noInsight {bullets : List Insight} (hne : bullets ≠ [])
    (h : ∀ insight ∈ bullets, Tells insight.detail) : summarize bullets ≠ State.noInsight := by
  cases bullets with
  | nil => exact absurd rfl hne
  | cons first rest =>
    obtain ⟨c, hc, hother⟩ := h first (by simp)
    have hsummary : summarize (first :: rest) = first.detail ++
        String.intercalate " " ("" :: (rest.take 2).map (·.detail)) := by
      rw [← String.intercalate_cons_append, String.append_empty]
      rfl
    intro heq
    rw [← heq, hsummary, String.toList_append] at hother
    exact hother (List.mem_append_left _ hc)

/-- The summary of a run is not the text in place of one. -/
theorem summary_ne_noInsight {columns : List String} {rows rawRows : List Row}
    {insights : Insights} (h : build columns rows rawRows = .ok insights) :
    insights.summary ≠ State.noInsight := by
  have hquality : ∀ about : List Insight, (∀ insight ∈ about, Tells insight.detail) →
      summarize (about ++ [quality rawRows]) ≠ State.noInsight := by
    intro about habout
    refine summarize_ne_noInsight (by simp) fun insight hinsight => ?_
    rcases List.mem_append.1 hinsight with hmem | hmem
    · exact habout insight hmem
    · obtain rfl := List.mem_singleton.1 hmem
      exact tells_quality rawRows
  obtain ⟨about, rfl, ⟨metric, -, habout⟩ | ⟨-, rfl⟩⟩ := build_inv h
  · exact hquality about (tells_of_ofMetric habout)
  · exact hquality [] (by simp)

end Insights

namespace State

/-! ## One run behind all entry points -/

section Execute

variable {s : State} {p : Principal} {r : Report} {input : RunInput} {result : RunResult}

theorem outcome_of_execute (h : (s.execute p r input).outcome = .ok result) :
    (s.runReport p r (s.viewableIds p) input).outcome = .ok result :=
  Loading.outcome_mapError_eq_ok.1 h

theorem outcome_of_execute_error {fault : Fault}
    (h : (s.execute p r input).outcome = .error fault) :
    ∃ failure, (s.runReport p r (s.viewableIds p) input).outcome = .error failure := by
  obtain ⟨failure, hfailure, -⟩ := Loading.exists_of_mapError_eq_error h
  exact ⟨failure, hfailure⟩

/-- A result comes from the load and the run of a plan. -/
theorem runPlan_of_execute (h : (s.execute p r input).outcome = .ok result) :
    ∃ request view, (s.runPlan r request view input).outcome = .ok result := by
  have hrun := outcome_of_execute h
  rw [runReport, Loading.outcome_bind] at hrun
  obtain ⟨plan, -, hrun⟩ := Outcome.bind_eq_ok.1 hrun
  exact ⟨plan.1, plan.2, hrun⟩

/-- A result tells the time of the clock, and its summary is not the text in place of one. -/
theorem generatedAt_of_execute (h : (s.execute p r input).outcome = .ok result) :
    s.stamp = .ok result.generatedAt ∧ result.insights.summary ≠ noInsight := by
  obtain ⟨request, view, hplan⟩ := runPlan_of_execute h
  rw [outcome_runPlan] at hplan
  obtain ⟨rows, -, hplan⟩ := Outcome.bind_eq_ok.1 hplan
  obtain ⟨shown, hview, hplan⟩ := Outcome.bind_eq_ok.1 hplan
  obtain rfl := Outcome.pure_eq_ok.1 hplan
  obtain ⟨whole, ordered, steps, rfl⟩ := runView_inv _ hview
  exact ⟨steps.generatedAt, Insights.summary_ne_noInsight steps.insights⟩

section Alike

variable {other : Report} (hdefinition : other.definition = r.definition)
  (htitle : other.title = r.title)

include hdefinition htitle

theorem runPlan_eq_map (request : LoadRequest) (view : View) :
    s.runPlan other request view input =
      (fun result => { result with reportId := some other.id }) <$>
        s.runPlan r request view input := by
  simp only [runPlan, hdefinition, htitle, map_bind, map_pure]

/-- A run reads the definition of its report, and its result tells the id and the title. -/
theorem execute_eq_map :
    s.execute p other input =
      (fun result => { result with reportId := some other.id }) <$> s.execute p r input := by
  have hplan : s.planRun p other (s.viewableIds p) input =
      s.planRun p r (s.viewableIds p) input := by
    rw [planRun, planRun, hdefinition]
  rw [execute, execute, ← Loading.mapError_map, runReport, runReport, hplan, map_bind]
  refine congrArg _ (bind_congr fun plan => ?_)
  exact runPlan_eq_map hdefinition htitle plan.1 plan.2

end Alike

end Execute

/-! ## The feed -/

section Feed

variable {s : State} {p : Principal} {r : Report} {entry : FeedEntry}

theorem feedEntry_of_ok {result : RunResult} (h : (s.execute p r .plain).outcome = .ok result) :
    (s.feedEntry p r).outcome =
      .ok ⟨r.id, r.title, result.insights.summary, result.generatedAt⟩ := by
  rw [feedEntry, Loading.attempt, Loading.ok_bind, outcome_of_execute h]
  rfl

theorem feedEntry_of_error {fault : Fault} (h : (s.execute p r .plain).outcome = .error fault) :
    (s.feedEntry p r).outcome = s.stamp.map fun stamp => ⟨r.id, r.title, noInsight, stamp⟩ := by
  obtain ⟨failure, hfailure⟩ := outcome_of_execute_error h
  rw [feedEntry, Loading.attempt, Loading.ok_bind, hfailure]
  cases s.stamp <;> rfl

theorem exists_feedEntry {stamp : String} (hstamp : s.stamp = .ok stamp) (p : Principal)
    (r : Report) : ∃ entry, (s.feedEntry p r).outcome = .ok entry := by
  cases hrun : (s.execute p r .plain).outcome with
  | error fault => exact ⟨_, by rw [feedEntry_of_error hrun, hstamp]; rfl⟩
  | ok result => exact ⟨_, feedEntry_of_ok hrun⟩

/-- What an entry of the feed tells of its report. -/
theorem feedEntry_inv (h : (s.feedEntry p r).outcome = .ok entry) :
    entry.reportId = r.id ∧ entry.reportTitle = r.title ∧
    (∀ result, (s.execute p r .plain).outcome = .ok result →
      entry.summary = result.insights.summary ∧ entry.generatedAt = result.generatedAt) ∧
    (entry.summary = noInsight ↔ ∃ fault, (s.execute p r .plain).outcome = .error fault) := by
  cases hrun : (s.execute p r .plain).outcome with
  | ok result =>
    obtain rfl := Except.ok.inj ((feedEntry_of_ok hrun).symm.trans h)
    refine ⟨rfl, rfl, ?_, ?_⟩
    · rintro _ ⟨⟩
      exact ⟨rfl, rfl⟩
    · exact iff_of_false (generatedAt_of_execute hrun).2 nofun
  | error fault =>
    rw [feedEntry_of_error hrun] at h
    obtain ⟨stamp, -, rfl⟩ := Outcome.map_eq_ok.1 h
    exact ⟨rfl, rfl, nofun, iff_of_true rfl ⟨fault, rfl⟩⟩

end Feed

/-! ## Requests -/

/-- What an entry of the feed tells of a report: the summary of a plain run and its time, or the
text in place of one exactly where the run has no answer. -/
structure TellsOf (s : State) (headers : Headers) (r : Report) (entry : FeedEntry) : Prop where
  reportId : entry.reportId = r.id
  reportTitle : entry.reportTitle = r.title
  stored : ∃ id, s.reports.get? id = some r
  ran : ∀ id result, s.reports.get? id = some r →
    (s.apiRun headers id none).outcome = .ok result →
    entry.summary = result.insights.summary ∧ entry.generatedAt = result.generatedAt
  failed : ∀ id, s.reports.get? id = some r →
    (entry.summary = noInsight ↔ ∃ fault, (s.apiRun headers id none).outcome = .error fault)

theorem visible_eq_some {s : State} {p : Principal} {id : String} {r : Report} :
    s.visible id p = some r ↔ s.reports.get? id = some r ∧ sees p r = true :=
  Option.filter_eq_some_iff

/-- A listed report is stored, and its principal sees it. -/
theorem stored_of_mem_listReports {s : State} {p : Principal} {search : Option String} {r : Report}
    (h : r ∈ s.listReports p search) :
    (∃ id, s.reports.get? id = some r) ∧ sees p r = true := by
  obtain ⟨hvalue, hseen⟩ := List.mem_filter.1 (List.mem_mergeSort.1 h)
  exact ⟨Keyed.mem_values.1 hvalue, (Bool.and_eq_true_iff.1 hseen).1⟩

section Requests

variable {s : State} {headers : Headers} {p : Principal} (hp : headers.principal = .ok p)

include hp

theorem apiRun_eq (id : String) (input : Option RunInput) :
    s.apiRun headers id input = (Loading.quiet (Response.named (s.reportFor p id)) >>= fun r =>
      s.execute p r (input.getD .plain)) := by
  rw [apiRun, hp]
  rfl

theorem apiExport_eq (id : String) (input : Option RunInput) (mode : String) :
    s.apiExport headers id input mode =
      (Loading.quiet (Response.named (s.reportFor p id)) >>= fun r =>
        s.execute p r (input.getD .plain) >>= fun result => .quiet (deliver mode r result)) := by
  rw [apiExport, hp]
  rfl

theorem apiPreview_eq {stamp : String} (hstamp : s.stamp = .ok stamp) (request : PreviewRequest) :
    s.apiPreview headers request =
      s.execute p (previewReport p stamp request) request.input := by
  rw [apiPreview, hp, hstamp]
  rfl

section Visible

variable {id : String} {r : Report} (hr : s.visible id p = some r)

include hr

theorem apiRun_of_visible (input : Option RunInput) :
    s.apiRun headers id input = s.execute p r (input.getD .plain) := by
  rw [apiRun_eq hp, reportFor_eq, hr]
  rfl

theorem apiExport_of_visible (input : Option RunInput) (mode : String) :
    s.apiExport headers id input mode =
      (s.apiRun headers id input >>= fun result => .quiet (deliver mode r result)) := by
  rw [apiRun_of_visible hp hr, apiExport_eq hp, reportFor_eq, hr]
  rfl

end Visible

/-- An export fails as the run does. -/
theorem apiExport_of_error {id : String} {input : Option RunInput} {fault : Fault}
    (h : (s.apiRun headers id input).outcome = .error fault) (mode : String) :
    (s.apiExport headers id input mode).outcome = .error fault := by
  rw [apiExport_eq hp]
  rw [apiRun_eq hp] at h
  cases hr : Response.named (s.reportFor p id) with
  | error found =>
    rw [hr, Loading.quiet_error_bind] at h
    obtain rfl : found = fault := Except.error.inj h
    rfl
  | ok r =>
    rw [hr, Loading.quiet_ok_bind] at h
    rw [Loading.quiet_ok_bind, Loading.outcome_bind, h]
    rfl

/-- An entry of the feed tells of its report. -/
theorem tellsOf_of_feedEntry {r : Report} {entry : FeedEntry}
    (hstored : ∃ id, s.reports.get? id = some r) (hseen : sees p r = true)
    (h : (s.feedEntry p r).outcome = .ok entry) : s.TellsOf headers r entry := by
  obtain ⟨hid, htitle, hran, hfailed⟩ := feedEntry_inv h
  have hrun : ∀ id, s.reports.get? id = some r → s.apiRun headers id none = s.execute p r .plain :=
    fun id hget => apiRun_of_visible hp (visible_eq_some.2 ⟨hget, hseen⟩) none
  refine ⟨hid, htitle, hstored, fun id result hget hresult => ?_, fun id hget => ?_⟩
  · rw [hrun id hget] at hresult
    exact hran result hresult
  · rw [hrun id hget]
    exact hfailed

theorem exists_home {stamp : String} (hstamp : s.stamp = .ok stamp) (search : Option String) :
    ∃ home, (s.apiHome headers search).outcome = .ok home ∧
      List.Forall₂ (s.TellsOf headers) ((s.listReports p search).take 3) home.feed := by
  obtain ⟨feed, hfeed⟩ := Outcome.exists_mapM_iff.2 fun r
    (_ : r ∈ (s.listReports p search).take 3) => exists_feedEntry hstamp p r
  have hhome : (s.apiHome headers search).outcome = .ok
      { datasets := s.registry.accessible p .view
        recent := (s.listReports p search).take recentCount
        shared := (s.listReports p search).filter fun r => r.ownerId ≠ p.id
        feed } := by
    have htake : ((s.listReports p search).take recentCount).take feedCount =
        (s.listReports p search).take 3 := by
      rw [List.take_take]
      rfl
    have hentries := Loading.outcome_mapError_eq_ok (f := Fault.failure).2
      ((Loading.outcome_mapM (s.feedEntry p) _).trans hfeed)
    rw [apiHome, hp, Loading.liftM_eq, Loading.quiet_ok_bind, Loading.outcome_bind, htake, hentries]
    rfl
  refine ⟨_, hhome, ?_⟩
  have hlisted : ∀ r ∈ (s.listReports p search).take 3,
      (∃ id, s.reports.get? id = some r) ∧ sees p r = true :=
    fun r hr => stored_of_mem_listReports (List.mem_of_mem_take hr)
  refine ((List.forall₂_and_left _ _).2 ⟨hlisted, Outcome.mapM_eq_ok.1 hfeed⟩).imp ?_
  rintro r entry ⟨⟨hstored, hseen⟩, hentry⟩
  exact tellsOf_of_feedEntry hp hstored hseen hentry

/-- **Entry points agree.** For every report that the principal sees, a preview of its title and
definition gives what a run gives, except for the id, and an export delivers what a run gives as a
file: that is, it fails as the run does, and otherwise has the text of the result, unless this
cannot be written or the name of the file cannot be sent. The home page is always answered, and its
feed tells in turn of the first three reports listed. Only a clock without a text, which no running
clock is, breaks off previews and leaves no run an answer. -/
theorem entryPoints_agree :
    (∀ id r input, s.visible id p = some r →
      (∀ stamp, s.stamp = .ok stamp →
        s.apiPreview headers ⟨r.title, r.definition, input.getD .plain⟩ =
          (fun result => { result with reportId := some previewId }) <$>
            s.apiRun headers id input) ∧
      ∀ mode, s.apiExport headers id input mode =
        s.apiRun headers id input >>= fun result => .quiet (deliver mode r result)) ∧
    (∀ id input mode fault, (s.apiRun headers id input).outcome = .error fault →
      (s.apiExport headers id input mode).outcome = .error fault) ∧
    (∀ search stamp, s.stamp = .ok stamp →
      ∃ reports home, s.apiReports headers search = .ok reports ∧
        (s.apiHome headers search).outcome = .ok home ∧
        List.Forall₂ (s.TellsOf headers) (reports.take 3) home.feed) ∧
    ∀ failure, s.stamp = .error failure →
      (∀ request, (s.apiPreview headers request).outcome = .error (.failure failure)) ∧
      ∀ id input, ∃ fault, (s.apiRun headers id input).outcome = .error fault := by
  refine ⟨fun id r input hr => ⟨fun stamp hstamp => ?_, apiExport_of_visible hp hr input⟩,
    fun id input mode fault h => apiExport_of_error hp h mode, fun search stamp hstamp => ?_,
    fun failure hfailure => ⟨fun request => ?_, fun id input => ?_⟩⟩
  · rw [apiRun_of_visible hp hr, apiPreview_eq hp hstamp]
    exact execute_eq_map rfl rfl
  · obtain ⟨home, hhome, hfeed⟩ := exists_home hp hstamp search
    refine ⟨s.listReports p search, home, ?_, hhome, hfeed⟩
    rw [apiReports, hp]
    rfl
  · rw [apiPreview, hp, hfailure]
    rfl
  · cases hrun : (s.apiRun headers id input).outcome with
    | error fault => exact ⟨fault, rfl⟩
    | ok result =>
      rw [apiRun_eq hp, Loading.outcome_bind] at hrun
      obtain ⟨r, -, hexecute⟩ := Response.bind_eq_ok.1 hrun
      rw [(generatedAt_of_execute hexecute).1] at hfailure
      cases hfailure

end Requests

theorem entryPoints_agree_sales :
    ∃ r, salesServer.visible "totals" ⟨"ann", none, "BASIC_USER"⟩ = some r ∧
      salesServer.apiPreview userHeaders ⟨r.title, r.definition, .plain⟩ =
        (fun result => { result with reportId := some previewId }) <$>
          salesServer.apiRun userHeaders "totals" none ∧
      (salesServer.apiRun userHeaders "totals" none).outcome.map (·.rawRows.length) = .ok 2 ∧
      salesServer.apiExport userHeaders "totals" none "raw" =
        (salesServer.apiRun userHeaders "totals" none >>= fun result =>
          .quiet (deliver "raw" r result)) ∧
      (salesServer.apiExport userHeaders "sums" none "raw").outcome =
        .error (.refusal (.failed (.reportNotFound "sums"))) ∧
      (∃ reports home, salesServer.apiReports userHeaders none = .ok reports ∧
        (salesServer.apiHome userHeaders none).outcome = .ok home ∧
        List.Forall₂ (salesServer.TellsOf userHeaders) (reports.take 3) home.feed) ∧
      ∃ fault, (unclockedServer.apiRun userHeaders "totals" none).outcome = .error fault := by
  have hp : userHeaders.principal = .ok ⟨"ann", none, "BASIC_USER"⟩ := by decide +kernel
  have hstamp : salesServer.stamp = .ok "1970-01-01T00:00:00.000Z" := by decide +kernel
  have hfailure : unclockedServer.stamp = .error .overflow := by decide +kernel
  have hsome : (salesServer.visible "totals" ⟨"ann", none, "BASIC_USER"⟩).isSome = true := by
    decide +kernel
  have habsent : (salesServer.apiRun userHeaders "sums" none).outcome =
      .error (.refusal (.failed (.reportNotFound "sums"))) := by
    rw [apiRun_eq hp, reportFor_eq]
    rfl
  obtain ⟨r, hr⟩ := Option.isSome_iff_exists.1 hsome
  obtain ⟨hvisible, hfails, hhome, -⟩ := entryPoints_agree hp
  obtain ⟨-, -, -, hbroken⟩ := entryPoints_agree (s := unclockedServer) hp
  obtain ⟨hpreview, hexport⟩ := hvisible "totals" r none hr
  exact ⟨r, hr, hpreview _ hstamp, by decide +kernel, hexport "raw", hfails _ _ _ _ habsent,
    hhome none _ hstamp, (hbroken _ hfailure).2 _ _⟩

/-- An export may have no file though its run has a result whose text can be written. -/
theorem exists_export_undelivered :
    ¬ ∀ (s : State) (headers : Headers) (id : String) (mode : String) (result : RunResult)
      (text : String), (s.apiRun headers id none).outcome = .ok result →
        result.exportText (.ofName mode) = .ok text →
        ∃ file, (s.apiExport headers id none mode).outcome = .ok file ∧ file.text = text := by
  intro h
  have hbroken : (foreignServer.apiExport userHeaders "日本" none "raw").outcome =
      .error (.failure .unsendableName) := by decide +kernel
  have hwritten : ((foreignServer.apiRun userHeaders "日本" none).outcome.map fun result =>
      (result.exportText .raw).isOk) = .ok true := by decide +kernel
  obtain ⟨result, hresult, hok⟩ := Response.map_eq_ok.1 hwritten
  cases htext : result.exportText .raw with
  | error failure =>
    rw [htext] at hok
    cases hok
  | ok text =>
    obtain ⟨file, hfile, -⟩ := h _ _ _ "raw" result text hresult htext
    rw [hbroken] at hfile
    cases hfile

end State

end Reporting
