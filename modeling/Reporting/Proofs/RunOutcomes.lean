import Reporting.Proofs.Confidentiality
import Reporting.Proofs.Failures

/-!
# Outcomes of requests to run

A request to run, to export or to preview takes one of six courses, told apart in this order: it
does not name its principal, the report is unknown to the principal, none of the report's datasets
may be viewed, the report has no views, the load or the run breaks off, or there is a result
(`State.Course`). In the first four the log of its loads is empty, in the last two rows were asked
for once (`State.loads_runPlan`), and each but the last is refused with a status of its own. Runs
follow these courses, and so do previews, which find their report in any case. Exports do up to the
result, which may then not be delivered (`State.requests_follow_course`).
-/

namespace Reporting

/-! ## Principals -/

namespace Headers

/-- The headers that a request needs. -/
def required : List String := ["X-User-Id", "X-Role-Type"]

/-- Whether a header is there and not empty. -/
def Carries (headers : Headers) (name : String) : Prop :=
  ∃ text, headers.get? name = some text ∧ text ≠ ""

/-- Whether headers carry all that is needed and name a principal. -/
structure Names (headers : Headers) (p : Principal) : Prop where
  carries : ∀ name ∈ required, headers.Carries name
  principal : headers.principal = .ok p

variable {headers : Headers} {name : String}

theorem carries_of_filter {text : String}
    (h : (headers.get? name).filter (· ≠ "") = some text) : headers.Carries name := by
  obtain ⟨hget, hne⟩ := Option.filter_eq_some_iff.1 h
  exact ⟨text, hget, of_decide_eq_true hne⟩

theorem not_carries_of_filter (h : (headers.get? name).filter (· ≠ "") = none) :
    ¬ headers.Carries name := by
  rintro ⟨text, hget, hne⟩
  rw [hget] at h
  simp [hne] at h

/-- Headers name a principal, or the first that is missing is told. -/
theorem principal_cases (headers : Headers) :
    (∃ p, headers.Names p) ∨
      ∃ name ∈ required, ¬ headers.Carries name ∧
        headers.principal = .error (.refusal (.missingHeader name)) := by
  cases hid : (headers.get? "X-User-Id").filter (· ≠ "") with
  | none =>
    refine .inr ⟨"X-User-Id", by simp [required], not_carries_of_filter hid, ?_⟩
    rw [principal, hid]
    rfl
  | some id =>
    cases hrole : (headers.get? "X-Role-Type").filter (· ≠ "") with
    | none =>
      refine .inr ⟨"X-Role-Type", by simp [required], not_carries_of_filter hrole, ?_⟩
      rw [principal, hid, hrole]
      rfl
    | some role =>
      refine .inl ⟨⟨id, headers.get? "X-User-Email", Text.upper (Text.trim role)⟩, ?_, ?_⟩
      · simp only [required, List.mem_cons, List.not_mem_nil, or_false, forall_eq_or_imp,
          forall_eq]
        exact ⟨carries_of_filter hid, carries_of_filter hrole⟩
      · rw [principal, hid, hrole]

end Headers

/-! ## Answers -/

/-- Whether a request is refused with a status. -/
def RefusedWith {α : Type} (status : Nat) (answer : Response α) : Prop :=
  ∃ refusal, answer = .error (.refusal refusal) ∧ refusal.status = status

namespace State

/-! ## What a run asks for -/

/-- Whether a principal may view the dataset of an id. -/
def mayView (s : State) (p : Principal) (id : String) : Bool :=
  (s.registry.datasets.get? id).any (·.permits p .view)

/-- The datasets of a definition that a principal may view, each once, in the order of the
definition. -/
def viewableOf (s : State) (p : Principal) (d : Definition) : List String :=
  (firsts d.datasetIds).filter (s.mayView p)

theorem permittedIds_viewableIds (s : State) (p : Principal) (d : Definition) :
    d.permittedIds (s.viewableIds p) = s.viewableOf p d := by
  refine List.filter_congr fun id _ => ?_
  rw [Bool.eq_iff_iff, List.contains_iff_mem, viewableIds, Registry.mem_map_id_accessible, mayView,
    Option.any_eq_true]

/-- The rows that a run of a definition asks for. -/
def loadRequest (s : State) (p : Principal) (d : Definition) : LoadRequest where
  principal := p
  datasetIds := s.viewableOf p d
  startMonth := Definition.startMonth s.calendars s.settings.fiscalStartMonth d.fiscalCalendarId

section Run

variable (s : State) {p : Principal} {r : Report} (input : RunInput)

theorem runReport_of_denied (h : s.viewableOf p r.definition = []) :
    s.runReport p r (s.viewableIds p) input = .quiet (.error .noDatasets) := by
  rw [runReport, planRun, permittedIds_viewableIds, h]
  rfl

theorem planRun_of_viewable (h : s.viewableOf p r.definition ≠ []) :
    s.planRun p r (s.viewableIds p) input =
      (r.definition.view input.viewId).map fun view => (s.loadRequest p r.definition, view) := by
  rw [planRun, permittedIds_viewableIds]
  dsimp only
  rw [if_neg (by simpa using h)]
  cases r.definition.view input.viewId <;> rfl

theorem runReport_of_viewless (h : s.viewableOf p r.definition ≠ [])
    (hviews : r.definition.views = []) :
    s.runReport p r (s.viewableIds p) input = .quiet (.error .noViews) := by
  have hview : r.definition.view input.viewId = .error .noViews := by
    rw [Definition.view, hviews]
  rw [runReport, planRun_of_viewable s input h, hview]
  rfl

theorem runReport_of_view {view : View} (h : s.viewableOf p r.definition ≠ [])
    (hview : r.definition.view input.viewId = .ok view) :
    s.runReport p r (s.viewableIds p) input =
      s.runPlan r (s.loadRequest p r.definition) view input := by
  rw [runReport, planRun_of_viewable s input h, hview]
  rfl

section Plan

variable (request : LoadRequest) (view : View)

/-- A plan asks for its rows once, whether the load and the run succeed or not. -/
theorem loads_runPlan : (s.runPlan r request view input).loads = [request] := by
  rw [runPlan, loadRows]
  cases s.registry.loadRows request.principal request.datasetIds request.startMonth s.now with
  | error failure => rfl
  | ok rows =>
    rw [Loading.ok_bind, Loading.liftM_eq]
    cases runView s.settings.pageSize s.now.utc rows view r.definition.calculations input <;> rfl

/-- A plan comes to what the view makes of the rows. -/
theorem outcome_runPlan : (s.runPlan r request view input).outcome = do
    let rows ←
      s.registry.loadRows request.principal request.datasetIds request.startMonth s.now
    let result ← runView s.settings.pageSize s.now.utc rows view r.definition.calculations input
    return { result with
      reportId := some r.id
      reportTitle := r.title
      datasetIds := request.datasetIds } := by
  rw [runPlan, loadRows, Loading.outcome_bind]
  refine bind_congr fun rows => ?_
  rw [Loading.liftM_eq, Loading.outcome_bind]
  rfl

/-- What breaks off a load or a run is not told to a user. -/
theorem isSilent_runPlan : Outcome.IsSilent (s.runPlan r request view input).outcome := by
  rw [outcome_runPlan]
  refine (s.registry.isSilent_loadRows _ _ _ _).bind fun rows => ?_
  exact (isSilent_runView _ s.now.isSilent_utc rows view _ input).bind fun _ =>
    Outcome.isSilent_pure _

variable {request view input}

theorem datasetIds_of_runPlan {result : RunResult}
    (h : (s.runPlan r request view input).outcome = .ok result) :
    result.datasetIds = request.datasetIds := by
  rw [outcome_runPlan] at h
  obtain ⟨rows, -, h⟩ := Outcome.bind_eq_ok.1 h
  obtain ⟨_, -, h⟩ := Outcome.bind_eq_ok.1 h
  exact (Outcome.pure_eq_ok.1 h) ▸ rfl

end Plan

end Run

/-- A definition with views has one to show. -/
theorem exists_view {d : Definition} (h : d.views ≠ []) (id : Option String) :
    ∃ view, d.view id = .ok view := by
  cases hviews : d.views with
  | nil => exact absurd hviews h
  | cons first rest =>
    simp only [Definition.view, hviews]
    cases id.filter (· ≠ "") with
    | none => exact ⟨first, rfl⟩
    | some wanted => exact ⟨_, rfl⟩

/-! ## Courses -/

variable {α : Type}

/-- The report of an id, if a principal may see it. -/
def visible (s : State) (id : String) (p : Principal) : Option Report :=
  (s.reports.get? id).filter (sees p)

theorem reportFor_eq (s : State) (p : Principal) (id : String) :
    s.reportFor p id = Outcome.ofOption (.reportNotFound id) (s.visible id p) := by
  rw [reportFor, report, visible]
  cases s.reports.get? id with
  | none => rfl
  | some r =>
    rw [Outcome.ofOption, Outcome.ok_bind, Option.filter_some]
    split <;> rfl

/-- How a request to run ends, and which rows it asked for until then. It finds the report of its
principal, and finishes with the result. -/
inductive Course (s : State) (headers : Headers) (find : Principal → Option Report)
    (input : RunInput) (finish : Report → RunResult → Response α) : Loading Fault α → Prop
  | unnamed {name : String} {answer : Response α} (required : name ∈ Headers.required)
    (missing : ¬ headers.Carries name) (refused : RefusedWith 400 answer) :
    Course s headers find input finish ⟨[], answer⟩
  | unknown {p : Principal} {answer : Response α} (named : headers.Names p)
    (unknown : find p = none) (refused : RefusedWith 404 answer) :
    Course s headers find input finish ⟨[], answer⟩
  | denied {p : Principal} {r : Report} {answer : Response α} (named : headers.Names p)
    (found : find p = some r) (denied : s.viewableOf p r.definition = [])
    (refused : RefusedWith 403 answer) :
    Course s headers find input finish ⟨[], answer⟩
  | viewless {p : Principal} {r : Report} {answer : Response α} (named : headers.Names p)
    (found : find p = some r) (viewable : s.viewableOf p r.definition ≠ [])
    (viewless : r.definition.views = []) (refused : RefusedWith 400 answer) :
    Course s headers find input finish ⟨[], answer⟩
  /-- The load or the run fails, for whatever reason. -/
  | broken {p : Principal} {r : Report} {view : View} {failure : Failure} {answer : Response α}
    (named : headers.Names p) (found : find p = some r)
    (viewable : s.viewableOf p r.definition ≠ [])
    (shown : r.definition.view input.viewId = .ok view)
    (failed : (s.runPlan r (s.loadRequest p r.definition) view input).outcome = .error failure)
    (refused : RefusedWith 500 answer) :
    Course s headers find input finish ⟨[s.loadRequest p r.definition], answer⟩
  | ran {p : Principal} {r : Report} {view : View} {result : RunResult} (named : headers.Names p)
    (found : find p = some r) (viewable : s.viewableOf p r.definition ≠ [])
    (shown : r.definition.view input.viewId = .ok view)
    (ran : (s.runPlan r (s.loadRequest p r.definition) view input).outcome = .ok result)
    (ids : result.datasetIds = s.viewableOf p r.definition) :
    Course s headers find input finish ⟨[s.loadRequest p r.definition], finish r result⟩

section Course

variable {s : State} {headers : Headers} {find : Principal → Option Report}

/-- A request that has found its report. -/
theorem course_of_found {p : Principal} {r : Report} (input : RunInput)
    (finish : Report → RunResult → Response α) (named : headers.Names p)
    (found : find p = some r) :
    Course s headers find input finish
      (s.execute p r input >>= fun result => .quiet (finish r result)) := by
  rw [execute]
  by_cases hdenied : s.viewableOf p r.definition = []
  · rw [runReport_of_denied s input hdenied]
    exact .denied named found hdenied ⟨_, rfl, rfl⟩
  by_cases hviewless : r.definition.views = []
  · rw [runReport_of_viewless s input hdenied hviewless]
    exact .viewless named found hdenied hviewless ⟨_, rfl, rfl⟩
  obtain ⟨view, hview⟩ := exists_view hviewless input.viewId
  rw [runReport_of_view s input hdenied hview]
  cases hrun : s.runPlan r (s.loadRequest p r.definition) view input with
  | mk loads outcome =>
    obtain rfl : loads = [s.loadRequest p r.definition] := by
      rw [← s.loads_runPlan input (s.loadRequest p r.definition) view, hrun]
    have houtcome := congrArg Loading.outcome hrun
    cases outcome with
    | error failure =>
      have hsilent := s.isSilent_runPlan input _ view failure houtcome
      refine .broken named found hdenied hview houtcome ⟨.runFailed, ?_, rfl⟩
      simp only [Refusal.ofRun, hsilent]
      rfl
    | ok result => exact .ran named found hdenied hview houtcome (datasetIds_of_runPlan s houtcome)

/-- A request that looks for a report on behalf of its principal. -/
theorem course_of_lookup {lookup : Principal → Response Report} (input : RunInput)
    (finish : Report → RunResult → Response α)
    (hsome : ∀ p r, find p = some r → lookup p = .ok r)
    (hnone : ∀ p, find p = none → RefusedWith 404 (lookup p)) :
    Course s headers find input finish (Loading.quiet headers.principal >>= fun p =>
      Loading.quiet (lookup p) >>= fun r =>
        s.execute p r input >>= fun result => .quiet (finish r result)) := by
  obtain ⟨p, named⟩ | ⟨name, hrequired, hmissing, hprincipal⟩ := headers.principal_cases
  · rw [named.principal, Loading.quiet_ok_bind]
    cases hfound : find p with
    | none =>
      obtain ⟨refusal, hrefused, hstatus⟩ := hnone p hfound
      rw [hrefused, Loading.quiet_error_bind]
      exact .unknown named hfound ⟨refusal, rfl, hstatus⟩
    | some r =>
      rw [hsome p r hfound, Loading.quiet_ok_bind]
      exact course_of_found input finish named hfound
  · rw [hprincipal, Loading.quiet_error_bind]
    exact .unnamed hrequired hmissing ⟨_, rfl, rfl⟩

/-- A request for a saved report. -/
theorem course_of_saved (s : State) (headers : Headers) (id : String) (input : RunInput)
    (finish : Report → RunResult → Response α) :
    Course s headers (s.visible id) input finish (Loading.quiet headers.principal >>= fun p =>
      Loading.quiet (Response.named (s.reportFor p id)) >>= fun r =>
        s.execute p r input >>= fun result => .quiet (finish r result)) := by
  refine course_of_lookup input finish (fun p r hfound => ?_) fun p hfound => ?_
  · rw [reportFor_eq, hfound]
    rfl
  · rw [reportFor_eq, hfound]
    exact ⟨_, rfl, rfl⟩

theorem course_apiRun (s : State) (headers : Headers) (id : String) (input : Option RunInput) :
    Course s headers (s.visible id) (input.getD .plain) (fun _ => .ok)
      (s.apiRun headers id input) := by
  have hcourse := s.course_of_saved headers id (input.getD .plain) fun _ => .ok
  simp only [Loading.bind_quiet] at hcourse
  exact hcourse

theorem course_apiPreview {stamp : String} (hstamp : s.stamp = .ok stamp) (headers : Headers)
    (request : PreviewRequest) :
    Course s headers (fun p => some (previewReport p stamp request)) request.input (fun _ => .ok)
      (s.apiPreview headers request) := by
  have hcourse : Course s headers (fun p => some (previewReport p stamp request)) request.input
      (fun _ => .ok) (Loading.quiet headers.principal >>= fun p =>
        Loading.quiet (.ok (previewReport p stamp request)) >>= fun r =>
          s.execute p r request.input >>= fun result => .quiet (.ok result)) :=
    course_of_lookup request.input _ (fun p r hfound => congrArg _ (Option.some.inj hfound)) nofun
  simp only [Loading.bind_quiet] at hcourse
  rw [apiPreview, hstamp]
  exact hcourse

end Course

/-! ## Requests -/

/-- How the delivery of a result as a file ends. -/
inductive Delivery (mode : String) (r : Report) (result : RunResult) : Response ExportFile → Prop
  | delivered {text : String} (written : result.exportText (.ofName mode) = .ok text)
    (sendable : isSendable (exportName r mode) = true) :
    Delivery mode r result (.ok ⟨text, exportName r mode⟩)
  | unsendable {text : String} (written : result.exportText (.ofName mode) = .ok text)
    (unsendable : isSendable (exportName r mode) = false) :
    Delivery mode r result (.error (.failure .unsendableName))
  | unwritten {failure : Failure}
    (unwritten : result.exportText (.ofName mode) = .error failure) :
    Delivery mode r result (.error (.failure failure))

theorem delivery_deliver (mode : String) (r : Report) (result : RunResult) :
    Delivery mode r result (deliver mode r result) := by
  cases htext : result.exportText (.ofName mode) with
  | error failure =>
    have hdeliver : deliver mode r result = .error (.failure failure) := by
      rw [deliver, htext]
      rfl
    exact hdeliver ▸ .unwritten htext
  | ok text =>
    have hdeliver : deliver mode r result =
        if isSendable (exportName r mode) then .ok ⟨text, exportName r mode⟩
        else .error (.failure .unsendableName) := by
      rw [deliver, htext]
      rfl
    rw [hdeliver]
    split
    · next hname => exact .delivered htext hname
    · next hname => exact .unsendable htext (Bool.not_eq_true _ ▸ hname)

/-- How requests to run, to export and to preview end. -/
structure FollowsCourses (s : State) (headers : Headers) : Prop where
  /-- A run answers with its result. -/
  run (id : String) (input : Option RunInput) :
    Course s headers (s.visible id) (input.getD .plain) (fun _ => .ok) (s.apiRun headers id input)
  /-- An export takes the same course up to the result, and delivers that. -/
  exported (id : String) (input : Option RunInput) (mode : String) :
    Course s headers (s.visible id) (input.getD .plain) (deliver mode)
      (s.apiExport headers id input mode)
  delivery (mode : String) (r : Report) (result : RunResult) :
    Delivery mode r result (deliver mode r result)
  /-- A preview knows its report in any case. -/
  preview {stamp : String} (stamped : s.stamp = .ok stamp) (request : PreviewRequest) :
    Course s headers (fun p => some (previewReport p stamp request)) request.input (fun _ => .ok)
      (s.apiPreview headers request)
  /-- A clock without a text breaks previews off. -/
  unstamped {failure : Failure} (unstamped : s.stamp = .error failure) (request : PreviewRequest) :
    s.apiPreview headers request =
      .quiet (headers.principal >>= fun _ => .error (.failure failure))

/-- **Requests to run follow one course.** A run takes a course and answers with its result. An
export takes the same one up to the result, which is delivered as a file unless its text cannot be
written or its name cannot be sent: then the request breaks off without a status. A preview takes a
course that knows the report in any case; a clock without a text, which no running clock is, breaks
it off before. -/
theorem requests_follow_course (s : State) (headers : Headers) : s.FollowsCourses headers where
  run := s.course_apiRun headers
  exported id input mode := s.course_of_saved headers id (input.getD .plain) (deliver mode)
  delivery := delivery_deliver
  preview stamped := course_apiPreview stamped headers
  unstamped hstamp request := by
    rw [apiPreview, hstamp]
    cases headers.principal <;> rfl

/-- A preview of all sales without a saved report. -/
def salesPreview : PreviewRequest where
  title := "Sales"
  definition :=
    { name := "Sales"
      description := ""
      datasetIds := ["sales", "payroll", "sales"]
      fiscalCalendarId := "org_default"
      views := [
        { id := "all"
          name := "All"
          rowFields := []
          columnFields := []
          measures := [⟨"amount", "total", "sum", none⟩]
          filters := []
          sort := []
          pageSize := 10
          showTotals := true
          pivotMode := false
          visuals := [] }]
      calculations := []
      parameters := []
      formatting := none }
  input := .plain

/-- A server whose clock stands before the calendar. -/
def unclockedServer : State := { salesServer with now := ⟨⟨-10 ^ 20⟩, some 0⟩ }

theorem requests_follow_course_sales :
    Course salesServer userHeaders
      (fun p => some (previewReport p "1970-01-01T00:00:00.000Z" salesPreview)) .plain
      (fun _ => .ok) (salesServer.apiPreview userHeaders salesPreview) ∧
    (salesServer.apiPreview userHeaders salesPreview).loads =
      [⟨⟨"ann", none, "BASIC_USER"⟩, ["sales"], 11⟩] ∧
    (salesServer.apiPreview userHeaders salesPreview).outcome.map (·.datasetIds) = .ok ["sales"] ∧
    unclockedServer.apiPreview userHeaders salesPreview = .quiet (.error (.failure .overflow)) := by
  have hstamp : salesServer.stamp = .ok "1970-01-01T00:00:00.000Z" := by decide +kernel
  have hfailure : unclockedServer.stamp = .error .overflow := by decide +kernel
  have hprincipal : userHeaders.principal = .ok ⟨"ann", none, "BASIC_USER"⟩ := by decide +kernel
  have hcourse := (requests_follow_course salesServer userHeaders).preview hstamp salesPreview
  have hbroken := (requests_follow_course unclockedServer userHeaders).unstamped hfailure
    salesPreview
  rw [hprincipal] at hbroken
  exact ⟨hcourse, by decide +kernel, by decide +kernel, hbroken⟩

/-- The server on which the totals are saved under an id that no header can carry. -/
def foreignServer : State :=
  { salesServer with
    reports := .ofList (salesServer.reports.entries.map fun entry =>
      ("日本", { entry.2 with id := "日本" })) }

/-- An export may break off without a status though its run has a result. -/
theorem exists_export_unrefused :
    ¬ ∀ (s : State) (headers : Headers) (id : String) (input : Option RunInput) (mode : String)
      (fault : Fault), (s.apiExport headers id input mode).outcome = .error fault →
        ∃ refusal, fault = .refusal refusal := by
  intro h
  have hbroken : (foreignServer.apiExport userHeaders "日本" none "raw").outcome =
      .error (.failure .unsendableName) := by decide +kernel
  obtain ⟨refusal, hrefusal⟩ := h _ _ _ _ _ _ hbroken
  cases hrefusal

end State

end Reporting
