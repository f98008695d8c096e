import Reporting.Proofs.Outcome
import Reporting.Server.Session

/-!
# Effects of steps

What a step of a session does to the stores of a server, case by case (`State.step_effect`): it
asks, sets the clock or a limit, is refused, or writes one calendar, one dataset or one report. A
refused step leaves the stores as they were, except for an upload whose headers coincide once they
are trimmed: its dataset is registered before the answer fails (`State.stores_step`).
-/

namespace Reporting

/-- What a server keeps for later requests: the definitions and the sheets of datasets, the fiscal
calendars and the saved reports. -/
structure Stores where
  datasets : Keyed Dataset
  sheets : Keyed Sheet
  calendars : Keyed FiscalCalendar
  reports : Keyed Report

/-- The stores of a server. -/
def State.stores (s : State) : Stores :=
  ⟨s.registry.datasets, s.registry.sheets, s.calendars, s.reports⟩

/-- A step that asks: it previews, runs, exports, gets or lists. -/
def Step.asks : Step → Bool
  | .permits _ _ _ | .listDatasets _ _ | .loadRows _ _ _ | .getReport _ | .getReportFor _ _
  | .listReports _ _ | .runReport _ _ _ _ | .apiDatasets _ _ | .apiPreview _ _ | .apiReports _ _
  | .apiHome _ _ | .apiGet _ _ | .apiRun _ _ _ | .apiExport _ _ _ _ => true
  | .setNow _ | .uploadLimit _ | .addCalendar _ | .register _ _ | .saveReport _ _ | .apiUpload _ _
  | .apiCreate _ _ => false

namespace State

/-! ## Saving -/

/-- A state with a report saved by a principal. A report that was stored under its id before, and
not under an id made for this save, was one that the principal sees, and is succeeded by one with
the same owner and time of its first save. -/
structure Saves (s : State) (p : Principal) (r : Report) (t : State) : Prop where
  stores : t.stores = { s.stores with reports := s.reports.put r.id r }
  made : t.idsMade ≠ s.idsMade → r.id = generatedId t.idsMade
  owner : s.reports.get? r.id = none → r.ownerId = p.id
  replaced : t.idsMade = s.idsMade → ∀ old, s.reports.get? r.id = some old →
    sees p old = true ∧ r.ownerId = old.ownerId ∧ r.createdAt = old.createdAt

theorem Saves.reports {s t : State} {p : Principal} {r : Report} (h : s.Saves p r t) :
    t.reports = s.reports.put r.id r :=
  congrArg Stores.reports h.stores

/-- A save fails and keeps the stores, or stores the report that it answers with. -/
theorem saveReport_cases (s : State) (p : Principal) (title description : String)
    (definition : Definition) (id : Option String) :
    (∃ t failure, s.saveReport p title description definition id = (t, .error failure) ∧
      t.stores = s.stores) ∨
    ∃ t r, s.saveReport p title description definition id = (t, .ok r) ∧ s.Saves p r t ∧
      r.definition = definition := by
  rw [saveReport]
  cases hgiven : id.filter (· ≠ "") with
  | none =>
    simp only [settleId, Option.bind_none, Option.any_none, Bool.false_eq_true, if_false]
    cases hstamp : s.stamp with
    | error failure => exact .inl ⟨_, _, rfl, rfl⟩
    | ok stamp =>
      exact .inr ⟨_, _, rfl, ⟨rfl, fun _ => rfl, fun _ => rfl, fun hmade => by simp at hmade⟩, rfl⟩
  | some given =>
    simp only [settleId, Option.bind_some]
    split
    · exact .inl ⟨_, _, rfl, rfl⟩
    · next hseen =>
      cases hstamp : s.stamp with
      | error failure => exact .inl ⟨_, _, rfl, rfl⟩
      | ok stamp =>
        refine .inr ⟨_, _, rfl, ⟨rfl, fun hmade => absurd rfl hmade, fun hnone => ?_,
          fun _ old hold => ?_⟩, rfl⟩
        · simp only [hnone, Option.map_none, Option.getD_none]
        · simpa [hold] using hseen

/-! ## One step -/

/-- What a step did on the way from a state to another, with its answer. -/
inductive Effect (s t : State) : Step → Response Reply → Prop
  /-- A step that asks leads nowhere, whatever the answer. -/
  | asked {next : Step} {answer : Response Reply} (asks : next.asks = true) (same : t = s) :
    Effect s t next answer
  /-- The clock or a limit was set. -/
  | set {next : Step} (asks : next.asks = false) (stores : t.stores = s.stores) :
    Effect s t next (.ok .done)
  | refused {next : Step} {fault : Fault} (asks : next.asks = false)
    (stores : t.stores = s.stores) :
    Effect s t next (.error fault)
  | calendar {calendar : FiscalCalendar} (added : t = s.addCalendar calendar) :
    Effect s t (.addCalendar calendar) (.ok (.calendar calendar))
  | registered {d : Dataset} {sheet : Option Sheet} (registered : t = s.register d sheet) :
    Effect s t (.register d sheet) (.ok (.dataset d.opened))
  /-- A sheet was registered. The answer is its summary, which may fail. -/
  | uploaded {headers : Headers} {upload : UploadRequest} {sheet : Sheet} {stamp : String}
    (accepted : s.acceptUpload headers upload = .ok sheet) (stamped : s.stamp = .ok stamp)
    (registered : t = s.register (uploadedDataset upload stamp) (some sheet)) :
    Effect s t (.apiUpload headers upload)
      ((Response.ofOutcome (t.summary (uploadedDataset upload stamp).opened)).map .uploaded)
  | saved {p : Principal} {request : SaveRequest} {r : Report} (saves : s.Saves p r t)
    (definition : r.definition = request.definition) :
    Effect s t (.saveReport p request) (.ok (.report r))
  | created {headers : Headers} {p : Principal} {request : SaveRequest} {r : Report}
    (accepted : s.acceptSave headers request = .ok p) (saves : s.Saves p r t)
    (definition : r.definition = request.definition) :
    Effect s t (.apiCreate headers request) (.ok (.created r))

theorem apiUpload_effect (s : State) (headers : Headers) (upload : UploadRequest) :
    s.Effect (s.apiUpload headers upload).1 (.apiUpload headers upload)
      ((s.apiUpload headers upload).2.map .uploaded) := by
  rw [apiUpload]
  split
  · exact .refused rfl rfl
  · next sheet haccepted =>
    split
    · exact .refused rfl rfl
    · next stamp hstamp => exact .uploaded haccepted hstamp rfl

theorem apiCreate_effect (s : State) (headers : Headers) (request : SaveRequest) :
    s.Effect (s.apiCreate headers request).1 (.apiCreate headers request)
      ((s.apiCreate headers request).2.map .created) := by
  rw [apiCreate]
  split
  · exact .refused rfl rfl
  · next p haccepted =>
    obtain ⟨t, failure, hsave, hstores⟩ | ⟨t, r, hsave, hsaves, hdefinition⟩ :=
      s.saveReport_cases p request.title request.description request.definition request.id
    · simp only [hsave]
      split <;> exact .refused rfl hstores
    · simp only [hsave]
      exact .created haccepted hsaves hdefinition

/-- **What a step does to the stores.** -/
theorem step_effect (s : State) (next : Step) : s.Effect (s.step next).1 next (s.step next).2 := by
  cases next with
  | setNow now => exact .set rfl rfl
  | uploadLimit rows => exact .set rfl rfl
  | addCalendar calendar => exact .calendar rfl
  | register d sheet => exact .registered rfl
  | saveReport p request =>
    obtain ⟨t, failure, hsave, hstores⟩ | ⟨t, r, hsave, hsaves, hdefinition⟩ :=
      s.saveReport_cases p request.title request.description request.definition request.id
    · simp only [step, hsave]
      exact .refused rfl hstores
    · simp only [step, hsave]
      exact .saved hsaves hdefinition
  | apiUpload headers upload => exact s.apiUpload_effect headers upload
  | apiCreate headers request => exact s.apiCreate_effect headers request
  | permits | listDatasets | loadRows | getReport | getReportFor | listReports | runReport
  | apiDatasets | apiPreview | apiReports | apiHome | apiGet | apiRun | apiExport =>
    exact .asked rfl rfl

/-! ## Refused steps -/

/-- The summary of a dataset that was registered with its sheet. -/
theorem summary_register (s : State) (d : Dataset) (sheet : Sheet) :
    (s.register d (some sheet)).summary d.opened =
      if sheet.names.Nodup then .ok ⟨d.opened, some (sheet.size,
        sheet.columns.map fun column => (column.1, column.2.kindName))⟩
      else .error .ambiguousColumn := by
  have hsheet : (s.register d (some sheet)).registry.sheets.get? d.opened.id = some sheet := by
    simp [register, Registry.register]
  rw [summary, hsheet]
  change (sheet.fields >>= fun fields => pure _) = _
  rw [Sheet.fields]
  split <;> rfl

/-- A step that uploads a sheet two of whose columns share a name, and is not refused for another
reason. Headers are made distinct before they are trimmed, so they may coincide in the end. -/
def RepeatsColumn (s : State) (next : Step) : Prop :=
  ∃ headers upload sheet stamp, next = .apiUpload headers upload ∧
    s.acceptUpload headers upload = .ok sheet ∧ s.stamp = .ok stamp ∧ ¬ sheet.names.Nodup

section Step

variable {s : State} {next : Step}

theorem stores_of_asks (hasks : next.asks = true) : (s.step next).1.stores = s.stores := by
  have heffect := s.step_effect next
  generalize (s.step next).1 = t, (s.step next).2 = answer at heffect ⊢
  cases heffect with
  | asked _ same => rw [same]
  | set asks => rw [hasks] at asks; cases asks
  | refused asks => rw [hasks] at asks; cases asks
  | calendar | registered | uploaded | saved | created => cases hasks

theorem stores_of_refused {fault : Fault} (hfault : (s.step next).2 = .error fault)
    (hnames : ¬ s.RepeatsColumn next) : (s.step next).1.stores = s.stores := by
  have heffect := s.step_effect next
  generalize (s.step next).1 = t, (s.step next).2 = answer at heffect hfault ⊢
  cases heffect with
  | asked _ same => rw [same]
  | refused _ stores => exact stores
  | set | calendar | registered | saved | created => cases hfault
  | uploaded accepted stamped registered =>
    -- Without names that coincide the summary does not fail.
    have hnodup := not_not.1 fun h => hnames ⟨_, _, _, _, rfl, accepted, stamped, h⟩
    rw [registered, summary_register, if_pos hnodup] at hfault
    cases hfault

theorem step_of_repeatsColumn {headers : Headers} {upload : UploadRequest} {sheet : Sheet}
    {stamp : String} (haccepted : s.acceptUpload headers upload = .ok sheet)
    (hstamp : s.stamp = .ok stamp) (hnames : ¬ sheet.names.Nodup) :
    s.step (.apiUpload headers upload) =
      (s.register (uploadedDataset upload stamp) (some sheet),
        .error (.failure .ambiguousColumn)) := by
  simp only [step, apiUpload, haccepted, hstamp, summary_register, if_neg hnames]
  rfl

end Step

/-- **Refused steps leave the stores as they were, and so do steps that ask, with the exception of
uploads that repeat a column**: the answer to such an upload fails, but its dataset stays
registered. -/
theorem stores_step (s : State) (next : Step) :
    (∀ fault, (s.step next).2 = .error fault → ¬ s.RepeatsColumn next →
      (s.step next).1.stores = s.stores) ∧
    (next.asks = true → (s.step next).1.stores = s.stores) ∧
    ∀ headers upload sheet stamp, next = .apiUpload headers upload →
      s.acceptUpload headers upload = .ok sheet → s.stamp = .ok stamp → ¬ sheet.names.Nodup →
      s.step next = (s.register (uploadedDataset upload stamp) (some sheet),
        .error (.failure .ambiguousColumn)) := by
  refine ⟨fun fault => stores_of_refused, stores_of_asks, ?_⟩
  rintro headers upload sheet stamp rfl haccepted hstamp hnames
  exact step_of_repeatsColumn haccepted hstamp hnames

theorem exists_fault {α : Type} {answer : Response α} (h : answer.isOk = false) :
    ∃ fault, answer = .error fault := by
  cases answer with
  | error fault => exact ⟨fault, rfl⟩
  | ok a => cases h

/-- A server at the start of 1970. -/
def epochServer : State := start ⟨⟨0⟩, some 0⟩

/-- The headers of an administrator. -/
def rootHeaders : Headers := [("X-User-Id", "root"), ("X-Role-Type", "admin")]

/-- A text as a file of sales. -/
def salesFile (csv : String) (fiscalDateField : Option String) : UploadRequest :=
  ⟨some "sales.csv", csv, none, none, fiscalDateField⟩

/-- The server with sales on it. -/
def soldServer : State :=
  (epochServer.step (.apiUpload rootHeaders (salesFile "day,amount\n1,2\n" none))).1

/-- A file without the column that should hold its dates. -/
def undatedFile : UploadRequest := salesFile "day,amount\n3,4\n" (some "date")

/-- A file whose headers differ by a blank only. -/
def repeatedFile : UploadRequest := salesFile "day, day\n1,2\n" none

theorem stores_step_sales :
    soldServer.stores.datasets.keys = ["sales"] ∧
    (soldServer.step (.apiUpload rootHeaders undatedFile)).1.stores = soldServer.stores ∧
    (soldServer.step (.apiDatasets rootHeaders .view)).1.stores = soldServer.stores ∧
    (soldServer.step (.apiUpload rootHeaders repeatedFile)).2 =
      .error (.failure .ambiguousColumn) := by
  have hundated : (soldServer.acceptUpload rootHeaders undatedFile).isOk = false := by
    decide +kernel
  have hrefused : (soldServer.step (.apiUpload rootHeaders undatedFile)).2.isOk = false := by
    decide +kernel
  have hrepeated : ((soldServer.acceptUpload rootHeaders repeatedFile).map fun sheet =>
      decide sheet.names.Nodup) = .ok false := by decide +kernel
  have hstamp : soldServer.stamp = .ok "1970-01-01T00:00:00.000Z" := by decide +kernel
  obtain ⟨fault, hfault⟩ := exists_fault hrefused
  refine ⟨by decide +kernel, (stores_step soldServer _).1 fault hfault ?_,
    (stores_step soldServer _).2.1 rfl, ?_⟩
  · rintro ⟨headers, upload, sheet, stamp, hnext, haccepted, -⟩
    obtain ⟨rfl, rfl⟩ := Step.apiUpload.inj hnext
    rw [haccepted] at hundated
    cases hundated
  · cases haccepted : soldServer.acceptUpload rootHeaders repeatedFile with
    | error fault =>
      rw [haccepted] at hrepeated
      cases hrepeated
    | ok sheet =>
      rw [haccepted] at hrepeated
      have hnames := of_decide_eq_false (Except.ok.inj hrepeated)
      rw [(stores_step soldServer _).2.2 _ _ _ _ rfl haccepted hstamp hnames]

/-- A refused step may leave a dataset behind. -/
theorem exists_refused_registered :
    ¬ ∀ (s : State) (next : Step) (fault : Fault), (s.step next).2 = .error fault →
      (s.step next).1.stores = s.stores := by
  intro h
  let next := Step.apiUpload rootHeaders repeatedFile
  have hrefused : (epochServer.step next).2.isOk = false := by decide +kernel
  have hstored : (epochServer.step next).1.stores.datasets.keys = ["sales"] := by decide +kernel
  obtain ⟨fault, hfault⟩ := exists_fault hrefused
  rw [h epochServer next fault hfault] at hstored
  cases hstored

end State

end Reporting
