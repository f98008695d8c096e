import Reporting.Proofs.Outcome
import Reporting.Server.Request

/-!
# Confidentiality

What a principal learns from runs depends only on the datasets that it may view: in two states that
agree on these (`State.AgreeFor`) it loads the same rows (`Registry.AgreeFor.loadRows_eq`) and its
runs ask for the same and end the same (`State.AgreeFor.runReport_eq`). Every request for a preview,
a run or an export has the same answer in both, refusals and failures included.
-/

namespace Reporting

namespace Registry

/-- What of a registry a principal may view. -/
structure AgreeFor (p : Principal) (registry other : Registry) : Prop where
  datasets : ∀ id d, d.permits p .view = true →
    (registry.datasets.get? id = some d ↔ other.datasets.get? id = some d)
  sheets : ∀ id d, d.permits p .view = true → registry.datasets.get? id = some d →
    registry.sheets.get? id = other.sheets.get? id

/-- The ids that a principal has access to. -/
theorem mem_map_id_accessible {registry : Registry} {p : Principal} {required : Access}
    {id : String} :
    id ∈ (registry.accessible p required).map (·.id) ↔
      ∃ d, registry.datasets.get? id = some d ∧ d.permits p required = true := by
  constructor
  · intro hmem
    obtain ⟨d, hd, rfl⟩ := List.mem_map.1 hmem
    obtain ⟨hvalue, hpermits⟩ := List.mem_filter.1 hd
    obtain ⟨key, hkey⟩ := Keyed.mem_values.1 hvalue
    exact ⟨d, registry.id_of_get? hkey ▸ hkey, hpermits⟩
  · rintro ⟨d, hd, hpermits⟩
    exact List.mem_map.2
      ⟨d, List.mem_filter.2 ⟨Keyed.mem_values.2 ⟨id, hd⟩, hpermits⟩, registry.id_of_get? hd⟩

namespace AgreeFor

variable {p : Principal} {registry other : Registry} (h : AgreeFor p registry other)

include h

theorem viewable_iff (id : String) :
    id ∈ (registry.accessible p .view).map (·.id) ↔
      id ∈ (other.accessible p .view).map (·.id) := by
  rw [mem_map_id_accessible, mem_map_id_accessible]
  exact exists_congr fun d => and_congr_left fun hpermits => h.datasets id d hpermits

/-- Rows are loaded from viewable datasets only. -/
theorem loadRows_eq (ids : List String) (startMonth : Int) (now : ClockReading) :
    registry.loadRows p ids startMonth now = other.loadRows p ids startMonth now := by
  have hids : (ids.filter fun id => ((registry.accessible p .view).map (·.id)).contains id) =
      ids.filter fun id => ((other.accessible p .view).map (·.id)).contains id := by
    refine List.filter_congr fun id _ => ?_
    rw [Bool.eq_iff_iff, List.contains_iff_mem, List.contains_iff_mem]
    exact h.viewable_iff id
  have hrows : ∀ id ∈ ids.filter fun id =>
      ((other.accessible p .view).map (·.id)).contains id,
      registry.datasetRows id startMonth now = other.datasetRows id startMonth now := by
    intro id hid
    have hallowed := List.contains_iff_mem.1 (List.mem_filter.1 hid).2
    obtain ⟨d, hd, hpermits⟩ := mem_map_id_accessible.1 hallowed
    have hd' := (h.datasets id d hpermits).2 hd
    rw [datasetRows, datasetRows, hd, hd', h.sheets id d hpermits hd']
  rw [loadRows, loadRows, hids, Outcome.mapM_congr hrows]

end AgreeFor

end Registry

theorem Definition.permittedIds_congr (definition : Definition) {allowed others : List String}
    (h : ∀ id, id ∈ allowed ↔ id ∈ others) :
    definition.permittedIds allowed = definition.permittedIds others := by
  refine List.filter_congr fun id _ => ?_
  rw [Bool.eq_iff_iff, List.contains_iff_mem, List.contains_iff_mem]
  exact h id

namespace State

/-- What of a state the runs of a principal may depend on. Datasets that the principal may not view
are not part of it, nor are the order of registration and the ids made so far. -/
structure AgreeFor (p : Principal) (s t : State) : Prop where
  now : s.now = t.now
  pageSize : s.settings.pageSize = t.settings.pageSize
  fiscalStartMonth : s.settings.fiscalStartMonth = t.settings.fiscalStartMonth
  calendars : s.calendars = t.calendars
  reports : s.reports = t.reports
  registry : s.registry.AgreeFor p t.registry

/-- A dataset that a principal may view neither before nor after is registered unseen. -/
theorem agreeFor_register {s : State} {p : Principal} {d : Dataset} (sheet : Option Sheet)
    (hbefore : ∀ old, s.registry.datasets.get? d.id = some old → old.permits p .view = false)
    (hafter : d.opened.permits p .view = false) : s.AgreeFor p (s.register d sheet) := by
  have hother : ∀ id seen, seen.permits p .view = true →
      s.registry.datasets.get? id = some seen → d.id ≠ id := by
    rintro id seen hseen hget rfl
    rw [hbefore seen hget] at hseen
    cases hseen
  refine ⟨rfl, rfl, rfl, rfl, rfl, fun id seen hseen => ?_, fun id seen hseen hget => ?_⟩
  · by_cases hid : d.id = id
    · have hne : d.opened ≠ seen := by
        rintro rfl
        rw [hafter] at hseen
        cases hseen
      have habsent : s.registry.datasets.get? id ≠ some seen :=
        fun hget => hother id seen hseen hget hid
      simp [register, Registry.register, hid, hne, habsent]
    · simp [register, Registry.register, hid]
  · have hid := hother id seen hseen hget
    cases sheet with
    | none => rfl
    | some sheet => simp [register, Registry.register, hid]

namespace AgreeFor

variable {p : Principal} {s t : State} (h : s.AgreeFor p t)

include h

theorem stamp_eq : s.stamp = t.stamp := by rw [stamp, stamp, h.now]

theorem reportFor_eq (id : String) : s.reportFor p id = t.reportFor p id := by
  rw [reportFor, reportFor, report, report, h.reports]

theorem planRun_eq (r : Report) (input : RunInput) :
    s.planRun p r (s.viewableIds p) input = t.planRun p r (t.viewableIds p) input := by
  have hids := r.definition.permittedIds_congr h.registry.viewable_iff
  simp only [planRun, viewableIds, hids, h.calendars, h.fiscalStartMonth]
  rfl

theorem runPlan_eq (r : Report) {request : LoadRequest} (hp : request.principal = p) (view : View)
    (input : RunInput) : s.runPlan r request view input = t.runPlan r request view input := by
  subst hp
  rw [runPlan, runPlan, loadRows, loadRows, h.now, h.pageSize, h.registry.loadRows_eq]

/-- **A run does not depend on datasets that its principal may not view**: neither the rows that it
asks for nor its outcome. -/
theorem runReport_eq (r : Report) (input : RunInput) :
    s.runReport p r (s.viewableIds p) input = t.runReport p r (t.viewableIds p) input := by
  rw [runReport, runReport, h.planRun_eq]
  refine Loading.quiet_bind_congr fun plan hplan => ?_
  have hp : plan.1.principal = p := by
    rw [planRun] at hplan
    split at hplan
    · cases hplan
    · obtain ⟨_, _, hplan⟩ := Outcome.bind_eq_ok.1 hplan
      rw [← Outcome.pure_eq_ok.1 hplan]
  exact h.runPlan_eq r hp plan.2 input

theorem execute_eq (r : Report) (input : RunInput) : s.execute p r input = t.execute p r input := by
  rw [execute, execute, h.runReport_eq]

end AgreeFor

/-- **Datasets that a principal may not view are confidential**: states that agree on all others
give the same answers, and ask for the same rows, for every request to preview, run or export. -/
theorem api_confidential {s t : State} {headers : Headers}
    (h : ∀ p, headers.principal = .ok p → s.AgreeFor p t) :
    (∀ request, s.apiPreview headers request = t.apiPreview headers request) ∧
    (∀ id input, s.apiRun headers id input = t.apiRun headers id input) ∧
    ∀ id input mode, s.apiExport headers id input mode = t.apiExport headers id input mode := by
  refine ⟨fun request => Loading.quiet_bind_congr fun p hp => ?_,
    fun id input => Loading.quiet_bind_congr fun p hp => ?_,
    fun id input mode => Loading.quiet_bind_congr fun p hp => ?_⟩
  · rw [(h p hp).stamp_eq]
    exact Loading.quiet_bind_congr fun stamp _ => (h p hp).execute_eq _ _
  · rw [(h p hp).reportFor_eq]
    exact Loading.quiet_bind_congr fun r _ => (h p hp).execute_eq _ _
  · rw [(h p hp).reportFor_eq]
    refine Loading.quiet_bind_congr fun r _ => ?_
    rw [(h p hp).execute_eq]

/-- A server with sales that every role may view and a saved report about them. -/
def salesServer : State :=
  { (start ⟨⟨0⟩, some 0⟩).register
      ⟨"sales", "Sales", "", [], [], none, ""⟩
      (some ⟨[("region", .texts [some "north", some "south"]),
        ("amount", .integers [some 3, some 5])]⟩) with
    reports := Keyed.empty.put "totals"
      { id := "totals"
        title := "Totals"
        description := ""
        definition :=
          { name := "Totals"
            description := ""
            datasetIds := ["payroll", "sales"]
            fiscalCalendarId := "global_jan"
            views := [
              { id := "all"
                name := "All"
                rowFields := []
                columnFields := []
                measures := [⟨"amount", "total", "sum", none⟩]
                filters := []
                sort := []
                pageSize := 10
                showTotals := true
                pivotMode := false
                visuals := [] }]
            calculations := []
            parameters := []
            formatting := none }
        ownerId := "ann"
        createdAt := ""
        updatedAt := "" } }

/-- The same server with a payroll for administrators. -/
def payrollServer : State :=
  salesServer.register ⟨"payroll", "Payroll", "", [], [⟨["ADMIN"], .build⟩], none, ""⟩
    (some ⟨[("amount", .integers [some 1000])]⟩)

/-- The headers of a user who is no administrator. -/
def userHeaders : Headers := [("X-User-Id", "ann"), ("X-Role-Type", "basic_user")]

theorem api_confidential_payroll :
    ((payrollServer.apiRun userHeaders "totals" none).outcome.map fun result =>
      result.rawRows.length) = .ok 2 := by
  have hprincipal : userHeaders.principal = .ok ⟨"ann", none, "BASIC_USER"⟩ := by decide +kernel
  have habsent : salesServer.registry.datasets.get? "payroll" = none := by decide +kernel
  have hagree : ∀ p, userHeaders.principal = .ok p → salesServer.AgreeFor p payrollServer := by
    intro p hp
    rw [hprincipal] at hp
    obtain rfl := Except.ok.inj hp
    refine agreeFor_register _ (fun old hold => ?_) (by decide +kernel)
    rw [habsent] at hold
    cases hold
  rw [← (api_confidential hagree).2.1]
  decide +kernel

end State

end Reporting
