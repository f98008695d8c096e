import Reporting.Proofs.Confidentiality

/-!
# Visibility of reports

To a principal that is no administrator only its own reports exist: a report of another owner is
answered as one that is absent (`State.reportFor_of_hidden`), and states that differ in such reports
only give the same answers, refusals and failures included, to every request to get, list, run or
export reports and for the home page (`State.reports_indistinguishable`).
-/

namespace Reporting

/-- Entries that a filter drops may be put without a trace. -/
theorem Keyed.filter_putEntry {α : Type} {keep : String × α → Bool} {key : String} {value : α}
    {entries : List (String × α)} (hvalue : keep (key, value) = false)
    (hentries : ∀ old, find? key entries = some old → keep (key, old) = false) :
    (putEntry key value entries).filter keep = entries.filter keep := by
  induction entries with
  | nil => simp [putEntry, hvalue]
  | cons entry rest ih =>
    obtain ⟨k, v⟩ := entry
    by_cases hk : k = key
    · subst hk
      have hold := hentries v (by simp [find?])
      simp [putEntry, hvalue, hold]
    · have hrest := ih fun old hold => hentries old (by simpa [find?, hk] using hold)
      rw [putEntry, if_neg hk, List.filter_cons, List.filter_cons, hrest]

namespace State

/-- The reports of a principal with their ids, in the order of their first saves. -/
def ownReports (s : State) (p : Principal) : List (String × Report) :=
  s.reports.entries.filter fun entry => entry.2.ownerId = p.id

/-- States that differ in the reports of others only. The ids made so far are not compared. -/
structure AgreeOnOwn (p : Principal) (s t : State) : Prop where
  now : s.now = t.now
  settings : s.settings = t.settings
  registry : s.registry = t.registry
  calendars : s.calendars = t.calendars
  own : s.ownReports p = t.ownReports p

/-- Saving a report of another owner is unseen by a principal, unless one of its own had the id. -/
theorem agreeOnOwn_put {s : State} {p : Principal} {id : String} {r : Report}
    (hbefore : ∀ old, s.reports.get? id = some old → old.ownerId ≠ p.id)
    (hafter : r.ownerId ≠ p.id) : s.AgreeOnOwn p { s with reports := s.reports.put id r } where
  now := rfl
  settings := rfl
  registry := rfl
  calendars := rfl
  own := (Keyed.filter_putEntry (decide_eq_false hafter) fun old hold =>
    decide_eq_false (hbefore old hold)).symm

section Principal

variable {p : Principal} (hp : p.isAdministrator = false)

theorem mem_ownReports {s : State} {id : String} {r : Report} :
    (id, r) ∈ s.ownReports p ↔ s.reports.get? id = some r ∧ r.ownerId = p.id := by
  rw [ownReports, List.mem_filter, ← Keyed.get?_eq_some_iff, decide_eq_true_iff]

include hp

theorem sees_eq (r : Report) : sees p r = decide (r.ownerId = p.id) := by
  rw [sees, hp, Bool.false_or]

theorem reportFor_of_mem {s : State} {id : String} {r : Report} (h : (id, r) ∈ s.ownReports p) :
    s.reportFor p id = .ok r := by
  obtain ⟨hget, howner⟩ := mem_ownReports.1 h
  have hreport : s.report id = .ok r := by rw [report, hget]; rfl
  rw [reportFor, hreport, Outcome.ok_bind, sees_eq hp, if_pos (decide_eq_true howner)]
  rfl

/-- A report of another owner is answered as one that is absent. -/
theorem reportFor_of_hidden {s : State} {id : String} (h : ∀ r, (id, r) ∉ s.ownReports p) :
    s.reportFor p id = .error (.reportNotFound id) := by
  cases hget : s.reports.get? id with
  | none => rw [reportFor, report, hget]; rfl
  | some r =>
    have hreport : s.report id = .ok r := by rw [report, hget]; rfl
    have howner : ¬ r.ownerId = p.id := fun e => h r (mem_ownReports.2 ⟨hget, e⟩)
    rw [reportFor, hreport, Outcome.ok_bind, sees_eq hp, if_neg (by simpa using howner)]
    rfl

/-- A listing shows reports of the principal only. -/
theorem listReports_eq (s : State) (search : Option String) :
    s.listReports p search =
      (((s.ownReports p).map Prod.snd).filter (mentions (searchText search))).mergeSort
        fun a b => b.updatedAt ≤ a.updatedAt := by
  have hvisible : (s.reports.values.filter fun r => sees p r && mentions (searchText search) r) =
      ((s.ownReports p).map Prod.snd).filter (mentions (searchText search)) := by
    rw [ownReports, Keyed.values, List.filter_map, List.filter_map, List.filter_filter]
    refine congrArg (List.map Prod.snd) (List.filter_congr fun entry _ => ?_)
    simp only [Function.comp_apply, sees_eq hp, Bool.and_comm]
  rw [listReports, hvisible]

namespace AgreeOnOwn

variable {s t : State} (h : s.AgreeOnOwn p t)

include h

theorem reportFor_eq (id : String) : s.reportFor p id = t.reportFor p id := by
  by_cases hown : ∃ r, (id, r) ∈ s.ownReports p
  · obtain ⟨r, hr⟩ := hown
    rw [reportFor_of_mem hp hr, reportFor_of_mem hp (h.own ▸ hr)]
  · have hhidden : ∀ r, (id, r) ∉ s.ownReports p := fun r hr => hown ⟨r, hr⟩
    rw [reportFor_of_hidden hp hhidden, reportFor_of_hidden hp (h.own ▸ hhidden)]

theorem listReports_eq (search : Option String) :
    s.listReports p search = t.listReports p search := by
  rw [State.listReports_eq hp, State.listReports_eq hp, h.own]

omit hp

/-- A run reads no saved report but the one that it is given. -/
theorem runReport_eq (r : Report) (allowed : List String) (input : RunInput) :
    s.runReport p r allowed input = t.runReport p r allowed input := by
  obtain ⟨now, idsMade, settings, registry, calendars, reports⟩ := s
  obtain ⟨rfl, rfl, rfl, rfl, -⟩ := h
  rfl

theorem viewableIds_eq : s.viewableIds p = t.viewableIds p := by
  rw [viewableIds, viewableIds, h.registry]

theorem execute_eq (r : Report) (input : RunInput) : s.execute p r input = t.execute p r input := by
  rw [execute, execute, h.viewableIds_eq, h.runReport_eq]

theorem feedEntry_eq (r : Report) : s.feedEntry p r = t.feedEntry p r := by
  rw [feedEntry, feedEntry, h.viewableIds_eq, h.runReport_eq, stamp, stamp, h.now]

end AgreeOnOwn

end Principal

/-- **Reports of others are indistinguishable from absent ones** to a principal that is no
administrator: they are answered as reports that are not found, and states that differ in them only
give the same answers. -/
theorem reports_indistinguishable {p : Principal} (hp : p.isAdministrator = false) {s t : State}
    (h : s.AgreeOnOwn p t) :
    (∀ id, (∀ r, s.reports.get? id = some r → r.ownerId ≠ p.id) →
      s.reportFor p id = .error (.reportNotFound id)) ∧
    (∀ id, s.reportFor p id = t.reportFor p id) ∧
    (∀ search, s.listReports p search = t.listReports p search) ∧
    ∀ headers, headers.principal = .ok p →
      (∀ id, s.apiGet headers id = t.apiGet headers id) ∧
      (∀ id input, s.apiRun headers id input = t.apiRun headers id input) ∧
      (∀ id input mode, s.apiExport headers id input mode = t.apiExport headers id input mode) ∧
      (∀ search, s.apiReports headers search = t.apiReports headers search) ∧
      ∀ search, s.apiHome headers search = t.apiHome headers search := by
  refine ⟨fun id hothers => reportFor_of_hidden hp fun r hr => ?_, h.reportFor_eq hp,
    h.listReports_eq hp, fun headers hheaders => ?_⟩
  · obtain ⟨hget, howner⟩ := mem_ownReports.1 hr
    exact hothers r hget howner
  have hanswer : ∀ {α : Type} {f g : Principal → Response α}, f p = g p →
      (headers.principal >>= f) = (headers.principal >>= g) := by
    intro α f g hfg
    rw [hheaders]
    exact hfg
  have hload : ∀ {α : Type} {f g : Principal → Loading Fault α}, f p = g p →
      (Loading.quiet headers.principal >>= f) = (Loading.quiet headers.principal >>= g) := by
    intro α f g hfg
    rw [hheaders]
    exact hfg
  refine ⟨fun id => hanswer ?_, fun id input => hload ?_, fun id input mode => hload ?_,
    fun search => hanswer ?_, fun search => hload ?_⟩
  · rw [h.reportFor_eq hp]
  · rw [h.reportFor_eq hp]
    exact Loading.quiet_bind_congr fun r _ => h.execute_eq r _
  · rw [h.reportFor_eq hp]
    refine Loading.quiet_bind_congr fun r _ => ?_
    rw [h.execute_eq]
  · rw [h.listReports_eq hp]
  · simp only [h.listReports_eq hp, funext h.feedEntry_eq, h.registry]

/-- The server of sales with a report of another owner. -/
def secretServer : State :=
  { salesServer with
    reports := salesServer.reports.put "secrets"
      { id := "secrets"
        title := "Secret totals"
        description := ""
        definition :=
          { name := "Secrets"
            description := ""
            datasetIds := ["sales"]
            fiscalCalendarId := "global_jan"
            views := []
            calculations := []
            parameters := []
            formatting := none }
        ownerId := "bob"
        createdAt := ""
        updatedAt := "" } }

theorem reports_indistinguishable_secrets :
    salesServer.apiHome userHeaders (some "totals") =
      secretServer.apiHome userHeaders (some "totals") ∧
    (secretServer.apiRun userHeaders "totals" none).outcome.isOk = true ∧
    secretServer.reportFor ⟨"ann", none, "BASIC_USER"⟩ "secrets" =
      .error (.reportNotFound "secrets") := by
  have hprincipal : userHeaders.principal = .ok ⟨"ann", none, "BASIC_USER"⟩ := by decide +kernel
  have habsent : salesServer.reports.get? "secrets" = none := by decide +kernel
  have hagree : salesServer.AgreeOnOwn ⟨"ann", none, "BASIC_USER"⟩ secretServer := by
    refine agreeOnOwn_put (fun old hold => ?_) (by decide)
    rw [hold] at habsent
    cases habsent
  obtain ⟨hhidden, hget, -, happlied⟩ := reports_indistinguishable (by decide +kernel) hagree
  obtain ⟨-, hrun, -, -, hhome⟩ := happlied userHeaders hprincipal
  refine ⟨hhome _, ?_, ?_⟩
  · rw [← hrun]
    decide +kernel
  · rw [← hget]
    refine hhidden "secrets" fun r hr => ?_
    rw [hr] at habsent
    cases habsent

end State

end Reporting
