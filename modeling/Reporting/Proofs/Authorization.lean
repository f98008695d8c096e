import Reporting.Proofs.Confidentiality
import Reporting.Proofs.Effects

/-!
# Authorization of saves

Over whole sessions, each report is stored under its own id (`State.Reachable.isFiled`). No step
removes a report or changes its owner or the time of its first save, and whatever else changes was
saved by the owner or by an administrator; a save over headers needs access to build on every
dataset that the definition names (`State.Reachable.reports_authorized`).
-/

namespace Reporting

/-- A step that saves a report for a principal, directly or over headers, and answers with it. -/
inductive SavedBy (p : Principal) (r : Report) : Step → Response Reply → Prop
  | directly {request : SaveRequest} : SavedBy p r (.saveReport p request) (.ok (.report r))
  | requested {headers : Headers} {request : SaveRequest} (principal : headers.principal = .ok p) :
    SavedBy p r (.apiCreate headers request) (.ok (.created r))

theorem Response.bind_eq_ok {α β : Type} {x : Response α} {f : α → Response β} {b : β} :
    (x >>= f) = .ok b ↔ ∃ a, x = .ok a ∧ f a = .ok b := by
  cases x with
  | error fault => exact ⟨nofun, fun ⟨_, h, _⟩ => nomatch h⟩
  | ok a => exact ⟨fun h => ⟨a, rfl, h⟩, fun ⟨_, h, hf⟩ => Except.ok.inj h ▸ hf⟩

theorem Response.map_eq_ok {α β : Type} {x : Response α} {f : α → β} {b : β} :
    x.map f = .ok b ↔ ∃ a, x = .ok a ∧ f a = b := by
  cases x with
  | error fault => simp [Except.map]
  | ok a => simp [Except.map]

namespace State

/-- Whether a principal may build on the dataset of an id. -/
def MayBuildOn (s : State) (p : Principal) (id : String) : Prop :=
  ∃ d, s.registry.datasets.get? id = some d ∧ d.permits p .build = true

/-- An id that a step makes is not the id of a stored report. -/
def MakesFreshId (s : State) (next : Step) : Prop :=
  (s.step next).1.idsMade ≠ s.idsMade →
    s.reports.get? (generatedId (s.step next).1.idsMade) = none

/-- A save over headers is accepted for the principal that they name, if it may build on all
datasets of the definition. -/
theorem acceptSave_eq_ok {s : State} {headers : Headers} {request : SaveRequest} {p : Principal} :
    s.acceptSave headers request = .ok p ↔
      headers.principal = .ok p ∧ ∀ id ∈ request.definition.datasetIds, s.MayBuildOn p id := by
  have hmissing : ∀ q, (s.missingBuildAccess q request.definition).isEmpty = true ↔
      ∀ id ∈ request.definition.datasetIds, s.MayBuildOn q id := by
    intro q
    rw [List.isEmpty_iff, missingBuildAccess, List.filter_eq_nil_iff]
    refine forall₂_congr fun id _ => ?_
    rw [Bool.not_eq_true', Bool.not_eq_false, List.contains_iff_mem,
      Registry.mem_map_id_accessible]
    rfl
  rw [acceptSave, Response.bind_eq_ok]
  constructor
  · rintro ⟨q, hq, h⟩
    dsimp only at h
    split at h
    · next hempty =>
      obtain rfl := Except.ok.inj h
      exact ⟨hq, (hmissing q).1 hempty⟩
    · cases h
  · rintro ⟨hp, hbuild⟩
    exact ⟨p, hp, if_pos ((hmissing p).2 hbuild)⟩

section Step

variable {s : State} {next : Step}

/-- A step keeps the reports, or stores the one that it saved. -/
theorem reports_step (s : State) (next : Step) :
    (s.step next).1.reports = s.reports ∨
      ∃ p r, SavedBy p r next (s.step next).2 ∧ s.Saves p r (s.step next).1 := by
  have heffect := s.step_effect next
  generalize (s.step next).1 = t, (s.step next).2 = answer at heffect ⊢
  cases heffect with
  | asked _ same => exact .inl (same ▸ rfl)
  | set _ stores | refused _ stores => exact .inl (congrArg Stores.reports stores)
  | calendar added => exact .inl (added ▸ rfl)
  | registered registered | uploaded _ _ registered => exact .inl (registered ▸ rfl)
  | saved saves => exact .inr ⟨_, _, .directly, saves⟩
  | created accepted saves => exact .inr ⟨_, _, .requested (acceptSave_eq_ok.1 accepted).1, saves⟩

/-- A report that a step saved is stored, and over headers only with access to its datasets. -/
theorem get?_of_savedBy {p : Principal} {r : Report} (h : SavedBy p r next (s.step next).2) :
    (s.step next).1.reports.get? r.id = some r ∧
      ∀ headers request, next = .apiCreate headers request →
        ∀ id ∈ r.definition.datasetIds, s.MayBuildOn p id := by
  have heffect := s.step_effect next
  have hget : ∀ {q r t}, s.Saves q r t → t.reports.get? r.id = some r := by
    intro q r t saves
    rw [saves.reports]
    simp
  generalize (s.step next).1 = t, (s.step next).2 = answer at heffect h ⊢
  cases h with
  | directly =>
    cases heffect with
    | asked asks => cases asks
    | saved saves => exact ⟨hget saves, nofun⟩
  | requested principal =>
    cases heffect with
    | asked asks => cases asks
    | created accepted saves definition =>
      obtain ⟨hprincipal, hbuild⟩ := acceptSave_eq_ok.1 accepted
      obtain rfl := Except.ok.inj (hprincipal.symm.trans principal)
      exact ⟨hget saves, fun _ _ _ => definition ▸ hbuild⟩

/-! ## Reports under their ids -/

/-- Each report is stored under its own id. -/
def IsFiled (s : State) : Prop := ∀ id r, s.reports.get? id = some r → r.id = id

theorem IsFiled.step (h : s.IsFiled) (next : Step) : (s.step next).1.IsFiled := by
  intro id r hr
  obtain hsame | ⟨p, saved, -, saves⟩ := s.reports_step next
  · exact h id r (hsame ▸ hr)
  · rw [saves.reports, Keyed.get?_put] at hr
    split at hr
    · next hid => exact Option.some.inj hr ▸ hid
    · exact h id r hr

end Step

/-- A state that a session leads to. -/
def Reachable (s : State) : Prop := ∃ now steps, ((start now).session steps).1 = s

theorem IsFiled.session {s : State} (h : s.IsFiled) (steps : List Step) :
    (s.session steps).1.IsFiled := by
  induction steps generalizing s with
  | nil => exact h
  | cons next rest ih => exact ih (h.step next)

theorem Reachable.isFiled {s : State} (hs : s.Reachable) : s.IsFiled := by
  obtain ⟨now, steps, rfl⟩ := hs
  refine IsFiled.session (fun id r hr => ?_) steps
  simp [start] at hr

/-! ## Changes of reports -/

/-- **Reports are changed by their owners and by administrators only.** In a reachable state each
report is stored under its own id. A step that makes no id of a stored report keeps every report
with its owner and the time of its first save; where the report is another one after the step, its
owner or an administrator saved it. What was saved is stored, and over headers its principal may
build on every dataset of the definition. -/
theorem Reachable.reports_authorized {s : State} (hs : s.Reachable) {next : Step}
    (hfresh : s.MakesFreshId next) :
    (∀ id r, s.reports.get? id = some r → r.id = id) ∧
    (∀ id old, s.reports.get? id = some old →
      ∃ new, (s.step next).1.reports.get? id = some new ∧
        new.ownerId = old.ownerId ∧ new.createdAt = old.createdAt ∧
        (new ≠ old → ∃ p, SavedBy p new next (s.step next).2 ∧
          (p.isAdministrator = true ∨ old.ownerId = p.id))) ∧
    ∀ p r, SavedBy p r next (s.step next).2 →
      (s.step next).1.reports.get? r.id = some r ∧
      ∀ headers request, next = .apiCreate headers request →
        ∀ id ∈ r.definition.datasetIds,
          ∃ d, s.registry.datasets.get? id = some d ∧ d.permits p .build = true := by
  refine ⟨hs.isFiled, fun id old hold => ?_, fun p r hsaved => get?_of_savedBy hsaved⟩
  obtain hsame | ⟨p, r, hsaved, saves⟩ := s.reports_step next
  · exact ⟨old, hsame ▸ hold, rfl, rfl, fun hne => absurd rfl hne⟩
  · have hget : (s.step next).1.reports.get? id = if r.id = id then some r else some old := by
      rw [saves.reports, Keyed.get?_put, hold]
    by_cases hid : r.id = id
    · -- An id made for this save would be fresh, so the save went over the report.
      have hmade : (s.step next).1.idsMade = s.idsMade := by
        by_contra hmade
        have hnone := hfresh hmade
        rw [← saves.made hmade, hid, hold] at hnone
        cases hnone
      obtain ⟨hsees, howner, hcreated⟩ := saves.replaced hmade old (hid ▸ hold)
      refine ⟨r, by rw [hget, if_pos hid], howner, hcreated, fun _ => ⟨p, hsaved, ?_⟩⟩
      simpa [sees] using hsees
    · exact ⟨old, by rw [hget, if_neg hid], rfl, rfl, fun hne => absurd rfl hne⟩

/-- A save of the totals of sales under a title. -/
def saveTotals (title : String) : SaveRequest where
  id := some "totals"
  title := title
  description := ""
  definition :=
    { name := "Totals"
      description := ""
      datasetIds := ["sales"]
      fiscalCalendarId := "global_jan"
      views := []
      calculations := []
      parameters := []
      formatting := none }

/-- A server on which a user saved the totals of sales. -/
def totalsServer : State :=
  ((start ⟨⟨0⟩, some 0⟩).session [
    .register ⟨"sales", "Sales", "", [], [], none, ""⟩ none,
    .saveReport ⟨"ann", none, "BASIC_USER"⟩ (saveTotals "Totals")]).1

/-- An administrator gives the totals another title. -/
def renameTotals : Step :=
  .apiCreate [("X-User-Id", "root"), ("X-Role-Type", " admin")] (saveTotals "Sums")

theorem reports_authorized_totals :
    totalsServer.Reachable ∧ totalsServer.MakesFreshId renameTotals ∧
    ∃ new, (totalsServer.step renameTotals).1.reports.get? "totals" = some new ∧
      new.title = "Sums" ∧ new.ownerId = "ann" ∧
      ∃ p, SavedBy p new renameTotals (totalsServer.step renameTotals).2 ∧
        (p.isAdministrator = true ∨ "ann" = p.id) := by
  have hreachable : totalsServer.Reachable := ⟨_, _, rfl⟩
  have hfresh : totalsServer.MakesFreshId renameTotals := fun hmade =>
    absurd (by decide +kernel) hmade
  have hbefore : (totalsServer.reports.get? "totals").map (fun r => (r.ownerId, r.title)) =
      some ("ann", "Totals") := by decide +kernel
  have hafter : ((totalsServer.step renameTotals).1.reports.get? "totals").map (·.title) =
      some "Sums" := by decide +kernel
  obtain ⟨old, hold, hfields⟩ := Option.map_eq_some_iff.1 hbefore
  obtain ⟨howner, htitle⟩ := Prod.mk.inj hfields
  obtain ⟨new, hnew, hkept, -, hchanged⟩ :=
    (hreachable.reports_authorized hfresh).2.1 "totals" old hold
  rw [hnew] at hafter
  have hsums : new.title = "Sums" := Option.some.inj hafter
  refine ⟨hreachable, hfresh, new, hnew, hsums, hkept.trans howner, ?_⟩
  rw [← howner]
  refine hchanged fun hsame => ?_
  rw [hsame, htitle] at hsums
  exact absurd hsums (by decide)

end State

end Reporting
