import Reporting.Proofs.Authorization
import Reporting.Proofs.Columns
import Reporting.Proofs.MomentTexts
import Reporting.Proofs.Sorting

/-!
# Listings of reports

A session leaves a log: the saves that succeeded, each with the id that it went under and the moment
that the clock told (`State.saves`). The stored reports stand in the order in which their ids first
came in the log, and each bears the text of the moment of its last save (`State.Logged.session`).
So a listing holds the reports that a principal may see and that mention a text, the last saved
first (`State.listReports_session`).
-/

namespace Reporting

namespace Text

theorem occursIn_iff {needle cs : List Char} : occursIn needle cs = true ↔ needle <:+: cs := by
  induction cs with
  | nil => simp [occursIn]
  | cons c rest ih =>
    rw [occursIn, Bool.or_eq_true, List.isPrefixOf_iff_prefix, ih, List.infix_cons_iff]

end Text

/-! ## Logs of saves -/

/-- A save that succeeded: the id that it went under, and the moment that the clock told. -/
structure Save where
  id : String
  moment : Moment
  deriving DecidableEq, Repr

/-- The moment of the last save under an id. -/
def lastSave (log : List Save) (id : String) : Option Moment :=
  (log.reverse.find? (·.id = id)).map (·.moment)

theorem lastSave_append_singleton (log : List Save) (last : Save) (id : String) :
    lastSave (log ++ [last]) id = if last.id = id then some last.moment else lastSave log id := by
  rw [lastSave, List.reverse_append, List.reverse_singleton, List.singleton_append,
    List.find?_cons]
  by_cases h : last.id = id <;> simp [h, lastSave]

/-- The report that a step saved, by its answer. -/
def Step.saved : Step → Response Reply → Option Report
  | .saveReport _ _, .ok (.report r) => some r
  | .apiCreate _ _, .ok (.created r) => some r
  | _, _ => none

namespace State

/-- The save of a step, if the step saves and succeeds. -/
def saveOf (s : State) (next : Step) : Option Save := do
  let r ← next.saved (s.step next).2
  let moment ← s.now.utc.toOption
  return ⟨r.id, moment⟩

/-- The saves of a sequence of steps, in order. -/
def saves (s : State) : List Step → List Save
  | [] => []
  | next :: rest => (s.saveOf next).toList ++ (s.step next).1.saves rest

/-! ## One step -/

theorem stamp_of_saveReport {s t : State} {p : Principal} {title description : String}
    {definition : Definition} {id : Option String} {r : Report}
    (h : s.saveReport p title description definition id = (t, .ok r)) :
    s.stamp = .ok r.updatedAt := by
  rw [saveReport] at h
  cases hsettled : s.settleId (id.filter (· ≠ "")) with
  | mk settled reportId =>
    simp only [hsettled] at h
    split at h
    · cases h
    · cases hstamp : s.stamp with
      | error failure => simp [hstamp] at h
      | ok stamp =>
        simp only [hstamp, Prod.mk.injEq, Except.ok.injEq] at h
        rw [← h.2]

section Step

variable {s : State} {next : Step}

theorem stamp_of_savedBy {p : Principal} {r : Report} (h : SavedBy p r next (s.step next).2) :
    s.stamp = .ok r.updatedAt := by
  generalize hanswer : (s.step next).2 = answer at h
  cases h with
  | @directly request =>
    rw [step] at hanswer
    cases hsave : s.saveReport p request.title request.description request.definition
      request.id with
    | mk t outcome =>
      cases outcome with
      | error failure => simp [hsave, change, Response.ofOutcome, Except.map] at hanswer
      | ok saved =>
        simp only [hsave, change, Response.ofOutcome, Except.map, Except.ok.injEq,
          Reply.report.injEq] at hanswer
        exact hanswer ▸ stamp_of_saveReport hsave
  | @requested headers request principal =>
    rw [step, apiCreate] at hanswer
    cases haccepted : s.acceptSave headers request with
    | error fault => simp [haccepted, change, Except.map] at hanswer
    | ok accepted =>
      cases hsave : s.saveReport accepted request.title request.description request.definition
        request.id with
      | mk t outcome =>
        cases outcome with
        | error failure =>
          simp only [haccepted, hsave, change] at hanswer
          split at hanswer <;> cases hanswer
        | ok saved =>
          simp only [haccepted, hsave, change, Except.map, Except.ok.injEq,
            Reply.created.injEq] at hanswer
          exact hanswer ▸ stamp_of_saveReport hsave

theorem saved_cases (s : State) (next : Step) :
    (next.saved (s.step next).2 = none ∧ (s.step next).1.reports = s.reports) ∨
    ∃ p r, next.saved (s.step next).2 = some r ∧ SavedBy p r next (s.step next).2 ∧
      s.Saves p r (s.step next).1 := by
  have heffect := s.step_effect next
  generalize (s.step next).1 = t, (s.step next).2 = answer at heffect ⊢
  cases heffect with
  | asked asks same =>
    subst same
    cases next with
    | setNow | uploadLimit | addCalendar | register | saveReport | apiUpload | apiCreate =>
      cases asks
    | _ => exact .inl ⟨rfl, rfl⟩
  | set _ stores | refused _ stores =>
    refine .inl ⟨?_, congrArg Stores.reports stores⟩
    cases next <;> rfl
  | calendar added => exact .inl ⟨rfl, added ▸ rfl⟩
  | registered registered | uploaded _ _ registered =>
    refine .inl ⟨rfl, registered ▸ rfl⟩
  | saved saves => exact .inr ⟨_, _, rfl, .directly, saves⟩
  | created accepted saves =>
    exact .inr ⟨_, _, rfl, .requested (acceptSave_eq_ok.1 accepted).1, saves⟩

/-- A step keeps the reports and saves nothing, or stores a report with the text of the moment of
its save. -/
theorem saveOf_cases (s : State) (next : Step) :
    (s.saveOf next = none ∧ (s.step next).1.reports = s.reports) ∨
    ∃ r moment, s.saveOf next = some ⟨r.id, moment⟩ ∧ moment.toIso = .ok r.updatedAt ∧
      (s.step next).1.reports = s.reports.put r.id r := by
  obtain ⟨hnone, hsame⟩ | ⟨p, r, hsome, hsaved, hsaves⟩ := s.saved_cases next
  · exact .inl ⟨by rw [saveOf, hnone]; rfl, hsame⟩
  · obtain ⟨moment, hutc, htext⟩ := Outcome.bind_eq_ok.1 (stamp_of_savedBy hsaved)
    exact .inr ⟨r, moment, by rw [saveOf, hsome, hutc]; rfl, htext, hsaves.reports⟩

end Step

/-! ## The log of a session -/

/-- The reports are those of a log: they stand in the order in which their ids first came, each
under its own id and with the text of the moment of its last save. -/
structure Logged (s : State) (log : List Save) : Prop where
  keys : s.reports.keys = firsts (log.map (·.id))
  last : ∀ id r, s.reports.get? id = some r →
    r.id = id ∧ ∃ moment, lastSave log id = some moment ∧ moment.toIso = .ok r.updatedAt

theorem Logged.step {s : State} {log : List Save} (h : s.Logged log) (next : Step) :
    (s.step next).1.Logged (log ++ (s.saveOf next).toList) := by
  obtain ⟨hnone, hsame⟩ | ⟨r, moment, hsome, htext, hput⟩ := s.saveOf_cases next
  · rw [hnone, Option.toList_none, List.append_nil]
    exact ⟨hsame ▸ h.keys, fun id r hr => h.last id r (hsame ▸ hr)⟩
  · rw [hsome, Option.toList_some]
    refine ⟨?_, fun id stored hstored => ?_⟩
    · rw [hput, Keyed.keys_put_eq_firsts, h.keys, firsts_firsts_append, List.map_append,
        List.map_singleton]
    · rw [lastSave_append_singleton]
      rw [hput, Keyed.get?_put] at hstored
      by_cases hid : r.id = id
      · rw [if_pos hid, Option.some.injEq] at hstored
        subst hstored
        exact ⟨hid, moment, if_pos hid, htext⟩
      · rw [if_neg hid] at hstored
        simpa only [if_neg hid] using h.last id stored hstored

theorem Logged.session {s : State} {log : List Save} (h : s.Logged log) (steps : List Step) :
    (s.session steps).1.Logged (log ++ s.saves steps) := by
  induction steps generalizing s log with
  | nil =>
    rw [saves, List.append_nil]
    exact h
  | cons next rest ih =>
    rw [saves, ← List.append_assoc]
    exact ih (h.step next)

theorem logged_start (now : ClockReading) (steps : List Step) :
    ((start now).session steps).1.Logged ((start now).saves steps) := by
  have hstart : (start now).Logged [] := ⟨rfl, fun id r hr => by simp [start] at hr⟩
  exact hstart.session steps

/-! ## Listings -/

section Listing

variable {s : State} {p : Principal} {search : Option String}

/-- Whether a title or a description has a text, in any case and without the blanks around it. -/
theorem mentions_iff {r : Report} :
    mentions (searchText search) r = true ↔
      Text.lowerChars (Text.trimChars (search.getD "").toList) <:+:
          Text.lowerChars r.title.toList ∨
        Text.lowerChars (Text.trimChars (search.getD "").toList) <:+:
          Text.lowerChars r.description.toList := by
  rw [mentions, Bool.or_eq_true, Bool.or_eq_true, Text.occursIn_iff, Text.occursIn_iff,
    List.isEmpty_iff, or_assoc]
  refine or_iff_right_iff_imp.2 fun hempty => .inl ?_
  rw [hempty]
  exact List.nil_infix

theorem sees_iff {r : Report} :
    sees p r = true ↔ Text.upper (Text.trim p.role) = "ADMIN" ∨ r.ownerId = p.id := by
  rw [sees, Principal.isAdministrator, Principal.roleName, Bool.or_eq_true, decide_eq_true_iff,
    decide_eq_true_iff]

theorem mem_listReports {r : Report} :
    r ∈ s.listReports p search ↔
      r ∈ s.reports.values ∧ sees p r = true ∧ mentions (searchText search) r = true := by
  rw [listReports, (List.mergeSort_perm _ _).mem_iff, List.mem_filter, Bool.and_eq_true]

namespace Logged

variable {log : List Save} (h : s.Logged log)

include h

theorem mem_values {r : Report} : r ∈ s.reports.values ↔ s.reports.get? r.id = some r := by
  rw [Keyed.mem_values]
  constructor
  · rintro ⟨id, hr⟩
    rw [(h.last id r hr).1, hr]
  · exact fun hr => ⟨r.id, hr⟩

theorem map_id_values : s.reports.values.map (·.id) = s.reports.keys := by
  rw [Keyed.values, Keyed.keys, List.map_map]
  refine List.map_congr_left fun entry hentry => ?_
  exact (h.last entry.1 entry.2 (Keyed.get?_eq_some_iff.2 hentry)).1

theorem nodup_listReports : ((s.listReports p search).map (·.id)).Nodup := by
  have hvalues : (s.reports.values.map (·.id)).Nodup := by
    rw [h.map_id_values]
    exact s.reports.nodup
  rw [listReports, ((List.mergeSort_perm _ _).map _).nodup_iff]
  exact hvalues.sublist (List.filter_sublist.map _)

/-- The last saved report comes first, and of reports saved in one millisecond the one whose id
came first. -/
theorem pairwise_listReports :
    (s.listReports p search).Pairwise fun a b =>
      ∃ m n, lastSave log a.id = some m ∧ lastSave log b.id = some n ∧
        (n.millis < m.millis ∨
          n.millis = m.millis ∧ [a.id, b.id].Sublist (firsts (log.map (·.id)))) := by
  have hplaces : (s.reports.values.filter fun r =>
      sees p r && mentions (searchText search) r).Pairwise
        fun a b => [a.id, b.id].Sublist (firsts (log.map (·.id))) := by
    rw [List.pairwise_iff_forall_sublist, ← h.keys, ← h.map_id_values]
    intro a b hab
    exact (hab.trans List.filter_sublist).map _
  have hsorted : (s.listReports p search).Pairwise fun a b =>
      decide (b.updatedAt ≤ a.updatedAt) = true ∧ (decide (a.updatedAt ≤ b.updatedAt) = true →
        [a.id, b.id].Sublist (firsts (log.map (·.id)))) := by
    refine pairwise_mergeSort_of_pairwise (fun a b c hab hbc => ?_) (fun a b => ?_) hplaces
    · rw [decide_eq_true_iff] at hab hbc ⊢
      exact hbc.trans hab
    · rw [Bool.or_eq_true, decide_eq_true_iff, decide_eq_true_iff]
      exact le_total b.updatedAt a.updatedAt
  refine hsorted.imp_of_mem fun {a b} ha hb hab => ?_
  obtain ⟨-, m, hm, hmtext⟩ := h.last a.id a (h.mem_values.1 (mem_listReports.1 ha).1)
  obtain ⟨-, n, hn, hntext⟩ := h.last b.id b (h.mem_values.1 (mem_listReports.1 hb).1)
  obtain ⟨hle, htie⟩ := hab
  rw [decide_eq_true_iff, Moment.toIso_le_iff hntext hmtext] at hle
  rw [decide_eq_true_iff, Moment.toIso_le_iff hmtext hntext] at htie
  refine ⟨m, n, hm, hn, ?_⟩
  obtain hlt | heq : n.millis < m.millis ∨ n.millis = m.millis := by omega
  · exact .inl hlt
  · exact .inr ⟨heq, htie heq.ge⟩

end Logged

end Listing

/-- **A listing holds what its principal may see and what the search mentions, the last saved
first.** After any session the stored reports are those that were saved, in the order in which
their ids first came. A listing holds, each once, those among them that the principal owns or, as an
administrator, sees in any case, and whose title or description has the text that is searched.
They stand in the order of the milliseconds of their last saves, the latest first, and those of one
millisecond in the order in which their ids first came. -/
theorem listReports_session (now : ClockReading) (steps : List Step) (p : Principal)
    (search : Option String) :
    let s := ((start now).session steps).1
    let log := (start now).saves steps
    let sought := Text.lowerChars (Text.trimChars (search.getD "").toList)
    s.reports.keys = firsts (log.map (·.id)) ∧
    (∀ r, r ∈ s.listReports p search ↔
      s.reports.get? r.id = some r ∧
      (Text.upper (Text.trim p.role) = "ADMIN" ∨ r.ownerId = p.id) ∧
      (sought <:+: Text.lowerChars r.title.toList ∨
        sought <:+: Text.lowerChars r.description.toList)) ∧
    ((s.listReports p search).map (·.id)).Nodup ∧
    (s.listReports p search).Pairwise fun a b =>
      ∃ m n, lastSave log a.id = some m ∧ lastSave log b.id = some n ∧
        (n.millis < m.millis ∨
          n.millis = m.millis ∧ [a.id, b.id].Sublist (firsts (log.map (·.id)))) := by
  intro s log sought
  have hlogged : s.Logged log := logged_start now steps
  refine ⟨hlogged.keys, fun r => ?_, hlogged.nodup_listReports, hlogged.pairwise_listReports⟩
  rw [mem_listReports, hlogged.mem_values, sees_iff, mentions_iff]

-- A second save under the same id counts as its last one.
example :
    let log := (start ⟨⟨0⟩, some 0⟩).saves [
      .saveReport ⟨"ann", none, "BASIC_USER"⟩ (saveTotals "Totals"),
      .setNow ⟨⟨1500000⟩, some 0⟩,
      .saveReport ⟨"ann", none, "BASIC_USER"⟩ (saveTotals "Sums")]
    log.map (·.id) = ["totals", "totals"] ∧ (lastSave log "totals").map (·.millis) = some 1 := by
  decide +kernel

end State

end Reporting
