import Mathlib.Data.List.Induction
import Reporting.Calculation.Expression
import Reporting.Proofs.Outcome

/-!
# Expressions from left to right

An expression comes to what its terms make one after the other: each operand is combined by the
operator in force where it stands, which is the last one written before it
(`Expression.evaluate_eq_foldlM_terms`). What is written behind an expression is read behind it
(`Expression.words_append_blank`), so expressions associate to the left
(`Expression.evaluate_leftAssociative`).
-/

namespace Reporting.Expression

open Outcome

/-! ## Signs and operands -/

/-- The sign of an operator. -/
def Operator.sign : Operator → String
  | .plus => "+"
  | .minus => "-"
  | .times => "*"
  | .over => "/"

/-- Whether a text is a single word and no sign. -/
structure IsOperand (t : String) : Prop where
  nonempty : t ≠ ""
  unbroken : ∀ c ∈ t.toList, Text.isBlank c = false
  noSign : ∀ o : Operator, t ≠ o.sign

theorem unbroken_of_all {t : String} (h : (t.toList.all fun c => !Text.isBlank c) = true) :
    ∀ c ∈ t.toList, Text.isBlank c = false := by
  simpa using h

/-- What a word stands for in a context: its entry there or else, without one, the number that it
has as a text. -/
def StandsFor (context : Keyed Number) (word : String) (value : Number) : Prop :=
  context.get? word = some value ∨
    context.get? word = none ∧ (Value.text word).toNumber = .ok value

theorem ofWord?_sign (o : Operator) : Operator.ofWord? o.sign.toList = some o := by
  cases o <;> decide

theorem eq_sign_of_ofWord? {word : String} {o : Operator}
    (h : Operator.ofWord? word.toList = some o) : word = o.sign := by
  rw [← String.toList_inj]
  unfold Operator.ofWord? at h
  split at h <;> cases h <;> assumption

theorem IsOperand.ofWord? {t : String} (h : IsOperand t) :
    Operator.ofWord? t.toList = none := by
  cases ho : Operator.ofWord? t.toList with
  | none => rfl
  | some o => exact absurd (eq_sign_of_ofWord? ho) (h.noSign o)

theorem StandsFor.operandValue {context : Keyed Number} {word : String} {value : Number}
    (h : StandsFor context word value) : operandValue context word = value := by
  rw [Expression.operandValue]
  obtain hentry | ⟨hnone, hnumber⟩ := h
  · rw [hentry, Option.getD_some]
  · rw [hnone, Option.getD_none]
    exact Except.ok.inj hnumber

/-! ## Words -/

/-- A blank keeps the words on its sides apart. -/
theorem words_append_blank (front back : String) :
    words (front ++ " " ++ back) = words front ++ words back := by
  have hblank : Text.isBlank ' ' = true := by decide
  rw [words, words, words, String.toList_append, String.toList_append, List.append_assoc,
    ← List.map_append, ← Text.words_append hblank]
  rfl

theorem words_of_unbroken {t : String} (hne : t ≠ "")
    (h : ∀ c ∈ t.toList, Text.isBlank c = false) : words t = [t] := by
  have hlist : t.toList ≠ [] := by simpa using hne
  rw [words, Text.words, Text.cut_of_forall_not h, List.filter_cons_of_pos (by simpa using hlist),
    List.filter_nil, List.map_singleton, String.ofList_toList]

theorem IsOperand.words {t : String} (h : IsOperand t) : words t = [t] :=
  words_of_unbroken h.nonempty h.unbroken

theorem words_sign (o : Operator) : words o.sign = [o.sign] := by
  cases o <;> exact words_of_unbroken (by decide) (unbroken_of_all (by decide))

/-- The words of an expression with signs behind it. -/
theorem words_foldl_sign (signs : List Operator) (e : String) :
    words (signs.foldl (fun text o => text ++ " " ++ o.sign) e) =
      words e ++ signs.map Operator.sign := by
  induction signs generalizing e with
  | nil => exact (List.append_nil _).symm
  | cons o rest ih =>
    rw [List.foldl_cons, ih, words_append_blank, words_sign, List.map_cons, List.append_assoc,
      List.singleton_append]

/-! ## Terms -/

/-- The operator in force behind words: the last one among them, and the plus where there is
none. -/
def inForce (ws : List String) : Operator :=
  ((ws.filterMap fun word => Operator.ofWord? word.toList).getLast?).getD .plus

/-- The operands among words, each with the operator in force where it stands. -/
def terms (ws : List String) : List (Operator × String) :=
  (ws.zipIdx.filter fun item => Operator.ofWord? item.1.toList = none).map fun item =>
    (inForce (ws.take item.2), item.1)

/-- A total combined with a term. -/
def combineTerm (context : Keyed Number) (total : Number) (term : Operator × String) :
    Outcome Number :=
  term.1.combine total (operandValue context term.2)

theorem inForce_append_singleton (ws : List String) (word : String) :
    inForce (ws ++ [word]) = (Operator.ofWord? word.toList).getD (inForce ws) := by
  rw [inForce, List.filterMap_append]
  cases ho : Operator.ofWord? word.toList with
  | none => simp [ho, inForce]
  | some o => simp [ho]

theorem terms_append_singleton (ws : List String) (word : String) :
    terms (ws ++ [word]) =
      terms ws ++ if Operator.ofWord? word.toList = none then [(inForce ws, word)] else [] := by
  have hfront : ∀ item ∈ ws.zipIdx.filter (fun item => Operator.ofWord? item.1.toList = none),
      (inForce ((ws ++ [word]).take item.2), item.1) = (inForce (ws.take item.2), item.1) := by
    intro item hitem
    obtain ⟨-, hlt, -⟩ := List.mem_zipIdx (List.mem_filter.1 hitem).1
    rw [List.take_append_of_le_length (by omega)]
  rw [terms, List.zipIdx_append, List.filter_append, List.map_append, List.map_congr_left hfront,
    ← terms]
  congr 1
  rw [List.zipIdx_singleton, List.filter_singleton]
  by_cases ho : Operator.ofWord? word.toList = none
  · simp [ho]
  · simp [ho]

variable (context : Keyed Number)

/-! ## Reading words -/

/-- A sign replaces the operator in force. -/
theorem foldlM_sign_cons (r : Reduction) (o : Operator) (back : List String) :
    (o.sign :: back).foldlM (Reduction.read context) r =
      back.foldlM (Reduction.read context) { r with operator := o } := by
  rw [List.foldlM_cons, Reduction.read, ofWord?_sign, ok_bind]

theorem read_operand (r : Reduction) {word : String}
    (h : Operator.ofWord? word.toList = none) :
    r.read context word =
      (r.operator.combine r.total (operandValue context word) >>= fun total =>
        pure { r with total }) := by
  rw [Reduction.read, h]

/-- **Words are reduced term by term**, and the operator in force is kept beside the total. -/
theorem foldlM_read (ws : List String) :
    ws.foldlM (Reduction.read context) .start = do
      return ⟨← (terms ws).foldlM (combineTerm context) (.int 0), inForce ws⟩ := by
  induction ws using List.reverseRecOn with
  | nil => rfl
  | append_singleton ws word ih =>
    rw [List.foldlM_append, ih, terms_append_singleton, inForce_append_singleton, bind_assoc]
    cases ho : Operator.ofWord? word.toList with
    | none =>
      rw [if_pos rfl, List.foldlM_append, bind_assoc]
      refine bind_congr fun total => ?_
      rw [pure_bind, List.foldlM_cons, read_operand context _ ho]
      simp [combineTerm]
    | some o =>
      rw [if_neg (by simp), List.append_nil]
      refine bind_congr fun total => ?_
      obtain rfl := eq_sign_of_ofWord? ho
      rw [pure_bind, foldlM_sign_cons]
      rfl

/-- The reduction of words that stand behind others. -/
theorem foldlM_read_append (front back : List String) :
    (front ++ back).foldlM (Reduction.read context) .start =
      ((terms front).foldlM (combineTerm context) (.int 0) >>= fun total =>
        back.foldlM (Reduction.read context) ⟨total, inForce front⟩) := by
  rw [List.foldlM_append, foldlM_read, bind_assoc]
  exact bind_congr fun total => pure_bind _ _

/-- **Each operand is combined by the operator in force where it stands.** -/
theorem evaluate_eq_foldlM_terms (e : String) :
    evaluate context e = (terms (words e)).foldlM (combineTerm context) (.int 0) := by
  rw [evaluate, foldlM_read, bind_assoc]
  simp

/-! ## Associativity to the left -/

/-- An expression followed by a sign and an operand. -/
theorem evaluate_append_operand (e : String) (o : Operator) {t : String} (h : IsOperand t) :
    evaluate context (e ++ " " ++ o.sign ++ " " ++ t) =
      (evaluate context e >>= fun total => o.combine total (operandValue context t)) := by
  have hwords : words (e ++ " " ++ o.sign ++ " " ++ t) = words e ++ [o.sign] ++ [t] := by
    rw [words_append_blank, words_append_blank, words_sign, h.words]
  have hterms : terms (words e ++ [o.sign] ++ [t]) = terms (words e) ++ [(o, t)] := by
    rw [terms_append_singleton, terms_append_singleton, inForce_append_singleton, ofWord?_sign,
      h.ofWord?]
    simp
  rw [evaluate_eq_foldlM_terms, evaluate_eq_foldlM_terms, hwords, hterms, List.foldlM_append]
  refine bind_congr fun total => ?_
  rw [List.foldlM_cons]
  exact bind_pure _

/-- Signs behind an expression stand before no operand. -/
theorem evaluate_append_signs (e : String) (signs : List Operator) :
    evaluate context (signs.foldl (fun text o => text ++ " " ++ o.sign) e) =
      evaluate context e := by
  have hterms : ∀ signs : List Operator,
      terms (words e ++ signs.map Operator.sign) = terms (words e) := by
    intro signs
    induction signs using List.reverseRecOn with
    | nil => simp
    | append_singleton front o ih =>
      rw [List.map_append, List.map_singleton, ← List.append_assoc, terms_append_singleton,
        ofWord?_sign, if_neg (by simp), List.append_nil, ih]
  rw [evaluate_eq_foldlM_terms, evaluate_eq_foldlM_terms, words_foldl_sign, hterms]

/-- Words that are reduced alike have one value. -/
theorem evaluate_congr {e e' : String} (h : (words e).foldlM (Reduction.read context) .start =
    (words e').foldlM (Reduction.read context) .start) :
    evaluate context e = evaluate context e' := by
  rw [evaluate, evaluate, h]

/-- Of two signs behind one another the last one counts. -/
theorem evaluate_doubled {doubled single : String} {front back : List String} {o last : Operator}
    (hdoubled : words doubled = front ++ o.sign :: last.sign :: back)
    (hsingle : words single = front ++ last.sign :: back) :
    evaluate context doubled = evaluate context single := by
  refine evaluate_congr context ?_
  rw [hdoubled, hsingle, foldlM_read_append, foldlM_read_append]
  refine bind_congr fun total => ?_
  rw [foldlM_sign_cons, foldlM_sign_cons, foldlM_sign_cons]

/-- An operand behind another one is combined as that one is. -/
theorem evaluate_adjacent {adjacent parted : String} {front back : List String} {t u : String}
    (ht : IsOperand t) (hadjacent : words adjacent = front ++ t :: u :: back)
    (hparted : words parted = front ++ t :: (inForce front).sign :: u :: back) :
    evaluate context adjacent = evaluate context parted := by
  refine evaluate_congr context ?_
  rw [hadjacent, hparted, foldlM_read_append, foldlM_read_append]
  refine bind_congr fun total => ?_
  rw [List.foldlM_cons, List.foldlM_cons, read_operand context _ ht.ofWord?, bind_assoc,
    bind_assoc]
  refine bind_congr fun next => ?_
  rw [pure_bind, pure_bind, foldlM_sign_cons]

/-- What the value of an expression in a context owes to its signs and operands. -/
structure AssociatesLeft (context : Keyed Number) : Prop where
  /-- A sign and an operand behind an expression combine its value with that of the operand. -/
  operand : ∀ (e t : String) (o : Operator) (value : Number), IsOperand t →
    StandsFor context t value →
      evaluate context (e ++ " " ++ o.sign ++ " " ++ t) =
        (evaluate context e >>= fun total => o.combine total value)
  /-- A divisor of zero makes no difference. -/
  zeroDivisor : ∀ (e t : String) (value : Number), IsOperand t → StandsFor context t value →
    value.isZero = true →
      evaluate context (e ++ " " ++ Operator.over.sign ++ " " ++ t) = evaluate context e
  /-- Signs alone behind an expression make no difference. -/
  signs : ∀ (e : String) (signs : List Operator),
    evaluate context (signs.foldl (fun text o => text ++ " " ++ o.sign) e) = evaluate context e
  /-- In any words each operand is combined by the last sign before it, or else added, starting
  from zero. -/
  terms : ∀ e : String,
    evaluate context e = (terms (words e)).foldlM (combineTerm context) (.int 0)
  /-- Of two signs behind one another the last one counts. -/
  doubled : ∀ (doubled single : String) (front back : List String) (o last : Operator),
    words doubled = front ++ o.sign :: last.sign :: back →
    words single = front ++ last.sign :: back →
      evaluate context doubled = evaluate context single
  /-- An operand behind another one is combined as that one is. -/
  adjacent : ∀ (adjacent parted t u : String) (front back : List String), IsOperand t →
    words adjacent = front ++ t :: u :: back →
    words parted = front ++ t :: (inForce front).sign :: u :: back →
      evaluate context adjacent = evaluate context parted

/-- **Expressions associate to the left.** -/
theorem evaluate_leftAssociative (context : Keyed Number) : AssociatesLeft context := by
  have happend : ∀ (e t : String) (o : Operator) (value : Number), IsOperand t →
      StandsFor context t value →
        evaluate context (e ++ " " ++ o.sign ++ " " ++ t) =
          (evaluate context e >>= fun total => o.combine total value) := by
    intro e t o value ht hvalue
    rw [evaluate_append_operand context e o ht, hvalue.operandValue]
  exact {
    operand := happend
    zeroDivisor := by
      intro e t value ht hvalue hzero
      have hkept : (fun total : Number => Operator.over.combine total value) = Except.ok := by
        funext total
        rw [Operator.combine, if_pos hzero]
      rw [happend e t .over value ht hvalue, hkept]
      exact bind_pure _
    signs := evaluate_append_signs context
    terms := evaluate_eq_foldlM_terms context
    doubled := fun _ _ _ _ _ _ => evaluate_doubled context
    adjacent := fun _ _ _ _ _ _ => evaluate_adjacent context }

/-- The amounts of a sale without cost. -/
def freeSale : Keyed Number := .ofList [("Sales", .int 7), ("Cost", .int 0)]

theorem evaluate_leftAssociative_freeSale :
    (IsOperand "Cost" ∧ StandsFor freeSale "Cost" (.int 0) ∧
      evaluate freeSale "Sales * 3 / Cost" = .ok (.double (.ofNat 21))) ∧
    evaluate freeSale "Sales * 3 + -" = .ok (.double (.ofNat 21)) ∧
    (words "Sales + - 3" = ["Sales", "+", "-", "3"] ∧ words "Sales - 3" = ["Sales", "-", "3"] ∧
      evaluate freeSale "Sales + - 3" = .ok (.double (.ofNat 4))) ∧
    (IsOperand "2" ∧ words "Sales - 2 1" = ["Sales", "-", "2", "1"] ∧
      words "Sales - 2 - 1" = ["Sales", "-", "2", "-", "1"] ∧
      evaluate freeSale "Sales - 2 1" = .ok (.double (.ofNat 4))) := by
  have hlaws : AssociatesLeft freeSale := evaluate_leftAssociative freeSale
  have hcost : IsOperand "Cost" :=
    ⟨by decide, unbroken_of_all (by decide), by rintro (_ | _ | _ | _) <;> decide⟩
  have htwo : IsOperand "2" :=
    ⟨by decide, unbroken_of_all (by decide), by rintro (_ | _ | _ | _) <;> decide⟩
  have hstands : StandsFor freeSale "Cost" (.int 0) := .inl (by decide +kernel)
  have hproduct : evaluate freeSale "Sales * 3" = .ok (.double (.ofNat 21)) := by decide +kernel
  have hdifference : evaluate freeSale "Sales - 3" = .ok (.double (.ofNat 4)) := by
    decide +kernel
  have hdifferences : evaluate freeSale "Sales - 2 - 1" = .ok (.double (.ofNat 4)) := by
    decide +kernel
  have hplusMinus : words "Sales + - 3" = ["Sales", "+", "-", "3"] := by decide +kernel
  have hminus : words "Sales - 3" = ["Sales", "-", "3"] := by decide +kernel
  have htwice : words "Sales - 2 1" = ["Sales", "-", "2", "1"] := by decide +kernel
  have hparted : words "Sales - 2 - 1" = ["Sales", "-", "2", "-", "1"] := by decide +kernel
  refine ⟨⟨hcost, hstands, ?_⟩, ?_, ⟨hplusMinus, hminus, ?_⟩, htwo, htwice, hparted, ?_⟩
  · exact (hlaws.zeroDivisor "Sales * 3" "Cost" (.int 0) hcost hstands rfl).trans hproduct
  · exact (hlaws.signs "Sales * 3" [.plus, .minus]).trans hproduct
  · exact (hlaws.doubled _ _ ["Sales"] ["3"] .plus .minus hplusMinus hminus).trans hdifference
  · exact (hlaws.adjacent _ _ "2" "1" ["Sales", "-"] [] htwo htwice hparted).trans hdifferences

end Reporting.Expression
