import ClusterInfra.Resource.AwsCluster
/-!
What conditions say, apart from when they began to say it.

A condition is judged by its verdict. Recording a condition puts its verdict in the place of the
first one of its type and leaves everything else alone; if the verdict is there already, nothing
changes at all. The summary of some types goes by the first verdict of each.
-/

namespace ClusterInfra

/-- A condition without its type and its time. -/
structure Verdict where
  status : ConditionStatus
  severity : Severity
  reason : Option String
  message : Option String
  deriving DecidableEq

/-- The verdict of a condition. -/
def Condition.verdict (condition : Condition) : Verdict :=
  ⟨condition.status, condition.severity, condition.reason, condition.message⟩

/-- The verdict that a type holds. -/
def Verdict.holds : Verdict := ⟨.true, .none, none, none⟩

/-- The verdict that a type does not hold. -/
def Verdict.fails (reason : String) (severity : Severity) (message : String) : Verdict :=
  ⟨.false, severity, some reason, Condition.textOrNone message⟩

theorem Condition.type_observe {condition new : Condition} (h : condition.type = new.type)
    (now : Instant) : (condition.observe new now).type = new.type := by
  rw [observe]
  split
  · exact h
  · rfl

theorem Condition.verdict_observe (condition new : Condition) (now : Instant) :
    (condition.observe new now).verdict = new.verdict := by
  rw [observe]
  split
  next h => simp only [verdict, h]
  next => rfl

/-- An observation that was made already changes nothing. -/
theorem Condition.observe_eq_self {condition new : Condition} (h : condition.verdict = new.verdict)
    (now : Instant) : condition.observe new now = condition := by
  simp only [verdict, Verdict.mk.injEq] at h
  obtain ⟨hstatus, hseverity, hreason, hmessage⟩ := h
  rw [observe, if_pos hstatus, ← hseverity, ← hreason, ← hmessage]

namespace Conditions

variable {type : String} {now : Instant} {new : Condition}

/-- The conditions of a type, in their order. -/
def ofType (conditions : Conditions) (type : String) : Conditions :=
  conditions.filter (·.type = type)

/-- The verdicts on a type, in their order. -/
def verdicts (conditions : Conditions) (type : String) : List Verdict :=
  (conditions.filter (·.type = type)).map (·.verdict)

theorem verdicts_cons_of_eq {condition : Condition} (h : condition.type = type)
    (rest : Conditions) : verdicts (condition :: rest) type
      = condition.verdict :: verdicts rest type := by
  simp [verdicts, h]

theorem verdicts_cons_of_ne {condition : Condition} (h : condition.type ≠ type)
    (rest : Conditions) : verdicts (condition :: rest) type = verdicts rest type := by
  simp [verdicts, h]

theorem verdicts_set_self (new : Condition) (now : Instant) : ∀ conditions : Conditions,
    (conditions.set new now).verdicts new.type = new.verdict :: (conditions.verdicts new.type).tail
  | [] => by rw [set, verdicts_cons_of_eq rfl]; rfl
  | condition :: rest => by
    rw [set]
    split
    next h =>
      rw [verdicts_cons_of_eq (Condition.type_observe h now), Condition.verdict_observe,
        verdicts_cons_of_eq h, List.tail_cons]
    next h => rw [verdicts_cons_of_ne h, verdicts_cons_of_ne h, verdicts_set_self new now rest]

/-- Recording a condition leaves those of other types alone. -/
theorem ofType_set_of_ne (h : type ≠ new.type) (now : Instant) : ∀ conditions : Conditions,
    (conditions.set new now).ofType type = conditions.ofType type
  | [] => by simp [set, ofType, Ne.symm h]
  | condition :: rest => by
    rw [set]
    split
    next heq =>
      rw [ofType, ofType, List.filter_cons_of_neg, List.filter_cons_of_neg]
      · simpa [heq] using h.symm
      · simpa [Condition.type_observe heq] using h.symm
    next hne =>
      have hrest := ofType_set_of_ne h now rest
      rw [ofType, ofType] at hrest
      rw [ofType, ofType, List.filter_cons, List.filter_cons, hrest]

/-- Recording a condition whose verdict is there already changes nothing. -/
theorem set_eq_self (now : Instant) : ∀ {conditions : Conditions},
    (conditions.verdicts new.type).head? = some new.verdict → conditions.set new now = conditions
  | [], h => nomatch h
  | condition :: rest, h => by
    rw [set]
    split
    next heq =>
      rw [verdicts_cons_of_eq heq, List.head?_cons, Option.some.injEq] at h
      rw [Condition.observe_eq_self h]
    next hne =>
      rw [verdicts_cons_of_ne hne] at h
      rw [set_eq_self now h]

theorem verdicts_delete_self (conditions : Conditions) (type : String) :
    (conditions.delete type).verdicts type = [] := by
  simp [verdicts, delete, List.filter_filter]

theorem ofType_delete_of_ne {deleted : String} (h : type ≠ deleted) (conditions : Conditions) :
    (conditions.delete deleted).ofType type = conditions.ofType type := by
  rw [ofType, ofType, delete, List.filter_filter]
  refine List.filter_congr fun condition _ => ?_
  by_cases hc : condition.type = type
  · simp [hc, h]
  · simp [hc]

/-- Taking out a type on which there is no verdict changes nothing. -/
theorem delete_eq_self {conditions : Conditions} (h : conditions.verdicts type = []) :
    conditions.delete type = conditions := by
  rw [verdicts, List.map_eq_nil_iff, List.filter_eq_nil_iff] at h
  rw [delete, List.filter_eq_self]
  intro condition hmem
  have hne := h condition hmem
  simpa using hne

/-- The verdict on a type: the one of its condition. -/
def verdict? (conditions : Conditions) (type : String) : Option Verdict :=
  (conditions.get? type).map (·.verdict)

/-! ### The summary -/

theorem verdict_get? (type : String) : ∀ conditions : Conditions,
    (conditions.get? type).map (·.verdict) = (conditions.verdicts type).head?
  | [] => rfl
  | condition :: rest => by
    by_cases h : condition.type = type
    · rw [verdicts_cons_of_eq h]
      simp [get?, h]
    · rw [verdicts_cons_of_ne h, ← verdict_get? type rest]
      simp [get?, h]

/-- Findings that go by the same verdicts. -/
structure Findings.Like (a b : Findings) : Prop where
  worst : a.worst.map (·.verdict) = b.worst.map (·.verdict)
  pending : a.pending = b.pending

theorem Findings.Like.add {a b : Findings} {conditions conditions' : Conditions} (h : a.Like b)
    (hhead : (conditions.verdicts type).head? = (conditions'.verdicts type).head?) :
    (Findings.add conditions a type).Like (Findings.add conditions' b type) := by
  rw [← verdict_get?, ← verdict_get?] at hhead
  obtain ⟨worst, pending⟩ := a
  obtain ⟨worst', pending'⟩ := b
  obtain ⟨hworst, hpending⟩ := h
  cases hpending
  rw [Findings.add, Findings.add]
  cases hget : conditions.get? type with
  | none =>
    rw [hget] at hhead
    cases hget' : conditions'.get? type with
    | none => exact ⟨hworst, rfl⟩
    | some condition' => rw [hget'] at hhead; cases hhead
  | some condition =>
    rw [hget] at hhead
    cases hget' : conditions'.get? type with
    | none => rw [hget'] at hhead; cases hhead
    | some condition' =>
      rw [hget', Option.map_some, Option.map_some, Option.some.injEq] at hhead
      have hstatus : condition.status = condition'.status := congrArg Verdict.status hhead
      have hseverity : condition.severity = condition'.severity := congrArg Verdict.severity hhead
      simp only [← hstatus]
      cases condition.status with
      | true => exact ⟨hworst, rfl⟩
      | unknown => exact ⟨hworst, rfl⟩
      | false =>
        cases worst with
        | none =>
          cases worst' with
          | none => exact ⟨congrArg some hhead, rfl⟩
          | some worst' => cases hworst
        | some worst =>
          cases worst' with
          | none => cases hworst
          | some worst' =>
            have hworst' : worst.severity = worst'.severity :=
              congrArg Verdict.severity (Option.some.inj hworst)
            simp only [hseverity, hworst']
            split
            · exact ⟨congrArg some hhead, rfl⟩
            · exact ⟨hworst, rfl⟩

theorem Findings.Like.summary {a b : Findings} (h : a.Like b) : a.summary = b.summary := by
  obtain ⟨worst, pending⟩ := a
  obtain ⟨worst', pending'⟩ := b
  obtain ⟨hworst, hpending⟩ := h
  cases hpending
  cases worst with
  | none =>
    cases worst' with
    | none => rfl
    | some worst' => cases hworst
  | some worst =>
    cases worst' with
    | none => cases hworst
    | some worst' =>
      simp only [Condition.verdict, Option.map_some, Option.some.injEq, Verdict.mk.injEq] at hworst
      obtain ⟨-, hseverity, hreason, hmessage⟩ := hworst
      simp only [Findings.summary, hseverity, hreason, hmessage]

/-- The summary goes by the first verdict on each of its types. -/
theorem summarize_congr {conditions conditions' : Conditions} {types : List String}
    (h : ∀ type ∈ types,
      (conditions.verdicts type).head? = (conditions'.verdicts type).head?) :
    conditions.summarize types = conditions'.summarize types := by
  have hfold : ∀ (types : List String) (a b : Findings), a.Like b →
      (∀ type ∈ types, (conditions.verdicts type).head? = (conditions'.verdicts type).head?) →
        (types.foldl (Findings.add conditions) a).Like (types.foldl (Findings.add conditions') b) := by
    intro types
    induction types with
    | nil => exact fun a b hlike _ => hlike
    | cons type rest ih =>
      intro a b hlike hhead
      exact ih _ _ (hlike.add (hhead type List.mem_cons_self))
        fun other hmem => hhead other (List.mem_cons_of_mem type hmem)
  exact (hfold types {} {} ⟨rfl, rfl⟩ h).summary

/-- A summary is a condition of type `Ready`. -/
theorem type_summarize (conditions : Conditions) (types : List String) :
    (conditions.summarize types).type = ConditionType.ready := by
  rw [summarize, Findings.summary]
  split <;> rfl

end Conditions

end ClusterInfra
