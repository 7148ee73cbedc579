import ClusterInfra.Proofs.Resource.Verdicts
import Mathlib.Data.List.Basic
/-!
What a summary says.

A walk over types remembers the worst condition that is false and the first type that is missing or
unknown. At its end the one is the earliest of the greatest severity among all that are false, and
the other is the earliest that is pending. So the summary is false like the worst of its types; if
none is false it is unknown as long as one is pending; and else it holds. Its status and its
severity depend on which types are listed, and not on their order.
-/

namespace ClusterInfra

theorem Severity.rank_injective : Function.Injective rank := by
  intro a b
  cases a <;> cases b <;> decide

theorem Condition.textOrNone_getD (text : Option String) :
    textOrNone (text.getD "") = text.filter (· ≠ "") := by
  cases text with
  | none => rfl
  | some text => by_cases h : text = "" <;> simp [textOrNone, Option.filter_some, h]

theorem Condition.textOrNone_append (pre : String) {post : String} (h : post ≠ "") :
    textOrNone (pre ++ post) = some (pre ++ post) := by
  simp [textOrNone, String.append_eq_empty_iff, h]

namespace Conditions

variable {conditions : Conditions} {types : List String} {type : String}
  {condition worst : Condition}

/-! ### The state of a type -/

/-- A type has this condition: its first entry is the one that counts. -/
def Counts (conditions : Conditions) (type : String) (condition : Condition) : Prop :=
  ∃ before after, conditions = before ++ condition :: after ∧ condition.type = type ∧
    ∀ other ∈ before, other.type ≠ type

/-- A type holds. -/
def Holds (conditions : Conditions) (type : String) : Prop :=
  ∃ condition, conditions.Counts type condition ∧ condition.status = .true

/-- A type is missing or unknown. -/
def Pends (conditions : Conditions) (type : String) : Prop :=
  ∀ condition, conditions.Counts type condition → condition.status = .unknown

/-- A type does not hold, and this is its condition. -/
def Faults (conditions : Conditions) (type : String) (condition : Condition) : Prop :=
  conditions.Counts type condition ∧ condition.status = .false

theorem get?_eq_some_iff : conditions.get? type = some condition ↔
    conditions.Counts type condition := by
  simp only [get?, List.find?_eq_some_iff_append, decide_eq_true_eq, Bool.not_eq_true',
    decide_eq_false_iff_not, Counts]
  constructor
  · rintro ⟨htype, before, after, heq, hbefore⟩
    exact ⟨before, after, heq, htype, hbefore⟩
  · rintro ⟨before, after, heq, htype, hbefore⟩
    exact ⟨htype, before, after, heq, hbefore⟩

theorem Counts.unique {other : Condition} (h : conditions.Counts type condition)
    (hother : conditions.Counts type other) : condition = other :=
  Option.some.inj ((get?_eq_some_iff.2 h).symm.trans (get?_eq_some_iff.2 hother))

theorem Faults.not_pends (h : conditions.Faults type condition) : ¬ conditions.Pends type := by
  intro hpends
  cases h.2.symm.trans (hpends condition h.1)

theorem Holds.not_pends (h : conditions.Holds type) : ¬ conditions.Pends type := by
  obtain ⟨condition, hcounts, htrue⟩ := h
  intro hpends
  cases htrue.symm.trans (hpends condition hcounts)

theorem Holds.not_faults (h : conditions.Holds type) : ¬ conditions.Faults type condition := by
  obtain ⟨other, hcounts, htrue⟩ := h
  intro hfaults
  cases hcounts.unique hfaults.1
  cases htrue.symm.trans hfaults.2

/-- A type holds, is pending or is false. -/
theorem holds_or_pends_or_faults (conditions : Conditions) (type : String) :
    conditions.Holds type ∨ conditions.Pends type ∨
      ∃ condition, conditions.Faults type condition := by
  cases hget : conditions.get? type with
  | none => exact .inr (.inl fun condition h => nomatch hget.symm.trans (get?_eq_some_iff.2 h))
  | some condition =>
    have hcounts := get?_eq_some_iff.1 hget
    cases hstatus : condition.status with
    | true => exact .inl ⟨condition, hcounts, hstatus⟩
    | unknown => exact .inr (.inl fun other h => hcounts.unique h ▸ hstatus)
    | false => exact .inr (.inr ⟨condition, hcounts, hstatus⟩)

/-! ### The worst and the first pending -/

/-- None of some types is false. -/
def Harmless (conditions : Conditions) (types : List String) : Prop :=
  ∀ type ∈ types, ∀ condition, ¬ conditions.Faults type condition

/-- None of some types is pending. -/
def Settled (conditions : Conditions) (types : List String) : Prop :=
  ∀ type ∈ types, ¬ conditions.Pends type

/-- The condition of the earliest type among those that are false and of the greatest severity. -/
def IsWorst (conditions : Conditions) (types : List String) (worst : Condition) : Prop :=
  ∃ before type after, types = before ++ type :: after ∧ conditions.Faults type worst ∧
    (∀ other ∈ before, ∀ condition, conditions.Faults other condition →
      condition.severity.rank < worst.severity.rank) ∧
    ∀ other ∈ after, ∀ condition, conditions.Faults other condition →
      condition.severity.rank ≤ worst.severity.rank

/-- The earliest type that is missing or unknown. -/
def IsFirstPending (conditions : Conditions) (types : List String) (type : String) : Prop :=
  ∃ before after, types = before ++ type :: after ∧ conditions.Pends type ∧
    conditions.Settled before

theorem harmless_and_settled_iff : conditions.Harmless types ∧ conditions.Settled types ↔
    ∀ type ∈ types, conditions.Holds type := by
  constructor
  · rintro ⟨hharmless, hsettled⟩ type hmem
    rcases conditions.holds_or_pends_or_faults type with hholds | hpends | ⟨condition, hfaults⟩
    · exact hholds
    · exact absurd hpends (hsettled type hmem)
    · exact absurd hfaults (hharmless type hmem condition)
  · exact fun h => ⟨fun type hmem _ => (h type hmem).not_faults,
      fun type hmem => (h type hmem).not_pends⟩

theorem IsWorst.exists_faults (h : conditions.IsWorst types worst) :
    ∃ type ∈ types, conditions.Faults type worst := by
  obtain ⟨before, type, after, rfl, hfaults, -⟩ := h
  exact ⟨type, List.mem_append_right _ List.mem_cons_self, hfaults⟩

/-- No type is worse than the worst. -/
theorem IsWorst.rank_le (h : conditions.IsWorst types worst) (hmem : type ∈ types)
    (hfaults : conditions.Faults type condition) :
    condition.severity.rank ≤ worst.severity.rank := by
  obtain ⟨before, first, after, rfl, hworst, hbefore, hafter⟩ := h
  rcases List.mem_append.1 hmem with hearly | hlate
  · exact Nat.le_of_lt (hbefore type hearly condition hfaults)
  · rcases List.mem_cons.1 hlate with rfl | hlate
    · exact hworst.1.unique hfaults.1 ▸ Nat.le_refl _
    · exact hafter type hlate condition hfaults

/-- A type that comes later and is not worse makes no difference. -/
theorem IsWorst.append (h : conditions.IsWorst types worst)
    (hmilder : ∀ condition, conditions.Faults type condition →
      condition.severity.rank ≤ worst.severity.rank) :
    conditions.IsWorst (types ++ [type]) worst := by
  obtain ⟨before, first, after, rfl, hworst, hbefore, hafter⟩ := h
  refine ⟨before, first, after ++ [type], ?_, hworst, hbefore, ?_⟩
  · rw [List.append_assoc, List.cons_append]
  · exact List.forall_mem_append.2 ⟨hafter, List.forall_mem_singleton.2 hmilder⟩

/-- A type that comes later and is worse than all is the worst. -/
theorem isWorst_concat (hfaults : conditions.Faults type condition)
    (hworse : ∀ other ∈ types, ∀ milder, conditions.Faults other milder →
      milder.severity.rank < condition.severity.rank) :
    conditions.IsWorst (types ++ [type]) condition :=
  ⟨types, type, [], rfl, hfaults, hworse, nofun⟩

theorem IsFirstPending.exists_pends (h : conditions.IsFirstPending types type) :
    ∃ type ∈ types, conditions.Pends type := by
  obtain ⟨before, after, rfl, hpends, -⟩ := h
  exact ⟨type, List.mem_append_right _ List.mem_cons_self, hpends⟩

theorem IsFirstPending.append {first : String} (h : conditions.IsFirstPending types first)
    (type : String) : conditions.IsFirstPending (types ++ [type]) first := by
  obtain ⟨before, after, rfl, hpends, hbefore⟩ := h
  exact ⟨before, after ++ [type], by rw [List.append_assoc, List.cons_append], hpends, hbefore⟩

/-! ### The walk -/

/-- What was found of some types is the worst of them; nothing, if none is false. -/
def MarksWorst (conditions : Conditions) (types : List String) : Option Condition → Prop
  | none => conditions.Harmless types
  | some worst => conditions.IsWorst types worst

/-- What was found of some types is the first that is pending; nothing, if none is. -/
def MarksFirst (conditions : Conditions) (types : List String) : Option String → Prop
  | none => conditions.Settled types
  | some first => conditions.IsFirstPending types first

/-- Where the next type is not false, the worst stays. -/
theorem MarksWorst.append (hharmless : ∀ condition, ¬ conditions.Faults type condition) :
    ∀ {found : Option Condition}, conditions.MarksWorst types found →
      conditions.MarksWorst (types ++ [type]) found
  | none, h => List.forall_mem_append.2 ⟨h, List.forall_mem_singleton.2 hharmless⟩
  | some _, h => IsWorst.append h fun condition hfaults => absurd hfaults (hharmless condition)

/-- Where the next type is not pending, the first one that is stays. -/
theorem MarksFirst.append (hsettled : ¬ conditions.Pends type) :
    ∀ {found : Option String}, conditions.MarksFirst types found →
      conditions.MarksFirst (types ++ [type]) found
  | none, h => List.forall_mem_append.2 ⟨h, List.forall_mem_singleton.2 hsettled⟩
  | some _, h => IsFirstPending.append h type

/-- A type that is pending is the first one unless there was one before. -/
theorem MarksFirst.concat (hpends : conditions.Pends type) :
    ∀ {found : Option String}, conditions.MarksFirst types found →
      conditions.MarksFirst (types ++ [type]) (found.or (some type))
  | none, h => ⟨types, [], rfl, hpends, h⟩
  | some _, h => IsFirstPending.append h type

namespace Findings

variable {findings : Findings}

/-- The findings on some types. -/
structure Cover (conditions : Conditions) (types : List String) (findings : Findings) : Prop where
  worst : conditions.MarksWorst types findings.worst
  pending : conditions.MarksFirst types findings.pending

theorem add_of_holds (h : conditions.Holds type) : add conditions findings type = findings := by
  obtain ⟨condition, hcounts, htrue⟩ := h
  simp only [add, get?_eq_some_iff.2 hcounts, htrue]

theorem add_of_pends (h : conditions.Pends type) :
    add conditions findings type
      = { findings with pending := findings.pending.or (some type) } := by
  rw [add]
  cases hget : conditions.get? type with
  | none => rfl
  | some condition => simp only [h condition (get?_eq_some_iff.1 hget)]

/-- A type that is false is the worst unless one before was as bad. -/
theorem exists_add_of_faults (hworst : conditions.MarksWorst types findings.worst)
    (hfaults : conditions.Faults type condition) :
    ∃ worst, add conditions findings type = { findings with worst := some worst } ∧
      conditions.IsWorst (types ++ [type]) worst := by
  obtain ⟨found, pending⟩ := findings
  simp only [add, get?_eq_some_iff.2 hfaults.1, hfaults.2]
  cases found with
  | none => exact ⟨condition, rfl, isWorst_concat hfaults fun other hmem milder hmilder =>
      absurd hmilder (hworst other hmem milder)⟩
  | some worst =>
    simp only
    split
    next hworse =>
      exact ⟨condition, rfl, isWorst_concat hfaults fun other hmem milder hmilder =>
        Nat.lt_of_le_of_lt (IsWorst.rank_le hworst hmem hmilder) hworse⟩
    next hmilder =>
      exact ⟨worst, rfl, IsWorst.append hworst fun other hother =>
        hfaults.1.unique hother.1 ▸ Nat.not_lt.1 hmilder⟩

/-- Findings on some types and the next one are findings on them all. -/
theorem Cover.add (h : findings.Cover conditions types) (type : String) :
    (Findings.add conditions findings type).Cover conditions (types ++ [type]) := by
  rcases conditions.holds_or_pends_or_faults type with hholds | hpends | ⟨condition, hfaults⟩
  · rw [add_of_holds hholds]
    exact ⟨h.worst.append fun _ => hholds.not_faults, h.pending.append hholds.not_pends⟩
  · rw [add_of_pends hpends]
    exact ⟨h.worst.append fun _ hfaults => hfaults.not_pends hpends, h.pending.concat hpends⟩
  · obtain ⟨worst, hadd, hworst⟩ := exists_add_of_faults h.worst hfaults
    rw [hadd]
    exact ⟨hworst, h.pending.append hfaults.not_pends⟩

/-- A walk over more types goes on with the findings. -/
theorem Cover.foldl (rest : List String) : ∀ {types : List String} {findings : Findings},
    findings.Cover conditions types →
      (rest.foldl (Findings.add conditions) findings).Cover conditions (types ++ rest) := by
  induction rest with
  | nil =>
    intro types findings h
    rwa [List.append_nil]
  | cons type rest ih =>
    intro types findings h
    rw [List.foldl_cons, List.append_cons]
    exact ih (h.add type)

/-- A walk over all types finds the worst of them and the first that is pending. -/
theorem cover_walk (conditions : Conditions) (types : List String) :
    (types.foldl (Findings.add conditions) {}).Cover conditions types := by
  have hempty : Findings.Cover conditions [] {} := ⟨nofun, nofun⟩
  exact hempty.foldl types

end Findings

/-! ### The summary -/

/-- What a summary of some types says. -/
inductive Sums (conditions : Conditions) (types : List String) : Condition → Prop
  | fails {worst : Condition} : conditions.IsWorst types worst →
      Sums conditions types
        { type := "Ready", status := .false, severity := worst.severity,
          reason := some (worst.reason.getD ""), message := worst.message.filter (· ≠ "") }
  | pends {type : String} : conditions.Harmless types → conditions.IsFirstPending types type →
      Sums conditions types
        { type := "Ready", status := .unknown, reason := some "Pending",
          message := some (type ++ " has not been reported yet") }
  | holds : conditions.Harmless types → conditions.Settled types →
      Sums conditions types { type := "Ready", status := .true }

theorem sums_summarize (conditions : Conditions) (types : List String) :
    conditions.Sums types (conditions.summarize types) := by
  have hcover := Findings.cover_walk conditions types
  rw [summarize]
  generalize types.foldl (Findings.add conditions) {} = findings at hcover
  obtain ⟨worst, pending⟩ := findings
  obtain ⟨hworst, hpending⟩ := hcover
  cases worst with
  | some worst =>
    simp only [Findings.summary, Condition.fails, Condition.textOrNone_getD]
    exact .fails hworst
  | none =>
    cases pending with
    | some type =>
      have hmessage : " has not been reported yet" ≠ "" := by decide
      simp only [Findings.summary, Condition.unknown, Condition.textOrNone_append type hmessage]
      exact .pends hworst hpending
    | none => exact .holds hworst hpending

variable {summary : Condition}

/-- A summary is false just if one of its types is. -/
theorem Sums.status_eq_false_iff (h : conditions.Sums types summary) :
    summary.status = .false ↔ ∃ type ∈ types, ∃ condition, conditions.Faults type condition := by
  cases h with
  | fails hworst =>
    obtain ⟨type, hmem, hfaults⟩ := hworst.exists_faults
    exact iff_of_true rfl ⟨type, hmem, _, hfaults⟩
  | pends hharmless _ =>
    exact iff_of_false nofun fun ⟨type, hmem, condition, hfaults⟩ =>
      hharmless type hmem condition hfaults
  | holds hharmless _ =>
    exact iff_of_false nofun fun ⟨type, hmem, condition, hfaults⟩ =>
      hharmless type hmem condition hfaults

/-- A summary is unknown just if none of its types is false and one is pending. -/
theorem Sums.status_eq_unknown_iff (h : conditions.Sums types summary) :
    summary.status = .unknown ↔
      conditions.Harmless types ∧ ∃ type ∈ types, conditions.Pends type := by
  cases h with
  | fails hworst =>
    obtain ⟨type, hmem, hfaults⟩ := hworst.exists_faults
    exact iff_of_false nofun fun ⟨hharmless, _⟩ => hharmless type hmem _ hfaults
  | pends hharmless hfirst => exact iff_of_true rfl ⟨hharmless, hfirst.exists_pends⟩
  | holds _ hsettled =>
    exact iff_of_false nofun fun ⟨_, type, hmem, hpends⟩ => hsettled type hmem hpends

/-- A summary is true just if all of its types are. -/
theorem Sums.status_eq_true_iff (h : conditions.Sums types summary) :
    summary.status = .true ↔ ∀ type ∈ types, conditions.Holds type := by
  rw [← harmless_and_settled_iff]
  cases h with
  | fails hworst =>
    obtain ⟨type, hmem, hfaults⟩ := hworst.exists_faults
    exact iff_of_false nofun fun ⟨hharmless, _⟩ => hharmless type hmem _ hfaults
  | pends _ hfirst =>
    obtain ⟨type, hmem, hpends⟩ := hfirst.exists_pends
    exact iff_of_false nofun fun ⟨_, hsettled⟩ => hsettled type hmem hpends
  | holds hharmless hsettled => exact iff_of_true rfl ⟨hharmless, hsettled⟩

/-- A summary that is false says what the worst of its types says. -/
theorem Sums.exists_worst (h : conditions.Sums types summary) (hfalse : summary.status = .false) :
    ∃ worst, conditions.IsWorst types worst ∧
      summary = { type := "Ready", status := .false, severity := worst.severity,
                  reason := some (worst.reason.getD ""),
                  message := worst.message.filter (· ≠ "") } := by
  cases h with
  | fails hworst => exact ⟨_, hworst, rfl⟩
  | pends => cases hfalse
  | holds => cases hfalse

/-- A summary that is unknown names the first of its types that is pending. -/
theorem Sums.exists_first (h : conditions.Sums types summary)
    (hunknown : summary.status = .unknown) :
    ∃ type, conditions.IsFirstPending types type ∧
      summary = { type := "Ready", status := .unknown, reason := some "Pending",
                  message := some (type ++ " has not been reported yet") } := by
  cases h with
  | fails => cases hunknown
  | pends _ hfirst => exact ⟨_, hfirst, rfl⟩
  | holds => cases hunknown

theorem Sums.eq_ready (h : conditions.Sums types summary) (htrue : summary.status = .true) :
    summary = { type := "Ready", status := .true } := by
  cases h with
  | fails => cases htrue
  | pends => cases htrue
  | holds => rfl

/-- A summary is false if one of its types is, and it is as severe at least. -/
theorem summarize_of_false {verdict : Verdict} (hmem : type ∈ types)
    (h : conditions.verdict? type = some verdict) (hfalse : verdict.status = .false) :
    (conditions.summarize types).status = .false ∧
      verdict.severity.rank ≤ (conditions.summarize types).severity.rank := by
  obtain ⟨condition, hget, rfl⟩ := Option.map_eq_some_iff.1 h
  have hfaults : conditions.Faults type condition := ⟨get?_eq_some_iff.1 hget, hfalse⟩
  have hsums := sums_summarize conditions types
  have hstatus := hsums.status_eq_false_iff.2 ⟨type, hmem, condition, hfaults⟩
  obtain ⟨worst, hworst, hsummary⟩ := hsums.exists_worst hstatus
  refine ⟨hstatus, ?_⟩
  rw [hsummary]
  exact hworst.rank_le hmem hfaults

/-- A summary of types that all hold does so, too. -/
theorem summarize_of_holds (h : ∀ type ∈ types, conditions.verdict? type = some .holds) :
    conditions.summarize types = .holds ConditionType.ready := by
  have hsums := sums_summarize conditions types
  refine hsums.eq_ready (hsums.status_eq_true_iff.2 fun type hmem => ?_)
  obtain ⟨condition, hget, hverdict⟩ := Option.map_eq_some_iff.1 (h type hmem)
  exact ⟨condition, get?_eq_some_iff.1 hget, congrArg Verdict.status hverdict⟩

/-- The worst of some types is as severe as the worst of others that include them. -/
theorem IsWorst.rank_le_of_subset {others : List String} {worse : Condition}
    (h : conditions.IsWorst types worst) (hworse : conditions.IsWorst others worse)
    (hsubset : types ⊆ others) : worst.severity.rank ≤ worse.severity.rank := by
  obtain ⟨type, hmem, hfaults⟩ := h.exists_faults
  exact hworse.rank_le (hsubset hmem) hfaults

/-- Status and severity go by the set of types. -/
theorem Sums.status_severity_eq {others : List String} {summary' : Condition}
    (h : conditions.Sums types summary) (h' : conditions.Sums others summary')
    (hmem : ∀ type, type ∈ types ↔ type ∈ others) :
    summary.status = summary'.status ∧ summary.severity = summary'.severity := by
  have hfalse : summary.status = .false ↔ summary'.status = .false := by
    simp only [h.status_eq_false_iff, h'.status_eq_false_iff, hmem]
  have hunknown : summary.status = .unknown ↔ summary'.status = .unknown := by
    simp only [h.status_eq_unknown_iff, h'.status_eq_unknown_iff, Harmless, hmem]
  cases h with
  | fails hworst =>
    cases h' with
    | fails hworst' =>
      have hle := hworst.rank_le_of_subset hworst' fun type => (hmem type).1
      have hge := hworst'.rank_le_of_subset hworst fun type => (hmem type).2
      exact ⟨rfl, Severity.rank_injective (Nat.le_antisymm hle hge)⟩
    | pends => cases hfalse.1 rfl
    | holds => cases hfalse.1 rfl
  | pends =>
    cases h' with
    | fails => cases hunknown.1 rfl
    | pends => exact ⟨rfl, rfl⟩
    | holds => cases hunknown.1 rfl
  | holds =>
    cases h' with
    | fails => cases hfalse.2 rfl
    | pends => cases hunknown.2 rfl
    | holds => exact ⟨rfl, rfl⟩

/-- Conditions of other types have no say in a summary. -/
theorem summarize_congr_filter {conditions' : Conditions}
    (h : conditions.filter (·.type ∈ types) = conditions'.filter (·.type ∈ types)) :
    conditions.summarize types = conditions'.summarize types := by
  refine summarize_congr fun type hmem => ?_
  have hlisted : ∀ conditions : Conditions, conditions.verdicts type
      = verdicts (conditions.filter (·.type ∈ types)) type := fun conditions => by
    rw [verdicts, verdicts, List.filter_filter]
    congr 1
    refine List.filter_congr fun condition _ => ?_
    by_cases htype : condition.type = type
    · simp [htype, hmem]
    · simp [htype]
  rw [hlisted conditions, hlisted conditions', h]

/-- A summary is false if one of its types is, and it says then what the worst of them says; else it
is unknown if one of them is pending, and it names the first that is; else it holds. Its status and
severity depend on the set of its types, and nothing in it depends on other types. -/
theorem summary_is_severest (conditions : Conditions) (types : List String) :
    let summary := conditions.summarize types
    (summary.status = .false ↔ ∃ type ∈ types, ∃ condition, conditions.Faults type condition) ∧
    (summary.status = .false → ∃ worst, conditions.IsWorst types worst ∧
      summary = { type := "Ready", status := .false, severity := worst.severity,
                  reason := some (worst.reason.getD ""),
                  message := worst.message.filter (· ≠ "") }) ∧
    (summary.status = .unknown ↔
      conditions.Harmless types ∧ ∃ type ∈ types, conditions.Pends type) ∧
    (summary.status = .unknown → ∃ type, conditions.IsFirstPending types type ∧
      summary = { type := "Ready", status := .unknown, reason := some "Pending",
                  message := some (type ++ " has not been reported yet") }) ∧
    (summary.status = .true ↔ ∀ type ∈ types, conditions.Holds type) ∧
    (summary.status = .true → summary = { type := "Ready", status := .true }) ∧
    (∀ others : List String, (∀ type, type ∈ types ↔ type ∈ others) →
      summary.status = (conditions.summarize others).status ∧
      summary.severity = (conditions.summarize others).severity) ∧
    ∀ conditions' : Conditions,
      conditions.filter (·.type ∈ types) = conditions'.filter (·.type ∈ types) →
        summary = conditions'.summarize types := by
  have hsums := sums_summarize conditions types
  exact ⟨hsums.status_eq_false_iff, hsums.exists_worst, hsums.status_eq_unknown_iff,
    hsums.exists_first, hsums.status_eq_true_iff, hsums.eq_ready,
    fun others => hsums.status_severity_eq (sums_summarize conditions others),
    fun _ => summarize_congr_filter⟩

/-- Of two types that are equally bad, a summary tells the one that is listed first. -/
example : summarize
    [.fails "Bastion" "Late" .error "", .fails "Network" "Early" .error "broken", .holds "Volume"]
    ["Balancer", "Volume", "Network", "Bastion"] = .fails "Ready" "Early" .error "broken" := by
  decide

end Conditions

end ClusterInfra
