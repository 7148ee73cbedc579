import ClusterInfra.Proofs.Resource.Verdicts
import ClusterInfra.Proofs.Sample
import Mathlib.Data.List.Infix
import Mathlib.Data.List.Nodup
/-!
How a list of conditions changes over a run of edits.

A condition is recorded in the first entry of its type, or else in a new entry at the end. So an
edit concerns entries of one type only, no type comes to a second entry, and the types keep their
order. The time of an entry goes back to the last edit that inserted it or gave it another status;
edits that repeat the status leave the time alone, whatever time they bring.
-/

namespace ClusterInfra.Conditions

/-- An edit of a list of conditions. -/
inductive Edit
  | set (new : Condition)
  | markTrue (type : String)
  | markFalse (type reason : String) (severity : Severity) (message : String)
  | delete (type : String)
  deriving DecidableEq

namespace Edit

/-- Carries an edit out. -/
def apply (now : Instant) (conditions : Conditions) : Edit → Conditions
  | .set new => conditions.set new now
  | .markTrue type => conditions.markTrue type now
  | .markFalse type reason severity message => conditions.markFalse type reason severity message now
  | .delete type => conditions.delete type

/-- The condition that an edit records. -/
def recorded? : Edit → Option Condition
  | .set new => some new
  | .markTrue type => some (.holds type)
  | .markFalse type reason severity message => some (.fails type reason severity message)
  | .delete _ => none

/-- The type that an edit is about. -/
def type : Edit → String
  | .set new => new.type
  | .markTrue type => type
  | .markFalse type _ _ _ => type
  | .delete type => type

end Edit

variable {conditions : Conditions} {type : String} {now : Instant} {new entry : Condition}
  {status : ConditionStatus} {edit : Edit} {steps : List (Edit × Instant)}

/-- The types that have an entry, in the order of the entries. -/
def types (conditions : Conditions) : List String := conditions.map (·.type)

/-- The status of a type; none, if the type is missing. -/
def status? (conditions : Conditions) (type : String) : Option ConditionStatus :=
  (conditions.get? type).map (·.status)

theorem types_cons (condition : Condition) (rest : Conditions) :
    types (condition :: rest) = condition.type :: types rest := rfl

theorem type_of_get? (h : conditions.get? type = some entry) : entry.type = type := by
  simpa using List.find?_some h

theorem status?_of_get? (h : conditions.get? type = some entry) :
    conditions.status? type = some entry.status := by
  rw [status?, h]
  rfl

theorem get?_eq_head?_ofType (conditions : Conditions) (type : String) :
    conditions.get? type = (conditions.ofType type).head? :=
  (List.head?_filter ..).symm

theorem count_types (conditions : Conditions) (type : String) :
    conditions.types.count type = (conditions.ofType type).length := by
  rw [types, List.count_eq_length_filter, List.filter_map, List.length_map, ofType]
  refine congrArg List.length (List.filter_congr fun entry _ => ?_)
  simp [Function.comp_apply, beq_eq_decide]

/-! ### One condition recorded -/

/-- The entry that comes of recording a condition, by the entry that its type had before. -/
def entered (new : Condition) (now : Instant) : Option Condition → Condition
  | none => { new with lastTransitionTime := some (new.lastTransitionTime.getD now) }
  | some old => old.observe new now

theorem verdict_entered (new : Condition) (now : Instant) (old? : Option Condition) :
    (entered new now old?).verdict = new.verdict := by
  cases old? with
  | none => rfl
  | some old => exact old.verdict_observe new now

theorem status_entered (new : Condition) (now : Instant) (old? : Option Condition) :
    (entered new now old?).status = new.status :=
  congrArg Verdict.status (verdict_entered new now old?)

theorem time_entered_some (old new : Condition) (now : Instant) :
    (entered new now (some old)).lastTransitionTime
      = if old.status = new.status then old.lastTransitionTime else some now := by
  rw [entered, Condition.observe]
  split <;> rfl

/-- The first entry of the type is replaced, and those behind it stay. -/
theorem ofType_set_self (new : Condition) (now : Instant) : ∀ conditions : Conditions,
    (conditions.set new now).ofType new.type
      = entered new now (conditions.get? new.type) :: (conditions.ofType new.type).tail
  | [] => by simp [set, ofType, entered, get?]
  | condition :: rest => by
    rw [set]
    split
    next h => simp [ofType, get?, h, Condition.type_observe h, entered]
    next h => simpa [ofType, get?, h] using ofType_set_self new now rest

theorem get?_set_self (new : Condition) (now : Instant) (conditions : Conditions) :
    (conditions.set new now).get? new.type
      = some (entered new now (conditions.get? new.type)) := by
  rw [get?_eq_head?_ofType, ofType_set_self, List.head?_cons]

/-- The types stay as they are, or a new one goes to the end. -/
theorem types_set (new : Condition) (now : Instant) : ∀ conditions : Conditions,
    (conditions.set new now).types
      = if new.type ∈ conditions.types then conditions.types else conditions.types ++ [new.type]
  | [] => rfl
  | condition :: rest => by
    rw [set]
    split
    next h => rw [types_cons, types_cons, Condition.type_observe h, h, if_pos List.mem_cons_self]
    next h =>
      rw [types_cons, types_set new now rest, types_cons]
      by_cases hmem : new.type ∈ types rest
      · rw [if_pos hmem, if_pos (List.mem_cons_of_mem _ hmem)]
      · have hnew : new.type ∉ condition.type :: types rest :=
          List.not_mem_cons_of_ne_of_not_mem (Ne.symm h) hmem
        rw [if_neg hmem, if_neg hnew, List.cons_append]

theorem types_delete (conditions : Conditions) (type : String) :
    (conditions.delete type).types = conditions.types.filter (· ≠ type) := by
  rw [types, types, delete, List.filter_map]
  rfl

theorem ofType_delete_self (conditions : Conditions) (type : String) :
    (conditions.delete type).ofType type = [] := by
  simp [ofType, delete, List.filter_filter]

theorem get?_delete_self (conditions : Conditions) (type : String) :
    (conditions.delete type).get? type = none := by
  rw [get?_eq_head?_ofType, ofType_delete_self, List.head?_nil]

/-! ### One edit -/

namespace Edit

/-- An edit records a condition or takes a type out. -/
theorem exists_recorded_or_eq_delete (edit : Edit) :
    (∃ new, edit.recorded? = some new ∧ edit.type = new.type ∧ ∀ (now : Instant)
      (conditions : Conditions), edit.apply now conditions = conditions.set new now) ∨
    edit = .delete edit.type := by
  cases edit with
  | set new => exact .inl ⟨new, rfl, rfl, fun _ _ => rfl⟩
  | markTrue type => exact .inl ⟨_, rfl, rfl, fun _ _ => rfl⟩
  | markFalse type reason severity message => exact .inl ⟨_, rfl, rfl, fun _ _ => rfl⟩
  | delete type => exact .inr rfl

/-- Other types are left alone. -/
theorem ofType_apply_of_ne (edit : Edit) (h : type ≠ edit.type) (now : Instant)
    (conditions : Conditions) :
    (edit.apply now conditions).ofType type = conditions.ofType type := by
  obtain ⟨new, -, htype, happly⟩ | hdelete := edit.exists_recorded_or_eq_delete
  · rw [happly, ofType_set_of_ne (htype ▸ h)]
  · rw [hdelete]
    exact ofType_delete_of_ne h conditions

theorem get?_apply_of_ne (edit : Edit) (h : type ≠ edit.type) (now : Instant)
    (conditions : Conditions) : (edit.apply now conditions).get? type = conditions.get? type := by
  rw [get?_eq_head?_ofType, edit.ofType_apply_of_ne h, get?_eq_head?_ofType]

/-- No type comes to a second entry. -/
theorem count_types_apply_le (edit : Edit) (now : Instant) (conditions : Conditions)
    (type : String) :
    (edit.apply now conditions).types.count type ≤ max 1 (conditions.types.count type) := by
  rw [count_types, count_types]
  by_cases htype : type = edit.type
  · obtain ⟨new, -, hnew, happly⟩ | hdelete := edit.exists_recorded_or_eq_delete
    · rw [happly, htype, hnew, ofType_set_self, List.length_cons, List.length_tail]
      omega
    · rw [htype, hdelete]
      have hnone := congrArg List.length (ofType_delete_self conditions edit.type)
      exact hnone.trans_le (Nat.zero_le _)
  · rw [edit.ofType_apply_of_ne htype]
    exact Nat.le_max_right ..

end Edit

/-! ### Runs -/

/-- What becomes of a list of conditions in a run of edits, each at its time. -/
def run (conditions : Conditions) (steps : List (Edit × Instant)) : Conditions :=
  steps.foldl (fun conditions step => step.1.apply step.2 conditions) conditions

theorem run_append (conditions : Conditions) (before after : List (Edit × Instant)) :
    conditions.run (before ++ after) = (conditions.run before).run after := List.foldl_append

theorem run_concat (conditions : Conditions) (steps : List (Edit × Instant)) (edit : Edit)
    (now : Instant) :
    conditions.run (steps ++ [(edit, now)]) = edit.apply now (conditions.run steps) :=
  run_append conditions steps [(edit, now)]

theorem count_types_run_le (conditions : Conditions) (steps : List (Edit × Instant))
    (type : String) :
    (conditions.run steps).types.count type ≤ max 1 (conditions.types.count type) := by
  induction steps using List.reverseRecOn with
  | nil => exact Nat.le_max_right ..
  | append_singleton steps step ih =>
    rw [run_concat]
    exact (step.1.count_types_apply_le step.2 _ type).trans
      (max_le (Nat.le_max_left ..) ih)

theorem ofType_run (conditions : Conditions) (h : ∀ step ∈ steps, step.1.type ≠ type) :
    (conditions.run steps).ofType type = conditions.ofType type := by
  induction steps generalizing conditions with
  | nil => rfl
  | cons step rest ih =>
    obtain ⟨hstep, hrest⟩ := List.forall_mem_cons.1 h
    exact (ih _ hrest).trans (step.1.ofType_apply_of_ne hstep.symm step.2 conditions)

/-- A run takes a type out. -/
def Deletes (steps : List (Edit × Instant)) (type : String) : Prop :=
  .delete type ∈ steps.map (·.1)

instance (steps : List (Edit × Instant)) : DecidablePred (Deletes steps) :=
  fun _ => inferInstanceAs (Decidable (_ ∈ _))

/-- A run records a condition of a type. -/
def Sets (steps : List (Edit × Instant)) (type : String) : Prop :=
  ∃ step ∈ steps, ∃ new, step.1.recorded? = some new ∧ new.type = type

theorem deletes_concat : Deletes (steps ++ [(edit, now)]) type ↔
    Deletes steps type ∨ edit = .delete type := by
  simp [Deletes, eq_comm]

theorem Sets.concat (h : Sets steps type) (step : Edit × Instant) :
    Sets (steps ++ [step]) type := by
  obtain ⟨earlier, hmem, hnew⟩ := h
  exact ⟨earlier, List.mem_append_left _ hmem, hnew⟩

/-- The types before a run and after it: those that are never taken out keep their order, and the
others go behind them, with one entry each. -/
structure Arranged (steps : List (Edit × Instant)) (before after added : List String) : Prop where
  eq : after = before.filter (¬ Deletes steps ·) ++ added
  nodup : added.Nodup
  sets : ∀ type ∈ added, Sets steps type
  fresh : ∀ type ∈ added, type ∉ before ∨ Deletes steps type

variable {before after added : List String}

theorem arranged_nil (types : List String) : Arranged [] types types [] where
  eq := by simp [Deletes]
  nodup := List.nodup_nil
  sets := List.forall_mem_nil _
  fresh := List.forall_mem_nil _

/-- A condition of a type that is there leaves the types alone. -/
theorem Arranged.recorded (h : Arranged steps before after added) (hnew : edit.recorded? = some new)
    (now : Instant) : Arranged (steps ++ [(edit, now)]) before after added := by
  have hdeletes : ∀ type, Deletes (steps ++ [(edit, now)]) type ↔ Deletes steps type := by
    intro type
    rw [deletes_concat, or_iff_left]
    rintro rfl
    cases hnew
  refine ⟨?_, h.nodup, fun type hmem => (h.sets type hmem).concat _, fun type hmem => ?_⟩
  · simp only [hdeletes]
    exact h.eq
  · rw [hdeletes]
    exact h.fresh type hmem

/-- A condition of a type that is not there adds the type. -/
theorem Arranged.inserted (h : Arranged steps before after added)
    (hnew : edit.recorded? = some new) (habsent : new.type ∉ after) (now : Instant) :
    Arranged (steps ++ [(edit, now)]) before (after ++ [new.type]) (added ++ [new.type]) := by
  have hrecorded := h.recorded hnew now
  have hnot := h.eq ▸ habsent
  rw [List.mem_append, not_or] at hnot
  refine ⟨?_, ?_, ?_, ?_⟩
  · rw [hrecorded.eq, List.append_assoc]
  · exact List.nodup_append.2 ⟨h.nodup, List.nodup_singleton _, by
      rintro type hmem _ hlast rfl
      exact hnot.2 (List.mem_singleton.1 hlast ▸ hmem)⟩
  · exact List.forall_mem_append.2 ⟨hrecorded.sets, List.forall_mem_singleton.2
      ⟨_, List.mem_append_right _ List.mem_cons_self, new, hnew, rfl⟩⟩
  · refine List.forall_mem_append.2 ⟨hrecorded.fresh, List.forall_mem_singleton.2 ?_⟩
    by_cases hbefore : new.type ∈ before
    · refine .inr (deletes_concat.2 (.inl ?_))
      by_contra hkept
      exact hnot.1 (List.mem_filter.2 ⟨hbefore, decide_eq_true hkept⟩)
    · exact .inl hbefore

theorem Arranged.deleted (h : Arranged steps before after added) (type : String) (now : Instant) :
    Arranged (steps ++ [(.delete type, now)]) before (after.filter (· ≠ type))
      (added.filter (· ≠ type)) := by
  refine ⟨?_, h.nodup.filter _, fun other hmem => ?_, fun other hmem => ?_⟩
  · rw [h.eq, List.filter_append, List.filter_filter]
    refine congrArg (· ++ _) (List.filter_congr fun other _ => ?_)
    simp [deletes_concat, and_comm, eq_comm]
  · exact (h.sets other (List.mem_of_mem_filter hmem)).concat _
  · exact (h.fresh other (List.mem_of_mem_filter hmem)).imp_right
      fun hdeletes => deletes_concat.2 (.inl hdeletes)

theorem exists_arranged (conditions : Conditions) (steps : List (Edit × Instant)) :
    ∃ added, Arranged steps conditions.types (conditions.run steps).types added := by
  induction steps using List.reverseRecOn with
  | nil => exact ⟨[], arranged_nil _⟩
  | append_singleton steps step ih =>
    obtain ⟨edit, now⟩ := step
    obtain ⟨added, harranged⟩ := ih
    rw [run_concat]
    obtain ⟨new, hnew, -, happly⟩ | hdelete := edit.exists_recorded_or_eq_delete
    · rw [happly, types_set]
      split
      next hmem => exact ⟨added, harranged.recorded hnew now⟩
      next habsent => exact ⟨_, harranged.inserted hnew habsent now⟩
    · rw [hdelete, Edit.apply, types_delete]
      exact ⟨_, harranged.deleted edit.type now⟩

/-! ### Times -/

/-- A type has a status throughout a run. -/
def Keeps (conditions : Conditions) (steps : List (Edit × Instant)) (type : String)
    (status : ConditionStatus) : Prop :=
  ∀ before, before <+: steps → (conditions.run before).status? type = some status

theorem keeps_nil (h : conditions.status? type = some status) :
    conditions.Keeps [] type status := by
  intro before hprefix
  rw [List.prefix_nil.1 hprefix]
  exact h

theorem Keeps.concat (h : conditions.Keeps steps type status) {step : Edit × Instant}
    (hstep : (conditions.run (steps ++ [step])).status? type = some status) :
    conditions.Keeps (steps ++ [step]) type status := by
  intro before hprefix
  rcases List.prefix_concat_iff.1 hprefix with rfl | hearlier
  · exact hstep
  · exact h before hearlier

/-- An edit inserts an entry or gives it another status, and the time of the entry says when. -/
inductive Turns (edit : Edit) (now : Instant) (entry : Condition) : Option Condition → Prop
  /-- The entry is new: it has the time that its condition brings, or else the current one. -/
  | inserted {new : Condition} (hnew : edit.recorded? = some new)
      (htime : entry.lastTransitionTime = some (new.lastTransitionTime.getD now)) :
      Turns edit now entry none
  /-- The status is new: the entry has the current time. -/
  | changed {old : Condition} (hstatus : old.status ≠ entry.status)
      (htime : entry.lastTransitionTime = some now) : Turns edit now entry (some old)

theorem Turns.congr {other : Condition} {old? : Option Condition} (h : Turns edit now entry old?)
    (hstatus : other.status = entry.status)
    (htime : other.lastTransitionTime = entry.lastTransitionTime) : Turns edit now other old? := by
  cases h with
  | inserted hnew hentry => exact .inserted hnew (htime.trans hentry)
  | changed hold hentry => exact .changed (hstatus ▸ hold) (htime.trans hentry)

/-- What the time of an entry goes back to in a run. -/
inductive Dates (conditions : Conditions) (entry : Condition) : List (Edit × Instant) → Prop
  /-- The type has had its status all along, and has its time from before the run. -/
  | initial {steps : List (Edit × Instant)} {first : Condition}
      (hfirst : conditions.get? entry.type = some first)
      (htime : entry.lastTransitionTime = first.lastTransitionTime)
      (hkeeps : conditions.Keeps steps entry.type entry.status) : Dates conditions entry steps
  /-- The type has had its status since an edit of the run. -/
  | turned {before after : List (Edit × Instant)} {edit : Edit} {now : Instant}
      (hturns : Turns edit now entry ((conditions.run before).get? entry.type))
      (hkeeps : (conditions.run (before ++ [(edit, now)])).Keeps after entry.type entry.status) :
      Dates conditions entry (before ++ (edit, now) :: after)

/-- An edit that leaves the status and the time of an entry leaves what the time goes back to. -/
theorem Dates.concat {old : Condition} (h : Dates conditions old steps) {step : Edit × Instant}
    (hentry : (conditions.run (steps ++ [step])).get? entry.type = some entry)
    (htype : entry.type = old.type) (hstatus : entry.status = old.status)
    (htime : entry.lastTransitionTime = old.lastTransitionTime) :
    Dates conditions entry (steps ++ [step]) := by
  have hnow : (conditions.run (steps ++ [step])).status? old.type = some old.status :=
    htype ▸ hstatus ▸ status?_of_get? hentry
  cases h with
  | initial hfirst hfirstTime hkeeps =>
    refine .initial (htype ▸ hfirst) (htime.trans hfirstTime) ?_
    rw [htype, hstatus]
    exact hkeeps.concat hnow
  | @turned before after edit now hturns hkeeps =>
    rw [List.append_assoc, List.cons_append] at hnow ⊢
    refine .turned (htype ▸ hturns.congr hstatus htime) ?_
    rw [htype, hstatus]
    refine hkeeps.concat ?_
    rwa [← run_append, List.append_assoc, List.singleton_append]

theorem dates_run (conditions : Conditions) (steps : List (Edit × Instant)) {entry : Condition}
    (hentry : (conditions.run steps).get? entry.type = some entry) :
    Dates conditions entry steps := by
  induction steps using List.reverseRecOn generalizing entry with
  | nil => exact .initial hentry rfl (keeps_nil (status?_of_get? hentry))
  | append_singleton steps step ih =>
    obtain ⟨edit, now⟩ := step
    have hkeeps := keeps_nil (status?_of_get? hentry)
    have hafter := hentry
    rw [run_concat] at hafter
    by_cases htype : edit.type = entry.type
    · obtain ⟨new, hnew, hedit, happly⟩ | hdelete := edit.exists_recorded_or_eq_delete
      · rw [happly, ← htype, hedit, get?_set_self, Option.some.injEq, ← hedit, htype] at hafter
        have hstatus : entry.status = new.status := hafter ▸ status_entered new now _
        cases hold : (conditions.run steps).get? entry.type with
        | none =>
          rw [hold] at hafter
          exact .turned (hold ▸ .inserted hnew (congrArg (·.lastTransitionTime) hafter.symm)) hkeeps
        | some old =>
          have htime := time_entered_some old new now
          rw [hold] at hafter
          rw [hafter] at htime
          by_cases hsame : old.status = new.status
          · rw [if_pos hsame] at htime
            have hsameType := type_of_get? hold
            have hdates := ih (hsameType ▸ hold)
            exact hdates.concat hentry hsameType.symm (hstatus.trans hsame.symm) htime
          · rw [if_neg hsame] at htime
            exact .turned (hold ▸ .changed (hstatus ▸ hsame) htime) hkeeps
      · rw [hdelete, ← htype] at hafter
        cases hafter.symm.trans (get?_delete_self _ edit.type)
    · rw [edit.get?_apply_of_ne (Ne.symm htype)] at hafter
      exact (ih hafter).concat hentry rfl rfl rfl

/-- What an edit makes of a list of conditions. Other types are left alone. A condition is recorded
in the first entry of its type, or else at the end; the entry keeps its time as long as it keeps its
status. Or else the entries of a type are taken out. -/
structure Edits (edit : Edit) (now : Instant) (old next : Conditions) : Prop where
  others : ∀ type, type ≠ edit.type → next.ofType type = old.ofType type
  recorded : ∀ new, edit.recorded? = some new →
    next.types = (if new.type ∈ old.types then old.types else old.types ++ [new.type]) ∧
    ∃ entry, next.ofType new.type = entry :: (old.ofType new.type).tail ∧
      entry.verdict = new.verdict ∧
      entry.lastTransitionTime = match old.get? new.type with
        | none => some (new.lastTransitionTime.getD now)
        | some first =>
          if first.status = new.status then first.lastTransitionTime else some now
  deleted : edit.recorded? = none → next.types = old.types.filter (· ≠ edit.type)

theorem edits_apply (edit : Edit) (now : Instant) (conditions : Conditions) :
    Edits edit now conditions (edit.apply now conditions) where
  others _ h := edit.ofType_apply_of_ne h now conditions
  recorded new hnew := by
    obtain ⟨new, hsome, -, happly⟩ | hdelete := edit.exists_recorded_or_eq_delete
    · cases hsome.symm.trans hnew
      rw [happly]
      refine ⟨types_set new now conditions, _, ofType_set_self new now conditions,
        verdict_entered new now _, ?_⟩
      cases conditions.get? new.type with
      | none => rfl
      | some first => exact time_entered_some first new now
    · rw [hdelete] at hnew
      cases hnew
  deleted hnone := by
    obtain ⟨new, hsome, -⟩ | hdelete := edit.exists_recorded_or_eq_delete
    · cases hsome.symm.trans hnone
    · rw [hdelete]
      exact types_delete conditions edit.type

/-- In every run of edits, no type comes to a second entry, so distinct types stay distinct. Types
that are never taken out keep their order, and the others go behind them; types that no edit is
about keep all their entries. Each edit does what it is to do to the list that it meets. At the end,
the time of a type is the one of the last edit that inserted the type or changed its status, or the
one it had before the run if there was no such edit. -/
theorem edits_keep_places_and_times (conditions : Conditions) (steps : List (Edit × Instant)) :
    (∀ type, (conditions.run steps).types.count type ≤ max 1 (conditions.types.count type)) ∧
    (conditions.types.Nodup → (conditions.run steps).types.Nodup) ∧
    (∃ added, Arranged steps conditions.types (conditions.run steps).types added) ∧
    (∀ type, (∀ step ∈ steps, step.1.type ≠ type) →
      (conditions.run steps).ofType type = conditions.ofType type) ∧
    (∀ (before : List (Edit × Instant)) (edit : Edit) (now : Instant),
      before ++ [(edit, now)] <+: steps →
      Edits edit now (conditions.run before) (conditions.run (before ++ [(edit, now)]))) ∧
    ∀ entry, (conditions.run steps).get? entry.type = some entry →
      Dates conditions entry steps := by
  refine ⟨count_types_run_le conditions steps, fun hnodup => ?_, exists_arranged conditions steps,
    fun type => ofType_run conditions, fun before edit now _ => ?_,
    fun entry => dates_run conditions steps⟩
  · refine List.nodup_iff_count_le_one.2 fun type => ?_
    exact (count_types_run_le conditions steps type).trans
      (max_le (Nat.le_refl 1) (List.nodup_iff_count_le_one.1 hnodup type))
  · rw [run_concat]
    exact edits_apply edit now (conditions.run before)

end ClusterInfra.Conditions

namespace ClusterInfra.Sample

/-- Conditions off the wire: one has no time, and one type is there twice. -/
def repeated : Conditions :=
  [.holds "A", { Condition.fails "B" "Broken" .error "" with lastTransitionTime := some newYear },
    .holds "B"]

/-- Edits of which the first two repeat a status, and the last one changes it. -/
def edits : List (Conditions.Edit × Instant) :=
  [(.set { Condition.holds "A" with lastTransitionTime := some newYear }, noon),
    (.markFalse "B" "Slow" .info "wait", noon), (.markTrue "B", noon)]

end ClusterInfra.Sample

namespace ClusterInfra.Conditions

/-- A condition without a time stays without one while its status is repeated; the other type gets
the time of the edit that changes its status. -/
theorem sample_edits_keep_places_and_times :
    (∃ edit now, Edits edit now Sample.repeated (Sample.repeated.run [(edit, now)]) ∧
      [(edit, now)] <+: Sample.edits) ∧
    ∃ a b, (Sample.repeated.run Sample.edits).get? "A" = some a ∧
      a.lastTransitionTime = none ∧ Dates Sample.repeated a Sample.edits ∧
      (Sample.repeated.run Sample.edits).get? "B" = some b ∧
      b.lastTransitionTime = some Sample.noon ∧ Dates Sample.repeated b Sample.edits := by
  obtain ⟨-, -, -, -, hedits, hdates⟩ :=
    edits_keep_places_and_times Sample.repeated Sample.edits
  refine ⟨⟨_, _, hedits [] _ _ ⟨_, rfl⟩, ⟨_, rfl⟩⟩, .holds "A",
    { Condition.holds "B" with lastTransitionTime := some Sample.noon }, by decide, rfl,
    hdates _ (by decide), by decide, rfl, hdates _ (by decide)⟩

end ClusterInfra.Conditions
