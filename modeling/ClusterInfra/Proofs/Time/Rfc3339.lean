import ClusterInfra.Time.Rfc3339
import Mathlib.Algebra.Group.Nat.Defs
/-!
The text of an instant reads back as the instant.

A text is read part by part, so there is one lemma for each part: given the part and whatever stands
behind it, the reader takes the part off and leaves the rest. Numbers are written with a fixed count
of digits, which is what tells a reader where they end.
-/

namespace ClusterInfra.Text

theorem Scan.bind_of_eq {α β : Type} {scan : Scan α} {next : α → Scan β} {value : α}
    {cs rest : List Char} (h : scan cs = some (value, rest)) :
    (scan >>= next) cs = next value rest := by
  simp only [bind, StateT.bind, h, Option.bind_some]

theorem Scan.bind_get {β : Type} (next : List Char → Scan β) (cs : List Char) :
    (get >>= next) cs = next cs cs :=
  rfl

theorem Scan.bind_liftM_some {α β : Type} (value : α) (next : α → Scan β) (cs : List Char) :
    ((liftM (some value) : Scan α) >>= next) cs = next value cs :=
  rfl

theorem Scan.next_cons {test : Char → Bool} {c : Char} (hc : test c = true) (rest : List Char) :
    next test (c :: rest) = some (c, rest) :=
  if_pos hc

theorem decimalValue_append (front back : List Char) : decimalValue (front ++ back)
    = back.foldl (fun n c => n * 10 + (c.toNat - '0'.toNat)) (decimalValue front) := by
  rw [decimalValue, List.foldl_append, decimalValue]

/-- Zeros behind a number are factors of ten. -/
theorem decimalValue_append_zeros (digits : List Char) : ∀ count : Nat,
    decimalValue (digits ++ List.replicate count '0') = decimalValue digits * 10 ^ count
  | 0 => by simp
  | count + 1 => by
    rw [List.replicate_succ', ← List.append_assoc, decimalValue_append, List.foldl_cons,
      List.foldl_nil, decimalValue_append_zeros digits count, Nat.sub_self, Nat.add_zero,
      Nat.pow_succ, Nat.mul_assoc]

end ClusterInfra.Text

namespace ClusterInfra.Rfc3339

open Text (Scan decimalValue skipBlanks isBlank)
open Text.Scan (blanks next)

/-! ### Digits -/

theorem lastDigit_spec (n : Nat) :
    (lastDigit n).isDigit = true ∧ (lastDigit n).toNat - '0'.toNat = n % 10 := by
  have hall : ∀ d < 10, (Char.ofNat ('0'.toNat + d)).isDigit = true ∧
      (Char.ofNat ('0'.toNat + d)).toNat - '0'.toNat = d := by decide
  exact hall (n % 10) (Nat.mod_lt n (by decide))

theorem length_fixedDigits : ∀ width n : Nat, (fixedDigits width n).length = width
  | 0, _ => rfl
  | width + 1, n => by rw [fixedDigits, List.length_append, length_fixedDigits, List.length_singleton]

theorem isDigit_of_mem_fixedDigits : ∀ {width n : Nat}, ∀ c ∈ fixedDigits width n, c.isDigit = true
  | width + 1, n, c, hmem => by
    rcases List.mem_append.1 hmem with hmem | hmem
    · exact isDigit_of_mem_fixedDigits c hmem
    · cases List.mem_singleton.1 hmem
      exact (lastDigit_spec n).1

/-- So many digits hold the number up to that power of ten. -/
theorem decimalValue_fixedDigits : ∀ width n : Nat,
    decimalValue (fixedDigits width n) = n % 10 ^ width
  | 0, n => by simp [fixedDigits, decimalValue, Nat.mod_one]
  | width + 1, n => by
    rw [fixedDigits, Text.decimalValue_append, decimalValue_fixedDigits width, List.foldl_cons,
      List.foldl_nil, (lastDigit_spec n).2, Nat.pow_succ', Nat.mod_mul]
    omega

variable {n width : Nat} {rest : List Char}

theorem isEmpty_fixedDigits (hwidth : width ≠ 0) : (fixedDigits width n).isEmpty = false := by
  have hlength := length_fixedDigits width n
  rw [List.isEmpty_eq_false_iff, ← List.length_pos_iff]
  omega

theorem takeWhile_fixedDigits (hrest : rest.takeWhile Char.isDigit = []) :
    (fixedDigits width n ++ rest).takeWhile Char.isDigit = fixedDigits width n := by
  rw [List.takeWhile_append_of_pos isDigit_of_mem_fixedDigits, hrest, List.append_nil]

/-- A reader of so many digits takes just them. -/
theorem digits_some (hwidth : width ≠ 0) :
    digits (some width) (fixedDigits width n ++ rest) = some (fixedDigits width n, rest) := by
  have htake : (fixedDigits width n ++ rest).take width = fixedDigits width n ++ [] := by
    rw [List.append_nil, List.take_left' (length_fixedDigits width n)]
  simp only [digits, Option.elim, htake, takeWhile_fixedDigits List.takeWhile_nil,
    isEmpty_fixedDigits hwidth, Bool.false_eq_true, if_false, List.drop_left]

/-- A reader of all digits stops in front of what is none. -/
theorem digits_none (hwidth : width ≠ 0) (hrest : rest.takeWhile Char.isDigit = []) :
    digits none (fixedDigits width n ++ rest) = some (fixedDigits width n, rest) := by
  simp only [digits, Option.elim, takeWhile_fixedDigits hrest, isEmpty_fixedDigits hwidth,
    Bool.false_eq_true, if_false, List.drop_left]

theorem isBlank_of_isDigit {c : Char} (h : c.isDigit = true) : isBlank c = false := by
  simp only [Char.isDigit, Bool.and_eq_true, decide_eq_true_eq] at h
  have hlow := UInt32.le_iff_toNat_le.mp h.1
  have hhigh := UInt32.le_iff_toNat_le.mp h.2
  simp only [isBlank, Text.blankCodes, Char.toNat] at *
  simp at *
  omega

/-- There is nothing to skip in front of what is not white space. -/
theorem blanks_cons {c : Char} (hc : isBlank c = false) :
    blanks (c :: rest) = some ((), c :: rest) := by
  rw [blanks, skipBlanks, List.dropWhile_cons_of_neg (by simp [hc])]

theorem blanks_nil : blanks [] = some ((), []) := rfl

theorem exists_fixedDigits_eq_cons (hwidth : width ≠ 0) :
    ∃ c others, fixedDigits width n = c :: others ∧ c.isDigit = true := by
  obtain ⟨c, others, hdigits⟩ : ∃ c others, fixedDigits width n = c :: others := by
    refine List.exists_cons_of_length_pos ?_
    rw [length_fixedDigits]
    omega
  exact ⟨c, others, hdigits, isDigit_of_mem_fixedDigits c (by rw [hdigits]; exact List.mem_cons_self)⟩

theorem blanks_fixedDigits (hwidth : width ≠ 0) :
    blanks (fixedDigits width n ++ rest) = some ((), fixedDigits width n ++ rest) := by
  obtain ⟨c, others, hdigits, hc⟩ := exists_fixedDigits_eq_cons (n := n) hwidth
  rw [hdigits, List.cons_append, blanks_cons (isBlank_of_isDigit hc)]

/-! ### Parts -/

theorem number_fixedDigits (hwidth : width ≠ 0) (hn : n < 10 ^ width) :
    number width (fixedDigits width n ++ rest) = some (n, rest) := by
  rw [number, Scan.bind_of_eq (blanks_fixedDigits hwidth), Scan.bind_of_eq (digits_some hwidth),
    decimalValue_fixedDigits, Nat.mod_eq_of_lt hn]
  rfl

theorem separator_cons {c : Char} (hc : isBlank c = false) :
    separator c (c :: rest) = some ((), rest) := by
  rw [separator, Scan.bind_of_eq (blanks_cons hc), Scan.bind_of_eq (Scan.next_cons (by simp) rest)]
  rfl

theorem natAbs_lt_of_yearInRange {y : Int} (hy : yearInRange y = true) : y.natAbs < 10 ^ 6 := by
  simp only [yearInRange, Bool.and_eq_true, decide_eq_true_eq] at hy
  omega

/-- The width of a year is enough for it. -/
theorem yearText_eq {y : Int} (hy : yearInRange y = true) : ∃ width, width ≠ 0 ∧
    y.natAbs < 10 ^ width ∧ yearText y = (if y < 0 then ['-'] else if 9999 < y then ['+'] else [])
      ++ fixedDigits width y.natAbs ∧ (0 ≤ y → y ≤ 9999 → width = 4) := by
  have hsize := natAbs_lt_of_yearInRange hy
  refine ⟨if y.natAbs < 10000 then 4 else if y.natAbs < 100000 then 5 else 6, ?_, ?_, rfl, ?_⟩
  · split
    · decide
    · split <;> decide
  · split
    next h => exact h
    next =>
      split
      next h => exact h
      next => exact hsize
  · intro hlow hhigh
    exact if_pos (by omega)

/-- The year has enough digits, and a sign where it has more than four. -/
theorem year_yearText {y : Int} (hy : yearInRange y = true)
    (hrest : rest.takeWhile Char.isDigit = []) :
    year (yearText y ++ rest) = some (y, rest) := by
  obtain ⟨width, hwidth, hsize, htext, hfour⟩ := yearText_eq hy
  have hvalue : decimalValue (fixedDigits width y.natAbs) = y.natAbs := by
    rw [decimalValue_fixedDigits, Nat.mod_eq_of_lt hsize]
  rw [htext, year]
  split
  next hneg =>
    rw [List.append_assoc, List.singleton_append, Scan.bind_of_eq (blanks_cons (by decide))]
    have hnatAbs : -(y.natAbs : Int) = y := by omega
    rw [Scan.bind_get, List.head?_cons]
    simp only
    rw [Scan.bind_of_eq (Scan.next_cons rfl _), Scan.bind_of_eq (digits_none hwidth hrest), hvalue,
      hnatAbs]
    rfl
  next hneg =>
    split
    next hlarge =>
      rw [List.append_assoc, List.singleton_append, Scan.bind_of_eq (blanks_cons (by decide))]
      have hnatAbs : (y.natAbs : Int) = y := by omega
      rw [Scan.bind_get, List.head?_cons]
      simp only
      rw [Scan.bind_of_eq (Scan.next_cons rfl _), Scan.bind_of_eq (digits_none hwidth hrest), hvalue,
        hnatAbs]
      rfl
    next hsmall =>
      obtain rfl := hfour (by omega) (by omega)
      obtain ⟨c, others, hdigits, hc⟩ := exists_fixedDigits_eq_cons (n := y.natAbs) hwidth
      have hread : digits (some 4) (fixedDigits 4 y.natAbs ++ rest)
          = some (fixedDigits 4 y.natAbs, rest) := digits_some hwidth
      rw [List.nil_append, Scan.bind_of_eq (blanks_fixedDigits hwidth), Scan.bind_get]
      rw [hdigits, List.cons_append] at hread ⊢
      rw [List.head?_cons]
      -- a digit is no sign
      generalize hhead : some c = head
      split
      next => cases hhead; cases hc
      next => cases hhead; cases hc
      next =>
        have hnatAbs : (y.natAbs : Int) = y := by omega
        rw [Scan.bind_of_eq hread, ← hdigits, hvalue, hnatAbs]
        rfl

/-- Reading scales a fraction of up to nine digits to nanoseconds. -/
theorem fraction_fixedDigits (hwidth : width ≠ 0) (hn : n < 10 ^ width) {nano : Nat}
    (hnano : nano = n * 10 ^ (9 - width)) (hle : width ≤ 9)
    (hrest : rest.takeWhile Char.isDigit = []) :
    fraction ('.' :: (fixedDigits width n ++ rest)) = some (nano, rest) := by
  have hlength := length_fixedDigits width n
  have htake : (fixedDigits width n ++ List.replicate 9 '0').take 9
      = fixedDigits width n ++ List.replicate (9 - width) '0' := by
    rw [List.take_append, hlength, List.take_of_length_le (by omega), List.take_replicate]
    congr 2
    omega
  have hvalue : decimalValue ((fixedDigits width n ++ List.replicate 9 '0').take 9) = nano := by
    rw [htake, Text.decimalValue_append_zeros, decimalValue_fixedDigits, Nat.mod_eq_of_lt hn, hnano]
  rw [fraction, Scan.bind_get, List.head?_cons]
  simp only
  rw [Scan.bind_of_eq (Scan.next_cons rfl _), Scan.bind_of_eq (digits_none hwidth hrest), hvalue]
  rfl

/-- A fraction has enough digits. -/
theorem fraction_fractionText (hn : n < 10 ^ 9) :
    fraction (fractionText n ++ 'Z' :: rest) = some (n, 'Z' :: rest) := by
  have hrest : ('Z' :: rest).takeWhile Char.isDigit = [] := rfl
  rw [fractionText]
  split
  next h => rw [h]; rfl
  next =>
    split
    next h => exact fraction_fixedDigits (by decide) (by omega) (by omega) (by decide) hrest
    next =>
      split
      next h => exact fraction_fixedDigits (by decide) (by omega) (by omega) (by decide) hrest
      next => exact fraction_fixedDigits (by decide) hn (by omega) (by decide) hrest

theorem offset_zulu : offset ['Z'] = some (0, []) := by rfl

end ClusterInfra.Rfc3339

namespace ClusterInfra

theorem Date.of?_eq (date : Date) : Date.of? date.year date.month date.day = some date :=
  dif_pos date.isDate

theorem Instant.of?_eq (t : Instant) :
    Instant.of? t.date t.hour t.minute t.second t.nano = some t :=
  dif_pos t.isTimeOfDay

/-- A time in UTC stays what it is. -/
theorem Instant.toUtc?_zero (t : Instant) : t.toUtc? 0 = some t := by
  obtain ⟨hhour, hminute, -⟩ := t.isTimeOfDay
  have hdate : ¬(t.hour * 60 + t.minute - 0 : Int) < 0 ∧
      (t.hour * 60 + t.minute - 0 : Int) < 1440 := by
    omega
  have hday : ((t.hour * 60 + t.minute - 0 : Int) % 1440).toNat = t.hour * 60 + t.minute := by omega
  have hhour' : (t.hour * 60 + t.minute) / 60 = t.hour := by omega
  have hminute' : (t.hour * 60 + t.minute) % 60 = t.minute := by omega
  rw [toUtc?]
  simp only [if_neg hdate.1, if_pos hdate.2, Option.bind_some, hday, hhour', hminute']
  exact t.of?_eq

/-- The text of an instant reads back as the instant. -/
theorem Rfc3339.read?_write (t : Instant) : read? (write t) = some t := by
  obtain ⟨hyear, ⟨-, hmonth⟩, -, hday⟩ := t.date.isDate
  obtain ⟨hhour, hminute, hsecond, hnano⟩ := t.isTimeOfDay
  have hdays : t.date.day < 10 ^ 2 := by
    have : daysInMonth t.date.year t.date.month ≤ 31 := by
      rw [daysInMonth]
      split
      · split <;> decide
      · split <;> decide
    omega
  have hscan : instant (chars t) = some (t, []) := by
    simp only [chars, List.append_assoc, List.cons_append]
    rw [instant, Text.Scan.bind_of_eq (year_yearText hyear rfl),
      Text.Scan.bind_of_eq (separator_cons (by decide)),
      Text.Scan.bind_of_eq (number_fixedDigits (by decide) (by omega)),
      Text.Scan.bind_of_eq (separator_cons (by decide)),
      Text.Scan.bind_of_eq (number_fixedDigits (by decide) hdays),
      Text.Scan.bind_of_eq (Text.Scan.next_cons rfl _),
      Text.Scan.bind_of_eq (number_fixedDigits (by decide) (by omega)),
      Text.Scan.bind_of_eq (separator_cons (by decide)),
      Text.Scan.bind_of_eq (number_fixedDigits (by decide) (by omega)),
      Text.Scan.bind_of_eq (separator_cons (by decide)),
      Text.Scan.bind_of_eq (number_fixedDigits (by decide) (by omega)),
      Text.Scan.bind_of_eq (fraction_fractionText hnano),
      Text.Scan.bind_of_eq (blanks_cons (by decide)), Text.Scan.bind_of_eq offset_zulu,
      Text.Scan.bind_of_eq blanks_nil, t.date.of?_eq, Text.Scan.bind_liftM_some, t.of?_eq,
      Text.Scan.bind_liftM_some, t.toUtc?_zero]
    rfl
  rw [read?, Text.Scan.all?, write, String.toList_ofList, hscan]

end ClusterInfra
