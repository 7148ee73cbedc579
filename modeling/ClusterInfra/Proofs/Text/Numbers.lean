import ClusterInfra.Json.Pointer
import ClusterInfra.Text.Numeral
/-!
Numbers that are written in decimal and read back.

The digits of a number have no leading zero, so they are the token of a list index, and a number
below the bound of a numeral is what reading its text gives.
-/

namespace ClusterInfra.Text

theorem decimalValue_toDigits (n : Nat) : decimalValue (Nat.toDigits 10 n) = n := by
  have h := Nat.ofDigitChars_ten_toDigits (n := n)
  rw [Nat.ofDigitChars_eq_foldl] at h
  simpa only [decimalValue, Nat.mul_comm] using h

/-- Only zero begins with a zero. -/
theorem head?_toDigits_ne_zero : ∀ {n : Nat}, n ≠ 0 → (Nat.toDigits 10 n).head? ≠ some '0' := by
  intro n
  induction n using Nat.strongRecOn with
  | ind n ih =>
    intro hn
    rw [Nat.toDigits_eq_if (by decide)]
    split
    next hlt =>
      rw [List.head?_cons, ne_eq, Option.some.injEq, Nat.digitChar_eq_zero]
      exact hn
    next hge =>
      have hdiv : n / 10 ≠ 0 := by omega
      rw [List.head?_append, Option.or_of_isSome (by simp [Nat.toDigits_ne_nil])]
      exact ih (n / 10) (by omega) hdiv

theorem digit?_eq_some_of_isDigit {c : Char} (h : c.isDigit = true) :
    digit? 10 c = some (c.toNat - '0'.toNat) := by
  have hlt : c.toNat - '0'.toNat < 10 := by
    simp only [Char.isDigit, Bool.and_eq_true, decide_eq_true_eq] at h
    have := UInt32.le_iff_toNat_le.mp h.2
    simp only [Char.toNat] at this ⊢
    simp at this ⊢
    omega
  simp only [digit?, h, if_true, Option.filter_some, hlt, decide_true]

theorem le_ofDigitChars : ∀ (digits : List Char) (n : Nat), n ≤ Nat.ofDigitChars 10 digits n
  | [], n => by simp
  | c :: rest, n => by
    rw [Nat.ofDigitChars_cons]
    exact Nat.le_trans (by omega) (le_ofDigitChars rest _)

theorem Numeral.readDigits_eq_ok {bound : Nat} : ∀ {digits : List Char} {n : Nat},
    (∀ c ∈ digits, c.isDigit = true) → Nat.ofDigitChars 10 digits n < bound →
      readDigits bound n digits = .ok (Nat.ofDigitChars 10 digits n)
  | [], n, _, _ => by simp [readDigits]
  | c :: rest, n, hdigits, hlt => by
    rw [Nat.ofDigitChars_cons, Nat.mul_comm] at hlt ⊢
    have hstep := Nat.lt_of_le_of_lt (le_ofDigitChars rest _) hlt
    rw [readDigits, digit?_eq_some_of_isDigit (hdigits c List.mem_cons_self)]
    simp only [hstep, if_true]
    exact readDigits_eq_ok (fun d hd => hdigits d (List.mem_cons_of_mem c hd)) hlt

/-- A number below the bound is read back from its text. -/
theorem Numeral.read_toString {bound n : Nat} (h : n < bound) : read bound (toString n) = .ok n := by
  have hdigits : ∀ c ∈ Nat.toDigits 10 n, c.isDigit = true := fun c hc =>
    Nat.isDigit_of_mem_toDigits (by decide) (by decide) hc
  have hread : readDigits bound 0 (Nat.toDigits 10 n) = .ok n := by
    rw [readDigits_eq_ok hdigits (by simpa using h), Nat.ofDigitChars_ten_toDigits]
  rw [read, Nat.toString_eq_repr, Nat.toList_repr]
  split
  next hnil => exact absurd hnil Nat.toDigits_ne_nil
  next hplus => exact absurd (hdigits '+' (by rw [hplus]; simp)) (by decide)
  next rest _ hplus => exact absurd (hdigits '+' (by rw [hplus]; simp)) (by decide)
  next => exact hread

end ClusterInfra.Text

namespace ClusterInfra.Json

/-- The text of a number is the token of that index. -/
theorem index?_toString (n : Nat) : index? (toString n) = some n := by
  have hdigits : (Nat.toDigits 10 n).all Char.isDigit = true :=
    List.all_eq_true.mpr fun c hc => Nat.isDigit_of_mem_toDigits (by decide) (by decide) hc
  have hempty : (Nat.toDigits 10 n).isEmpty = false := by
    simp [Nat.toDigits_ne_nil]
  rw [index?, Nat.toString_eq_repr, Nat.toList_repr]
  simp only [hempty, hdigits, Bool.not_true, Bool.or_self, Bool.false_eq_true, if_false,
    Text.decimalValue_toDigits]
  rcases Nat.eq_zero_or_pos n with rfl | hpos
  · simp
  · have hhead := Text.head?_toDigits_ne_zero (n := n) (by omega)
    simp [hhead]

end ClusterInfra.Json
