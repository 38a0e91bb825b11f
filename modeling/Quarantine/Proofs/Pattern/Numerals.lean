import Quarantine.Proofs.Pattern.Words

/-!
# Numerals as words

A set of digits is read after a numeral, and the two are the numeral of a larger number.  So
the words of digits one after the other are those of the numbers that a condition on their
places picks out.

    numerals P * letters [a-b]  =  numerals (fun n => P (n / 10) ∧ a ≤ n % 10 ∧ n % 10 ≤ b)
    words of octet              =  numerals (· ≤ 255)
-/

namespace Quarantine.Pattern

open Quarantine.Text

/-- The numbers of which a condition holds, written out. -/
def numerals (P : Nat → Prop) : Language Char := {w | ∃ n, P n ∧ w = Nat.toDigits 10 n}

/-- The numbers from one to another, written out. -/
def numeralsFrom (lo hi : Nat) : Language Char := numerals fun n => lo ≤ n ∧ n ≤ hi

/-- The digits from one to another. -/
def digitsFrom (a b : Nat) : CharSet := ⟨[(48 + a, 48 + b)]⟩

theorem mem_numerals_iff {P : Nat → Prop} {w : List Char} :
    w ∈ numerals P ↔ ∃ n, P n ∧ w = Nat.toDigits 10 n := Iff.rfl

theorem numerals_congr {P Q : Nat → Prop} (h : ∀ n, P n ↔ Q n) : numerals P = numerals Q :=
  congrArg numerals (funext fun n => propext (h n))

theorem numerals_add (P Q : Nat → Prop) :
    numerals P + numerals Q = numerals fun n => P n ∨ Q n := by
  ext w
  simp only [Language.mem_add, mem_numerals_iff, or_and_right, exists_or]

/-! ## Digits -/

section

variable {a b : Nat} (hb : b < 10)

include hb

theorem contains_digitsFrom_iff {c : Char} :
    (digitsFrom a b).contains c = true ↔ ∃ d, a ≤ d ∧ d ≤ b ∧ c = Nat.digitChar d := by
  have hrange : (digitsFrom a b).contains c = true ↔ 48 + a ≤ c.toNat ∧ c.toNat ≤ 48 + b := by
    simp only [digitsFrom, CharSet.contains, CharSet.inRanges]
    split
    · simp only [Bool.false_eq_true, false_iff]
      omega
    · simp only [Bool.or_false, decide_eq_true_eq]
      omega
  rw [hrange]
  constructor
  · rintro ⟨hle, hge⟩
    refine ⟨c.toNat - 48, by omega, by omega, Char.toNat_inj.1 ?_⟩
    rw [Nat.toNat_digitChar_of_lt_ten (by omega)]
    omega
  · rintro ⟨d, hle, hge, rfl⟩
    rw [Nat.toNat_digitChar_of_lt_ten (by omega)]
    omega

theorem letters_digitsFrom : letters (digitsFrom a b) = numeralsFrom a b := by
  ext w
  rw [mem_letters_iff, numeralsFrom, mem_numerals_iff]
  constructor
  · rintro ⟨c, hc, rfl⟩
    obtain ⟨d, hle, hge, rfl⟩ := (contains_digitsFrom_iff hb).1 hc
    exact ⟨d, ⟨hle, hge⟩, (Nat.toDigits_of_lt_base (by omega)).symm⟩
  · rintro ⟨d, ⟨hle, hge⟩, rfl⟩
    exact ⟨Nat.digitChar d, (contains_digitsFrom_iff hb).2 ⟨d, hle, hge, rfl⟩,
      Nat.toDigits_of_lt_base (by omega)⟩

/-- A digit after the numeral of a number that is not zero. -/
theorem numerals_mul_letters {P : Nat → Prop} (hP : ∀ n, P n → 0 < n) :
    numerals P * letters (digitsFrom a b) =
      numerals fun n => P (n / 10) ∧ a ≤ n % 10 ∧ n % 10 ≤ b := by
  ext w
  rw [Language.mem_mul, mem_numerals_iff, letters_digitsFrom hb, numeralsFrom]
  constructor
  · rintro ⟨-, ⟨m, hm, rfl⟩, -, ⟨d, ⟨hle, hge⟩, rfl⟩, rfl⟩
    have hdiv : (10 * m + d) / 10 = m := by omega
    have hmod : (10 * m + d) % 10 = d := by omega
    refine ⟨10 * m + d, ⟨by rwa [hdiv], by rwa [hmod], by rwa [hmod]⟩, ?_⟩
    exact Nat.toDigits_append_toDigits (by decide) (hP m hm) (by omega)
  · rintro ⟨n, ⟨hm, hle, hge⟩, rfl⟩
    refine ⟨_, ⟨n / 10, hm, rfl⟩, _, ⟨n % 10, ⟨hle, hge⟩, rfl⟩, ?_⟩
    rw [Nat.toDigits_append_toDigits (by decide) (hP _ hm) (by omega), Nat.div_add_mod]

end

/-! ## Ranges -/

/-- All digits after the numbers of a range. -/
theorem numeralsFrom_mul_digits {lo hi : Nat} (hlo : 0 < lo) :
    numeralsFrom lo hi * letters (digitsFrom 0 9) = numeralsFrom (10 * lo) (10 * hi + 9) := by
  unfold numeralsFrom
  rw [numerals_mul_letters (by decide) fun n hn => Nat.lt_of_lt_of_le hlo hn.1]
  apply numerals_congr
  intro n
  omega

/-- Some digits after one number. -/
theorem numeralsFrom_self_mul {m a b : Nat} (hm : 0 < m) (hb : b < 10) :
    numeralsFrom m m * letters (digitsFrom a b) = numeralsFrom (10 * m + a) (10 * m + b) := by
  unfold numeralsFrom
  rw [numerals_mul_letters hb fun n hn => Nat.lt_of_lt_of_le hm hn.1]
  apply numerals_congr
  intro n
  omega

/-! ## Octets -/

/-- The numbers up to 255, by their lengths and their first digits. -/
def octet : Node := .choice [
  .sequence ([digitsFrom 0 9].map .set),
  .sequence ([digitsFrom 1 9, digitsFrom 0 9].map .set),
  .sequence ([digitsFrom 1 1, digitsFrom 0 9, digitsFrom 0 9].map .set),
  .sequence ([digitsFrom 2 2, digitsFrom 0 4, digitsFrom 0 9].map .set),
  .sequence ([digitsFrom 2 2, digitsFrom 5 5, digitsFrom 0 5].map .set)]

theorem spells_sets (sets : List CharSet) :
    Spells (.sequence (sets.map .set)) (sets.map letters).prod := by
  apply Spells.sequence
  rw [List.forall₂_map_left_iff, List.forall₂_map_right_iff, List.forall₂_same]
  exact fun set _ => spells_set set

theorem spells_octet : Spells octet (numerals (· ≤ 255)) := by
  have hspells := (spells_sets [digitsFrom 0 9]).alt <|
    (spells_sets [digitsFrom 1 9, digitsFrom 0 9]).alt <|
    (spells_sets [digitsFrom 1 1, digitsFrom 0 9, digitsFrom 0 9]).alt <|
    (spells_sets [digitsFrom 2 2, digitsFrom 0 4, digitsFrom 0 9]).alt
      (spells_sets [digitsFrom 2 2, digitsFrom 5 5, digitsFrom 0 5])
  simp only [List.map_cons, List.map_nil, List.prod_cons, List.prod_nil, mul_one, ← mul_assoc]
    at hspells
  have htens : letters (digitsFrom 1 9) * letters (digitsFrom 0 9) = numeralsFrom 10 99 := by
    rw [letters_digitsFrom (a := 1) (by decide), numeralsFrom_mul_digits (by decide)]
  have hhundreds : letters (digitsFrom 1 1) * letters (digitsFrom 0 9) * letters (digitsFrom 0 9) =
      numeralsFrom 100 199 := by
    rw [letters_digitsFrom (a := 1) (by decide), numeralsFrom_mul_digits (by decide),
      numeralsFrom_mul_digits (by decide)]
  have hlow : letters (digitsFrom 2 2) * letters (digitsFrom 0 4) * letters (digitsFrom 0 9) =
      numeralsFrom 200 249 := by
    rw [letters_digitsFrom (a := 2) (by decide), numeralsFrom_self_mul (by decide) (by decide),
      numeralsFrom_mul_digits (by decide)]
  have hhigh : letters (digitsFrom 2 2) * letters (digitsFrom 5 5) * letters (digitsFrom 0 5) =
      numeralsFrom 250 255 := by
    rw [letters_digitsFrom (a := 2) (by decide), numeralsFrom_self_mul (by decide) (by decide),
      numeralsFrom_self_mul (by decide) (by decide)]
  rw [htens, hhundreds, hlow, hhigh, letters_digitsFrom (by decide)] at hspells
  have hall : numeralsFrom 0 9 + (numeralsFrom 10 99 + (numeralsFrom 100 199 +
      (numeralsFrom 200 249 + numeralsFrom 250 255))) = numerals (· ≤ 255) := by
    unfold numeralsFrom
    rw [numerals_add, numerals_add, numerals_add, numerals_add]
    apply numerals_congr
    intro n
    omega
  exact hall ▸ hspells

end Quarantine.Pattern
