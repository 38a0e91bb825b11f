import Quarantine.Decimal.Word
import Quarantine.Instant
import Mathlib.Data.List.Induction

/-!
# Digits read back

Numbers are written with `Nat.toDigits` and read by a fold over the digits.

    ofDigitChars 10 (paddedChars w n) 0 = n
    paddedChars w n has w digits, if n < 10 ^ w
    digits? cs = some n  ↔  cs is the numeral of n with zeros in front

A run of characters that satisfy a condition is cut off exactly where something else follows.
-/

namespace Quarantine.Decimal

/-! ## Runs of characters -/

/-- A list that does not start with an item that satisfies the condition. -/
def StopsAt {α : Type} (p : α → Bool) (rest : List α) : Prop := ∀ c ∈ rest.head?, p c = false

theorem stopsAt_nil {α : Type} (p : α → Bool) : StopsAt p [] := by
  intro c h
  cases h

theorem stopsAt_cons {α : Type} {p : α → Bool} {c : α} (rest : List α) (h : p c = false) :
    StopsAt p (c :: rest) := by
  intro d hd
  obtain rfl : c = d := by simpa using hd
  exact h

theorem takeWhile_append_of_stopsAt {α : Type} {p : α → Bool} {cs rest : List α}
    (h : ∀ c ∈ cs, p c = true) (hr : StopsAt p rest) : (cs ++ rest).takeWhile p = cs := by
  rw [List.takeWhile_append_of_pos h]
  cases rest with
  | nil => simp
  | cons c rest => simp [hr c rfl]

theorem dropWhile_append_of_stopsAt {α : Type} {p : α → Bool} {cs rest : List α}
    (h : ∀ c ∈ cs, p c = true) (hr : StopsAt p rest) : (cs ++ rest).dropWhile p = rest := by
  rw [List.dropWhile_append_of_pos h]
  cases rest with
  | nil => rfl
  | cons c rest => simp [hr c rfl]

theorem dropWhile_of_stopsAt {α : Type} {p : α → Bool} {cs : List α} (h : StopsAt p cs) :
    cs.dropWhile p = cs :=
  dropWhile_append_of_stopsAt (fun _ h => absurd h List.not_mem_nil) h

/-! ## Values of digits -/

theorem foldl_digits (cs : List Char) (init : Nat) :
    cs.foldl (fun n c => n * 10 + (c.toNat - 48)) init = Nat.ofDigitChars 10 cs init := by
  rw [Nat.ofDigitChars_eq_foldl]
  congr 1
  funext n c
  rw [Nat.mul_comm]
  rfl

theorem isDigit_of_mem_toDigits {n : Nat} {c : Char} (h : c ∈ Nat.toDigits 10 n) :
    c.isDigit = true :=
  Nat.isDigit_of_mem_toDigits (by decide) (by decide) h

theorem digitChar_ne_zero : ∀ n < 10, 0 < n → Nat.digitChar n ≠ '0' := by decide

/-- Only zero is written with a zero in front. -/
theorem head?_toDigits_ne_zero {n : Nat} (h : 0 < n) : (Nat.toDigits 10 n).head? ≠ some '0' := by
  induction n using Nat.strongRecOn with
  | _ n ih =>
    rw [Nat.toDigits_eq_if (by decide)]
    by_cases hn : n < 10
    · rw [if_pos hn, List.head?_cons]
      intro he
      exact digitChar_ne_zero n hn h (Option.some.inj he)
    · rw [if_neg hn, List.head?_append, Option.or_of_isSome (List.isSome_head?.2 Nat.toDigits_ne_nil)]
      exact ih (n / 10) (by omega) (by omega)

theorem digitsValue?_eq {cs : List Char} (h : ∀ c ∈ cs, c.isDigit = true) (init : Nat) :
    digitsValue? init cs = some (Nat.ofDigitChars 10 cs init) := by
  induction cs generalizing init with
  | nil => simp [digitsValue?]
  | cons c rest ih =>
    rw [digitsValue?, if_pos (h c List.mem_cons_self), Nat.ofDigitChars_cons]
    exact ih (fun d hd => h d (List.mem_cons_of_mem _ hd)) _

/-! ## Padded numbers -/

def paddedChars (width n : Nat) : List Char :=
  List.replicate (width - (Nat.toDigits 10 n).length) '0' ++ Nat.toDigits 10 n

theorem toList_padded (width n : Nat) :
    (Instant.padded width n).toList = paddedChars width n := by
  have h : n.repr.length = (Nat.toDigits 10 n).length := by
    rw [← String.length_toList, Nat.toList_repr]
  unfold Instant.padded paddedChars
  simp only [String.toList_append, String.toList_ofList, Nat.toString_eq_repr, Nat.toList_repr, h]

theorem isDigit_of_mem_paddedChars {width n : Nat} {c : Char} (h : c ∈ paddedChars width n) :
    c.isDigit = true := by
  rcases List.mem_append.1 h with h | h
  · rw [List.eq_of_mem_replicate h]
    decide
  · exact isDigit_of_mem_toDigits h

theorem length_paddedChars {width n : Nat} (hw : 0 < width) (h : n < Nat.pow 10 width) :
    (paddedChars width n).length = width := by
  have := (Nat.length_toDigits_le_iff (by decide) hw).2 h
  simp only [paddedChars, List.length_append, List.length_replicate]
  omega

theorem paddedChars_ne_nil (width n : Nat) : paddedChars width n ≠ [] := by
  simp [paddedChars]

theorem ofDigitChars_paddedChars (width n : Nat) :
    Nat.ofDigitChars 10 (paddedChars width n) 0 = n := by
  rw [paddedChars, Nat.ofDigitChars_append, Nat.ofDigitChars_replicate_zero, Nat.mul_zero,
    Nat.ofDigitChars_ten_toDigits]

/-- Numbers written with a least width differ if their values do. -/
theorem paddedChars_injective {width m n : Nat} (h : paddedChars width m = paddedChars width n) :
    m = n := by
  have hm := ofDigitChars_paddedChars width m
  rw [h, ofDigitChars_paddedChars] at hm
  exact hm.symm

/-! ## Numerals that are read -/

theorem exists_digitChar_of_isDigit {c : Char} (h : c.isDigit = true) :
    ∃ d < 10, c = Nat.digitChar d := by
  simp only [Char.isDigit, Bool.and_eq_true, decide_eq_true_eq, UInt32.le_iff_toNat_le] at h
  have hle : 48 ≤ c.toNat := h.1
  have hge : c.toNat ≤ 57 := h.2
  refine ⟨c.toNat - 48, by omega, Char.toNat_inj.1 ?_⟩
  rw [Nat.toNat_digitChar_of_lt_ten (by omega)]
  omega

/-- Digits are the numeral of their value with zeros in front. -/
theorem exists_zeros_of_digits {cs : List Char} (hne : cs ≠ []) (h : ∀ c ∈ cs, c.isDigit = true) :
    ∃ k, cs = List.replicate k '0' ++ Nat.toDigits 10 (Nat.ofDigitChars 10 cs 0) := by
  induction cs using List.reverseRecOn with
  | nil => exact absurd rfl hne
  | append_singleton front c ih =>
    obtain ⟨d, hd, rfl⟩ := exists_digitChar_of_isDigit (h c (List.mem_append_right _ (.head _)))
    rw [Nat.ofDigitChars_append, Nat.ofDigitChars_cons_digitChar_of_lt_ten hd, Nat.ofDigitChars_nil]
    by_cases hfront : front = []
    · subst hfront
      refine ⟨0, ?_⟩
      rw [Nat.ofDigitChars_nil, Nat.mul_zero, Nat.zero_add, Nat.toDigits_of_lt_base hd]
      rfl
    · obtain ⟨k, hk⟩ := ih hfront fun c hc => h c (List.mem_append_left _ hc)
      generalize Nat.ofDigitChars 10 front 0 = m at hk
      rcases Nat.eq_zero_or_pos m with rfl | hm
      · -- the numeral of zero is one more zero in front
        refine ⟨k + 1, ?_⟩
        rw [hk, Nat.toDigits_zero, Nat.mul_zero, Nat.zero_add, Nat.toDigits_of_lt_base hd,
          List.replicate_succ']
      · refine ⟨k, ?_⟩
        rw [hk, List.append_assoc, ← Nat.toDigits_append_toDigits (by decide) hm hd,
          Nat.toDigits_of_lt_base hd]

theorem isDigit_of_digitsValue? {cs : List Char} {init n : Nat}
    (h : digitsValue? init cs = some n) : ∀ c ∈ cs, c.isDigit = true := by
  induction cs generalizing init with
  | nil => exact fun c hc => absurd hc List.not_mem_nil
  | cons c rest ih =>
    rw [digitsValue?] at h
    split at h
    · next hc =>
      intro d hd
      rcases List.mem_cons.1 hd with rfl | hd
      · exact hc
      · exact ih h d hd
    · cases h

theorem digits?_eq_some_iff {cs : List Char} {n : Nat} :
    digits? cs = some n ↔ ∃ k, cs = List.replicate k '0' ++ Nat.toDigits 10 n := by
  constructor
  · intro h
    rw [digits?] at h
    split at h
    · cases h
    · next hne =>
      have hdigits := isDigit_of_digitsValue? h
      rw [digitsValue?_eq hdigits] at h
      obtain rfl := Option.some.inj h
      exact exists_zeros_of_digits (fun he => hne (List.isEmpty_iff.2 he)) hdigits
  · rintro ⟨k, rfl⟩
    have hne : List.replicate k '0' ++ Nat.toDigits 10 n ≠ [] :=
      List.append_ne_nil_of_right_ne_nil _ Nat.toDigits_ne_nil
    have hdigits : ∀ c ∈ List.replicate k '0' ++ Nat.toDigits 10 n, c.isDigit = true := by
      intro c hc
      rcases List.mem_append.1 hc with hc | hc
      · rw [List.eq_of_mem_replicate hc]
        decide
      · exact isDigit_of_mem_toDigits hc
    rw [digits?, List.isEmpty_eq_false_iff.2 hne, if_neg Bool.false_ne_true,
      digitsValue?_eq hdigits, Nat.ofDigitChars_append, Nat.ofDigitChars_replicate_zero,
      Nat.mul_zero, Nat.ofDigitChars_ten_toDigits]

/-- A number below 2⁶⁴ is read from its numeral with any zeros in front, after a plus sign or
without. -/
theorem unsigned?_eq_some_iff {cs : List Char} {n : Nat} : unsigned? cs = some n ↔
    n < 0x10000000000000000 ∧ ∃ sign k, (sign = [] ∨ sign = ['+']) ∧
      cs = sign ++ List.replicate k '0' ++ Nat.toDigits 10 n := by
  have hread (ds : List Char) : (digits? ds).filter (· < 0x10000000000000000) = some n ↔
      n < 0x10000000000000000 ∧ ∃ k, ds = List.replicate k '0' ++ Nat.toDigits 10 n := by
    rw [Option.filter_eq_some_iff, digits?_eq_some_iff, decide_eq_true_eq, and_comm]
  -- no digit is a plus sign
  have hplus (k : Nat) (rest : List Char) :
      '+' :: rest ≠ List.replicate k '0' ++ Nat.toDigits 10 n := by
    intro he
    have hdigit : '+' ∈ List.replicate k '0' ++ Nat.toDigits 10 n := he ▸ List.mem_cons_self
    rcases List.mem_append.1 hdigit with hm | hm
    · exact absurd (List.eq_of_mem_replicate hm) (by decide)
    · exact absurd (isDigit_of_mem_toDigits hm) (by decide)
  unfold unsigned?
  split
  · next rest =>
    rw [hread]
    refine and_congr_right fun _ => ⟨?_, ?_⟩
    · rintro ⟨k, rfl⟩
      exact ⟨['+'], k, .inr rfl, rfl⟩
    · rintro ⟨sign, k, rfl | rfl, he⟩
      · exact absurd he (hplus k rest)
      · exact ⟨k, (List.cons.inj he).2⟩
  · next hno =>
    rw [hread]
    refine and_congr_right fun _ => ⟨?_, ?_⟩
    · rintro ⟨k, he⟩
      exact ⟨[], k, .inl rfl, he⟩
    · rintro ⟨sign, k, rfl | rfl, he⟩
      · exact ⟨k, he⟩
      · exact absurd he (hno _)

end Quarantine.Decimal
