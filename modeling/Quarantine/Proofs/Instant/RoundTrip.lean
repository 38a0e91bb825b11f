import Quarantine.Instant.Parser
import Quarantine.Proofs.Decimal.Digits
import Quarantine.Proofs.Instant.Calendar

/-!
# Written instants read back

    parse? (render t) = some t    (every instant, leap seconds included)

Each part of a written instant ends where a mark stands that is no digit, so each reader takes
its own part and leaves the rest.
-/

namespace Quarantine.Instant

open Quarantine.Decimal Quarantine.Text

/-! ## Numbers -/

theorem isBlank_of_isDigit {c : Char} (h : c.isDigit = true) : isBlank c = false := by
  have h : 48 ≤ c.toNat ∧ c.toNat ≤ 57 := by
    simp only [Char.isDigit, Bool.and_eq_true, decide_eq_true_eq, ge_iff_le,
      UInt32.le_iff_toNat_le] at h
    exact h
  unfold isBlank CharSet.contains blank
  simp only [CharSet.inRanges]
  rw [if_neg (by omega), if_neg (by omega), if_pos (by omega), Bool.or_false,
    decide_eq_false (by omega), decide_eq_false (by omega)]
  rfl

theorem skipBlanks_of_stopsAt {cs : List Char} (h : StopsAt isBlank cs) : skipBlanks cs = cs :=
  dropWhile_of_stopsAt h

theorem readNumber_paddedChars (most : Option Nat) (width n : Nat) {rest : List Char}
    (hm : ∀ m ∈ most, (paddedChars width n).length ≤ m) (hr : StopsAt Char.isDigit rest) :
    readNumber most (paddedChars width n ++ rest) = some (n, rest) := by
  have htake : (paddedChars width n ++ rest).takeWhile Char.isDigit = paddedChars width n :=
    takeWhile_append_of_stopsAt (fun _ => isDigit_of_mem_paddedChars) hr
  have hvalue : digitsValue (paddedChars width n) = n := by
    rw [digitsValue, foldl_digits, ofDigitChars_paddedChars]
  have hne : (paddedChars width n).isEmpty = false :=
    List.isEmpty_eq_false_iff.2 (paddedChars_ne_nil width n)
  unfold readNumber
  simp only [htake]
  cases most with
  | none => simp [hne, hvalue]
  | some m => simp [List.take_of_length_le (hm m rfl), hne, hvalue]

theorem stopsAt_isBlank_paddedChars (width n : Nat) (rest : List Char) :
    StopsAt isBlank (paddedChars width n ++ rest) := by
  cases h : paddedChars width n with
  | nil => exact absurd h (paddedChars_ne_nil width n)
  | cons c cs =>
    exact stopsAt_cons _ (isBlank_of_isDigit (isDigit_of_mem_paddedChars (h ▸ List.mem_cons_self)))

theorem readShort_paddedChars {n : Nat} {rest : List Char} (h : n < 100)
    (hr : StopsAt Char.isDigit rest) : readShort (paddedChars 2 n ++ rest) = some (n, rest) := by
  rw [readShort, skipBlanks_of_stopsAt (stopsAt_isBlank_paddedChars 2 n rest)]
  refine readNumber_paddedChars _ _ _ (fun m hm => ?_) hr
  obtain rfl := Option.some.inj hm
  exact Nat.le_of_eq (length_paddedChars (by decide) h)

theorem readMark_cons {c : Char} (h : isBlank c = false) (rest : List Char) :
    readMark c (c :: rest) = some rest := by
  rw [readMark, skipBlanks_of_stopsAt (stopsAt_cons rest h)]
  exact if_pos rfl

/-! ## Dates -/

theorem readYear_yearText (y : Int) {rest : List Char} (hr : StopsAt Char.isDigit rest) :
    readYear ((yearText y).toList ++ rest) = some (y, rest) := by
  unfold yearText
  by_cases h : 0 ≤ y ∧ y ≤ 9999
  · rw [if_pos h, toList_padded]
    have hlt : y.toNat < 10 ^ 4 := by omega
    have hlen : (paddedChars 4 y.toNat).length = 4 := length_paddedChars (by decide) hlt
    have hread := readNumber_paddedChars (some 4) 4 y.toNat
      (fun m hm => by
        obtain rfl := Option.some.inj hm
        exact Nat.le_of_eq hlen) hr
    have hskip := skipBlanks_of_stopsAt (stopsAt_isBlank_paddedChars 4 y.toNat rest)
    obtain ⟨c, cs, hc⟩ := List.exists_cons_of_ne_nil (paddedChars_ne_nil 4 y.toNat)
    have hd : c.isDigit = true := isDigit_of_mem_paddedChars (hc ▸ List.mem_cons_self)
    have hy : (y.toNat : Int) = y := Int.toNat_of_nonneg h.1
    rw [hc, List.cons_append] at hread hskip ⊢
    rw [readYear, hskip]
    split
    · next heq =>
      obtain ⟨rfl, -⟩ := List.cons.inj heq
      exact absurd hd (by decide)
    · next heq =>
      obtain ⟨rfl, -⟩ := List.cons.inj heq
      exact absurd hd (by decide)
    · simp only [hread, Option.map_some, hy]
  · have hread := readNumber_paddedChars none 4 y.natAbs
      (fun m hm => absurd hm (by simp)) hr
    rw [if_neg h]
    by_cases hneg : y < 0
    · have hy : -(y.natAbs : Int) = y := by omega
      rw [if_pos hneg, String.toList_append, toList_padded]
      show readYear ('-' :: (paddedChars 4 y.natAbs ++ rest)) = _
      rw [readYear, skipBlanks_of_stopsAt (stopsAt_cons _ (by decide))]
      simp only [hread, Option.map_some, hy]
    · have hy : (y.natAbs : Int) = y := by omega
      rw [if_neg hneg, String.toList_append, toList_padded]
      show readYear ('+' :: (paddedChars 4 y.natAbs ++ rest)) = _
      rw [readYear, skipBlanks_of_stopsAt (stopsAt_cons _ (by decide))]
      simp only [hread, Option.map_some, hy]

theorem toList_dateText (c : Civil) : (dateText c).toList =
    (yearText c.year).toList ++ '-' :: (paddedChars 2 c.month ++ '-' :: paddedChars 2 c.day) := by
  simp [dateText, toList_padded]

theorem readDate_dateText {c : Civil} (h : c.isValid = true) (rest : List Char)
    (hr : StopsAt Char.isDigit rest) :
    readDate ((dateText c).toList ++ rest) = some (c, rest) := by
  have hmonth : c.month < 100 := by
    simp only [Civil.isValid, Bool.and_eq_true, decide_eq_true_eq] at h
    omega
  have hday : c.day < 100 := by
    simp only [Civil.isValid, Bool.and_eq_true, decide_eq_true_eq] at h
    have : daysInMonth c.year c.month ≤ 31 := by
      unfold daysInMonth
      split
      · split <;> decide
      · split <;> decide
    omega
  have hdash (cs : List Char) : StopsAt Char.isDigit ('-' :: cs) := stopsAt_cons cs (by decide)
  rw [toList_dateText]
  simp only [List.append_assoc, List.cons_append, readDate, readYear_yearText c.year (hdash _),
    readMark_cons (c := '-') (by decide), readShort_paddedChars hmonth (hdash _),
    readShort_paddedChars hday hr, Option.bind_eq_bind, Option.bind_some]
  exact if_pos h

/-! ## Times -/

theorem readFraction_fractionText {nanos : Nat} (h : nanos < nanosPerSecond) {rest : List Char}
    (hr : StopsAt Char.isDigit rest) (hdot : rest.head? ≠ some '.') :
    readFraction ((fractionText nanos).toList ++ rest) = some (nanos, rest) := by
  unfold nanosPerSecond at h
  have hpart (width value scale : Nat) (hw : 0 < width) (hle : width ≤ 9)
      (hv : value < 10 ^ width) (hs : 10 ^ (9 - width) = scale) (hn : value * scale = nanos) :
      readFraction (("." ++ padded width value).toList ++ rest) = some (nanos, rest) := by
    have hlen := length_paddedChars hw hv
    have htake : (paddedChars width value ++ rest).takeWhile Char.isDigit =
        paddedChars width value :=
      takeWhile_append_of_stopsAt (fun _ => isDigit_of_mem_paddedChars) hr
    have hvalue : digitsValue (paddedChars width value) = value := by
      rw [digitsValue, foldl_digits, ofDigitChars_paddedChars]
    have hne : (paddedChars width value).isEmpty = false :=
      List.isEmpty_eq_false_iff.2 (paddedChars_ne_nil width value)
    rw [String.toList_append, toList_padded]
    show readFraction ('.' :: (paddedChars width value ++ rest)) = _
    simp only [readFraction, htake]
    have hs : Nat.pow 10 (9 - width) = scale := hs
    rw [List.drop_left, List.take_of_length_le (Nat.le_trans (Nat.le_of_eq hlen) hle), hne, hvalue, hlen, hs, hn]
    rfl
  unfold fractionText
  by_cases h0 : nanos = 0
  · subst h0
    rw [if_pos rfl]
    show readFraction rest = _
    unfold readFraction
    split
    · exact absurd rfl hdot
    · rfl
  rw [if_neg h0]
  by_cases h6 : nanos % 1000000 = 0
  · rw [if_pos h6]
    exact hpart 3 _ 1000000 (by decide) (by decide) (by omega) (by decide) (by omega)
  rw [if_neg h6]
  by_cases h3 : nanos % 1000 = 0
  · rw [if_pos h3]
    exact hpart 6 _ 1000 (by decide) (by decide) (by omega) (by decide) (by omega)
  rw [if_neg h3]
  exact hpart 9 _ 1 (by decide) (by decide) (by omega) (by decide) (by omega)

theorem toList_timeText (t : Instant) : t.timeText.toList =
    paddedChars 2 (t.secondOfDay / 3600) ++ ':' ::
      (paddedChars 2 (t.secondOfDay / 60 % 60) ++ ':' ::
        (paddedChars 2 (t.secondOfDay % 60 + if nanosPerSecond ≤ t.nanos then 1 else 0) ++
          (fractionText (if nanosPerSecond ≤ t.nanos then t.nanos - nanosPerSecond
            else t.nanos)).toList)) := by
  simp [timeText, toList_padded]

theorem secondOfDay_lt (t : Instant) : t.secondOfDay < 86400 := by
  have h := Int.fmod_lt_of_pos t.seconds (by decide : (0 : Int) < secondsPerDay)
  unfold secondOfDay
  unfold secondsPerDay at h ⊢
  omega

theorem secondOfDay_leap {t : Instant} (h : nanosPerSecond ≤ t.nanos) :
    t.secondOfDay % 60 = 59 := by
  have hl := t.leap h
  have hf : Int.fmod t.seconds 86400 = t.seconds % 86400 :=
    Int.fmod_eq_emod_of_nonneg _ (by decide)
  unfold secondOfDay secondsPerDay
  rw [show ((86400 : Nat) : Int) = 86400 from rfl, hf]
  omega

theorem stopsAt_isDigit_fractionText (nanos : Nat) {rest : List Char}
    (hr : StopsAt Char.isDigit rest) :
    StopsAt Char.isDigit ((fractionText nanos).toList ++ rest) := by
  unfold fractionText
  split
  · exact hr
  · split
    · rw [String.toList_append]
      exact stopsAt_cons _ (by decide)
    · split
      · rw [String.toList_append]
        exact stopsAt_cons _ (by decide)
      · rw [String.toList_append]
        exact stopsAt_cons _ (by decide)

/-- The parts of a time, each before its mark. -/
theorem readTime_parts {hour minute second nanos : Nat} (hh : hour < 24) (hm : minute < 60)
    (hs : second ≤ 60) (hn : nanos < nanosPerSecond) :
    readTime (paddedChars 2 hour ++ ':' :: (paddedChars 2 minute ++ ':' ::
      (paddedChars 2 second ++ ((fractionText nanos).toList ++ ['Z'])))) =
      if second = 60 then some (hour * 3600 + minute * 60 + 59, nanos + nanosPerSecond, ['Z'])
      else some (hour * 3600 + minute * 60 + second, nanos, ['Z']) := by
  have hz : StopsAt Char.isDigit ['Z'] := stopsAt_cons [] (by decide)
  have hcolon (cs : List Char) : StopsAt Char.isDigit (':' :: cs) := stopsAt_cons cs (by decide)
  have hmark (cs : List Char) := readMark_cons (c := ':') (by decide) cs
  have hskip : skipBlanks ['Z'] = ['Z'] := skipBlanks_of_stopsAt (stopsAt_cons [] (by decide))
  simp only [readTime, readShort_paddedChars (by omega : hour < 100) (hcolon _), hmark,
    readShort_paddedChars (by omega : minute < 100) (hcolon _),
    readShort_paddedChars (by omega : second < 100) (stopsAt_isDigit_fractionText _ hz),
    readFraction_fractionText hn hz (by decide), Option.bind_eq_bind, Option.bind_some, hskip]
  exact if_pos ⟨hh, hm, hs⟩

theorem readTime_timeText (t : Instant) :
    readTime (t.timeText.toList ++ ['Z']) = some (t.secondOfDay, t.nanos, ['Z']) := by
  have hday := secondOfDay_lt t
  have hnanos := t.nanos_lt
  rw [toList_timeText]
  simp only [List.append_assoc, List.cons_append]
  by_cases hleap : nanosPerSecond ≤ t.nanos
  · have h59 := secondOfDay_leap hleap
    have hsum : t.secondOfDay / 3600 * 3600 + t.secondOfDay / 60 % 60 * 60 + 59 =
        t.secondOfDay := by omega
    rw [if_pos hleap, if_pos hleap, readTime_parts (by omega) (by omega) (by omega) (by omega),
      if_pos (by omega), hsum, Nat.sub_add_cancel hleap]
  · have hsum : t.secondOfDay / 3600 * 3600 + t.secondOfDay / 60 % 60 * 60 +
        t.secondOfDay % 60 = t.secondOfDay := by omega
    rw [if_neg hleap, if_neg hleap, Nat.add_zero,
      readTime_parts (by omega) (by omega) (by omega) (by omega), if_neg (by omega), hsum]

/-! ## Instants -/

theorem seconds_eq (t : Instant) :
    daysFromCivil t.civil * secondsPerDay + t.secondOfDay = t.seconds := by
  have hpos : (0 : Int) < secondsPerDay := by decide
  have hsum := Int.mul_fdiv_add_fmod t.seconds secondsPerDay
  have hnonneg := Int.fmod_nonneg_of_pos t.seconds hpos
  rw [civil, daysFromCivil_civilFromDays, secondOfDay, Int.toNat_of_nonneg hnonneg, Int.mul_comm]
  exact hsum

theorem of?_fields (t : Instant) : of? t.seconds t.nanos = some t :=
  dif_pos ⟨t.inRange, t.nanos_lt, t.leap⟩

/-- A written instant is read as that instant. -/
theorem parse?_render (t : Instant) : parse? t.render = some t := by
  have hchars : t.render.toList =
      (dateText t.civil).toList ++ 'T' :: (t.timeText.toList ++ ['Z']) := by
    simp [render]
  have hdate := readDate_dateText t.isValid_civil ('T' :: (t.timeText.toList ++ ['Z']))
    (stopsAt_cons _ (by decide))
  have hzone : readZone ['Z'] = some (0, []) := by decide
  have hend : (!(skipBlanks []).isEmpty) = false := rfl
  simp only [parse?, hchars, parseChars?, hdate, Option.bind_eq_bind, Option.bind_some,
    readTime_timeText, hzone, hend]
  simp only [true_or, or_true, if_true, Bool.false_eq_true, if_false]
  rw [Int.sub_zero, seconds_eq, of?_fields]

end Quarantine.Instant
