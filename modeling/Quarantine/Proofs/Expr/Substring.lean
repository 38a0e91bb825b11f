import Quarantine.Expr.Eval

/-!
# Parts of a text

A part of a text has the characters at the places of a range, in order.  The range may begin before
the text and end after it; it is found with words of 64 bits, and no number on the way is one that
a word does not hold.

    substrChars cs pos len = the characters i of cs with start ≤ i < start + len
    substrWords cs pos len = some (substrChars cs pos len), for what a memory can hold

Where no length is given, one of 2³¹ - 1 is taken.

    substrFrom s pos       = the characters of s from start on  ↔  s is empty or -2³¹ < pos
-/

namespace Quarantine.Expr

open Quarantine.Json

/-! ## Ranges -/

/-- The items at the places of a range. -/
def itemsWithin {α : Type} (start stop : Int) (xs : List α) : List α :=
  (xs.zipIdx.filter fun x => start ≤ x.2 ∧ x.2 < stop).map Prod.fst

section

variable {α : Type} {start stop : Int}

/-- Where the items are counted from `k` on. -/
theorem map_filter_zipIdx (start stop : Int) (xs : List α) (k : Nat) :
    ((xs.zipIdx k).filter fun x => start ≤ x.2 ∧ x.2 < stop).map Prod.fst =
      (xs.take (stop - k).toNat).drop (start - k).toNat := by
  induction xs generalizing k with
  | nil => rw [List.take_nil, List.drop_nil]; rfl
  | cons x xs ih =>
    rw [List.zipIdx_cons, List.filter_cons]
    by_cases hstop : (k : Int) < stop
    · have htake : (stop - k).toNat = (stop - (k + 1 : Nat)).toNat + 1 := by omega
      rw [htake, List.take_succ_cons]
      by_cases hstart : start ≤ k
      · -- the item is in the range, and all items before the end are
        have hdrop : (start - k).toNat = 0 ∧ (start - (k + 1 : Nat)).toNat = 0 := by omega
        rw [if_pos (decide_eq_true ⟨hstart, hstop⟩), List.map_cons, ih, hdrop.1, hdrop.2]
        rfl
      · have hdrop : (start - k).toNat = (start - (k + 1 : Nat)).toNat + 1 := by omega
        rw [if_neg (by rw [decide_eq_true_eq]; exact fun h => hstart h.1), ih, hdrop,
          List.drop_succ_cons]
    · -- no place from here on is before the end
      have htake : (stop - k).toNat = 0 ∧ (stop - (k + 1 : Nat)).toNat = 0 := by omega
      rw [if_neg (by rw [decide_eq_true_eq]; exact fun h => hstop h.2), ih, htake.1, htake.2,
        List.take_zero, List.take_zero, List.drop_nil, List.drop_nil]

theorem itemsWithin_eq (xs : List α) :
    itemsWithin start stop xs = (xs.take stop.toNat).drop start.toNat := by
  have h := map_filter_zipIdx start stop xs 0
  rw [Int.natCast_zero, Int.sub_zero, Int.sub_zero] at h
  exact h

/-- What is outside of the list does not count. -/
theorem itemsWithin_clamped (xs : List α) :
    itemsWithin start stop xs = itemsWithin (max start 0) (min stop xs.length) xs := by
  rw [itemsWithin_eq, itemsWithin_eq]
  have hfirst : (max start 0).toNat = start.toNat := by omega
  have hstop : (min stop xs.length).toNat = min stop.toNat xs.length := by omega
  rw [hfirst, hstop, ← List.take_take, List.take_length]

theorem itemsWithin_of_le (h : stop ≤ max start 0) (xs : List α) :
    itemsWithin start stop xs = [] := by
  rw [itemsWithin_eq]
  refine List.drop_eq_nil_of_le ?_
  rw [List.length_take]
  omega

end

/-- A part of a text is the characters at the places of a range. -/
theorem substrChars_eq (cs : List Char) (pos len : Int) : substrChars cs pos len =
    itemsWithin (substrStart cs.length pos) (substrStart cs.length pos + len) cs := by
  rw [itemsWithin_clamped, itemsWithin_eq, List.drop_take, substrChars]
  congr 1
  omega

/-! ## Words -/

/-- A number, if a word holds it. -/
def word? (i : Int) : Option Int := if leastInt ≤ i ∧ i ≤ greatestInt then some i else none

/-- The number of a word that is nearest to a number. -/
def nearestWord (i : Int) : Int := max leastInt (min i greatestInt)

/-- The items from a place on up to another, if these are places of the list in this order. -/
def slice? {α : Type} (xs : List α) (first stop : Int) : Option (List α) :=
  if 0 ≤ first ∧ first ≤ stop ∧ stop ≤ xs.length then
    some ((xs.take stop.toNat).drop first.toNat)
  else none

/-- The first place as it is found with words. -/
def startWord? (length pos : Int) : Option Int :=
  if pos > 0 then word? (pos - 1) else if pos < 0 then word? (length + pos) else some 0

/-- A part of a text as it is found with words; nothing if one of them overflows, or if a place is
not one of the text.  Only the end is allowed not to fit, the nearest word then stands for it. -/
def substrWords (cs : List Char) (pos len : Int) : Option (List Char) := do
  let length ← word? cs.length
  let start ← startWord? length pos
  let stop := nearestWord (start + len)
  let first := max start 0
  if first ≥ stop then some []
  else
    let stop := min stop length
    if first ≥ stop then some [] else slice? cs first stop

section

variable {cs : List Char} {pos len : Int}

theorem word?_of_fits {i : Int} (hleast : leastInt ≤ i) (hgreatest : i ≤ greatestInt) :
    word? i = some i := if_pos ⟨hleast, hgreatest⟩

/-- The first place fits into a word, as the number of characters does. -/
theorem startWord?_eq {length : Nat} (hlength : length ≤ greatestInt) (hleast : leastInt ≤ pos)
    (hgreatest : pos ≤ greatestInt) :
    startWord? length pos = some (substrStart length pos) := by
  unfold leastInt greatestInt at *
  rw [startWord?, substrStart]
  split
  · exact word?_of_fits (by unfold leastInt; omega) (by unfold greatestInt; omega)
  · split
    · exact word?_of_fits (by unfold leastInt; omega) (by unfold greatestInt; omega)
    · rfl

theorem slice?_of_lt {α : Type} {xs : List α} {start stop : Int}
    (h : max start 0 < min stop xs.length) :
    slice? xs (max start 0) (min stop xs.length) = some (itemsWithin start stop xs) := by
  rw [slice?, if_pos (by omega), itemsWithin_clamped, itemsWithin_eq]

/-- An end that does not fit may be cut to a word: it is far behind the text, or before it. -/
theorem itemsWithin_nearestWord {start stop : Int} (hlength : cs.length ≤ greatestInt) :
    itemsWithin start (nearestWord stop) cs = itemsWithin start stop cs := by
  have htake : cs.take (nearestWord stop).toNat = cs.take stop.toNat := by
    refine List.take_eq_take_iff.2 ?_
    unfold nearestWord leastInt greatestInt at *
    omega
  rw [itemsWithin_eq, itemsWithin_eq, htake]

/-- With words the part is found, without an overflow and inside of the text. -/
theorem substrWords_eq (hlength : cs.length ≤ greatestInt) (hleast : leastInt ≤ pos)
    (hgreatest : pos ≤ greatestInt) : substrWords cs pos len = some (substrChars cs pos len) := by
  have hword : word? cs.length = some (cs.length : Int) :=
    word?_of_fits (by unfold leastInt; omega) hlength
  rw [substrWords, hword, Option.bind_eq_bind, Option.bind_some,
    startWord?_eq hlength hleast hgreatest, Option.bind_some, substrChars_eq,
    ← itemsWithin_nearestWord hlength]
  dsimp only
  split
  · next h => rw [itemsWithin_of_le h]
  · split
    · next h => rw [itemsWithin_clamped, itemsWithin_of_le (by omega)]
    · next h => exact slice?_of_lt (by omega)

end

/-- A text has no more characters than bytes. -/
theorem length_le_utf8ByteSize (s : String) : s.length ≤ s.utf8ByteSize := by
  have hchars (cs : List Char) : cs.length ≤ (String.ofList cs).utf8ByteSize := by
    induction cs with
    | nil => exact Nat.zero_le _
    | cons c cs ih =>
      have hc := c.utf8Size_pos
      rw [String.ofList_cons, String.utf8ByteSize_append, String.utf8ByteSize_singleton,
        List.length_cons]
      omega
  have h := hchars s.toList
  rwa [String.ofList_toList, String.length_toList] at h

/-- A part of a text is what its position and its length say, whatever words these are: in order,
the characters whose places, counted from zero, are in the range that they give as numbers without
bounds.  A text that a memory holds has no more bytes than a signed word counts; there the part is
found with words of 64 bits, without an overflow and without a place outside of the text. -/
theorem substrText_places (s : String) (pos len : Int64) :
    let start : Int :=
      if 0 < pos.toInt then pos.toInt - 1 else if pos.toInt < 0 then s.length + pos.toInt else 0
    (substrText s pos.toInt len.toInt).toList = ((s.toList.zipIdx.filter fun x =>
      start ≤ x.2 ∧ x.2 < start + len.toInt).map Prod.fst) ∧
    (s.utf8ByteSize ≤ Int64.maxValue.toInt →
      substrWords s.toList pos.toInt len.toInt =
        some (substrText s pos.toInt len.toInt).toList) := by
  have hstart : substrStart s.toList.length pos.toInt = if 0 < pos.toInt then pos.toInt - 1
      else if pos.toInt < 0 then s.length + pos.toInt else 0 := by
    rw [String.length_toList]
    rfl
  have htext : (substrText s pos.toInt len.toInt).toList =
      substrChars s.toList pos.toInt len.toInt := String.toList_ofList
  refine ⟨?_, fun hsize => ?_⟩
  · rw [htext, substrChars_eq, hstart]
    rfl
  · have hlength := length_le_utf8ByteSize s
    have hleast : leastInt ≤ pos.toInt := pos.le_toInt
    have hgreatest : pos.toInt ≤ greatestInt := Int.le_of_lt_add_one pos.toInt_lt
    have hmax : Int64.maxValue.toInt = greatestInt := rfl
    rw [htext]
    refine substrWords_eq ?_ hleast hgreatest
    rw [String.length_toList]
    omega

/-- The first position and the greatest length, which end before the last character together. -/
theorem substrText_places_least :
    "hello".utf8ByteSize ≤ Int64.maxValue.toInt ∧
    (substrText "hello" Int64.minValue.toInt Int64.maxValue.toInt).toList = ['h', 'e', 'l', 'l'] ∧
    substrWords "hello".toList Int64.minValue.toInt Int64.maxValue.toInt =
      some ['h', 'e', 'l', 'l'] := by
  have hplaces := substrText_places "hello" Int64.minValue Int64.maxValue
  have hsize : "hello".utf8ByteSize ≤ Int64.maxValue.toInt := by decide
  have hpart : (substrText "hello" Int64.minValue.toInt Int64.maxValue.toInt).toList =
      ['h', 'e', 'l', 'l'] := hplaces.1.trans (by decide)
  exact ⟨hsize, hpart, (hplaces.2 hsize).trans (congrArg some hpart)⟩

/-! ## Parts without a length -/

/-- That an expression has a text for its value. -/
def HasText (r : Record) (e : Expr) (s : String) : Prop :=
  ∃ v, e.eval r = .ok v ∧ v.text? = some s

/-- That the value of an expression is read as a whole number. -/
def HasInteger (r : Record) (e : Expr) (i : Int) : Prop :=
  ∃ v, e.eval r = .ok v ∧ integerOf v = .ok (some i)

section

variable {r : Record} {subject pos len : Expr} {s : String} {p n : Int}

theorem eval_substr_of (hsubject : subject.HasText r s) (hpos : pos.HasInteger r p)
    (hlen : len.HasInteger r n) :
    (substr subject pos len).eval r = .ok (.string (substrText s p n)) := by
  obtain ⟨v, hv, htext⟩ := hsubject
  obtain ⟨w, hw, hp⟩ := hpos
  obtain ⟨u, hu, hn⟩ := hlen
  rw [eval, hv, hw, hu]
  dsimp only [bind, Except.bind]
  rw [htext, hp, hn]
  rfl

/-- A length that is not given is the greatest number of 32 bits. -/
theorem eval_substrFrom_of (hsubject : subject.HasText r s) (hpos : pos.HasInteger r p) :
    (substrFrom subject pos).eval r = .ok (.string (substrText s p openLength)) := by
  obtain ⟨v, hv, htext⟩ := hsubject
  obtain ⟨w, hw, hp⟩ := hpos
  rw [eval, hv, hw]
  dsimp only [bind, Except.bind]
  rw [htext, hp]
  rfl

end

/-- A range gives all items from its start on where it does not end before the list does, and where
it starts behind the list. -/
theorem itemsWithin_eq_drop_iff {α : Type} {start stop : Int} {xs : List α} :
    itemsWithin start stop xs = xs.drop start.toNat ↔ xs.length ≤ max start.toNat stop.toNat := by
  rw [itemsWithin_eq]
  constructor
  · intro h
    have hlength := congrArg List.length h
    rw [List.length_drop, List.length_drop, List.length_take] at hlength
    omega
  · intro h
    by_cases hstop : xs.length ≤ stop.toNat
    · rw [List.take_of_length_le hstop]
    · have hstart : xs.length ≤ start.toNat := by omega
      rw [List.drop_eq_nil_of_le hstart, List.drop_eq_nil_of_le]
      exact Nat.le_trans (List.length_take_le' _ _) hstart

/-- The characters of a text from a position on; one before the text counts as its start. -/
def restFrom (s : String) (pos : Int) : String :=
  String.ofList (s.toList.drop (substrStart s.length pos).toNat)

theorem substrText_eq_restFrom_iff {s : String} {pos len : Int} :
    substrText s pos len = restFrom s pos ↔ s.length ≤
      max (substrStart s.length pos).toNat (substrStart s.length pos + len).toNat := by
  rw [substrText, restFrom, String.ofList_inj, substrChars_eq, String.length_toList,
    itemsWithin_eq_drop_iff, String.length_toList]

/-- The length that is taken for none is enough for a text that is no longer, unless the position is
farther than that before the end. -/
theorem le_max_openLength_iff {length : Nat} (h : length ≤ openLength) {pos : Int} :
    length ≤ max (substrStart length pos).toNat (substrStart length pos + openLength).toNat ↔
      length = 0 ∨ -openLength ≤ pos := by
  unfold openLength substrStart at *
  split
  · omega
  · split <;> omega

/-- Without a length, a part of a text has 2³¹ - 1 characters from its start on, those before the
text included.  It is what each length gives that reaches the end, all characters from the start on,
exactly where the text is empty or the position is no more than 2³¹ - 1 before the end. -/
theorem substrFrom_reaches_end {r : Record} {subject pos : Expr} {s : String} {p : Int}
    (hsubject : subject.HasText r s) (hpos : pos.HasInteger r p) (hshort : s.length < 0x80000000) :
    let start : Int := if 0 < p then p - 1 else if p < 0 then s.length + p else 0
    let rest : Value := .string (String.ofList (s.toList.drop (max 0 start).toNat))
    (∀ len : Expr, len.HasInteger r 0x7FFFFFFF →
      (substrFrom subject pos).eval r = (substr subject pos len).eval r) ∧
    (∀ (len : Expr) (n : Int), len.HasInteger r n → s.length ≤ start + n →
      (substr subject pos len).eval r = .ok rest) ∧
    ((substrFrom subject pos).eval r = .ok rest ↔ s = "" ∨ -0x80000000 < p) := by
  intro start rest
  have hstart : substrStart s.length p = start := rfl
  have hrest : rest = .string (restFrom s p) := by
    have hclamp : (max 0 start).toNat = start.toNat := by omega
    show Value.string (String.ofList (s.toList.drop (max 0 start).toNat)) = _
    rw [hclamp]
    rfl
  refine ⟨fun len hlen => ?_, fun len n hlen hn => ?_, ?_⟩
  · rw [eval_substrFrom_of hsubject hpos, eval_substr_of hsubject hpos hlen]
    rfl
  · have hreach : substrText s p n = restFrom s p := substrText_eq_restFrom_iff.2 (by omega)
    rw [eval_substr_of hsubject hpos hlen, hreach, hrest]
  · have hlength : (s.length : Int) ≤ openLength := by unfold openLength; omega
    have hempty : s.length = 0 ↔ s = "" := by
      rw [← String.length_toList, List.length_eq_zero_iff, String.toList_eq_nil_iff]
    have hvalue : (substrFrom subject pos).eval r = .ok rest ↔
        substrText s p openLength = restFrom s p := by
      rw [eval_substrFrom_of hsubject hpos, hrest, Except.ok.injEq, Value.string.injEq]
    rw [hvalue, substrText_eq_restFrom_iff, le_max_openLength_iff hlength, hempty]
    refine or_congr_right ?_
    unfold openLength
    omega

/-- The farthest position before the end from which the end is still reached. -/
theorem substrFrom_reaches_end_farthest :
    let subject := literal (.string "hello")
    let pos := literal (.number (.negative ⟨0x7FFFFFFE, by decide⟩))
    let len := literal (.number (.natural ⟨0x7FFFFFFF, by decide⟩))
    subject.HasText .empty "hello" ∧ pos.HasInteger .empty (-0x7FFFFFFF) ∧
      len.HasInteger .empty 0x7FFFFFFF ∧ "hello".length < 0x80000000 ∧
      (substrFrom subject pos).eval .empty = .ok (.string "hello") ∧
      (substr subject pos len).eval .empty = .ok (.string "hello") := by
  intro subject pos len
  have hsubject : subject.HasText .empty "hello" := ⟨_, rfl, rfl⟩
  have hpos : pos.HasInteger .empty (-0x7FFFFFFF) := ⟨_, rfl, rfl⟩
  have hlen : len.HasInteger .empty 0x7FFFFFFF := ⟨_, rfl, rfl⟩
  have hshort : "hello".length < 0x80000000 := by decide
  obtain ⟨-, hlong, hfrom⟩ := substrFrom_reaches_end hsubject hpos hshort
  exact ⟨hsubject, hpos, hlen, hshort, hfrom.2 (.inr (by decide)), hlong len _ hlen (by decide)⟩

/-- One place farther, the last character is missing; with a length of one more it is not. -/
theorem substrFrom_before_end :
    let subject := literal (.string "hello")
    let pos := literal (.number (.negative ⟨0x7FFFFFFF, by decide⟩))
    let len := literal (.number (.natural ⟨0x80000000, by decide⟩))
    subject.HasText .empty "hello" ∧ pos.HasInteger .empty (-0x80000000) ∧
      len.HasInteger .empty 0x80000000 ∧ "hello".length < 0x80000000 ∧
      "hello".length ≤ substrStart "hello".length (-0x80000000) + 0x80000000 ∧
      (substrFrom subject pos).eval .empty = .ok (.string "hell") ∧
      (substr subject pos len).eval .empty = .ok (.string "hello") :=
  ⟨⟨_, rfl, rfl⟩, ⟨_, rfl, rfl⟩, ⟨_, rfl, rfl⟩, by decide, by decide, rfl, rfl⟩

end Quarantine.Expr
