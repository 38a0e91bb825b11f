import Quarantine.Json.Structure
import Quarantine.Proofs.Decimal.Digits

/-!
# Written values read back

The compact form and the indented form differ in the space between the parts alone, so both are
the form for some spacing, and one induction over values serves the two of them.

    read? (render v)         = some v    (whole numbers, nesting up to the limit)
    read? (renderIndented v) = some v

## Lemmas

- `readString_escaped`  a string as it is escaped
- `readNumber_chars`    a whole number, before a character that cannot continue it
- `readsBack`           a value in the form for a spacing
-/

namespace Quarantine.Json

open Quarantine.Decimal

/-! ## Strings -/

theorem hexValue?_hexDigit : ∀ n < 16, hexValue? (hexDigit n) = some n := by decide

theorem charOf?_toNat (c : Char) : charOf? c.toNat = some c := by
  have h : c.toNat.isValidChar := c.valid
  rw [charOf?, dif_pos h]
  rfl

theorem readString_escapeChar (c : Char) (rest : List Char) :
    readString (escapeChar c ++ rest) = (readString rest).map fun (s, r) => (c :: s, r) := by
  unfold escapeChar
  by_cases hq : c = '"'
  · subst hq; simp [readString, letterEscape?]
  rw [if_neg hq]
  by_cases hb : c = '\\'
  · subst hb; simp [readString, letterEscape?]
  rw [if_neg hb]
  by_cases hn : c = '\n'
  · subst hn; simp [readString, letterEscape?]
  rw [if_neg hn]
  by_cases hr : c = '\r'
  · subst hr; simp [readString, letterEscape?]
  rw [if_neg hr]
  by_cases ht : c = '\t'
  · subst ht; simp [readString, letterEscape?]
  rw [if_neg ht]
  by_cases h8 : c = '\x08'
  · subst h8; simp [readString, letterEscape?]
  rw [if_neg h8]
  by_cases hc : c = '\x0c'
  · subst hc; simp [readString, letterEscape?]
  rw [if_neg hc]
  by_cases hl : c.toNat < 0x20
  · have high := hexValue?_hexDigit (c.toNat / 16) (by omega)
    have low := hexValue?_hexDigit (c.toNat % 16) (by omega)
    have hcode : hex4? '0' '0' (hexDigit (c.toNat / 16)) (hexDigit (c.toNat % 16)) =
        some c.toNat := by
      have hz : hexValue? '0' = some 0 := by decide
      simp only [hex4?, hz, high, low, Option.bind_eq_bind, Option.bind_some, Option.pure_def,
        Option.some.injEq]
      omega
    rw [if_pos hl]
    simp only [List.cons_append, List.nil_append]
    rw [readString]
    simp only [hcode, charOf?_toNat]
  · rw [if_neg hl, List.singleton_append, readString]
    · simp [hl, hb]
    · exact hq
    · intros; contradiction
    · intros; contradiction

theorem readString_escaped (cs rest : List Char) :
    readString (cs.flatMap escapeChar ++ '"' :: rest) = some (cs, rest) := by
  induction cs with
  | nil => simp [readString]
  | cons c cs ih =>
    rw [List.flatMap_cons, List.append_assoc, readString_escapeChar, ih]
    rfl

theorem quotedChars_append (s : String) (rest : List Char) :
    quotedChars s ++ rest = '"' :: (s.toList.flatMap escapeChar ++ '"' :: rest) := by
  simp [quotedChars]

/-! ## Numbers -/

/-- Whether a character can stand after the first one of a number. -/
def continuesNumber (c : Char) : Bool := c.isDigit || c == '.' || c == 'e' || c == 'E'

def Number.isWhole : Number → Bool
  | .binary _ => false
  | _ => true

theorem stopsAt_isDigit {rest : List Char} (h : StopsAt continuesNumber rest) :
    StopsAt Char.isDigit rest := by
  intro c hc
  have := h c hc
  simp only [continuesNumber, Bool.or_eq_false_iff] at this
  exact this.1.1.1

theorem head_ne_of_stopsAt {rest : List Char} (h : StopsAt continuesNumber rest) {c : Char}
    (hc : continuesNumber c = true) : (rest.head? == some c) = false := by
  refine beq_eq_false_iff_ne.2 fun he => ?_
  rw [h c he] at hc
  exact Bool.false_ne_true hc

theorem scanNumber_digits {digits rest : List Char} (negative : Bool)
    (hd : ∀ c ∈ digits, c.isDigit = true) (hne : digits ≠ [])
    (hz : digits.head? = some '0' → digits.length = 1) (hr : StopsAt continuesNumber rest) :
    scanNumber ((if negative then ['-'] else []) ++ digits ++ rest) =
      some (⟨negative, digits, none, none⟩, rest) := by
  have hminus : ((digits ++ rest).head? == some '-') = false := by
    cases digits with
    | nil => exact absurd rfl hne
    | cons c cs =>
      have hc := hd c List.mem_cons_self
      rw [List.cons_append, List.head?_cons]
      refine beq_eq_false_iff_ne.2 fun he => ?_
      obtain rfl := Option.some.inj he
      exact absurd hc (by decide)
  have hlead : (digits.isEmpty || (digits.head? == some '0' && decide (digits.length > 1))) =
      false := by
    rw [List.isEmpty_eq_false_iff.2 hne, Bool.false_or, Bool.and_eq_false_iff]
    by_cases h0 : digits.head? = some '0'
    · right
      rw [hz h0]
      rfl
    · exact .inl (beq_eq_false_iff_ne.2 h0)
  have hdot := head_ne_of_stopsAt hr (c := '.') (by decide)
  have he := head_ne_of_stopsAt hr (c := 'e') (by decide)
  have hE := head_ne_of_stopsAt hr (c := 'E') (by decide)
  have htake := takeWhile_append_of_stopsAt hd (stopsAt_isDigit hr)
  have hdrop := dropWhile_append_of_stopsAt hd (stopsAt_isDigit hr)
  unfold scanNumber
  cases negative
  · simp only [Bool.false_eq_true, ↓reduceIte, List.nil_append, hminus, htake, hdrop, hlead, hdot,
      Option.isSome_none, he, hE, Option.any_none, Bool.false_and, Bool.or_self]
  · simp only [↓reduceIte, List.cons_append, List.head?_cons, BEq.rfl,
      List.nil_append, List.drop_succ_cons, List.drop_zero, htake, hdrop, hlead, hdot, Bool.false_eq_true,
      Option.isSome_none, he, hE, Option.any_none, Bool.false_and, Bool.or_self]

theorem length_toDigits_of_head_zero {n : Nat} (h : (Nat.toDigits 10 n).head? = some '0') :
    (Nat.toDigits 10 n).length = 1 := by
  rcases Nat.eq_zero_or_pos n with rfl | hn
  · rfl
  · exact absurd h (head?_toDigits_ne_zero hn)

theorem toNumber?_whole {n : Nat} (hn : n < 0x10000000000000000) :
    (NumberText.mk false (Nat.toDigits 10 n) none none).toNumber? = some (.natural ⟨n, hn⟩) := by
  have hv : digitsValue (Nat.toDigits 10 n) = n := by
    rw [digitsValue, foldl_digits, Nat.ofDigitChars_ten_toDigits]
  simp only [NumberText.toNumber?, hv]
  simp [hn, Number.ofInt?]

theorem toNumber?_negative {n : Nat} (hn : n < 0x8000000000000000) :
    (NumberText.mk true (Nat.toDigits 10 (n + 1)) none none).toNumber? =
      some (.negative ⟨n, hn⟩) := by
  have hv : digitsValue (Nat.toDigits 10 (n + 1)) = n + 1 := by
    rw [digitsValue, foldl_digits, Nat.ofDigitChars_ten_toDigits]
  have hle : n + 1 ≤ 0x8000000000000000 := by omega
  have hneg : -((n + 1 : Nat) : Int) = Int.negSucc n := rfl
  simp only [NumberText.toNumber?, hv, hneg]
  simp [hle, Number.ofInt?, hn]

theorem readNumber_chars {n : Number} (h : n.isWhole = true) {rest : List Char}
    (hr : StopsAt continuesNumber rest) : readNumber (n.chars ++ rest) = some (n, rest) := by
  have scanned (negative : Bool) (k : Nat) := scanNumber_digits negative
    (fun _ => isDigit_of_mem_toDigits) (Nat.toDigits_ne_nil (n := k) (b := 10))
    length_toDigits_of_head_zero hr
  cases n with
  | natural n =>
    have hs : scanNumber (Nat.toDigits 10 n.val ++ rest) = _ := scanned false n.val
    simp only [readNumber, Number.chars, hs, Option.bind_eq_bind, Option.bind_some,
      toNumber?_whole n.isLt, Option.pure_def]
  | negative n =>
    have hs : scanNumber ('-' :: Nat.toDigits 10 (n.val + 1) ++ rest) = _ :=
      scanned true (n.val + 1)
    simp only [readNumber, Number.chars, hs, Option.bind_eq_bind, Option.bind_some,
      toNumber?_negative n.isLt, Option.pure_def]
  | binary x => exact absurd h Bool.false_ne_true

/-! ## Forms of values -/

/-- The space that a form puts around the parts of arrays and objects, by their depth. -/
structure Spacing where
  /-- After an opening bracket and after a comma. -/
  before : Nat → List Char
  /-- In front of a closing bracket. -/
  after : Nat → List Char
  colon : List Char
  before_space : ∀ d, ∀ c ∈ before d, isSpace c = true
  after_space : ∀ d, ∀ c ∈ after d, isSpace c = true
  colon_space : ∀ c ∈ colon, isSpace c = true

namespace Spacing

theorem isSpace_of_mem_newLine {d : Nat} {c : Char} (h : c ∈ newLine d) : isSpace c = true := by
  rcases List.mem_cons.1 h with rfl | h
  · decide
  · rw [List.eq_of_mem_replicate h]
    decide

def compact : Spacing where
  before _ := []
  after _ := []
  colon := []
  before_space _ _ h := absurd h List.not_mem_nil
  after_space _ _ h := absurd h List.not_mem_nil
  colon_space _ h := absurd h List.not_mem_nil

@[simp] theorem before_compact (d : Nat) : compact.before d = [] := rfl

@[simp] theorem after_compact (d : Nat) : compact.after d = [] := rfl

@[simp] theorem colon_compact : compact.colon = [] := rfl

def indented : Spacing where
  before d := newLine (d + 1)
  after d := newLine d
  colon := [' ']
  before_space _ _ := isSpace_of_mem_newLine
  after_space _ _ := isSpace_of_mem_newLine
  colon_space c h := by
    rw [List.mem_singleton.1 h]
    decide

@[simp] theorem before_indented (d : Nat) : indented.before d = newLine (d + 1) := rfl

@[simp] theorem after_indented (d : Nat) : indented.after d = newLine d := rfl

@[simp] theorem colon_indented : indented.colon = [' '] := rfl

end Spacing

mutual

/-- The form of a value for a spacing. -/
def spelled (sp : Spacing) (d : Nat) : Value → List Char
  | .array (v :: items) =>
    '[' :: (sp.before d ++ spelled sp (d + 1) v ++ spelledItems sp d items)
  | .object ((name, v) :: fields) =>
    '\x7b' :: (sp.before d ++ quotedChars name ++ ':' :: (sp.colon ++ spelled sp (d + 1) v) ++
      spelledFields sp d fields)
  | .array [] => ['[', ']']
  | .object [] => ['\x7b', '\x7d']
  | .null => ['n', 'u', 'l', 'l']
  | .bool true => ['t', 'r', 'u', 'e']
  | .bool false => ['f', 'a', 'l', 's', 'e']
  | .number n => n.chars
  | .string s => quotedChars s

/-- The items after the first one, up to the closing bracket. -/
def spelledItems (sp : Spacing) (d : Nat) : List Value → List Char
  | [] => sp.after d ++ [']']
  | v :: rest =>
    ',' :: (sp.before d ++ spelled sp (d + 1) v ++ spelledItems sp d rest)

/-- The fields after the first one, up to the closing brace. -/
def spelledFields (sp : Spacing) (d : Nat) : List (String × Value) → List Char
  | [] => sp.after d ++ ['\x7d']
  | (name, v) :: rest =>
    ',' :: (sp.before d ++ quotedChars name ++ ':' :: (sp.colon ++ spelled sp (d + 1) v) ++
      spelledFields sp d rest)

end

mutual

theorem spelled_compact (d : Nat) : (v : Value) → spelled .compact d v = v.chars
  | .null | .bool true | .bool false | .number _ | .string _ => by
    simp only [spelled, Value.chars]
  | .array [] => by simp [spelled, Value.chars, itemChars, commaed]
  | .object [] => by simp [spelled, Value.chars, fieldChars, commaed]
  | .array (v :: items) => by
    have hv := spelled_compact (d + 1) v
    have hi := spelledItems_compact d v items
    simp only [spelled, Value.chars, hv, itemChars] at hi ⊢
    simpa using hi
  | .object ((name, v) :: fields) => by
    have hv := spelled_compact (d + 1) v
    have hf := spelledFields_compact d name v fields
    simp only [spelled, Value.chars, hv, fieldChars] at hf ⊢
    simpa using hf

theorem spelledItems_compact (d : Nat) (v : Value) : (items : List Value) →
    v.chars ++ spelledItems .compact d items = commaed (v.chars :: itemChars items) ++ [']']
  | [] => by simp [spelledItems, itemChars, commaed]
  | w :: items => by
    have hw := spelled_compact (d + 1) w
    have hi := spelledItems_compact d w items
    simp only [spelledItems, hw, itemChars, commaed] at hi ⊢
    simp [hi]

theorem spelledFields_compact (d : Nat) (name : String) (v : Value) :
    (fields : List (String × Value)) →
    quotedChars name ++ ':' :: v.chars ++ spelledFields .compact d fields =
      commaed ((quotedChars name ++ ':' :: v.chars) :: fieldChars fields) ++ ['\x7d']
  | [] => by simp [spelledFields, fieldChars, commaed]
  | (next, w) :: fields => by
    have hw := spelled_compact (d + 1) w
    have hf := spelledFields_compact d next w fields
    simp only [spelledFields, hw, fieldChars, commaed] at hf ⊢
    simp at hf ⊢
    simp [hf]

end

mutual

theorem spelled_indented (d : Nat) : (v : Value) → spelled .indented d v = v.indented d
  | .null | .bool true | .bool false | .number _ | .string _ => by
    simp only [spelled, Value.indented]
  | .array [] => by simp only [spelled, Value.indented]
  | .object [] => by simp only [spelled, Value.indented]
  | .array (v :: items) => by
    simp only [spelled, Value.indented, spelled_indented (d + 1) v, spelledItems_indented d items]
    simp
  | .object ((name, v) :: fields) => by
    simp only [spelled, Value.indented, spelled_indented (d + 1) v,
      spelledFields_indented d fields]
    simp

theorem spelledItems_indented (d : Nat) : (items : List Value) →
    spelledItems .indented d items = indentedItems d items ++ newLine d ++ [']']
  | [] => by simp [spelledItems, indentedItems]
  | v :: items => by
    simp only [spelledItems, indentedItems, spelled_indented (d + 1) v,
      spelledItems_indented d items]
    simp

theorem spelledFields_indented (d : Nat) : (fields : List (String × Value)) →
    spelledFields .indented d fields = indentedFields d fields ++ newLine d ++ ['\x7d']
  | [] => by simp [spelledFields, indentedFields]
  | (name, v) :: fields => by
    simp only [spelledFields, indentedFields, spelled_indented (d + 1) v,
      spelledFields_indented d fields]
    simp

end

/-! ## Values that can be read -/

mutual

/-- Whether a value nests no deeper than some levels and holds whole numbers only. -/
def Value.fits : (depth : Nat) → Value → Bool
  | _, .number n => n.isWhole
  | 0, .array _ => false
  | depth + 1, .array items => fitsItems depth items
  | 0, .object _ => false
  | depth + 1, .object fields => fitsFields depth fields
  | _, _ => true

def fitsItems (depth : Nat) : List Value → Bool
  | [] => true
  | v :: rest => v.fits depth && fitsItems depth rest

def fitsFields (depth : Nat) : List (String × Value) → Bool
  | [] => true
  | (_, v) :: rest => v.fits depth && fitsFields depth rest

end

theorem fitsItems_iff {depth : Nat} {items : List Value} :
    fitsItems depth items = true ↔ ∀ v ∈ items, v.fits depth = true := by
  induction items with
  | nil => simp [fitsItems]
  | cons v rest ih => simp [fitsItems, ih]

theorem fitsFields_iff {depth : Nat} {fields : List (String × Value)} :
    fitsFields depth fields = true ↔ ∀ f ∈ fields, f.2.fits depth = true := by
  induction fields with
  | nil => simp [fitsFields]
  | cons f rest ih => simp [fitsFields, ih]

theorem Value.induction {P : Value → Prop} (null : P .null) (bool : ∀ b, P (.bool b))
    (number : ∀ n, P (.number n)) (string : ∀ s, P (.string s))
    (array : ∀ items, (∀ v ∈ items, P v) → P (.array items))
    (object : ∀ fields, (∀ f ∈ fields, P f.2) → P (.object fields)) : (v : Value) → P v
  | .null => null
  | .bool b => bool b
  | .number n => number n
  | .string s => string s
  | .array items =>
    array items fun v hv => by
      have := List.sizeOf_lt_of_mem hv
      exact Value.induction null bool number string array object v
  | .object fields =>
    object fields fun f hf => by
      have := List.sizeOf_lt_of_mem hf
      have : sizeOf f.2 < sizeOf f := by
        cases f
        simp only [Prod.mk.sizeOf_spec]
        omega
      exact Value.induction null bool number string array object f.2

/-! ## Reading a form -/

theorem skipSpace_append {space cs : List Char} (h : ∀ c ∈ space, isSpace c = true)
    (hs : StopsAt isSpace cs) : skipSpace (space ++ cs) = cs :=
  dropWhile_append_of_stopsAt h hs

theorem skipSpace_of_stopsAt {cs : List Char} (hs : StopsAt isSpace cs) : skipSpace cs = cs :=
  dropWhile_of_stopsAt hs

theorem exists_toDigits_eq (n : Nat) :
    ∃ c cs, Nat.toDigits 10 n = c :: cs ∧ c.isDigit = true := by
  cases h : Nat.toDigits 10 n with
  | nil => exact absurd h Nat.toDigits_ne_nil
  | cons c cs => exact ⟨c, cs, rfl, isDigit_of_mem_toDigits (h ▸ List.mem_cons_self)⟩

/-- What the first character of a number can be. -/
def startsNumber (c : Char) : Bool := c == '-' || c.isDigit

theorem Number.exists_chars_eq {n : Number} (h : n.isWhole = true) :
    ∃ c cs, n.chars = c :: cs ∧ startsNumber c = true := by
  cases n with
  | natural n =>
    obtain ⟨c, cs, hc, hd⟩ := exists_toDigits_eq n.val
    exact ⟨c, cs, hc, by rw [startsNumber, hd, Bool.or_true]⟩
  | negative n => exact ⟨'-', _, rfl, rfl⟩
  | binary x => exact absurd h Bool.false_ne_true

theorem isSpace_of_startsNumber {c : Char} (h : startsNumber c = true) : isSpace c = false := by
  cases hs : isSpace c with
  | false => rfl
  | true =>
    simp only [isSpace, Bool.or_eq_true, beq_iff_eq] at hs
    rcases hs with ((rfl | rfl) | rfl) | rfl <;> exact absurd h (by decide)

theorem exists_spelled_eq (sp : Spacing) (d : Nat) {depth : Nat} {v : Value}
    (h : v.fits depth = true) :
    ∃ c cs, spelled sp d v = c :: cs ∧ isSpace c = false ∧ c ≠ ']' := by
  cases v with
  | null => exact ⟨'n', _, rfl, rfl, by decide⟩
  | bool b =>
    cases b
    · exact ⟨'f', _, rfl, rfl, by decide⟩
    · exact ⟨'t', _, rfl, rfl, by decide⟩
  | number n =>
    have hn : n.isWhole = true := by simpa [Value.fits] using h
    obtain ⟨c, cs, hc, hs⟩ := Number.exists_chars_eq hn
    refine ⟨c, cs, by rw [spelled, hc], isSpace_of_startsNumber hs, ?_⟩
    rintro rfl
    exact absurd hs (by decide)
  | string s => exact ⟨'"', _, rfl, rfl, by decide⟩
  | array items =>
    cases items with
    | nil => exact ⟨'[', _, rfl, rfl, by decide⟩
    | cons v items => exact ⟨'[', _, by rw [spelled], rfl, by decide⟩
  | object fields =>
    cases fields with
    | nil => exact ⟨'\x7b', _, rfl, rfl, by decide⟩
    | cons f fields => exact ⟨'\x7b', _, by rw [spelled], rfl, by decide⟩

theorem skipSpace_spelled (sp : Spacing) (d : Nat) {depth : Nat} {v : Value} {space : List Char}
    (h : v.fits depth = true) (hspace : ∀ c ∈ space, isSpace c = true) (rest : List Char) :
    skipSpace (space ++ spelled sp d v ++ rest) = spelled sp d v ++ rest := by
  obtain ⟨c, cs, hc, hs, -⟩ := exists_spelled_eq sp d h
  rw [List.append_assoc, hc]
  exact skipSpace_append hspace (stopsAt_cons _ hs)

theorem readValue_number {fuel depth : Nat} {cs tail : List Char} {c : Char}
    (hs : skipSpace cs = c :: tail) (hc : startsNumber c = true) :
    readValue (fuel + 1) depth cs =
      (readNumber (c :: tail)).map fun (n, r) => (.number n, r) := by
  rw [readValue, hs]
  split
  case h_7 heq =>
    obtain ⟨rfl, rfl⟩ := List.cons.inj heq
    exact if_pos hc
  case h_8 heq => exact absurd heq (List.cons_ne_nil _ _)
  all_goals
    next heq =>
      -- a character that starts no number
      obtain ⟨rfl, -⟩ := List.cons.inj heq
      exact absurd hc (by decide)

/-- That a form of a value is read as the value, wherever it stands. -/
def ReadsBack (sp : Spacing) (v : Value) : Prop :=
  ∀ (d fuel depth : Nat) (space rest : List Char), v.fits depth = true →
    2 * (spelled sp d v).length ≤ fuel → (∀ c ∈ space, isSpace c = true) →
    StopsAt continuesNumber rest →
    readValue fuel depth (space ++ spelled sp d v ++ rest) = some (v, rest)

theorem stopsAt_space_append {space rest : List Char} {c : Char}
    (h : ∀ c ∈ space, isSpace c = true) (hc : continuesNumber c = false) :
    StopsAt continuesNumber (space ++ c :: rest) := by
  cases space with
  | nil => exact stopsAt_cons rest hc
  | cons s space =>
    refine stopsAt_cons _ ?_
    have hs := h s List.mem_cons_self
    simp only [isSpace, Bool.or_eq_true, beq_iff_eq] at hs
    rcases hs with ((rfl | rfl) | rfl) | rfl <;> rfl

theorem readItems_spelled {sp : Spacing} (d : Nat) {v : Value} {items : List Value}
    (hv : ReadsBack sp v) (hi : ∀ w ∈ items, ReadsBack sp w) {fuel depth : Nat}
    (space rest : List Char) (hfit : v.fits depth = true)
    (hfits : fitsItems depth items = true)
    (hfuel : 2 * ((spelled sp (d + 1) v).length + (spelledItems sp d items).length) ≤ fuel)
    (hspace : ∀ c ∈ space, isSpace c = true) :
    readItems fuel depth (space ++ spelled sp (d + 1) v ++ (spelledItems sp d items ++ rest)) =
      some (v :: items, rest) := by
  induction items generalizing v fuel space with
  | nil =>
    simp only [spelledItems, List.length_append, List.length_singleton] at hfuel
    obtain ⟨fuel, rfl⟩ : ∃ f, fuel = f + 1 := ⟨fuel - 1, by omega⟩
    have hread := hv (d + 1) fuel depth space (sp.after d ++ ']' :: rest) hfit (by omega) hspace
      (stopsAt_space_append (sp.after_space d) (by decide))
    have hskip := skipSpace_append (sp.after_space d) (stopsAt_cons (c := ']') rest (by decide))
    rw [readItems, spelledItems, List.append_assoc (sp.after d), List.singleton_append, hread]
    simp only [hskip]
  | cons w items ih =>
    simp only [spelledItems, List.length_append, List.length_cons] at hfuel
    obtain ⟨fuel, rfl⟩ : ∃ f, fuel = f + 1 := ⟨fuel - 1, by omega⟩
    have hw := (fitsItems_iff.1 hfits) w List.mem_cons_self
    have hrest := fitsItems_iff.2 fun x hx =>
      fitsItems_iff.1 hfits x (List.mem_cons_of_mem _ hx)
    have hread := hv (d + 1) fuel depth space (',' :: (sp.before d ++ spelled sp (d + 1) w ++
      (spelledItems sp d items ++ rest))) hfit (by omega) hspace (stopsAt_cons _ (by decide))
    have hskip := skipSpace_of_stopsAt (stopsAt_cons (c := ',') (sp.before d ++
      spelled sp (d + 1) w ++ (spelledItems sp d items ++ rest)) (by decide))
    have hothers := ih (hi w List.mem_cons_self) (fun x hx => hi x (List.mem_cons_of_mem _ hx))
      _ hw hrest (by omega : 2 * ((spelled sp (d + 1) w).length +
        (spelledItems sp d items).length) ≤ fuel) (sp.before_space d)
    rw [readItems, spelledItems, List.cons_append, List.append_assoc (sp.before d ++ _), hread]
    simp only [hskip, hothers, Option.map_some]

theorem readFields_name {space cs : List Char} {name : String} {fuel depth : Nat}
    (hspace : ∀ c ∈ space, isSpace c = true) :
    readFields (fuel + 1) depth (space ++ quotedChars name ++ ':' :: cs) =
      match readValue fuel depth cs with
      | none => none
      | some (v, rest) =>
        match skipSpace rest with
        | '\x7d' :: rest => some ([(name, v)], rest)
        | ',' :: rest => (readFields fuel depth rest).map fun (fs, r) => ((name, v) :: fs, r)
        | _ => none := by
  have hskip : skipSpace (space ++ ('"' :: (name.toList.flatMap escapeChar ++
      '"' :: ':' :: cs))) = _ := skipSpace_append hspace (stopsAt_cons _ (by decide))
  rw [readFields, List.append_assoc, quotedChars_append, hskip]
  have hcolon : skipSpace (':' :: cs) = ':' :: cs :=
    skipSpace_of_stopsAt (stopsAt_cons _ (by decide))
  -- the two sides may differ in the names that Lean gave their cases
  simp only [readString_escaped, hcolon, String.ofList_toList] <;> rfl

theorem readFields_spelled {sp : Spacing} (d : Nat) (name : String) {v : Value}
    {fields : List (String × Value)} (hv : ReadsBack sp v) (hf : ∀ f ∈ fields, ReadsBack sp f.2)
    {fuel depth : Nat} (space rest : List Char) (hfit : v.fits depth = true)
    (hfits : fitsFields depth fields = true)
    (hfuel : 2 * ((spelled sp (d + 1) v).length + (spelledFields sp d fields).length) ≤ fuel)
    (hspace : ∀ c ∈ space, isSpace c = true) :
    readFields fuel depth (space ++ quotedChars name ++ ':' :: (sp.colon ++
      spelled sp (d + 1) v) ++ (spelledFields sp d fields ++ rest)) =
      some ((name, v) :: fields, rest) := by
  induction fields generalizing name v fuel space with
  | nil =>
    simp only [spelledFields, List.length_append, List.length_singleton] at hfuel
    obtain ⟨fuel, rfl⟩ : ∃ f, fuel = f + 1 := ⟨fuel - 1, by omega⟩
    have hread := hv (d + 1) fuel depth sp.colon (sp.after d ++ '\x7d' :: rest) hfit (by omega)
      sp.colon_space (stopsAt_space_append (sp.after_space d) (by decide))
    have hskip := skipSpace_append (sp.after_space d)
      (stopsAt_cons (c := '\x7d') rest (by decide))
    rw [spelledFields, List.append_assoc (sp.after d), List.singleton_append, List.append_assoc,
      List.cons_append, readFields_name hspace, hread]
    simp only [hskip]
  | cons f fields ih =>
    obtain ⟨next, w⟩ := f
    simp only [spelledFields, List.length_append, List.length_cons] at hfuel
    obtain ⟨fuel, rfl⟩ : ∃ f, fuel = f + 1 := ⟨fuel - 1, by omega⟩
    have hw := (fitsFields_iff.1 hfits) (next, w) List.mem_cons_self
    have hrest := fitsFields_iff.2 fun x hx =>
      fitsFields_iff.1 hfits x (List.mem_cons_of_mem _ hx)
    have hothers := ih next (hf (next, w) List.mem_cons_self)
      (fun x hx => hf x (List.mem_cons_of_mem _ hx)) _ hw hrest
      (by omega : 2 * ((spelled sp (d + 1) w).length + (spelledFields sp d fields).length) ≤ fuel)
      (sp.before_space d)
    have hread := hv (d + 1) fuel depth sp.colon (',' :: (sp.before d ++ quotedChars next ++
      ':' :: (sp.colon ++ spelled sp (d + 1) w) ++ (spelledFields sp d fields ++ rest))) hfit
      (by omega) sp.colon_space (stopsAt_cons _ (by decide))
    have hskip := skipSpace_of_stopsAt (stopsAt_cons (c := ',') (sp.before d ++
      quotedChars next ++ ':' :: (sp.colon ++ spelled sp (d + 1) w) ++
        (spelledFields sp d fields ++ rest)) (by decide))
    rw [spelledFields, List.cons_append, List.append_assoc (sp.before d ++ _ ++ _),
      List.append_assoc (space ++ _), List.cons_append, readFields_name hspace, hread]
    simp only [hskip, hothers, Option.map_some]

/-- It is enough to look at what is left after the space in front. -/
theorem ReadsBack.of_skipSpace {sp : Spacing} {v : Value}
    (h : ∀ (d fuel depth : Nat) (cs rest : List Char), v.fits depth = true →
      2 * (spelled sp d v).length ≤ fuel + 1 → StopsAt continuesNumber rest →
      skipSpace cs = spelled sp d v ++ rest →
      readValue (fuel + 1) depth cs = some (v, rest)) : ReadsBack sp v := by
  intro d fuel depth space rest hfit hfuel hspace hrest
  obtain ⟨fuel, rfl⟩ : ∃ f, fuel = f + 1 := by
    obtain ⟨c, cs, h, -⟩ := exists_spelled_eq sp d hfit
    rw [h, List.length_cons] at hfuel
    exact ⟨fuel - 1, by omega⟩
  exact h d fuel depth _ rest hfit hfuel hrest (skipSpace_spelled sp d hfit hspace rest)

theorem readsBack_number (sp : Spacing) (n : Number) : ReadsBack sp (.number n) := by
  refine .of_skipSpace fun d fuel depth cs rest hfit _ hrest hskip => ?_
  have hn : n.isWhole = true := by simpa [Value.fits] using hfit
  obtain ⟨c, tail, hc, hs⟩ := Number.exists_chars_eq hn
  have hread := readNumber_chars hn hrest
  rw [spelled, hc, List.cons_append] at hskip
  rw [hc, List.cons_append] at hread
  rw [readValue_number hskip hs, hread]
  rfl

theorem skipSpace_items (sp : Spacing) (d : Nat) {depth : Nat} {v : Value} (rest : List Char)
    (h : v.fits depth = true) : ∃ c cs, spelled sp (d + 1) v = c :: cs ∧ c ≠ ']' ∧
      skipSpace (sp.before d ++ spelled sp (d + 1) v ++ rest) = c :: (cs ++ rest) := by
  obtain ⟨c, cs, hc, -, hne⟩ := exists_spelled_eq sp (d + 1) h
  refine ⟨c, cs, hc, hne, ?_⟩
  rw [skipSpace_spelled sp (d + 1) h (sp.before_space d), hc, List.cons_append]

theorem readsBack_array {sp : Spacing} {items : List Value}
    (hi : ∀ v ∈ items, ReadsBack sp v) : ReadsBack sp (.array items) := by
  refine .of_skipSpace fun d fuel depth cs rest hfit hfuel hrest hskip => ?_
  cases depth with
  | zero => exact absurd hfit (by simp [Value.fits])
  | succ depth =>
    rw [readValue, hskip]
    cases items with
    | nil => rfl
    | cons v items =>
      have hfits : fitsItems depth (v :: items) = true := by simpa [Value.fits] using hfit
      have hfv := fitsItems_iff.1 hfits v List.mem_cons_self
      have hfi := fitsItems_iff.2 fun w hw =>
        fitsItems_iff.1 hfits w (List.mem_cons_of_mem _ hw)
      simp only [spelled, List.length_cons, List.length_append] at hfuel
      have hitems := readItems_spelled d (hi v List.mem_cons_self)
        (fun w hw => hi w (List.mem_cons_of_mem _ hw)) [] rest hfv hfi
        (by omega : _ ≤ fuel) (fun _ h => absurd h List.not_mem_nil)
      obtain ⟨c, tail, hc, hne, hstart⟩ := skipSpace_items sp d
        (spelledItems sp d items ++ rest) hfv
      rw [List.nil_append, hc, List.cons_append] at hitems
      simp only [spelled, List.cons_append, List.append_assoc] at hstart ⊢
      simp only [hstart]
      split
      · next heq => exact absurd (List.cons.inj heq).1 hne
      · rw [hitems]
        rfl

theorem readsBack_object {sp : Spacing} {fields : List (String × Value)}
    (hf : ∀ f ∈ fields, ReadsBack sp f.2) : ReadsBack sp (.object fields) := by
  refine .of_skipSpace fun d fuel depth cs rest hfit hfuel hrest hskip => ?_
  cases depth with
  | zero => exact absurd hfit (by simp [Value.fits])
  | succ depth =>
    rw [readValue, hskip]
    cases fields with
    | nil => rfl
    | cons f fields =>
      obtain ⟨name, v⟩ := f
      have hfits : fitsFields depth ((name, v) :: fields) = true := by
        simpa [Value.fits] using hfit
      have hfv := fitsFields_iff.1 hfits (name, v) List.mem_cons_self
      have hff := fitsFields_iff.2 fun w hw =>
        fitsFields_iff.1 hfits w (List.mem_cons_of_mem _ hw)
      simp only [spelled, List.length_cons, List.length_append] at hfuel
      have hv : ReadsBack sp v := hf (name, v) List.mem_cons_self
      have hfields := readFields_spelled d name hv
        (fun w hw => hf w (List.mem_cons_of_mem _ hw)) [] rest hfv hff
        (by omega : _ ≤ fuel) (fun _ h => absurd h List.not_mem_nil)
      have hstart := skipSpace_append (sp.before_space d) (stopsAt_cons (p := isSpace) (c := '"')
        (name.toList.flatMap escapeChar ++ '"' :: (':' :: (sp.colon ++
          (spelled sp (d + 1) v ++ (spelledFields sp d fields ++ rest))))) (by decide))
      simp only [List.nil_append, List.append_assoc, List.cons_append, quotedChars_append]
        at hfields
      simp only [spelled, List.cons_append, List.append_assoc, quotedChars_append] at hstart ⊢
      simp only [hstart]
      split
      · next heq => exact absurd (List.cons.inj heq).1 (by decide)
      · rw [hfields]
        rfl

/-- Both forms of a value that fits are read back. -/
theorem readsBack (sp : Spacing) (v : Value) : ReadsBack sp v := by
  induction v using Value.induction with
  | null =>
    refine .of_skipSpace fun d fuel depth cs rest _ _ _ hskip => ?_
    rw [readValue, hskip]
    rfl
  | bool b =>
    refine .of_skipSpace fun d fuel depth cs rest _ _ _ hskip => ?_
    rw [readValue, hskip]
    cases b <;> rfl
  | number n => exact readsBack_number sp n
  | string s =>
    refine .of_skipSpace fun d fuel depth cs rest _ _ _ hskip => ?_
    rw [readValue, hskip, spelled, quotedChars_append]
    simp only [readString_escaped, Option.map_some, String.ofList_toList]
  | array items ih => exact readsBack_array ih
  | object fields ih => exact readsBack_object ih

/-! ## Texts -/

theorem read?_spelled (sp : Spacing) {v : Value} (h : v.fits maxDepth = true) :
    read? (String.ofList (spelled sp 0 v)) = some v := by
  have hread := readsBack sp v 0 (2 * (spelled sp 0 v).length + 2) maxDepth [] [] h (by omega)
    (fun _ h => absurd h List.not_mem_nil) (stopsAt_nil _)
  simp only [List.nil_append, List.append_nil] at hread
  simp [read?, hread, skipSpace]

theorem read?_render {v : Value} (h : v.fits maxDepth = true) : read? v.render = some v := by
  rw [Value.render, ← spelled_compact 0]
  exact read?_spelled .compact h

theorem read?_renderIndented {v : Value} (h : v.fits maxDepth = true) :
    read? v.renderIndented = some v := by
  rw [Value.renderIndented, ← spelled_indented 0]
  exact read?_spelled .indented h

/-! ## Structures -/

theorem filter_name_of_mem {fields : Fields} (hd : fields.names.Nodup) {f : String × Value}
    (h : f ∈ fields) : fields.filter (·.1 == f.1) = [f] := by
  induction fields with
  | nil => exact absurd h List.not_mem_nil
  | cons g rest ih =>
    have hd : g.1 ∉ Fields.names rest ∧ (Fields.names rest).Nodup := List.nodup_cons.1 hd
    have hother {x y : String × Value} (hx : x.1 ∉ Fields.names rest) (hy : y ∈ rest) :
        y.1 ≠ x.1 := fun he => hx (he ▸ List.mem_map_of_mem hy)
    rcases List.mem_cons.1 h with rfl | h
    · have hnone : rest.filter (·.1 == f.1) = [] := by
        refine List.filter_eq_nil_iff.2 fun y hy => ?_
        rw [beq_eq_false_iff_ne.2 (hother hd.1 hy)]
        exact Bool.false_ne_true
      rw [List.filter_cons_of_pos (by exact beq_self_eq_true _), hnone]
    · have hne : (g.1 == f.1) = false := beq_eq_false_iff_ne.2 fun he => hother hd.1 h he.symm
      rw [List.filter_cons_of_neg (by rw [hne]; exact Bool.false_ne_true), ih hd.2 h]

/-- The parts of an object that has the named fields and no others. -/
theorem parts?_object (fields : Fields) (hd : fields.names.Nodup) :
    parts? fields.names (.object fields) = some (fields.map fun f => some f.2) := by
  have hmap : ∀ fs : Fields, (∀ f ∈ fs, f ∈ fields) →
      fs.names.mapM (uniqueField? fields) = some (fs.map fun f => some f.2) := by
    intro fs hfs
    induction fs with
    | nil => rfl
    | cons f fs ih =>
      have hf : uniqueField? fields f.1 = some (some f.2) := by
        rw [uniqueField?, filter_name_of_mem hd (hfs f List.mem_cons_self)]
      have hrest := ih fun g hg => hfs g (List.mem_cons_of_mem _ hg)
      rw [Fields.names] at hrest
      rw [Fields.names, List.map_cons, List.mapM_cons, hf, hrest]
      rfl
  exact hmap fields fun _ h => h

/-- A list is taken item by item. -/
theorem list?_map_map {α β : Type} {item : Value → Option β} {f : α → Value} {g : α → β}
    {xs : List α} (h : ∀ x ∈ xs, item (f x) = some (g x)) :
    list? item (.array (xs.map f)) = some (xs.map g) := by
  show (xs.map f).mapM item = _
  induction xs with
  | nil => rfl
  | cons x xs ih =>
    have hrest := ih fun y hy => h y (List.mem_cons_of_mem _ hy)
    rw [List.map_cons, List.mapM_cons, h x List.mem_cons_self, hrest]
    rfl

theorem list?_map {α : Type} {item : Value → Option α} {f : α → Value} {xs : List α}
    (h : ∀ x ∈ xs, item (f x) = some x) : list? item (.array (xs.map f)) = some xs :=
  (list?_map_map h).trans (congrArg some (List.map_id xs))

theorem list?_ofStrings (ss : List String) : list? string? (ofStrings ss) = some ss :=
  list?_map fun _ _ => rfl

theorem fits_ofStrings (ss : List String) (depth : Nat) :
    (ofStrings ss).fits (depth + 1) = true := by
  rw [ofStrings, Value.fits, fitsItems_iff]
  intro v hv
  obtain ⟨s, -, rfl⟩ := List.mem_map.1 hv
  rfl

/-- A structure with the fields of a value reads it back. -/
theorem readStructure?_render {fields : Fields} (h : (Value.object fields).fits maxDepth = true) :
    readStructure? fields.names (Value.object fields).render = some (.object fields) :=
  readStructure?_of_read? (read?_render h) fun _ => List.mem_map_of_mem

theorem readStructure?_renderIndented {fields : Fields}
    (h : (Value.object fields).fits maxDepth = true) :
    readStructure? fields.names (Value.object fields).renderIndented = some (.object fields) :=
  readStructure?_of_read? (read?_renderIndented h) fun _ => List.mem_map_of_mem

end Quarantine.Json
