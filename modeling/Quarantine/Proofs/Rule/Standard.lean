import Quarantine.Proofs.Expr.Tokens
import Quarantine.Proofs.Rule.Filling
import Quarantine.Rule.RuleSet
import Quarantine.Rule.Table

/-!
# The rules of the standard table

For every column the rules of the standard table can be read, and the trees are those that
their texts show.  The constant that four of the actions leave or put passes all constraints.

    constraint of c   not (text of c matches the pattern)
    action of c       a new value of c
-/

namespace Quarantine

open Quarantine.Decimal Quarantine.Expr Quarantine.Json

theorem head?_append_of {s : String} {c : Char} (h : s.toList.head? = some c) (t u : String) :
    (s ++ t ++ u).toList.head? = some c := by
  rw [String.toList_append, String.toList_append, List.head?_append, List.head?_append, h]
  rfl

theorem append_regroup (a b c d e : String) : a ++ b ++ c ++ d ++ e = a ++ b ++ (c ++ d ++ e) := by
  simp only [String.append_assoc]

/-! ## Reading the rules of the standard table -/

namespace RuleTable

/-- What follows the column in a constraint. -/
def afterColumn (pattern : String) : String :=
  " AS STRING) NOT REGEXP(\"" ++ pattern ++ "\") AS result"

theorem lexes_of_tokens {text : String} {ts : List Token}
    (h : (tokens text).toOption.map (fun x => x.1.map Lexeme.token) = some ts) :
    Lexes text.toList ts := by
  obtain ⟨⟨ls, stop⟩, hls, hts⟩ := Option.map_eq_some_iff.1 h
  refine tokens_ok_iff.2 ⟨ls, stop, ?_, hts⟩
  cases ht : tokens text with
  | error e =>
    rw [ht] at hls
    cases hls
  | ok x =>
    rw [ht] at hls
    rw [Option.some.inj hls]

section

variable {before after pattern : String} {pre post : List Char}
  (hbefore : before.toList = pre ++ ['"']) (hafter : after.toList = '"' :: post)

include hbefore hafter

/-- A pattern between quotation marks, and what stands around it. -/
theorem toList_around : (before ++ pattern ++ after).toList =
    pre ++ '"' :: (pattern.toList ++ '"' :: post) := by
  rw [String.toList_append, String.toList_append, hbefore, hafter, List.append_assoc,
    List.append_assoc, List.singleton_append]

theorem not_holds_around (hpre : holdsPlaceholder pre = false)
    (hpost : holdsPlaceholder post = false) (h : holdsPlaceholder pattern.toList = false) :
    holdsPlaceholder (before ++ pattern ++ after).toList = false := by
  rw [toList_around hbefore hafter, holdsPlaceholder_append_quote, holdsPlaceholder_append_quote,
    hpre, h, hpost]
  rfl

theorem lexes_around {source : List Char} {ts us : List Token} (hpre : Lexes pre ts)
    (hpost : Lexes post us)
    (hends : ∀ t ∈ ts.getLast?, t.Ends ('"' :: (pattern.toList ++ '"' :: post)))
    (h : textBody '"' (pattern.toList ++ ['"']) = some (source, [])) :
    Lexes (before ++ pattern ++ after).toList (ts ++ .text (String.ofList source) :: us) := by
  rw [toList_around hbefore hafter]
  exact hpre.append hends (.text (.inr rfl) h hpost)

end

theorem toList_open : " AS STRING) NOT REGEXP(\"".toList =
    " AS STRING) NOT REGEXP(".toList ++ ['"'] := by rfl

theorem toList_close : "\") AS result".toList = '"' :: ") AS result".toList := by rfl

theorem not_holds_afterColumn {pattern : String} (h : holdsPlaceholder pattern.toList = false) :
    holdsPlaceholder (afterColumn pattern).toList = false :=
  not_holds_around toList_open toList_close (by decide +kernel) (by decide +kernel) h

theorem lexes_afterColumn {pattern : String} {source : List Char}
    (h : textBody '"' (pattern.toList ++ ['"']) = some (source, [])) :
    Lexes (afterColumn pattern).toList [.word "AS", .word "STRING", .closeParen, .word "NOT",
      .word "REGEXP", .openParen, .text (String.ofList source), .closeParen, .word "AS",
      .word "result"] := by
  have hopen : Lexes " AS STRING) NOT REGEXP(".toList
      [.word "AS", .word "STRING", .closeParen, .word "NOT", .word "REGEXP", .openParen] :=
    lexes_of_tokens (by decide +kernel)
  have hclose : Lexes ") AS result".toList [.closeParen, .word "AS", .word "result"] :=
    lexes_of_tokens (by decide +kernel)
  exact lexes_around toList_open toList_close hopen hclose (by rintro t ⟨⟩; trivial) h

theorem lexes_constraint (column : String) {pattern : String} {source : List Char}
    (h : textBody '"' (pattern.toList ++ ['"']) = some (source, [])) :
    Lexes ("CAST(" ++ quoteName column ++ afterColumn pattern).toList
      [.word "CAST", .openParen, .name column, .word "AS", .word "STRING", .closeParen,
        .word "NOT", .word "REGEXP", .openParen, .text (String.ofList source), .closeParen,
        .word "AS", .word "result"] := by
  rw [String.toList_append, String.toList_append, List.append_assoc]
  have hstart : Lexes "CAST(".toList [.word "CAST", .openParen] :=
    lexes_of_tokens (by decide +kernel)
  have hhead : (afterColumn pattern).toList.head? = some ' ' :=
    head?_append_of (by decide +kernel) _ _
  exact hstart.append (by rintro t ⟨⟩; trivial)
    (.quoteName column (stopsAt_of_head? hhead (by decide)) (lexes_afterColumn h))

theorem parse_constraint {text column : String} {source : String} (h : Lexes text.toList
      [.word "CAST", .openParen, .name column, .word "AS", .word "STRING", .closeParen,
        .word "NOT", .word "REGEXP", .openParen, .text source, .closeParen,
        .word "AS", .word "result"]) :
    parsePredicate text = (patternOf source).map fun p =>
      ⟨.castText (.column column), p, true⟩ := by
  obtain ⟨offset, stop, hstart⟩ := start_of_lexes h
  rw [parsePredicate, hstart]
  cases hp : patternOf source with
  | error e =>
    show (do let p ← patternOf source; _) = _
    rw [hp]
    rfl
  | ok p =>
    show (do let p ← patternOf source; _) = _
    rw [hp]
    rfl

/-- The predicate of a constraint waits for its pattern, and for nothing else. -/
theorem predicate_of_source {t : Template} {pattern : String} {source : List Char}
    (ht : t.constraint = unlessMatches pattern) (hholds : holdsPlaceholder pattern.toList = false)
    (hsource : textBody '"' (pattern.toList ++ ['"']) = some (source, [])) (column : String) :
    (Rule.expand t column).predicate = (patternOf (String.ofList source)).map fun p =>
      ⟨.castText (.column column), p, true⟩ := by
  have hfill : fill (quoteName column) t.constraint =
      "CAST(" ++ quoteName column ++ afterColumn pattern := by
    have htext : t.constraint = "CAST(" ++ placeholder ++ afterColumn pattern :=
      ht.trans (append_regroup ..)
    rw [htext, fill_between _ (by decide +kernel) (not_holds_afterColumn hholds)]
  have hparse := parse_constraint (lexes_constraint column hsource)
  rw [← hfill] at hparse
  exact hparse

/-- That a text passes a constraint with this pattern. -/
def passes (pattern : List Char) (text : String) : Bool :=
  !holdsPlaceholder pattern &&
    match textBody '"' (pattern ++ ['"']) with
    | some (source, []) => (Pattern.compile? (String.ofList source)).any (!·.isMatch text)
    | _ => false

/-- The predicate of a constraint, for a text that passes it. -/
theorem predicate_of_passes {t : Template} {pattern text : String}
    (ht : t.constraint = unlessMatches pattern) (h : passes pattern.toList text = true)
    (column : String) : ∃ p, (Rule.expand t column).predicate =
      .ok ⟨.castText (.column column), p, true⟩ ∧ p.isMatch text = false := by
  unfold passes at h
  rw [Bool.and_eq_true, Bool.not_eq_true'] at h
  obtain ⟨hholds, h⟩ := h
  split at h
  · next source hsource =>
    cases hp : Pattern.compile? (String.ofList source) with
    | none =>
      rw [hp] at h
      cases h
    | some p =>
      rw [hp] at h
      have hpredicate := predicate_of_source ht hholds hsource column
      rw [patternOf, hp] at hpredicate
      exact ⟨p, hpredicate, by simpa using h⟩
  · cases h

theorem parse_constant {text column source : String} (h : Lexes text.toList
      [.text source, .word "AS", .name column]) :
    parseRedaction text = .ok ⟨.literal (.string source), column⟩ := by
  obtain ⟨offset, stop, hstart⟩ := start_of_lexes h
  rw [parseRedaction, hstart]
  rfl

theorem parse_replace {text column source put : String} (h : Lexes text.toList
      [.word "regexp_replace", .openParen, .name column, .comma, .text source, .comma, .text put,
        .closeParen, .word "AS", .name column]) :
    parseRedaction text = (patternOf source).map fun p =>
      ⟨.regexpReplace (.column column) p (.literal (.string put)), column⟩ := by
  obtain ⟨offset, stop, hstart⟩ := start_of_lexes h
  have hcall : call "regexp_replace" [.column column, .literal (.string source),
      .literal (.string put)] = (patternOf source).map fun p =>
        .regexpReplace (.column column) p (.literal (.string put)) := rfl
  -- the call waits for the pattern, and nothing after it does
  have hexpression : expression ⟨placed offset [.word "regexp_replace", .openParen, .name column,
        .comma, .text source, .comma, .text put, .closeParen, .word "AS", .name column], stop⟩ =
      (do return (← call "regexp_replace" [.column column, .literal (.string source),
        .literal (.string put)],
          ⟨[⟨offset 8, .word "AS"⟩, ⟨offset 9, .name column⟩], stop⟩)) := rfl
  rw [parseRedaction, hstart]
  show expression _ >>= _ = _
  rw [hexpression, hcall]
  cases patternOf source with
  | error e => rfl
  | ok p => rfl

/-- The action on numbers of cards. -/
def lastThree (column : String) : Expr :=
  .concat [.literal (.string "XXXXXXXXXXXXXXXX"), .substr (.column column)
    (.literal (integerValue true ⟨3, by decide⟩)) (.literal (integerValue false ⟨3, by decide⟩))]

theorem parse_lastThree {text column : String} (h : Lexes text.toList
      [.word "concat", .openParen, .text "XXXXXXXXXXXXXXXX", .comma, .word "substr", .openParen,
        .name column, .comma, .minus, .number 3, .comma, .number 3, .closeParen, .closeParen,
        .word "AS", .name column]) :
    parseRedaction text = .ok ⟨lastThree column, column⟩ := by
  obtain ⟨offset, stop, hstart⟩ := start_of_lexes h
  rw [parseRedaction, hstart]
  rfl

/-! ## The actions of the standard table -/

/-- The text that stands for a value that is not shown. -/
def redactedValue : Value := .string "[REDACTED]"

theorem ends_as (column : String) : (Token.word "AS").Ends (quoteName column).toList := by
  have hends := ends_quoteName (t := .word "AS") column [] (fun _ => Token.noConfusion)
  rwa [List.append_nil] at hends

theorem redaction_constant {t : Template} (ht : t.action = becomes redactedText)
    (column : String) :
    (Rule.expand t column).redaction = .ok ⟨.literal redactedValue, column⟩ := by
  have hstart : Lexes (redactedText ++ " AS ").toList [.text "[REDACTED]", .word "AS"] :=
    lexes_of_tokens (by decide +kernel)
  have hlexes : Lexes (redactedText ++ " AS " ++ quoteName column).toList
      [.text "[REDACTED]", .word "AS", .name column] := by
    rw [String.toList_append]
    refine hstart.append ?_ (.last column)
    rintro t ⟨⟩
    exact ends_as column
  have hfill : fill (quoteName column) t.action = redactedText ++ " AS " ++ quoteName column :=
    (congrArg (fill (quoteName column)) ht).trans (fill_last _ (by decide +kernel))
  have hparse := parse_constant hlexes
  rw [← hfill] at hparse
  exact hparse

/-- An action that names its column once more before the end. -/
theorem lexes_action (column : String) {before after : String} {ts us : List Token}
    (hbefore : Lexes before.toList ts) (hafter : Lexes after.toList (us ++ [.word "AS"]))
    (hts : ∀ t ∈ ts.getLast?, ∀ s, t ≠ .name s) (hhead : after.toList.head? = some ',') :
    Lexes (before ++ quoteName column ++ after ++ quoteName column).toList
      (ts ++ .name column :: (us ++ [.word "AS", .name column])) := by
  rw [String.toList_append, String.toList_append, String.toList_append, List.append_assoc,
    List.append_assoc]
  refine hbefore.append (fun t ht => ends_quoteName column _ (hts t ht)) (.quoteName column ?_ ?_)
  · rw [StopsAt, List.head?_append, hhead]
    rintro d ⟨⟩
    rfl
  · have hlast : ∀ t ∈ (us ++ [Token.word "AS"]).getLast?, t.Ends (quoteName column).toList := by
      intro t ht
      rw [List.getLast?_append] at ht
      obtain rfl := Option.some.inj ht
      exact ends_as column
    have h := hafter.append hlast (.last column)
    rwa [List.append_assoc] at h

theorem fill_action {t : Template} {before after : String}
    (ht : t.action = before ++ placeholder ++ after ++ " AS " ++ placeholder)
    (hbefore : holdsPlaceholder (before.toList ++ ['\x7b']) = false)
    (hafter : holdsPlaceholder ((after ++ " AS ").toList ++ ['\x7b']) = false) (column : String) :
    fill (quoteName column) t.action =
      before ++ quoteName column ++ (after ++ " AS ") ++ quoteName column := by
  rw [ht, ← fill_between_and_last _ hbefore hafter]
  simp only [String.append_assoc]

/-- The action on numbers of cards writes its column. -/
theorem redaction_lastThree {t : Template}
    (ht : t.action = becomes ("concat('XXXXXXXXXXXXXXXX', substr(" ++ placeholder ++ ", -3, 3))"))
    (column : String) : (Rule.expand t column).redaction = .ok ⟨lastThree column, column⟩ := by
  have hbefore : Lexes "concat('XXXXXXXXXXXXXXXX', substr(".toList [.word "concat", .openParen,
      .text "XXXXXXXXXXXXXXXX", .comma, .word "substr", .openParen] :=
    lexes_of_tokens (by decide +kernel)
  have hafter : Lexes (", -3, 3))" ++ " AS ").toList ([.comma, .minus, .number 3, .comma, .number 3,
      .closeParen, .closeParen] ++ [.word "AS"]) := lexes_of_tokens (by decide +kernel)
  have hlexes := lexes_action column hbefore hafter (by rintro t ⟨⟩ s; exact Token.noConfusion)
    (by decide +kernel)
  have hparse := parse_lastThree hlexes
  rw [← fill_action ht (by decide +kernel) (by decide +kernel)] at hparse
  exact hparse

/-- An action that replaces what matches a pattern writes its column. -/
theorem redaction_replace {t : Template} (after : String) {source put : String}
    (ht : t.action = becomes ("regexp_replace(" ++ placeholder ++ after))
    (hafter : (tokens (after ++ " AS ")).toOption.map (fun x => x.1.map Lexeme.token) =
      some ([.comma, .text source, .comma, .text put, .closeParen] ++ [.word "AS"]))
    (hholds : holdsPlaceholder ((after ++ " AS ").toList ++ ['\x7b']) = false)
    (hhead : (after ++ " AS ").toList.head? = some ',') {p : Pattern}
    (hp : Pattern.compile? source = some p) (column : String) :
    (Rule.expand t column).redaction =
      .ok ⟨.regexpReplace (.column column) p (.literal (.string put)), column⟩ := by
  have hbefore : Lexes "regexp_replace(".toList [.word "regexp_replace", .openParen] :=
    lexes_of_tokens (by decide +kernel)
  have hlexes := lexes_action column hbefore (lexes_of_tokens hafter)
    (by rintro t ⟨⟩ s; exact Token.noConfusion) hhead
  have hparse := parse_replace hlexes
  rw [← fill_action ht (by decide +kernel) hholds, patternOf, hp] at hparse
  exact hparse

/-- The other actions put the constant, or replace what matches a pattern, and nothing of the
constant does. -/
theorem redaction_tail {t : Template} (ht : t ∈ standard.templates.tail) (column : String) :
    (Rule.expand t column).redaction = .ok ⟨.literal redactedValue, column⟩ ∨
      ∃ p put, (Rule.expand t column).redaction =
          .ok ⟨.regexpReplace (.column column) p (.literal (.string put)), column⟩ ∧
        p.replaceAll "[REDACTED]" put = "[REDACTED]" := by
  simp only [standard, List.tail_cons, List.mem_cons, List.not_mem_nil, or_false] at ht
  rcases ht with rfl | rfl | rfl | rfl | rfl
  case inl | inr.inr.inl | inr.inr.inr.inr => exact .inl (redaction_constant rfl column)
  case inr.inl =>
    have hreplace : (Pattern.compile? "^(0[1-9]|1[0-2])").map
        (fun p => p.replaceAll "[REDACTED]" "XX") = some "[REDACTED]" := by decide +kernel
    obtain ⟨p, hp, hreplace⟩ := Option.map_eq_some_iff.1 hreplace
    exact .inr ⟨p, "XX", redaction_replace ", '^(0[1-9]|1[0-2])', 'XX')" rfl (by decide +kernel)
      (by decide +kernel) (by decide +kernel) hp column, hreplace⟩
  case inr.inr.inr.inl =>
    have hreplace : (Pattern.compile? "^.*@").map
        (fun p => p.replaceAll "[REDACTED]" "") = some "[REDACTED]" := by decide +kernel
    obtain ⟨p, hp, hreplace⟩ := Option.map_eq_some_iff.1 hreplace
    exact .inr ⟨p, "", redaction_replace ", '^.*@', '')" rfl (by decide +kernel)
      (by decide +kernel) (by decide +kernel) hp column, hreplace⟩

/-- All actions but the first leave the constant as it is. -/
theorem eval_standard {t : Template} (ht : t ∈ standard.templates.tail) {column : String}
    {r : Record} (hr : r.get? column = some redactedValue) :
    ∃ e, (Rule.expand t column).redaction = .ok ⟨e, column⟩ ∧ e.eval r = .ok redactedValue := by
  rcases redaction_tail ht column with h | ⟨p, put, h, hreplace⟩
  · exact ⟨_, h, by rw [Expr.eval]⟩
  · refine ⟨_, h, ?_⟩
    rw [Expr.eval, Expr.eval, hr, Expr.eval]
    show Except.ok (Value.string (p.replaceAll "[REDACTED]" put)) = _
    rw [hreplace]
    rfl

/-- An action writes the column of its rule. -/
theorem target_standard {t : Template} (ht : t ∈ standard.templates) (column : String) :
    ∃ e, (Rule.expand t column).redaction = .ok ⟨e, column⟩ := by
  rcases List.mem_cons.1 ht with rfl | ht
  · exact ⟨_, redaction_lastThree rfl column⟩
  · rcases redaction_tail ht column with h | ⟨p, put, h, -⟩
    · exact ⟨_, h⟩
    · exact ⟨_, h⟩

/-! ## The constraints of the standard table -/

/-- A constraint looks at the text of its column, and the constant passes it. -/
theorem predicate_standard {t : Template} (ht : t ∈ standard.templates) (column : String) :
    ∃ p, (Rule.expand t column).predicate = .ok ⟨.castText (.column column), p, true⟩ ∧
      p.isMatch "[REDACTED]" = false := by
  simp only [standard, List.mem_cons, List.not_mem_nil, or_false] at ht
  rcases ht with rfl | rfl | rfl | rfl | rfl | rfl
  all_goals
    refine predicate_of_passes rfl ?_ column
    simp only [octetPattern, String.toList_append, String.reduceToList]
    decide +kernel

/-- The constant passes every constraint. -/
theorem check_standard {t : Template} (ht : t ∈ standard.templates) {column : String}
    {r : Record} (hr : r.get? column = some redactedValue) :
    (Rule.expand t column).check r = .ok true := by
  obtain ⟨p, hpredicate, hmatch⟩ := predicate_standard ht column
  have hvalue : (Expr.castText (.column column)).eval r = .ok redactedValue := by
    rw [Expr.eval, Expr.eval, hr]
    rfl
  have hpasses : Predicate.holds ⟨.castText (.column column), p, true⟩ r = .ok true := by
    unfold Predicate.holds
    rw [hvalue]
    show Except.ok (p.isMatch "[REDACTED]" != true) = _
    rw [hmatch]
    rfl
  unfold Rule.check
  rw [hpredicate]
  dsimp only
  rw [hpasses]

end RuleTable

end Quarantine
