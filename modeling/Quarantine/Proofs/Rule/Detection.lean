import Quarantine.Proofs.Pattern.Numerals
import Quarantine.Proofs.Rule.Standard
import Quarantine.Verdict

/-!
# What the standard rules find

Each of four rules of the standard table looks for one form of text.  The forms are said here
without patterns: a rule fails the values whose texts are of its form, and no others.  A value
that is null has no text and passes.

    123-45-6789   three, two and four digits      12/27        two and two digits
    123           three digits                    10.0.0.255   four numbers up to 255
-/

namespace Quarantine

open Quarantine.Expr Quarantine.Json Quarantine.Pattern Quarantine.Text

/-! ## Forms of texts -/

/-- So many decimal digits, of any script. -/
def IsDigits (k : Nat) (s : String) : Prop :=
  s.toList.length = k ∧ ∀ c ∈ s.toList, digit.contains c = true

def IsSsn (s : String) : Prop :=
  ∃ a b c, IsDigits 3 a ∧ IsDigits 2 b ∧ IsDigits 4 c ∧ s = a ++ "-" ++ b ++ "-" ++ c

def IsExpiryDate (s : String) : Prop := ∃ a b, IsDigits 2 a ∧ IsDigits 2 b ∧ s = a ++ "/" ++ b

def IsSecurityCode (s : String) : Prop := IsDigits 3 s

def IsIpv4 (s : String) : Prop := ∃ a b c d : Nat, a ≤ 255 ∧ b ≤ 255 ∧ c ≤ 255 ∧ d ≤ 255 ∧
  s = toString a ++ "." ++ toString b ++ "." ++ toString c ++ "." ++ toString d

/-! ## Words of patterns as texts -/

theorem mem_digits_iff {k : Nat} {s : String} : s.toList ∈ letters digit ^ k ↔ IsDigits k s :=
  mem_letters_pow_iff

theorem mem_numerals_toList_iff {P : Nat → Prop} {s : String} :
    s.toList ∈ numerals P ↔ ∃ n, P n ∧ s = toString n := by
  rw [mem_numerals_iff]
  simp only [← Nat.toList_repr, String.toList_inj, Nat.toString_eq_repr]

/-- Two texts with one character between them. -/
theorem mem_joined_iff {L M : Language Char} {c : Char} {s : String} :
    s.toList ∈ L * (letters (.singleton c) * M) ↔
      ∃ a b : String, a.toList ∈ L ∧ b.toList ∈ M ∧ s = a ++ String.singleton c ++ b := by
  constructor
  · intro h
    obtain ⟨a, ha, bs, hbs, hs⟩ := Language.mem_mul.1 h
    obtain ⟨-, ⟨d, hd, rfl⟩, b, hb, rfl⟩ := Language.mem_mul.1 hbs
    obtain rfl := Char.toNat_inj.1 ((CharSet.contains_singleton c d).1 hd)
    refine ⟨String.ofList a, String.ofList b, ?_, ?_, ?_⟩
    · rwa [String.toList_ofList]
    · rwa [String.toList_ofList]
    · rw [← String.toList_inj, ← hs]
      simp
  · rintro ⟨a, b, ha, hb, rfl⟩
    have hc : [c] ∈ letters (.singleton c) := ⟨c, (CharSet.contains_singleton c c).2 rfl, rfl⟩
    rw [String.toList_append, String.toList_append, List.append_assoc]
    exact Language.append_mem_mul ha (Language.append_mem_mul (by simpa using hc) hb)

/-! ## Patterns -/

/-- So many digits. -/
def digits (k : Nat) : Pattern.Node := .repeated k (some k) true (.set digit)

theorem spells_digits (k : Nat) : Spells (digits k) (letters digit ^ k) :=
  (spells_set digit).times true k

theorem spells_char (c : Char) : Spells (.char c) (letters (.singleton c)) := spells_set _

section

variable {p : Pattern} {s : String}

theorem isMatch_ssn_iff (hp : p.node = .sequence [.look .textStart, digits 3, .char '-', digits 2,
    .char '-', digits 4, .look .textEnd]) : p.isMatch s = true ↔ IsSsn s := by
  have hspells : List.Forall₂ Spells [digits 3, .char '-', digits 2, .char '-', digits 4] _ :=
    .cons (spells_digits 3) <| .cons (spells_char '-') <| .cons (spells_digits 2) <|
      .cons (spells_char '-') <| .cons (spells_digits 4) .nil
  rw [isMatch_anchored_iff hp hspells]
  simp only [List.prod_cons, List.prod_nil, mul_one, mem_joined_iff, mem_digits_iff]
  constructor
  · rintro ⟨a, -, ha, ⟨b, c, hb, hc, rfl⟩, rfl⟩
    refine ⟨a, b, c, ha, hb, hc, ?_⟩
    simp only [String.append_assoc]
    rfl
  · rintro ⟨a, b, c, ha, hb, hc, rfl⟩
    refine ⟨a, _, ha, ⟨b, c, hb, hc, rfl⟩, ?_⟩
    simp only [String.append_assoc]
    rfl

theorem isMatch_expiryDate_iff (hp : p.node = .sequence [.look .textStart, digits 2, .char '/',
    digits 2, .look .textEnd]) : p.isMatch s = true ↔ IsExpiryDate s := by
  have hspells : List.Forall₂ Spells [digits 2, .char '/', digits 2] _ :=
    .cons (spells_digits 2) <| .cons (spells_char '/') <| .cons (spells_digits 2) .nil
  rw [isMatch_anchored_iff hp hspells]
  simp only [List.prod_cons, List.prod_nil, mul_one, mem_joined_iff, mem_digits_iff]
  rfl

theorem isMatch_securityCode_iff (hp : p.node = .sequence [.look .textStart, digits 3,
    .look .textEnd]) : p.isMatch s = true ↔ IsSecurityCode s := by
  have hspells : List.Forall₂ Spells [digits 3] _ := .cons (spells_digits 3) .nil
  rw [isMatch_anchored_iff hp hspells]
  simp only [List.prod_cons, List.prod_nil, mul_one, mem_digits_iff]
  rfl

theorem isMatch_ipv4_iff (hp : p.node = .sequence [.look .textStart,
    .repeated 3 (some 3) true (.group 1 (.sequence [octet, .char '.'])), octet, .look .textEnd]) :
    p.isMatch s = true ↔ IsIpv4 s := by
  have hpart : Spells (.sequence [octet, .char '.']) _ :=
    .sequence (.cons spells_octet (.cons (spells_char '.') .nil))
  have hspells : List.Forall₂ Spells [.repeated 3 (some 3) true (.group 1
      (.sequence [octet, .char '.'])), octet] _ :=
    .cons ((hpart.group 1).times true 3) (.cons spells_octet .nil)
  rw [isMatch_anchored_iff hp hspells]
  simp only [List.prod_cons, List.prod_nil, mul_one, pow_succ, pow_zero, one_mul, mul_assoc,
    mem_joined_iff, mem_numerals_toList_iff]
  constructor
  · rintro ⟨-, -, ⟨a, ha, rfl⟩, ⟨-, -, ⟨b, hb, rfl⟩, ⟨-, -, ⟨c, hc, rfl⟩, ⟨d, hd, rfl⟩, rfl⟩, rfl⟩,
      rfl⟩
    refine ⟨a, b, c, d, ha, hb, hc, hd, ?_⟩
    simp only [String.append_assoc]
    rfl
  · rintro ⟨a, b, c, d, ha, hb, hc, hd, rfl⟩
    refine ⟨_, _, ⟨a, ha, rfl⟩, ⟨_, _, ⟨b, hb, rfl⟩, ⟨_, _, ⟨c, hc, rfl⟩, ⟨d, hd, rfl⟩, rfl⟩, rfl⟩,
      ?_⟩
    simp only [String.append_assoc]
    rfl

end

/-! ## Rules -/

/-- A rule about a pattern fails the values whose texts the pattern matches. -/
theorem verdict_of_pattern {rule : Rule} {column : String} {p : Pattern}
    (hp : rule.predicate = .ok ⟨.castText (.column column), p, true⟩) {r : Record} {v : Value}
    (hv : r.get? column = some v) :
    (rule.judge r).verdict = if v.text?.any p.isMatch then .fail else .pass := by
  have hholds : Predicate.holds ⟨.castText (.column column), p, true⟩ r =
      .ok (!v.text?.any p.isMatch) := by
    unfold Predicate.holds
    rw [Expr.eval, Expr.eval, hv]
    dsimp only [bind, Except.bind, pure, Except.pure]
    cases v.text? with
    | none => rfl
    | some s =>
      show Except.ok (p.isMatch s != true) = .ok (!p.isMatch s)
      rw [Bool.bne_true]
  unfold Rule.judge Rule.check
  rw [hp]
  dsimp only
  rw [hholds]
  cases v.text?.any p.isMatch <;> rfl

/-- The predicate of a constraint, by the tree of its pattern.  The pattern has no placeholder, and
nothing that a quoted text would change. -/
theorem exists_pattern {t : Template} {pattern : String} {node : Pattern.Node}
    {IsSought : String → Prop} (ht : t.constraint = RuleTable.unlessMatches pattern)
    (hholds : holdsPlaceholder pattern.toList = false)
    (hsource : textBody '"' (pattern.toList ++ ['"']) = some (pattern.toList, []))
    (hnode : (compile? pattern).map (·.node) = some node)
    (hmatch : ∀ {p : Pattern} {s : String}, p.node = node → (p.isMatch s = true ↔ IsSought s))
    (column : String) : ∃ p : Pattern, (∀ s, p.isMatch s = true ↔ IsSought s) ∧
      (Rule.expand t column).predicate = .ok ⟨.castText (.column column), p, true⟩ := by
  obtain ⟨p, hp, hnode⟩ := Option.map_eq_some_iff.1 hnode
  have hpredicate := RuleTable.predicate_of_source ht hholds hsource column
  rw [String.ofList_toList, patternOf, hp] at hpredicate
  exact ⟨p, fun s => hmatch hnode, hpredicate⟩

/-- The forms of what is found, by the names of the templates. -/
def sought : List (String × (String → Prop)) :=
  [(placeholder ++ " may contain ssn", IsSsn),
    (placeholder ++ " may contain expiry date", IsExpiryDate),
    (placeholder ++ " may contain security code", IsSecurityCode),
    (placeholder ++ " may contain ipv4", IsIpv4)]

/-- The standard table has a template for each form. -/
theorem exists_template_sought {x : String × (String → Prop)} (hx : x ∈ sought) :
    ∃ t ∈ RuleTable.standard.templates, t.name = x.1 := by
  simp only [sought, List.mem_cons, List.not_mem_nil, or_false] at hx
  rcases hx with rfl | rfl | rfl | rfl
  · exact ⟨_, .tail _ (.head _), rfl⟩
  · exact ⟨_, .tail _ (.tail _ (.head _)), rfl⟩
  · exact ⟨_, .tail _ (.tail _ (.tail _ (.head _))), rfl⟩
  · exact ⟨_, .tail _ (.tail _ (.tail _ (.tail _ (.tail _ (.head _))))), rfl⟩

/-- The pattern of a rule of the standard table matches the texts of its form. -/
theorem exists_pattern_sought {t : Template} (ht : t ∈ RuleTable.standard.templates)
    {IsSought : String → Prop} (hsought : (t.name, IsSought) ∈ sought) (column : String) :
    ∃ p : Pattern, (∀ s, p.isMatch s = true ↔ IsSought s) ∧
      (Rule.expand t column).predicate = .ok ⟨.castText (.column column), p, true⟩ := by
  simp only [RuleTable.standard, List.mem_cons, List.not_mem_nil, or_false] at ht
  rcases ht with rfl | rfl | rfl | rfl | rfl | rfl <;>
    simp only [sought, List.mem_cons, Prod.mk.injEq, String.append_right_inj, String.reduceEq,
      false_and, true_and, or_false, false_or, List.not_mem_nil] at hsought <;>
    subst hsought
  · exact exists_pattern rfl (by decide +kernel) (by decide +kernel) (by decide +kernel)
      isMatch_ssn_iff column
  · exact exists_pattern rfl (by decide +kernel) (by decide +kernel) (by decide +kernel)
      isMatch_expiryDate_iff column
  · exact exists_pattern rfl (by decide +kernel) (by decide +kernel) (by decide +kernel)
      isMatch_securityCode_iff column
  · exact exists_pattern rfl (by decide +kernel) (by decide +kernel) (by decide +kernel)
      isMatch_ipv4_iff column

/-- A rule of the standard table fails the values whose texts are of its form, and passes all
others. -/
theorem verdict_sought {t : Template} (ht : t ∈ RuleTable.standard.templates)
    {IsSought : String → Prop} (hsought : (t.name, IsSought) ∈ sought) {column : String}
    {r : Record} {v : Value} (hv : r.get? column = some v) :
    (((Rule.expand t column).judge r).verdict = .fail ↔ ∃ s, v.text? = some s ∧ IsSought s) ∧
      (((Rule.expand t column).judge r).verdict = .pass ↔
        ∀ s, v.text? = some s → ¬ IsSought s) := by
  obtain ⟨p, hmatch, hpredicate⟩ := exists_pattern_sought ht hsought column
  have hany : v.text?.any p.isMatch = true ↔ ∃ s, v.text? = some s ∧ IsSought s := by
    simp only [Option.any_eq_true, hmatch]
  rw [verdict_of_pattern hpredicate hv]
  by_cases hfound : ∃ s, v.text? = some s ∧ IsSought s
  · rw [if_pos (hany.2 hfound)]
    refine ⟨iff_of_true rfl hfound, iff_of_false Verdict.noConfusion ?_⟩
    obtain ⟨s, htext, hs⟩ := hfound
    exact fun hnone => hnone s htext hs
  · rw [if_neg (mt hany.1 hfound)]
    exact ⟨iff_of_false Verdict.noConfusion hfound,
      iff_of_true rfl fun s htext hs => hfound ⟨s, htext, hs⟩⟩

/-- The number 123 has the form of a security code, and null has none. -/
theorem verdict_sought_number : ∃ t ∈ RuleTable.standard.templates,
    (t.name, IsSecurityCode) ∈ sought ∧
    ((Rule.expand t "c").judge ⟨[("c", .number (.natural ⟨123, by decide⟩))], by decide⟩).verdict =
      .fail ∧
    ((Rule.expand t "c").judge ⟨[("c", .null)], by decide⟩).verdict = .pass := by
  have hform : (placeholder ++ " may contain security code", IsSecurityCode) ∈ sought :=
    .tail _ (.tail _ (.head _))
  obtain ⟨t, ht, hname⟩ := exists_template_sought hform
  have hsought : (t.name, IsSecurityCode) ∈ sought := by
    rw [hname]
    exact hform
  refine ⟨t, ht, hsought, ?_, ?_⟩
  · have hdigits : "123".toList.all digit.contains = true := by decide +kernel
    exact (verdict_sought ht hsought rfl).1.2
      ⟨"123", by decide +kernel, rfl, List.all_eq_true.1 hdigits⟩
  · refine (verdict_sought ht hsought rfl).2.2 ?_
    rintro s ⟨⟩

end Quarantine
