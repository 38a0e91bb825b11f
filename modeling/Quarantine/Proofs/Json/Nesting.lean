import Quarantine.Proofs.Json.ReadBack

/-!
# The limit of nesting

The limit of the reader does nothing but refuse what nests deeper: with a higher limit every text
is read as before, or as a value that nests deeper than the lower one.

    readValue depth cs = readValue (depth + k) cs, if the value nests no deeper than depth
-/

namespace Quarantine.Json

open Quarantine.Decimal

/-! ## Nesting -/

mutual

/-- Whether a value nests no deeper than some levels. -/
def Value.nests (depth : Nat) : Value → Bool
  | .array items => decide (0 < depth) && nestsItems (depth - 1) items
  | .object fields => decide (0 < depth) && nestsFields (depth - 1) fields
  | _ => true

def nestsItems (depth : Nat) : List Value → Bool
  | [] => true
  | v :: rest => v.nests depth && nestsItems depth rest

def nestsFields (depth : Nat) : List (String × Value) → Bool
  | [] => true
  | (_, v) :: rest => v.nests depth && nestsFields depth rest

end

/-! ## Reading with a higher limit -/

section

variable {α β : Type} {x y : Option α} {f : α → β} {p : β → Bool} {q : α → Bool}

theorem map_eq_filter (h : x = y.filter q) (hp : ∀ a, p (f a) = q a) :
    x.map f = (y.map f).filter p := by
  have hsame : p ∘ f = q := funext hp
  rw [h, Option.filter_map, hsame]

theorem map_eq_filter_self (hp : ∀ a, p (f a) = true) : x.map f = (x.map f).filter p := by
  cases x with
  | none => rfl
  | some a => rw [Option.map_some, Option.filter_some, if_pos (hp a)]

theorem filter_map_eq_none (hp : ∀ a, p (f a) = false) : (x.map f).filter p = none := by
  cases x with
  | none => rfl
  | some a => rw [Option.map_some, Option.filter_some, hp a, if_neg Bool.false_ne_true]

end

variable {fuel k : Nat}

theorem readValue_limit
    (hitems : ∀ depth cs, readItems fuel depth cs =
      (readItems fuel (depth + k) cs).filter fun p => nestsItems depth p.1)
    (hfields : ∀ depth cs, readFields fuel depth cs =
      (readFields fuel (depth + k) cs).filter fun p => nestsFields depth p.1)
    (depth : Nat) (cs : List Char) : readValue (fuel + 1) depth cs =
      (readValue (fuel + 1) (depth + k) cs).filter fun p => p.1.nests depth := by
  rw [readValue, readValue]
  split
  · rw [Option.filter_some]
    exact (if_pos rfl).symm
  · rw [Option.filter_some]
    exact (if_pos rfl).symm
  · rw [Option.filter_some]
    exact (if_pos rfl).symm
  · exact map_eq_filter_self fun a => rfl
  · cases depth with
    | zero =>
      cases k with
      | zero => rfl
      | succ k =>
        dsimp only [Nat.zero_add]
        split
        · rfl
        · exact (filter_map_eq_none fun a => rfl).symm
    | succ depth =>
      rw [Nat.add_right_comm]
      dsimp only
      split
      · rfl
      · exact map_eq_filter (hitems depth _) fun a => Bool.true_and _
  · cases depth with
    | zero =>
      cases k with
      | zero => rfl
      | succ k =>
        dsimp only [Nat.zero_add]
        split
        · rfl
        · exact (filter_map_eq_none fun a => rfl).symm
    | succ depth =>
      rw [Nat.add_right_comm]
      dsimp only
      split
      · rfl
      · exact map_eq_filter (hfields depth _) fun a => Bool.true_and _
  · split
    · exact map_eq_filter_self fun a => rfl
    · rfl
  · rfl

theorem readItems_limit
    (hvalue : ∀ depth cs, readValue fuel depth cs =
      (readValue fuel (depth + k) cs).filter fun p => p.1.nests depth)
    (hitems : ∀ depth cs, readItems fuel depth cs =
      (readItems fuel (depth + k) cs).filter fun p => nestsItems depth p.1)
    (depth : Nat) (cs : List Char) : readItems (fuel + 1) depth cs =
      (readItems (fuel + 1) (depth + k) cs).filter fun p => nestsItems depth p.1 := by
  rw [readItems, readItems, hvalue]
  cases readValue fuel (depth + k) cs with
  | none => rfl
  | some p =>
    obtain ⟨v, rest⟩ := p
    cases hv : v.nests depth with
    | true =>
      rw [Option.filter_some, if_pos hv]
      dsimp only
      split
      · rw [Option.filter_some]
        exact (if_pos (by rw [nestsItems, hv]; rfl)).symm
      · exact map_eq_filter (hitems depth _) fun a => by rw [nestsItems, hv, Bool.true_and]
      · rfl
    | false =>
      rw [Option.filter_some, if_neg (Bool.eq_false_iff.1 hv)]
      dsimp only
      split
      · rw [Option.filter_some]
        exact (if_neg (by rw [nestsItems, hv]; exact Bool.false_ne_true)).symm
      · exact (filter_map_eq_none fun a => by rw [nestsItems, hv, Bool.false_and]).symm
      · rfl

theorem readFields_limit
    (hvalue : ∀ depth cs, readValue fuel depth cs =
      (readValue fuel (depth + k) cs).filter fun p => p.1.nests depth)
    (hfields : ∀ depth cs, readFields fuel depth cs =
      (readFields fuel (depth + k) cs).filter fun p => nestsFields depth p.1)
    (depth : Nat) (cs : List Char) : readFields (fuel + 1) depth cs =
      (readFields (fuel + 1) (depth + k) cs).filter fun p => nestsFields depth p.1 := by
  rw [readFields, readFields]
  split
  · split
    · rfl
    · next name rest hname =>
      split
      · next rest hcolon =>
        rw [hvalue]
        cases readValue fuel (depth + k) rest with
        | none => rfl
        | some p =>
          obtain ⟨v, rest⟩ := p
          cases hv : v.nests depth with
          | true =>
            rw [Option.filter_some, if_pos hv]
            dsimp only
            split
            · rw [Option.filter_some]
              exact (if_pos (by rw [nestsFields, hv]; rfl)).symm
            · exact map_eq_filter (hfields depth _) fun a => by
                rw [nestsFields, hv, Bool.true_and]
            · rfl
          | false =>
            rw [Option.filter_some, if_neg (Bool.eq_false_iff.1 hv)]
            dsimp only
            split
            · rw [Option.filter_some]
              exact (if_neg (by rw [nestsFields, hv]; exact Bool.false_ne_true)).symm
            · exact (filter_map_eq_none fun a => by rw [nestsFields, hv, Bool.false_and]).symm
            · rfl
      · rfl
  · rfl

/-- A lower limit refuses what nests deeper, and nothing else. -/
theorem read_limit (fuel k : Nat) :
    (∀ depth cs, readValue fuel depth cs =
      (readValue fuel (depth + k) cs).filter fun p => p.1.nests depth) ∧
    (∀ depth cs, readItems fuel depth cs =
      (readItems fuel (depth + k) cs).filter fun p => nestsItems depth p.1) ∧
    ∀ depth cs, readFields fuel depth cs =
      (readFields fuel (depth + k) cs).filter fun p => nestsFields depth p.1 := by
  induction fuel with
  | zero => exact ⟨fun _ _ => rfl, fun _ _ => rfl, fun _ _ => rfl⟩
  | succ fuel ih =>
    obtain ⟨hvalue, hitems, hfields⟩ := ih
    exact ⟨readValue_limit hitems hfields, readItems_limit hvalue hitems,
      readFields_limit hvalue hfields⟩

/-! ## Nesting and fitting -/

theorem nestsItems_iff {depth : Nat} {items : List Value} :
    nestsItems depth items = true ↔ ∀ v ∈ items, v.nests depth = true := by
  induction items with
  | nil => simp [nestsItems]
  | cons v rest ih => simp [nestsItems, ih]

theorem nestsFields_iff {depth : Nat} {fields : List (String × Value)} :
    nestsFields depth fields = true ↔ ∀ f ∈ fields, f.2.nests depth = true := by
  induction fields with
  | nil => simp [nestsFields]
  | cons f rest ih => simp [nestsFields, ih]

/-- A value of whole numbers fits where it nests no deeper. -/
theorem Value.fits_iff_nests {v : Value} {bound depth : Nat} (h : v.fits bound = true) :
    v.fits depth = true ↔ v.nests depth = true := by
  induction v using Value.induction generalizing bound depth with
  | null | bool | string => exact ⟨fun _ => rfl, fun _ => rfl⟩
  | number n => exact ⟨fun _ => rfl, fun _ => by simpa [fits] using h⟩
  | array items ih =>
    cases bound with
    | zero => exact absurd h (by simp [fits])
    | succ bound =>
      rw [fits, fitsItems_iff] at h
      cases depth with
      | zero => simp [fits, nests]
      | succ depth =>
        simp only [fits, nests, fitsItems_iff, nestsItems_iff, Nat.zero_lt_succ, decide_true,
          Bool.true_and, Nat.add_sub_cancel]
        exact forall₂_congr fun v hv => ih v hv (h v hv)
  | object fields ih =>
    cases bound with
    | zero => exact absurd h (by simp [fits])
    | succ bound =>
      rw [fits, fitsFields_iff] at h
      cases depth with
      | zero => simp [fits, nests]
      | succ depth =>
        simp only [fits, nests, fitsFields_iff, nestsFields_iff, Nat.zero_lt_succ, decide_true,
          Bool.true_and, Nat.add_sub_cancel]
        exact forall₂_congr fun f hf => ih f hf (h f hf)

theorem Value.nests_mono {v : Value} {depth : Nat} (h : v.nests depth = true) (k : Nat) :
    v.nests (depth + k) = true := by
  induction v using Value.induction generalizing depth with
  | null | bool | string | number => rfl
  | array items ih =>
    simp only [nests, Bool.and_eq_true, decide_eq_true_eq, nestsItems_iff] at h ⊢
    refine ⟨by omega, fun v hv => ?_⟩
    have hd : depth + k - 1 = depth - 1 + k := by omega
    rw [hd]
    exact ih v hv (h.2 v hv)
  | object fields ih =>
    simp only [nests, Bool.and_eq_true, decide_eq_true_eq, nestsFields_iff] at h ⊢
    refine ⟨by omega, fun f hf => ?_⟩
    have hd : depth + k - 1 = depth - 1 + k := by omega
    rw [hd]
    exact ih f hf (h.2 f hf)

theorem Value.fits_mono {v : Value} {depth : Nat} (h : v.fits depth = true) (k : Nat) :
    v.fits (depth + k) = true :=
  (fits_iff_nests h).2 (nests_mono ((fits_iff_nests h).1 h) k)

/-! ## Texts -/

/-- A written value is read as long as it nests within the limit. -/
theorem read?_spelled_eq (sp : Spacing) {v : Value} {bound : Nat} (h : v.fits bound = true) :
    read? (String.ofList (spelled sp 0 v)) = if v.nests maxDepth then some v else none := by
  have hlarge : v.fits (maxDepth + bound) = true :=
    Nat.add_comm bound maxDepth ▸ Value.fits_mono h maxDepth
  have hread := readsBack sp v 0 (2 * (spelled sp 0 v).length + 2) (maxDepth + bound) [] [] hlarge
    (by omega) (fun _ h => absurd h List.not_mem_nil) (stopsAt_nil _)
  simp only [List.nil_append, List.append_nil] at hread
  have hlimit := (read_limit (2 * (spelled sp 0 v).length + 2) bound).1 maxDepth (spelled sp 0 v)
  rw [hread, Option.filter_some] at hlimit
  unfold read?
  rw [String.toList_ofList]
  dsimp only
  rw [hlimit]
  cases v.nests maxDepth with
  | true => rfl
  | false => rfl

theorem read?_render_eq {v : Value} {bound : Nat} (h : v.fits bound = true) :
    read? v.render = if v.nests maxDepth then some v else none := by
  rw [Value.render, ← spelled_compact 0]
  exact read?_spelled_eq .compact h

theorem read?_renderIndented_eq {v : Value} {bound : Nat} (h : v.fits bound = true) :
    read? v.renderIndented = if v.nests maxDepth then some v else none := by
  rw [Value.renderIndented, ← spelled_indented 0]
  exact read?_spelled_eq .indented h

/-! ## Structures -/

theorem readNamed_limit (names : List String) (name : String) (fuel k depth : Nat)
    (cs : List Char) : readNamed names name fuel depth cs =
      (readNamed names name fuel (depth + k) cs).filter fun p => nestsFields depth p.1 := by
  unfold readNamed
  split
  · exact map_eq_filter ((read_limit fuel k).1 depth cs) fun a => Bool.and_true _
  · exact map_eq_filter_self fun a => rfl

theorem nestsFields_append (depth : Nat) (fs gs : List (String × Value)) :
    nestsFields depth (fs ++ gs) = (nestsFields depth fs && nestsFields depth gs) := by
  induction fs with
  | nil => rfl
  | cons f rest ih => rw [List.cons_append, nestsFields, nestsFields, ih, Bool.and_assoc]

theorem readNamedFields_limit (names : List String) (fuel k depth : Nat) (cs : List Char) :
    readNamedFields names fuel depth cs =
      (readNamedFields names fuel (depth + k) cs).filter fun p => nestsFields depth p.1 := by
  induction fuel generalizing cs with
  | zero => rfl
  | succ fuel ih =>
    rw [readNamedFields, readNamedFields]
    split
    · split
      · rfl
      · next name rest hname =>
        split
        · next rest hcolon =>
          rw [readNamed_limit names _ fuel k]
          cases readNamed names (String.ofList name) fuel (depth + k) rest with
          | none => rfl
          | some p =>
            obtain ⟨field, rest⟩ := p
            cases hf : nestsFields depth field with
            | true =>
              rw [Option.filter_some, if_pos hf]
              dsimp only
              split
              · rw [Option.filter_some]
                exact (if_pos hf).symm
              · exact map_eq_filter (ih _) fun a => by
                  rw [nestsFields_append, hf, Bool.true_and]
              · rfl
            | false =>
              rw [Option.filter_some, if_neg (Bool.eq_false_iff.1 hf)]
              dsimp only
              split
              · rw [Option.filter_some]
                exact (if_neg (Bool.eq_false_iff.1 hf)).symm
              · exact (filter_map_eq_none fun a => by
                  rw [nestsFields_append, hf, Bool.false_and]).symm
              · rfl
        · rfl
    · rfl

/-- A written structure is read as long as its fields nest within the limit. -/
theorem readStructure?_render_eq {f : String × Value} {fields : Fields} {bound : Nat}
    (h : (Value.object (f :: fields)).fits bound = true) :
    readStructure? (Fields.names (f :: fields)) (Value.object (f :: fields)).render =
      if nestsFields (maxDepth - 1) (f :: fields) then some (.object (f :: fields)) else none := by
  have hlarge : (Value.object (f :: fields)).fits (maxDepth + bound) = true :=
    Nat.add_comm bound maxDepth ▸ Value.fits_mono h maxDepth
  -- with a limit that is high enough the text is read
  have hread := readsBack .compact (.object (f :: fields)) 0
    (2 * (spelled .compact 0 (.object (f :: fields))).length + 2) (maxDepth + bound) [] [] hlarge
    (by omega) (fun _ h => absurd h List.not_mem_nil) (stopsAt_nil _)
  rw [spelled_compact, List.nil_append, List.append_nil] at hread
  obtain ⟨rest, hrest⟩ : ∃ rest, (Value.object (f :: fields)).chars = '\x7b' :: '"' :: rest := by
    rw [← spelled_compact 0]
    exact ⟨_, rfl⟩
  have hfields : readFields (2 * (Value.object (f :: fields)).chars.length + 1)
      (maxDepth - 1 + bound) ('"' :: rest) = some (f :: fields, []) := by
    have hlimit : maxDepth + bound = (maxDepth - 1 + bound) + 1 := by
      rw [maxDepth]
      omega
    have hskip : skipSpace (Value.object (f :: fields)).chars = '\x7b' :: '"' :: rest := by
      rw [hrest]
      rfl
    have hquote : skipSpace ('"' :: rest) = '"' :: rest := rfl
    rw [hlimit, readValue, hskip] at hread
    simp only [hquote] at hread
    obtain ⟨⟨found, tail⟩, hfound, heq⟩ := Option.map_eq_some_iff.1 hread
    cases heq
    exact hfound
  have hnamed : readNamedFields (Fields.names (f :: fields))
      (2 * (Value.object (f :: fields)).chars.length + 1) (maxDepth - 1 + bound) ('"' :: rest) =
        some (f :: fields, []) :=
    readNamedFields_of_readFields hfields fun g hg => List.mem_map_of_mem hg
  have hstart : skipSpace ((Value.object (f :: fields)).render).toList = '\x7b' :: '"' :: rest := by
    rw [Value.render, String.toList_ofList, hrest]
    rfl
  have hquote : skipSpace ('"' :: rest) = '"' :: rest := rfl
  unfold readStructure?
  rw [hstart]
  simp only [hquote]
  split
  · next heq => exact absurd (List.cons.inj heq).1 (by decide)
  rw [Value.render, String.toList_ofList, readNamedFields_limit _ _ bound, hnamed,
    Option.filter_some]
  cases nestsFields (maxDepth - 1) (f :: fields) with
  | true => rfl
  | false => rfl

/-- What a structure holds is read back as long as its fields nest within the limit. -/
theorem bind_readStructure?_render {α : Type} {f : String × Value} {fields : Fields}
    {bound : Nat} (h : (Value.object (f :: fields)).fits bound = true) {ofValue? : Value → Option α}
    {a : α} (hof : ofValue? (.object (f :: fields)) = some a) :
    (readStructure? (Fields.names (f :: fields)) (Value.object (f :: fields)).render).bind ofValue? =
      if nestsFields (maxDepth - 1) (f :: fields) then some a else none := by
  rw [readStructure?_render_eq h]
  split
  · exact hof
  · rfl

end Quarantine.Json
