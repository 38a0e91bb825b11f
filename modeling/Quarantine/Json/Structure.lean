import Quarantine.Json.Fields

/-!
# The text of a structure

A structure takes the fields that it names and passes over the others.  What those hold has to
be JSON, but it may nest to any depth, its numbers may have any size, and its escapes may write
what is no character.

    readStructure? names text = read? text, if the structure names all fields of the text
-/

namespace Quarantine.Json

/-! ## Passing over -/

/-- The rest after the closing quote of a string. -/
def passString : List Char → Option (List Char)
  | [] => none
  | '"' :: rest => some rest
  | '\\' :: 'u' :: a :: b :: c :: d :: rest =>
    if (hex4? a b c d).isSome then passString rest else none
  | '\\' :: c :: rest => if (letterEscape? c).isSome then passString rest else none
  | c :: rest => if c.toNat < 0x20 ∨ c = '\\' then none else passString rest

mutual

/-- The rest after a value. -/
def passValue (fuel : Nat) (cs : List Char) : Option (List Char) :=
  match fuel with
  | 0 => none
  | fuel + 1 =>
    match skipSpace cs with
    | 'n' :: 'u' :: 'l' :: 'l' :: rest => some rest
    | 't' :: 'r' :: 'u' :: 'e' :: rest => some rest
    | 'f' :: 'a' :: 'l' :: 's' :: 'e' :: rest => some rest
    | '"' :: rest => passString rest
    | '[' :: rest =>
      match skipSpace rest with
      | ']' :: rest => some rest
      | rest => passItems fuel rest
    | '\x7b' :: rest =>
      match skipSpace rest with
      | '\x7d' :: rest => some rest
      | rest => passFields fuel rest
    | cs => (scanNumber cs).map Prod.snd

/-- The rest after items up to the closing bracket; at least one. -/
def passItems (fuel : Nat) (cs : List Char) : Option (List Char) :=
  match fuel with
  | 0 => none
  | fuel + 1 =>
    match (passValue fuel cs).map skipSpace with
    | some (']' :: rest) => some rest
    | some (',' :: rest) => passItems fuel rest
    | _ => none

/-- The rest after fields up to the closing brace; at least one. -/
def passFields (fuel : Nat) (cs : List Char) : Option (List Char) :=
  match fuel with
  | 0 => none
  | fuel + 1 =>
    match skipSpace cs with
    | '"' :: rest =>
      match (passString rest).map skipSpace with
      | some (':' :: rest) =>
        match (passValue fuel rest).map skipSpace with
        | some ('\x7d' :: rest) => some rest
        | some (',' :: rest) => passFields fuel rest
        | _ => none
      | _ => none
    | _ => none

end

/-! ## Structures -/

/-- The value of a field as the one field it is, if it is named; otherwise none. -/
def readNamed (names : List String) (name : String) (fuel depth : Nat) (cs : List Char) :
    Option (Fields × List Char) :=
  if names.contains name then (readValue fuel depth cs).map fun (v, r) => ([(name, v)], r)
  else (passValue fuel cs).map fun r => ([], r)

/-- The named ones of the fields up to the closing brace; at least one field. -/
def readNamedFields (names : List String) (fuel depth : Nat) (cs : List Char) :
    Option (Fields × List Char) :=
  match fuel with
  | 0 => none
  | fuel + 1 =>
    match skipSpace cs with
    | '"' :: rest =>
      match readString rest with
      | none => none
      | some (name, rest) =>
        match skipSpace rest with
        | ':' :: rest =>
          match readNamed names (String.ofList name) fuel depth rest with
          | none => none
          | some (field, rest) =>
            match skipSpace rest with
            | '\x7d' :: rest => some (field, rest)
            | ',' :: rest =>
              (readNamedFields names fuel depth rest).map fun (fs, r) => (field ++ fs, r)
            | _ => none
        | _ => none
    | _ => none

/-- The value that a text writes; of an object only the named fields. -/
def readStructure? (names : List String) (text : String) : Option Value :=
  match skipSpace text.toList with
  | '\x7b' :: rest =>
    match skipSpace rest with
    | '\x7d' :: _ => read? text
    | rest =>
      match readNamedFields names (2 * text.toList.length + 1) (maxDepth - 1) rest with
      | some (fields, rest) => if (skipSpace rest).isEmpty then some (.object fields) else none
      | none => none
  | _ => read? text

/-! ## Lemmas -/

theorem readNamed_of_readValue {names : List String} {name : String} {fuel depth : Nat}
    {cs rest : List Char} {v : Value} (h : readValue fuel depth cs = some (v, rest))
    (hname : name ∈ names) :
    readNamed names name fuel depth cs = some ([(name, v)], rest) := by
  simp [readNamed, h, hname]

/-- What fields that are read begin with. -/
theorem exists_of_readFields {fuel depth : Nat} {cs rest : List Char} {fields : Fields}
    (h : readFields (fuel + 1) depth cs = some (fields, rest)) :
    ∃ start name afterName colon v afterValue,
      skipSpace cs = '"' :: start ∧ readString start = some (name, afterName) ∧
      skipSpace afterName = ':' :: colon ∧ readValue fuel depth colon = some (v, afterValue) ∧
      ((skipSpace afterValue = '\x7d' :: rest ∧ fields = [(String.ofList name, v)]) ∨
        ∃ more others, skipSpace afterValue = ',' :: more ∧
          readFields fuel depth more = some (others, rest) ∧
          fields = (String.ofList name, v) :: others) := by
  unfold readFields at h
  split at h
  · next start hstart =>
    split at h
    · simp at h
    · next name afterName hname =>
      split at h
      · next colon hcolon =>
        split at h
        · simp at h
        · next v afterValue hv =>
          refine ⟨start, name, afterName, colon, v, afterValue, hstart, hname, hcolon, hv, ?_⟩
          split at h
          · next stop hstop =>
            simp only [Option.some.injEq, Prod.mk.injEq] at h
            exact .inl ⟨h.2 ▸ hstop, h.1.symm⟩
          · next more hmore =>
            obtain ⟨⟨others, stop⟩, hothers, heq⟩ := Option.map_eq_some_iff.1 h
            simp only [Prod.mk.injEq] at heq
            exact .inr ⟨more, others, hmore, heq.2 ▸ hothers, heq.1.symm⟩
          · simp at h
      · simp at h
  · simp at h

theorem readNamedFields_of_readFields {names : List String} {fuel depth : Nat}
    {cs rest : List Char} {fields : Fields} (h : readFields fuel depth cs = some (fields, rest))
    (hnames : ∀ f ∈ fields, f.1 ∈ names) :
    readNamedFields names fuel depth cs = some (fields, rest) := by
  induction fuel generalizing cs fields with
  | zero => simp [readFields] at h
  | succ fuel ih =>
    obtain ⟨start, name, afterName, colon, v, afterValue, hstart, hname, hcolon, hv, hlast⟩ :=
      exists_of_readFields h
    rcases hlast with ⟨hstop, rfl⟩ | ⟨more, others, hmore, hothers, rfl⟩
    · have hfield := readNamed_of_readValue hv (hnames _ List.mem_cons_self)
      simp [readNamedFields, hstart, hname, hcolon, hfield, hstop]
    · have hfield := readNamed_of_readValue hv (hnames _ List.mem_cons_self)
      have hrest := ih hothers fun f hf => hnames f (List.mem_cons_of_mem _ hf)
      simp [readNamedFields, hstart, hname, hcolon, hfield, hmore, hrest]

/-- A text all fields of which are named is read as it stands. -/
theorem readStructure?_of_read? {names : List String} {text : String} {fields : Fields}
    (h : read? text = some (.object fields)) (hnames : ∀ f ∈ fields, f.1 ∈ names) :
    readStructure? names text = some (.object fields) := by
  unfold readStructure?
  split
  · next rest hrest =>
    split
    · exact h
    · next hne =>
      unfold read? at h
      simp only [readValue, hrest, maxDepth] at h
      split at h
      · next v after hv =>
        obtain ⟨⟨read, stop⟩, hread, heq⟩ := Option.map_eq_some_iff.1 hv
        simp only [Prod.mk.injEq] at heq
        obtain ⟨rfl, rfl⟩ := heq
        split at h
        · next hend =>
          simp only [Option.some.injEq, Value.object.injEq] at h
          subst h
          simp [maxDepth, readNamedFields_of_readFields hread hnames, hend]
        · simp at h
      · simp at h
  · exact h

end Quarantine.Json
