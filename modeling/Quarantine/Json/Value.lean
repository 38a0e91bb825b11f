import Quarantine.Decimal.Shortest

/-!
# JSON values

A value, with its numbers as they are kept: a natural number below 2⁶⁴, a negative whole number
down to -2⁶³, or a binary number of 64 bits.  The fields of an object stay in order.

    get? (put fs k v) k = some v
    put at a key that is there keeps the place of the key
-/

namespace Quarantine.Json

open Quarantine.Decimal

inductive Number where
  /-- A number below 2⁶⁴. -/
  | natural (n : Fin 0x10000000000000000)
  /-- The number `-(n + 1)`, with `n` below 2⁶³. -/
  | negative (n : Fin 0x8000000000000000)
  | binary (x : Binary64)
  deriving DecidableEq

inductive Value where
  | null
  | bool (b : Bool)
  | number (n : Number)
  | string (s : String)
  | array (items : List Value)
  | object (fields : List (String × Value))
  deriving Inhabited

/-! ## Numbers -/

namespace Number

/-- A whole number, if it has a place. -/
def ofInt? (i : Int) : Option Number :=
  match i with
  | .ofNat n => if h : n < 0x10000000000000000 then some (.natural ⟨n, h⟩) else none
  | .negSucc n => if h : n < 0x8000000000000000 then some (.negative ⟨n, h⟩) else none

/-- The value of a whole number. -/
def toInt? : Number → Option Int
  | natural n => some n.val
  | negative n => some (Int.negSucc n.val)
  | binary _ => none

/-- The value of a natural number. -/
def toNat? : Number → Option Nat
  | natural n => some n.val
  | _ => none

theorem toInt?_ofInt? {i : Int} {n : Number} (h : ofInt? i = some n) : n.toInt? = some i := by
  unfold ofInt? at h
  split at h <;> split at h <;> simp_all
  all_goals subst h; rfl

end Number

/-! ## Fields -/

/-- Fields in order, by name. -/
abbrev Fields := List (String × Value)

namespace Fields

def get? (fs : Fields) (name : String) : Option Value := fs.lookup name

/-- Sets a field where it stands, or at the end. -/
def put : Fields → String → Value → Fields
  | [], name, v => [(name, v)]
  | (n, w) :: rest, name, v => if n = name then (n, v) :: rest else (n, w) :: put rest name v

def names (fs : Fields) : List String := fs.map Prod.fst

@[simp] theorem get?_nil (name : String) : get? [] name = none := rfl

theorem get?_cons (n : String) (w : Value) (rest : Fields) (name : String) :
    get? ((n, w) :: rest) name = if name = n then some w else get? rest name := by
  unfold get?
  rw [List.lookup_cons]
  by_cases h : name = n
  · simp [h]
  · rw [if_neg h, beq_eq_false_iff_ne.2 h]

theorem get?_put (fs : Fields) (name other : String) (v : Value) :
    get? (put fs name v) other = if other = name then some v else get? fs other := by
  induction fs with
  | nil => simp [put, get?_cons]
  | cons f rest ih =>
    obtain ⟨n, w⟩ := f
    unfold put
    by_cases h : n = name
    · subst h
      simp only [if_true, get?_cons]
      by_cases h' : other = n <;> simp [h']
    · simp only [if_neg h, get?_cons, ih]
      by_cases h' : other = n
      · subst h'; simp [h]
      · simp [h']

theorem names_put (fs : Fields) (name : String) (v : Value) :
    names (put fs name v) = if name ∈ names fs then names fs else names fs ++ [name] := by
  induction fs with
  | nil => simp [put, names]
  | cons f rest ih =>
    obtain ⟨n, w⟩ := f
    unfold put
    by_cases h : n = name
    · simp [h, names]
    · have h' : ¬ name = n := fun e => h e.symm
      simp only [if_neg h]
      simp only [names, List.map_cons] at ih ⊢
      rw [ih]
      by_cases hm : name ∈ List.map Prod.fst rest <;> simp [hm, h']

end Fields

/-! ## Texts of values -/

/-- The text of a string value. -/
def Value.asString? : Value → Option String
  | .string s => some s
  | _ => none

end Quarantine.Json
