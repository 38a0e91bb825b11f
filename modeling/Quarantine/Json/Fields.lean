import Quarantine.Json.Parser

/-!
# Structures in JSON

A structure is written as an object with a field for each of its parts, or as an array of the
parts in order.  In an object other fields do not count, and no field of a part comes twice; an
array has no further items.  Values are taken as they stand in the text, each repeated field
included, and merged where a part may be any value.
-/

namespace Quarantine.Json

/-- The value of the one field with a name; `none` inside if there is none. -/
def uniqueField? (fields : Fields) (name : String) : Option (Option Value) :=
  match fields.filter (·.1 == name) with
  | [] => some none
  | [(_, v)] => some (some v)
  | _ => none

/-- The parts of a structure by the names of its fields, in their order. -/
def parts? (names : List String) : Value → Option (List (Option Value))
  | .object fields => names.mapM (uniqueField? fields)
  | .array items =>
    if items.length ≤ names.length then
      some (items.map some ++ List.replicate (names.length - items.length) none)
    else none
  | _ => none

def string? : Value → Option String
  | .string s => some s
  | _ => none

def natural? : Value → Option Nat
  | .number n => n.toNat?
  | _ => none

/-- A list, each item of which can be taken. -/
def list? {α : Type} (item : Value → Option α) : Value → Option (List α)
  | .array vs => vs.mapM item
  | _ => none

/-- A number; one beyond the largest natural number that is kept is cut to that. -/
def ofNat (n : Nat) : Value :=
  .number (.natural (if h : n < 0x10000000000000000 then ⟨n, h⟩ else ⟨0xFFFFFFFFFFFFFFFF, by decide⟩))

def ofStrings (ss : List String) : Value := .array (ss.map .string)

/-- The field of an object. -/
def Value.field? (v : Value) (name : String) : Option Value :=
  match v with
  | .object fields => Fields.get? fields name
  | _ => none

end Quarantine.Json
