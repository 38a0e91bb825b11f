import Quarantine.Json.Parser

/-!
# Records

A record is a list of named values, each name once, in the order in which the names came.

    get? (put r c v) d  = if d = c then some v else get? r d
    columns (put r c v) = columns r, with c at the end if it was not there
-/

namespace Quarantine

open Quarantine.Json

structure Record where
  fields : Fields
  distinct : fields.names.Nodup

namespace Record

/-! ## Operations -/

def empty : Record := ⟨[], List.nodup_nil⟩

instance : Inhabited Record := ⟨empty⟩

def columns (r : Record) : List String := r.fields.names

def get? (r : Record) (column : String) : Option Value := r.fields.get? column

def contains (r : Record) (column : String) : Bool := r.columns.contains column

/-- Sets a value where its column stands, or in a new last column. -/
def put (r : Record) (column : String) (v : Value) : Record where
  fields := r.fields.put column v
  distinct := by
    rw [Fields.names_put]
    split
    · exact r.distinct
    · next h =>
      exact List.nodup_append.2 ⟨r.distinct, List.nodup_cons.2 ⟨List.not_mem_nil, List.nodup_nil⟩,
        fun a ha b hb => by
          rw [List.mem_singleton] at hb
          rintro rfl
          exact h (hb ▸ ha)⟩

/-- The record of some fields; a repeated name keeps its first place and its last value. -/
def ofFields (fs : Fields) : Record := fs.foldl (fun r f => r.put f.1 f.2) empty

/-- The record that an object holds. -/
def ofValue? : Value → Option Record
  | .object fs => some (ofFields fs)
  | _ => none

def toValue (r : Record) : Value := .object r.fields

/-- The record that a text writes. -/
def parse? (text : String) : Option Record := (Json.parse? text).bind ofValue?

def render (r : Record) : String := r.toValue.render

/-! ## Lemmas -/

@[ext] theorem ext {r s : Record} (h : r.fields = s.fields) : r = s := by
  cases r; cases s; cases h; rfl

theorem get?_put (r : Record) (c d : String) (v : Value) :
    (r.put c v).get? d = if d = c then some v else r.get? d :=
  Fields.get?_put r.fields c d v

theorem columns_put (r : Record) (c : String) (v : Value) :
    (r.put c v).columns = if c ∈ r.columns then r.columns else r.columns ++ [c] :=
  Fields.names_put r.fields c v

end Record
end Quarantine
