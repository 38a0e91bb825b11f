import Quarantine.Proofs.Json.ReadBack

/-!
# Merged values

Merging leaves a value alone in which each field comes once, and it makes one of any value.  Such
values are read as they were written.

    merged (merged v) = merged v
    parse? v.render   = some v, if v is writable
-/

namespace Quarantine.Json

namespace Fields

variable {fs : Fields} {name : String} {v : Value}

theorem mem_put {f : String × Value} (h : f ∈ put fs name v) : f ∈ fs ∨ f = (name, v) := by
  induction fs with
  | nil => exact .inr (List.mem_singleton.1 h)
  | cons g rest ih =>
    obtain ⟨n, w⟩ := g
    unfold put at h
    split at h
    · next hname =>
      rcases List.mem_cons.1 h with rfl | h
      · exact .inr (by rw [hname])
      · exact .inl (List.mem_cons_of_mem _ h)
    · rcases List.mem_cons.1 h with rfl | h
      · exact .inl List.mem_cons_self
      · exact (ih h).imp_left (List.mem_cons_of_mem _)

theorem put_of_not_mem (h : name ∉ names fs) : put fs name v = fs ++ [(name, v)] := by
  induction fs with
  | nil => rfl
  | cons g rest ih =>
    obtain ⟨n, w⟩ := g
    have hne : n ≠ name := fun he => h (he ▸ List.mem_cons_self)
    rw [put, if_neg hne, ih fun hm => h (List.mem_cons_of_mem _ hm), List.cons_append]

theorem nodup_names_put (h : (names fs).Nodup) : (names (put fs name v)).Nodup := by
  rw [names_put]
  split
  · exact h
  · next hname =>
    refine List.nodup_append.2 ⟨h, List.nodup_cons.2 ⟨List.not_mem_nil, List.nodup_nil⟩, fun a ha b hb => ?_⟩
    rw [List.mem_singleton.1 hb]
    exact fun he => hname (he ▸ ha)

end Fields

/-! ## Fields, one after the other -/

/-- What holds of the merged values of fields holds of those that they are merged into. -/
theorem of_mem_mergedFields {P : Value → Prop} {fs done : Fields}
    (hfs : ∀ f ∈ fs, P f.2.merged) (hdone : ∀ f ∈ done, P f.2) :
    ∀ f ∈ mergedFields fs done, P f.2 := by
  induction fs generalizing done with
  | nil => exact hdone
  | cons g rest ih =>
    obtain ⟨n, w⟩ := g
    unfold mergedFields
    refine ih (fun f hf => hfs f (List.mem_cons_of_mem _ hf)) fun f hf => ?_
    rcases Fields.mem_put hf with hf | rfl
    · exact hdone f hf
    · exact hfs (n, w) List.mem_cons_self

theorem nodup_mergedFields {fs done : Fields} (h : (Fields.names done).Nodup) :
    (Fields.names (mergedFields fs done)).Nodup := by
  induction fs generalizing done with
  | nil => exact h
  | cons g rest ih =>
    unfold mergedFields
    exact ih (Fields.nodup_names_put h)

/-- Fields that come once are strung together, each with its merged value. -/
theorem mergedFields_of_nodup {fs done : Fields} (hd : (Fields.names (done ++ fs)).Nodup) :
    mergedFields fs done = done ++ fs.map fun f => (f.1, f.2.merged) := by
  induction fs generalizing done with
  | nil => exact (List.append_nil done).symm
  | cons g rest ih =>
    obtain ⟨n, w⟩ := g
    have hn : n ∉ Fields.names done := by
      intro hmem
      rw [Fields.names, List.map_append] at hd
      exact (List.nodup_append.1 hd).2.2 n hmem n List.mem_cons_self rfl
    have hrest : (Fields.names ((done ++ [(n, w.merged)]) ++ rest)).Nodup := by
      rw [Fields.names, List.map_append, List.map_append, List.append_assoc]
      rw [Fields.names, List.map_append] at hd
      exact hd
    rw [mergedFields, Fields.put_of_not_mem hn, ih hrest, List.append_assoc, List.map_cons,
      List.singleton_append]

theorem mergedItems_eq_map (items : List Value) : mergedItems items = items.map Value.merged := by
  induction items with
  | nil => rfl
  | cons v rest ih => rw [mergedItems, ih, List.map_cons]

/-! ## Values -/

/-- An object in which each field comes once is merged field by field. -/
theorem Value.merged_object {fs : Fields} (hd : (Fields.names fs).Nodup) :
    (Value.object fs).merged = .object (fs.map fun f => (f.1, f.2.merged)) := by
  have hmerged : mergedFields fs [] = [] ++ fs.map fun f => (f.1, f.2.merged) :=
    mergedFields_of_nodup hd
  rw [merged, hmerged, List.nil_append]

/-- Such an object is merged already if its values are. -/
theorem Value.merged_object_eq_iff {fs : Fields} (hd : (Fields.names fs).Nodup) :
    (Value.object fs).merged = .object fs ↔ ∀ f ∈ fs, f.2.merged = f.2 := by
  rw [merged_object hd, Value.object.injEq]
  constructor
  · intro h f hf
    have hmap : fs.map (fun f => (f.1, f.2.merged)) = fs.map id := h.trans (List.map_id fs).symm
    exact congrArg Prod.snd (List.map_inj_left.1 hmap f hf)
  · intro h
    have hmap : fs.map (fun f => (f.1, f.2.merged)) = fs.map id :=
      List.map_congr_left fun f hf => Prod.ext rfl (h f hf)
    exact hmap.trans (List.map_id fs)

theorem Value.merged_merged (v : Value) : v.merged.merged = v.merged := by
  induction v using Value.induction with
  | null => rfl
  | bool b => rfl
  | number n => rfl
  | string s => rfl
  | array items ih =>
    rw [merged, mergedItems_eq_map, merged, mergedItems_eq_map, List.map_map]
    exact congrArg Value.array (List.map_congr_left ih)
  | object fields ih =>
    rw [merged]
    have hd : (Fields.names (mergedFields fields [])).Nodup := nodup_mergedFields List.nodup_nil
    exact (merged_object_eq_iff hd).2
      (of_mem_mergedFields (P := fun v => v.merged = v) ih fun _ h => absurd h List.not_mem_nil)

/-! ## Values that are read back -/

/-- That a value is read as it was written: its numbers are whole, it nests no deeper than the
reader takes, and no object in it has a field twice. -/
structure Value.Writable (v : Value) : Prop where
  fits : v.fits maxDepth = true
  merged : v.merged = v

theorem Value.Writable.parse? {v : Value} (h : v.Writable) : Json.parse? v.render = some v := by
  rw [Json.parse?, read?_render h.fits, Option.map_some, h.merged]

end Quarantine.Json
