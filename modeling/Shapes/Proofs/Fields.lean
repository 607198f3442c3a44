import Mathlib.Data.List.Nodup
import Mathlib.Data.List.Perm.Subperm
import Shapes.Fields

/-!
Looking up among named entries and being one of them: the same thing as long as no name is stored
twice.
-/

namespace Shapes.Fields

variable {α β : Type} {fields : Fields α} {name removed : String} {value : α}

theorem get?_eq_none_iff : fields.get? name = none ↔ name ∉ fields.names := by
  rw [get?, List.lookup_eq_none_iff]
  simp only [names, List.mem_map, not_exists, not_and]
  constructor
  · rintro hnone entry hmem rfl
    simpa using hnone entry hmem
  · intro hnone entry hmem
    simpa using fun heq => hnone entry hmem heq.symm

theorem mem_of_get? (hget : fields.get? name = some value) : (name, value) ∈ fields := by
  obtain ⟨before, after, heq, _⟩ := List.lookup_eq_some_iff.1 hget
  rw [heq]
  simp

theorem get?_of_mem (hdistinct : fields.Distinct) (hmem : (name, value) ∈ fields) :
    fields.get? name = some value := by
  induction fields with
  | nil => cases hmem
  | cons entry rest ih =>
    obtain ⟨known, content⟩ := entry
    simp only [Distinct, names, List.map_cons, List.nodup_cons] at hdistinct
    rw [get?_cons]
    rcases List.mem_cons.1 hmem with heq | hrest
    · cases heq
      rw [if_pos rfl]
    · have hne : name ≠ known := by
        rintro rfl
        exact hdistinct.1 (List.mem_map.2 ⟨(name, value), hrest, rfl⟩)
      rw [if_neg hne]
      exact ih hdistinct.2 hrest

theorem get?_append_self (hnone : fields.get? name = none) :
    get? (fields ++ [(name, value)]) name = some value := by
  rw [get?] at hnone
  simp [get?, List.lookup_append, hnone]

theorem get?_append_of_ne {added : String} (hne : name ≠ added) :
    get? (fields ++ [(added, value)]) name = fields.get? name := by
  rw [get?, get?, List.lookup_append]
  simp [List.lookup_cons, beq_false_of_ne hne]

/-- Different names that are all found among as many others are the names of the others. -/
theorem perm_names_of_found {others : Fields β} (hdistinct : fields.Distinct)
    (hlength : fields.length = others.length)
    (hfound : ∀ entry ∈ fields, ∃ b, others.get? entry.1 = some b) : fields.names.Perm others.names := by
  have hsubset : fields.names ⊆ others.names := by
    intro name hname
    obtain ⟨entry, hmem, rfl⟩ := List.mem_map.1 hname
    obtain ⟨b, hb⟩ := hfound entry hmem
    exact List.mem_map.2 ⟨(entry.1, b), mem_of_get? hb, rfl⟩
  refine (List.subperm_of_subset hdistinct hsubset).perm_of_length_le ?_
  simp [names, hlength]

/-- A name that is not stored yet is stored last. -/
theorem insert_eq_append (hnone : fields.get? name = none) :
    insert name value fields = fields ++ [(name, value)] := by
  induction fields with
  | nil => rfl
  | cons entry rest ih =>
    obtain ⟨known, content⟩ := entry
    rw [get?_cons] at hnone
    split at hnone
    · cases hnone
    · rename_i hne
      rw [insert, if_neg (Ne.symm hne), ih hnone]
      rfl

/-- The entries of all other names. -/
def without (fields : Fields α) (removed : String) : Fields α :=
  fields.filter fun entry => entry.1 != removed

theorem without_eq_filter :
    fields.without removed = fields.filter fun entry => entry.1 ≠ removed := by
  refine List.filter_congr fun entry _ => ?_
  by_cases hname : entry.1 = removed <;> simp [hname]

theorem names_filter (keep : String → Bool) :
    names (fields.filter fun entry => keep entry.1) = fields.names.filter keep := by
  rw [names, names, List.filter_map]
  rfl

theorem names_without : (fields.without removed).names = fields.names.filter (· != removed) :=
  names_filter (· != removed)

theorem get?_without_of_ne (hne : name ≠ removed) :
    (fields.without removed).get? name = fields.get? name := by
  induction fields with
  | nil => rfl
  | cons entry rest ih =>
    obtain ⟨known, content⟩ := entry
    rw [without, List.filter_cons, get?_cons]
    by_cases hkept : known = removed
    · rw [if_neg (by simp [hkept]), if_neg (by rintro rfl; exact hne hkept)]
      exact ih
    · rw [if_pos (by simp [hkept]), get?_cons]
      exact congrArg _ ih

/-- Where no name is stored twice, removing an entry leaves those of all other names. -/
theorem erase_eq_without (hdistinct : fields.Distinct) : erase removed fields = fields.without removed := by
  induction fields with
  | nil => rfl
  | cons entry rest ih =>
    obtain ⟨known, content⟩ := entry
    obtain ⟨hfresh, hrest⟩ := List.nodup_cons.1 hdistinct
    rw [erase, without, List.filter_cons]
    by_cases hname : known = removed
    · subst hname
      rw [if_pos rfl, if_neg (by simp)]
      refine (List.filter_eq_self.2 fun entry hmem => bne_iff_ne.2 ?_).symm
      rintro rfl
      exact hfresh (List.mem_map.2 ⟨entry, hmem, rfl⟩)
    · rw [if_neg hname, if_pos (by simp [hname]), ih hrest]
      rfl

end Shapes.Fields
