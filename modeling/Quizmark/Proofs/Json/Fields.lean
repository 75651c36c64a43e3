import Quizmark.Json.Basic

/-!
# Fields that are put, and fields that are null

* `get?_put`, `get?_put_of_ne`, `put_put`: the fields of an object after one of them got a value.
* `put_eq_self_iff`: a field that has the value already stays as it is.
* `without_put`: beside the field, nothing changes.
* `present_eq`, `present_put`: the fields that are not null, where none is null and where one that
  is not null gets a value.
-/

namespace Quizmark.Fields

theorem get?_put (fields : Fields) (key : String) (value : Json) :
    get? (fields.put key value) key = some value := by
  induction fields with
  | nil => simp [put, get?]
  | cons field rest ih =>
    obtain ⟨k, v⟩ := field
    unfold put
    split
    · simp_all [get?]
    · simp_all [get?]

theorem get?_put_of_ne (fields : Fields) {key name : String} (h : name ≠ key) (value : Json) :
    get? (fields.put key value) name = get? fields name := by
  induction fields with
  | nil => simp [put, get?, h.symm]
  | cons field rest ih =>
    obtain ⟨k, v⟩ := field
    unfold put
    by_cases hk : k = key
    · subst hk
      simp [get?, h.symm]
    · simp [hk, get?, ih]

theorem put_put (fields : Fields) (key : String) (value other : Json) :
    (fields.put key value).put key other = fields.put key other := by
  induction fields with
  | nil => simp [put]
  | cons field rest ih =>
    obtain ⟨k, v⟩ := field
    unfold put
    by_cases hk : k = key
    · simp [hk, put]
    · simp [hk, put, ih]

theorem put_eq_self_iff {fields : Fields} {key : String} {value : Json} :
    fields.put key value = fields ↔ fields.get? key = some value := by
  induction fields with
  | nil => simp [put, get?]
  | cons field rest ih =>
    obtain ⟨k, v⟩ := field
    unfold put get?
    by_cases hk : k = key
    · simp [hk, eq_comm]
    · simp [hk, ih]

theorem without_put (fields : Fields) (key : String) (value : Json) :
    (fields.put key value).without [key] = fields.without [key] := by
  unfold without
  induction fields with
  | nil => simp [put]
  | cons field rest ih =>
    obtain ⟨k, v⟩ := field
    unfold put
    by_cases hk : k = key
    · simp [hk]
    · rw [if_neg hk, List.filter_cons, List.filter_cons, ih]

/-! ## Fields that are not null -/

@[simp] theorem present_nil : present [] = [] := rfl

@[simp] theorem present_present (fields : Fields) : fields.present.present = fields.present := by
  simp [present]

/-- Where no field is null, all of them are present. -/
theorem present_eq {fields : Fields} (h : ∀ field ∈ fields, field.2.isNull = false) :
    fields.present = fields :=
  List.filter_eq_self.mpr fun field hmem => by simpa using h field hmem

section Present

variable {fields : Fields} {key : String} {old : Json}

/-- A name whose first field is not null keeps that field when null fields are dropped. -/
theorem get?_present (h : fields.get? key = some old) (hold : old.isNull = false) :
    fields.present.get? key = some old := by
  induction fields with
  | nil => cases h
  | cons field rest ih =>
    obtain ⟨k, v⟩ := field
    rw [get?] at h
    by_cases hk : k = key
    · obtain rfl : v = old := by simpa [hk] using h
      simp [present, hold, hk, get?]
    · rw [if_neg hk] at h
      have hrest := ih h
      cases hv : v.isNull <;> simpa [present, hv, get?, hk] using hrest

/-- A value goes to the field that has the name and is not null, which comes first. -/
theorem present_put (h : fields.get? key = some old) (hold : old.isNull = false) {value : Json}
    (hvalue : value.isNull = false) :
    (fields.put key value).present = fields.present.put key value := by
  induction fields with
  | nil => cases h
  | cons field rest ih =>
    obtain ⟨k, v⟩ := field
    rw [get?] at h
    by_cases hk : k = key
    · obtain rfl : v = old := by simpa [hk] using h
      simp [present, put, hold, hvalue, hk]
    · rw [if_neg hk] at h
      have hrest := ih h
      cases hv : v.isNull <;> simpa [present, put, hv, hk] using hrest

end Present

end Quizmark.Fields
