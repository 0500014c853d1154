import SourceCheck.Json.Value

/-!
The fields of JSON objects. Their order does not matter: an object whose fields are put in the order
of their names has the same fields, and each name has the same value as long as no two fields have
one name.
-/

namespace SourceCheck.Json

def field? : Json → String → Option Json
  | .object fields, name => fields.lookup name
  | _, _ => none

def HasField (json : Json) (name : String) : Prop := ∃ value, json.field? name = some value

/-- The value is an object with these fields and no others, in whatever order. -/
def HasFields (json : Json) (fields : List (String × Json)) : Prop :=
  ∃ own, json = .object own ∧ own.Perm fields

variable {fields : List (String × Json)} {json : Json}

theorem lookup_eq_some_iff (hnames : (fields.map Prod.fst).Nodup) (name : String) (value : Json) :
    fields.lookup name = some value ↔ (name, value) ∈ fields := by
  rw [List.lookup_eq_some_iff]
  constructor
  · rintro ⟨front, behind, rfl, -⟩
    simp
  · intro hmem
    obtain ⟨front, behind, rfl⟩ := List.append_of_mem hmem
    refine ⟨front, behind, rfl, fun field hfield => ?_⟩
    rw [List.map_append, List.nodup_append] at hnames
    rw [bne_iff_ne]
    exact (hnames.2.2 field.1 (List.mem_map_of_mem hfield) name List.mem_cons_self).symm

theorem HasFields.field?_eq (h : json.HasFields fields) (hnames : (fields.map Prod.fst).Nodup)
    (name : String) : json.field? name = fields.lookup name := by
  obtain ⟨own, rfl, hperm⟩ := h
  have hown : (own.map Prod.fst).Nodup := (hperm.map Prod.fst).nodup_iff.mpr hnames
  apply Option.ext
  intro value
  rw [field?, lookup_eq_some_iff hown, lookup_eq_some_iff hnames, hperm.mem_iff]

theorem insertSorted_perm (field : String × Json) (fields : List (String × Json)) :
    (insertSorted field fields).Perm (field :: fields) := by
  induction fields with
  | nil => exact .refl _
  | cons head rest ih =>
    unfold insertSorted
    split
    · exact .refl _
    · exact (ih.cons head).trans (.swap field head rest)

theorem sortedFields_perm (fields : List (String × Json)) :
    (sortedFields fields).Perm (fields.map fun field => (field.1, field.2.sorted)) := by
  induction fields with
  | nil => exact .refl _
  | cons head rest ih => exact (insertSorted_perm _ _).trans (ih.cons _)

theorem hasFields_object (fields : List (String × Json)) : (Json.object fields).HasFields fields :=
  ⟨fields, rfl, .refl _⟩

theorem hasFields_sorted (fields : List (String × Json)) :
    (Json.object fields).sorted.HasFields (fields.map fun field => (field.1, field.2.sorted)) :=
  ⟨sortedFields fields, rfl, sortedFields_perm fields⟩

theorem sorted_array (items : List Json) : (Json.array items).sorted = .array (items.map sorted) := by
  rw [sorted]
  induction items with
  | nil => rfl
  | cons item rest ih =>
    rw [sortedItems, List.map_cons, Json.array.inj ih]

end SourceCheck.Json
