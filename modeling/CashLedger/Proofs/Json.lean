import CashLedger.Json.Form
import Mathlib

/-!
# Variations of a JSON value

A JSON value stays the same value if fields that are null are left out of its objects, at any depth,
and if fields of names that are not known stand in them.  A field that is not null is then still
found, varied itself; one that was null is found as null or not at all.
-/

namespace CashLedger

namespace Json

/-- Fields of which null ones may have been left out, with values that vary as `vary` says. -/
inductive FieldsVaried (vary : Json → Json → Prop) :
    List (String × Json) → List (String × Json) → Prop
  | nil : FieldsVaried vary [] []
  | keep {name : String} {value other : Json} {fields others : List (String × Json)} :
      vary value other → FieldsVaried vary fields others →
        FieldsVaried vary ((name, value) :: fields) ((name, other) :: others)
  | leaveOut {name : String} {fields others : List (String × Json)} :
      FieldsVaried vary fields others → FieldsVaried vary ((name, null) :: fields) others

/-- The names that the form of these fields knows.  What goes with a `type` has the name `id`, which
is known also where there is nothing. -/
def knownNames (fields : List (String × Json)) : List String :=
  if "type" ∈ fields.map Prod.fst then "id" :: fields.map Prod.fst else fields.map Prod.fst

/-- The same value, up to null fields left out of its objects and unknown ones added anywhere. -/
inductive Varied : Json → Json → Prop
  | same (json : Json) : Varied json json
  | inArray {items others : List Json} :
      List.Forall₂ Varied items others → Varied (array items) (array others)
  | inObject {fields others : List (String × Json)} :
      FieldsVaried Varied fields (others.filter fun field => field.1 ∈ knownNames fields) →
        Varied (object fields) (object others)

section Fields

variable {vary : Json → Json → Prop} {fields others : List (String × Json)} {name : String}
  {value : Json}

theorem mem_knownNames (hname : name ∈ fields.map Prod.fst) : name ∈ knownNames fields := by
  unfold knownNames
  split
  · exact List.mem_cons_of_mem "id" hname
  · exact hname

theorem mem_names_of_lookup (hvalue : fields.lookup name = some value) :
    name ∈ fields.map Prod.fst := by
  obtain ⟨before, after, rfl, -⟩ := List.lookup_eq_some_iff.mp hvalue
  simp

theorem lookup_eq_none_of_notMem (hname : name ∉ fields.map Prod.fst) :
    fields.lookup name = none := by
  cases hlookup : fields.lookup name with
  | none => rfl
  | some value => exact absurd (mem_names_of_lookup hlookup) hname

/-- Only fields of other names are left out. -/
theorem lookup_filter_mem {known : List String} (hknown : name ∈ known) :
    (others.filter fun field => field.1 ∈ known).lookup name = others.lookup name := by
  induction others with
  | nil => rfl
  | cons field others ih =>
    obtain ⟨key, value⟩ := field
    by_cases hkey : key ∈ known
    · rw [List.filter_cons_of_pos (by simpa using hkey), List.lookup_cons, List.lookup_cons, ih]
    · have hne : (name == key) = false := beq_false_of_ne fun heq => hkey (heq ▸ hknown)
      rw [List.filter_cons_of_neg (by simpa using hkey), List.lookup_cons, hne, ih]

theorem FieldsVaried.refl (hvary : ∀ json, vary json json) :
    ∀ fields, FieldsVaried vary fields fields
  | [] => .nil
  | (_, value) :: fields => .keep (hvary value) (refl hvary fields)

/-- Under each name there is the same as before, varied, but for null fields. -/
theorem FieldsVaried.lookup (hvaried : FieldsVaried vary fields others) (name : String) :
    (∃ value other, fields.lookup name = some value ∧ others.lookup name = some other ∧
      vary value other) ∨
    fields.lookup name = none ∧ others.lookup name = none ∨
    fields.lookup name = some null := by
  induction hvaried with
  | nil => exact .inr (.inl ⟨rfl, rfl⟩)
  | @keep key value other fields others hvary hrest ih =>
    rw [List.lookup_cons, List.lookup_cons]
    cases name == key with
    | true => exact .inl ⟨value, other, rfl, rfl, hvary⟩
    | false => exact ih
  | @leaveOut key fields others hrest ih =>
    rw [List.lookup_cons]
    cases name == key with
    | true => exact .inr (.inr rfl)
    | false => exact ih

/-- A field that is not null is still found. -/
theorem FieldsVaried.exists_lookup (hvaried : FieldsVaried vary fields others)
    (hvalue : fields.lookup name = some value) (hne : value ≠ null) :
    ∃ other, others.lookup name = some other ∧ vary value other := by
  rcases hvaried.lookup name with ⟨found, other, hfound, hother, hvary⟩ | ⟨hnone, -⟩ | hnull
  · rw [hvalue] at hfound
    cases hfound
    exact ⟨other, hother, hvary⟩
  · rw [hvalue] at hnone
    cases hnone
  · rw [hvalue] at hnull
    exact absurd (Option.some.inj hnull) hne

/-- A field that is not there is not added. -/
theorem FieldsVaried.lookup_eq_none (hvaried : FieldsVaried vary fields others)
    (hfields : fields.lookup name = none) : others.lookup name = none := by
  rcases hvaried.lookup name with ⟨found, -, hfound, -⟩ | ⟨-, hnone⟩ | hnull
  · rw [hfields] at hfound
    cases hfound
  · exact hnone
  · rw [hfields] at hnull
    cases hnull

/-- A field that is null is null or missing, if no other one has its name. -/
theorem FieldsVaried.lookup_null (hvaried : FieldsVaried vary fields others)
    (hnull : ∀ json, vary null json → json = null) (hnames : (fields.map Prod.fst).Nodup)
    (hfields : fields.lookup name = some null) :
    others.lookup name = none ∨ others.lookup name = some null := by
  induction hvaried with
  | nil => simp at hfields
  | @keep key value other fields others hvary hrest ih =>
    rw [List.map_cons, List.nodup_cons] at hnames
    rw [List.lookup_cons] at hfields ⊢
    cases hkey : name == key with
    | true =>
      rw [hkey] at hfields
      cases hfields
      exact .inr (congrArg some (hnull other hvary))
    | false =>
      rw [hkey] at hfields
      exact ih hnames.2 hfields
  | @leaveOut key fields others hrest ih =>
    rw [List.map_cons, List.nodup_cons] at hnames
    rw [List.lookup_cons] at hfields
    cases hkey : name == key with
    | true =>
      rw [beq_iff_eq] at hkey
      exact .inl (hrest.lookup_eq_none (lookup_eq_none_of_notMem (hkey ▸ hnames.1)))
    | false =>
      rw [hkey] at hfields
      exact ih hnames.2 hfields

end Fields

namespace Varied

variable {fields : List (String × Json)} {json value : Json} {name : String}

theorem eq_of_string {text : String} (hvaried : Varied (string text) json) :
    json = string text := by
  cases hvaried
  rfl

theorem eq_of_null (hvaried : Varied null json) : json = null := by
  cases hvaried
  rfl

/-- An object stays an object, whose known fields are the same ones, varied. -/
theorem exists_fields (hvaried : Varied (object fields) json) :
    ∃ others, json = object others ∧
      FieldsVaried Varied fields (others.filter fun field => field.1 ∈ knownNames fields) := by
  cases hvaried with
  | same =>
    have hknown : (fields.filter fun field => field.1 ∈ knownNames fields) = fields := by
      apply List.filter_eq_self.mpr
      intro field hfield
      exact decide_eq_true (mem_knownNames (List.mem_map_of_mem hfield))
    refine ⟨fields, rfl, ?_⟩
    rw [hknown]
    exact .refl .same fields
  | @inObject _ others hfields => exact ⟨others, rfl, hfields⟩

theorem named (hvaried : Varied (object fields) json) (names : List String) :
    json.named names = json := by
  obtain ⟨others, rfl, -⟩ := hvaried.exists_fields
  rfl

theorem exists_get? (hvaried : Varied (object fields) json)
    (hvalue : fields.lookup name = some value) (hne : value ≠ null) :
    ∃ other, json.get? name = some other ∧ Varied value other := by
  obtain ⟨others, rfl, hfields⟩ := hvaried.exists_fields
  have hknown := mem_knownNames (mem_names_of_lookup hvalue)
  rw [get?, ← lookup_filter_mem hknown]
  exact hfields.exists_lookup hvalue hne

theorem get?_null (hvaried : Varied (object fields) json) (hnames : (fields.map Prod.fst).Nodup)
    (hnull : fields.lookup name = some null) :
    json.get? name = none ∨ json.get? name = some null := by
  obtain ⟨others, rfl, hfields⟩ := hvaried.exists_fields
  have hknown := mem_knownNames (mem_names_of_lookup hnull)
  rw [get?, ← lookup_filter_mem hknown]
  exact hfields.lookup_null (fun json => eq_of_null) hnames hnull

theorem get?_eq_none (hvaried : Varied (object fields) json) (hknown : name ∈ knownNames fields)
    (hnone : fields.lookup name = none) : json.get? name = none := by
  obtain ⟨others, rfl, hfields⟩ := hvaried.exists_fields
  rw [get?, ← lookup_filter_mem hknown]
  exact hfields.lookup_eq_none hnone

end Varied

end Json

namespace Form

/-- What is written of a value is not null, and the value is read back from it, also if fields that
are null are left out of its objects and unknown ones are added. -/
structure ReadsBack {α : Type} [Form α] (value : α) : Prop where
  ne_null : write value ≠ .null
  read?_eq : ∀ json, Json.Varied (write value) json → read? json = some value

end Form

namespace Json.Varied

open Form

variable {fields : List (String × Json)} {json : Json}

/-- A value that reads back alone is read back from its field. -/
theorem member? {α : Type} [Form α] {value : α} (hvaried : Varied (object fields) json)
    (name : String) (hvalue : ReadsBack value) (hfield : fields.lookup name = some (write value)) :
    json.member? name = some value := by
  obtain ⟨other, hother, hvary⟩ := hvaried.exists_get? hfield hvalue.ne_null
  rw [Json.member?, hother, Option.bind_some, hvalue.read?_eq other hvary]

/-- A text that may be missing is read back from its field, or from none. -/
theorem optionalText? {text : Option String} (hvaried : Varied (object fields) json)
    (name : String) (hnames : (fields.map Prod.fst).Nodup)
    (hfield : fields.lookup name = some (optionalText text)) :
    json.optionalText? name = some text := by
  cases text with
  | none =>
    rcases hvaried.get?_null hnames hfield with hnone | hnull
    · rw [Json.optionalText?, hnone]
    · rw [Json.optionalText?, hnull]
  | some text =>
    obtain ⟨other, hother, hvary⟩ := hvaried.exists_get? hfield nofun
    rw [Json.optionalText?, hother, hvary.eq_of_string]

end Json.Varied

end CashLedger
