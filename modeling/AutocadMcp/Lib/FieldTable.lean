import AutocadMcp.Lib.Checked
import AutocadMcp.Lib.Lookup
import Mathlib.Data.List.Perm.Basic

/-!
# Tables of fields

A class of records is the table of its fields. An object is taken for a record when it has all
required fields, no other members than fields, and values that fit them; the record then has
a value for every field, the null where the object left it out. Neither the order of the members
nor a null that is written or left out makes a difference.
-/

namespace AutocadMcp

/-- A field of a class of records. -/
structure RecordField (V : Type) where
  name : String
  required : Bool
  fits : V → Bool

section

variable {V : Type}

/-- The value under a name, or the null. -/
def valueOf (null : V) (members : List (String × V)) (name : String) : V :=
  (members.lookup name).getD null

def RecordField.accepts (f : RecordField V) (members : List (String × V)) : Bool :=
  match members.lookup f.name with
  | some value => f.fits value
  | none => !f.required

/-- The record of an object. -/
def modelValidate (null : V) (fields : List (RecordField V)) (members : List (String × V)) :
    Except String (List (String × V)) := do
  check (∀ m ∈ members, m.1 ∈ fields.map RecordField.name) "Extra inputs are not permitted"
  check (∀ f ∈ fields, f.accepts members = true) "Field required or not valid"
  return fields.map fun f => (f.name, valueOf null members f.name)

/-- The members that are not null. -/
def excludeNull (isNull : V → Bool) (members : List (String × V)) : List (String × V) :=
  members.filter fun m => !isNull m.2

variable {null : V} {fields : List (RecordField V)} {members record : List (String × V)}

theorem valueOf_of_mem (h : (members.map Prod.fst).Nodup) {name : String} {value : V}
    (hmem : (name, value) ∈ members) : valueOf null members name = value := by
  rw [valueOf, (lookup_eq_some_iff_mem h).mpr hmem, Option.getD_some]

theorem modelValidate_eq_ok : modelValidate null fields members = .ok record ↔
    (∀ m ∈ members, m.1 ∈ fields.map RecordField.name) ∧ (∀ f ∈ fields, f.accepts members = true) ∧
      record = fields.map fun f => (f.name, valueOf null members f.name) := by
  constructor
  · intro h
    obtain ⟨_, hextra, h⟩ := bind_eq_ok.mp h
    obtain ⟨_, haccepts, h⟩ := bind_eq_ok.mp h
    cases h
    exact ⟨check_eq_ok.mp hextra, check_eq_ok.mp haccepts, rfl⟩
  · rintro ⟨hextra, haccepts, rfl⟩
    exact bind_eq_ok.mpr ⟨(), check_eq_ok.mpr hextra,
      bind_eq_ok.mpr ⟨(), check_eq_ok.mpr haccepts, rfl⟩⟩

theorem names_of_record (h : modelValidate null fields members = .ok record) :
    record.map Prod.fst = fields.map RecordField.name := by
  obtain ⟨-, -, rfl⟩ := modelValidate_eq_ok.mp h
  rw [List.map_map]
  rfl

section

variable (hnames : (fields.map RecordField.name).Nodup)

include hnames

/-- A record is one of its own class, where its values fit the fields. -/
theorem modelValidate_of_fits (hrecord : record.map Prod.fst = fields.map RecordField.name)
    (hfits : ∀ f ∈ fields, f.fits (valueOf null record f.name) = true) :
    modelValidate null fields record = .ok record := by
  have hnodup : (record.map Prod.fst).Nodup := hrecord ▸ hnames
  refine modelValidate_eq_ok.mpr ⟨fun m hm => ?_, fun f hf => ?_, ?_⟩
  · rw [← hrecord]
    exact List.mem_map_of_mem hm
  · have hmem : f.name ∈ record.map Prod.fst := hrecord ▸ List.mem_map_of_mem hf
    obtain ⟨⟨name, value⟩, hvalue, rfl⟩ := List.mem_map.mp hmem
    have hfit := hfits f hf
    rw [valueOf_of_mem hnodup hvalue] at hfit
    rw [RecordField.accepts, (lookup_eq_some_iff_mem hnodup).mpr hvalue]
    exact hfit
  · have hsame : record = (record.map Prod.fst).map fun name => (name, valueOf null record name) := by
      rw [List.map_map]
      refine (List.map_id _).symm.trans (List.map_congr_left fun m hm => ?_)
      rw [Function.comp_apply, valueOf_of_mem hnodup hm]
      rfl
    rw [hrecord, List.map_map] at hsame
    exact hsame

/-- The values may be read off side by side with the fields. -/
theorem fits_of_zip (hrecord : record.map Prod.fst = fields.map RecordField.name)
    (h : ∀ p ∈ fields.zip record, p.1.fits p.2.2 = true) :
    ∀ f ∈ fields, f.fits (valueOf null record f.name) = true := by
  intro f hf
  obtain ⟨i, hi, rfl⟩ := List.mem_iff_getElem.mp hf
  have hlength : record.length = fields.length := by
    simpa only [List.length_map] using congrArg List.length hrecord
  have hi' : i < record.length := hlength ▸ hi
  have hname : record[i].1 = fields[i].name := by
    have hat := congrArg (fun names => names[i]?) hrecord
    simpa [hi, hi'] using hat
  have hmem : (fields[i].name, record[i].2) ∈ record := by
    rw [← hname]
    exact List.getElem_mem hi'
  have hpair : (fields[i], record[i]) ∈ fields.zip record := by
    refine List.mem_iff_getElem.mpr ⟨i, by rw [List.length_zip]; omega, ?_⟩
    rw [List.getElem_zip]
  rw [valueOf_of_mem (hrecord ▸ hnames) hmem]
  exact h _ hpair

/-- The values of a record fit its fields. -/
theorem fits_of_modelValidate (hrequired : ∀ f ∈ fields, f.required = false → f.fits null = true)
    (h : modelValidate null fields members = .ok record) :
    ∀ f ∈ fields, f.fits (valueOf null record f.name) = true := by
  have hnodup : (record.map Prod.fst).Nodup := names_of_record h ▸ hnames
  obtain ⟨-, haccepts, rfl⟩ := modelValidate_eq_ok.mp h
  intro f hf
  rw [valueOf_of_mem hnodup (List.mem_map.mpr ⟨f, hf, rfl⟩), valueOf]
  have haccept := haccepts f hf
  unfold RecordField.accepts at haccept
  cases hlookup : members.lookup f.name with
  | some value =>
      rw [hlookup] at haccept
      exact haccept
  | none =>
      rw [hlookup] at haccept
      exact hrequired f hf (by simpa using haccept)

/-- An object has the record that it writes out, up to its nulls and the order. -/
theorem modelValidate_of_perm {isNull : V → Bool} (hnull : ∀ v, isNull v = true ↔ v = null)
    (hrequired : ∀ f ∈ fields, f.required = true → f.fits null = false)
    (h : modelValidate null fields record = .ok record)
    (hperm : members.Perm (excludeNull isNull record)) :
    modelValidate null fields members = .ok record := by
  have hkeys := names_of_record h
  have hnodup : (record.map Prod.fst).Nodup := hkeys ▸ hnames
  have hnodup' : (members.map Prod.fst).Nodup :=
    (hperm.map Prod.fst).nodup_iff.mpr (hnodup.sublist (List.filter_sublist.map Prod.fst))
  obtain ⟨hextra, haccepts, hrecord⟩ := modelValidate_eq_ok.mp h
  have hmem : ∀ m, m ∈ members ↔ m ∈ record ∧ isNull m.2 = false := fun m => by
    rw [hperm.mem_iff, excludeNull, List.mem_filter, Bool.not_eq_true']
  -- a field is left out exactly where its value is null
  have hlookup : ∀ f ∈ fields, (isNull (valueOf null record f.name) = true ∧
      members.lookup f.name = none) ∨
        members.lookup f.name = some (valueOf null record f.name) := by
    intro f hf
    have hvalue : (f.name, valueOf null record f.name) ∈ record := by
      have hin : (f.name, valueOf null record f.name) ∈
          fields.map fun f => (f.name, valueOf null record f.name) := List.mem_map.mpr ⟨f, hf, rfl⟩
      rwa [← hrecord] at hin
    cases hisNull : isNull (valueOf null record f.name) with
    | false =>
        exact Or.inr ((lookup_eq_some_iff_mem hnodup').mpr ((hmem _).mpr ⟨hvalue, hisNull⟩))
    | true =>
        refine Or.inl ⟨rfl, ?_⟩
        cases hsome : members.lookup f.name with
        | none => rfl
        | some value =>
            obtain ⟨hother, hother'⟩ := (hmem _).mp ((lookup_eq_some_iff_mem hnodup').mp hsome)
            rw [valueOf_of_mem hnodup hother, hother'] at hisNull
            cases hisNull
  refine modelValidate_eq_ok.mpr ⟨fun m hm => hextra m ((hmem m).mp hm).1, fun f hf => ?_, ?_⟩
  · have haccept := haccepts f hf
    unfold RecordField.accepts at haccept ⊢
    have hin : f.name ∈ record.map Prod.fst := hkeys ▸ List.mem_map_of_mem hf
    obtain ⟨⟨name, value⟩, hvalue, rfl⟩ := List.mem_map.mp hin
    rw [(lookup_eq_some_iff_mem hnodup).mpr hvalue] at haccept
    rcases hlookup f hf with ⟨hisNull, hnone⟩ | hsome
    · rw [valueOf_of_mem hnodup hvalue, hnull] at hisNull
      rw [hnone]
      cases hreq : f.required with
      | false => rfl
      | true =>
          have hrefused := hrequired f hf hreq
          rw [← hisNull] at hrefused
          exact absurd (haccept.symm.trans hrefused) (by simp)
    · rw [hsome, valueOf_of_mem hnodup hvalue]
      exact haccept
  · refine hrecord.trans (List.map_congr_left fun f hf => ?_)
    rcases hlookup f hf with ⟨hisNull, hnone⟩ | hsome
    · rw [valueOf, valueOf, hnone, Option.getD_none]
      exact congrArg _ ((hnull _).mp hisNull)
    · rw [valueOf.eq_def null members, hsome, Option.getD_some]

end

end

end AutocadMcp
