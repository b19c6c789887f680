import AutocadMcp.Lib.JsonOrder

/-!
# Objects by the names of their fields

Objects are built from named fields, and a field is read by its name: the last member
with that name, where there are several. What holds of every string of a document is
read off its fields.
-/

namespace AutocadMcp.JsonText

/-- The object with these fields. -/
def fields (members : List (String × Doc)) : Doc :=
  .object (members.map fun m => (m.1.toList, m.2))

def text (s : String) : Doc := .string s.toList

def integer (n : Int) : Doc := .number (intText n)

/-- The last member with the key. -/
def lookupLast (key : List Char) : List (List Char × Doc) → Option Doc
  | [] => none
  | (k, d) :: ms => (lookupLast key ms).or (if k = key then some d else none)

def Doc.get? (d : Doc) (name : String) : Option Doc :=
  match d with
  | .object ms => lookupLast name.toList ms
  | _ => none

/-- The names of the members of an object. -/
def Doc.names? : Doc → Option (List String)
  | .object ms => some (ms.map fun m => String.ofList m.1)
  | _ => none

/-- The last field with the name. -/
def fieldOf (name : String) : List (String × Doc) → Option Doc
  | [] => none
  | (k, d) :: ms => (fieldOf name ms).or (if k = name then some d else none)

@[simp] theorem fieldOf_nil (name : String) : fieldOf name [] = none := rfl

@[simp] theorem fieldOf_cons (name k : String) (d : Doc) (ms : List (String × Doc)) :
    fieldOf name ((k, d) :: ms) = (fieldOf name ms).or (if k = name then some d else none) := rfl

theorem fieldOf_append (name : String) (ms ms' : List (String × Doc)) :
    fieldOf name (ms ++ ms') = (fieldOf name ms').or (fieldOf name ms) := by
  induction ms with
  | nil => simp
  | cons m ms ih =>
      obtain ⟨k, d⟩ := m
      rw [List.cons_append, fieldOf_cons, fieldOf_cons, ih, Option.or_assoc]

@[simp] theorem get?_fields (name : String) (ms : List (String × Doc)) :
    (fields ms).get? name = fieldOf name ms := by
  show lookupLast name.toList (ms.map fun m => (m.1.toList, m.2)) = fieldOf name ms
  induction ms with
  | nil => rfl
  | cons m ms ih =>
      obtain ⟨k, d⟩ := m
      rw [List.map_cons, lookupLast, ih, fieldOf_cons]
      simp only [String.toList_inj]

@[simp] theorem names?_fields (ms : List (String × Doc)) :
    (fields ms).names? = some (ms.map Prod.fst) := by
  simp [fields, Doc.names?, Function.comp_def]

/-! ## The strings of a document -/

/-- Every string and every key of the document satisfies `P`. -/
def Doc.EveryText (P : List Char → Prop) (d : Doc) : Prop :=
  ∀ s ∈ d.collect (fun s => [s]) fun _ => [], P s

section

variable {P : List Char → Prop}

@[simp] theorem everyText_text {s : String} : (text s).EveryText P ↔ P s.toList := by
  simp [Doc.EveryText, text, Doc.collect]

@[simp] theorem everyText_string {s : List Char} : (Doc.string s).EveryText P ↔ P s := by
  simp [Doc.EveryText, Doc.collect]

@[simp] theorem everyText_integer {n : Int} : (integer n).EveryText P := by
  simp [Doc.EveryText, integer, Doc.collect]

@[simp] theorem everyText_number {raw : List Char} : (Doc.number raw).EveryText P := by
  simp [Doc.EveryText, Doc.collect]

@[simp] theorem everyText_bool {b : Bool} : (Doc.bool b).EveryText P := by
  simp [Doc.EveryText, Doc.collect]

@[simp] theorem everyText_null : Doc.null.EveryText P := by
  simp [Doc.EveryText, Doc.collect]

@[simp] theorem everyText_array {items : List Doc} :
    (Doc.array items).EveryText P ↔ ∀ d ∈ items, d.EveryText P := by
  simp only [Doc.EveryText, Doc.collect]
  induction items with
  | nil => simp [collectItems]
  | cons item items ih => rw [collectItems, List.forall_mem_append, List.forall_mem_cons, ih]

theorem everyText_object {ms : List (List Char × Doc)} :
    (Doc.object ms).EveryText P ↔ ∀ m ∈ ms, P m.1 ∧ m.2.EveryText P := by
  simp only [Doc.EveryText, Doc.collect, mem_collectMembers, List.mem_singleton]
  constructor
  · intro h m hm
    exact ⟨h m.1 ⟨m, hm, Or.inl rfl⟩, fun s hs => h s ⟨m, hm, Or.inr hs⟩⟩
  · rintro h s ⟨m, hm, rfl | hs⟩
    · exact (h m hm).1
    · exact (h m hm).2 s hs

theorem everyText_fields {ms : List (String × Doc)} :
    (fields ms).EveryText P ↔ ∀ m ∈ ms, P m.1.toList ∧ m.2.EveryText P := by
  rw [fields, everyText_object, List.forall_mem_map]

mutual

/-- The characters of a document are those of its strings. -/
theorem chars_eq_flatten : ∀ d : Doc, d.chars = (d.collect (fun s => [s]) fun _ => []).flatten
  | .null | .bool _ | .number _ => rfl
  | .string s => (List.append_nil s).symm
  | .array xs => charsOfItems_eq_flatten xs
  | .object ms => charsOfMembers_eq_flatten ms

theorem charsOfItems_eq_flatten : ∀ xs : List Doc,
    charsOfItems xs = (collectItems (fun s => [s]) (fun _ => []) xs).flatten
  | [] => rfl
  | x :: xs => by
      have hx := chars_eq_flatten x
      have hxs := charsOfItems_eq_flatten xs
      rw [Doc.chars] at hx
      rw [charsOfItems] at hxs ⊢
      rw [collectItems, collectItems, List.flatten_append, hx, hxs]

theorem charsOfMembers_eq_flatten : ∀ ms : List (List Char × Doc),
    charsOfMembers ms = (collectMembers (fun s => [s]) (fun _ => []) ms).flatten
  | [] => rfl
  | (key, d) :: ms => by
      have hd := chars_eq_flatten d
      have hms := charsOfMembers_eq_flatten ms
      rw [Doc.chars] at hd
      rw [charsOfMembers] at hms ⊢
      rw [collectMembers, collectMembers, List.flatten_append, List.flatten_append, hd, hms]
      simp

end

theorem forall_chars_iff {Q : Char → Prop} {d : Doc} :
    (∀ c ∈ d.chars, Q c) ↔ d.EveryText fun s => ∀ c ∈ s, Q c := by
  simp only [chars_eq_flatten, List.mem_flatten, Doc.EveryText]
  constructor
  · exact fun h s hs c hc => h c ⟨s, hs, hc⟩
  · rintro h c ⟨s, hs, hc⟩
    exact h s hs c hc

end

/-! ## Two orders that agree on every key -/

section

variable {le le' : List Char → List Char → Bool} {K : List Char → Prop}

theorem orderedInsert_congr {r r' : List Char × Doc → List Char × Doc → Prop} [DecidableRel r]
    [DecidableRel r'] {m : List Char × Doc} {ms : List (List Char × Doc)}
    (h : ∀ m' ∈ ms, r m m' ↔ r' m m') : ms.orderedInsert r m = ms.orderedInsert r' m := by
  induction ms with
  | nil => rfl
  | cons m' ms ih =>
      have hhead := h m' List.mem_cons_self
      rw [List.orderedInsert, List.orderedInsert, ih fun x hx => h x (List.mem_cons_of_mem _ hx)]
      by_cases hr : r m m'
      · rw [if_pos hr, if_pos (hhead.mp hr)]
      · rw [if_neg hr, if_neg fun hr' => hr (hhead.mpr hr')]

theorem sortByKey_congr {ms : List (List Char × Doc)}
    (h : ∀ a ∈ ms, ∀ b ∈ ms, le a.1 b.1 = le' a.1 b.1) : sortByKey le ms = sortByKey le' ms := by
  unfold sortByKey
  induction ms with
  | nil => rfl
  | cons m ms ih =>
      rw [List.insertionSort_cons, List.insertionSort_cons,
        ih fun a ha b hb => h a (List.mem_cons_of_mem _ ha) b (List.mem_cons_of_mem _ hb)]
      refine orderedInsert_congr fun m' hm' => ?_
      have hmem : m' ∈ ms := (List.mem_insertionSort _).mp hm'
      rw [h m List.mem_cons_self m' (List.mem_cons_of_mem _ hmem)]

mutual

/-- Orders that agree on the keys of a document sort it in one way. -/
theorem sortKeys_congr (h : ∀ a, K a → ∀ b, K b → le a b = le' a b) : ∀ d : Doc,
    d.EveryText K → sortKeys le d = sortKeys le' d
  | .null, _ | .bool _, _ | .number _, _ | .string _, _ => rfl
  | .array xs, hd => by
      rw [sortKeys, sortKeys, sortItems_congr h xs (everyText_array.mp hd)]
  | .object ms, hd => by
      rw [everyText_object] at hd
      rw [sortKeys, sortKeys, sortMembers_congr h ms hd]
      refine congrArg Doc.object (sortByKey_congr fun a ha b hb => ?_)
      rw [sortMembers_eq_map, List.mem_map] at ha hb
      obtain ⟨m, hm, rfl⟩ := ha
      obtain ⟨m', hm', rfl⟩ := hb
      exact h m.1 (hd m hm).1 m'.1 (hd m' hm').1

theorem sortItems_congr (h : ∀ a, K a → ∀ b, K b → le a b = le' a b) : ∀ xs : List Doc,
    (∀ x ∈ xs, x.EveryText K) → sortItems le xs = sortItems le' xs
  | [], _ => rfl
  | x :: xs, hxs => by
      rw [List.forall_mem_cons] at hxs
      rw [sortItems, sortItems, sortKeys_congr h x hxs.1, sortItems_congr h xs hxs.2]

theorem sortMembers_congr (h : ∀ a, K a → ∀ b, K b → le a b = le' a b) :
    ∀ ms : List (List Char × Doc), (∀ m ∈ ms, K m.1 ∧ m.2.EveryText K) →
      sortMembers le ms = sortMembers le' ms
  | [], _ => rfl
  | (key, d) :: ms, hms => by
      rw [List.forall_mem_cons] at hms
      rw [sortMembers, sortMembers, sortKeys_congr h d hms.1.2, sortMembers_congr h ms hms.2]

end

end

/-! ## The order of the fields -/

/-- An object without repeated names is written in one way, whatever the order of its fields. -/
theorem sortKeys_fields_perm {le : List Char → List Char → Bool} (hle : KeyOrder le)
    {ms ms' : List (String × Doc)} (h : ms.Perm ms') (hnodup : (ms.map Prod.fst).Nodup) :
    sortKeys le (fields ms) = sortKeys le (fields ms') := by
  have hsorted : ∀ ms : List (String × Doc), sortKeys le (fields ms) =
      .object (sortByKey le (ms.map fun m => (m.1.toList, sortKeys le m.2))) := fun ms => by
    rw [fields, sortKeys, sortMembers_eq_map, List.map_map]
    rfl
  rw [hsorted, hsorted, Doc.object.injEq]
  have hperm := h.map fun m : String × Doc => (m.1.toList, sortKeys le m.2)
  refine ((sortByKey_perm _).trans (hperm.trans (sortByKey_perm _).symm)).eq_of_pairwise ?_
    (sortByKey_sorted hle _) (sortByKey_sorted hle _)
  intro a b ha hb hab hba
  obtain ⟨m, hm, rfl⟩ := List.mem_map.mp ((sortByKey_perm _).mem_iff.mp ha)
  obtain ⟨m', hm', rfl⟩ := List.mem_map.mp ((sortByKey_perm _).mem_iff.mp hb)
  have hkey : m.1 = m'.1 := String.toList_injective (hle.antisymm _ _ hab hba)
  rw [List.inj_on_of_nodup_map hnodup hm (h.mem_iff.mpr hm') hkey]

end AutocadMcp.JsonText
