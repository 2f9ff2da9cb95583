/-
This file proves when the canonical text of a Python value survives a `jsonb` column.
-/

import Sprawl.Audit.PyValue
import Sprawl.Proof.JsonReading

namespace Sprawl

open Text

section Lists

variable {α β γ : Type} {first : α → γ} {second : β → γ}

/-- Two lists of one length agree place by place. -/
theorem zip_agrees_iff {items : List α} {others : List β} (lengths : items.length = others.length) :
    (∀ pair ∈ items.zip others, first pair.1 = second pair.2) ↔
      items.map first = others.map second := by
  induction items generalizing others with
  | nil =>
      obtain rfl := List.length_eq_zero_iff.mp lengths.symm
      simp
  | cons item rest ih =>
      cases others with
      | nil => exact absurd lengths (by simp)
      | cons other more =>
          rw [List.zip_cons_cons, List.forall_mem_cons, ih (Nat.succ.inj lengths), List.map_cons,
            List.map_cons, List.cons.injEq]

theorem zip_forall_snd {holds : β → Prop} {items : List α} {others : List β}
    (lengths : items.length = others.length) :
    (∀ pair ∈ items.zip others, holds pair.2) ↔ ∀ other ∈ others, holds other := by
  rw [← List.forall_mem_map (f := Prod.snd), List.map_snd_zip (Nat.le_of_eq lengths.symm)]

theorem pyItems_eq (items : List PyValue) : pyItems items = items.map PyValue.json := by
  induction items with
  | nil => rfl
  | cons item rest ih => rw [pyItems, ih, List.map_cons]

theorem pyFields_eq (fields : List (PyKey × PyValue)) :
    pyFields fields = fields.map fun field => (field.1.text, field.2.json) := by
  induction fields with
  | nil => rfl
  | cons field rest ih => rw [pyFields, ih, List.map_cons]

theorem pyCanonicalItems_eq (items : List PyValue) :
    pyCanonicalItems items = items.map PyValue.canonical := by
  induction items with
  | nil => rfl
  | cons item rest ih => rw [pyCanonicalItems, ih, List.map_cons]

theorem pyCanonicalFields_eq (fields : List (PyKey × PyValue)) :
    pyCanonicalFields fields = fields.map fun field => (field.1, field.2.canonical) := by
  induction fields with
  | nil => rfl
  | cons field rest ih => rw [pyCanonicalFields, ih, List.map_cons]

theorem keptItems_iff (items : List PyValue) :
    keptItems items = true ↔ ∀ item ∈ items, item.kept = true := by
  induction items with
  | nil => simp [keptItems]
  | cons item rest ih => rw [keptItems, Bool.and_eq_true, ih, List.forall_mem_cons]

theorem keptFields_iff (fields : List (PyKey × PyValue)) :
    keptFields fields = true ↔ ∀ field ∈ fields, field.2.kept = true := by
  induction fields with
  | nil => simp [keptFields]
  | cons field rest ih => rw [keptFields, Bool.and_eq_true, ih, List.forall_mem_cons]

end Lists

section Dictionaries

/-- One field of a canonical dictionary. -/
def pyFieldText (field : PyKey × PyValue) : String :=
  quoteString field.1.text ++ ":" ++ field.2.canonical

/-- A canonical dictionary renders its sorted fields. -/
theorem canonical_dict (fields : List (PyKey × PyValue)) :
    (PyValue.dict fields).canonical =
      "\x7b" ++ String.intercalate "," ((fields.insertionSort byPyKey).map pyFieldText) ++
        "\x7d" := by
  have sorted : (pyCanonicalFields fields).insertionSort byPyKey =
      (fields.insertionSort byPyKey).map fun field => (field.1, field.2.canonical) := by
    rw [pyCanonicalFields_eq]
    exact (List.map_insertionSort (@byPyKey PyValue) (@byPyKey String)
      (fun field => (field.1, field.2.canonical)) fields fun _ _ _ _ => Iff.rfl).symm
  rw [PyValue.canonical, sorted, List.map_map]
  rfl

/-- The fields that a verifier renders. -/
def storedFields (fields : List (PyKey × PyValue)) : List (String × Json) :=
  ((pyFields fields).insertionSort byName).map fun field => (field.1, jsonb field.2)

theorem mem_storedFields {fields : List (PyKey × PyValue)} {stored : String × Json}
    (inside : stored ∈ storedFields fields) :
    ∃ field ∈ fields, stored = (field.1.text, jsonb field.2.json) := by
  obtain ⟨named, among, rfl⟩ := List.mem_map.mp inside
  rw [List.mem_insertionSort, pyFields_eq] at among
  obtain ⟨field, given, rfl⟩ := List.mem_map.mp among
  exact ⟨field, given, rfl⟩

/-- The keys are at the same places exactly if they are sorted like their texts. -/
theorem storedFields_keys_iff (fields : List (PyKey × PyValue)) :
    (storedFields fields).map (·.1) = (fields.insertionSort byPyKey).map (·.1.text) ↔
      PyKey.sortedByText (fields.map (·.1)) = true := by
  have stored : (storedFields fields).map (·.1) =
      ((fields.map (·.1)).map PyKey.text).insertionSort (· ≤ ·) := by
    have names : ((pyFields fields).insertionSort byName).map (·.1) =
        ((pyFields fields).map (·.1)).insertionSort (· ≤ ·) :=
      List.map_insertionSort byName (· ≤ ·) _ _ fun _ _ _ _ => Iff.rfl
    rw [storedFields, List.map_map, List.map_map, ← List.map_map, List.map_map]
    refine Eq.trans (b := ((pyFields fields).insertionSort byName).map (·.1)) rfl ?_
    rw [names, pyFields_eq, List.map_map]
    rfl
  have hashed : (fields.insertionSort byPyKey).map (·.1.text) =
      ((fields.map (·.1)).insertionSort (PyKey.le · ·)).map PyKey.text := by
    have keys : (fields.insertionSort byPyKey).map (·.1) =
        (fields.map (·.1)).insertionSort (PyKey.le · ·) :=
      List.map_insertionSort byPyKey (PyKey.le · ·) _ _ fun _ _ _ _ => Iff.rfl
    rw [← keys, List.map_map]
    rfl
  rw [stored, hashed, PyKey.sortedByText, decide_eq_true_iff, eq_comm]

/-- Two fields meet where their keys do and the column keeps the value. -/
theorem pyField_meets {stored : String × Json} {field : PyKey × PyValue}
    (value : stored.1 = field.1.text → Meets (canonicalJson stored.2).toList
      field.2.canonical.toList (field.2.kept = true)) :
    Meets (fieldText stored).toList (pyFieldText field).toList
      (stored.1 = field.1.text ∧ field.2.kept = true) := by
  simp only [fieldText, pyFieldText, String.toList_append]
  have key := (quoteString_meets stored.1 field.1.text).append (meets_self ":".toList)
  by_cases same : stored.1 = field.1.text
  · exact (key.append (value same)).congr (by simp)
  · exact ((key.congr (by simp [same])).never_append _ _).congr (by simp [same])

variable {fields : List (PyKey × PyValue)}

/-- The text that a verifier hashes for a dictionary. -/
theorem canonicalJson_stored (distinct : (fields.map (·.1.text)).Nodup) :
    canonicalJson (jsonb (PyValue.dict fields).json) =
      "\x7b" ++ String.intercalate "," ((storedFields fields).map fieldText) ++ "\x7d" := by
  have names : ((pyFields fields).map (·.1)).Nodup := by
    rw [pyFields_eq, List.map_map]
    exact distinct
  rw [PyValue.json, jsonb, canonicalJson_obj, insertionSort_jsonb names, storedFields]

theorem storedFields_length (fields : List (PyKey × PyValue)) :
    (storedFields fields).length = (fields.insertionSort byPyKey).length := by
  rw [storedFields, List.length_map, List.length_insertionSort, List.length_insertionSort,
    pyFields_eq, List.length_map]

/-- A dictionary is kept where its fields are, each at its place. -/
theorem kept_dict_iff (fields : List (PyKey × PyValue)) :
    (PyValue.dict fields).kept = true ↔
      ∀ pair ∈ (storedFields fields).zip (fields.insertionSort byPyKey),
        pair.1.1 = pair.2.1.text ∧ pair.2.2.kept = true := by
  have lengths := storedFields_length fields
  rw [PyValue.kept, Bool.and_eq_true, ← storedFields_keys_iff, keptFields_iff]
  simp only [imp_and, forall_and]
  apply and_congr
  · exact (zip_agrees_iff lengths).symm
  · refine Iff.trans ?_ (@zip_forall_snd _ _ (fun field => field.2.kept = true) _ _ lengths).symm
    simp only [List.mem_insertionSort]

/-- The fields at one place meet. -/
theorem pair_meets (distinct : (fields.map (·.1.text)).Nodup)
    (meets : ∀ field ∈ fields, Meets (canonicalJson (jsonb field.2.json)).toList
      field.2.canonical.toList (field.2.kept = true)) :
    ∀ pair ∈ (storedFields fields).zip (fields.insertionSort byPyKey),
      Meets (fieldText pair.1).toList (pyFieldText pair.2).toList
        (pair.1.1 = pair.2.1.text ∧ pair.2.2.kept = true) := by
  rintro ⟨stored, hashed⟩ inside
  obtain ⟨left, right⟩ := List.of_mem_zip inside
  obtain ⟨field, given, rfl⟩ := mem_storedFields left
  have among := (List.mem_insertionSort byPyKey).mp right
  refine pyField_meets fun same => ?_
  have equal : field = hashed := List.inj_on_of_nodup_map distinct given among same
  rw [← equal]
  exact meets field given

theorem dict_meets (distinct : (fields.map (·.1.text)).Nodup)
    (meets : ∀ field ∈ fields, Meets (canonicalJson (jsonb field.2.json)).toList
      field.2.canonical.toList (field.2.kept = true)) :
    Meets (canonicalJson (jsonb (PyValue.dict fields).json)).toList
      (PyValue.dict fields).canonical.toList ((PyValue.dict fields).kept = true) := by
  have inside := @meets_intercalate_zip _ _ _ ",".toList (fun field => (fieldText field).toList)
    (fun field => (pyFieldText field).toList)
    (fun pair => pair.1.1 = pair.2.1.text ∧ pair.2.2.kept = true) _ _ (storedFields_length fields)
    (pair_meets distinct meets)
  rw [canonicalJson_stored distinct, canonical_dict, kept_dict_iff]
  simp only [String.toList_append, String.toList_intercalate, List.map_map]
  have whole := ((meets_self "\x7b".toList).append inside).append (meets_self "\x7d".toList)
  exact whole.congr ⟨fun kept => kept.1.2, fun kept => ⟨⟨trivial, kept⟩, trivial⟩⟩

theorem arr_kept {items : List PyValue}
    (meets : ∀ item ∈ items, Meets (canonicalJson (jsonb item.json)).toList item.canonical.toList
      (item.kept = true)) :
    Meets (canonicalJson (jsonb (PyValue.arr items).json)).toList
      (PyValue.arr items).canonical.toList ((PyValue.arr items).kept = true) := by
  rw [PyValue.json, jsonb, canonicalJson, PyValue.canonical, canonicalItems_eq, jsonbItems_eq,
    pyItems_eq, pyCanonicalItems_eq, PyValue.kept, keptItems_iff]
  simp only [String.toList_append, String.toList_intercalate, List.map_map]
  have inside := meets_intercalate ",".toList meets
  exact (((meets_self "[".toList).append inside).append (meets_self "]".toList)).congr (by simp)

mutual

/-- The text of a value is that of its column exactly if the column keeps it. -/
theorem py_meets : (value : PyValue) → value.Sortable →
    Meets (canonicalJson (jsonb value.json)).toList value.canonical.toList (value.kept = true)
  | .null, _ => (meets_self _).congr (by simp [PyValue.kept])
  | .bool value, _ => (meets_self _).congr (by simp [PyValue.kept])
  | .int value, _ => (meets_self _).congr (by simp [PyValue.kept])
  | .str value, _ => (meets_self _).congr (by simp [PyValue.kept])
  | .float value, _ => stored_meets value
  | .arr items, sortable => arr_kept (pyItems_meet items sortable)
  | .dict fields, sortable => dict_meets sortable.2.1 (pyFields_meet fields sortable.2.2)

theorem pyItems_meet : (items : List PyValue) → SortableItems items → ∀ item ∈ items,
    Meets (canonicalJson (jsonb item.json)).toList item.canonical.toList (item.kept = true)
  | [], _ => by simp
  | item :: rest, sortable => by
      rw [List.forall_mem_cons]
      exact ⟨py_meets item sortable.1, pyItems_meet rest sortable.2⟩

theorem pyFields_meet : (fields : List (PyKey × PyValue)) → SortableFields fields →
    ∀ field ∈ fields, Meets (canonicalJson (jsonb field.2.json)).toList
      field.2.canonical.toList (field.2.kept = true)
  | [], _ => by simp
  | (key, value) :: rest, sortable => by
      rw [List.forall_mem_cons]
      exact ⟨py_meets value sortable.1, pyFields_meet rest sortable.2⟩

end

end Dictionaries

section TextKeys

theorem byPyKey_str {α : Type} (first second : String × α) :
    byPyKey (PyKey.str first.1, first.2) (.str second.1, second.2) ↔ first.1 ≤ second.1 :=
  decide_eq_true_iff

mutual

/-- A value whose keys are texts has the text of its JSON value. -/
theorem canonical_py : (value : Json) → value.py.canonical = canonicalJson value
  | .null => rfl
  | .bool _ => rfl
  | .int _ => rfl
  | .float _ => rfl
  | .str _ => rfl
  | .arr items => by rw [Json.py, PyValue.canonical, canonicalItems_py items, canonicalJson]
  | .obj fields => by
      rw [Json.py, PyValue.canonical, canonicalFields_py fields, canonicalJson,
        ← List.map_insertionSort byKey (@byPyKey String)
          (fun field => (PyKey.str field.1, field.2)) _
          fun first _ second _ => (byPyKey_str first second).symm, List.map_map]
      rfl

theorem canonicalItems_py : (items : List Json) →
    pyCanonicalItems (itemsPy items) = canonicalItems items
  | [] => rfl
  | item :: rest => by
      rw [itemsPy, pyCanonicalItems, canonical_py item, canonicalItems_py rest, canonicalItems]

theorem canonicalFields_py : (fields : List (String × Json)) →
    pyCanonicalFields (fieldsPy fields) =
      (canonicalFields fields).map fun field => (PyKey.str field.1, field.2)
  | [] => rfl
  | (key, value) :: rest => by
      rw [fieldsPy, pyCanonicalFields, canonical_py value, canonicalFields_py rest,
        canonicalFields, List.map_cons]

end

/-- A writer hashes the text of a payload where its documents have text keys. -/
theorem AuditCall.canonical_payload (call : AuditCall) {before after : Option JsonDict}
    (beforeKeys : call.before = before.map JsonDict.py)
    (afterKeys : call.after = after.map JsonDict.py) (now : Time) :
    (call.payload now).canonical = canonicalJson (call.payloadAt before after now).json := by
  have optional (given : Option String) : PyValue.optional given = (Json.optional .str given).py := by
    cases given <;> rfl
  have given (dict : Option JsonDict) :
      PyValue.given (dict.map JsonDict.py) = (Json.dict dict).py := by
    cases dict <;> rfl
  rw [← canonical_py, AuditCall.payload, beforeKeys, afterKeys]
  simp only [optional, given]
  rfl

end TextKeys

end Sprawl
