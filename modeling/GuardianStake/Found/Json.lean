import Mathlib

/-!
# JSON values over a type of numbers

JSON values as trees, with the type of their numbers left open, so that a decoded value and the
text it stands for are trees of the same shape. Nothing here names a program.

* `Json.bind f` — every number replaced by a value; `numbers` — the numbers of a value;
  `objectKeys` — the keys of each object in it.
* `bind_bind`, `numbers_bind`, `objectKeys_bind` — how replacing composes.
* `bind_eq_self` — what keeps the numbers keeps the value.
* `Json.get`, `Json.set` — the fields of an object; `get_bind` for replaced numbers, `numbers_set`
  and `mem_objectKeys_set` for a field that is new.
-/

namespace GuardianStake.Found

universe u v w

/-- A JSON value whose numbers are of type `ν`. An object lists its fields in order. -/
inductive Json (ν : Type u) : Type u
  | null
  | bool (b : Bool)
  | string (s : String)
  | number (x : ν)
  | array (items : List (Json ν))
  | object (fields : List (String × Json ν))

namespace Json

variable {ν : Type u} {μ : Type v} {κ : Type w}

mutual

/-- Every number replaced by a value. -/
def bind (f : ν → Json μ) : Json ν → Json μ
  | .null => .null
  | .bool b => .bool b
  | .string s => .string s
  | .number x => f x
  | .array items => .array (bindItems f items)
  | .object fields => .object (bindFields f fields)

@[inherit_doc bind]
def bindItems (f : ν → Json μ) : List (Json ν) → List (Json μ)
  | [] => []
  | item :: rest => bind f item :: bindItems f rest

@[inherit_doc bind]
def bindFields (f : ν → Json μ) : List (String × Json ν) → List (String × Json μ)
  | [] => []
  | (key, value) :: rest => (key, bind f value) :: bindFields f rest

end

mutual

/-- The numbers of a value, from left to right. -/
def numbers : Json ν → List ν
  | .null | .bool _ | .string _ => []
  | .number x => [x]
  | .array items => numbersItems items
  | .object fields => numbersFields fields

@[inherit_doc numbers]
def numbersItems : List (Json ν) → List ν
  | [] => []
  | item :: rest => numbers item ++ numbersItems rest

@[inherit_doc numbers]
def numbersFields : List (String × Json ν) → List ν
  | [] => []
  | (_, value) :: rest => numbers value ++ numbersFields rest

end

mutual

/-- The keys of each object in a value, in the order of the objects' openings. -/
def objectKeys : Json ν → List (List String)
  | .null | .bool _ | .string _ | .number _ => []
  | .array items => objectKeysItems items
  | .object fields => fields.map Prod.fst :: objectKeysFields fields

@[inherit_doc objectKeys]
def objectKeysItems : List (Json ν) → List (List String)
  | [] => []
  | item :: rest => objectKeys item ++ objectKeysItems rest

@[inherit_doc objectKeys]
def objectKeysFields : List (String × Json ν) → List (List String)
  | [] => []
  | (_, value) :: rest => objectKeys value ++ objectKeysFields rest

end

example : bind (fun n : ℕ => .array [.number n, .number (n + 1)])
    (.object [("a", .number 3), ("b", .null)]) =
      .object [("a", .array [.number 3, .number 4]), ("b", .null)] := rfl

section

variable {f : ν → Json μ} {key : String}

/-- The items of an array are replaced one by one. -/
theorem bindItems_eq_map (f : ν → Json μ) (items : List (Json ν)) :
    bindItems f items = items.map (bind f) := by
  induction items with
  | nil => rfl
  | cons item rest ih => rw [bindItems, ih, List.map_cons]

/-- The fields of an object are replaced one by one. -/
theorem bindFields_eq_map (f : ν → Json μ) (fields : List (String × Json ν)) :
    bindFields f fields = fields.map fun e => (e.1, bind f e.2) := by
  induction fields with
  | nil => rfl
  | cons e rest ih =>
      obtain ⟨key, value⟩ := e
      rw [bindFields, ih, List.map_cons]

/-- The numbers of an array are those of its items. -/
theorem numbersItems_eq_flatMap (items : List (Json ν)) :
    numbersItems items = items.flatMap numbers := by
  induction items with
  | nil => rfl
  | cons item rest ih => rw [numbersItems, ih, List.flatMap_cons]

/-- The numbers of an object are those of its fields. -/
theorem numbersFields_eq_flatMap (fields : List (String × Json ν)) :
    numbersFields fields = fields.flatMap fun e => numbers e.2 := by
  induction fields with
  | nil => rfl
  | cons e rest ih =>
      obtain ⟨key, value⟩ := e
      rw [numbersFields, ih, List.flatMap_cons]

/-- The keys in an array are those in its items. -/
theorem objectKeysItems_eq_flatMap (items : List (Json ν)) :
    objectKeysItems items = items.flatMap objectKeys := by
  induction items with
  | nil => rfl
  | cons item rest ih => rw [objectKeysItems, ih, List.flatMap_cons]

/-- The keys in the fields of an object are those in their values. -/
theorem objectKeysFields_eq_flatMap (fields : List (String × Json ν)) :
    objectKeysFields fields = fields.flatMap fun e => objectKeys e.2 := by
  induction fields with
  | nil => rfl
  | cons e rest ih =>
      obtain ⟨key, value⟩ := e
      rw [objectKeysFields, ih, List.flatMap_cons]

/-- An array has its items replaced. -/
@[simp] theorem bind_array (f : ν → Json μ) (items : List (Json ν)) :
    bind f (.array items) = .array (items.map (bind f)) := by
  rw [bind, bindItems_eq_map]

/-- An object has the values of its fields replaced. -/
@[simp] theorem bind_object (f : ν → Json μ) (fields : List (String × Json ν)) :
    bind f (.object fields) = .object (fields.map fun e => (e.1, bind f e.2)) := by
  rw [bind, bindFields_eq_map]

/-- A value that is no number, array or object has no numbers. -/
@[simp] theorem numbers_null : (null : Json ν).numbers = [] := rfl

@[simp, inherit_doc numbers_null]
theorem numbers_bool (b : Bool) : (bool b : Json ν).numbers = [] := rfl

@[simp, inherit_doc numbers_null]
theorem numbers_string (s : String) : (string s : Json ν).numbers = [] := rfl

/-- A number is its only number. -/
@[simp] theorem numbers_number (x : ν) : (number x).numbers = [x] := rfl

/-- The numbers of an array. -/
@[simp] theorem numbers_array (items : List (Json ν)) :
    numbers (.array items) = items.flatMap numbers := by
  rw [numbers, numbersItems_eq_flatMap]

/-- The numbers of an object. -/
@[simp] theorem numbers_object (fields : List (String × Json ν)) :
    numbers (.object fields) = fields.flatMap fun e => numbers e.2 := by
  rw [numbers, numbersFields_eq_flatMap]

/-- A value that is no array or object has no keys in it. -/
@[simp] theorem objectKeys_null : (null : Json ν).objectKeys = [] := rfl

@[simp, inherit_doc objectKeys_null]
theorem objectKeys_bool (b : Bool) : (bool b : Json ν).objectKeys = [] := rfl

@[simp, inherit_doc objectKeys_null]
theorem objectKeys_string (s : String) : (string s : Json ν).objectKeys = [] := rfl

@[simp, inherit_doc objectKeys_null]
theorem objectKeys_number (x : ν) : (number x).objectKeys = [] := rfl

/-- The keys in an array. -/
@[simp] theorem objectKeys_array (items : List (Json ν)) :
    objectKeys (.array items) = items.flatMap objectKeys := by
  rw [objectKeys, objectKeysItems_eq_flatMap]

/-- The keys of an object, and those in it. -/
@[simp] theorem objectKeys_object (fields : List (String × Json ν)) :
    objectKeys (.object fields) =
      fields.map Prod.fst :: fields.flatMap fun e => objectKeys e.2 := by
  rw [objectKeys, objectKeysFields_eq_flatMap]

/-! ### Induction -/

section induct

variable {P : Json ν → Prop} (null : P .null) (bool : ∀ b, P (.bool b))
  (string : ∀ s, P (.string s)) (number : ∀ x, P (.number x))
  (array : ∀ items, (∀ item ∈ items, P item) → P (.array items))
  (object : ∀ fields, (∀ e ∈ fields, P e.2) → P (.object fields))

include null bool string number array object

set_option linter.unusedSectionVars false

mutual

/-- **Induction on a value**: an array from its items, an object from its fields. -/
theorem induct : (v : Json ν) → P v
  | .null => null
  | .bool b => bool b
  | .string s => string s
  | .number x => number x
  | .array items => array items (inductItems items)
  | .object fields => object fields (inductFields fields)

@[inherit_doc induct]
theorem inductItems : (items : List (Json ν)) → ∀ item ∈ items, P item
  | [] => nofun
  | item :: rest => List.forall_mem_cons.mpr ⟨induct item, inductItems rest⟩

@[inherit_doc induct]
theorem inductFields : (fields : List (String × Json ν)) → ∀ e ∈ fields, P e.2
  | [] => nofun
  | (_, value) :: rest => List.forall_mem_cons.mpr ⟨induct value, inductFields rest⟩

end

end induct

/-! ### Replacing numbers -/

/-- Replacing twice is replacing once. -/
theorem bind_bind (f : ν → Json μ) (g : μ → Json κ) (v : Json ν) :
    (v.bind f).bind g = v.bind fun x => (f x).bind g := by
  induction v using induct with
  | null | bool | string | number => rfl
  | array items ih =>
      simp only [bind_array, List.map_map]
      congr 1
      exact List.map_congr_left ih
  | object fields ih =>
      simp only [bind_object, List.map_map]
      congr 1
      apply List.map_congr_left
      intro e he
      exact congrArg (Prod.mk e.1) (ih e he)

/-- The numbers after replacing are those of the replacements. -/
theorem numbers_bind (f : ν → Json μ) (v : Json ν) :
    (v.bind f).numbers = v.numbers.flatMap fun x => (f x).numbers := by
  induction v using induct with
  | null | bool | string => rfl
  | number x => simp [bind]
  | array items ih =>
      simp only [bind_array, numbers_array, List.flatMap_map, List.flatMap_assoc]
      exact List.flatMap_congr ih
  | object fields ih =>
      simp only [bind_object, numbers_object, List.flatMap_map, List.flatMap_assoc]
      exact List.flatMap_congr ih

/-- Values without objects in place of the numbers leave the keys as they are. -/
theorem objectKeys_bind {f : ν → Json μ} (hf : ∀ x, (f x).objectKeys = []) (v : Json ν) :
    (v.bind f).objectKeys = v.objectKeys := by
  induction v using induct with
  | null | bool | string => rfl
  | number x => exact hf x
  | array items ih =>
      simp only [bind_array, objectKeys_array, List.flatMap_map]
      exact List.flatMap_congr ih
  | object fields ih =>
      simp only [bind_object, objectKeys_object, List.flatMap_map, List.map_map]
      exact congrArg (List.cons _) (List.flatMap_congr ih)

/-- **What keeps the numbers keeps the value.** -/
theorem bind_eq_self {f : ν → Json ν} (v : Json ν) (hf : ∀ x ∈ v.numbers, f x = .number x) :
    v.bind f = v := by
  induction v using induct with
  | null | bool | string => rfl
  | number x => exact hf x (List.mem_singleton_self x)
  | array items ih =>
      rw [bind_array]
      congr 1
      rw [List.map_congr_left (g := id), List.map_id]
      intro item hitem
      refine ih item hitem fun x hx => hf x ?_
      rw [numbers_array]
      exact List.mem_flatMap.mpr ⟨item, hitem, hx⟩
  | object fields ih =>
      rw [bind_object]
      congr 1
      rw [List.map_congr_left (g := id), List.map_id]
      intro e he
      refine congrArg (Prod.mk e.1) (ih e he fun x hx => hf x ?_)
      rw [numbers_object]
      exact List.mem_flatMap.mpr ⟨e, he, hx⟩

/-! ### Objects -/

/-- The value of a field. -/
def get (key : String) : Json ν → Option (Json ν)
  | .object fields => (fields.find? fun e => e.1 = key).map Prod.snd
  | _ => none

/-- A field put into an object: in place if it is there, at the end if it is new. -/
def set (v : Json ν) (key : String) (value : Json ν) : Json ν :=
  match v with
  | .object fields =>
      .object (if key ∈ fields.map Prod.fst then
        fields.map fun e => if e.1 = key then (key, value) else e
      else fields ++ [(key, value)])
  | v => v

/-- A field of a value whose numbers are replaced by values without fields. -/
theorem get_bind {f : ν → Json μ} (hf : ∀ x, (f x).get key = none) (v : Json ν) :
    (v.bind f).get key = (v.get key).map (bind f) := by
  cases v with
  | number x => exact hf x
  | object fields =>
      simp only [bind_object, get, List.find?_map, Option.map_map]
      rfl
  | array items =>
      rw [bind_array]
      rfl
  | null | bool b | string s => rfl

/-- A key without a value is not among the keys. -/
theorem notMem_keys_of_get {fields : List (String × Json ν)}
    (h : (object fields).get key = none) : key ∉ fields.map Prod.fst := by
  rw [List.mem_map]
  rintro ⟨e, he, rfl⟩
  have hnone := Option.map_eq_none_iff.mp h
  simpa using List.find?_eq_none.mp hnone e he

/-- A new field without numbers adds none. -/
theorem numbers_set {v value : Json ν} (hnew : v.get key = none) (hvalue : value.numbers = []) :
    (v.set key value).numbers = v.numbers := by
  cases v with
  | object fields =>
      simp only [set, if_neg (notMem_keys_of_get hnew), numbers_object, List.flatMap_append,
        List.flatMap_singleton, hvalue, List.append_nil]
  | _ => rfl

/-- A new field without objects adds its key to those of the object. -/
theorem mem_objectKeys_set {v value : Json ν} (hnew : v.get key = none)
    (hvalue : value.objectKeys = []) {keys : List String}
    (h : keys ∈ (v.set key value).objectKeys) :
    keys ∈ v.objectKeys ∨ ∃ keys' ∈ v.objectKeys, key ∉ keys' ∧ keys = keys' ++ [key] := by
  cases v with
  | object fields =>
      have hkey := notMem_keys_of_get hnew
      simp only [set, if_neg hkey, objectKeys_object, List.map_append, List.flatMap_append,
        List.flatMap_singleton, hvalue, List.append_nil] at h
      rcases List.mem_cons.mp h with rfl | hmem
      · exact Or.inr ⟨fields.map Prod.fst, by simp, hkey, by simp⟩
      · exact Or.inl (by simpa using Or.inr (List.mem_flatMap.mp hmem))
  | _ => exact Or.inl h

end

end Json

end GuardianStake.Found
