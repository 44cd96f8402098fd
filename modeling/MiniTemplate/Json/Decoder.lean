import MiniTemplate.Json.Value

/-!
# Decoding values

A record is written as an object, or as the array of its fields in the order of their declaration.
`Json.fields?` brings both forms to one list: the value of each declared field, if it is given.
Keys that are not declared are skipped, and a declared key may stand only once. A choice is written
as the name of the case, or as an object whose only key is that name.
-/

namespace MiniTemplate.Json

/-- The values of the named fields of a record, each one if it is given. -/
def fields? (names : List String) : Json → Option (List (Option Json))
  | object entries =>
    if names.all fun n => decide ((entries.filter (·.1 == n)).length ≤ 1) then
      some (names.map fun n => entries.lookup n)
    else
      none
  | array items =>
    if items.length ≤ names.length then
      some (items.map some ++ List.replicate (names.length - items.length) none)
    else
      none
  | _ => none

/-- The name of the case of a choice, and what is given with it. -/
def variant? : Json → Option (String × Option Json)
  | string name => some (name, none)
  | object [(name, payload)] => some (name, some payload)
  | _ => none

/-- The name of a case that nothing is given with, except perhaps `null`. -/
def unitVariant? (j : Json) : Option String :=
  match j.variant? with
  | some (name, none) => some name
  | some (name, some null) => some name
  | _ => none

/-- A record whose case is told by one of its own fields: the case and the other fields. In the
array form the case comes first. -/
def tagged? (key : String) : Json → Option (String × Json)
  | object entries =>
    match entries.filter (·.1 == key) with
    | [(_, string kind)] => some (kind, object (entries.filter (·.1 != key)))
    | _ => none
  | array (string kind :: fields) => some (kind, array fields)
  | _ => none

def required {α : Type} (decode : Json → Option α) (field : Option Json) : Option α :=
  field.bind decode

/-- A field that stands for `fallback` when it is not given. -/
def withDefault {α : Type} (fallback : α) (decode : Json → Option α) : Option Json → Option α
  | none => some fallback
  | some j => decode j

def optional {α : Type} (decode : Json → Option α) : Option Json → Option (Option α)
  | none => some none
  | some null => some none
  | some j => (decode j).map some

def strings? (j : Json) : Option (List String) := j.items?.bind (·.mapM string?)

/-! ## Parts are smaller than the whole -/

theorem sizeOf_lt_of_lookup {key : String} {v : Json} :
    ∀ {entries : List (String × Json)}, entries.lookup key = some v → sizeOf v < sizeOf entries
  | [], h => by simp at h
  | (k, w) :: rest, h => by
    rw [List.lookup_cons] at h
    split at h
    · cases h
      simp
      omega
    · have := sizeOf_lt_of_lookup h
      simp
      omega

/-- Decoding the fields of a record goes down in the value, whichever form it has. -/
theorem sizeOf_lt_of_fields? {names : List String} {j v : Json} {fs : List (Option Json)}
    (h : j.fields? names = some fs) (hv : some v ∈ fs) : sizeOf v < sizeOf j := by
  unfold fields? at h
  split at h
  · split at h
    · cases h
      obtain ⟨n, -, hn⟩ := List.mem_map.1 hv
      have := sizeOf_lt_of_lookup hn
      simp
      omega
    · cases h
  · split at h
    · cases h
      rcases List.mem_append.1 hv with hv | hv
      · obtain ⟨w, hw, hwv⟩ := List.mem_map.1 hv
        cases hwv
        have := List.sizeOf_lt_of_mem hw
        simp
        omega
      · exact absurd (List.eq_of_mem_replicate hv) (by simp)
    · cases h
  · cases h

/-- Decoding what is given with a case goes down in the value. -/
theorem sizeOf_lt_of_variant? {name : String} {j v : Json}
    (h : j.variant? = some (name, some v)) : sizeOf v < sizeOf j := by
  unfold variant? at h
  split at h
  · cases h
  · cases h
    simp
    omega
  · cases h

end MiniTemplate.Json
