import Mathlib.Data.Int.Notation
import Mathlib.Data.List.Basic

/-!
# JSON values

The values `serde_json` works on, over any type of floating-point numbers. An object is the list
of its fields.
-/

namespace Serde

/-- A JSON number is an unsigned integer, a negative one or a float. -/
inductive Number (F : Type)
  | natural (value : ℕ)
  | negative (value : ℤ)
  | float (value : F)

inductive Value (F : Type)
  | null
  | bool (value : Bool)
  | number (value : Number F)
  | string (text : String)
  | array (items : List (Value F))
  | object (fields : List (String × Value F))

abbrev Fields (F : Type) := List (String × Value F)

variable {F : Type}

namespace Fields

def get (fields : Fields F) (key : String) : Option (Value F) :=
  (fields.find? fun field => field.1 = key).map Prod.snd

def set (fields : Fields F) (key : String) (value : Value F) : Fields F :=
  if fields.any fun field => field.1 = key then
    fields.map fun field => if field.1 = key then (key, value) else field
  else
    fields ++ [(key, value)]

def remove (fields : Fields F) (key : String) : Fields F := fields.filter fun field => field.1 ≠ key

variable {key other : String} (fields : Fields F)

theorem get_set_of_ne (different : other ≠ key)
    (value : Value F) : (fields.set key value).get other = fields.get other := by
  unfold set get
  split
  · have sameKeys : ((fun field : String × Value F => decide (field.1 = other)) ∘
        fun field => if field.1 = key then (key, value) else field) =
          fun field => decide (field.1 = other) := by
      funext field
      by_cases same : field.1 = key <;> simp [same]
    rw [List.find?_map, sameKeys]
    cases found : fields.find? fun field => decide (field.1 = other) with
    | none => rfl
    | some field =>
      have named : field.1 = other := by simpa using List.find?_some found
      simp [named, different]
  · simp [Ne.symm different]

end Fields

namespace Value

def nat (value : ℕ) : Value F := .number (.natural value)

def asObject : Value F → Option (Fields F)
  | .object fields => some fields
  | _ => none

def get (value : Value F) (key : String) : Option (Value F) :=
  value.asObject.bind fun fields => Fields.get fields key

def asArray : Value F → Option (List (Value F))
  | .array items => some items
  | _ => none

def at? (value : Value F) (index : ℕ) : Option (Value F) :=
  value.asArray.bind fun items => items[index]?

def asStr : Value F → Option String
  | .string text => some text
  | _ => none

def asBool : Value F → Option Bool
  | .bool value => some value
  | _ => none

def asU64 : Value F → Option ℕ
  | .number (.natural value) => some value
  | _ => none

def isNull : Value F → Bool
  | .null => true
  | _ => false

def insert (value : Value F) (key : String) (field : Value F) : Value F :=
  match value with
  | .object fields => .object (Fields.set fields key field)
  | other => other

end Value

end Serde
