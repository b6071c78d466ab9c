import Mathlib
import Teale.Lib.Json

/-!
# JSON texts

The compact text of a JSON value, and the value with the fields of every object in the order of
their names.
-/

namespace Serde

open List Function

variable {F : Type}

namespace Value

/-- A property that an array has when its items do, and an object when its fields
do, is one of every value. -/
theorem induction {motive : Value F → Prop} (null : motive .null)
    (bool : ∀ value, motive (.bool value)) (number : ∀ value, motive (.number value))
    (string : ∀ text, motive (.string text))
    (array : ∀ items, (∀ item ∈ items, motive item) → motive (.array items))
    (object : ∀ fields, (∀ field ∈ fields, motive field.2) → motive (.object fields))
    (value : Value F) : motive value := by
  refine @Value.rec F motive (fun items => ∀ item ∈ items, motive item)
    (fun fields => ∀ field ∈ fields, motive field.2) (fun field => motive field.2)
    null bool number string array object ?_ ?_ ?_ ?_ ?_ value
  · exact forall_mem_nil _
  · exact fun _ _ headHolds tailHolds => forall_mem_cons.mpr ⟨headHolds, tailHolds⟩
  · exact forall_mem_nil _
  · exact fun _ _ headHolds tailHolds => forall_mem_cons.mpr ⟨headHolds, tailHolds⟩
  · exact fun _ _ holds => holds

end Value

/-! ## Texts -/

def commas : List (List Char) → List Char
  | [] => []
  | [text] => text
  | text :: next :: rest => text ++ ',' :: commas (next :: rest)

theorem length_commas (texts : List (List Char)) :
    (commas texts).length = (texts.map List.length).sum + (texts.length - 1) := by
  induction texts with
  | nil => rfl
  | cons text rest ih =>
    cases rest with
    | nil => simp [commas]
    | cons next rest =>
      simp only [commas, length_append, length_cons, ih, map_cons, sum_cons]
      omega

def braces (quote : String → List Char) (fields : List (String × List Char)) : List Char :=
  '{' :: commas (fields.map fun field => quote field.1 ++ ':' :: field.2) ++ ['}']

namespace Value

section Render

variable (quote : String → List Char) (printNumber : Number F → List Char)

mutual

def render : Value F → List Char
  | .null => "null".toList
  | .bool value => (if value then "true" else "false").toList
  | .number value => printNumber value
  | .string text => quote text
  | .array items => '[' :: commas (renderItems items) ++ [']']
  | .object fields => braces quote (renderFields fields)

def renderItems : List (Value F) → List (List Char)
  | [] => []
  | item :: rest => render item :: renderItems rest

def renderFields : List (String × Value F) → List (String × List Char)
  | [] => []
  | (key, value) :: rest => (key, render value) :: renderFields rest

end

theorem renderItems_eq (items : List (Value F)) :
    renderItems quote printNumber items = items.map (render quote printNumber) := by
  induction items with
  | nil => rfl
  | cons item rest ih =>
    rw [renderItems, ih, map_cons]

theorem renderFields_eq (fields : List (String × Value F)) : renderFields quote printNumber fields =
      fields.map fun field => (field.1, render quote printNumber field.2) := by
  induction fields with
  | nil => rfl
  | cons field rest ih =>
    rw [renderFields, ih, map_cons]

theorem render_array (items : List (Value F)) : render quote printNumber (.array items) =
      '[' :: commas (items.map (render quote printNumber)) ++ [']'] := by
  rw [render, renderItems_eq]

theorem render_object (fields : List (String × Value F)) :
    render quote printNumber (.object fields) =
      braces quote (fields.map fun field =>
        (field.1, render quote printNumber field.2)) := by
  rw [render, renderFields_eq]

end Render

/-! ## The strings of a value -/

mutual

def strings : Value F → List String
  | .string text => [text]
  | .array items => stringsItems items
  | .object fields => stringsFields fields
  | .null | .bool _ | .number _ => []

def stringsItems : List (Value F) → List String
  | [] => []
  | item :: rest => strings item ++ stringsItems rest

def stringsFields : List (String × Value F) → List String
  | [] => []
  | (key, value) :: rest => key :: strings value ++ stringsFields rest

end

theorem strings_array (items : List (Value F)) :
    strings (.array items) = items.flatMap strings := by
  rw [strings]
  induction items with
  | nil => rfl
  | cons item rest ih =>
    rw [stringsItems, ih, flatMap_cons]

theorem strings_object (fields : List (String × Value F)) : strings (.object fields) =
      fields.flatMap fun field => field.1 :: strings field.2 := by
  rw [strings]
  induction fields with
  | nil => rfl
  | cons field rest ih =>
    rw [stringsFields, ih, flatMap_cons]

inductive HasNumber (number : Number F) : Value F → Prop
  | here : HasNumber number (.number number)
  | item {items : List (Value F)} {item : Value F} (listed : item ∈ items) :
      HasNumber number item → HasNumber number (.array items)
  | field {fields : List (String × Value F)} {field : String × Value F}
      (listed : field ∈ fields) :
      HasNumber number field.2 → HasNumber number (.object fields)

variable {quote' : String → List Char}

/-- The text depends on how the strings and numbers that occur are written. -/
theorem render_congr {printNumber printNumber' : Number F → List Char} (value : Value F) (agree : ∀ text ∈ value.strings, quote text = quote' text)
    (agreeNumber : ∀ number, value.HasNumber number → printNumber number = printNumber' number) :
    value.render quote printNumber = value.render quote' printNumber' := by
  induction value using induction with
  | null | bool => rfl
  | number value => exact agreeNumber value .here
  | string text => exact agree text (by simp [strings])
  | array items ih =>
    have same : items.map (render quote printNumber) = items.map (render quote' printNumber') := by
      refine map_congr_left fun item member => ?_
      apply ih item member
      · intro text occurs
        apply agree text
        rw [strings_array]
        exact mem_flatMap.mpr ⟨item, member, occurs⟩
      · intro number occurs
        exact agreeNumber number (.item member occurs)
    rw [render_array, render_array, same]
  | object fields ih =>
    have occurs : ∀ field ∈ fields, ∀ text ∈ field.1 :: strings field.2,
        text ∈ strings (.object fields) := by
      intro field member text listed
      rw [strings_object]
      exact mem_flatMap.mpr ⟨field, member, listed⟩
    rw [render_object, render_object, braces, braces, map_map, map_map]
    congr 3
    refine map_congr_left fun field member => ?_
    have key := agree field.1 (occurs field member _ mem_cons_self)
    have text := ih field member
      (fun text listed =>
        agree text (occurs field member text (mem_cons_of_mem _ listed)))
      fun number listed => agreeNumber number (.field member listed)
    simp only [comp_apply, key, text]

theorem sum_map_add_flatMap {α : Type} {items : List α} {pieces : α → List String}
    {extra : String → ℕ} {long short : α → ℕ}
    (each : ∀ item ∈ items, long item = short item + ((pieces item).map extra).sum) :
    (items.map long).sum = (items.map short).sum + ((items.flatMap pieces).map extra).sum := by
  rw [map_congr_left each, sum_map_add, map_flatMap, flatMap_def, sum_flatten, map_map]
  rfl

/-- Where one quoting is longer, the text is longer by as much. -/
theorem length_render (printNumber : Number F → List Char)
    {extra : String → ℕ} (longer : ∀ text, (quote' text).length = (quote text).length + extra text)
    (value : Value F) : (value.render quote' printNumber).length =
      (value.render quote printNumber).length + (value.strings.map extra).sum := by
  induction value using induction with
  | null | bool | number => rfl
  | string text => simpa [render, strings] using longer text
  | array items ih =>
    simp only [render_array, strings_array, length_append, length_cons, length_commas,
      length_map, map_map, comp_def, sum_map_add_flatMap ih]
    omega
  | object fields ih =>
    have texts : ∀ field ∈ fields,
        (quote' field.1).length + ((render quote' printNumber field.2).length + 1) =
          (quote field.1).length + ((render quote printNumber field.2).length + 1) +
            ((field.1 :: strings field.2).map extra).sum := by
      intro field member
      rw [longer, ih field member, map_cons, sum_cons]
      omega
    simp only [render_object, braces, map_map, comp_def,
      strings_object, length_append, length_cons, length_commas,
      length_map, sum_map_add_flatMap texts]
    omega

/-! ## Sorted objects -/

def Before (left right : String × Value F) : Prop := left.1 ≤ right.1

instance : DecidableRel (Before (F := F)) :=
  fun left right => inferInstanceAs (Decidable (left.1 ≤ right.1))

instance : Std.Total (Before (F := F)) := ⟨fun _ _ => le_total _ _⟩

instance : IsTrans (String × Value F) Before := ⟨fun _ _ _ => le_trans⟩

mutual

/-- The value with the fields of every object in the order of their names. -/
def sortKeys : Value F → Value F
  | .array items => .array (sortItems items)
  | .object fields => .object ((sortFields fields).insertionSort Before)
  | .null => .null
  | .bool value => .bool value
  | .number value => .number value
  | .string text => .string text

def sortItems : List (Value F) → List (Value F)
  | [] => []
  | item :: rest => sortKeys item :: sortItems rest

def sortFields : List (String × Value F) → List (String × Value F)
  | [] => []
  | (key, value) :: rest => (key, sortKeys value) :: sortFields rest

end

theorem sortKeys_array (items : List (Value F)) :
    sortKeys (.array items) = .array (items.map sortKeys) := by
  rw [sortKeys]
  congr 1
  induction items with
  | nil => rfl
  | cons item rest ih =>
    rw [sortItems, ih, map_cons]

theorem sortKeys_object (fields : List (String × Value F)) : sortKeys (.object fields) =
      .object ((fields.map fun field => (field.1, sortKeys field.2)).insertionSort Before) := by
  rw [sortKeys]
  congr 2
  induction fields with
  | nil => rfl
  | cons field rest ih =>
    rw [sortFields, ih, map_cons]

theorem strings_sortKeys (value : Value F) : value.sortKeys.strings.Perm value.strings := by
  induction value using induction with
  | null | bool | number | string => exact List.Perm.refl _
  | array items ih =>
    rw [sortKeys_array, strings_array, strings_array, flatMap_map]
    exact List.Perm.flatMap_left items ih
  | object fields ih =>
    rw [sortKeys_object, strings_object, strings_object]
    refine ((perm_insertionSort _ _).flatMap_right _).trans ?_
    rw [flatMap_map]
    refine List.Perm.flatMap_left fields fun field member => ?_
    exact (ih field member).cons field.1

theorem HasNumber.of_sortKeys {number : Number F} {value : Value F}
    (occurs : value.sortKeys.HasNumber number) : value.HasNumber number := by
  induction value using induction with
  | null | bool | number | string => exact occurs
  | array items ih =>
    rw [sortKeys_array] at occurs
    cases occurs with
    | item listed inItem =>
      obtain ⟨item, member, rfl⟩ := mem_map.mp listed
      exact .item member (ih item member inItem)
  | object fields ih =>
    rw [sortKeys_object] at occurs
    cases occurs with
    | field listed inField =>
      obtain ⟨field, member, rfl⟩ := mem_map.mp ((mem_insertionSort Before).mp listed)
      exact .field member (ih field member inField)

/-! ## The order of fields -/

inductive Reordered : Value F → Value F → Prop
  | refl (value : Value F) : Reordered value value
  | fields {fields fields' : List (String × Value F)} :
      fields.Perm fields' → Reordered (.object fields) (.object fields')
  | item {value value' : Value F} (before after : List (Value F)) :
      Reordered value value' →
      Reordered (.array (before ++ value :: after)) (.array (before ++ value' :: after))
  | field {value value' : Value F} (key : String)
      (before after : List (String × Value F)) :
      Reordered value value' →
      Reordered (.object (before ++ (key, value) :: after))
        (.object (before ++ (key, value') :: after))
  | trans {first second third : Value F} :
      Reordered first second → Reordered second third → Reordered first third

inductive Distinct : Value F → Prop
  | null : Distinct .null
  | bool (value : Bool) : Distinct (.bool value)
  | number (value : Number F) : Distinct (.number value)
  | string (text : String) : Distinct (.string text)
  | array (items : List (Value F)) :
      (∀ item ∈ items, Distinct item) → Distinct (.array items)
  | object (fields : List (String × Value F)) :
      (fields.map Prod.fst).Nodup → (∀ field ∈ fields, Distinct field.2) →
      Distinct (.object fields)

/-- Fields of distinct names have one order. -/
theorem insertionSort_eq_of_perm
    {fields fields' : List (String × Value F)} (perm : fields.Perm fields')
    (distinct : (fields.map Prod.fst).Nodup) :
    fields.insertionSort Before = fields'.insertionSort Before := by
  refine List.Perm.eq_of_pairwise ?_ (pairwise_insertionSort Before fields)
    (pairwise_insertionSort Before fields') ?_
  · intro left right leftMember rightMember leftBefore rightBefore
    have leftListed := (mem_insertionSort Before).mp leftMember
    have rightListed := perm.mem_iff.mpr ((mem_insertionSort Before).mp rightMember)
    exact inj_on_of_nodup_map distinct leftListed rightListed
      (le_antisymm leftBefore rightBefore)
  · exact ((perm_insertionSort _ _).trans perm).trans (perm_insertionSort _ _).symm

theorem Reordered.sortKeys_eq {value value' : Value F} (reordered : Reordered value value')
    (distinct : value.Distinct) : value.sortKeys = value'.sortKeys ∧ value'.Distinct := by
  induction reordered with
  | refl value => exact ⟨rfl, distinct⟩
  | @fields fields fields' perm =>
    cases distinct with
    | object _ names each =>
      constructor
      · rw [sortKeys_object, sortKeys_object]
        congr 1
        refine insertionSort_eq_of_perm (perm.map _) ?_
        simpa [map_map, comp_def] using names
      · refine .object fields' ((perm.map Prod.fst).nodup_iff.mp names) ?_
        exact fun field member => each field (perm.mem_iff.mpr member)
  | @item value value' before after _ ih =>
    cases distinct with
    | array _ each =>
      obtain ⟨same, distinct'⟩ := ih (each value (by simp))
      constructor
      · simp only [sortKeys_array, map_append, map_cons, same]
      · simp only [forall_mem_append, forall_mem_cons] at each
        refine .array _ ?_
        simpa only [forall_mem_append, forall_mem_cons] using ⟨each.1, distinct', each.2.2⟩
  | @field value value' key before after _ ih =>
    cases distinct with
    | object _ names each =>
      obtain ⟨same, distinct'⟩ := ih (each (key, value) (by simp))
      constructor
      · simp only [sortKeys_object, map_append, map_cons, same]
      · simp only [forall_mem_append, forall_mem_cons] at each
        refine .object _ (by simpa using names) ?_
        simpa only [forall_mem_append, forall_mem_cons] using ⟨each.1, distinct', each.2.2⟩
  | trans _ _ firstHypothesis secondHypothesis =>
    obtain ⟨first, middle⟩ := firstHypothesis distinct
    obtain ⟨second, last⟩ := secondHypothesis middle
    exact ⟨first.trans second, last⟩

end Value

end Serde
