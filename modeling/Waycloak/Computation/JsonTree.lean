import Mathlib.Data.List.Basic

/-!
# JSON values

Trees of texts, truth values, numbers, lists and objects, over any representation of the numbers.
Two decoders of one text that differ in the type they give a number are two functions mapped over
one tree (`Json.map`); they agree on it exactly if they agree on its numbers (`Json.map_eq_map_iff`).

An object is the list of its members; a decoder keeps one order of them.
-/

set_option autoImplicit false

namespace Waycloak.Computation

mutual

inductive Json (N : Type) where
  | str (text : String)
  | bool (value : Bool)
  | number (value : N)
  | list (items : JsonItems N)
  | object (fields : JsonFields N)

inductive JsonItems (N : Type) where
  | nil
  | cons (head : Json N) (tail : JsonItems N)

inductive JsonFields (N : Type) where
  | nil
  | cons (name : String) (value : Json N) (tail : JsonFields N)

end

deriving instance DecidableEq for Json, JsonItems, JsonFields

variable {N M K : Type}

mutual

/-- The text of a value without blanks. No text in it needs an escape. -/
def Json.text : Json Int → String
  | .str text => "\"" ++ text ++ "\""
  | .bool value => if value then "true" else "false"
  | .number value => toString value
  | .list items => "[" ++ ",".intercalate items.texts ++ "]"
  | .object fields => "\x7b" ++ ",".intercalate fields.texts ++ "\x7d"

def JsonItems.texts : JsonItems Int → List String
  | .nil => []
  | .cons head tail => head.text :: tail.texts

def JsonFields.texts : JsonFields Int → List String
  | .nil => []
  | .cons name value tail => ("\"" ++ name ++ "\":" ++ value.text) :: tail.texts

end

def Json.ofMembers (members : List (String × Json N)) : Json N :=
  .object (members.foldr (fun member fields => .cons member.1 member.2 fields) .nil)

def Json.ofItems (items : List (Json N)) : Json N :=
  .list (items.foldr .cons .nil)

mutual

/-- The tree with every number changed. -/
def Json.map (f : N → M) : Json N → Json M
  | .str text => .str text
  | .bool value => .bool value
  | .number value => .number (f value)
  | .list items => .list (items.map f)
  | .object fields => .object (fields.map f)

def JsonItems.map (f : N → M) : JsonItems N → JsonItems M
  | .nil => .nil
  | .cons head tail => .cons (head.map f) (tail.map f)

def JsonFields.map (f : N → M) : JsonFields N → JsonFields M
  | .nil => .nil
  | .cons name value tail => .cons name (value.map f) (tail.map f)

end

mutual

/-- The numbers of a tree. -/
def Json.numbers : Json N → List N
  | .str _ => []
  | .bool _ => []
  | .number value => [value]
  | .list items => items.numbers
  | .object fields => fields.numbers

def JsonItems.numbers : JsonItems N → List N
  | .nil => []
  | .cons head tail => head.numbers ++ tail.numbers

def JsonFields.numbers : JsonFields N → List N
  | .nil => []
  | .cons _ value tail => value.numbers ++ tail.numbers

end

/-- The text member of an object under a name, or the empty text. -/
def JsonFields.nestedString (name : String) : JsonFields N → String
  | .nil => ""
  | .cons key value tail =>
    if key = name then
      match value with
      | .str text => text
      | _ => ""
    else tail.nestedString name

mutual

theorem Json.map_map (g : M → K) (f : N → M) :
    ∀ value : Json N, (value.map f).map g = value.map (g ∘ f)
  | .str _ => rfl
  | .bool _ => rfl
  | .number _ => rfl
  | .list items => by simp only [Json.map, JsonItems.map_map g f items]
  | .object fields => by simp only [Json.map, JsonFields.map_map g f fields]

theorem JsonItems.map_map (g : M → K) (f : N → M) :
    ∀ items : JsonItems N, (items.map f).map g = items.map (g ∘ f)
  | .nil => rfl
  | .cons head tail => by
    simp only [JsonItems.map, Json.map_map g f head, JsonItems.map_map g f tail]

theorem JsonFields.map_map (g : M → K) (f : N → M) :
    ∀ fields : JsonFields N, (fields.map f).map g = fields.map (g ∘ f)
  | .nil => rfl
  | .cons name value tail => by
    simp only [JsonFields.map, Json.map_map g f value, JsonFields.map_map g f tail]

end

mutual

/-- INTERNAL: **two functions agree on a tree exactly if they agree on its numbers.** -/
theorem Json.map_eq_map_iff (f g : N → M) :
    ∀ value : Json N, value.map f = value.map g ↔ ∀ n ∈ value.numbers, f n = g n
  | .str _ => by simp [Json.map, Json.numbers]
  | .bool _ => by simp [Json.map, Json.numbers]
  | .number _ => by simp [Json.map, Json.numbers]
  | .list items => by
    simp only [Json.map, Json.numbers, Json.list.injEq, JsonItems.map_eq_map_iff f g items]
  | .object fields => by
    simp only [Json.map, Json.numbers, Json.object.injEq, JsonFields.map_eq_map_iff f g fields]

theorem JsonItems.map_eq_map_iff (f g : N → M) :
    ∀ items : JsonItems N, items.map f = items.map g ↔ ∀ n ∈ items.numbers, f n = g n
  | .nil => by simp [JsonItems.map, JsonItems.numbers]
  | .cons head tail => by
    simp only [JsonItems.map, JsonItems.numbers, JsonItems.cons.injEq,
      Json.map_eq_map_iff f g head, JsonItems.map_eq_map_iff f g tail, List.forall_mem_append]

theorem JsonFields.map_eq_map_iff (f g : N → M) :
    ∀ fields : JsonFields N, fields.map f = fields.map g ↔ ∀ n ∈ fields.numbers, f n = g n
  | .nil => by simp [JsonFields.map, JsonFields.numbers]
  | .cons name value tail => by
    simp only [JsonFields.map, JsonFields.numbers, JsonFields.cons.injEq, true_and,
      Json.map_eq_map_iff f g value, JsonFields.map_eq_map_iff f g tail, List.forall_mem_append]

end

end Waycloak.Computation
