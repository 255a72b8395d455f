import Mathlib.Data.List.Nodup

/-!
# A store of keyed objects

A finite store that holds at most one object under each key, as an API server holds
objects under their names: `create` refuses a key that is taken, `delete` and `update`
name a key and say nothing about the object they expect to find there.

The store carries the distinctness of its keys, so `find` and membership are two views of
the same thing (`find_eq_some`), and each operation has one membership lemma.
-/

set_option autoImplicit false

namespace Waycloak.Computation

variable {α κ : Type} {a : α}

/-- Objects under distinct keys. -/
structure KeyedStore (key : α → κ) where
  entries : List α
  nodup : (entries.map key).Nodup

namespace KeyedStore

variable {key : α → κ} {s s' : KeyedStore key} {b : α}

instance : Membership α (KeyedStore key) := ⟨fun s a => a ∈ s.entries⟩

/-- The store without objects. -/
def empty (key : α → κ) : KeyedStore key := ⟨[], List.nodup_nil⟩

/-- INTERNAL: membership is membership in the list of objects. -/
theorem mem_entries : a ∈ s.entries ↔ a ∈ s := Iff.rfl

/-- INTERNAL: nothing is in the empty store. -/
@[simp] theorem not_mem_empty (a : α) : a ∉ empty key := by
  intro h
  cases h

/-- INTERNAL: objects of a store with one key are one object. -/
theorem eq_of_key_eq (ha : a ∈ s) (hb : b ∈ s) (h : key a = key b) : a = b :=
  List.inj_on_of_nodup_map s.nodup ha hb h

/-- INTERNAL: a change that keeps keys adds no key. -/
theorem filterMap_keys_sublist {f : α → Option α} (hf : ∀ a b, f a = some b → key b = key a)
    (l : List α) : ((l.filterMap f).map key).Sublist (l.map key) := by
  induction l with
  | nil => exact List.Sublist.slnil
  | cons a l ih =>
    cases hfa : f a with
    | none =>
      rw [List.filterMap_cons_none hfa]
      exact ih.cons _
    | some b =>
      rw [List.filterMap_cons_some hfa, List.map_cons, List.map_cons, hf a b hfa]
      exact ih.cons_cons _

/-- Every object changed in place or dropped. -/
def filterMap (s : KeyedStore key) (f : α → Option α)
    (hf : ∀ a b, f a = some b → key b = key a) : KeyedStore key where
  entries := s.entries.filterMap f
  nodup := (filterMap_keys_sublist hf s.entries).nodup s.nodup

/-- INTERNAL: the objects after a change in place. -/
@[simp] theorem mem_filterMap {f : α → Option α} {hf : ∀ a b, f a = some b → key b = key a} :
    b ∈ s.filterMap f hf ↔ ∃ a ∈ s, f a = some b := by
  rw [← mem_entries, filterMap]
  simp [mem_entries]

variable [DecidableEq κ] {k : κ}

/-- The object under a key. -/
def find (s : KeyedStore key) (k : κ) : Option α := s.entries.find? fun a => key a = k

/-- INTERNAL: **`find` and membership agree.** -/
theorem find_eq_some : s.find k = some a ↔ a ∈ s ∧ key a = k := by
  constructor
  · intro h
    exact ⟨List.mem_of_find?_eq_some h, by simpa using List.find?_some h⟩
  rintro ⟨ha, rfl⟩
  cases hfind : s.find (key a) with
  | none =>
    have hnone := List.find?_eq_none.mp hfind a ha
    simp at hnone
  | some b =>
    have hb : b ∈ s := List.mem_of_find?_eq_some hfind
    have hkey : key b = key a := by simpa using List.find?_some hfind
    rw [eq_of_key_eq hb ha hkey]

/-- INTERNAL: a key under which nothing is found is free. -/
theorem find_eq_none : s.find k = none ↔ ∀ a ∈ s, key a ≠ k := by
  simp [find, mem_entries]

/-- A new object, unless its key is taken. -/
def create (s : KeyedStore key) (a : α) : Option (KeyedStore key) :=
  if h : s.find (key a) = none then
    some
      { entries := s.entries ++ [a]
        nodup := by
          rw [List.map_append, List.nodup_append]
          refine ⟨s.nodup, by simp, ?_⟩
          intro k hk k' hk'
          obtain ⟨b, hb, rfl⟩ := List.mem_map.mp hk
          rw [show k' = key a by simpa using hk']
          exact find_eq_none.mp h b hb }
  else none

/-- INTERNAL: a creation succeeds for a free key only, and appends. -/
theorem create_eq_some (h : s.create a = some s') :
    s.find (key a) = none ∧ s'.entries = s.entries ++ [a] := by
  unfold create at h
  split at h
  · next hfree =>
    cases h
    exact ⟨hfree, rfl⟩
  · cases h

/-- INTERNAL: a creation fails exactly if the key is taken. -/
theorem create_eq_none : s.create a = none ↔ ∃ b ∈ s, key b = key a := by
  unfold create
  split
  · next hfree =>
    have hnone := find_eq_none.mp hfree
    simp only [reduceCtorEq, false_iff, not_exists, not_and]
    exact hnone
  · next htaken =>
    obtain ⟨b, hb⟩ := Option.ne_none_iff_exists'.mp htaken
    obtain ⟨hmem, hkey⟩ := find_eq_some.mp hb
    exact ⟨fun _ => ⟨b, hmem, hkey⟩, fun _ => rfl⟩

/-- INTERNAL: a creation adds its object. -/
theorem mem_create (h : s.create a = some s') : b ∈ s' ↔ b ∈ s ∨ b = a := by
  rw [← mem_entries, (create_eq_some h).2, List.mem_append, List.mem_singleton, mem_entries]

/-- The store without the object under a key. -/
def delete (s : KeyedStore key) (k : κ) : KeyedStore key where
  entries := s.entries.filter fun a => key a ≠ k
  nodup := (List.filter_sublist.map key).nodup s.nodup

/-- INTERNAL: a deletion takes away what has the key, whatever it is. -/
@[simp] theorem mem_delete : a ∈ s.delete k ↔ a ∈ s ∧ key a ≠ k := by
  rw [← mem_entries, delete]
  simp [mem_entries]

/-- An object stored under its key, whatever was there. -/
def put (s : KeyedStore key) (a : α) : KeyedStore key where
  entries := (s.delete (key a)).entries ++ [a]
  nodup := by
    rw [List.map_append, List.nodup_append]
    refine ⟨(s.delete (key a)).nodup, by simp, ?_⟩
    intro k hk k' hk'
    obtain ⟨b, hb, rfl⟩ := List.mem_map.mp hk
    rw [show k' = key a by simpa using hk']
    exact (mem_delete.mp hb).2

/-- INTERNAL: a `put` replaces what had the key. -/
@[simp] theorem mem_put : b ∈ s.put a ↔ b = a ∨ b ∈ s ∧ key b ≠ key a := by
  rw [← mem_entries, put, List.mem_append, List.mem_singleton, mem_entries, mem_delete]
  exact or_comm

/-- The object under a key changed in place. -/
def update (s : KeyedStore key) (k : κ) (f : α → α) (hf : ∀ a, key (f a) = key a) :
    KeyedStore key where
  entries := s.entries.map fun a => if key a = k then f a else a
  nodup := by
    have hsame : key ∘ (fun a => if key a = k then f a else a) = key := by
      funext a
      by_cases h : key a = k <;> simp [h, hf]
    rw [List.map_map, hsame]
    exact s.nodup

/-- INTERNAL: an update changes what has the key, whatever it is. -/
@[simp] theorem mem_update {f : α → α} {hf : ∀ a, key (f a) = key a} :
    b ∈ s.update k f hf ↔ ∃ a ∈ s, (if key a = k then f a else a) = b := by
  rw [← mem_entries, update]
  simp [mem_entries]

end KeyedStore

end Waycloak.Computation
