import Mathlib.Data.List.Dedup
import Stencil.Model.Link

/-!
# Stencil.Proofs.Index

The index of a message sequence as a view of the sequence. Looking a name up finds the first
message of that name (`get?_ofMessages`), and there is one entry for every name that occurs
(`keys_nodup`, `mem_keys`), however many messages bear it (`size_eq_dedup`).
-/

namespace Stencil
namespace Index

def keys (index : Index) : List String :=
  index.entries.map (·.1)

theorem get?_insertNew (index : Index) (name key : String) (m : Message) :
    (index.insertNew name m).get? key =
      (index.get? key).or (if key == name then some m else none) := by
  unfold insertNew
  split
  · rename_i found hfound
    by_cases hkey : key = name
    · rw [hkey, hfound, Option.some_or]
    · rw [if_neg (by simpa using hkey), Option.or_none]
  · rw [get?, get?, List.lookup_append, List.lookup_cons, List.lookup_nil]
    cases key == name <;> rfl

theorem get?_foldl (package key : String) (messages : List Message) (index : Index) :
    (messages.foldl (fun index m => index.insertNew (m.qualifiedName package) m) index).get? key =
      (index.get? key).or (messages.find? fun m => m.qualifiedName package == key) := by
  induction messages generalizing index with
  | nil => simp
  | cons m rest ih =>
    rw [List.foldl_cons, ih, get?_insertNew, Option.or_assoc, List.find?_cons]
    by_cases hkey : key = m.qualifiedName package
    · simp [hkey]
    · have hne : (m.qualifiedName package == key) = false := by simpa using Ne.symm hkey
      simp [hkey, hne]

theorem get?_ofMessages (package : String) (messages : List Message) (key : String) :
    (ofMessages package messages).get? key =
      messages.find? fun m => m.qualifiedName package == key := by
  rw [ofMessages, get?_foldl]
  rfl

/-! ## Entries -/

theorem mem_keys_iff (index : Index) (name : String) :
    name ∈ index.keys ↔ (index.get? name).isSome := by
  rw [get?, List.lookup_isSome_iff, keys, List.mem_map]
  constructor
  · rintro ⟨entry, hmem, rfl⟩
    exact ⟨entry, hmem, beq_self_eq_true _⟩
  · rintro ⟨entry, hmem, heq⟩
    exact ⟨entry, hmem, (eq_of_beq heq).symm⟩

theorem nodup_insertNew {index : Index} (h : index.keys.Nodup) (name : String) (m : Message) :
    (index.insertNew name m).keys.Nodup := by
  unfold insertNew
  split
  · exact h
  · rename_i hnone
    have hnew : name ∉ index.keys := by
      rw [mem_keys_iff, hnone]
      simp
    rw [keys, List.map_append, List.nodup_append]
    refine ⟨h, by simp, ?_⟩
    rintro a ha b hb rfl
    rw [List.mem_singleton.mp hb] at ha
    exact hnew ha

theorem keys_nodup (package : String) (messages : List Message) :
    (ofMessages package messages).keys.Nodup := by
  suffices h : ∀ index : Index, index.keys.Nodup →
      (messages.foldl (fun index m => index.insertNew (m.qualifiedName package) m) index).keys.Nodup
    from h {} List.nodup_nil
  induction messages with
  | nil => exact fun _ h => h
  | cons m rest ih => exact fun index h => ih _ (nodup_insertNew h _ m)

theorem mem_keys (package name : String) (messages : List Message) :
    name ∈ (ofMessages package messages).keys ↔
      name ∈ messages.map (·.qualifiedName package) := by
  rw [mem_keys_iff, get?_ofMessages, List.find?_isSome, List.mem_map]
  simp only [beq_iff_eq]

theorem size_eq_dedup (package : String) (messages : List Message) :
    (ofMessages package messages).size =
      (messages.map (·.qualifiedName package)).dedup.length := by
  have hperm : (ofMessages package messages).keys.Perm
      (messages.map (·.qualifiedName package)).dedup := by
    rw [List.perm_ext_iff_of_nodup (keys_nodup package messages) (List.nodup_dedup _)]
    intro name
    rw [mem_keys, List.mem_dedup]
  have hlen := hperm.length_eq
  rwa [keys, List.length_map] at hlen

/-- Messages of different names each have an entry. -/
theorem size_ofMessages {package : String} {messages : List Message}
    (h : (messages.map (·.qualifiedName package)).Nodup) :
    (ofMessages package messages).size = messages.length := by
  rw [size_eq_dedup, h.dedup, List.length_map]

theorem isEmpty_ofMessages (package : String) (messages : List Message) :
    (ofMessages package messages).isEmpty = true ↔ messages = [] := by
  have hkeys : (ofMessages package messages).entries = [] ↔
      (ofMessages package messages).keys = [] := by rw [keys, List.map_eq_nil_iff]
  rw [isEmpty, List.isEmpty_iff, hkeys, List.eq_nil_iff_forall_not_mem]
  simp only [mem_keys]
  rw [← List.eq_nil_iff_forall_not_mem, List.map_eq_nil_iff]

/-! ## The first message of a name -/

theorem get?_eq_some {package name : String} {messages : List Message} {m : Message} :
    (ofMessages package messages).get? name = some m ↔
      ∃ before after, messages = before ++ m :: after ∧ m.qualifiedName package = name ∧
        ∀ other ∈ before, other.qualifiedName package ≠ name := by
  rw [get?_ofMessages, List.find?_eq_some_iff_append]
  constructor
  · rintro ⟨hname, before, after, hsplit, hbefore⟩
    exact ⟨before, after, hsplit, by simpa using hname, by simpa using hbefore⟩
  · rintro ⟨before, after, hsplit, hname, hbefore⟩
    exact ⟨by simpa using hname, before, after, hsplit, by simpa using hbefore⟩

theorem get?_eq_none {package name : String} {messages : List Message} :
    (ofMessages package messages).get? name = none ↔
      ∀ m ∈ messages, m.qualifiedName package ≠ name := by
  rw [get?_ofMessages, List.find?_eq_none]
  simp only [beq_iff_eq, ne_eq]

theorem get?_append {package name : String} {messages : List Message} {m : Message}
    (h : (ofMessages package messages).get? name = some m) (more : List Message) :
    (ofMessages package (messages ++ more)).get? name = some m := by
  rw [get?_ofMessages] at h ⊢
  rw [List.find?_append, h, Option.some_or]

/-- A name leads to the first message that bears it, whatever the messages behind that one are
called, and to none if no message bears it. Messages that share a name count once. -/
theorem lookup_finds_first (package : String) (messages : List Message) :
    (∀ name m, (ofMessages package messages).get? name = some m ↔
        ∃ before after, messages = before ++ m :: after ∧ m.qualifiedName package = name ∧
          ∀ other ∈ before, other.qualifiedName package ≠ name) ∧
      (∀ name, (ofMessages package messages).get? name = none ↔
        ∀ m ∈ messages, m.qualifiedName package ≠ name) ∧
      (ofMessages package messages).size =
        (messages.map (·.qualifiedName package)).dedup.length ∧
      ((ofMessages package messages).isEmpty = true ↔ messages = []) ∧
      ∀ name m more, (ofMessages package messages).get? name = some m →
        (ofMessages package (messages ++ more)).get? name = some m :=
  ⟨fun _ _ => get?_eq_some, fun _ => get?_eq_none, size_eq_dedup package messages,
    isEmpty_ofMessages package messages, fun _ _ more h => get?_append h more⟩

/-- A message with a dot in its name and one that is nested share their name. -/
def alikeMessages : List Message :=
  [{ name := "Order.Line" }, { name := "Line", parents := [{ name := "Order" }] }]

/-- The name that they share leads to the first of them, also where a third comes behind. -/
theorem alike_first_found :
    (ofMessages "shop" alikeMessages).get? ".shop.Order.Line" = some { name := "Order.Line" } ∧
      (ofMessages "shop" alikeMessages).get? ".shop.Line" = none ∧
      (ofMessages "shop" alikeMessages).size = 1 ∧
      (ofMessages "shop" (alikeMessages ++ [{ name := "Order.Line", isItem := true }])).get?
        ".shop.Order.Line" = some { name := "Order.Line" } := by
  obtain ⟨hsome, hnone, hsize, -, hmore⟩ := lookup_finds_first "shop" alikeMessages
  have hfirst : (ofMessages "shop" alikeMessages).get? ".shop.Order.Line" =
      some { name := "Order.Line" } := (hsome _ _).mpr ⟨[], _, rfl, by decide, nofun⟩
  exact ⟨hfirst, (hnone _).mpr (by decide), by rw [hsize]; decide, hmore _ _ _ hfirst⟩

end Index
end Stencil
