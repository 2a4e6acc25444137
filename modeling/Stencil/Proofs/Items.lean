import Mathlib.Data.List.Nodup
import Stencil.Proofs.Mirror

/-!
# Stencil.Proofs.Items

The item messages of a message, looked up by name.

A lookup takes one marker off the name it is given, if there is one, and so finds the item that is
declared with exactly one marker in front of what is left (`Mirrors.found_iff`). This is the item
itself for its declared name. For the name that the item shows, which is the declared one less a
marker, it is the item itself unless that name begins with a marker again
(`items_found_by_name`, `doubly_marked_not_found`).
-/

namespace Stencil

open MessageDecl (chain?)

variable {lang : Language}

/-- Where keys differ, looking up a key finds just what bears it. -/
theorem find?_key_eq_some {α : Type} {key : α → String} {xs : List α} (h : (xs.map key).Nodup)
    {name : String} {x : α} : xs.find? (key · == name) = some x ↔ x ∈ xs ∧ key x = name := by
  constructor
  · intro hfound
    exact ⟨List.mem_of_find?_eq_some hfound, by simpa using List.find?_some hfound⟩
  · rintro ⟨hx, rfl⟩
    have hsome : (xs.find? (key · == key x)).isSome := List.find?_isSome.mpr ⟨x, hx, by simp⟩
    obtain ⟨y, hy⟩ := Option.isSome_iff_exists.mp hsome
    have hkey : key y = key x := by simpa using List.find?_some hy
    rw [hy, List.inj_on_of_nodup_map h (List.mem_of_find?_eq_some hy) hx hkey]

/-! ## Names of items -/

theorem Mirrors.item_name {parents : List Message} {e : MessageDecl} {x : Message}
    (h : Mirrors lang parents e x) (hitem : e.isItem = true) : e.name = itemMarker ++ x.name := by
  have hx : x.isItem = true := h.isItem_eq.trans hitem
  obtain ⟨name, -, -, -, -, -⟩ := h
  rwa [if_pos hx] at name

theorem items_nodup {parents : List Message} {decls : List MessageDecl} {ms : List Message}
    (h : List.Forall₂ (Mirrors lang parents) decls ms) (hitem : ∀ e ∈ decls, e.isItem = true)
    (hn : (decls.map (·.name)).Nodup) : (ms.map (·.name)).Nodup := by
  have hnames : decls.map (·.name) = (ms.map (·.name)).map (itemMarker ++ ·) := by
    induction h with
    | nil => rfl
    | @cons e x decls ms first _ ih =>
      obtain ⟨he, hdecls⟩ := List.forall_mem_cons.mp hitem
      rw [List.map_cons, List.map_cons, List.map_cons, first.item_name he,
        ih hdecls (List.nodup_cons.mp hn).2]
  rw [hnames] at hn
  exact hn.of_map

/-! ## Lookups -/

/-- The declared name of the only item that a name can lead to. -/
def markedName (name : String) : String :=
  if isItemName name then name else itemMarker ++ name

theorem marker_append_dropItemMarker (name : String) :
    itemMarker ++ dropItemMarker name = markedName name := by
  rw [markedName]
  cases hitem : isItemName name with
  | false => rw [dropItemMarker_of_not_item hitem, if_neg Bool.false_ne_true]
  | true =>
    have hname := marker_dropItemMarker name
    rw [hitem, if_pos rfl] at hname
    rw [if_pos rfl, ← hname]

theorem Mirrors.found_iff {parents : List Message} {m x : Message} {e : MessageDecl}
    (hn : (m.items.map (·.name)).Nodup) (hx : x ∈ m.items) (h : Mirrors lang parents e x)
    (hitem : e.isItem = true) {name : String} :
    m.item? name = some x ↔ e.name = markedName name := by
  rw [Message.item?, find?_key_eq_some hn, h.item_name hitem, ← marker_append_dropItemMarker,
    String.append_right_inj]
  exact and_iff_right hx

theorem markedName_of_item {name : String} (h : isItemName name = true) : markedName name = name :=
  if_pos h

theorem marker_append_ne (name : String) : itemMarker ++ name ≠ name := by
  intro h
  have hlen := congrArg String.length h
  rw [String.length_append] at hlen
  have hmarker : itemMarker.length = 2 := by decide
  omega

theorem marker_append_eq_markedName {name : String} :
    itemMarker ++ name = markedName name ↔ isItemName name = false := by
  rw [markedName]
  cases isItemName name with
  | false => simp
  | true => simpa using marker_append_ne name

/-- The items of a message are those of the declarations nested in it, in order. Where all names
declared there differ, a name leads to an item just if the item is declared under it, or under it
with a marker in front where it has none. So the declared name of an item leads to it, and the name
that it shows does so just if there is no further marker at its beginning. -/
theorem items_found_by_name {parents : List Message} {decls : List MessageDecl} {ms : List Message}
    (h : Message.ofLevel lang parents decls = .ok ms) {p : List Nat} {above : List MessageDecl}
    {d : MessageDecl} (hchain : chain? decls p = some (above ++ [d]))
    (hn : (d.nested.map (·.name)).Nodup) :
    ∃ m, descriptor? decls ms p = some m ∧
      List.Forall₂ (fun e x => Mirrors lang (m.parents ++ [m.emptied]) e x ∧
          m.item? e.name = some x ∧ (m.item? x.name = some x ↔ isItemName x.name = false) ∧
          ∀ name, m.item? name = some x ↔ e.name = markedName name)
        (d.nested.filter (·.isItem)) m.items := by
  obtain ⟨m, hat, ⟨-, -, -, -, -, hitems⟩⟩ := descriptor?_mirrors h hchain
  have hall := mirrorsAll_iff.mp hitems
  have hmarked : ∀ e ∈ d.nested.filter (·.isItem), e.isItem = true := fun e he =>
    (List.mem_filter.mp he).2
  have hdistinct := items_nodup hall hmarked (hn.sublist (List.filter_sublist.map _))
  refine ⟨m, hat, List.forall₂_iff_zip.mpr ⟨hall.length_eq, fun {e x} hpair => ?_⟩⟩
  have hmirrors := (List.forall₂_iff_zip.mp hall).2 hpair
  obtain ⟨he, hx⟩ := List.of_mem_zip hpair
  have hfound : ∀ name, m.item? name = some x ↔ e.name = markedName name := fun name =>
    hmirrors.found_iff hdistinct hx (hmarked e he)
  refine ⟨hmirrors, (hfound e.name).mpr (markedName_of_item (hmarked e he)).symm, ?_, hfound⟩
  rw [hfound, hmirrors.item_name (hmarked e he), marker_append_eq_markedName]

/-- Two of the items differ in the number of their markers only. -/
def receipt : MessageDecl :=
  { name? := some "Receipt"
    nested := [{ name? := some "__Line" }, { name? := some "Total" }, { name? := some "____Line" }] }

/-- Under the name that it shows, the second of them is not found, but the first. -/
theorem receipt_items_found :
    ∃ ms m line twice, Message.ofLevel .go [] [receipt] = .ok ms ∧
      (receipt.nested.map (·.name)).Nodup ∧ descriptor? [receipt] ms [0] = some m ∧
      m.items = [line, twice] ∧ line.name = "Line" ∧ twice.name = "__Line" ∧
      m.item? "__Line" = some line ∧ m.item? line.name = some line ∧
      m.item? "____Line" = some twice ∧ m.item? twice.name = some line := by
  obtain ⟨ms, hms⟩ : ∃ ms, Message.ofLevel .go [] [receipt] = .ok ms := ⟨_, rfl⟩
  have hn : (receipt.nested.map (·.name)).Nodup := by decide
  have hchain : chain? [receipt] [0] = some ([] ++ [receipt]) := rfl
  obtain ⟨m, hat, hitems⟩ := items_found_by_name hms hchain hn
  obtain ⟨line, twice, hlist, hline, htwice⟩ : ∃ line twice, m.items = [line, twice] ∧
      line.name = "Line" ∧ twice.name = "__Line" := by
    cases hms
    cases hat
    exact ⟨_, _, rfl, rfl, rfl⟩
  have hdecls : receipt.nested.filter (·.isItem) =
      [{ name? := some "__Line" }, { name? := some "____Line" }] := rfl
  rw [hdecls, hlist, List.forall₂_cons, List.forall₂_cons] at hitems
  obtain ⟨⟨-, hdeclared, hshown, hnames⟩, ⟨-, hdeclaredTwice, -, -⟩, -⟩ := hitems
  refine ⟨ms, m, line, twice, hms, hn, hat, hlist, hline, htwice, hdeclared, hshown.mpr ?_,
    hdeclaredTwice, (hnames twice.name).mpr ?_⟩
  · rw [hline]
    decide
  · rw [htwice]
    rfl

/-- On its own, an item declared with two markers is not found under the name that it shows. -/
theorem doubly_marked_not_found :
    ∃ m x, Message.ofDecl .go []
        { name? := some "Receipt", nested := [{ name? := some "____Line" }] } = .ok m ∧
      m.items = [x] ∧ m.item? "____Line" = some x ∧ x.name = "__Line" ∧ m.item? x.name = none :=
  ⟨_, _, rfl, rfl, by decide +kernel, rfl, by decide +kernel⟩

end Stencil
