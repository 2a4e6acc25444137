import Stencil.Proofs.Lineage

/-!
# Stencil.Proofs.Listing

The sequence of messages that a model shows, against the declarations it is built from.

`flattened_follows_walk` says which declarations a flattened sequence shows, in which order, and
that each is shown by its own message in the built tree. `mem_listed_iff` does the same for the
members of both kinds of sequence.
-/

namespace Stencil

open MessageDecl (chain? walk Shown)

theorem Builder.messages_eq_ok {b : Builder} {decls : List MessageDecl} {ms : List Message} :
    b.messages decls = .ok ms ↔
      ∃ roots, Message.ofLevel b.language [] decls = .ok roots ∧ ms = listed b.flatten roots := by
  simp only [Builder.messages]
  constructor
  · intro h
    split at h
    · cases h
    · rename_i roots hr
      cases h
      exact ⟨roots, hr, rfl⟩
  · rintro ⟨roots, hr, rfl⟩
    rw [hr]

theorem listed_true (roots : List Message) :
    listed true roots = Message.families (roots.filter (!·.isItem)) := by
  simp [listed, Message.families_eq_flatMap]

/-- Without flattening the sequence stops at the children of the roots. -/
theorem listed_false {lang : Language} {decls : List MessageDecl} {roots : List Message}
    (h : Message.ofLevel lang [] decls = .ok roots) :
    listed false roots = (listed true roots).filter (·.depth ≤ 1) := by
  rw [listed_true]
  induction decls generalizing roots with
  | nil => cases h; rfl
  | cons d rest ih =>
    obtain ⟨fields, below, others, -, hb, ho, rfl⟩ := Message.ofLevel_cons_eq_ok.mp h
    have hrest := ih ho
    simp only [listed, Bool.false_eq_true, if_false] at hrest ⊢
    cases hd : d.isItem with
    | true =>
      rw [List.filter_cons_of_neg (by simp [hd])]
      exact hrest
    | false =>
      have hchildren := filter_depth_families hb
      rw [List.filter_cons_of_pos (by simp [hd]), List.flatMap_cons, hrest, Message.families,
        List.filter_append, Message.family_eq, List.filter_cons_of_pos (by simp [Message.depth])]
      exact congrArg (_ :: · ++ _) hchildren.symm

theorem listed_proper {lang : Language} {decls : List MessageDecl} {roots : List Message}
    (h : Message.ofLevel lang [] decls = .ok roots) (flatten : Bool) :
    ∀ m ∈ listed flatten roots, m.Proper := by
  intro m hm
  cases flatten with
  | true =>
    rw [listed_true] at hm
    exact families_proper h m hm
  | false =>
    rw [listed_false h] at hm
    have hall := (List.mem_filter.mp hm).1
    rw [listed_true] at hall
    exact families_proper h m hall

/-! ## Members and their positions -/

/-- The message at a shown position, with its depth and its name through the messages around it. -/
theorem descriptor?_shown {lang : Language} {decls : List MessageDecl} {roots : List Message}
    (h : Message.ofLevel lang [] decls = .ok roots) {p : List Nat} {ds : List MessageDecl}
    (hchain : chain? decls p = some ds) (hne : ds ≠ []) (hshown : ∀ d ∈ ds, d.isItem = false) :
    ∃ m, descriptor? decls roots p = some m ∧ m.depth + 1 = p.length ∧
      m.nestedName = dotted (ds.map (·.name)) := by
  obtain ⟨above, d, rfl⟩ : ∃ above d, ds = above ++ [d] :=
    ⟨ds.dropLast, ds.getLast hne, (List.dropLast_concat_getLast hne).symm⟩
  obtain ⟨outer, m, hbuilt, hat, hnames⟩ := descriptor?_built h hchain
  obtain ⟨fields, below, -, -, rfl⟩ := Message.ofDecl_eq_ok.mp hbuilt
  have hkept : ∀ e ∈ above ++ [d], dropItemMarker e.name = e.name := fun e he =>
    dropItemMarker_of_not_item (hshown e he)
  have hlen : outer.length = above.length := by simpa using congrArg List.length hnames
  refine ⟨_, hat, ?_, ?_⟩
  · rw [← MessageDecl.length_chain? hchain, List.length_append, List.length_singleton, ← hlen]
    rfl
  · have habove : above.map (dropItemMarker ·.name) = above.map (·.name) :=
      List.map_congr_left fun e he => hkept e (List.mem_append_left _ he)
    have hown : dropItemMarker d.name = d.name := hkept d (by simp)
    rw [Message.nestedName, Message.holding_own_parents, hnames, habove, List.map_append]
    exact congrArg (fun name => dotted (above.map (·.name) ++ [name])) hown

theorem mem_listed_iff {lang : Language} {decls : List MessageDecl} {roots : List Message}
    (h : Message.ofLevel lang [] decls = .ok roots) {flatten : Bool} {m : Message} :
    m ∈ listed flatten roots ↔
      ∃ p, Shown decls p ∧ (flatten = true ∨ p.length ≤ 2) ∧ descriptor? decls roots p = some m := by
  have hall : m ∈ listed true roots ↔
      ∃ p, Shown decls p ∧ descriptor? decls roots p = some m := by
    have hmem : m ∈ listed true roots ↔ some m ∈ (listed true roots).map some := by simp
    rw [hmem, listed_true, families_walk h, List.mem_map]
    simp only [MessageDecl.mem_walk]
  cases flatten with
  | true => simpa using hall
  | false =>
    rw [listed_false h, List.mem_filter, hall]
    have hdepth : ∀ p, Shown decls p → descriptor? decls roots p = some m →
        m.depth + 1 = p.length := by
      rintro p ⟨ds, hchain, hne, hshown⟩ hat
      obtain ⟨m', hat', hdepth, -⟩ := descriptor?_shown h hchain hne hshown
      cases hat.symm.trans hat'
      exact hdepth
    simp only [Bool.false_eq_true, false_or, decide_eq_true_eq]
    constructor
    · rintro ⟨⟨p, hp, hat⟩, hle⟩
      exact ⟨p, hp, by rw [← hdepth p hp hat]; omega, hat⟩
    · rintro ⟨p, hp, hle, hat⟩
      refine ⟨⟨p, hp, hat⟩, ?_⟩
      rw [← hdepth p hp hat] at hle
      omega

/-- A flattened sequence goes through the declarations in pre-order: through exactly those with no
item on the way to them, each once, and shows for each the message at its position in the built
tree. At every position of the tree stands the message that is built from the declaration there. -/
theorem flattened_follows_walk {lang : Language} {decls : List MessageDecl} {ms : List Message}
    (h : Builder.messages ⟨lang, true⟩ decls = .ok ms) :
    ∃ roots, Message.ofLevel lang [] decls = .ok roots ∧
      ms.map some = (walk 0 decls).map (descriptor? decls roots) ∧
      (walk 0 decls).Pairwise (· < ·) ∧ (∀ p, p ∈ walk 0 decls ↔ Shown decls p) ∧
      (∀ p above d, chain? decls p = some (above ++ [d]) →
        ∃ outer m, Message.ofDecl lang outer d = .ok m ∧ descriptor? decls roots p = some m) ∧
      ∀ m ∈ ms, m.isItem = false ∧ ∀ q ∈ m.parents, q.isItem = false := by
  obtain ⟨roots, hr, rfl⟩ := Builder.messages_eq_ok.mp h
  refine ⟨roots, hr, ?_, MessageDecl.walk_sorted 0 decls, fun p => MessageDecl.mem_walk, ?_, ?_⟩
  · rw [listed_true, families_walk hr]
  · intro p above d hchain
    obtain ⟨outer, m, hbuilt, hat, -⟩ := descriptor?_built hr hchain
    exact ⟨outer, m, hbuilt, hat⟩
  · intro m hm
    have hp := listed_proper hr true m hm
    exact ⟨hp.notItem, hp.notInItem⟩

/-- Of the orders four messages are shown: neither the items nor what is declared below them. -/
theorem orders_follow_walk :
    ∃ ms roots, Builder.messages ⟨.go, true⟩ MessageDecl.orders = .ok ms ∧
      Message.ofLevel .go [] MessageDecl.orders = .ok roots ∧
      ms.map (·.nestedName) = ["Order", "Order.Address", "Order.Address.Geo", "Address"] ∧
      walk 0 MessageDecl.orders = [[0], [0, 1], [0, 1, 0], [2]] ∧
      ms.map some = (walk 0 MessageDecl.orders).map (descriptor? MessageDecl.orders roots) := by
  obtain ⟨ms, hms⟩ : ∃ ms, Builder.messages ⟨.go, true⟩ MessageDecl.orders = .ok ms := ⟨_, rfl⟩
  obtain ⟨roots, hroots, hentries, -⟩ := flattened_follows_walk hms
  cases hms
  exact ⟨_, roots, rfl, hroots, by cbv, by rfl, hentries⟩

end Stencil
