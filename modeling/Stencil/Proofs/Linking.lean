import Stencil.Proofs.Index
import Stencil.Proofs.Listing

/-!
# Stencil.Proofs.Linking

Which message a type name in a method leads to, said of the declarations.

* `MessageDecl.Dotless`   — no dots in names.
* `MessageDecl.WellNamed` — no dots in names, no two siblings of one name.
* `declaredType`          — the fully qualified name of nested declarations.
* `Refers`                — a type name is that of the shown declaration at a position.

`linked_iff_refers` is the main statement: in a well named file a method is linked exactly to the
message of the one declaration its type name refers to.
-/

namespace Stencil

open MessageDecl (chain? walk Shown)

/-- This is about every declared name, also about those of items and of what is nested in them. -/
inductive MessageDecl.Dotless : List MessageDecl → Prop where
  | level {decls : List MessageDecl} (plain : ∀ d ∈ decls, '.' ∉ d.name.toList)
      (nested : ∀ d ∈ decls, Dotless d.nested) : Dotless decls

inductive MessageDecl.WellNamed : List MessageDecl → Prop where
  | level {decls : List MessageDecl} (distinct : (decls.map (·.name)).Nodup)
      (plain : ∀ d ∈ decls, '.' ∉ d.name.toList)
      (nested : ∀ d ∈ decls, WellNamed d.nested) : WellNamed decls

/-- The fully qualified name of the last of some nested declarations, outermost first. -/
def declaredType (package : String) (ds : List MessageDecl) : String :=
  "." ++ (if package.isEmpty then "" else package ++ ".") ++ dotted (ds.map (·.name))

/-- A model that is not flattened shows declarations down to the second level. -/
def Refers (b : Builder) (file : FileDecl) (type : String) (p : List Nat) : Prop :=
  ∃ ds, chain? file.messages p = some ds ∧ ds ≠ [] ∧ (∀ d ∈ ds, d.isItem = false) ∧
    (b.flatten = true ∨ ds.length ≤ 2) ∧ type = declaredType file.package ds

theorem MessageDecl.WellNamed.dotless {decls : List MessageDecl} (h : WellNamed decls) :
    Dotless decls := by
  induction h with
  | level _ plain _ ih => exact .level plain ih

/-! ## Names tell declarations apart -/

theorem splitOn_dotted {names : List String} (hne : names ≠ [])
    (h : ∀ name ∈ names, '.' ∉ name.toList) :
    (dotted names).toList.splitOn '.' = names.map String.toList := by
  rw [dotted, String.toList_intercalate]
  refine List.splitOn_intercalate '.' ?_ ?_
  · intro cs hcs
    obtain ⟨name, hname, rfl⟩ := List.mem_map.mp hcs
    exact h name hname
  · simpa using hne

theorem dotted_injective {as bs : List String} (ha : as ≠ []) (hb : bs ≠ [])
    (has : ∀ name ∈ as, '.' ∉ name.toList) (hbs : ∀ name ∈ bs, '.' ∉ name.toList)
    (h : dotted as = dotted bs) : as = bs := by
  have hsplit : as.map String.toList = bs.map String.toList := by
    rw [← splitOn_dotted ha has, ← splitOn_dotted hb hbs, h]
  exact (List.map_inj_right fun _ _ => String.toList_inj.mp).mp hsplit

theorem declaredType_injective {package : String} {ds es : List MessageDecl} (hd : ds ≠ [])
    (he : es ≠ []) (hds : ∀ d ∈ ds, '.' ∉ d.name.toList) (hes : ∀ e ∈ es, '.' ∉ e.name.toList)
    (h : declaredType package ds = declaredType package es) :
    ds.map (·.name) = es.map (·.name) := by
  have hdotted := (String.append_right_inj _).mp h
  refine dotted_injective (by simpa using hd) (by simpa using he) ?_ ?_ hdotted
  · simpa using hds
  · simpa using hes

theorem chain?_plain {decls ds : List MessageDecl} {p : List Nat}
    (hn : MessageDecl.Dotless decls) (h : chain? decls p = some ds) :
    ∀ d ∈ ds, '.' ∉ d.name.toList := by
  induction p generalizing decls ds with
  | nil => cases h; simp
  | cons i rest ih =>
    obtain ⟨d, hd, hq⟩ := Option.bind_eq_some_iff.mp h
    obtain ⟨ds', hds, rfl⟩ := Option.map_eq_some_iff.mp hq
    obtain ⟨plain, nested⟩ := hn
    have hmem := List.mem_of_getElem? hd
    intro e he
    rcases List.mem_cons.mp he with rfl | he
    · exact plain e hmem
    · exact ih (nested d hmem) hds e he

/-- In a well named forest the names on the way fix the position. -/
theorem chain?_injective {decls ds es : List MessageDecl} {p q : List Nat}
    (hn : MessageDecl.WellNamed decls) (hp : chain? decls p = some ds)
    (hq : chain? decls q = some es) (h : ds.map (·.name) = es.map (·.name)) : p = q := by
  induction p generalizing decls ds es q with
  | nil =>
    cases hp
    have hes : es = [] := List.map_eq_nil_iff.mp h.symm
    have hlen := MessageDecl.length_chain? hq
    rw [hes] at hlen
    exact (List.eq_nil_of_length_eq_zero hlen.symm).symm
  | cons i p ih =>
    obtain ⟨d, hd, hp⟩ := Option.bind_eq_some_iff.mp hp
    obtain ⟨ds', hds, rfl⟩ := Option.map_eq_some_iff.mp hp
    cases q with
    | nil => cases hq; cases h
    | cons j q =>
      obtain ⟨e, he, hq⟩ := Option.bind_eq_some_iff.mp hq
      obtain ⟨es', hes, rfl⟩ := Option.map_eq_some_iff.mp hq
      simp only [List.map_cons, List.cons.injEq] at h
      obtain ⟨hname, hnames⟩ := h
      obtain ⟨distinct, -, nested⟩ := hn
      have hij : i = j := by
        obtain ⟨hi, -⟩ := List.getElem?_eq_some_iff.mp hd
        refine (List.getElem?_inj (by simpa using hi) distinct).mp ?_
        rw [List.getElem?_map, List.getElem?_map, hd, he]
        exact congrArg some hname
      subst hij
      cases hd.symm.trans he
      rw [ih (nested d (List.mem_of_getElem? hd)) hds hes hnames]

theorem Refers.unique {b : Builder} {file : FileDecl} {type : String} {p q : List Nat}
    (hn : MessageDecl.WellNamed file.messages) (hp : Refers b file type p)
    (hq : Refers b file type q) : p = q := by
  obtain ⟨ds, hds, hd, -, -, rfl⟩ := hp
  obtain ⟨es, hes, he, -, -, htype⟩ := hq
  exact chain?_injective hn hds hes
    (declaredType_injective hd he (chain?_plain hn.dotless hds) (chain?_plain hn.dotless hes) htype)

/-! ## Listed messages and the names that refer to them -/

variable {b : Builder} {file : FileDecl} {roots : List Message}

theorem Builder.model_eq_ok {model : Model} :
    b.model file = .ok model ↔
      ∃ roots, Message.ofLevel b.language [] file.messages = .ok roots ∧
        model = { package := file.package, fileName := file.name,
                  messages := listed b.flatten roots,
                  services := linkAll file.package file.services (listed b.flatten roots) } := by
  simp only [Builder.model]
  constructor
  · intro h
    split at h
    · cases h
    · rename_i messages hm
      obtain ⟨roots, hr, rfl⟩ := Builder.messages_eq_ok.mp hm
      cases h
      exact ⟨roots, hr, rfl⟩
  · rintro ⟨roots, hr, rfl⟩
    rw [Builder.messages_eq_ok.mpr ⟨roots, hr, rfl⟩]

theorem Message.qualifiedName_eq {m : Message} {ds : List MessageDecl}
    (h : m.nestedName = dotted (ds.map (·.name))) (package : String) :
    m.qualifiedName package = declaredType package ds := by
  rw [Message.qualifiedName, declaredType, h]
  split
  · rw [String.append_empty]
  · simp only [String.append_assoc]

theorem Refers.listed {type : String} {p : List Nat}
    (h : Message.ofLevel b.language [] file.messages = .ok roots) (hp : Refers b file type p) :
    ∃ m ∈ listed b.flatten roots, descriptor? file.messages roots p = some m ∧
      m.qualifiedName file.package = type := by
  obtain ⟨ds, hchain, hne, hshown, hwithin, rfl⟩ := hp
  obtain ⟨m, hat, -, hname⟩ := descriptor?_shown h hchain hne hshown
  rw [MessageDecl.length_chain? hchain] at hwithin
  exact ⟨m, (mem_listed_iff h).mpr ⟨p, ⟨ds, hchain, hne, hshown⟩, hwithin, hat⟩, hat,
    Message.qualifiedName_eq hname file.package⟩

theorem refers_of_listed {m : Message}
    (h : Message.ofLevel b.language [] file.messages = .ok roots)
    (hm : m ∈ listed b.flatten roots) :
    ∃ p, Refers b file (m.qualifiedName file.package) p ∧
      descriptor? file.messages roots p = some m := by
  obtain ⟨p, ⟨ds, hchain, hne, hshown⟩, hwithin, hat⟩ := (mem_listed_iff h).mp hm
  obtain ⟨m', hat', -, hname⟩ := descriptor?_shown h hchain hne hshown
  cases hat.symm.trans hat'
  rw [← MessageDecl.length_chain? hchain] at hwithin
  exact ⟨p, ⟨ds, hchain, hne, hshown, hwithin, Message.qualifiedName_eq hname file.package⟩, hat⟩

theorem get?_listed_iff (h : Message.ofLevel b.language [] file.messages = .ok roots)
    (hn : MessageDecl.WellNamed file.messages) (type : String) (m : Message) :
    (Index.ofMessages file.package (listed b.flatten roots)).get? type = some m ↔
      ∃ p, Refers b file type p ∧ descriptor? file.messages roots p = some m := by
  rw [Index.get?_ofMessages]
  have found : ∀ x, (listed b.flatten roots).find? (·.qualifiedName file.package == type) = some x →
      ∃ p, Refers b file type p ∧ descriptor? file.messages roots p = some x := by
    intro x hx
    have htype : x.qualifiedName file.package = type := by simpa using List.find?_some hx
    rw [← htype]
    exact refers_of_listed h (List.mem_of_find?_eq_some hx)
  constructor
  · exact found m
  · rintro ⟨p, hp, hat⟩
    obtain ⟨m', hmem, hat', htype⟩ := hp.listed h
    have hsome : ((listed b.flatten roots).find?
        (·.qualifiedName file.package == type)).isSome :=
      List.find?_isSome.mpr ⟨m', hmem, by simpa using htype⟩
    obtain ⟨x, hx⟩ := Option.isSome_iff_exists.mp hsome
    obtain ⟨q, hq, hxat⟩ := found x hx
    rw [hp.unique hn hq, hxat] at hat
    rw [hx, hat]

theorem qualifiedName_nodup_flattened {lang : Language}
    (h : Message.ofLevel lang [] file.messages = .ok roots)
    (hn : MessageDecl.WellNamed file.messages) :
    ((listed true roots).map (·.qualifiedName file.package)).Nodup := by
  let name (x : Option Message) := x.map (·.qualifiedName file.package)
  have named : ∀ p ∈ walk 0 file.messages, ∃ type, Refers ⟨lang, true⟩ file type p ∧
      name (descriptor? file.messages roots p) = some type := by
    intro p hp
    obtain ⟨ds, hchain, hne, hshown⟩ := MessageDecl.mem_walk.mp hp
    have href : Refers ⟨lang, true⟩ file (declaredType file.package ds) p :=
      ⟨ds, hchain, hne, hshown, .inl rfl, rfl⟩
    obtain ⟨m, -, hat, htype⟩ := href.listed h
    exact ⟨_, href, by rw [hat, ← htype]; rfl⟩
  have hwalk : (walk 0 file.messages).Pairwise fun p q =>
      name (descriptor? file.messages roots p) ≠ name (descriptor? file.messages roots q) := by
    refine (MessageDecl.walk_sorted 0 file.messages).imp_of_mem fun {p q} hp hq hlt heq => ?_
    obtain ⟨type, hptype, hpname⟩ := named p hp
    obtain ⟨type', hqtype, hqname⟩ := named q hq
    rw [hpname, hqname] at heq
    -- one name at two positions refers to both of them
    cases heq
    rw [hptype.unique hn hqtype] at hlt
    exact List.lt_irrefl q hlt
  have hsome : ((listed true roots).map some).Pairwise fun x y => name x ≠ name y := by
    rw [listed_true, families_walk h, List.pairwise_map]
    exact hwalk
  refine List.pairwise_map.mpr ((List.pairwise_map.mp hsome).imp fun hne heq => hne ?_)
  exact congrArg some heq

theorem qualifiedName_nodup (h : Message.ofLevel b.language [] file.messages = .ok roots)
    (hn : MessageDecl.WellNamed file.messages) :
    ((listed b.flatten roots).map (·.qualifiedName file.package)).Nodup := by
  have hall := qualifiedName_nodup_flattened h hn
  cases hf : b.flatten with
  | true => exact hall
  | false =>
    rw [listed_false h]
    exact hall.sublist (List.filter_sublist.map _)

/-- In a well named file the messages that methods take and give are exactly those that their type
names refer to: by the names of a declaration that the model shows and of the declarations around
it. A type name refers to one declaration at most, and no message of the model is shadowed. -/
theorem linked_iff_refers {model : Model} (hmodel : b.model file = .ok model)
    (hn : MessageDecl.WellNamed file.messages) :
    ∃ roots, Message.ofLevel b.language [] file.messages = .ok roots ∧
      (∀ (i j : Nat) (s : ServiceDecl) (m : MethodDecl), file.services[i]? = some s →
        s.methods[j]? = some m → ∃ (service : Service) (method : Method),
          model.services[i]? = some service ∧ service.methods[j]? = some method ∧
          (∀ x, method.input = some x ↔
            ∃ p, Refers b file m.inputType p ∧ descriptor? file.messages roots p = some x) ∧
          (∀ x, method.output = some x ↔
            ∃ p, Refers b file m.outputType p ∧ descriptor? file.messages roots p = some x)) ∧
      (∀ type p, Refers b file type p →
        (descriptor? file.messages roots p).isSome ∧ ∀ q, Refers b file type q → q = p) ∧
      (Index.ofMessages model.package model.messages).size = model.messages.length := by
  obtain ⟨roots, hr, rfl⟩ := Builder.model_eq_ok.mp hmodel
  refine ⟨roots, hr, ?_, ?_, Index.size_ofMessages (qualifiedName_nodup hr hn)⟩
  · intro i j s m hs hm
    refine ⟨_, _, by rw [linkAll, List.getElem?_map, hs]; rfl, by
      rw [Service.link, List.getElem?_map, hm]; rfl, ?_, ?_⟩
    · exact get?_listed_iff hr hn m.inputType
    · exact get?_listed_iff hr hn m.outputType
  · intro type p hp
    obtain ⟨m, -, hat, -⟩ := hp.listed hr
    exact ⟨by rw [hat, Option.isSome_some], fun q hq => hq.unique hn hp⟩

def ordersFile : FileDecl :=
  { name? := some "orders.proto"
    package? := some "shop"
    messages := MessageDecl.orders
    services := [{ name? := some "OrderService"
                   methods := [{ name? := some "Locate", inputType? := some ".shop.Order"
                                 outputType? := some ".shop.Order.Address" }] }] }

theorem orders_wellNamed : MessageDecl.WellNamed MessageDecl.orders := by
  have leaf : MessageDecl.WellNamed [] := .level (by simp) (by simp) (by simp)
  have one (name : String) (h : '.' ∉ name.toList) :
      MessageDecl.WellNamed [{ name? := some name }] :=
    .level (by simp) (by simpa [MessageDecl.name] using h) (by simpa using leaf)
  refine .level (by decide) (by decide) ?_
  simp only [MessageDecl.orders, List.forall_mem_cons]
  refine ⟨.level (by decide) (by decide) ?_, one "Order" (by decide), leaf, by simp⟩
  simp only [List.forall_mem_cons]
  exact ⟨one "Tax" (by decide), one "Geo" (by decide), by simp⟩

theorem orders_linked :
    ∃ model roots, Builder.model ⟨.go, false⟩ ordersFile = .ok model ∧
      MessageDecl.WellNamed ordersFile.messages ∧
      Message.ofLevel .go [] ordersFile.messages = .ok roots ∧
      (∃ service method, model.services[0]? = some service ∧ service.methods[0]? = some method ∧
        ∀ x, method.output = some x ↔
          ∃ p, Refers ⟨.go, false⟩ ordersFile ".shop.Order.Address" p ∧
            descriptor? ordersFile.messages roots p = some x) ∧
      (Index.ofMessages model.package model.messages).size = 3 := by
  obtain ⟨model, hmodel⟩ : ∃ model, Builder.model ⟨.go, false⟩ ordersFile = .ok model := ⟨_, rfl⟩
  obtain ⟨roots, hroots, hlinks, -, hsize⟩ := linked_iff_refers hmodel orders_wellNamed
  obtain ⟨service, method, hs, hm, -, houtput⟩ := hlinks 0 0 _ _ rfl rfl
  refine ⟨model, roots, hmodel, orders_wellNamed, hroots, ⟨service, method, hs, hm, houtput⟩, ?_⟩
  rw [hsize]
  cases hmodel
  rfl

end Stencil
