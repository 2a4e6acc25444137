import Mathlib.Data.List.Forall2
import Stencil.Proofs.Linking

/-!
# Stencil.Proofs.Flattening

What flattening does to a model.

* `LinkGrows`      — a link stays, or there was none and now there is one to a deep message.
* `Method.Grows`, `Service.Grows` — nothing changes but links, and those only grow.

Flattening puts messages in front of others, and of several messages of one name only the first is
found. Still no message is hidden by that: where names hold no dots, messages of one name are nested
equally deep (`depth_eq_of_qualifiedName`), and so flattening adds all of them or none.
-/

namespace Stencil

variable {lang : Language}

/-! ## The sequence of messages -/

/-- A model that is not flattened fails as a flattened one does, and shows its messages down to the
second level, in the same order. -/
theorem unflattened_is_shallow (lang : Language) (decls : List MessageDecl) :
    Builder.messages ⟨lang, false⟩ decls =
      (Builder.messages ⟨lang, true⟩ decls).map (·.filter (·.depth ≤ 1)) := by
  simp only [Builder.messages]
  cases hr : Message.ofLevel lang [] decls with
  | error e => rfl
  | ok roots => exact congrArg Except.ok (listed_false hr)

/-! ## Messages of one name -/

variable {b : Builder} {file : FileDecl} {roots : List Message}

theorem declaredType_of_listed {m : Message}
    (h : Message.ofLevel b.language [] file.messages = .ok roots)
    (hm : m ∈ listed b.flatten roots) :
    ∃ p ds, MessageDecl.chain? file.messages p = some ds ∧ ds ≠ [] ∧ ds.length = m.depth + 1 ∧
      m.qualifiedName file.package = declaredType file.package ds := by
  obtain ⟨p, ⟨ds, hchain, hne, hshown, -, htype⟩, hat⟩ := refers_of_listed h hm
  obtain ⟨m', hat', hdepth, -⟩ := descriptor?_shown h hchain hne hshown
  cases hat.symm.trans hat'
  refine ⟨p, ds, hchain, hne, ?_, htype⟩
  rw [MessageDecl.length_chain? hchain, hdepth]

/-- The name of a message tells how deep it is nested, also where siblings share names. -/
theorem depth_eq_of_qualifiedName {m other : Message}
    (h : Message.ofLevel b.language [] file.messages = .ok roots)
    (hn : MessageDecl.Dotless file.messages) (hm : m ∈ listed b.flatten roots)
    (hother : other ∈ listed b.flatten roots)
    (hname : m.qualifiedName file.package = other.qualifiedName file.package) :
    m.depth = other.depth := by
  obtain ⟨p, ds, hp, hd, hdepth, htype⟩ := declaredType_of_listed h hm
  obtain ⟨q, es, hq, he, hdepth', htype'⟩ := declaredType_of_listed h hother
  rw [htype, htype'] at hname
  have hnames := declaredType_injective hd he (chain?_plain hn hp) (chain?_plain hn hq) hname
  have hlen : ds.length = es.length := by simpa using congrArg List.length hnames
  omega

/-! ## Links -/

/-- If what is looked for is kept or dropped as a whole, the first of it is found among what is kept
just if it is kept. -/
theorem find?_filter_of_agree {α : Type} {wanted keep : α → Bool} {xs : List α}
    (h : ∀ x ∈ xs, ∀ y ∈ xs, wanted x = true → wanted y = true → keep x = keep y) :
    (xs.filter keep).find? wanted = (xs.find? wanted).filter keep := by
  induction xs with
  | nil => rfl
  | cons x rest ih =>
    have hrest := ih fun a ha b hb => h a (List.mem_cons_of_mem _ ha) b (List.mem_cons_of_mem _ hb)
    rw [List.find?_cons]
    cases hx : wanted x with
    | false =>
      rw [← hrest, List.filter_cons]
      split
      · rw [List.find?_cons, hx]
      · rfl
    | true =>
      cases hk : keep x with
      | true => rw [List.filter_cons_of_pos hk, List.find?_cons, hx, Option.filter_some, if_pos hk]
      | false =>
        -- nothing that is looked for is kept
        have hnone : (rest.filter keep).find? wanted = none := by
          rw [List.find?_eq_none]
          intro y hy hw
          obtain ⟨hmem, hkeep⟩ := List.mem_filter.mp hy
          have hsame := h x List.mem_cons_self y (List.mem_cons_of_mem _ hmem) hx hw
          rw [hk, hkeep] at hsame
          cases hsame
        have hdrop : ¬ keep x = true := by simp [hk]
        rw [List.filter_cons_of_neg hdrop, hnone, Option.filter_some, if_neg hdrop]

/-- Without flattening a type name leads to the same message, unless that is nested too deep. -/
theorem get?_unflattened (h : Message.ofLevel lang [] file.messages = .ok roots)
    (hn : MessageDecl.Dotless file.messages) (type : String) :
    (Index.ofMessages file.package (listed false roots)).get? type =
      ((Index.ofMessages file.package (listed true roots)).get? type).filter (·.depth ≤ 1) := by
  rw [Index.get?_ofMessages, Index.get?_ofMessages, listed_false h]
  apply find?_filter_of_agree
  intro x hx y hy hxtype hytype
  have hname : x.qualifiedName file.package = y.qualifiedName file.package := by
    rw [eq_of_beq hxtype, eq_of_beq hytype]
  have hdepth : x.depth = y.depth :=
    depth_eq_of_qualifiedName (b := ⟨lang, true⟩) h hn hx hy hname
  rw [hdepth]

inductive LinkGrows : Option Message → Option Message → Prop where
  | same (link : Option Message) : LinkGrows link link
  | new {m : Message} (deep : 2 ≤ m.depth) : LinkGrows none (some m)

structure Method.Grows (near far : Method) : Prop where
  name : far.name = near.name
  inputType : far.inputType = near.inputType
  outputType : far.outputType = near.outputType
  input : LinkGrows near.input far.input
  output : LinkGrows near.output far.output

/-- The sequences of messages that the services hold are left open. -/
structure Service.Grows (near far : Service) : Prop where
  name : far.name = near.name
  methods : List.Forall₂ Method.Grows near.methods far.methods

theorem linkGrows_filter (link : Option Message) :
    LinkGrows (link.filter (·.depth ≤ 1)) link := by
  cases link with
  | none => exact .same none
  | some m =>
    by_cases hshallow : m.depth ≤ 1
    · rw [Option.filter_some, if_pos (by simpa using hshallow)]
      exact .same (some m)
    · rw [Option.filter_some, if_neg (by simpa using hshallow)]
      exact .new (by omega)

theorem Method.link_grows {near far : Index}
    (h : ∀ type, LinkGrows (near.get? type) (far.get? type)) (m : MethodDecl) :
    Method.Grows (Method.link near m) (Method.link far m) :=
  ⟨rfl, rfl, rfl, h m.inputType, h m.outputType⟩

theorem Service.link_grows {near far : Index}
    (h : ∀ type, LinkGrows (near.get? type) (far.get? type)) (shown all : List Message)
    (s : ServiceDecl) : Service.Grows (Service.link near shown s) (Service.link far all s) := by
  refine ⟨rfl, ?_⟩
  simp only [Service.link, List.forall₂_map_left_iff, List.forall₂_map_right_iff]
  exact List.forall₂_same.mpr fun m _ => Method.link_grows h m

/-- In a file without dots in its names, also where siblings share names, flattening leaves services
and methods as they are and takes no link away. A link that it adds leads to a message that is not
shown without it. -/
theorem flatten_keeps_links {flatten : Bool} {model : Model}
    (hn : MessageDecl.Dotless file.messages)
    (hmodel : Builder.model ⟨lang, flatten⟩ file = .ok model) :
    ∃ near far, Builder.model ⟨lang, false⟩ file = .ok near ∧
      Builder.model ⟨lang, true⟩ file = .ok far ∧
      List.Forall₂ Service.Grows near.services far.services := by
  obtain ⟨roots, hr, -⟩ := Builder.model_eq_ok.mp hmodel
  have hmodels (flatten : Bool) := Builder.model_eq_ok (b := ⟨lang, flatten⟩).mpr ⟨roots, hr, rfl⟩
  refine ⟨_, _, hmodels false, hmodels true, ?_⟩
  have hlinks : ∀ type,
      LinkGrows ((Index.ofMessages file.package (listed false roots)).get? type)
        ((Index.ofMessages file.package (listed true roots)).get? type) := by
    intro type
    rw [get?_unflattened hr hn type]
    exact linkGrows_filter _
  simp only [linkAll, List.forall₂_map_left_iff, List.forall₂_map_right_iff]
  exact List.forall₂_same.mpr fun s _ => Service.link_grows hlinks _ _ s

/-- Two orders of one name. Only the address of the first has a place below it. -/
def twiceFile : FileDecl :=
  { package? := some "shop"
    messages :=
      [{ name? := some "Order"
         nested := [{ name? := some "Address", nested := [{ name? := some "Geo" }] }] },
       { name? := some "Order", nested := [{ name? := some "Address" }] }]
    services := [{ name? := some "OrderService"
                   methods := [{ name? := some "Locate", inputType? := some ".shop.Order.Address"
                                 outputType? := some ".shop.Order.Address.Geo" }] }] }

theorem twice_dotless : MessageDecl.Dotless twiceFile.messages := by
  have leaf : MessageDecl.Dotless [] := .level (by simp) (by simp)
  have geo : MessageDecl.Dotless [{ name? := some "Geo" }] :=
    .level (by decide) (by simpa using leaf)
  have address : MessageDecl.Dotless [{ name? := some "Address" }] :=
    .level (by decide) (by simpa using leaf)
  have order : MessageDecl.Dotless
      [{ name? := some "Address", nested := [{ name? := some "Geo" }] }] :=
    .level (by decide) (by simpa using geo)
  exact .level (by decide) (by simpa [twiceFile] using ⟨order, address⟩)

/-- Flattened, the place stands between the two orders, and the method is linked to it. -/
theorem twice_keeps_links :
    ∃ near far before after, MessageDecl.Dotless twiceFile.messages ∧
      Builder.model ⟨.go, false⟩ twiceFile = .ok near ∧
      Builder.model ⟨.go, true⟩ twiceFile = .ok far ∧
      List.Forall₂ Service.Grows near.services far.services ∧
      near.services.flatMap (·.methods) = [before] ∧ far.services.flatMap (·.methods) = [after] ∧
      before.input = after.input ∧ before.input.map (·.children.length) = some 1 ∧
      before.output = none ∧ after.output.map (·.nestedName) = some "Order.Address.Geo" := by
  obtain ⟨model, hmodel⟩ : ∃ model, Builder.model ⟨.go, true⟩ twiceFile = .ok model := ⟨_, rfl⟩
  obtain ⟨near, far, hnear, hfar, hgrows⟩ := flatten_keeps_links twice_dotless hmodel
  cases hnear
  cases hfar
  exact ⟨_, _, _, _, twice_dotless, rfl, rfl, hgrows, rfl, rfl, rfl, rfl, rfl, rfl⟩

end Stencil
