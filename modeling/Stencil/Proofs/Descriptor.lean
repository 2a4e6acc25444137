import Stencil.Model.Build
import Stencil.Proofs.Forest

/-!
# Stencil.Proofs.Descriptor

The message that is built from a declaration, found by the position of the declaration.

* `MessageDecl.own`, `Message.holding` — a message before and after what is nested in it is built.
* `Message.inOrder`  — the messages nested in a message, in the order of their declarations.
* `descriptor?`      — the message built for the declaration at a position.

`ofLevel_cons_eq_ok` says all that a successful build of a level does; the facts below it are
inductions on the forest that go through it. `families_walk` ties the families of a level to the
walk of its declarations.
-/

namespace Stencil

/-- A message as those nested in it see it: without children and items. -/
def MessageDecl.own (d : MessageDecl) (parents : List Message) (fields : List Field) : Message :=
  { name := dropItemMarker d.name, fields, parents, isItem := d.isItem }

/-- A message with what is nested in it, parted into children and items. -/
def Message.holding (m : Message) (below : List Message) : Message :=
  { m with children := below.filter (!·.isItem), items := below.filter (·.isItem) }

@[simp] theorem Message.holding_own_isItem (d : MessageDecl) (parents : List Message)
    (fields : List Field) (below : List Message) :
    ((d.own parents fields).holding below).isItem = d.isItem := rfl

@[simp] theorem Message.holding_own_parents (d : MessageDecl) (parents : List Message)
    (fields : List Field) (below : List Message) :
    ((d.own parents fields).holding below).parents = parents := rfl

/-- Children and items put back in the order of the declarations they come from. -/
def weave : List MessageDecl → List Message → List Message → List Message
  | [], _, _ => []
  | d :: rest, children, items =>
    if d.isItem then items.head?.toList ++ weave rest children items.tail
    else children.head?.toList ++ weave rest children.tail items

def Message.inOrder (m : Message) (nested : List MessageDecl) : List Message :=
  weave nested m.children m.items

/-- `built` are the messages of the roots. On the way down every declaration is looked up among the
children or among the items of the message above it, whichever it belongs to. -/
def descriptor? : List MessageDecl → List Message → List Nat → Option Message
  | _, _, [] => none
  | _, built, [i] => built[i]?
  | decls, built, i :: j :: rest =>
    decls[i]?.bind fun d => built[i]?.bind fun m =>
      descriptor? d.nested (m.inOrder d.nested) (j :: rest)

theorem Message.filter_map_isItem {f : Message → Message} (hf : ∀ m, (f m).isItem = m.isItem)
    (keep : Bool → Bool) (ms : List Message) :
    (ms.map f).filter (keep ·.isItem) = (ms.filter (keep ·.isItem)).map f := by
  rw [List.filter_map]
  congr 2
  funext m
  rw [Function.comp_apply, hf]

theorem dropItemMarker_of_not_item {name : String} (h : isItemName name = false) :
    dropItemMarker name = name := by
  unfold isItemName at h
  rw [dropItemMarker, Text.dropMark, h, if_neg Bool.false_ne_true, String.ofList_toList]

/-! ## Building one level -/

theorem Message.ofDecl_eq (lang : Language) (parents : List Message) (d : MessageDecl) :
    Message.ofDecl lang parents d =
      match Field.ofDecls lang d.fields with
      | .error e => .error ⟨dotted (parents.map (·.name) ++ [d.name]), e⟩
      | .ok fields =>
        match Message.ofLevel lang (parents ++ [d.own parents fields]) d.nested with
        | .error e => .error e
        | .ok below => .ok ((d.own parents fields).holding below) := by
  cases d
  rfl

theorem Message.ofDecl_eq_ok {lang : Language} {parents : List Message} {d : MessageDecl}
    {m : Message} :
    Message.ofDecl lang parents d = .ok m ↔
      ∃ fields below, Field.ofDecls lang d.fields = .ok fields ∧
        Message.ofLevel lang (parents ++ [d.own parents fields]) d.nested = .ok below ∧
        m = (d.own parents fields).holding below := by
  rw [Message.ofDecl_eq]
  constructor
  · intro h
    split at h
    · cases h
    · rename_i fields hf
      split at h
      · cases h
      · rename_i below hb
        cases h
        exact ⟨fields, below, hf, hb, rfl⟩
  · rintro ⟨fields, below, hf, hb, rfl⟩
    simp only [hf, hb]

theorem Message.ofLevel_cons_eq_ok {lang : Language} {parents : List Message} {d : MessageDecl}
    {rest : List MessageDecl} {ms : List Message} :
    Message.ofLevel lang parents (d :: rest) = .ok ms ↔
      ∃ fields below others, Field.ofDecls lang d.fields = .ok fields ∧
        Message.ofLevel lang (parents ++ [d.own parents fields]) d.nested = .ok below ∧
        Message.ofLevel lang parents rest = .ok others ∧
        ms = (d.own parents fields).holding below :: others := by
  simp only [Message.ofLevel]
  constructor
  · intro h
    split at h
    · cases h
    · rename_i m hm
      split at h
      · cases h
      · rename_i others ho
        cases h
        obtain ⟨fields, below, hf, hb, rfl⟩ := Message.ofDecl_eq_ok.mp hm
        exact ⟨fields, below, others, hf, hb, ho, rfl⟩
  · rintro ⟨fields, below, others, hf, hb, ho, rfl⟩
    rw [Message.ofDecl_eq_ok.mpr ⟨fields, below, hf, hb, rfl⟩]
    simp only [ho]

theorem Message.ofLevel_isItem {lang : Language} {parents : List Message}
    {decls : List MessageDecl} {ms : List Message}
    (h : Message.ofLevel lang parents decls = .ok ms) :
    ms.map (·.isItem) = decls.map (·.isItem) := by
  induction decls generalizing ms with
  | nil => cases h; rfl
  | cons d rest ih =>
    obtain ⟨fields, below, others, -, -, ho, rfl⟩ := Message.ofLevel_cons_eq_ok.mp h
    rw [List.map_cons, List.map_cons, ih ho]
    rfl

theorem weave_filter {decls : List MessageDecl} {ms : List Message}
    (h : ms.map (·.isItem) = decls.map (·.isItem)) :
    weave decls (ms.filter (!·.isItem)) (ms.filter (·.isItem)) = ms := by
  induction decls generalizing ms with
  | nil => cases ms with
    | nil => rfl
    | cons m rest => cases h
  | cons d decls ih =>
    cases ms with
    | nil => cases h
    | cons m ms =>
      simp only [List.map_cons, List.cons.injEq] at h
      obtain ⟨hm, hms⟩ := h
      cases hd : d.isItem <;> simp [weave, hm, hd, ih hms]

/-- What was parted into children and items comes back as it was built. -/
theorem Message.inOrder_holding {lang : Language} {parents : List Message}
    {nested : List MessageDecl} {below : List Message} (m : Message)
    (h : Message.ofLevel lang parents nested = .ok below) :
    (m.holding below).inOrder nested = below :=
  weave_filter (Message.ofLevel_isItem h)

/-! ## Families follow the walk -/

theorem Message.families_eq_flatMap (ms : List Message) :
    Message.families ms = ms.flatMap Message.family := by
  induction ms with
  | nil => rfl
  | cons m rest ih => rw [Message.families, ih, List.flatMap_cons]

theorem Message.family_eq (m : Message) : m.family = m :: Message.families m.children := by
  cases m
  rfl

theorem descriptor?_cons {decls nested : List MessageDecl} {built below : List Message}
    {d : MessageDecl} {m : Message} {i : Nat} {q : List Nat} (hd : decls[i]? = some d)
    (hm : built[i]? = some m) (hn : d.nested = nested) (hb : m.inOrder nested = below) :
    descriptor? decls built (i :: q) = if q = [] then some m else descriptor? nested below q := by
  subst hn hb
  cases q with
  | nil => simp [descriptor?, hm]
  | cons j q => simp [descriptor?, hd, hm]

/-- The families of the messages that are no items are the descriptors at the positions of the
walk. The level may stand behind others, by which its numbers are shifted. -/
theorem families_walk_behind {lang : Language} {parents : List Message} {decls : List MessageDecl}
    {ms : List Message} (h : Message.ofLevel lang parents decls = .ok ms)
    (before : List MessageDecl) (builtBefore : List Message)
    (hlen : before.length = builtBefore.length) :
    (Message.families (ms.filter (!·.isItem))).map some =
      (MessageDecl.walk before.length decls).map
        (descriptor? (before ++ decls) (builtBefore ++ ms)) := by
  induction decls using MessageDecl.forest_induction generalizing parents ms before builtBefore with
  | nil => cases h; rfl
  | cons d rest nested siblings =>
    obtain ⟨fields, below, others, -, hb, ho, rfl⟩ := Message.ofLevel_cons_eq_ok.mp h
    have hnested := nested hb [] [] rfl
    have hrest := siblings ho (before ++ [d]) (builtBefore ++ [(d.own parents fields).holding below])
      (by simp [hlen])
    simp only [List.append_assoc, List.singleton_append, List.length_append,
      List.length_singleton] at hrest
    -- the root stands at its own number, and what is nested in it at the positions below
    have hat : ∀ q, descriptor? (before ++ d :: rest)
        (builtBefore ++ (d.own parents fields).holding below :: others) (before.length :: q) =
          if q = [] then some ((d.own parents fields).holding below)
          else descriptor? d.nested below q := fun q =>
      descriptor?_cons (by simp) (by simp [hlen]) rfl (Message.inOrder_holding _ hb)
    have hwalk : (MessageDecl.walk 0 d.nested).map
        (descriptor? (before ++ d :: rest)
          (builtBefore ++ (d.own parents fields).holding below :: others) ∘ (before.length :: ·)) =
        (MessageDecl.walk 0 d.nested).map (descriptor? d.nested below) := by
      refine List.map_congr_left fun q hq => ?_
      rw [Function.comp_apply, hat, if_neg (MessageDecl.mem_walk.mp hq).ne_nil]
    rw [MessageDecl.walk_cons, List.map_append, ← hrest, List.map_map, MessageDecl.walkBelow_eq]
    cases hd : d.isItem with
    | true => rw [List.filter_cons_of_neg (by simp [hd])]; rfl
    | false =>
      rw [List.filter_cons_of_pos (by simp [hd]),
        Message.families, Message.family_eq, if_neg (by simp), List.map_cons, hwalk,
        Function.comp_apply, hat, if_pos rfl, List.map_append, List.map_cons]
      exact congrArg (_ :: · ++ _) hnested

theorem families_walk {lang : Language} {parents : List Message} {decls : List MessageDecl}
    {ms : List Message} (h : Message.ofLevel lang parents decls = .ok ms) :
    (Message.families (ms.filter (!·.isItem))).map some =
      (MessageDecl.walk 0 decls).map (descriptor? decls ms) :=
  families_walk_behind h [] [] rfl

end Stencil
