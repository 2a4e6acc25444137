import Stencil.Text.Blank
import Stencil.Text.Pieces

/-!
# Stencil.Proofs.Pieces

The cutting and trimming of texts, by the list library.

* `Text.splitOn_eq`       — the pieces between marks; `Text.splitOn_append` cuts at one of them.
* `Text.cut_eq`           — what stands around the first mark.
* `Text.afterLast_append` — what stands behind the last.
* `Text.replaceFirst_append` — a part of a text replaced, whatever is put in its place.
* `Text.Tidy`, `Text.Blanks` — texts without blanks at their ends, and texts of blanks alone;
  `Text.trim_padded` trims the one with the other around it. What is trimmed is tidy unless nothing
  is left (`Text.trim_tidy`), as it is of blanks alone (`Text.trim_eq_empty_iff`).
-/

namespace Stencil

theorem Text.splitOn_eq (mark : Char) (cs : List Char) :
    Text.splitOn mark cs = cs.splitOn mark := by
  induction cs with
  | nil => rfl
  | cons c rest ih =>
    rw [Text.splitOn, List.splitOn_cons_eq_if_modifyHead, ih]
    by_cases hc : c = mark
    · simp [hc]
    · cases hrest : rest.splitOn mark with
      | nil => exact absurd hrest (List.splitOn_ne_nil mark rest)
      | cons piece pieces => simp [hc]

theorem Text.splitOn_append (mark : Char) (before after : List Char) :
    Text.splitOn mark (before ++ mark :: after) =
      Text.splitOn mark before ++ Text.splitOn mark after := by
  simp only [Text.splitOn_eq, List.splitOn_append_cons_self]

theorem Text.cut_eq (mark : Char) (cs : List Char) :
    Text.cut mark cs =
      if mark ∈ cs then some (cs.takeWhile (· ≠ mark), (cs.dropWhile (· ≠ mark)).tail)
      else none := by
  induction cs with
  | nil => rfl
  | cons c rest ih =>
    by_cases hc : c = mark
    · simp [Text.cut, hc]
    · simp only [Text.cut, if_neg hc, ih, List.mem_cons, Ne.symm hc, false_or]
      by_cases hm : mark ∈ rest <;> simp [hm, hc]

theorem Text.afterLast_append {mark : Char} (before : List Char) {after : List Char}
    (h : mark ∉ after) : Text.afterLast mark (before ++ mark :: after) = after := by
  rw [Text.afterLast, Text.splitOn_append, Text.splitOn_eq mark after,
    List.splitOn_eq_singleton h, List.getLastD_concat]

/-- The part begins with the mark, and so nowhere before it. -/
theorem Text.replaceFirst_append {mark : Char} {before : List Char} (h : mark ∉ before)
    (part new after : List Char) :
    Text.replaceFirst (mark :: part) new (before ++ mark :: part ++ after) =
      before ++ new ++ after := by
  induction before with
  | nil =>
    have hfound : (mark :: part).isPrefixOf (mark :: (part ++ after)) = true :=
      List.isPrefixOf_iff_prefix.mpr (List.prefix_append (mark :: part) after)
    rw [List.nil_append, List.cons_append, Text.replaceFirst, if_pos hfound, List.length_cons,
      List.drop_succ_cons, List.drop_left, List.nil_append]
  | cons c before ih =>
    obtain ⟨hc, hbefore⟩ := not_or.mp (mt List.mem_cons.mpr h)
    have hother : ¬ (mark :: part).isPrefixOf (c :: (before ++ mark :: part ++ after)) = true := by
      simp [hc]
    rw [List.cons_append, List.cons_append, Text.replaceFirst, if_neg hother, ih hbefore]
    rfl

/-! ## Trimming -/

namespace Text

/-- Trimming stops at the first character that is no blank. -/
theorem trimLeft_append_cons (before : List Char) {c : Char} (h : isBlank c = false)
    (after : List Char) : trimLeft (before ++ c :: after) = trimLeft before ++ c :: after := by
  have hc : (c :: after).dropWhile isBlank = c :: after :=
    List.dropWhile_cons_of_neg (by simp [h])
  rw [trimLeft, List.dropWhile_append, hc, trimLeft]
  split
  · rename_i hnil
    rw [List.isEmpty_iff.mp hnil, List.nil_append]
  · rfl

theorem trimRight_append_cons (before : List Char) {c : Char} (h : isBlank c = false)
    (after : List Char) : trimRight (before ++ c :: after) = before ++ c :: trimRight after := by
  have hreverse : (before ++ c :: after).reverse = after.reverse ++ c :: before.reverse := by simp
  have hleft := trimLeft_append_cons after.reverse h before.reverse
  rw [trimLeft] at hleft
  rw [trimRight, hreverse, hleft]
  simp [trimRight, trimLeft]

/-- A text with something in it and no blank at its ends. -/
structure Tidy (s : String) : Prop where
  nonempty : s ≠ ""
  first : s.toList.head?.any isBlank = false
  last : s.toList.getLast?.any isBlank = false

instance (s : String) : Decidable (Tidy s) :=
  decidable_of_iff (s ≠ "" ∧ s.toList.head?.any isBlank = false ∧
      s.toList.getLast?.any isBlank = false)
    ⟨fun ⟨nonempty, first, last⟩ => ⟨nonempty, first, last⟩,
      fun h => ⟨h.nonempty, h.first, h.last⟩⟩

/-- A text of blanks alone. -/
structure Blanks where
  text : String
  blank : text.toList.all isBlank = true

def Blanks.empty : Blanks := ⟨"", rfl⟩

theorem Blanks.notMem (b : Blanks) {c : Char} (h : isBlank c = false) : c ∉ b.text.toList := by
  intro hc
  rw [List.all_eq_true.mp b.blank c hc] at h
  cases h

theorem Tidy.toList_ne_nil {s : String} (h : Tidy s) : s.toList ≠ [] :=
  fun hnil => h.nonempty (String.toList_eq_nil_iff.mp hnil)

theorem Tidy.exists_cons {s : String} (h : Tidy s) :
    ∃ c rest, s.toList = c :: rest ∧ isBlank c = false := by
  obtain ⟨c, rest, hlist⟩ := List.exists_cons_of_ne_nil h.toList_ne_nil
  have hfirst := h.first
  rw [hlist] at hfirst
  exact ⟨c, rest, hlist, hfirst⟩

theorem Tidy.exists_concat {s : String} (h : Tidy s) :
    ∃ rest c, s.toList = rest ++ [c] ∧ isBlank c = false := by
  obtain hnil | ⟨rest, c, hlist⟩ := List.eq_nil_or_concat s.toList
  · exact absurd hnil h.toList_ne_nil
  · rw [List.concat_eq_append] at hlist
    have hlast := h.last
    rw [hlist, List.getLast?_concat] at hlast
    exact ⟨rest, c, hlist, hlast⟩

theorem Tidy.around {s t : String} (hs : Tidy s) (ht : Tidy t) (between : String) :
    Tidy (s ++ between ++ t) := by
  obtain ⟨first, rest, hfirst, hfirstBlank⟩ := hs.exists_cons
  obtain ⟨front, last, hlast, hlastBlank⟩ := ht.exists_concat
  have hlist : (s ++ between ++ t).toList =
      first :: (rest ++ between.toList ++ front) ++ [last] := by simp [hfirst, hlast]
  constructor
  · intro hempty
    rw [hempty] at hlist
    cases hlist
  · rw [hlist]
    exact hfirstBlank
  · rw [hlist, List.getLast?_concat]
    exact hlastBlank

theorem Tidy.trimLeft_append {s : String} (h : Tidy s) (after : List Char) :
    trimLeft (s.toList ++ after) = s.toList ++ after := by
  obtain ⟨c, rest, hlist, hc⟩ := h.exists_cons
  rw [hlist]
  exact trimLeft_append_cons [] hc (rest ++ after)

theorem Tidy.trimRight_append {s : String} (h : Tidy s) (before : List Char) :
    trimRight (before ++ s.toList) = before ++ s.toList := by
  obtain ⟨rest, c, hlist, hc⟩ := h.exists_concat
  rw [hlist, ← List.append_assoc]
  exact trimRight_append_cons (before ++ rest) hc []

theorem trimLeft_blanks (b : Blanks) (after : List Char) :
    trimLeft (b.text.toList ++ after) = trimLeft after :=
  List.dropWhile_append_of_pos (List.all_eq_true.mp b.blank)

theorem trimRight_blanks (b : Blanks) (before : List Char) :
    trimRight (before ++ b.text.toList) = trimRight before := by
  have hblank : ∀ c ∈ b.text.toList.reverse, isBlank c = true :=
    fun c hc => List.all_eq_true.mp b.blank c (List.mem_reverse.mp hc)
  rw [trimRight, List.reverse_append, List.dropWhile_append_of_pos hblank, trimRight]

theorem trim_padded {s : String} (h : Tidy s) (before after : Blanks) :
    trim (before.text ++ s ++ after.text) = s := by
  have hright := h.trimRight_append []
  rw [List.nil_append] at hright
  rw [trim, String.toList_append, String.toList_append, List.append_assoc, trimLeft_blanks,
    h.trimLeft_append, trimRight_blanks, hright, String.ofList_toList]

theorem trim_append_blanks {s : String} (h : Tidy s) (b : Blanks) : trim (s ++ b.text) = s := by
  have hpadded := trim_padded h Blanks.empty b
  rwa [Blanks.empty, String.empty_append] at hpadded

theorem trim_blanks_append {s : String} (h : Tidy s) (b : Blanks) : trim (b.text ++ s) = s := by
  have hpadded := trim_padded h b Blanks.empty
  rwa [Blanks.empty, String.append_empty] at hpadded

theorem trim_blanks (b : Blanks) : trim b.text = "" := by
  have hleft := trimLeft_blanks b []
  rw [List.append_nil] at hleft
  rw [trim, hleft]
  rfl

theorem trim_eq_empty_iff (s : String) : trim s = "" ↔ s.toList.all isBlank = true := by
  constructor
  · intro h
    rw [List.all_eq_true]
    intro c hc
    cases hblank : isBlank c with
    | true => rfl
    | false =>
      obtain ⟨before, after, hsplit⟩ := List.append_of_mem hc
      rw [trim, hsplit, trimLeft_append_cons before hblank, trimRight_append_cons _ hblank] at h
      simp at h
  · intro h
    exact trim_blanks ⟨s, h⟩

theorem head?_trimLeft (cs : List Char) : (trimLeft cs).head?.any isBlank = false := by
  have h := List.head?_dropWhile_not isBlank cs
  rw [trimLeft]
  cases hhead : (cs.dropWhile isBlank).head? with
  | none => rfl
  | some c =>
    rw [hhead] at h
    exact h

theorem getLast?_trimRight (cs : List Char) : (trimRight cs).getLast?.any isBlank = false := by
  rw [trimRight, List.getLast?_reverse]
  exact head?_trimLeft cs.reverse

theorem trimRight_prefix (cs : List Char) : trimRight cs <+: cs := by
  rw [trimRight, ← List.reverse_suffix, List.reverse_reverse]
  exact List.dropWhile_suffix isBlank

theorem trim_tidy {s : String} (h : trim s ≠ "") : Tidy (trim s) := by
  refine ⟨h, ?_, ?_⟩
  · obtain ⟨tail, htail⟩ := trimRight_prefix (trimLeft s.toList)
    have hfirst := head?_trimLeft s.toList
    rw [trim, String.toList_ofList]
    cases hlist : trimRight (trimLeft s.toList) with
    | nil => rfl
    | cons c rest =>
      rw [← htail, hlist] at hfirst
      exact hfirst
  · rw [trim, String.toList_ofList]
    exact getLast?_trimRight (trimLeft s.toList)

end Text

end Stencil
