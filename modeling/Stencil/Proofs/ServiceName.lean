import Mathlib.Data.List.Forall2
import Stencil.Model.Link

/-!
# Stencil.Proofs.ServiceName

The name of a service, against its declared name.

* `Text.InAnyCase` — a text that spells a word, each letter of it small or capital.
* `LessSuffix`     — what is left of a declared name without the suffix at its end.

The suffix is cut off by an offset in bytes and compared byte by byte. `Text.sameButCase_iff` brings
the comparison back to characters, and `service_suffix_dropped_once` says in characters what is
left: the bytes of a character never come apart.
-/

namespace Stencil

namespace Text

/-! ## Cuts -/

theorem isValid_between (front back : String) : front.rawEndPos.IsValid (front ++ back) :=
  String.Pos.Raw.isValid_rawEndPos.append_right back

theorem before?_append (front back : String) :
    before? (front ++ back) front.rawEndPos = some front := by
  have hvalid := isValid_between front back
  rw [before?, dif_pos hvalid]
  exact congrArg some ((String.Pos.splits ⟨_, hvalid⟩).eq_left ⟨rfl, rfl⟩)

theorem behind?_append (front back : String) :
    behind? (front ++ back) front.rawEndPos = some back := by
  have hvalid := isValid_between front back
  rw [behind?, dif_pos hvalid]
  exact congrArg some ((String.Pos.splits ⟨_, hvalid⟩).eq_right ⟨rfl, rfl⟩)

/-! ## Letters and their bytes -/

theorem data_toUTF8 (s : String) :
    s.toUTF8.data.toList = s.toList.flatMap String.utf8EncodeChar := by
  rw [String.toUTF8_eq_toByteArray, ← String.ofList_toList (s := s), String.toByteArray_ofList,
    String.ofList_toList, List.utf8Encode, List.data_toByteArray]

/-- No byte of a character outside ASCII is that of an ASCII letter. -/
theorem le_of_mem_utf8EncodeChar {c : Char} (hc : 127 < c.toNat) :
    ∀ b ∈ String.utf8EncodeChar c, 128 ≤ b.toNat := by
  have hlarge : ¬ c.val.toNat ≤ 0x7f := Nat.not_le.mpr hc
  rw [String.utf8EncodeChar, if_neg hlarge]
  split_ifs
  all_goals
    simp only [List.forall_mem_cons, UInt8.toNat_ofNat', List.not_mem_nil]
    grind

theorem lowerByte_of_le {b : UInt8} (hb : 128 ≤ b.toNat) : lowerByte b = b := by
  rw [lowerByte, if_neg]
  rintro ⟨-, hle⟩
  have hcapital : b.toNat ≤ 0x5A := UInt8.le_iff_toNat_le.mp hle
  omega

theorem toLower_of_lt {c : Char} (hc : 127 < c.toNat) : c.toLower = c := by
  refine dif_neg ?_
  rintro ⟨-, hle⟩
  have hcapital : c.toNat ≤ 90 := UInt32.le_iff_toNat_le.mp hle
  omega

theorem utf8EncodeChar_toLower (c : Char) :
    String.utf8EncodeChar c.toLower = (String.utf8EncodeChar c).map lowerByte := by
  by_cases hc : 127 < c.toNat
  · rw [toLower_of_lt hc, List.map_congr_left (g := id), List.map_id]
    intro b hb
    exact lowerByte_of_le (le_of_mem_utf8EncodeChar hc b hb)
  · -- the ASCII characters are few enough to look at each
    have hascii : ∀ n < 128, String.utf8EncodeChar (Char.ofNat n).toLower =
        (String.utf8EncodeChar (Char.ofNat n)).map lowerByte := by decide +kernel
    have hbytes := hascii c.toNat (by omega)
    rwa [Char.ofNat_toNat] at hbytes

theorem toList_toLower (s : String) : s.toLower.toList = s.toList.map Char.toLower :=
  String.toList_map

theorem map_lowerByte (s : String) : s.toUTF8.data.map lowerByte = s.toLower.toUTF8.data := by
  rw [← Array.toList_inj, Array.toList_map, data_toUTF8, data_toUTF8, toList_toLower,
    List.map_flatMap, List.flatMap_map]
  simp only [utf8EncodeChar_toLower]

theorem sameButCase_iff {s t : String} : sameButCase s t = true ↔ s.toLower = t.toLower := by
  rw [sameButCase, beq_iff_eq, map_lowerByte, map_lowerByte, ← String.toByteArray_inj,
    ByteArray.ext_iff]
  rfl

theorem size_eq_of_sameButCase {s t : String} (h : sameButCase s t = true) :
    s.utf8ByteSize = t.utf8ByteSize := by
  have hsize := congrArg Array.size (beq_iff_eq.mp h)
  rwa [Array.size_map, Array.size_map] at hsize

/-! ## Spelling in any case -/

theorem toLower_eq_iff {letter c : Char} (h : letter.isLower = true) :
    c.toLower = letter ↔ c = letter ∨ c = letter.toUpper := by
  have hletter : 'a'.val ≤ letter.val ∧ letter.val ≤ 'z'.val := by
    simpa using Bool.and_eq_true_iff.mp h
  delta Char.toLower Char.toUpper
  rw [dif_pos hletter]
  split
  · simp only [Char.ext_iff]
    grind
  · grind

/-- Each letter of the word, small or capital, and no other character. -/
def InAnyCase (word text : String) : Prop :=
  List.Forall₂ (fun letter c => c = letter ∨ c = letter.toUpper) word.toList text.toList

theorem map_toLower_eq_iff {letters : List Char} (h : ∀ letter ∈ letters, letter.isLower = true)
    {cs : List Char} : cs.map Char.toLower = letters ↔
      List.Forall₂ (fun letter c => c = letter ∨ c = letter.toUpper) letters cs := by
  induction letters generalizing cs with
  | nil => rw [List.map_eq_nil_iff, List.forall₂_nil_left_iff]
  | cons letter letters ih =>
    obtain ⟨hletter, hletters⟩ := List.forall_mem_cons.mp h
    cases cs with
    | nil => simp
    | cons c cs =>
      rw [List.map_cons, List.cons.injEq, List.forall₂_cons, toLower_eq_iff hletter, ih hletters]

/-- The word is one of small letters. -/
theorem sameButCase_iff_inAnyCase {word text : String}
    (h : ∀ letter ∈ word.toList, letter.isLower = true) :
    sameButCase text word = true ↔ InAnyCase word text := by
  have hword : word.toLower.toList = word.toList := by
    rw [toList_toLower, List.map_congr_left (g := id), List.map_id]
    exact fun letter hletter => (toLower_eq_iff (h letter hletter)).mpr (.inl rfl)
  rw [sameButCase_iff, ← String.toList_inj, hword, toList_toLower, map_toLower_eq_iff h, InAnyCase]

end Text

/-! ## The suffix -/

/-- The declared name goes on behind this with the suffix, and with nothing else. -/
structure LessSuffix (declared front : String) : Prop where
  proper : front ≠ ""
  spelled : ∃ last, declared = front ++ last ∧ Text.InAnyCase serviceSuffix last

theorem sameButCase_suffix {last : String} :
    Text.sameButCase last serviceSuffix = true ↔ Text.InAnyCase serviceSuffix last :=
  Text.sameButCase_iff_inAnyCase (List.all_eq_true.mp rfl)

theorem LessSuffix.serviceName? {declared front : String} (h : LessSuffix declared front) :
    serviceName? declared = some front := by
  obtain ⟨hproper, last, rfl, hspelled⟩ := h
  have hsame := sameButCase_suffix.mpr hspelled
  have hkept : (⟨(front ++ last).utf8ByteSize - serviceSuffix.utf8ByteSize⟩ : String.Pos.Raw) =
      front.rawEndPos := by
    rw [String.utf8ByteSize_append, Text.size_eq_of_sameButCase hsame, Nat.add_sub_cancel]
    rfl
  have hpositive : 0 < front.rawEndPos.byteIdx :=
    Nat.pos_of_ne_zero (mt String.utf8ByteSize_eq_zero_iff.mp hproper)
  have hvalid := String.Pos.Raw.isValid_eq_true_iff.mpr (Text.isValid_between front last)
  have hcut : (decide (0 < front.rawEndPos.byteIdx) && front.rawEndPos.isValid (front ++ last)) =
      true := Bool.and_eq_true_iff.mpr ⟨decide_eq_true hpositive, hvalid⟩
  rw [Stencil.serviceName?, hkept, if_pos hcut, Text.behind?_append, Text.before?_append]
  exact if_pos hsame

theorem serviceName?_eq_self {declared : String} (h : ∀ front, ¬ LessSuffix declared front) :
    serviceName? declared = some declared := by
  rw [serviceName?]
  -- wherever the cut goes, the suffix does not stand behind it
  generalize (⟨declared.utf8ByteSize - serviceSuffix.utf8ByteSize⟩ : String.Pos.Raw) = kept
  split
  · rename_i hcut
    obtain ⟨hpositive, hvalid⟩ := Bool.and_eq_true_iff.mp hcut
    obtain ⟨front, last, rfl, rfl⟩ :=
      String.Pos.Raw.isValid_iff_exists_append.mp (String.Pos.Raw.isValid_eq_true_iff.mp hvalid)
    have hproper : front ≠ "" := by
      rintro rfl
      exact absurd (of_decide_eq_true hpositive) (by decide)
    rw [Text.behind?_append]
    refine if_neg fun hsame => ?_
    exact h front ⟨hproper, last, rfl, sameButCase_suffix.mp hsame⟩
  · rfl

/-- A service is named as declared, less one suffix: where seven letters that spell `service`, small
or capital, stand at the end with something in front of them, that is the name, even if it ends in
the suffix again. Any other declared name stays. There always is a name, as no character is cut; the
declared name begins with it, and it is empty only if that one is. -/
theorem service_suffix_dropped_once (declared : String) :
    ∃ name, serviceName? declared = some name ∧ serviceName declared = name ∧
      (∀ front, LessSuffix declared front → name = front) ∧
      ((∀ front, ¬ LessSuffix declared front) → name = declared) ∧
      (∃ rest, declared = name ++ rest) ∧ (name = "" → declared = "") := by
  have hname : ∀ name, serviceName? declared = some name → serviceName declared = name :=
    fun name h => Option.get_of_eq_some _ h
  by_cases hsuffix : ∃ front, LessSuffix declared front
  · obtain ⟨front, hfront⟩ := hsuffix
    refine ⟨front, hfront.serviceName?, hname _ hfront.serviceName?, ?_, ?_, ?_, ?_⟩
    · exact fun other hother =>
        Option.some.inj (hfront.serviceName?.symm.trans hother.serviceName?)
    · exact fun hnone => absurd hfront (hnone front)
    · obtain ⟨last, hdeclared, -⟩ := hfront.spelled
      exact ⟨last, hdeclared⟩
    · exact fun hempty => absurd hempty hfront.proper
  · have hnone : ∀ front, ¬ LessSuffix declared front := fun front hfront => hsuffix ⟨front, hfront⟩
    refine ⟨declared, serviceName?_eq_self hnone, hname _ (serviceName?_eq_self hnone), ?_,
      fun _ => rfl, ⟨"", String.append_empty.symm⟩, id⟩
    exact fun front hfront => absurd hfront (hnone front)

/-- One suffix goes of two. In the second name the cut would go through its first character. -/
example : serviceName "ShopServiceSERVICE" = "ShopService" ∧ serviceName "äervice" = "äervice" := by
  decide +kernel

end Stencil
