import Stencil.Proofs.Untyped

/-!
# Stencil.Proofs.FieldType

The type name of a field and its flags, against the declaration.

* `TypeOrigin`      — what the type name of one value of a field is taken from.
* `Language.Gives`  — the type name that a language has for one value, and its origin.
* `FieldDecl.Stray` — a field that bears the name of the timestamp message and is no message.

The type name goes by the wire type first, the flag of a timestamp by the declared name alone.
`timestamp_flag_unless_stray` says that they come apart in stray fields, and in no others.
-/

namespace Stencil

inductive TypeOrigin where
  | timestamp | message | scalar
deriving DecidableEq, Repr

inductive Language.Gives (lang : Language) (f : FieldDecl) : TypeOrigin → String → Prop where
  | timestamp (typed : f.wireType? = some .message) (refers : f.typeName = timestampTypeName) :
      Gives lang f .timestamp lang.timestampType
  | message (typed : f.wireType? = some .message) (other : f.typeName ≠ timestampTypeName) :
      Gives lang f .message (bareTypeName f.typeName)
  | scalar {type : WireType} {name : String} (typed : f.wireType? = some type)
      (entry : lang.scalar? type = some name) : Gives lang f .scalar name

def FieldDecl.Stray (f : FieldDecl) : Prop :=
  f.typeName = timestampTypeName ∧ f.wireType? ≠ some .message

variable {lang : Language} {f : FieldDecl}

/-! ## Type names -/

/-- Messages are in no lexicon. -/
theorem Language.ne_message_of_scalar? {type : WireType} {name : String}
    (h : lang.scalar? type = some name) : type ≠ .message := by
  rintro rfl
  cases lang <;> cases h

theorem Language.elementType_eq_ok {element : String} :
    lang.elementType f = .ok element ↔ ∃ origin, lang.Gives f origin element := by
  unfold elementType
  constructor
  · intro h
    split at h
    · rename_i typed
      cases h
      unfold messageType
      split
      · rename_i refers
        exact ⟨.timestamp, .timestamp typed refers⟩
      · rename_i other
        exact ⟨.message, .message typed other⟩
    · rename_i type _ typed
      split at h
      · rename_i name entry
        cases h
        exact ⟨.scalar, .scalar typed entry⟩
      · cases h
    · cases h
  · rintro ⟨origin, h⟩
    cases h with
    | timestamp typed refers => simp only [typed, messageType, if_pos refers]
    | message typed other => simp only [typed, messageType, if_neg other]
    | @scalar type _ typed entry =>
      have hne : type ≠ .message := ne_message_of_scalar? entry
      rw [typed]
      split
      · rename_i hmessage
        exact absurd (Option.some.inj hmessage) hne
      · rename_i htype
        rw [← Option.some.inj htype, entry]
      · rename_i hnone
        cases hnone

theorem Language.Gives.timestamp_iff {origin : TypeOrigin} {element : String}
    (h : lang.Gives f origin element) :
    origin = .timestamp ↔ f.wireType? = some .message ∧ f.typeName = timestampTypeName := by
  cases h with
  | timestamp typed refers => simp [typed, refers]
  | message _ other => simp [other]
  | scalar typed entry =>
    have hne := ne_message_of_scalar? entry
    simp [typed, hne]

theorem Language.fieldType_eq_ok {typeName : String} :
    lang.fieldType f = .ok typeName ↔
      ∃ origin element, lang.Gives f origin element ∧
        typeName = if f.isRepeated then lang.wrap element else element := by
  unfold fieldType
  constructor
  · intro h
    split at h
    · cases h
    · rename_i element he
      cases h
      obtain ⟨origin, hgives⟩ := elementType_eq_ok.mp he
      exact ⟨origin, element, hgives, rfl⟩
  · rintro ⟨origin, element, hgives, rfl⟩
    rw [elementType_eq_ok.mpr ⟨origin, hgives⟩]

/-! ## Flags -/

/-- A field is flagged as a timestamp just where its type name has that origin, unless the field is a
stray one: then it is flagged although it holds no message. A type name of that origin is the
timestamp type of the language, as a collection if the field is flagged as repeated. -/
theorem timestamp_flag_unless_stray {field : Field} (h : Field.ofDecl lang f = .ok field) :
    ∃ origin element, lang.Gives f origin element ∧
      field.typeName = (if field.isRepeated then lang.wrap element else element) ∧
      (origin = .timestamp ↔ field.isMessage = true ∧ f.typeName = timestampTypeName) ∧
      (origin = .timestamp → element = lang.timestampType) ∧
      ((field.isTimestamp = true ↔ origin = .timestamp) ↔ ¬ f.Stray) ∧
      ((field.isTimestamp = true → field.isMessage = true) ↔ ¬ f.Stray) := by
  obtain ⟨typeName, htype, rfl⟩ := Field.ofDecl_eq_ok.mp h
  obtain ⟨origin, element, hgives, rfl⟩ := Language.fieldType_eq_ok.mp htype
  have horigin := hgives.timestamp_iff
  refine ⟨origin, element, hgives, rfl, ?_, ?_, ?_, ?_⟩
  · simpa using horigin
  · rintro rfl
    cases hgives
    rfl
  · rw [horigin, FieldDecl.Stray]
    by_cases hname : f.typeName = timestampTypeName <;> simp [hname]
  · rw [FieldDecl.Stray]
    by_cases hname : f.typeName = timestampTypeName <;> simp [hname]

def seenField : FieldDecl :=
  { name? := some "seen", label? := some 3, type? := some 11, typeName? := some timestampTypeName }

theorem seen_flagged :
    ∃ field element, Field.ofDecl .go seenField = .ok field ∧ ¬ seenField.Stray ∧
      Language.go.Gives seenField .timestamp element ∧ field.typeName = "[]time.Time" ∧
      field.isTimestamp = true ∧ field.isMessage = true := by
  obtain ⟨field, hfield⟩ : ∃ field, Field.ofDecl .go seenField = .ok field := ⟨_, rfl⟩
  obtain ⟨origin, element, hgives, -, horigin, -, hflag, -⟩ := timestamp_flag_unless_stray hfield
  cases hfield
  have htimestamp : origin = .timestamp := horigin.mpr ⟨rfl, rfl⟩
  subst htimestamp
  exact ⟨_, element, rfl, hflag.mp (iff_of_true rfl rfl), hgives, by rfl, rfl, rfl⟩

/-- A text that bears the name of the timestamp message is flagged, and is typed as a text. -/
theorem stray_flagged :
    ∃ field, Field.ofDecl .typescript { seenField with label? := some 1, type? := some 9 } =
        .ok field ∧
      field.isTimestamp = true ∧ field.isMessage = false ∧ field.typeName = "string" :=
  ⟨_, rfl, rfl, rfl, rfl⟩

end Stencil
