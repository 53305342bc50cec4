import PoolConsole.Pool.Template
import PoolConsole.Proofs.NullMembers

namespace PoolConsole

open Json (NullAdded Replaced)

namespace Reply

variable {α : Type} {what : String} {read? : Json → Option α} {j j' : Json} {e : PoolError}

theorem read_eq_error_iff :
    read what read? j = .error e ↔ read? j = none ∧ shapeError what = e := by
  unfold read
  cases read? j <;> simp

theorem decode_eq (what : String) (read? : Json → Option α) (j : Json) :
    decode what read? j = match refusal? j with
      | some text => .error (.backend text)
      | none => read what read? j := by
  unfold decode check
  cases refusal? j <;> rfl

theorem decode_congr (refusal : refusal? j' = refusal? j) (same : read? j' = read? j) :
    decode what read? j' = decode what read? j := by
  simp only [decode_eq, refusal, read, same]

theorem decode_of_unread (unread : read? j = none) : ∃ e, decode what read? j = .error e := by
  rw [decode_eq]
  cases refusal? j with
  | some text => exact ⟨_, rfl⟩
  | none => exact ⟨_, read_eq_error_iff.mpr ⟨unread, rfl⟩⟩

/-- What fails for the same refusal, or for its shape, fails in the same way. -/
theorem decode_eq_of_error (refusal : refusal? j' = refusal? j) (unread : read? j' = none)
    (failed : decode what read? j = .error e) : decode what read? j' = decode what read? j := by
  cases refused : refusal? j with
  | some text => simp only [decode_eq, refusal, refused]
  | none =>
    simp only [decode_eq, refused, read_eq_error_iff] at failed
    exact decode_congr refusal (unread.trans failed.1.symm)

end Reply

variable {name : String} {untold told : List (String × Json)}

namespace TemplateSchema

theorem ofJson?_told (added : NullAdded name untold told) :
    ofJson? (.object told) = ofJson? (.object untold) := by
  have properties :=
    added.field_eq "properties" (Json.nullOr? ∅ Members.ofJson?) ∅ fun _ => rfl
  have required :=
    added.field_eq "required" (Json.nullOr? [] (Json.asList? Json.asString?)) [] fun _ => rfl
  simp only [ofJson?, Json.fields?, Option.bind_eq_bind, Option.bind_some, properties, required]

end TemplateSchema

namespace TemplateMetadata

theorem ofJson?_told (added : NullAdded name untold told) (tolerated : name ≠ "sources") :
    ofJson? (.object told) = ofJson? (.object untold) := by
  have text (field : String) :=
    added.field_eq field (Json.asOption? Json.asString?) none fun _ => rfl
  have sources :=
    added.field_eq "sources" (Json.asList? Json.asString?) [] fun same => absurd same.symm tolerated
  simp only [ofJson?, Json.fields?, Option.bind_eq_bind, Option.bind_some, text, sources]

/-- Null is no list of sources. -/
theorem ofJson?_sources (null : told.lookup "sources" = some .null) :
    ofJson? (.object told) = none := by
  have sources : Json.field (told.lookup ·) "sources" (Json.asList? Json.asString?) [] = none := by
    simp only [Json.field, null, Json.asList?]
  simp only [ofJson?, Json.fields?, Option.bind_eq_bind, Option.bind_some, sources,
    Option.bind_none, Option.bind_fun_none]

end TemplateMetadata

namespace TemplateDefinition

inductive Record where
  | definition
  | schema
  | metadata

/-- The second payload is the first one with a null more, under a new name in one of its records. -/
inductive TellsNull (name : String) :
    Record → List (String × Json) → List (String × Json) → Prop
  | definition {untold told : List (String × Json)} : NullAdded name untold told →
      TellsNull name .definition untold told
  | schema {inner inner' untold told : List (String × Json)} : NullAdded name inner inner' →
      Replaced "schema" (.object inner) (.object inner') untold told →
      TellsNull name .schema untold told
  | metadata {inner inner' untold told : List (String × Json)} : NullAdded name inner inner' →
      Replaced "metadata" (.object inner) (.object inner') untold told →
      TellsNull name .metadata untold told

def decode (members : List (String × Json)) : Outcome TemplateDefinition :=
  Reply.decode "a template" ofJson? (.object members)

/-- A definition is read by its three fields. -/
theorem ofJson?_congr
    (values : Json.field (told.lookup ·) "values" (Json.nullOr? ∅ Members.ofJson?) ∅ =
      Json.field (untold.lookup ·) "values" (Json.nullOr? ∅ Members.ofJson?) ∅)
    (schema : Json.field (told.lookup ·) "schema" (Json.nullOr? {} TemplateSchema.ofJson?) {} =
      Json.field (untold.lookup ·) "schema" (Json.nullOr? {} TemplateSchema.ofJson?) {})
    (metadata :
      Json.field (told.lookup ·) "metadata" (Json.nullOr? {} TemplateMetadata.ofJson?) {} =
        Json.field (untold.lookup ·) "metadata" (Json.nullOr? {} TemplateMetadata.ofJson?) {}) :
    ofJson? (.object told) = ofJson? (.object untold) := by
  simp only [ofJson?, Json.fields?, Option.bind_eq_bind, Option.bind_some, values, schema, metadata]

namespace TellsNull

variable {record : Record}

theorem refusal?_eq (tells : TellsNull name record untold told) :
    Reply.refusal? (.object told) = Reply.refusal? (.object untold) := by
  cases tells with
  | definition added => exact added.refusal?_eq
  | schema _ replaced => exact replaced.refusal?_eq (by decide)
  | metadata _ replaced => exact replaced.refusal?_eq (by decide)

/-- The three records are read as before, unless it is the sources that are told as null. -/
theorem ofJson?_eq (tells : TellsNull name record untold told)
    (tolerated : ¬ (record = .metadata ∧ name = "sources")) :
    ofJson? (.object told) = ofJson? (.object untold) := by
  cases tells with
  | definition added =>
    apply ofJson?_congr
    · exact added.field_eq _ _ _ fun _ => rfl
    · exact added.field_eq _ _ _ fun _ => rfl
    · exact added.field_eq _ _ _ fun _ => rfl
  | schema added replaced =>
    apply ofJson?_congr
    · exact replaced.field_eq _ _ _ nofun
    · exact replaced.field_eq _ _ _ fun _ => TemplateSchema.ofJson?_told added
    · exact replaced.field_eq _ _ _ nofun
  | metadata added replaced =>
    have others : name ≠ "sources" := fun same => tolerated ⟨rfl, same⟩
    apply ofJson?_congr
    · exact replaced.field_eq _ _ _ nofun
    · exact replaced.field_eq _ _ _ nofun
    · exact replaced.field_eq _ _ _ fun _ => TemplateMetadata.ofJson?_told added others

theorem ofJson?_sources (tells : TellsNull "sources" .metadata untold told) :
    ofJson? (.object told) = none := by
  cases tells with
  | metadata added replaced =>
    have metadata :
        Json.field (told.lookup ·) "metadata" (Json.nullOr? {} TemplateMetadata.ofJson?) {} =
        none := by
      simp only [Json.field, replaced.lookup_told, Json.nullOr?]
      exact TemplateMetadata.ofJson?_sources added.lookup_told
    simp only [ofJson?, Json.fields?, Option.bind_eq_bind, Option.bind_some, metadata,
      Option.bind_none, Option.bind_fun_none]

end TellsNull

end TemplateDefinition

open TemplateDefinition

/-- A null in place of nothing changes nothing, nor does nothing in place of a null, save in the
list of sources, where a null makes the whole template unreadable. -/
theorem template_nulls {record : Record} (tells : TellsNull name record untold told) :
    (¬ (record = .metadata ∧ name = "sources") → decode told = decode untold) ∧
    (record = .metadata ∧ name = "sources" →
      (∃ e, decode told = .error e) ∧
      (decode told = decode untold ↔ ∃ e, decode untold = .error e)) := by
  constructor
  · intro tolerated
    exact Reply.decode_congr tells.refusal?_eq (tells.ofJson?_eq tolerated)
  · rintro ⟨rfl, rfl⟩
    have unread := tells.ofJson?_sources
    have failed : ∃ e, decode told = .error e := Reply.decode_of_unread unread
    refine ⟨failed, fun same => same ▸ failed, ?_⟩
    rintro ⟨e, untoldFailed⟩
    exact Reply.decode_eq_of_error tells.refusal?_eq unread untoldFailed

/-- The metadata of a template with a name alone, and with a null for its sources. -/
theorem sources_told_null :
    let untold : List (String × Json) := [("metadata", .object [("name", .string "a")])]
    let told : List (String × Json) :=
      [("metadata", .object [("name", .string "a"), ("sources", .null)])]
    TellsNull "sources" .metadata untold told ∧ (∃ d, decode untold = .ok d) ∧
      ∃ e, decode told = .error e := by
  intro untold told
  have tells : TellsNull "sources" .metadata untold told :=
    .metadata (.intro [("name", .string "a")] [] (by simp)) (.intro [] [] (by simp))
  exact ⟨tells, ⟨_, rfl⟩, ((template_nulls tells).2 ⟨rfl, rfl⟩).1⟩

/-- A null in place of nothing can make a template unreadable. -/
theorem not_nullsTolerated :
    ¬ ∀ (name : String) (record : Record) (untold told : List (String × Json)),
      TellsNull name record untold told → ∀ d, decode told = .ok d ↔ decode untold = .ok d := by
  intro all
  have tells : TellsNull "sources" .metadata [("metadata", .object [])]
      [("metadata", .object [("sources", .null)])] :=
    .metadata (.intro [] [] (by simp)) (.intro [] [] (by simp))
  obtain ⟨e, failed⟩ : ∃ e, decode [("metadata", .object [("sources", .null)])] = .error e :=
    Reply.decode_of_unread tells.ofJson?_sources
  have read : decode [("metadata", .object [])] = .ok {} := rfl
  rw [← all _ _ _ _ tells, failed] at read
  cases read

end PoolConsole
