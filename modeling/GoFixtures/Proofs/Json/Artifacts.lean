import GoFixtures.Fixture.FixtureFile
import GoFixtures.Model.Artifact
import GoFixtures.Proofs.Json.Documents
import GoFixtures.Proofs.Library.Standard
import GoFixtures.Proofs.Outcome

/-!
# The round trip through an artifact

Documented libraries take what they write of a model for that model again, and what they write is a value
without numbers that names each member once. A whole model therefore comes back from its artifact as it was,
each catalogue in its order.

* `Libraries.Returns`: data that are written and taken back; one lemma for each way in which data are put
  together.
* `TypeRef.returns_toDatum`: the references, by induction on their nesting.
* `TypeModel.returns_toDatum`: the model.
* `TypeModel.ofDatum?_toDatum`: the data of a model are that model.
* `TypeModel.serialize_roundTrip`: the artifact.
-/

namespace GoFixtures

open Json

/-! ### Data that come back -/

/-- Whether the attributes of a class are written under the keys under which they are looked for. -/
structure DataClass.IsPlain (c : DataClass) : Prop where
  names : c.attributes.map Attribute.name = c.attributes.map Attribute.key
  nodup : (c.attributes.map Attribute.key).Nodup

namespace Libraries

variable [Libraries] {limit : ℕ∞} {shape : Shape} {item : Datum} {items values : List Datum} {c : DataClass}

/-- Data that the libraries write and take back. -/
structure Returns (shape : Shape) (item : Datum) : Prop where
  valid : validate shape (ofJson (dump item)) = .ok item
  textual : Textual (dump item)

namespace Documented

variable (h : Documented limit)

include h

/-- A text comes back. -/
theorem returns_text (s : String) : Returns .text (.ofString s) := by
  constructor <;> rw [h.dump_text]
  · exact h.validate_text s
  · exact .string s

theorem returns_literal (word : String) : Returns (.literal word) (.ofString word) := by
  constructor <;> rw [h.dump_text]
  · exact h.validate_literal word
  · exact .string word

/-- Where something may be missing, nothing comes back. -/
theorem returns_nothing (shape : Shape) : Returns (.nullable shape) .nothing := by
  constructor <;> rw [h.dump_nothing]
  · exact h.validate_null shape
  · exact .null

theorem returns_someText (s : String) : Returns (.nullable .text) (.ofString s) := by
  constructor <;> rw [h.dump_text]
  · exact h.validate_some nofun (h.validate_text s)
  · exact .string s

/-- A list comes back item by item. -/
theorem returns_list (hitems : ∀ d ∈ items, Returns shape d) (hlimit : ((Datum.list items).depth : ℕ∞) ≤ limit) :
    Returns (.list shape) (.list items) := by
  constructor <;> rw [h.dump_list hlimit]
  · refine h.validate_list ?_ hlimit
    rw [List.forall₂_map_left_iff, List.forall₂_same]
    exact fun d hd => (hitems d hd).valid
  · refine .array fun j hj => ?_
    obtain ⟨d, hd, rfl⟩ := List.mem_map.1 hj
    exact (hitems d hd).textual

/-- The values of an object under the keys of its attributes. -/
theorem returns_object (hplain : c.IsPlain)
    (hvalues : List.Forall₂ (fun a d => Returns a.shape d) c.attributes values)
    (hlimit : ((Datum.object c values).depth : ℕ∞) ≤ limit) : Returns (.object c) (.object c values) := by
  have hlength := hvalues.length_eq
  have hkeys : Entries.keys ((c.attributes.map Attribute.key).zip (values.map dump)) =
      c.attributes.map Attribute.key :=
    List.map_fst_zip (by simp [hlength])
  have hnodup : (Entries.keys ((c.attributes.map Attribute.key).zip (values.map dump))).Nodup := by
    rw [hkeys]
    exact hplain.nodup
  constructor <;> rw [h.dump_object hlength.symm hlimit, hplain.names]
  · refine h.validate_object hnodup (fun m hm => ?_) ?_ hlimit
    · obtain ⟨a, ha, hname⟩ := List.mem_map.1 (List.of_mem_zip hm).1
      exact ⟨a, ha, hname⟩
    · clear hkeys hlimit hlength hnodup
      generalize c.attributes = attributes at hvalues
      induction hvalues with
      | nil => exact .nil
      | cons ha _ ih =>
        refine .cons ⟨_, List.mem_cons_self, ha.valid⟩ (ih.imp fun a d hd => ?_)
        obtain ⟨j, hj, hd⟩ := hd
        exact ⟨j, List.mem_cons_of_mem _ hj, hd⟩
  · refine .object hnodup fun m hm => ?_
    obtain ⟨d, hd, hm⟩ := List.mem_map.1 (List.of_mem_zip hm).2
    obtain ⟨a, -, hreturns⟩ := exists_left_of_forall₂ hvalues hd
    exact hm ▸ hreturns.textual

/-- A catalogue comes back in its order if its values do. -/
theorem returns_catalogue {α : Type} {f : α → Datum} {c : Catalogue α}
    (hvalues : ∀ e ∈ c.entries, Returns shape (f e.2))
    (hlimit : ((c.toDatum f).depth : ℕ∞) ≤ limit) : Returns (.dictionary shape) (c.toDatum f) := by
  have hitem : c.toDatum f = .dictionaryOf (c.entries.map fun e => (e.1, f e.2)) := by
    simp only [Catalogue.toDatum, Datum.dictionaryOf, List.map_map, Function.comp_def]
  have hkeys : Entries.keys (c.entries.map fun e => (e.1, f e.2)) = c.entries.keys := by
    simp only [Entries.keys, List.map_map, Function.comp_def]
  have hwritten : Entries.keys (c.entries.map fun e => (e.1, dump (f e.2))) = c.entries.keys := by
    simp only [Entries.keys, List.map_map, Function.comp_def]
  rw [hitem] at hlimit ⊢
  constructor <;> rw [h.dump_dictionary (hkeys ▸ c.nodup) hlimit, List.map_map]
  · refine h.validate_dictionary (hwritten ▸ c.nodup) ?_ hlimit
    rw [List.forall₂_map_left_iff, List.forall₂_map_right_iff, List.forall₂_same]
    exact fun e he => ⟨rfl, (hvalues e he).valid⟩
  · refine .object (hwritten ▸ c.nodup) fun m hm => ?_
    obtain ⟨e, he, rfl⟩ := List.mem_map.1 hm
    exact (hvalues e he).textual

/-- A reference is of the class that its word tells. -/
theorem returns_typeRef {word : String} {a : Attribute} (hc : c ∈ DataClass.typeRefs)
    (hattributes : c.attributes = [.kind word, a]) (hplain : c.IsPlain) (hvalue : Returns a.shape item)
    (hlimit : ((Datum.object c [.ofString word, item]).depth : ℕ∞) ≤ limit) :
    Returns .typeRef (.object c [.ofString word, item]) := by
  have hobject : Returns (.object c) (.object c [.ofString word, item]) := by
    refine h.returns_object hplain ?_ hlimit
    rw [hattributes]
    exact .cons (h.returns_literal word) (.cons hvalue .nil)
  have hdump : dump (.object c [.ofString word, item]) =
      .object [("kind", .string word), (a.name, dump item)] := by
    rw [h.dump_object (by rw [hattributes]; rfl) hlimit, hattributes, ← h.dump_text word]
    rfl
  have hnodup : (Entries.keys [("kind", Json.string word), (a.name, dump item)]).Nodup := by
    have hkeys := hplain.nodup
    rw [← hplain.names, hattributes] at hkeys
    exact hkeys
  have htag : c.tag? = some word := by
    rw [DataClass.tag?, hattributes]
    rfl
  have htold : ∀ c ∈ DataClass.typeRefs, ∀ c' ∈ DataClass.typeRefs, c'.tag? = c.tag? → c' = c := by decide
  have hvalid := hobject.valid
  refine ⟨?_, hobject.textual⟩
  rw [hdump] at hvalid ⊢
  exact h.validate_tagged hnodup List.mem_cons_self hc htag (fun c' hc' hword =>
    htold c hc c' hc' (hword.trans htag.symm)) hvalid

end Documented

end Libraries

/-! ### The parts of a model -/

/-- The classes of a model have no keys other than the names of their attributes. -/
theorem DataClass.IsPlain.of_model {c : DataClass} (h : c ≠ .externalTypeEntry) (h' : c ≠ .generatorConfig) :
    c.IsPlain := by
  cases c <;> first | contradiction | exact ⟨rfl, by decide⟩

/-- The values of a catalogue are nested less deep than the catalogue. -/
theorem Catalogue.depth_le_of_mem {α : Type} {f : α → Datum} {c : Catalogue α} {limit : ℕ∞} {e : String × α}
    (hlimit : ((c.toDatum f).depth : ℕ∞) ≤ limit) (he : e ∈ c.entries) : ((f e.2).depth : ℕ∞) ≤ limit :=
  Datum.depth_le_of_mem_dictionary hlimit (List.mem_map_of_mem (f := fun e => (Text.codesOf e.1, f e.2)) he)

open Libraries

section

variable [Libraries] {limit : ℕ∞} (h : Documented limit)

include h

/-- **References come back**, however deep they are nested. -/
theorem TypeRef.returns_toDatum (t : TypeRef) (hlimit : (t.toDatum.depth : ℕ∞) ≤ limit) :
    Returns .typeRef t.toDatum := by
  have hplain : ∀ c ∈ DataClass.typeRefs, c.IsPlain := by
    intro c hc
    refine .of_model ?_ ?_ <;> rintro rfl <;> exact absurd hc (by decide)
  induction t with
  | pointer e ih | sequence e ih =>
    rw [toDatum] at hlimit ⊢
    refine h.returns_typeRef (by decide) rfl (hplain _ (by decide)) (ih ?_) hlimit
    exact Datum.depth_le_of_mem_object hlimit (by simp)
  | _ => exact h.returns_typeRef (by decide) rfl (hplain _ (by decide)) (h.returns_text _) hlimit

theorem Field.returns_toDatum (f : Field) (hlimit : (f.toDatum.depth : ℕ∞) ≤ limit) :
    Returns (.object .field) f.toDatum := by
  have htype := TypeRef.returns_toDatum h f.type (Datum.depth_le_of_mem_object hlimit (by simp))
  exact h.returns_object (.of_model (by decide) (by decide)) (.cons (h.returns_text _) (.cons htype .nil)) hlimit

/-- A record comes back with its fields. -/
theorem Record.returns_toDatum (r : Record) (hlimit : (r.toDatum.depth : ℕ∞) ≤ limit) :
    Returns (.object .record) r.toDatum := by
  have hfields : ((Datum.list (r.fields.map Field.toDatum)).depth : ℕ∞) ≤ limit :=
    Datum.depth_le_of_mem_object hlimit (by simp)
  have hlist : Returns (.list (.object .field)) (.list (r.fields.map Field.toDatum)) := by
    refine h.returns_list (fun d hd => ?_) hfields
    obtain ⟨f, -, rfl⟩ := List.mem_map.1 hd
    exact Field.returns_toDatum h f (Datum.depth_le_of_mem_list hfields hd)
  exact h.returns_object (.of_model (by decide) (by decide)) (.cons (h.returns_text _) (.cons hlist .nil)) hlimit

theorem Enumeration.returns_toDatum (e : Enumeration) (hlimit : (e.toDatum.depth : ℕ∞) ≤ limit) :
    Returns (.object .enumeration) e.toDatum := by
  have hlist : Returns (.list .text) (.list (e.values.map .ofString)) := by
    refine h.returns_list (fun d hd => ?_) (Datum.depth_le_of_mem_object hlimit (by simp))
    obtain ⟨v, -, rfl⟩ := List.mem_map.1 hd
    exact h.returns_text v
  exact h.returns_object (.of_model (by decide) (by decide)) (.cons (h.returns_text _) (.cons hlist .nil)) hlimit

theorem Alias.returns_toDatum (a : Alias) (hlimit : (a.toDatum.depth : ℕ∞) ≤ limit) :
    Returns (.object .typeAlias) a.toDatum := by
  have hunderlying : Returns (.object .primitiveRef) (TypeRef.primitive a.underlying).toDatum :=
    h.returns_object (.of_model (by decide) (by decide))
      (.cons (h.returns_literal _) (.cons (h.returns_text _) .nil))
      (Datum.depth_le_of_mem_object hlimit (List.mem_cons_of_mem _ List.mem_cons_self))
  exact h.returns_object (.of_model (by decide) (by decide))
    (.cons (h.returns_text _) (.cons hunderlying .nil)) hlimit

/-- A member comes back, and so does a missing one. -/
theorem TypeModel.returns_memberToDatum (member : Option String) :
    Returns (.nullable .text) (memberToDatum member) := by
  cases member with
  | none => exact h.returns_nothing _
  | some name => exact h.returns_someText name

/-- **Models come back.** -/
theorem TypeModel.returns_toDatum (m : TypeModel) (hlimit : (m.toDatum.depth : ℕ∞) ≤ limit) :
    Returns (.object .typeModel) m.toDatum := by
  have hpart : ∀ d ∈ [m.records.toDatum Record.toDatum, m.enumerations.toDatum Enumeration.toDatum,
      m.aliases.toDatum Alias.toDatum, m.sumTypes.toDatum memberToDatum], (d.depth : ℕ∞) ≤ limit :=
    fun d hd => Datum.depth_le_of_mem_object hlimit hd
  simp only [List.forall_mem_cons] at hpart
  obtain ⟨hrecords, henumerations, haliases, hsumTypes, -⟩ := hpart
  refine h.returns_object (.of_model (by decide) (by decide))
    (.cons (h.returns_catalogue (fun e he => ?_) hrecords)
    (.cons (h.returns_catalogue (fun e he => ?_) henumerations)
      (.cons (h.returns_catalogue (fun e he => ?_) haliases)
      (.cons (h.returns_catalogue (fun e _ => ?_) hsumTypes) .nil)))) hlimit
  · exact Record.returns_toDatum h e.2 (Catalogue.depth_le_of_mem hrecords he)
  · exact Enumeration.returns_toDatum h e.2 (Catalogue.depth_le_of_mem henumerations he)
  · exact Alias.returns_toDatum h e.2 (Catalogue.depth_le_of_mem haliases he)
  · exact TypeModel.returns_memberToDatum h e.2

end

/-! ### The model that data are -/

/-- What is undone one by one is undone all at once. -/
theorem mapM_map_eq_some {α β : Type} {f : α → β} {g : β → Option α} (h : ∀ a, g (f a) = some a) (as : List α) :
    (as.map f).mapM g = some as := by
  induction as with
  | nil => rfl
  | cons a as ih =>
    rw [List.map_cons, List.mapM_cons, h, ih]
    rfl

/-- The data of a reference say which one it is, by induction on what it refers to. -/
theorem TypeRef.ofDatum?_toDatum (t : TypeRef) : ofDatum? t.toDatum = some t := by
  induction t with
  | pointer e ih | sequence e ih =>
    rw [toDatum, ofDatum?, ih]
    rfl
  | _ =>
    rw [toDatum, ofDatum?, Datum.text?_ofString]
    rfl

theorem Field.ofDatum?_toDatum (f : Field) : ofDatum? f.toDatum = some f := by
  rw [toDatum, ofDatum?, Datum.text?_ofString, TypeRef.ofDatum?_toDatum]
  rfl

theorem Record.ofDatum?_toDatum (r : Record) : ofDatum? r.toDatum = some r := by
  rw [toDatum, ofDatum?, Datum.text?_ofString, mapM_map_eq_some Field.ofDatum?_toDatum]
  rfl

theorem Enumeration.ofDatum?_toDatum (e : Enumeration) : ofDatum? e.toDatum = some e := by
  rw [toDatum, ofDatum?, Datum.text?_ofString, mapM_map_eq_some Datum.text?_ofString]
  rfl

theorem Alias.ofDatum?_toDatum (a : Alias) : ofDatum? a.toDatum = some a := by
  rw [toDatum, TypeRef.toDatum, ofDatum?, Datum.text?_ofString, Datum.text?_ofString]
  rfl

theorem TypeModel.memberOfDatum?_memberToDatum (member : Option String) :
    memberOfDatum? (memberToDatum member) = some member := by
  cases member with
  | none => rfl
  | some name =>
    rw [memberToDatum, memberOfDatum?, Datum.text?_ofString]
    · rfl
    · nofun

/-- A catalogue is made again of its entries, in their order. -/
theorem Catalogue.ofDatum?_toDatum {α : Type} {f : α → Datum} {g : Datum → Option α} (h : ∀ a, g (f a) = some a)
    (c : Catalogue α) :
    ofDatum? g (c.toDatum f) = some c := by
  have hentry : ∀ e : String × α, entryOfDatum? g (Text.codesOf e.1, f e.2) = some e := by
    intro e
    rw [entryOfDatum?, Text.stringOfCodes?_codesOf, h]
    rfl
  rw [toDatum, ofDatum?, mapM_map_eq_some hentry, Option.map_some, Catalogue.ofList_entries]

/-- The data of a model are that model. -/
theorem TypeModel.ofDatum?_toDatum (m : TypeModel) : ofDatum? m.toDatum = some m := by
  rw [toDatum, ofDatum?, Catalogue.ofDatum?_toDatum Record.ofDatum?_toDatum,
    Catalogue.ofDatum?_toDatum Enumeration.ofDatum?_toDatum,
    Catalogue.ofDatum?_toDatum Alias.ofDatum?_toDatum, Catalogue.ofDatum?_toDatum memberOfDatum?_memberToDatum]
  rfl

/-! ### Artifacts -/

namespace TypeModel

/-- An artifact is a value without numbers. -/
theorem textual_artifact {model : Json} (h : Textual model) :
    Textual (.object [("v", .string artifactVersion), ("model", model)]) := by
  refine .object ?_ ?_
  · simp [Entries.keys]
  · simp [h, Textual.string]

section

variable [Libraries] {limit : ℕ∞}

/-- What is written down is read back. -/
theorem deserialize_serialize (h : Documented limit) (m : TypeModel) (hlimit : (m.toDatum.depth : ℕ∞) ≤ limit) :
    deserialize m.serialize = .ok m := by
  have hreturns := m.returns_toDatum h hlimit
  rw [deserialize, serialize, parse_toText (textual_artifact hreturns.textual)]
  simp [Json.isObject, Json.member?, Entries.get?, ofData, hreturns.valid, m.ofDatum?_toDatum]

/-- **The artifact round trip.** With documented libraries, the artifact of a model that is not nested deeper
than they follow it is printable ASCII. The model that is restored from it is the model it was made of, each
catalogue in its order, so the same fixtures are generated for it, or the same error. -/
theorem serialize_roundTrip (h : Documented limit) (m : TypeModel) (hlimit : (m.toDatum.depth : ℕ∞) ≤ limit) :
    (∀ c ∈ m.serialize.toList, Text.IsAscii c) ∧
      ∃ restored, deserialize m.serialize = .ok restored ∧ restored = m ∧
        ∀ package o registry, generate restored package o registry = generate m package o registry := by
  refine ⟨?_, m, m.deserialize_serialize h hlimit, rfl, fun _ _ _ => rfl⟩
  rw [serialize, toText, String.toList_ofList]
  exact isAscii_render (textual_artifact (m.returns_toDatum h hlimit).textual)

end

/-- A code point without a character, and one of the last plane. -/
def rareText : String := String.ofList [.ofNat 0xfdd0, .ofNat 0x10f800]

/-- A model with keys that are no names, with quotes and rare characters in its strings, and with a nested
reference. -/
def fern : TypeModel where
  records := .ofList [("\"Key\\", ⟨"𝐀", [⟨"é\x01", .pointer (.sequence (.external rareText))⟩]⟩)]
  enumerations := .ofList [("B", ⟨"B", ["\ud7ff"]⟩)]
  aliases := .ofList [("", ⟨"ID", "string"⟩)]
  sumTypes := .ofList [("isZ_Y", none), ("isA_B", some "𝐀")]

/-- The fern is written down to its last code point, and comes back. -/
theorem serialize_roundTrip_fern :
    Libraries.standard.Documented ⊤ ∧ (fern.toDatum.depth : ℕ∞) ≤ ⊤ ∧
      fern.serialize =
        "\x7b\"v\":\"1\",\"model\":\x7b\"records\":\x7b\"\\\"Key\\\\\":\x7b\"name\":\"\\ud835\\udc00\"," ++
        "\"fields\":[\x7b\"name\":\"\\u00e9\\u0001\",\"type\":\x7b\"kind\":\"pointer\",\"element\":\x7b" ++
        "\"kind\":\"sequence\",\"element\":\x7b\"kind\":\"external\",\"name\":\"\\ufdd0\\udbfe\\udc00\"\x7d\x7d\x7d" ++
        "\x7d]\x7d\x7d,\"enumerations\":\x7b\"B\":\x7b\"name\":\"B\",\"values\":[\"\\ud7ff\"]\x7d\x7d,\"aliases\":" ++
        "\x7b\"\":\x7b\"name\":\"ID\",\"underlying\":\x7b\"kind\":\"primitive\",\"name\":\"string\"\x7d\x7d\x7d," ++
        "\"sum_types\":\x7b\"isZ_Y\":null,\"isA_B\":\"\\ud835\\udc00\"\x7d\x7d\x7d" ∧
      (∀ c ∈ fern.serialize.toList, Text.IsAscii c) ∧
        ∃ restored, deserialize fern.serialize = .ok restored ∧ restored = fern ∧
          ∀ package o registry, generate restored package o registry = generate fern package o registry :=
  ⟨Libraries.standard_documented, le_top, by decide +kernel,
    serialize_roundTrip Libraries.standard_documented fern le_top⟩

end TypeModel

end GoFixtures
