/-
Module: BoxProbe.Proofs.Protocol.Message
Purpose: Messages come back from every form in which they are written.
Trusted boundary: none
Main exports: Message.messageType?_eq_some, Message.ofJson?_toJson, Message.decode_wire,
  Message.typeTag_wire, Message.parse_wire, Message.canonical_of_parse,
  Message.writable_of_ofJson?
-/
import BoxProbe.Proofs.Json.Canonical
import BoxProbe.Protocol.Frame

namespace BoxProbe

/-!
A written object has each of its fields under one of the two names that the reader looks for, and in
the kind of value that the reader takes as it is.  So the object of a message reads as the message,
whatever it holds.  On the wire two things can come between: an integer may be too long to be
written, and two surrogates side by side are read as one code point.  Messages that were read from a
frame have neither.
-/

/-! ### Types -/

theorem MessageType.ofCode?_eq_some {n : Int} {t : MessageType} (h : ofCode? n = some t) :
    n = t.code := by
  unfold ofCode? at h
  split_ifs at h with negative
  have distinct : all.Nodup := by decide
  have inside : n.toNat < all.length := (List.getElem?_eq_some_iff.mp h).1
  have place := (List.getElem?_inj inside distinct).mp (h.trans (all_getElem?_code t).symm)
  omega

/-- The meaning of a message is its number. -/
theorem Message.messageType?_eq_some {m : Message} {t : MessageType} :
    m.messageType? = some t ↔ m.type = t.code := by
  refine ⟨MessageType.ofCode?_eq_some, fun h => ?_⟩
  rw [messageType?, h, MessageType.ofCode?_code]

/-! ### Objects -/

namespace Lenient

variable {α : Type} {read? : Json → Option α} {write : α → Json}

/-- A list is read back if its items are. -/
theorem list?_written (back : ∀ a, read? (write a) = some a) (items : List α) :
    list? read? (.arr (items.map write)) = some items := by
  rw [list?]
  induction items with
  | nil => rfl
  | cons a rest ih =>
    rw [List.map_cons, List.mapM_cons, back, ih]
    rfl

end Lenient

namespace LoadLimit

theorem ofJson?_toJson (style : NameStyle) (l : LoadLimit) : ofJson? (l.toJson style) = some l := by
  cases style <;> rfl

end LoadLimit

namespace Entity

theorem ofJson?_toJson (style : NameStyle) (e : Entity) : ofJson? (e.toJson style) = some e := by
  have text : ∀ t : Text, Lenient.text? (.str t) = some t := fun _ => rfl
  have useCases := Lenient.list?_written text e.useCases
  -- The fields before the list are read back as they are.
  have read := congrArg (·.bind fun useCases => some { e with useCases }) useCases
  cases style <;> exact read

end Entity

namespace Message

theorem entities?_written (style : NameStyle) (entities : List Entity) :
    entities? (.arr (entities.map (Entity.toJson style))) = some (some entities) :=
  congrArg (Option.map some) (Lenient.list?_written (Entity.ofJson?_toJson style) entities)

/-- The object of a message reads as the message. -/
theorem ofJson?_toJson (style : NameStyle) (m : Message) : ofJson? (m.toJson style) = some m := by
  obtain ⟨type, text, limit, value, entities, useCase⟩ := m
  have limit := LoadLimit.ofJson?_toJson style limit
  cases entities with
  | none =>
    have read := congrArg (·.bind fun limit => some
      { type, text, limit, value, entities := none, useCase : Message }) limit
    cases style <;> exact read
  | some entities =>
    have entities := entities?_written style entities
    have read := congrArg₂ (fun limit? entities? => limit?.bind fun limit =>
      entities?.bind fun entities => some { type, text, limit, value, entities, useCase : Message })
      limit entities
    cases style <;> exact read

end Message

/-! ### On the wire -/

/-- An object with distinct names fits if its values do. -/
theorem Lenient.fits_obj {depth : Nat} (fields : List (FieldName × Json))
    (distinct : (fields.map fun f => f.1.key .wire).Nodup)
    (values : ∀ f ∈ fields, f.2.Fits depth) :
    (Json.obj (fields.map fun f => (f.1.key .wire, f.2))).Fits (depth + 1) := by
  refine ⟨by rwa [List.map_map], fun g mem => ?_⟩
  obtain ⟨f, found, rfl⟩ := List.mem_map.mp mem
  exact ⟨Text.joined_ofString _, values f found⟩

namespace LoadLimit

theorem fits_toJson {l : LoadLimit} (short : Numeral.isWritable l.duration = true) (depth : Nat) :
    (l.toJson .wire).Fits (depth + 1) := by
  have distinct : ([durationName, isChangeableName, isActiveName, valueName].map
      fun name => name.key .wire).Nodup := by decide
  exact Lenient.fits_obj [(durationName, .int l.duration), (isChangeableName, .bool l.isChangeable),
    (isActiveName, .bool l.isActive), (valueName, .double l.value)] distinct
    (by simp [Json.Fits, short])

end LoadLimit

namespace Entity

theorem fits_toJson (e : Entity) (depth : Nat) : (e.toJson .wire).Fits (depth + 2) := by
  have distinct : ([nameName, skiName, useCasesName].map fun name => name.key .wire).Nodup := by
    decide
  exact Lenient.fits_obj [(nameName, .str e.name), (skiName, .str e.ski),
    (useCasesName, .arr (e.useCases.map .str))] distinct (by simp [Json.Fits])

/-- An entity whose texts have no pairs of surrogates. -/
structure IsJoined (e : Entity) : Prop where
  name : e.name.Joined
  ski : e.ski.Joined
  useCases : ∀ u ∈ e.useCases, u.Joined

theorem joinPairs_toJson {e : Entity} (h : e.IsJoined) :
    (e.toJson .wire).joinPairs = e.toJson .wire := by
  have useCases : (e.useCases.map Json.str).map Json.joinPairs = e.useCases.map Json.str := by
    rw [List.map_map]
    exact List.map_congr_left fun u mem => congrArg Json.str (h.useCases u mem).joinPairs_eq
  simp [toJson, Json.joinPairs, h.name.joinPairs_eq, h.ski.joinPairs_eq, useCases]

end Entity

namespace Message

theorem fits_toJson {m : Message} (short : m.isWritable = true) (depth : Nat) :
    (m.toJson .wire).Fits (depth + 4) := by
  have distinct : ([typeName, textName, limitName, valueName, entitiesName, useCaseName].map
      fun name => name.key .wire).Nodup := by decide
  obtain ⟨type, duration⟩ := Bool.and_eq_true_iff.mp short
  refine Lenient.fits_obj [(typeName, .int m.type), (textName, .str m.text),
      (limitName, m.limit.toJson .wire), (valueName, .double m.value), (entitiesName, _),
      (useCaseName, .str m.useCase)] distinct ?_
  have limit := LoadLimit.fits_toJson duration (depth + 2)
  have entities : ∀ e : Entity, (e.toJson .wire).Fits (depth + 2) := fun e => e.fits_toJson depth
  cases m.entities <;> simp [Json.Fits, type, limit, entities]

/-- A message whose texts have no pairs of surrogates. -/
structure IsJoined (m : Message) : Prop where
  text : m.text.Joined
  useCase : m.useCase.Joined
  entities : ∀ es ∈ m.entities, ∀ e ∈ es, e.IsJoined

theorem joinPairs_toJson {m : Message} (h : m.IsJoined) :
    (m.toJson .wire).joinPairs = m.toJson .wire := by
  have limit : (m.limit.toJson .wire).joinPairs = m.limit.toJson .wire := rfl
  have entities := h.entities
  unfold toJson
  cases listed : m.entities with
  | none => simp [Json.joinPairs, h.text.joinPairs_eq, h.useCase.joinPairs_eq, limit]
  | some es =>
    rw [listed] at entities
    have each : (es.map (Entity.toJson .wire)).map Json.joinPairs =
        es.map (Entity.toJson .wire) := by
      rw [List.map_map]
      exact List.map_congr_left fun e mem => Entity.joinPairs_toJson (entities es rfl e mem)
    simp [Json.joinPairs, h.text.joinPairs_eq, h.useCase.joinPairs_eq, limit, each]

/-- The text of a message that can be written is decoded as the object of the message, with the
pairs of surrogates in its texts joined. -/
theorem decode_wire {m : Message} (short : m.isWritable = true) :
    Payload.decode m.wire = .ok (m.toJson .wire).joinPairs := by
  have read := Json.read_chars (v := m.toJson .wire) (fits_toJson short 986)
  rwa [Payload.decode, wire, Json.render, String.toList_ofList]

/-- The raw type of the text of a message is the number of the message. -/
theorem typeTag_wire {m : Message} (short : m.isWritable = true) :
    (Payload.decode m.wire).map Payload.typeTag = .ok (.int m.type) := by
  rw [decode_wire short]
  rfl

/-- The text of a message is read as the message. -/
theorem parse_wire {m : Message} (short : m.isWritable = true) (joined : m.IsJoined) :
    Message.parse m.wire = .ok (some m) := by
  rw [Message.parse, decode_wire short, joinPairs_toJson joined]
  exact congrArg Except.ok (ofJson?_toJson .wire m)

end Message

/-! ### Messages that were read -/

namespace Lenient

variable {α : Type} {P : α → Prop} {name : FieldName} {absent a : α} {read? : Json → Option α}
  {fields : Json.Fields}

theorem readable_of_present? {v : Json} (readable : (Json.obj fields).Readable)
    (h : present? name fields = some v) : v.Readable := by
  unfold present? at h
  split at h
  next found =>
    obtain rfl := Option.some.inj h
    exact readable.field found
  next => exact readable.field h

/-- A field has what every value that is read has, if the value for an absent one has it. -/
theorem of_field? (readable : (Json.obj fields).Readable) (default : P absent)
    (reads : ∀ v a, v.Readable → read? v = some a → P a)
    (h : field? name absent read? fields = some a) : P a := by
  unfold field? at h
  split at h
  next found => exact reads _ a (readable_of_present? readable found) h
  next =>
    obtain rfl := Option.some.inj h
    exact default

theorem of_required? (readable : (Json.obj fields).Readable)
    (reads : ∀ v a, v.Readable → read? v = some a → P a)
    (h : required? name read? fields = some a) : P a := by
  obtain ⟨v, found, read⟩ := Option.bind_eq_some_iff.mp h
  exact reads v a (readable_of_present? readable found) read

theorem of_mapM {vs : List Json} {items : List α} (reads : ∀ v ∈ vs, ∀ a, read? v = some a → P a)
    (h : vs.mapM read? = some items) : ∀ a ∈ items, P a := by
  induction vs generalizing items with
  | nil =>
    obtain rfl := Option.some.inj h
    exact List.forall_mem_nil P
  | cons v vs ih =>
    rw [List.mapM_cons] at h
    obtain ⟨a, first, h⟩ := Option.bind_eq_some_iff.mp h
    obtain ⟨as, others, h⟩ := Option.bind_eq_some_iff.mp h
    obtain rfl := Option.some.inj h
    exact List.forall_mem_cons.mpr
      ⟨reads v (by simp) a first, ih (fun w mem => reads w (by simp [mem])) others⟩

theorem of_list? (reads : ∀ v a, v.Readable → read? v = some a → P a) {v : Json} {items : List α}
    (readable : v.Readable) (h : list? read? v = some items) : ∀ a ∈ items, P a := by
  cases v with
  | arr vs => exact of_mapM (fun w mem a => reads w a (readable.item mem)) h
  | _ => cases h

theorem isWritable_of_plainInt? {cs : List Char} {n : Int} (h : plainInt? cs = some n) :
    Numeral.isWritable n = true := by
  unfold plainInt? at h
  simp only [Option.ite_none_right_eq_some, Option.some.injEq] at h
  obtain ⟨⟨-, digits, -, short⟩, rfl⟩ := h
  refine Numeral.isWritable_signed _ digits ?_
  split
  · rw [List.length_drop]
    omega
  · exact short

/-- No integer that is read is too long to be written. -/
theorem isWritable_of_int? (v : Json) (n : Int) (readable : v.Readable) (h : int? v = some n) :
    Numeral.isWritable n = true := by
  cases v with
  | int m =>
    obtain rfl := Option.some.inj h
    exact readable.int
  | bool b =>
    obtain rfl := Option.some.inj h
    cases b <;> decide
  | double d =>
    obtain ⟨m, -, h⟩ := Option.bind_eq_some_iff.mp h
    split_ifs at h with small
    obtain rfl := Option.some.inj h
    have short : 10 ^ 19 ≤ 10 ^ maxIntDigits := Nat.pow_le_pow_right (by decide) (by decide)
    rw [Numeral.isWritable_iff]
    omega
  | str t =>
    obtain ⟨cs, -, h⟩ := Option.bind_eq_some_iff.mp h
    exact isWritable_of_plainInt? h
  | _ => cases h

theorem joined_of_text? (v : Json) (t : Text) (readable : v.Readable) (h : text? v = some t) :
    t.Joined := by
  cases v with
  | str u =>
    obtain rfl := Option.some.inj h
    exact readable.str
  | _ => cases h

end Lenient

theorem LoadLimit.isWritable_of_ofJson? (v : Json) (l : LoadLimit) (readable : v.Readable)
    (h : LoadLimit.ofJson? v = some l) : Numeral.isWritable l.duration = true := by
  cases v with
  | obj fields =>
    obtain ⟨duration, read, h⟩ := Option.bind_eq_some_iff.mp h
    obtain ⟨isChangeable, -, h⟩ := Option.bind_eq_some_iff.mp h
    obtain ⟨isActive, -, h⟩ := Option.bind_eq_some_iff.mp h
    obtain ⟨value, -, h⟩ := Option.bind_eq_some_iff.mp h
    obtain rfl := Option.some.inj h
    exact Lenient.of_field? readable (P := fun n => Numeral.isWritable n = true) (by decide)
      Lenient.isWritable_of_int? read
  | _ => cases h

theorem Entity.joined_of_ofJson? (v : Json) (e : Entity) (readable : v.Readable)
    (h : Entity.ofJson? v = some e) : e.IsJoined := by
  cases v with
  | obj fields =>
    obtain ⟨name, readName, h⟩ := Option.bind_eq_some_iff.mp h
    obtain ⟨ski, readSki, h⟩ := Option.bind_eq_some_iff.mp h
    obtain ⟨useCases, readUseCases, h⟩ := Option.bind_eq_some_iff.mp h
    obtain rfl := Option.some.inj h
    refine ⟨?_, ?_, ?_⟩
    · exact Lenient.of_field? readable .nil Lenient.joined_of_text? readName
    · exact Lenient.of_field? readable .nil Lenient.joined_of_text? readSki
    · exact Lenient.of_field? readable (P := fun us => ∀ u ∈ us, u.Joined) (List.forall_mem_nil _)
        (fun v us => Lenient.of_list? Lenient.joined_of_text?) readUseCases
  | _ => cases h

namespace Message

theorem joined_of_entities? (v : Json) (entities : Option (List Entity)) (readable : v.Readable)
    (h : entities? v = some entities) : ∀ es ∈ entities, ∀ e ∈ es, e.IsJoined := by
  unfold entities? at h
  split at h
  next =>
    obtain rfl := Option.some.inj h
    rintro es ⟨⟩
  next =>
    obtain ⟨es, read, rfl⟩ := Option.map_eq_some_iff.mp h
    rintro es ⟨⟩
    exact Lenient.of_list? Entity.joined_of_ofJson? readable read

/-- A message that was read can be written, and its text is read back. -/
theorem writable_of_ofJson? {v : Json} {m : Message} (readable : v.Readable)
    (h : ofJson? v = some m) : m.isWritable = true ∧ m.IsJoined := by
  cases v with
  | obj fields =>
    obtain ⟨type, readType, h⟩ := Option.bind_eq_some_iff.mp h
    obtain ⟨text, readText, h⟩ := Option.bind_eq_some_iff.mp h
    obtain ⟨limit, readLimit, h⟩ := Option.bind_eq_some_iff.mp h
    obtain ⟨value, -, h⟩ := Option.bind_eq_some_iff.mp h
    obtain ⟨entities, readEntities, h⟩ := Option.bind_eq_some_iff.mp h
    obtain ⟨useCase, readUseCase, h⟩ := Option.bind_eq_some_iff.mp h
    obtain rfl := Option.some.inj h
    have short := Lenient.of_required? readable Lenient.isWritable_of_int? readType
    have duration := Lenient.of_field? readable (P := fun l => Numeral.isWritable l.duration = true)
      (by decide) LoadLimit.isWritable_of_ofJson? readLimit
    refine ⟨Bool.and_eq_true_iff.mpr ⟨short, duration⟩, ?_, ?_, ?_⟩
    · exact Lenient.of_field? readable .nil Lenient.joined_of_text? readText
    · exact Lenient.of_field? readable .nil Lenient.joined_of_text? readUseCase
    · exact Lenient.of_field? readable (P := fun entities => ∀ es ∈ entities, ∀ e ∈ es, e.IsJoined)
        (by rintro es ⟨⟩) joined_of_entities? readEntities
  | _ => cases h

theorem writable_of_parse {raw : String} {m : Message} (h : Message.parse raw = .ok (some m)) :
    m.isWritable = true ∧ m.IsJoined := by
  obtain ⟨payload, decoded, read⟩ := Json.map_eq_ok h
  exact writable_of_ofJson? (.of_read decoded) read

/-- A message that a frame is read as can be written, and comes back from each of its written forms;
its text on the wire is read as the message and is written for it again. -/
theorem canonical_of_parse {raw : String} {m : Message} (h : Message.parse raw = .ok (some m)) :
    m.isWritable = true ∧
      Message.parse m.wire = .ok (some m) ∧
      ofJson? (m.toJson .wire) = some m ∧
      ofJson? (m.toJson .plain) = some m ∧
      (Message.parse m.wire).map (Option.map wire) = .ok (some m.wire) := by
  obtain ⟨short, joined⟩ := writable_of_parse h
  have back := parse_wire short joined
  refine ⟨short, back, ofJson?_toJson .wire m, ofJson?_toJson .plain m, ?_⟩
  rw [back]
  rfl

/-- A frame with numbers as texts, a pair of surrogates, and a limit under both names. -/
theorem canonical_of_parse_limit :
    let m : Message := { type := 6, text := [0x1F600], limit := { duration := 7, value := .nan } }
    m.isWritable = true ∧
      Message.parse m.wire = .ok (some m) ∧
      ofJson? (m.toJson .wire) = some m ∧
      ofJson? (m.toJson .plain) = some m ∧
      (Message.parse m.wire).map (Option.map wire) = .ok (some m.wire) := by
  intro m
  have read : Message.parse
      ("\x7b\"Type\": 6.0, \"text\": \"\\uD83D\\uDE00\", \"limit\": 3, " ++
        "\"Limit\": \x7b\"Duration\": \" 7.0\", \"Value\": NaN\x7d\x7d") = .ok (some m) := by
    decide +kernel
  exact canonical_of_parse read

end Message

end BoxProbe
