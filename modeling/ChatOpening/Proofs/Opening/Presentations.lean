import ChatOpening.Proofs.Json.Written
import ChatOpening.Proofs.Opening.Requests

/-!
# Writing and reading agree

Whatever the service exchanges is a record of one of seven kinds.  A record has many texts: at each level it may be a
list of all fields or an object with its members in any order, others among them, and a field that has no value may be
left out of the object or be null.  All of them are read as the same record, and one of them is what is written.

**Input.**  A record of any kind.  The metadata of a response are a JSON object of any shape; their numbers have to be
whole ones of 64 bits, and lists and objects may be nested up to the depth to which a text is read.

**Definitions.**
* `RecordKind`: the seven kinds, each with the type of its records.
* `RecordKind.Sound`: what is asked of the metadata of a response.

**Results.**
* `decodeWith_presentation`: all texts of a record are read as it, and its canonical text is one of them.
-/

namespace ChatOpening

open Json

section Faithful

instance : Described.Faithful MessageKind where
  toCarrier_ofCarrier v := by
    have hv : ∀ w : Fin ["Text"].length, w = ⟨0, by decide⟩ := by
      decide
    exact (hv v).symm

instance : Described.Faithful Character where
  toCarrier_ofCarrier _ := rfl

instance : Described.Faithful Message where
  toCarrier_ofCarrier := fun (id, kind, author, content, hasHint, responseTimeLimit, ()) => by
    have hkind := @Described.Faithful.toCarrier_ofCarrier MessageKind _ _ kind
    exact congrArg (fun k => (id, k, author, content, hasHint, responseTimeLimit, ())) hkind

instance : Described.Faithful Chat where
  toCarrier_ofCarrier := fun (chatId, skillId, simulationId, messages, success, ()) => by
    have hmessages := @map_toCarrier_ofCarrier Message _ _ messages
    exact congrArg (fun ms => (chatId, skillId, simulationId, ms, success, ())) hmessages

instance : Described.Faithful OpeningResponse where
  toCarrier_ofCarrier := fun (chat, metadata, ()) => by
    have hchat := @Described.Faithful.toCarrier_ofCarrier Chat _ _ chat
    exact congrArg (fun c => (c, metadata, ())) hchat

end Faithful

section Writable

variable {levels : Nat}

theorem writable_character (c : Character) :
    Conversation.characterSchema.Writable (levels + 1) (Described.toCarrier c) :=
  ⟨by decide, levels, rfl, trivial, trivial, ⟨rfl, fun _ _ => trivial⟩, trivial⟩

/-- A message can be written two levels deep. -/
theorem writable_message (m : Message) :
    Conversation.messageSchema.Writable (levels + 2) (Described.toCarrier m) := by
  have hkinds : ["Text"].Nodup := by
    decide
  exact ⟨by decide, levels + 1, rfl, trivial, hkinds, writable_character m.author, trivial, trivial,
    ⟨rfl, fun _ _ => trivial⟩, trivial⟩

/-- A chat can be written with its messages and metadata. -/
theorem writable_chat (c : Chat) :
    Conversation.chatSchema.Writable (levels + 4) (Described.toCarrier c) := by
  have hmessages : (Schema.list Conversation.messageSchema).Writable (levels + 3) (c.messages.map Described.toCarrier) := by
    refine ⟨levels + 2, rfl, fun v hv => ?_⟩
    obtain ⟨m, -, rfl⟩ := List.mem_map.1 hv
    exact writable_message m
  exact ⟨by decide, levels + 3, rfl, ⟨rfl, fun _ _ => trivial⟩, trivial, trivial, hmessages, trivial, trivial⟩

theorem writable_simulation (s : Simulation) :
    Conversation.simulationSchema.Writable (levels + 2) (Described.toCarrier s) :=
  ⟨by decide, levels + 1, rfl, trivial, trivial, ⟨levels, rfl, fun _ _ => trivial⟩, trivial⟩

theorem writable_user (u : User) : Conversation.userSchema.Writable (levels + 1) (Described.toCarrier u) :=
  ⟨by decide, levels, rfl, trivial, trivial⟩

/-- A request can be written three levels deep. -/
theorem writable_request (r : OpeningRequest) :
    Conversation.requestSchema.Writable (levels + 3) (Described.toCarrier r) :=
  ⟨by decide, levels + 2, rfl, writable_simulation r.simulation, writable_user r.user, trivial⟩

end Writable

/-- The kinds of records that are exchanged. -/
inductive RecordKind where
  | character
  | message
  | chat
  | simulation
  | user
  | request
  | response

namespace RecordKind

/-- The records of a kind. -/
def Element : RecordKind → Type
  | character => Character
  | message => Message
  | chat => Chat
  | simulation => Simulation
  | user => User
  | request => OpeningRequest
  | response => OpeningResponse

instance : (kind : RecordKind) → Described kind.Element
  | character => inferInstanceAs (Described Character)
  | message => inferInstanceAs (Described Message)
  | chat => inferInstanceAs (Described Chat)
  | simulation => inferInstanceAs (Described Simulation)
  | user => inferInstanceAs (Described User)
  | request => inferInstanceAs (Described OpeningRequest)
  | response => inferInstanceAs (Described OpeningResponse)

instance : (kind : RecordKind) → Described.Faithful kind.Element
  | character => inferInstanceAs (Described.Faithful Character)
  | message => inferInstanceAs (Described.Faithful Message)
  | chat => inferInstanceAs (Described.Faithful Chat)
  | simulation => inferInstanceAs (Described.Faithful Simulation)
  | user => inferInstanceAs (Described.Faithful User)
  | request => inferInstanceAs (Described.Faithful OpeningRequest)
  | response => inferInstanceAs (Described.Faithful OpeningResponse)

/-- The metadata of a response are an object in the order of its keys, with whole numbers of 64 bits, that may stand
inside one more object. Other records are as they come. -/
def Sound : (kind : RecordKind) → kind.Element → Prop
  | response, r =>
    (Value.object (OpeningResponse.metadata r)).InOrder ∧ (Value.object (OpeningResponse.metadata r)).Integral ∧
      (Value.object (OpeningResponse.metadata r)).depth < deepest
  | _, _ => True

end RecordKind

section Presentations

variable {kind : RecordKind} {v : kind.Element}

/-- Elements whose metadata are sound can be written. -/
theorem isWritable_of_sound (h : kind.Sound v) : IsWritable v := by
  cases kind with
  | character => exact writable_character v
  | message => exact writable_message v
  | chat => exact writable_chat v
  | simulation => exact writable_simulation v
  | user => exact writable_user v
  | request => exact writable_request v
  | response =>
    obtain ⟨horder, hintegral, hdepth⟩ := h
    exact ⟨by decide, 126, rfl, writable_chat (OpeningResponse.chat v), ⟨horder, hintegral, Nat.le_of_lt_succ hdepth⟩,
      trivial⟩

/-- A tree that says the same in another order presents the same. -/
theorem presents_of_saySame {t u : Tree} {es fs : List (String × Tree)} (ht : t.IsObject es) (hu : u.IsObject fs)
    (hsame : (Described.schema kind.Element).fields.SaySame es fs) (h : t.Presents v) : u.Presents v := by
  cases kind with
  | character => exact Schema.fits_record_of_saySame ht hu hsame h
  | message => exact Schema.fits_record_of_saySame ht hu hsame h
  | chat => exact Schema.fits_record_of_saySame ht hu hsame h
  | simulation => exact Schema.fits_record_of_saySame ht hu hsame h
  | user => exact Schema.fits_record_of_saySame ht hu hsame h
  | request => exact Schema.fits_record_of_saySame ht hu hsame h
  | response => exact Schema.fits_record_of_saySame ht hu hsame h

/-- A text is read as a record exactly if it presents the record. What is written for a record presents it, so it is read
back, and reading and writing take every text that presents the record to its canonical text and leave this one as it is.
An object goes on to present the record when its members are put into another order, when unknown ones are added, and when
null is written for a field that is absent or left out for it. -/
theorem decodeWith_presentation (tracking : Tracking) (kind : RecordKind) (v : kind.Element) (hv : kind.Sound v) :
    (∀ source t, IsDocument (Text.bytes source) t →
      (decodeWith tracking kind.Element (Text.bytes source) = .ok v ↔ t.Presents v))
      ∧
    (∃ t, IsDocument (Text.bytes (encode v)) t ∧ t.Presents v)
      ∧
    decodeWith tracking kind.Element (Text.bytes (encode v)) = .ok v
      ∧
    (∀ source t, IsDocument (Text.bytes source) t → t.Presents v →
      (decodeWith tracking kind.Element (Text.bytes source)).map encode = .ok (encode v))
      ∧
    (decodeWith tracking kind.Element (Text.bytes (encode v))).map encode = .ok (encode v)
      ∧
    (∀ (t u : Tree) es fs, t.IsObject es → u.IsObject fs → (Described.schema kind.Element).fields.SaySame es fs →
      t.Presents v → u.Presents v) := by
  have hpresents : ∀ source t, IsDocument (Text.bytes source) t →
      (decodeWith tracking kind.Element (Text.bytes source) = .ok v ↔ t.Presents v) := by
    intro source t
    exact decodeWith_document_eq_ok_iff (Text.isText_bytes source)
  obtain ⟨t, ht, htv⟩ := exists_document_encode (isWritable_of_sound hv)
  have hread : decodeWith tracking kind.Element (Text.bytes (encode v)) = .ok v := (hpresents _ t ht).2 htv
  refine ⟨hpresents, ⟨t, ht, htv⟩, hread, ?rewritten, ?canonical, ?reordered⟩
  case rewritten =>
    intro source u hu huv
    rw [(hpresents source u hu).2 huv]
    rfl
  case canonical =>
    rw [hread]
    rfl
  case reordered =>
    intro t u es fs
    exact presents_of_saySame

/-- A response with a message that has neither avatar nor limit, and with metadata inside metadata. -/
def nestedResponse : OpeningResponse where
  chat :=
    { chatId := none
      skillId := -9223372036854775808
      simulationId := 8
      messages := [Conversation.textMessage "m\n" ⟨7, "Ann", none⟩ "Hi!"]
      success := true }
  metadata :=
    [("list", .array [.number (.integer 18446744073709551615), .null, .object [("", .number (.integer (-1)))]]),
      ("topic", .text "\"")]

/-- The same response with the metadata first, an unknown member, and the chat as a list. -/
def rearrangedResponse : String :=
  writtenObject [("metadata", Schema.object.written nestedResponse.metadata), ("extra", writtenArray ["null"]),
    ("chat", writtenArray ["null", "-9223372036854775808", "8",
      writtenArray [encode (Conversation.textMessage "m\n" ⟨7, "Ann", none⟩ "Hi!")], "true"])]

theorem sound_nestedResponse : RecordKind.response.Sound nestedResponse := by
  have hkeys : ("list" : String) < "topic" := by
    decide
  refine ⟨⟨?_, ⟨trivial, trivial, ⟨?_, trivial, trivial⟩, trivial⟩, trivial, trivial⟩, ?_, ?_⟩
  · refine List.pairwise_cons.2 ⟨fun e he => ?_, List.pairwise_singleton _ _⟩
    rw [List.mem_singleton.1 he]
    exact hkeys
  · exact List.pairwise_singleton _ _
  · simp [nestedResponse, Value.Integral, MembersIntegral, ItemsIntegral, IsWord]
  · simp [nestedResponse, Value.depth, membersDepth, itemsDepth, deepest]

/-- Its texts are read as the response, and written again as the canonical one. -/
theorem decodeWith_rearrangedResponse :
    RecordKind.response.Sound nestedResponse ∧
      decodeWith .off OpeningResponse (Text.bytes (encode nestedResponse)) = .ok nestedResponse ∧
      decodeWith .off OpeningResponse (Text.bytes rearrangedResponse) = .ok nestedResponse ∧
      (decodeWith .off OpeningResponse (Text.bytes rearrangedResponse)).map encode = .ok (encode nestedResponse) := by
  obtain ⟨hpresents, -, hread, hrewrites, -, -⟩ :=
    decodeWith_presentation .off .response nestedResponse sound_nestedResponse
  obtain ⟨metadata, hmetadata, hobject⟩ := Schema.object.exists_layout 126 nestedResponse.metadata
    ⟨sound_nestedResponse.1, sound_nestedResponse.2.1, Nat.le_of_lt_succ sound_nestedResponse.2.2⟩
  obtain ⟨chat, hchat, hlist⟩ := Schema.exists_list_layout 126 _ (@writable_chat 122 nestedResponse.chat)
  have hextra : (Tree.array [.null]).WrittenAs (writtenArray ["null"]) := writtenAs_array (.cons rfl .nil)
  have hwritten : Entries Tree.WrittenAs [("metadata", metadata), ("extra", .array [.null]), ("chat", chat)]
      [("metadata", Schema.object.written nestedResponse.metadata), ("extra", writtenArray ["null"]),
        ("chat", writtenArray ["null", "-9223372036854775808", "8",
          writtenArray [encode (Conversation.textMessage "m\n" ⟨7, "Ann", none⟩ "Hi!")], "true"])] :=
    .cons ⟨rfl, hmetadata⟩ (.cons ⟨rfl, hextra⟩ (.cons ⟨rfl, hchat⟩ .nil))
  obtain ⟨t, ht, hmembers⟩ := exists_object_written hwritten
  have htv : t.Presents nestedResponse := by
    refine ⟨126, rfl, .inr ⟨_, hmembers, .inl ⟨chat, by simp [valuesOf], hlist⟩, .inl ⟨metadata, ?_, hobject⟩, trivial⟩⟩
    simp [valuesOf, without]
  have hdocument : IsDocument (Text.bytes rearrangedResponse) t := isDocument_of_writtenAs ht
  exact ⟨sound_nestedResponse, hread, (hpresents _ t hdocument).2 htv, hrewrites _ t hdocument htv⟩

end Presentations

end ChatOpening
