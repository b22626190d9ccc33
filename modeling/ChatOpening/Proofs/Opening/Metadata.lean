import ChatOpening.Proofs.Json.Arranged
import ChatOpening.Proofs.Opening.Presentations

/-!
# The order of metadata

The metadata of a response are an object of any shape.  When a response is read and written again, they come out in the
order of their keys, and the order in which they were written before is lost.

**Input.**  A text that is read as a response whose metadata have whole numbers of 64 bits.

**Results.**
* `presents_response_iff`: the trees of a response.
* `exists_written_response`: the members of what is written for a response.
* `encode_arranges_metadata`: writing arranges the metadata of a text, and does not tell texts apart that differ by the
  order of members of the metadata.
-/

namespace ChatOpening

open Json

section Responses

variable {tracking : Tracking} {t m m' : Tree} {r : OpeningResponse}

/-- A tree presents a response if it has a chat and an object with the metadata. -/
theorem presents_response_iff :
    t.Presents r ↔ ∃ chat m, t.HasFields ["chat", "metadata"] [chat, m] ∧
      Conversation.chatSchema.Fits 126 chat (Described.toCarrier r.chat) ∧ Schema.object.Fits 126 m r.metadata := by
  have hneeded : Conversation.responseSchema.fields.Needed := ⟨rfl, rfl, trivial⟩
  have hnodup : Conversation.responseSchema.fields.names.Nodup := by
    decide
  refine (Schema.fits_record_iff hneeded hnodup).trans ?_
  constructor
  · rintro ⟨_, ht, chat, _, rfl, hchat, m, _, rfl, hm, rfl⟩
    exact ⟨chat, m, ht, hchat, hm⟩
  · rintro ⟨chat, m, ht, hchat, hm⟩
    exact ⟨[chat, m], ht, chat, [m], rfl, hchat, m, [], rfl, hm, rfl⟩

/-- What is written for a response is an object of two members. -/
theorem exists_written_response (hm : m'.WrittenAs (Value.object r.metadata).written) :
    ∃ t' chat' : Tree, t'.WrittenAs (encode r) ∧ t'.IsObject [("chat", chat'), ("metadata", m')] := by
  obtain ⟨chat', hchat, -⟩ := Conversation.chatSchema.exists_layout 4 _ (@writable_chat 0 r.chat)
  obtain ⟨t', ht, hmembers⟩ := exists_object_written
    (.cons ⟨rfl, hchat⟩ (.cons ⟨rfl, hm⟩ .nil) :
      Entries Tree.WrittenAs [("chat", chat'), ("metadata", m')]
        [("chat", _), ("metadata", (Value.object r.metadata).written)])
  exact ⟨t', chat', ht, hmembers⟩

/-- A text is read as the same response when members of its metadata are reordered. -/
theorem presents_of_reordered {u chat : Tree} (ht : t.HasFields ["chat", "metadata"] [chat, m]) (htr : t.Presents r)
    (hu : u.HasFields ["chat", "metadata"] [chat, m']) (h : m.Reordered m') : u.Presents r := by
  obtain ⟨chat', n, ht', hchat, hm⟩ := presents_response_iff.1 htr
  cases hasFields_unique ht ht'
  exact presents_response_iff.2 ⟨chat, m', hu, hchat, fits_object_iff.2 (means_of_reordered 126 h (fits_object_iff.1 hm))⟩

/-- A text that is read as a response is written again with its metadata arranged: in each object, at any depth, the members
stand in strictly ascending order of the bytes of their keys, each key once and with what was the value of its last member,
and lists keep their items.  Every text that differs from it by the order in which members of different keys stand in its
metadata, at any depth, is written again as the same text. -/
theorem encode_arranges_metadata (tracking : Tracking) (source : String) (r : OpeningResponse)
    (hread : decodeWith tracking OpeningResponse (Text.bytes source) = .ok r)
    (hintegral : (Value.object r.metadata).Integral) :
    ∃ (t chat m t' chat' m' : Tree),
      IsDocument (Text.bytes source) t ∧ t.HasFields ["chat", "metadata"] [chat, m] ∧
      IsDocument (Text.bytes (encode r)) t' ∧ t'.IsObject [("chat", chat'), ("metadata", m')] ∧
      (∃ es, m.IsObject es) ∧ m.Arranged m' ∧
      ∀ (tracking' : Tracking) (source' : String) (u n : Tree), IsDocument (Text.bytes source') u →
        u.HasFields ["chat", "metadata"] [chat, n] → m.Reordered n →
        (decodeWith tracking' OpeningResponse (Text.bytes source')).map encode = .ok (encode r) := by
  obtain ⟨t, ht, htr⟩ := (decodeWith_eq_ok_iff_presents (Text.isText_bytes source)).1 hread
  obtain ⟨chat, m, hfields, -, hm⟩ := presents_response_iff.1 htr
  obtain ⟨m', hwritten, harranged⟩ := Value.exists_arranged 126 _ m (fits_object_iff.1 hm) hintegral
  obtain ⟨t', chat', ht', hmembers⟩ := exists_written_response hwritten
  obtain ⟨-, -, es, -, hes, -, -⟩ := hm
  refine ⟨t, chat, m, t', chat', m', ht, hfields, isDocument_of_writtenAs ht', hmembers, ⟨es, hes⟩, harranged, ?_⟩
  intro tracking' source' u n hu hn hreordered
  rw [(decodeWith_document_eq_ok_iff (Text.isText_bytes source') hu).2 (presents_of_reordered hfields htr hn hreordered)]
  rfl

/-- A key that occurs twice, and members that are not in order, outside and inside an object. -/
def shuffledResponse : String :=
  "\x7b\"metadata\":\x7b\"b\":\x7b\"d\":1\x7d,\"a\":[3],\"b\":\x7b\"d\":4,\"c\":5\x7d\x7d,\"chat\":[null,1,2,[],true]\x7d"

def sortedResponse : String :=
  "\x7b\"chat\":\x7b\"chat_id\":null,\"skill_id\":1,\"simulation_id\":2,\"messages\":[],\"success\":true\x7d," ++
    "\"metadata\":\x7b\"a\":[3],\"b\":\x7b\"c\":5,\"d\":4\x7d\x7d\x7d"

/-- The response is read, and written with its metadata arranged. -/
theorem encode_shuffledResponse :
    ∃ r, decodeWith .off OpeningResponse (Text.bytes shuffledResponse) = .ok r ∧ (Value.object r.metadata).Integral ∧
      encode r = sortedResponse ∧
      ∃ (t chat m t' chat' m' : Tree), IsDocument (Text.bytes shuffledResponse) t ∧
        t.HasFields ["chat", "metadata"] [chat, m] ∧ IsDocument (Text.bytes sortedResponse) t' ∧
        t'.IsObject [("chat", chat'), ("metadata", m')] ∧ m.Arranged m' := by
  have hread : ((decodeWith .off OpeningResponse (Text.bytes shuffledResponse)).toOption.any fun r =>
      decide ((Value.object r.metadata).Integral ∧ encode r = sortedResponse)) = true := by
    decide +kernel
  cases hr : decodeWith .off OpeningResponse (Text.bytes shuffledResponse) with
  | error report =>
    rw [hr] at hread
    cases hread
  | ok r =>
    rw [hr] at hread
    obtain ⟨hintegral, hencode⟩ := of_decide_eq_true hread
    obtain ⟨t, chat, m, t', chat', m', ht, hfields, ht', hmembers, -, harranged, -⟩ :=
      encode_arranges_metadata .off shuffledResponse r hr hintegral
    exact ⟨r, rfl, hintegral, hencode, t, chat, m, t', chat', m', ht, hfields, hencode ▸ ht', hmembers, harranged⟩

end Responses

end ChatOpening
