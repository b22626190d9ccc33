import ChatOpening.Startup.Launch
import ChatOpening.Proofs.Http.Stages
import ChatOpening.Proofs.Text.Encoding
import ChatOpening.Proofs.Text.WhiteSpace

/-!
# Who passes the gate

**Input.**  A configured key, which is any text or none, and headers with any names and any bytes, in any number and
order.

**Results.**
* `firstHeader_eq_some_iff`: what the first header of a name is.
* `visibleText?_eq_some_iff`: which bytes are a text in a header, and which one.
* `closed_ofKey_iff`: the gate of a key is closed to the requests whose first key header is not the key, byte for byte.
* `handle_unauthorized_iff`: which of the requests that are otherwise in order are refused.
-/

namespace ChatOpening

namespace Http

/-- The value is that of the first header of the name, which is given in lower case. -/
def IsFirstHeader (headers : List (String × Bytes)) (name : String) (value : Bytes) : Prop :=
  ∃ earlier spelled later, headers = earlier ++ (spelled, value) :: later ∧ spelled.toLower = name ∧
    ∀ h ∈ earlier, h.1.toLower ≠ name

/-- A visible ASCII character, the blank or the tab, as a byte. -/
def IsHeaderByte (b : UInt8) : Prop :=
  b = 0x09 ∨ (0x20 ≤ b ∧ b ≤ 0x7E)

/-- A visible ASCII character, the blank or the tab. -/
def IsHeaderChar (c : Char) : Prop :=
  c = '\t' ∨ (' ' ≤ c ∧ c ≤ '~')

/-- The first key header of the request is made of header bytes and equals the key byte for byte. -/
def Request.CarriesKey (r : Request) (key : String) : Prop :=
  ∃ value, IsFirstHeader r.headers "x-api-key" value ∧ (∀ b ∈ value, IsHeaderByte b) ∧ value = Text.bytes key

section Headers

variable {headers : List (String × Bytes)} {name : String} {value : Bytes} {b : UInt8} {c : Char} {s : String}

/-- The search for a header finds the first one of the name. -/
theorem firstHeader_eq_some_iff : firstHeader headers name = some value ↔ IsFirstHeader headers name value := by
  simp only [firstHeader, Option.map_eq_some_iff, List.find?_eq_some_iff_append, decide_eq_true_eq,
    Bool.not_eq_true', decide_eq_false_iff_not]
  constructor
  · rintro ⟨⟨spelled, v⟩, ⟨hname, earlier, later, hsplit, hearlier⟩, rfl⟩
    exact ⟨earlier, spelled, later, hsplit, hname, hearlier⟩
  · rintro ⟨earlier, spelled, later, hsplit, hname, hearlier⟩
    exact ⟨(spelled, value), ⟨hname, earlier, later, hsplit, hearlier⟩, rfl⟩

theorem isVisibleByte_iff : isVisibleByte b = true ↔ IsHeaderByte b := by
  simp only [isVisibleByte, IsHeaderByte, Bool.or_eq_true, Bool.and_eq_true, decide_eq_true_eq, UInt8.le_iff_toNat_le,
    UInt8.lt_iff_toNat_lt, ← UInt8.toNat_inj, UInt8.reduceToNat]
  omega

/-- The bytes that are a text in a header are header bytes, and they are the bytes of the text. -/
theorem visibleText?_eq_some_iff :
    visibleText? value = some s ↔ (∀ b ∈ value, IsHeaderByte b) ∧ value = Text.bytes s := by
  simp only [visibleText?]
  split
  · next hall =>
    have hbytes : ∀ b ∈ value, IsHeaderByte b := fun b hb => isVisibleByte_iff.1 (List.all_eq_true.1 hall b hb)
    rw [Text.ofBytes?_eq_some_iff, and_iff_right hbytes]
  · next hall =>
    constructor
    · intro h
      cases h
    · rintro ⟨hbytes, -⟩
      exact absurd (List.all_eq_true.2 fun b hb => isVisibleByte_iff.2 (hbytes b hb)) hall

theorem isHeaderByte_ofNat_iff (h : c.toNat < 0x80) : IsHeaderByte (UInt8.ofNat c.toNat) ↔ IsHeaderChar c := by
  have hsize : c.toNat < UInt8.size := Nat.lt_trans h (by decide)
  simp only [IsHeaderByte, IsHeaderChar, UInt8.le_iff_toNat_le, ← UInt8.toNat_inj, UInt8.toNat_ofNat_of_lt' hsize,
    UInt8.reduceToNat, Text.char_le_iff, Text.char_eq_iff, Char.reduceToNat]

/-- The bytes of a text are header bytes exactly if its characters are header characters. -/
theorem isHeaderByte_bytes_iff : (∀ b ∈ Text.bytes s, IsHeaderByte b) ↔ ∀ c ∈ s.toList, IsHeaderChar c := by
  simp only [Text.bytes_eq_flatMap, List.mem_flatMap]
  constructor
  · intro h c hc
    rcases Nat.lt_or_ge c.toNat 0x80 with hascii | hbeyond
    · rw [← isHeaderByte_ofNat_iff hascii]
      exact h _ ⟨c, hc, by simp [Text.utf8EncodeChar_ascii hascii]⟩
    · -- Some byte of the character has its highest bit set, which no header byte has.
      obtain ⟨b, rest, hcons⟩ := List.exists_cons_of_ne_nil (@String.utf8EncodeChar_ne_nil c)
      have hmem : b ∈ String.utf8EncodeChar c := by simp [hcons]
      have hhigh := Text.high_of_mem_utf8EncodeChar hbeyond hmem
      have hbyte := h b ⟨c, hc, hmem⟩
      simp only [IsHeaderByte, UInt8.le_iff_toNat_le, ← UInt8.toNat_inj, UInt8.reduceToNat] at hbyte hhigh
      omega
  · rintro h b ⟨c, hc, hb⟩
    have hchar := h c hc
    have hascii : c.toNat < 0x80 := by
      simp only [IsHeaderChar, Text.char_le_iff, Text.char_eq_iff, Char.reduceToNat] at hchar
      omega
    rw [Text.utf8EncodeChar_ascii hascii, List.mem_singleton] at hb
    rw [hb, isHeaderByte_ofNat_iff hascii]
    exact hchar

end Headers

section Keys

variable {key : Option String} {k : String} {r : Request}

/-- The key that counts is the configured one, unless that is all white space. -/
theorem effectiveKey_eq_some_iff :
    Gate.effectiveKey key = some k ↔ key = some k ∧ ¬ ∀ c ∈ k.toList, Text.IsWhiteSpace c := by
  rw [Gate.effectiveKey, Option.filter_eq_some_iff, ← Text.isAllBlank_iff, Bool.not_eq_true', Bool.not_eq_true]

/-- A key that counts still counts when it is looked at again. -/
theorem effectiveKey_effectiveKey (key : Option String) :
    Gate.effectiveKey (Gate.effectiveKey key) = Gate.effectiveKey key := by
  simp only [Gate.effectiveKey, Option.filter_filter, Bool.and_self]

/-- The gate reads a key off a request exactly if the request carries it. -/
theorem carriesKey_iff : (r.header? Gate.header >>= visibleText?) = some k ↔ r.CarriesKey k := by
  simp only [Option.bind_eq_bind, Option.bind_eq_some_iff, Request.header?, Gate.header, firstHeader_eq_some_iff,
    visibleText?_eq_some_iff, Request.CarriesKey]

/-- The gate of a key is closed to the requests that do not carry it, if the key counts, and else to none. -/
theorem closed_ofKey_iff :
    (Gate.ofKey key).isOpenTo r ≠ true ↔ ∃ k, Gate.effectiveKey key = some k ∧ ¬ r.CarriesKey k := by
  cases hkey : Gate.effectiveKey key with
  | none => simp [Gate.ofKey, Gate.isOpenTo, hkey]
  | some kept => simp [Gate.ofKey, Gate.isOpenTo, hkey, Option.any_eq_true, ← carriesKey_iff]

/-- Every character of a key that a request carries can stand in a header. -/
theorem isHeaderChar_of_carriesKey (h : r.CarriesKey k) : ∀ c ∈ k.toList, IsHeaderChar c := by
  obtain ⟨value, -, hbytes, rfl⟩ := h
  exact isHeaderByte_bytes_iff.1 hbytes

end Keys

section Unauthorized

open Stage

/-- A request to open a chat whose content type, size and body are in order. -/
structure Request.Acceptable (r : Request) : Prop where
  opensChat : r.OpensChat
  mediaType : Router.isJsonRequest r = true
  size : r.body.length ≤ 2097152
  body : ∃ request, Json.decodeWith .on OpeningRequest r.body = .ok request

variable {router : Router} {ids : Nat → Uuid} {r : Request}

/-- The stages before the gate let the requests pass that are in order. -/
theorem Request.Acceptable.passes (h : r.Acceptable) {s : Stage} (hs : s.rank < Stage.gate.rank) :
    s.refusal router r = none := by
  cases s with
  | mediaType => exact passes_mediaType_iff.2 h.mediaType
  | size => exact passes_size_iff.2 h.size
  | decoding => exact passes_decoding_iff.2 h.body
  | gate => exact absurd hs (by decide)
  | service => exact absurd hs (by decide)

/-- A request that is in order, but for the key, is answered by the gate. -/
theorem handle_of_acceptable (h : r.Acceptable) (hclosed : router.gate.isOpenTo r ≠ true) :
    (router.handle ids r).1 = (Answer.refused 401 "Invalid or missing API key").shared := by
  have hfirst : Stage.gate.IsFirst router r (.refused 401 "Invalid or missing API key") :=
    ⟨refuses_gate_iff.2 ⟨eq_false_of_ne_true hclosed, rfl⟩, fun _ ht => h.passes ht⟩
  rw [handle_of_opensChat h.opensChat, openChat_of_isFirst hfirst]

/-- Of the requests that are in order, those are refused with the status of the gate to which it is not open. -/
theorem handle_status_iff_closed (h : r.Acceptable) :
    (router.handle ids r).1.status = 401 ↔ router.gate.isOpenTo r ≠ true := by
  constructor
  · intro hstatus
    rw [handle_of_opensChat h.opensChat] at hstatus
    rcases exists_isFirst_or_passed router r with ⟨s, a, hfirst⟩ | hpassed
    · rw [openChat_of_isFirst hfirst] at hstatus
      have hs : s = .gate := eq_of_status_mem hfirst.1 (List.mem_singleton.2 hstatus)
      subst hs
      exact ne_true_of_eq_false (refuses_gate_iff.1 hfirst.1).1
    · obtain ⟨request, response, -, -, hanswer⟩ := @openChat_of_passed router ids r hpassed
      rw [hanswer] at hstatus
      cases hstatus
  · intro hclosed
    rw [handle_of_acceptable h hclosed]
    rfl

/-- Of the requests that are in order, those are refused for their key that do not carry a key that counts: their first
key header has other bytes than header bytes, or other bytes than the key. So a key with a character that cannot stand
in a header lets nobody in. A server that has looked at the key before has the same gate. -/
theorem handle_unauthorized_iff (service : OpeningService) (ids : Nat → Uuid) (key : Option String) (r : Request)
    (h : r.Acceptable) :
    (((Router.mk service (.ofKey key)).handle ids r).1.status = 401 ↔
      ∃ k, key = some k ∧ (¬ ∀ c ∈ k.toList, Text.IsWhiteSpace c) ∧ ¬ r.CarriesKey k)
      ∧
    (∀ k, key = some k → (¬ ∀ c ∈ k.toList, Text.IsWhiteSpace c) → (∃ c ∈ k.toList, ¬ IsHeaderChar c) →
      ((Router.mk service (.ofKey key)).handle ids r).1.status = 401)
      ∧
    (∀ address, (Server.configured address service key).1.router = ⟨service, .ofKey key⟩) := by
  have hiff : ((Router.mk service (.ofKey key)).handle ids r).1.status = 401 ↔
      ∃ k, key = some k ∧ (¬ ∀ c ∈ k.toList, Text.IsWhiteSpace c) ∧ ¬ r.CarriesKey k := by
    rw [handle_status_iff_closed h, closed_ofKey_iff]
    simp only [effectiveKey_eq_some_iff, and_assoc]
  refine ⟨hiff, ?_, ?_⟩
  · rintro k hkey hkept ⟨c, hc, hother⟩
    refine hiff.2 ⟨k, hkey, hkept, ?_⟩
    intro hcarries
    exact hother (isHeaderChar_of_carriesKey hcarries c hc)
  · intro address
    simp only [Server.configured, Server.router, Gate.ofKey, effectiveKey_effectiveKey]

/-- A request that is in order and has two key headers. -/
def twoKeys : Request where
  method := "POST"
  target := "/generate-chat-messages"
  headers :=
    [("content-type", Text.bytes "application/json"), ("X-Api-Key", Text.bytes "first"),
      ("x-api-key", Text.bytes "second")]
  body := Text.bytes "[[\"\",\"\",[]],[\"\"]]"

theorem twoKeys_acceptable : twoKeys.Acceptable where
  opensChat := ⟨rfl, by decide⟩
  mediaType := by decide +kernel
  size := by decide
  body := passes_decoding_iff.1 (show refusal ⟨⟨none, .builtIn⟩, ⟨none⟩⟩ twoKeys .decoding = none by decide +kernel)

/-- The second of two key headers opens no gate, the first one does. -/
theorem handle_twoKeys : twoKeys.Acceptable ∧
    ((Router.mk ⟨none, .builtIn⟩ (.ofKey (some "second"))).handle (fun _ => ⟨0⟩) twoKeys).1.status = 401 ∧
    ((Router.mk ⟨none, .builtIn⟩ (.ofKey (some "first"))).handle (fun _ => ⟨0⟩) twoKeys).1.status ≠ 401 := by
  have hfirst : twoKeys.CarriesKey "first" := carriesKey_iff.1 (by decide +kernel)
  have hsecond : ¬ twoKeys.CarriesKey "second" := fun h => absurd (carriesKey_iff.2 h) (by decide +kernel)
  have hkept : ¬ ∀ c ∈ "second".toList, Text.IsWhiteSpace c := fun h => absurd (h 's' (by decide)) (by decide)
  refine ⟨twoKeys_acceptable, ?_, ?_⟩
  · exact (handle_unauthorized_iff _ _ (some "second") twoKeys twoKeys_acceptable).1.2 ⟨"second", rfl, hkept, hsecond⟩
  · intro hstatus
    obtain ⟨k, hk, -, hcarries⟩ :=
      (handle_unauthorized_iff _ _ (some "first") twoKeys twoKeys_acceptable).1.1 hstatus
    cases hk
    exact hcarries hfirst

end Unauthorized

end Http

end ChatOpening
