import Mathlib.Algebra.BigOperators.Fin
import Mathlib.Data.BitVec
import ChatOpening.MessageId
import ChatOpening.Proofs.Opening.FirstMessages
import ChatOpening.Proofs.Text.Encoding
import ChatOpening.Proofs.Text.WhiteSpace

/-!
# Which texts are message ids

The digits of a message id are the first ones of a random identifier, which leaves the bits of version and variant alone.
These first digits say as much as the first 32 bits, and they may be any digits: the bits that a random identifier fixes
stand behind them.

**Input.**  Any text, and any identifiers.

**Results.**
* `Uuid.isVersion4_iff`: the random identifiers are those that the generator makes of random bits.
* `isValid_iff`: the texts that count as message ids.
* `headDigits_injective`, `exists_headDigits`: the first 32 bits and the digits of an id determine each other.
* `isValid_iff_made`: message ids are what is made of random identifiers, and when two of them are the same.
-/

namespace ChatOpening

namespace Uuid

variable {u : Uuid}

section Head

theorem toNat_head (u : Uuid) : u.head.toNat = u.bits.toNat / 2 ^ 96 := by
  have hbits := u.bits.isLt
  rw [head, BitVec.extractLsb'_toNat, Nat.shiftRight_eq_div_pow]
  omega

/-- The first groups of an identifier are those of its first 32 bits. -/
theorem group_eq_head {i : Nat} (hi : i < 8) : u.group i = u.head.toNat / 16 ^ (7 - i) % 16 := by
  have hplace : 16 ^ (groups - 1 - i) = 2 ^ 96 * 16 ^ (7 - i) := by
    rw [groups, show 32 - 1 - i = 24 + (7 - i) by omega, Nat.pow_add]
    rfl
  rw [toNat_head, Nat.div_div_eq_div_mul, ← hplace]
  rfl

end Head

section Random

/-- The bits of version and variant are fixed, and all others are the random ones. -/
theorem getLsbD_version4 (random : BitVec 128) {i : Nat} (hi : i < 128) :
    (version4 random).bits.getLsbD i =
      if 76 ≤ i ∧ i < 80 then decide (i = 78) else if 62 ≤ i ∧ i < 64 then decide (i = 63) else random.getLsbD i := by
  simp only [version4, BitVec.getLsbD_or, BitVec.getLsbD_and, BitVec.getLsbD_not, BitVec.getLsbD_shiftLeft, hi,
    decide_true, Bool.true_and]
  -- What is left is about 128 places and one bit.
  generalize random.getLsbD i = bit
  revert i bit
  decide +kernel

/-- Bits that are cut out are those that stand there. -/
theorem extractLsb'_eq_iff {n start length : Nat} {x : BitVec n} {y : BitVec length} :
    x.extractLsb' start length = y ↔ ∀ j < length, x.getLsbD (start + j) = y.getLsbD j := by
  constructor
  · rintro rfl j hj
    simp [hj]
  · intro h
    refine BitVec.eq_of_getLsbD_eq fun j hj => ?_
    rw [BitVec.getLsbD_extractLsb', h j hj]
    simp [hj]

/-- The two groups that are looked at hold the bits 79 to 76 and 63 to 60. -/
theorem isVersion4_iff_extract :
    u.IsVersion4 ↔ u.bits.extractLsb' 76 4 = 4#4 ∧ u.bits.extractLsb' 62 2 = 2#2 := by
  have hversion : u.group 12 = u.bits.toNat / 2 ^ 76 % 16 := rfl
  have hvariant : u.group 16 = u.bits.toNat / 2 ^ 60 % 16 := rfl
  simp only [IsVersion4, hversion, hvariant, ← BitVec.toNat_inj, BitVec.extractLsb'_toNat,
    Nat.shiftRight_eq_div_pow, BitVec.toNat_ofNat]
  omega

/-- The bits that mark the fourth version. -/
theorem isVersion4_iff_bits :
    u.IsVersion4 ↔ (∀ i, 76 ≤ i ∧ i < 80 → u.bits.getLsbD i = decide (i = 78)) ∧
      ∀ i, 62 ≤ i ∧ i < 64 → u.bits.getLsbD i = decide (i = 63) := by
  have hversion : ∀ j < 4, (4#4).getLsbD j = decide (76 + j = 78) := by decide
  have hvariant : ∀ j < 2, (2#2).getLsbD j = decide (62 + j = 63) := by decide
  rw [isVersion4_iff_extract, extractLsb'_eq_iff, extractLsb'_eq_iff]
  refine and_congr ?_ ?_
  · constructor
    · intro h i hi
      obtain ⟨j, rfl⟩ := Nat.exists_eq_add_of_le hi.1
      exact (h j (by omega)).trans (hversion j (by omega))
    · intro h j hj
      exact (h (76 + j) (by omega)).trans (hversion j hj).symm
  · constructor
    · intro h i hi
      obtain ⟨j, rfl⟩ := Nat.exists_eq_add_of_le hi.1
      exact (h j (by omega)).trans (hvariant j (by omega))
    · intro h j hj
      exact (h (62 + j) (by omega)).trans (hvariant j hj).symm

/-- An identifier is a random one exactly if the generator makes it of some bits. -/
theorem isVersion4_iff : u.IsVersion4 ↔ ∃ random, u = .version4 random := by
  rw [isVersion4_iff_bits]
  constructor
  · rintro ⟨hversion, hvariant⟩
    have hbits : u.bits = (version4 u.bits).bits := by
      refine BitVec.eq_of_getLsbD_eq fun i hi => ?_
      rw [getLsbD_version4 u.bits hi]
      split
      · next h => exact hversion i h
      · split
        · next h => exact hvariant i h
        · rfl
    exact ⟨u.bits, congrArg mk hbits⟩
  · rintro ⟨random, rfl⟩
    constructor
    · intro i hi
      rw [getLsbD_version4 random (by omega), if_pos hi]
    · intro i hi
      rw [getLsbD_version4 random (by omega), if_neg (by omega), if_pos hi]

/-- The first 32 bits of a random identifier are random. -/
theorem head_version4 (random : BitVec 128) : (version4 random).head = random.extractLsb' 96 32 := by
  refine extractLsb'_eq_iff.2 fun j hj => ?_
  rw [getLsbD_version4 random (by omega), if_neg (by omega), if_neg (by omega), BitVec.getLsbD_extractLsb']
  simp [hj]

/-- Each head is that of a UUID of the fourth version. -/
theorem exists_version4 (head : BitVec 32) : ∃ u : Uuid, u.IsVersion4 ∧ u.head = head :=
  ⟨.version4 (head ++ 0#96), isVersion4_iff.2 ⟨_, rfl⟩, (head_version4 _).trans BitVec.extractLsb'_append_eq_left⟩

end Random

end Uuid

namespace MessageId

/-- The digits of an id. -/
def lowerHexDigits : List Char :=
  ['0', '1', '2', '3', '4', '5', '6', '7', '8', '9', 'a', 'b', 'c', 'd', 'e', 'f']

/-- The text is the start of an id with eight digits behind it. -/
def IsMessageId (s : String) : Prop :=
  ∃ digits : List Char, digits.length = 8 ∧ (∀ c ∈ digits, c ∈ lowerHexDigits) ∧ s = "msg_" ++ String.ofList digits

/-- The eight digits of 32 bits. -/
def headDigits (head : BitVec 32) : List Char :=
  (List.range 8).map fun i => Nat.digitChar (head.toNat / 16 ^ (7 - i) % 16)

/-- The groups of four bits of 32 bits, the last one first. -/
def headGroups : BitVec 32 ≃ (Fin 8 → Fin 16) :=
  (BitVec.equivFin.toEquiv.trans (finCongr (by decide))).trans finFunctionFinEquiv.symm

section Texts

variable {s : String} {c : Char} {start cs rest : List Char}

theorem isLowerHex_iff : isLowerHex c = true ↔ c ∈ lowerHexDigits := by
  simp only [isLowerHex, lowerHexDigits, Char.isDigit_iff_toNat, Bool.or_eq_true, Bool.and_eq_true, decide_eq_true_eq,
    List.mem_cons, List.not_mem_nil, or_false, Text.char_eq_iff, Text.char_le_iff, Char.reduceToNat]
  omega

theorem ascii_of_mem_lowerHexDigits (h : c ∈ lowerHexDigits) : c.toNat < 0x80 := by
  simp only [lowerHexDigits, List.mem_cons, List.not_mem_nil, or_false, Text.char_eq_iff, Char.reduceToNat] at h
  omega

/-- All characters of an id are of ASCII. -/
theorem IsMessageId.ascii (h : IsMessageId s) (hc : c ∈ s.toList) : c.toNat < 0x80 := by
  have hstart : ∀ c ∈ "msg_".toList, c.toNat < 0x80 := by
    have hall : "msg_".toList.all (fun c => decide (c.toNat < 0x80)) = true := by decide
    simpa only [List.all_eq_true, decide_eq_true_eq] using hall
  obtain ⟨digits, -, hdigits, rfl⟩ := h
  rw [String.toList_append, List.mem_append] at hc
  rcases hc with hc | hc
  · exact hstart c hc
  · rw [String.toList_ofList] at hc
    exact ascii_of_mem_lowerHexDigits (hdigits c hc)

theorem afterOpening_eq_some_iff : afterOpening start cs = some rest ↔ cs = start ++ rest := by
  induction start generalizing cs with
  | nil => simp [afterOpening]
  | cons s start ih =>
    cases cs with
    | nil => simp [afterOpening]
    | cons c cs =>
      rw [afterOpening]
      split
      · next h => rw [ih, h, List.cons_append, List.cons.injEq]; simp
      · next h => simp [h]

/-- Digits are as many as their bytes. -/
theorem utf8ByteSize_digits (h : ∀ c ∈ cs, c ∈ lowerHexDigits) : (String.ofList cs).utf8ByteSize = cs.length := by
  rw [← Text.length_bytes, Text.bytes_ofList]
  induction cs with
  | nil => rfl
  | cons c cs ih =>
    rw [List.forall_mem_cons] at h
    rw [List.flatMap_cons, Text.utf8EncodeChar_ascii (ascii_of_mem_lowerHexDigits h.1), List.length_append, ih h.2,
      List.length_singleton, List.length_cons, Nat.add_comm]

theorem afterOpening_opening_iff : afterOpening opening s.toList = some rest ↔ s = "msg_" ++ String.ofList rest := by
  have hstart : "msg_" = String.ofList opening := by decide
  rw [afterOpening_eq_some_iff, hstart, ← String.ofList_append, ← String.toList_inj, String.toList_ofList]

/-- A text is a message id exactly if it is the start of one with eight digits behind it. -/
theorem isValid_iff : isValid s = true ↔ IsMessageId s := by
  constructor
  · intro h
    simp only [isValid] at h
    split at h
    · cases h
    · next hex hrest =>
      simp only [Bool.and_eq_true, decide_eq_true_eq, List.all_eq_true, isLowerHex_iff] at h
      obtain ⟨hsize, hdigits⟩ := h
      rw [utf8ByteSize_digits hdigits] at hsize
      exact ⟨hex, hsize, hdigits, afterOpening_opening_iff.1 hrest⟩
  · rintro ⟨digits, hlength, hdigits, hs⟩
    simp only [isValid, afterOpening_opening_iff.2 hs, Bool.and_eq_true, decide_eq_true_eq, List.all_eq_true,
      isLowerHex_iff, utf8ByteSize_digits hdigits]
    exact ⟨hlength, hdigits⟩

end Texts

section Digits

variable {head other : BitVec 32} {digits : List Char}

theorem digitChar_injective : ∀ m < 16, ∀ n < 16, Nat.digitChar m = Nat.digitChar n → m = n := by
  decide

theorem mem_lowerHexDigits_iff {c : Char} : c ∈ lowerHexDigits ↔ ∃ n < 16, Nat.digitChar n = c := by
  have hdigits : lowerHexDigits = (List.range 16).map Nat.digitChar := by decide
  simp only [hdigits, List.mem_map, List.mem_range]

theorem ofUuid_eq (u : Uuid) : ofUuid u = "msg_" ++ String.ofList (headDigits u.head) := by
  have hstart : "msg_" = String.ofList opening := by decide
  have hdigits : u.digits.take digitCount = headDigits u.head := by
    rw [Uuid.digits, ← List.map_take, List.take_range]
    refine List.map_congr_left fun i hi => ?_
    rw [Uuid.group_eq_head (List.mem_range.1 hi)]
  rw [ofUuid, hdigits, String.ofList_append, hstart]

theorem headGroups_val (head : BitVec 32) (i : Fin 8) : (headGroups head i).val = head.toNat / 16 ^ i.val % 16 :=
  rfl

/-- The digits begin with the last one of the groups. -/
theorem headDigits_eq_ofFn (head : BitVec 32) :
    headDigits head = List.ofFn fun i => Nat.digitChar (headGroups head i.rev) := by
  rw [headDigits, List.ofFn_eq_map, ← List.map_coe_finRange_eq_range, List.map_map]
  refine List.map_congr_left fun i _ => ?_
  rw [Function.comp_apply, headGroups_val, Fin.val_rev, show 7 - i.val = 8 - (i.val + 1) by omega]

/-- Heads are told apart by their digits. -/
theorem headDigits_injective (h : headDigits head = headDigits other) : head = other := by
  rw [headDigits_eq_ofFn, headDigits_eq_ofFn] at h
  have hdigits := List.ofFn_injective h
  apply headGroups.injective
  funext i
  have hdigit := congrFun hdigits i.rev
  rw [Fin.rev_rev] at hdigit
  exact Fin.ext (digitChar_injective _ (headGroups head i).isLt _ (headGroups other i).isLt hdigit)

/-- Any eight digits are those of some 32 bits. -/
theorem exists_headDigits (hlength : digits.length = 8) (hdigits : ∀ c ∈ digits, c ∈ lowerHexDigits) :
    ∃ head, headDigits head = digits := by
  have hgroup : ∀ i : Fin 8, ∃ n : Fin 16, Nat.digitChar n = digits.get (i.cast hlength.symm) := by
    intro i
    obtain ⟨n, hn, hchar⟩ := mem_lowerHexDigits_iff.1 (hdigits _ (List.get_mem digits (i.cast hlength.symm)))
    exact ⟨⟨n, hn⟩, hchar⟩
  choose group hgroup using hgroup
  obtain ⟨head, hhead⟩ := headGroups.surjective fun i => group i.rev
  refine ⟨head, ?_⟩
  calc headDigits head
      = List.ofFn fun i => digits.get (i.cast hlength.symm) := by
        simp only [headDigits_eq_ofFn, hhead, Fin.rev_rev, hgroup]
    _ = List.ofFn digits.get := (List.ofFn_congr hlength digits.get).symm
    _ = digits := List.ofFn_get digits

end Digits

section Ids

variable {u v : Uuid}

/-- Ids are the same exactly if the heads are. -/
theorem ofUuid_eq_iff : ofUuid u = ofUuid v ↔ u.head = v.head := by
  rw [ofUuid_eq, ofUuid_eq]
  constructor
  · intro h
    exact headDigits_injective (String.ofList_injective ((String.append_right_inj _).1 h))
  · intro h
    rw [h]

/-- An id is one of those that are accepted. -/
theorem isMessageId_ofUuid (u : Uuid) : IsMessageId (ofUuid u) := by
  refine ⟨headDigits u.head, by simp [headDigits], fun c hc => ?_, ofUuid_eq u⟩
  obtain ⟨i, -, rfl⟩ := List.mem_map.1 hc
  exact mem_lowerHexDigits_iff.2 ⟨_, Nat.mod_lt _ (by decide), rfl⟩

/-- All ids have twelve bytes. -/
theorem utf8ByteSize_of_isMessageId {s : String} (h : IsMessageId s) : s.utf8ByteSize = 12 := by
  obtain ⟨digits, hlength, hdigits, rfl⟩ := h
  rw [String.utf8ByteSize_append, utf8ByteSize_digits hdigits, hlength]
  rfl

/-- Every id that counts as one is made of some random identifier. -/
theorem exists_ofUuid {s : String} (h : IsMessageId s) : ∃ u : Uuid, u.IsVersion4 ∧ ofUuid u = s := by
  obtain ⟨digits, hlength, hdigits, rfl⟩ := h
  obtain ⟨head, rfl⟩ := exists_headDigits hlength hdigits
  obtain ⟨u, hrandom, rfl⟩ := Uuid.exists_version4 head
  exact ⟨u, hrandom, ofUuid_eq u⟩

/-- The messages of a response are named by the first identifiers. -/
theorem ids_of_openChat {service : OpeningService} {ids : Nat → Uuid} {r : OpeningRequest} {response : OpeningResponse}
    (h : (service.openChat ids r).1 = .ok response) :
    response.chat.messages.map (·.id) = [ids 0, ids 1, ids 2].map ofUuid := by
  rcases OpeningService.openChat_cases service ids r with ⟨welcome, briefing, callToAction, -, -, -, hok⟩ |
    ⟨name, -, hfault⟩
  · rw [hok, Except.ok.injEq] at h
    obtain ⟨first, second, hmessages, -, -⟩ :=
      (OpeningService.isResponse_respond ids r welcome briefing callToAction).messages
    rw [← h, hmessages]
    rfl
  · rw [hfault] at h
    cases h

/-- The texts that count as message ids are those that start like one and go on with eight small hexadecimal digits: a text
with a character beyond ASCII is none, however many bytes it has.  They are what is made of random identifiers, and nothing
else: any identifier gives one, of twelve bytes, and each one is given by some random identifier.  An id tells the first 32
bits of its identifier and no others, so the ids of a response are distinct exactly if these bits are. -/
theorem isValid_iff_made :
    (∀ s, isValid s = true ↔ IsMessageId s)
      ∧
    (∀ s, ∀ c ∈ s.toList, 0x80 ≤ c.toNat → isValid s = false)
      ∧
    (∀ u : Uuid, u.IsVersion4 ↔ ∃ random, u = .version4 random)
      ∧
    (∀ u : Uuid, isValid (ofUuid u) = true ∧ (ofUuid u).utf8ByteSize = 12)
      ∧
    (∀ s, isValid s = true → ∃ u : Uuid, u.IsVersion4 ∧ ofUuid u = s)
      ∧
    (∀ u v : Uuid, ofUuid u = ofUuid v ↔ u.head = v.head)
      ∧
    (∀ (service : OpeningService) (ids : Nat → Uuid) (r : OpeningRequest) (response : OpeningResponse),
      (service.openChat ids r).1 = .ok response →
        ((response.chat.messages.map (·.id)).Nodup ↔ ([ids 0, ids 1, ids 2].map Uuid.head).Nodup)) := by
  refine ⟨fun _ => isValid_iff, ?beyond, fun _ => Uuid.isVersion4_iff, ?made, ?valid, fun _ _ => ofUuid_eq_iff, ?named⟩
  case beyond =>
    intro s c hc hbeyond
    rw [Bool.eq_false_iff, Ne, isValid_iff]
    intro hid
    exact absurd (hid.ascii hc) (Nat.not_lt.2 hbeyond)
  case made =>
    intro u
    have hid := isMessageId_ofUuid u
    exact ⟨isValid_iff.2 hid, utf8ByteSize_of_isMessageId hid⟩
  case valid =>
    intro s hs
    exact exists_ofUuid (isValid_iff.1 hs)
  case named =>
    intro service ids r response hresponse
    rw [ids_of_openChat hresponse, List.Nodup, List.pairwise_map, List.Nodup, List.pairwise_map]
    simp only [Ne, ofUuid_eq_iff]

/-- A text may have the bytes of an id and too few characters. -/
example : ("msg_\u00E9abcdef".utf8ByteSize = 12) ∧ isValid "msg_\u00E9abcdef" = false := by
  decide +kernel

end Ids

end MessageId

end ChatOpening
