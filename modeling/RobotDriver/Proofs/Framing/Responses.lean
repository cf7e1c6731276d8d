import RobotDriver.Response
import RobotDriver.Proofs.Ends
import RobotDriver.Proofs.Framing.Lossless

/-!
# A response arrives as it was built

A packet that is built verifies and is taken off the stream as it is, so what a response says depends on its payload
alone. The payload of a Bluetooth answer begins with two fields: `fieldText?_eq_some_iff` reads a field as the text
whose UTF-8 bytes it holds, with NULs behind them (`Padded`), and `exists_fieldText?_iff` says that there is one just
if the field is valid UTF-8.
-/

namespace RobotDriver

/-- The bytes of a text. -/
def utf8 (text : String) : Bytes :=
  text.toByteArray.data.toList

/-- A text in a field of `width` bytes, with NULs behind it. -/
def pad (width : Nat) (text : String) : Bytes :=
  utf8 text ++ List.replicate (width - (utf8 text).length) 0

theorem length_pad {width : Nat} {text : String} (fits : (utf8 text).length ≤ width) :
    (pad width text).length = width := by
  rw [pad, List.length_append, List.length_replicate, Nat.add_sub_cancel' fits]

namespace Status

/-- The status keeps its byte, known or not. -/
theorem code_ofCode (byte : UInt8) : (ofCode byte).code = byte := by
  unfold ofCode
  split <;> rfl

end Status

namespace Response

/-! ## Fields -/

/-- The field holds the text and nothing but NULs behind it, and no NUL at its end is the text's own. -/
def Padded (field : Bytes) (text : String) : Prop :=
  (∃ count, field = utf8 text ++ List.replicate count 0) ∧ text.toList.getLast? ≠ some '\x00'

theorem padded_pad {text : String} (ends : text.toList.getLast? ≠ some '\x00') (width : Nat) :
    Padded (pad width text) text :=
  ⟨⟨_, rfl⟩, ends⟩

/-- What is left of characters when the NULs behind them go. -/
theorem rdropWhile_nul_eq_iff {characters text : List Char} :
    characters.rdropWhile (· == '\x00') = text ↔
      (∃ count, characters = text ++ List.replicate count '\x00') ∧ text.getLast? ≠ some '\x00' := by
  rw [rdropWhile_eq_iff]
  refine and_congr ⟨?_, ?_⟩ ?_
  · rintro ⟨after, rfl, nuls⟩
    have same : after = List.replicate after.length '\x00' :=
      List.eq_replicate_of_mem fun c present => beq_iff_eq.1 (nuls c present)
    exact ⟨after.length, congrArg (text ++ ·) same⟩
  · rintro ⟨count, rfl⟩
    exact ⟨_, rfl, fun c present => beq_iff_eq.2 (List.eq_of_mem_replicate present)⟩
  · cases text.getLast? with
    | none => simp
    | some c => simp

theorem utf8_eq (text : String) : utf8 text = text.toList.flatMap String.utf8EncodeChar := by
  conv_lhs => rw [← String.ofList_toList (s := text), utf8, String.toByteArray_ofList, List.utf8Encode,
    List.toList_data_toByteArray]

/-- A NUL of a text is a zero byte. -/
theorem utf8_append_nuls (text : String) (count : Nat) :
    utf8 (.ofList (text.toList ++ List.replicate count '\x00')) = utf8 text ++ List.replicate count 0 := by
  have nuls : (List.replicate count '\x00').flatMap String.utf8EncodeChar = List.replicate count 0 := by
    rw [List.flatMap_replicate]
    exact List.flatten_replicate_singleton
  rw [utf8_eq, utf8_eq, String.toList_ofList, List.flatMap_append, nuls]

/-- A field of valid UTF-8 is the bytes of a text. -/
theorem fieldText?_utf8 (text : String) :
    fieldText? (utf8 text) = some (.ofList (text.toList.rdropWhile (· == '\x00'))) := by
  have read : String.fromUTF8? ⟨(utf8 text).toArray⟩ = some text := dif_pos text.isValidUTF8
  rw [fieldText?, read]
  rfl

/-- A field that is not valid UTF-8 has no text. -/
theorem fieldText?_of_invalid {field : Bytes} (invalid : ¬ ByteArray.IsValidUTF8 ⟨field.toArray⟩) :
    fieldText? field = none := by
  rw [fieldText?, String.fromUTF8?, dif_neg invalid]
  rfl

theorem exists_utf8_eq {field : Bytes} (valid : ByteArray.IsValidUTF8 ⟨field.toArray⟩) :
    ∃ text, utf8 text = field :=
  ⟨.ofByteArray _ valid, rfl⟩

theorem exists_fieldText?_iff {field : Bytes} :
    (∃ text, fieldText? field = some text) ↔ ByteArray.IsValidUTF8 ⟨field.toArray⟩ := by
  refine ⟨fun ⟨text, read⟩ => by_contra fun invalid => ?_, fun valid => ?_⟩
  · rw [fieldText?_of_invalid invalid] at read
    cases read
  · obtain ⟨text, rfl⟩ := exists_utf8_eq valid
    exact ⟨_, fieldText?_utf8 text⟩

/-- A field is read as the text that it holds, without the NULs behind it. -/
theorem fieldText?_eq_some_iff {field : Bytes} {text : String} :
    fieldText? field = some text ↔ Padded field text := by
  constructor
  · intro read
    obtain ⟨whole, rfl⟩ := exists_utf8_eq (exists_fieldText?_iff.1 ⟨text, read⟩)
    rw [fieldText?_utf8, Option.some.injEq] at read
    have left : whole.toList.rdropWhile (· == '\x00') = text.toList := by rw [← read, String.toList_ofList]
    obtain ⟨⟨count, split⟩, ends⟩ := rdropWhile_nul_eq_iff.1 left
    refine ⟨⟨count, ?_⟩, ends⟩
    rw [← utf8_append_nuls, ← split, String.ofList_toList]
  · rintro ⟨⟨count, rfl⟩, ends⟩
    rw [← utf8_append_nuls, fieldText?_utf8, String.toList_ofList, rdropWhile_nul_eq_iff.2 ⟨⟨count, rfl⟩, ends⟩,
      String.ofList_toList]

/-! ## Bluetooth answers -/

def nameField (payload : Bytes) : Bytes :=
  payload.take nameWidth

def addressField (payload : Bytes) : Bytes :=
  (payload.drop nameWidth).take addressWidth

/-- Both fields are there, and they are valid UTF-8. -/
structure Legible (payload : Bytes) : Prop where
  long : nameWidth + addressWidth ≤ payload.length
  name : ByteArray.IsValidUTF8 ⟨(nameField payload).toArray⟩
  address : ByteArray.IsValidUTF8 ⟨(addressField payload).toArray⟩

/-- Both fields are there, and hold these texts. -/
structure Tells (payload : Bytes) (name address : String) : Prop where
  long : nameWidth + addressWidth ≤ payload.length
  name : Padded (nameField payload) name
  address : Padded (addressField payload) address

theorem legible_iff {payload : Bytes} : Legible payload ↔ ∃ name address, Tells payload name address := by
  constructor
  · rintro ⟨long, nameValid, addressValid⟩
    obtain ⟨name, nameRead⟩ := exists_fieldText?_iff.2 nameValid
    obtain ⟨address, addressRead⟩ := exists_fieldText?_iff.2 addressValid
    exact ⟨name, address, long, fieldText?_eq_some_iff.1 nameRead, fieldText?_eq_some_iff.1 addressRead⟩
  · rintro ⟨name, address, long, nameHeld, addressHeld⟩
    exact ⟨long, exists_fieldText?_iff.1 ⟨name, fieldText?_eq_some_iff.2 nameHeld⟩,
      exists_fieldText?_iff.1 ⟨address, fieldText?_eq_some_iff.2 addressHeld⟩⟩

/-- Texts that fit their fields are told by a payload that holds them padded, whatever follows. -/
theorem tells_pad {name address : String} (nameFits : (utf8 name).length ≤ nameWidth)
    (addressFits : (utf8 address).length ≤ addressWidth) (nameEnds : name.toList.getLast? ≠ some '\x00')
    (addressEnds : address.toList.getLast? ≠ some '\x00') (behind : Bytes) :
    Tells (pad nameWidth name ++ pad addressWidth address ++ behind) name address := by
  have first := length_pad nameFits
  have second := length_pad addressFits
  refine ⟨?_, ?_, ?_⟩
  · rw [List.length_append, List.length_append, first, second]
    exact Nat.le_add_right ..
  · rw [nameField, List.append_assoc, List.take_left' first]
    exact padded_pad nameEnds nameWidth
  · rw [addressField, List.append_assoc, List.drop_left' first, List.take_left' second]
    exact padded_pad addressEnds addressWidth

theorem bluetoothBody_of_tells {payload : Bytes} {name address : String} (tells : Tells payload name address) :
    bluetoothBody payload = .ok (.bluetoothInfo name address) := by
  have nameRead := fieldText?_eq_some_iff.2 tells.name
  have addressRead := fieldText?_eq_some_iff.2 tells.address
  rw [nameField] at nameRead
  rw [addressField] at addressRead
  rw [bluetoothBody, if_neg (Nat.not_lt.2 tells.long), nameRead, addressRead]

theorem bluetoothBody_of_not_legible {payload : Bytes} (illegible : ¬ Legible payload) :
    bluetoothBody payload = .error (.malformedPayload .bluetoothInfo) := by
  unfold bluetoothBody
  split
  · rfl
  · next long =>
    split
    · next name address nameRead addressRead =>
      exact absurd (legible_iff.2 ⟨name, address, Nat.le_of_not_lt long, fieldText?_eq_some_iff.1 nameRead,
        fieldText?_eq_some_iff.1 addressRead⟩) illegible
    · rfl

/-! ## Whole responses -/

/-- The body of a packet that verifies is that of its payload. -/
theorem body_of_ok {p : Packet} (sound : p.verify = .ok ()) {kind : Command.Kind} {body : Body}
    (read : bodyOf kind p.payload = .ok body) : (decode kind p).body = body := by
  simp only [decode, sound, read]

theorem body_of_error {p : Packet} (sound : p.verify = .ok ()) {kind : Command.Kind} {e : PacketError}
    (refused : bodyOf kind p.payload = .error e) : (decode kind p).body = .corrupt e := by
  simp only [decode, sound, refused]

/-- Of an answer to another command than the Bluetooth request the payload is the body. -/
theorem body_plain {p : Packet} (sound : p.verify = .ok ()) {kind : Command.Kind} (other : kind ≠ .getBluetoothInfo) :
    (decode kind p).body = if p.payload.isEmpty then .empty else .raw p.payload := by
  refine body_of_ok sound ?_
  unfold bodyOf
  split
  · contradiction
  · rfl

/-- The body of a Bluetooth answer that cannot be read. -/
theorem body_illegible {p : Packet} (sound : p.verify = .ok ()) (illegible : ¬ Legible p.payload) :
    (decode .getBluetoothInfo p).body = .corrupt (.malformedPayload .bluetoothInfo) :=
  body_of_error sound (bluetoothBody_of_not_legible illegible)

/-- The body of a Bluetooth answer tells the texts that its payload tells, and nothing else is told. -/
theorem body_bluetoothInfo_iff {p : Packet} (sound : p.verify = .ok ()) (name address : String) :
    (decode .getBluetoothInfo p).body = .bluetoothInfo name address ↔ Tells p.payload name address := by
  have told {name address : String} (tells : Tells p.payload name address) :
      (decode .getBluetoothInfo p).body = .bluetoothInfo name address :=
    body_of_ok sound (show bodyOf .getBluetoothInfo p.payload = _ from bluetoothBody_of_tells tells)
  refine ⟨fun body => ?_, told⟩
  by_cases legible : Legible p.payload
  · obtain ⟨name', address', tells⟩ := legible_iff.1 legible
    rw [told tells] at body
    cases body
    exact tells
  · rw [body_illegible sound legible] at body
    cases body

/-- **A response arrives as it was built.** Every payload of at most 254 bytes makes a response packet; whatever bytes
follow it, the framer takes this packet off the stream and leaves them. Read as the answer to a command of any kind, it
gives back its status byte, the kind and its header. The body of an answer to another command than the Bluetooth request
is empty just if the payload is, is otherwise the payload, and never counts as damaged. The body of a Bluetooth answer
is told by its first two fields, the NULs behind their texts left out; it is told just if both are there and are
valid UTF-8, and is malformed otherwise. A name and an address that fit their fields and do not end in a NUL are
therefore read as they were, whatever follows them. -/
theorem decode_build (kind : Command.Kind) (code seq : UInt8) (payload : Bytes) (short : payload.length ≤ 254)
    (more : Bytes) :
    ∃ p, Packet.build responseType code seq payload = .ok p ∧
      Frame.decodeChecked (p.toBytes ++ more) = (.ok (some p), more) ∧
      let response := decode kind p
      response.status.code = code ∧ response.kind = kind ∧ response.header = p.header ∧
      p.header = ⟨startByte, responseType, code, seq, (payload.length + 1).toUInt8⟩ ∧
      (kind ≠ .getBluetoothInfo →
        (response.body = .empty ↔ payload = []) ∧ (response.body = .raw payload ↔ payload ≠ []) ∧
        response.isCorrupt = false) ∧
      (kind = .getBluetoothInfo →
        (∀ name address, response.body = .bluetoothInfo name address ↔ Tells payload name address) ∧
        ((∃ name address, response.body = .bluetoothInfo name address) ↔ Legible payload) ∧
        (¬ Legible payload → response.body = .corrupt (.malformedPayload .bluetoothInfo)) ∧
        ∀ name address behind, payload = pad nameWidth name ++ pad addressWidth address ++ behind →
          (utf8 name).length ≤ nameWidth → (utf8 address).length ≤ addressWidth →
          name.toList.getLast? ≠ some '\x00' → address.toList.getLast? ≠ some '\x00' →
          response.body = .bluetoothInfo name address) := by
  obtain ⟨p, built⟩ : ∃ p, Packet.build responseType code seq payload = .ok p := ⟨_, Packet.build_of_le short⟩
  obtain ⟨whole, sound⟩ := Packet.whole_of_build built
  obtain ⟨header, rfl⟩ := Packet.parts_of_build built
  refine ⟨p, built, ?_, ?_, rfl, rfl, header, fun other => ?_, ?_⟩
  · have taken : Frame.next? (p.toBytes ++ more) = some (.packet p, more) :=
      Frame.next?_toBytes (f := .packet p) whole more
    rw [Frame.decodeChecked_eq, Frame.decode_of_packet taken]
  · show (Status.ofCode p.header.code).code = code
    rw [header, Status.code_ofCode]
  · have body := body_plain sound other
    cases payload : p.payload with
    | nil => simp [isCorrupt, body, payload]
    | cons first rest => simp [isCorrupt, body, payload]
  · rintro rfl
    have told := body_bluetoothInfo_iff sound
    refine ⟨told, by simp only [told, legible_iff], body_illegible sound, ?_⟩
    rintro name address behind laid nameFits addressFits nameEnds addressEnds
    rw [told, laid]
    exact tells_pad nameFits addressFits nameEnds addressEnds behind

/-- A short name and an address that fills its field, with a byte behind them in the payload and one in the stream. -/
theorem decode_build_bluetooth :
    ∃ p, Packet.build responseType 0x00 0x05 (pad nameWidth "BB-8" ++ pad addressWidth "0a1b2c3d4e5f" ++ [0x2A]) =
        .ok p ∧
      Frame.decodeChecked (p.toBytes ++ [0xFF]) = (.ok (some p), [0xFF]) ∧
      (decode .getBluetoothInfo p).body = .bluetoothInfo "BB-8" "0a1b2c3d4e5f" := by
  obtain ⟨p, built, taken, -, -, -, -, -, read⟩ := decode_build .getBluetoothInfo 0x00 0x05
    (pad nameWidth "BB-8" ++ pad addressWidth "0a1b2c3d4e5f" ++ [0x2A]) (by decide) [0xFF]
  have told := (read rfl).2.2.2 "BB-8" "0a1b2c3d4e5f" [0x2A] rfl (by decide) (by decide) (by decide) (by decide)
  exact ⟨p, built, taken, told⟩

end Response

end RobotDriver
