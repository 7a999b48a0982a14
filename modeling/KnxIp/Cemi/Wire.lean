import KnxIp.Cemi
import KnxIp.Region

/-!
# Messages as octets

A message is its code, the length of its additional information, that information, and a
telegram: the control fields, source and destination, a length octet, and the codes with
the data. The length octet counts what follows the first octet of the codes.

```
code | length n | n octets | control 1 | control 2 | source | destination | length k
     | transport and service | service and short data | data     (k + 1 octets)
```

A telegram without a service has only the first octet of the codes. With a service the
two octets share their bits: six for the transport control and two for the service, then
two for the service and six for short data – or all eight for the service, if data
follows.

There are two ways to write. `KnxIp.Cemi.wire` says what the octets are;
`KnxIp.Cemi.encode` fills a buffer part by part, as far as it reaches.
`KnxIp.Cemi.fill_eq_put_wire` says that the two agree.
-/

namespace KnxIp

/-- The greatest number of octets of a message. -/
def maxCemiSize : Nat := 64

/-! ### Writing a telegram -/

namespace Telegram

/-- The first octet of the codes: the transport control, and below it the two topmost
bits of the service, if there is one. -/
def firstOctet (t : Telegram) : UInt8 :=
  match t.apci with
  | none => t.tpci.octet
  | some apci => UInt8.ofNat (t.tpci.octet.toNat / 4 * 4 + apci.code / 256)

/-- The second octet of the codes: the low bits of the service and short data. -/
def secondOctet (apci : Apci) (data : Apdu) : UInt8 :=
  match data with
  | .short value => UInt8.ofNat (apci.code % 256 ||| value.toNat)
  | .octets _ => UInt8.ofNat (apci.code % 256)

/-- The codes and the data. -/
def payload (t : Telegram) : List UInt8 :=
  match t.apci with
  | none => [t.firstOctet]
  | some apci => t.firstOctet :: secondOctet apci t.data :: t.data.trailing

/-- Whether the destination is a group. -/
def isForGroup (t : Telegram) : Bool := t.destination.kind = .group

/-- The control fields and the addresses. -/
def head (t : Telegram) : List UInt8 :=
  t.control1.raw :: (t.control2.withGroup t.isForGroup).raw ::
    (wordOctets t.source.raw ++ wordOctets t.destination.raw)

/-- The length octet, which counts what follows the first octet of the codes. -/
def lengthOctet (t : Telegram) : UInt8 := UInt8.ofNat (t.payload.length - 1)

/-- **The octets of a telegram.** -/
def wire (t : Telegram) : List UInt8 := t.head ++ t.lengthOctet :: t.payload

/-- The number of octets of a telegram. -/
def size (t : Telegram) : Nat :=
  7 + match t.apci with
    | none => 1
    | some _ => 2 + t.data.trailing.length

theorem length_wire (t : Telegram) : t.wire.length = t.size := by
  unfold wire size head payload wordOctets
  split
  · simp
  · simp only [List.length_append, List.length_cons, List.length_nil]
    omega

theorem size_le (t : Telegram) : t.size ≤ 41 := by
  have h : t.data.trailing.length ≤ 32 := t.data.length_trailing_le
  unfold size
  split <;> omega

/-- Write a telegram into a buffer, of which no part is touched unless there is room for
all of it. -/
def fill (t : Telegram) (r : Region) : Except Fault Region :=
  if r.free.length < t.size then
    .error (.transport .bufferTooSmall)
  else do
    let r ← r.put t.head
    let r ← r.put [t.lengthOctet]
    r.put t.payload

theorem fill_eq_put_wire (t : Telegram) (r : Region) : t.fill r = r.put t.wire := by
  have hw : t.wire = t.head ++ ([t.lengthOctet] ++ t.payload) := by simp [wire]
  unfold fill
  split
  · rename_i h
    rw [← length_wire] at h
    have h' : ¬ t.wire.length ≤ r.free.length := by omega
    simp [Region.put, h']
  · rw [hw, Region.put_append]
    cases h : r.put t.head with
    | error f => rfl
    | ok s => simp only [bind, Except.bind, Region.put_append]

end Telegram

/-! ### Writing a message -/

namespace Cemi

/-- **The octets of a message.** -/
def wire (c : Cemi) : List UInt8 :=
  c.code.octet :: UInt8.ofNat c.info.toList.length :: (c.info.toList ++ c.telegram.wire)

/-- The number of octets of a message. -/
def size (c : Cemi) : Nat := 2 + c.info.toList.length + c.telegram.size

theorem length_wire (c : Cemi) : c.wire.length = c.size := by
  simp [wire, size, Telegram.length_wire]
  omega

theorem length_wire_le (c : Cemi) : c.wire.length ≤ maxCemiSize := by
  have hi : c.info.toList.length ≤ 16 := c.info.length_le
  have ht := c.telegram.size_le
  rw [length_wire]
  unfold size maxCemiSize
  omega

/-- The octets of a message, which are never too many. -/
def octets (c : Cemi) : Octets maxCemiSize := ⟨c.wire, c.length_wire_le⟩

/-- Write a message into a buffer. -/
def fill (c : Cemi) (r : Region) : Except Fault Region := do
  if r.free.length < 2 + c.info.toList.length then
    .error (.transport .bufferTooSmall)
  let r ← r.put [c.code.octet, UInt8.ofNat c.info.toList.length]
  let r ← r.put c.info.toList
  c.telegram.fill r

theorem fill_eq_put_wire (c : Cemi) (r : Region) : c.fill r = r.put c.wire := by
  have hw : c.wire = [c.code.octet, UInt8.ofNat c.info.toList.length] ++
      (c.info.toList ++ c.telegram.wire) := by simp [wire]
  unfold fill
  split
  · rename_i h
    have h' : ¬ c.wire.length ≤ r.free.length := by
      rw [length_wire, size]
      omega
    simp [Region.put, h', bind, Except.bind]
  · rw [hw, Region.put_append]
    cases r.put [c.code.octet, UInt8.ofNat c.info.toList.length] with
    | error f => rfl
    | ok s =>
      simp only [bind, Except.bind, Region.put_append]
      cases s.put c.info.toList with
      | error f => rfl
      | ok u => simp only [Telegram.fill_eq_put_wire]

/-- Write a message into a caller's buffer: the number of octets written, and what the
buffer holds afterwards. -/
def encode (c : Cemi) (buffer : List UInt8) : Except Fault (Nat × List UInt8) := do
  let r ← c.fill (Region.ofBuffer buffer)
  pure (r.written.length, r.content)

/-- Write a message into a fresh buffer of the greatest size. -/
def toBytes (c : Cemi) : Except Fault (List UInt8) := do
  let r ← c.fill (Region.blank maxCemiSize)
  pure r.written

/-- A message always fits into a fresh buffer. -/
theorem toBytes_eq (c : Cemi) : c.toBytes = .ok c.wire := by
  have h := c.length_wire_le
  simp [toBytes, fill_eq_put_wire, Region.put, Region.blank, Region.ofBuffer, h, bind,
    Except.bind, pure, Except.pure]

end Cemi

/-! ### Reading -/

namespace Telegram

/-- The service and the data in the codes; `none` if there is more data than a telegram
keeps. A read without data and a read of short data zero are the same octets, and are
read as the former. -/
def readCodes? : List UInt8 → Option (Tpci × Option Apci × Apdu)
  | [] => none
  | [first] => some (.ofOctet first, none, .empty)
  | [first, second] =>
    let apci := Apci.ofCode (first.toNat % 4 * 256 + second.toNat / 64 * 64)
    let data :=
      if apci = .groupValueRead ∧ second.toNat % 64 = 0 then .empty else .ofLowBits second
    some (.ofOctet (UInt8.ofNat (first.toNat / 4 * 4)), some apci, data)
  | first :: second :: rest =>
    (Octets.ofList? rest).map fun data =>
      (.ofOctet (UInt8.ofNat (first.toNat / 4 * 4)),
        some (Apci.ofCode (first.toNat % 4 * 256 + second.toNat)), .octets data)

/-- Read a telegram off the front of a string. -/
def read : List UInt8 → Except Fault Telegram
  | control1 :: control2 :: sourceHigh :: sourceLow :: high :: low :: length :: rest =>
    if rest.length ≤ length.toNat then
      .error (.decode .invalidCemi)
    else
      match readCodes? (rest.take (length.toNat + 1)) with
      | some (tpci, apci, data) =>
        let kind := if (Control2.mk control2).isGroup then .group else .individual
        .ok
          { control1 := ⟨control1⟩
            control2 := ⟨control2⟩
            source := ⟨word sourceHigh sourceLow⟩
            destination := .ofRaw kind (word high low)
            tpci := tpci
            apci := apci
            data := data }
      | none => .error (.decode .invalidCemi)
  | _ => .error (.decode .invalidCemi)

end Telegram

/-- **Read a message.** What follows the telegram is passed over. -/
def Cemi.parse : List UInt8 → Except Fault Cemi
  | first :: infoLength :: rest =>
    match MessageCode.ofOctet? first with
    | none => .error (.decode .unsupportedMessageCode)
    | some code =>
      if rest.length < infoLength.toNat then
        .error (.decode .invalidCemi)
      else do
        let info ← additionalInfo (rest.take infoLength.toNat)
        let telegram ← Telegram.read (rest.drop infoLength.toNat)
        pure ⟨code, info, telegram⟩
  | _ => .error (.decode .invalidCemi)

end KnxIp
