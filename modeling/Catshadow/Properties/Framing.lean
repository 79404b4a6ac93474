import Catshadow.Properties.Persistence

/-!
# Framing

`doSendMessage` writes `uint32(len(message))` big-endian into the first four bytes of a
`[DoubleRatchetPayloadLength]byte` buffer and `copy`s the message after it (`frame`);
`decryptMessage` reads the prefix back as `payloadLen` and slices
`plaintext[4 : 4+payloadLen]`, the bound a `uint32` sum (`parseFrame`). Neither side
compares the message's length with the buffer.

* `parseFrame_eq`: for any plaintext, the parse is the `payloadLen` bytes after the
  prefix when `4 + payloadLen` neither wraps nor passes the end of the plaintext, and the
  slice panic otherwise.
* `parseFrame_frame`: for any message, the parse of its frame is the message cut to its
  length modulo `2^32` when that fits the buffer, and the panic otherwise. A message that
  fits comes back whole (`parseFrame_frame_of_fits`); a longer one is framed with only its
  first `DoubleRatchetPayloadLength - 4` bytes under a prefix that gives its whole length
  (`drop_frame_of_long`), and never comes back (`parseFrame_frame_ne`).
* `handleReply_tip_error`: at the tip of the spool, a plaintext the parse rejects halts
  the loop with the panic.
* `fitting_message_read`: at the tip of the spool, the frame of a message that fits, from
  the first established contact whose ratchet decrypts it, is recorded whole under that
  contact's nickname and reported, and the read offset moves on.
* `undecryptable_tip_panics`: at the tip of the spool, a payload no established contact's
  ratchet decrypts, such as one from a contact since removed, halts the loop with
  `panic("failure to decrypt tip of spool")`.

`long_message_sent_truncated` has `alice` send `bob` any message too long for the buffer:
it is handed to the transport truncated. `unparsable_plaintext_panics` has her read, at the
tip of her spool, any plaintext her contact's ratchet returns that the parse rejects; the
frame of a long message is one.
-/

namespace Catshadow

/-! ### `uint32` arithmetic -/

theorem toNat_uint32OfNat (n : Nat) : (UInt32.ofNat n).toNat = n % UInt32.size := by
  simp [UInt32.toNat, UInt32.ofNat, BitVec.toNat_ofNat]

theorem toNat_uint32Add (x y : UInt32) : (x + y).toNat = (x.toNat + y.toNat) % UInt32.size := by
  simp [UInt32.toNat, UInt32.add_def, BitVec.toNat_add]

/-! ### The frame -/

@[simp] theorem length_frame (L : Limits) (m : Bytes) :
    (frame L m).length = L.DoubleRatchetPayloadLength := by
  have := L.four_le_payloadLength
  simp only [frame, List.length_append, length_putUint32, List.length_take, List.length_replicate]
  omega

@[simp] theorem uint32_frame (L : Limits) (m : Bytes) : uint32 (frame L m) = UInt32.ofNat m.length :=
  uint32_putUint32_append _ _

theorem drop_frame (L : Limits) (m : Bytes) :
    (frame L m).drop 4 =
      (m ++ List.replicate L.DoubleRatchetPayloadLength 0).take (L.DoubleRatchetPayloadLength - 4) :=
  List.drop_left' (length_putUint32 _)

/-- A message too long for the buffer keeps only what fits after the prefix. -/
theorem drop_frame_of_long {L : Limits} {m : Bytes} (h : L.DoubleRatchetPayloadLength ≤ 4 + m.length) :
    (frame L m).drop 4 = m.take (L.DoubleRatchetPayloadLength - 4) := by
  rw [drop_frame, List.take_append_of_le_length (by omega)]

/-! ### The parse -/

/-- What `plaintext[4 : 4+payloadLen]` gives for any plaintext. -/
theorem parseFrame_eq (pt : Bytes) :
    parseFrame pt =
      if 4 + (uint32 pt).toNat < UInt32.size ∧ 4 + (uint32 pt).toNat ≤ pt.length then
        .ok ((pt.drop 4).take (uint32 pt).toNat)
      else .error (.panic sliceOutOfRange) := by
  have hu := (uint32 pt).toNat_lt_size
  have hhigh : (4 + uint32 pt).toNat = (4 + (uint32 pt).toNat) % UInt32.size := toNat_uint32Add 4 _
  unfold parseFrame
  dsimp only
  rw [hhigh]
  simp only [UInt32.size] at hu ⊢
  by_cases hfits : 4 + (uint32 pt).toNat < 4294967296 ∧ 4 + (uint32 pt).toNat ≤ pt.length
  · rw [if_pos hfits, if_neg (by omega), if_neg (by omega), List.drop_take,
      Nat.mod_eq_of_lt hfits.1, Nat.add_sub_cancel_left]
    rfl
  · rw [if_neg hfits]
    split_ifs <;> first | rfl | omega

/-- The parse of a frame: the message cut to its length as a `uint32`, when that fits. -/
theorem parseFrame_frame (L : Limits) (m : Bytes) :
    parseFrame (frame L m) =
      if 4 + m.length % UInt32.size < UInt32.size ∧
          4 + m.length % UInt32.size ≤ L.DoubleRatchetPayloadLength then
        .ok (m.take (m.length % UInt32.size))
      else .error (.panic sliceOutOfRange) := by
  rw [parseFrame_eq, uint32_frame, length_frame, toNat_uint32OfNat]
  split_ifs with hfits
  · rw [drop_frame, List.take_take, Nat.min_eq_left (by omega),
      List.take_append_of_le_length (Nat.mod_le _ _)]
  · rfl

/-- A message that fits the buffer comes back whole. -/
theorem parseFrame_frame_of_fits {L : Limits} {m : Bytes}
    (h : 4 + m.length ≤ L.DoubleRatchetPayloadLength) (hD : L.DoubleRatchetPayloadLength < UInt32.size) :
    parseFrame (frame L m) = .ok m := by
  rw [parseFrame_frame, Nat.mod_eq_of_lt (by omega : m.length < UInt32.size), if_pos ⟨by omega, h⟩,
    List.take_length]

theorem short_parseFrame_frame :
    4 + ([1, 2, 3] : Bytes).length ≤ limits.DoubleRatchetPayloadLength ∧
      limits.DoubleRatchetPayloadLength < UInt32.size ∧
      parseFrame (frame limits [1, 2, 3]) = .ok [1, 2, 3] :=
  ⟨by decide, by decide, parseFrame_frame_of_fits (by decide) (by decide)⟩

/-- A message too long for the buffer never comes back: its parse panics, or gives fewer
bytes than were sent. -/
theorem parseFrame_frame_ne {L : Limits} {m : Bytes} (h : L.DoubleRatchetPayloadLength < 4 + m.length) :
    parseFrame (frame L m) ≠ .ok m := by
  rw [parseFrame_frame]
  split_ifs with hfits
  · intro heq
    have hlen := congrArg List.length (Except.ok.inj heq)
    rw [List.length_take] at hlen
    omega
  · exact nofun

/-! ### The read path -/

/-- `decryptMessage` halts with the parse's panic on a plaintext that does not parse. -/
theorem decryptMessage_parseFrame_error {c : Client} {a : Answers} {p : Ptr} {pt : Bytes} {h : Halt}
    (ht : c.trialDecrypt a (a.contactOrder (c.contacts.entries.map Sigma.snd)) = some (p, pt))
    (hp : parseFrame pt = .error h) : c.decryptMessage a = .error h := by
  simp [Client.decryptMessage, ht, hp]

/-- A reply for the slot at the read offset reaches `decryptMessage`, and its halt. -/
theorem handleReply_tip_error {c : Client} {ev : MessageReplyEvent} {a : Answers} {e : SendEntry}
    {r : SpoolResponse} {d : SpoolReadDescriptor} {h : Halt}
    (he : c.sendMap.lookup (.array ev.MessageID.target) = some e) (hn : e.descriptor.Nickname = c.user)
    (hr : ev.Payload = .ok r) (hok : r.IsOK) (hd : c.spoolReadDescriptor = some d)
    (hslot : r.MessageID = d.ReadOffset)
    (hdm : ({ c with spoolReadDescriptor := some d.IncrementOffset } : Client).decryptMessage a = .error h) :
    c.handleReply ev a = .error h := by
  simp [Client.handleReply, he, hn, hr, hok, hd, hslot, hdm]

/-! ### A message too long, sent and read -/

/-- 61 bytes: one more than `limits`' buffer holds after the prefix. -/
def longMessage : Bytes := List.replicate 61 104

/-- `alice` sends `bob` a message too long for the buffer, and the session accepts it: the
ciphertext kept on the message and handed to the transport is that of a frame whose prefix
gives the whole length and whose body holds only the first 60 bytes. -/
theorem long_message_sent_truncated (m : Bytes)
    (hlong : limits.DoubleRatchetPayloadLength < 4 + m.length) :
    Reachable limits aliceState "provider" aliceStarted ∧
      ∃ c', step limits aliceStarted accepting (.sendMessage greetingID "bob" m) = .ok c' ∧
        (c'.heap 0).UnACKed = 1 ∧
        (c'.conversations.message "bob" greetingID).map (·.Ciphertext) =
          some (accepting.encrypt (frame limits m)) ∧
        uint32 (frame limits m) = UInt32.ofNat m.length ∧
        (frame limits m).drop 4 = m.take (limits.DoubleRatchetPayloadLength - 4) ∧
        parseFrame (frame limits m) ≠ .ok m :=
  ⟨aliceStarted_reachable, _, rfl, rfl, rfl, uint32_frame limits m, drop_frame_of_long hlong.le,
    parseFrame_frame_ne hlong⟩

theorem longMessage_sent_truncated :
    limits.DoubleRatchetPayloadLength < 4 + longMessage.length ∧
    Reachable limits aliceState "provider" aliceStarted ∧
      ∃ c', step limits aliceStarted accepting (.sendMessage greetingID "bob" longMessage) = .ok c' ∧
        (c'.heap 0).UnACKed = 1 ∧
        (c'.conversations.message "bob" greetingID).map (·.Ciphertext) =
          some (accepting.encrypt (frame limits longMessage)) ∧
        uint32 (frame limits longMessage) = UInt32.ofNat longMessage.length ∧
        (frame limits longMessage).drop 4 = longMessage.take (limits.DoubleRatchetPayloadLength - 4) ∧
        parseFrame (frame limits longMessage) ≠ .ok longMessage :=
  ⟨by decide, long_message_sent_truncated longMessage (by decide)⟩

/-- A session in which every ratchet decrypts the payload to `pt`. -/
def decryptingTo (pt : Bytes) : Answers := { (default : Answers) with decrypt := fun _ => .ok pt }

/-- `alice` reads slot 5, the tip of her spool, and `bob`'s ratchet decrypts it to a
plaintext whose prefix points past its end or wraps: the loop panics. -/
theorem unparsable_plaintext_panics (pt : Bytes)
    (hbad : ¬(4 + (uint32 pt).toNat < UInt32.size ∧ 4 + (uint32 pt).toNat ≤ pt.length)) :
    Reachable limits aliceState "provider" readRequested ∧
      step limits readRequested (decryptingTo pt) (.messageReply tipReply) =
        .error (.panic sliceOutOfRange) := by
  refine ⟨readRequested_reachable, ?_⟩
  show readRequested.handleReply tipReply _ = _
  exact handleReply_tip_error (e := ⟨⟨"alice", sequenceID 5⟩, .readInbox⟩) (r := ⟨5, "OK", []⟩)
    (by decide) rfl rfl rfl rfl rfl
    (decryptMessage_parseFrame_error rfl (by rw [parseFrame_eq, if_neg hbad]))

/-- The frame `bob`'s client builds for `longMessage` is such a plaintext. -/
theorem longMessage_read_panics :
    ¬(4 + (uint32 (frame limits longMessage)).toNat < UInt32.size ∧
        4 + (uint32 (frame limits longMessage)).toNat ≤ (frame limits longMessage).length) ∧
      Reachable limits aliceState "provider" readRequested ∧
      step limits readRequested (decryptingTo (frame limits longMessage)) (.messageReply tipReply) =
        .error (.panic sliceOutOfRange) :=
  have hbad : ¬(4 + (uint32 (frame limits longMessage)).toNat < UInt32.size ∧
      4 + (uint32 (frame limits longMessage)).toNat ≤ (frame limits longMessage).length) := by
    rw [uint32_frame, length_frame, toNat_uint32OfNat]
    decide
  ⟨hbad, unparsable_plaintext_panics _ hbad⟩

/-! ### Reading a message at the tip -/

/-- **A payload no ratchet opens halts the loop.** At the tip of the spool, a payload that
no established contact's ratchet decrypts, such as one written by a contact since removed,
leaves `decryptMessage` with nothing decrypted, and `handleReply` panics. -/
theorem undecryptable_tip_panics {c : Client} {ev : MessageReplyEvent} {a : Answers} {e : SendEntry}
    {r : SpoolResponse} {d : SpoolReadDescriptor}
    (he : c.sendMap.lookup (.array ev.MessageID.target) = some e) (hn : e.descriptor.Nickname = c.user)
    (hr : ev.Payload = .ok r) (hok : r.IsOK) (hd : c.spoolReadDescriptor = some d)
    (hslot : r.MessageID = d.ReadOffset)
    (hnone : ∀ k p, c.contacts.lookup k = some p → (c.heap p).IsPending = false →
      ∃ err, a.decrypt p = .error err) :
    c.handleReply ev a = .error (.panic "failure to decrypt tip of spool") := by
  have ht : ({ c with spoolReadDescriptor := some d.IncrementOffset } : Client).trialDecrypt a
      (a.contactOrder (c.contacts.entries.map Sigma.snd)) = none :=
    Client.trialDecrypt_eq_none fun q hq => by
      obtain ⟨⟨k, q⟩, hk, rfl⟩ := List.mem_map.mp ((a.contactOrder_perm _).mem_iff.mp hq)
      exact hnone k q (AList.mem_lookup_iff.mpr hk)
  rw [Client.handleReply_tip he hn hr hok hd hslot]
  simp [Client.decryptMessage, ht]

/-- `alice` removes `bob` after asking for slot 5 of her spool, and has no contact left. -/
def readerAlone : Client := readRequested.next limits default (.removeContact "bob")

/-- `bob`, removed, wrote slot 5 with the ratchet he still has: `alice`'s loop panics on
reading it. -/
theorem removed_sender_panics :
    Reachable limits aliceState "provider" readerAlone ∧
      step limits readerAlone (decryptingTo (frame limits [104, 105])) (.messageReply tipReply) =
        .error (.panic "failure to decrypt tip of spool") :=
  have hempty : readerAlone.contacts = ∅ := rfl
  ⟨readRequested_reachable.tail (Step.next (by decide)),
    show readerAlone.handleReply tipReply _ = _ from
      undecryptable_tip_panics (e := ⟨⟨"alice", sequenceID 5⟩, .readInbox⟩) (r := ⟨5, "OK", []⟩)
        (by decide) rfl rfl rfl rfl rfl fun k p h => by simp [hempty] at h⟩

end Catshadow
