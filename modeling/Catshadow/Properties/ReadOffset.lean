import Catshadow.Properties.SendMap

/-!
# Read requests and the read offset

`sendReadInbox` stores each read request under the user's nickname with the slot it
asks for, `ReadOffset`, written big-endian into the first four bytes of the
`MessageID`; `handleReply` compares the spool's answer with `ReadOffset` and panics on
an answer past it.

`ReadOffset` is a `uint32`: the read of slot `2^32 - 1` takes it to `0`, and a request
for that slot still outstanding then asks for a slot past the offset. `wrapped_reply_panics`
is such a run: two requests for the last slot, the first answered, the second answered
with the slot it asked for. That answer is a duplicate, which the code means to drop (the
branch for a slot below the offset), but the loop panics with "not requested yet".

Over the runs in which the offset does not wrap (`ReachableNoWrap`), every read
request is for a slot at or below the offset (`ReadBehind`), and an answer for the
slot a request asked for never reaches that panic (`readRequests_stay_behind`).
-/

namespace Catshadow

variable {L : Limits} {s : State} {prov : String} {c c' : Client}

/-! ### Runs without a wrap -/

/-- Every read request in `sendMap` is stored under the user's nickname, for a slot at or
below the read offset. -/
def ReadBehind (c : Client) : Prop :=
  ∀ k e, c.sendMap.lookup k = some e → e.origin = .readInbox →
    e.descriptor.Nickname = c.user ∧
      ∃ d, c.spoolReadDescriptor = some d ∧ uint32 e.descriptor.MessageID.bytes ≤ d.ReadOffset

/-- A step that does not take the read offset back: any step but the one from `2^32 - 1`
to `0`. -/
def NoWrap (c c' : Client) : Prop :=
  ∀ d d', c.spoolReadDescriptor = some d → c'.spoolReadDescriptor = some d' →
    d.ReadOffset ≤ d'.ReadOffset

/-- The states reached by runs in which the read offset never wraps. -/
def ReachableNoWrap (L : Limits) (s : State) (prov : String) (c : Client) : Prop :=
  ∃ a c₀, Start L (New s prov) a = .ok c₀ ∧
    Relation.ReflTransGen (fun c c' => Step L c c' ∧ NoWrap c c') c₀ c

theorem NoWrap.of_eq (h : c'.spoolReadDescriptor = c.spoolReadDescriptor) : NoWrap c c' :=
  fun d d' hd hd' => by rw [h, hd, Option.some.injEq] at hd'; rw [hd']; exact UInt32.le_refl _

/-- A step moves the read offset on by at most one. -/
theorem Effect.spoolReadDescriptor (he : Effect L c c') :
    c'.spoolReadDescriptor = c.spoolReadDescriptor ∨
      ∃ d, c.spoolReadDescriptor = some d ∧
        c'.spoolReadDescriptor = some { d with ReadOffset := d.ReadOffset + 1 } :=
  he.spoolReadDescriptor_or.imp_right fun ⟨_, _, _, _, d, _, _, _, _, _, _, _, _, hd, _, hd', _⟩ =>
    ⟨d, hd, hd'⟩

theorem ReadBehind.step (h : ReadBehind c) (hA : Always c c') (hE : Effect L c c') (hw : NoWrap c c') :
    ReadBehind c' := by
  have hmono : ∀ d, c.spoolReadDescriptor = some d →
      ∃ d', c'.spoolReadDescriptor = some d' ∧ d.ReadOffset ≤ d'.ReadOffset := fun d hd => by
    rcases hE.spoolReadDescriptor with h' | ⟨_, -, h'⟩
    · exact ⟨d, h'.trans hd, UInt32.le_refl _⟩
    · exact ⟨_, h', hw d _ hd h'⟩
  intro k e he ho
  rcases hA.sendMap k e he with hold | ⟨-, hnew⟩
  · obtain ⟨hn, d, hd, hle⟩ := h k e hold ho
    obtain ⟨d', hd', hle'⟩ := hmono d hd
    exact ⟨hA.user ▸ hn, d', hd', UInt32.le_trans hle hle'⟩
  · obtain ⟨d, hd, hdesc⟩ := hnew ho
    obtain ⟨d', hd', hle'⟩ := hmono d hd
    rw [hdesc]
    exact ⟨hA.user.symm, d', hd', by simpa [sequenceID] using hle'⟩

theorem readBehind_of_reachableNoWrap (hr : ReachableNoWrap L s prov c) :
    ReadBehind c ∧ Reachable L s prov c := by
  obtain ⟨a, c₀, h₀, hrun⟩ := hr
  induction hrun with
  | refl => exact ⟨fun k e he => by simp [Start_sendMap h₀, AList.lookup_empty] at he, ⟨a, c₀, h₀, .refl⟩⟩
  | tail _ hs ih =>
    obtain ⟨h, hr⟩ := ih
    obtain ⟨hA, hE⟩ := hs.1.effect hr.unlocked
    exact ⟨h.step hA hE hs.2, hr.tail hs.1⟩

/-! ### The panic for a slot not requested yet -/

theorem parseFrame_error {pt : Bytes} {h : Halt} (he : parseFrame pt = .error h) :
    h = .panic sliceOutOfRange := by
  unfold parseFrame at he
  dsimp only at he
  split at he
  · exact (Except.error.inj he).symm
  · split at he
    · exact (Except.error.inj he).symm
    · cases he

theorem decryptMessage_ne_notRequestedYet {a : Answers} :
    c.decryptMessage a ≠ .error (.panic Client.notRequestedYet) := by
  intro h
  unfold Client.decryptMessage at h
  split at h
  · cases h
  · cases hb : parseFrame ‹Bytes› with
    | error e =>
      simp only [hb, error_bind, Except.error.injEq] at h
      subst h
      exact absurd (parseFrame_error hb) (by decide)
    | ok body =>
      simp only [hb, ok_bind] at h
      obtain ⟨c₁, -, h⟩ := Client.panic_of_bind (fun _ => Client.fatalIfErr_error) h
      rw [Client.lockConversations] at h
      split at h <;> simp at h

/-- A reply to a read request whose answers stay at or below the read offset never reaches
the panic for a slot not requested yet. -/
theorem handleReply_ne_notRequestedYet {ev : MessageReplyEvent} {a : Answers} {e : SendEntry}
    {d : SpoolReadDescriptor} (he : c.sendMap.lookup (.array ev.MessageID.target) = some e)
    (hn : e.descriptor.Nickname = c.user) (hd : c.spoolReadDescriptor = some d)
    (hle : ∀ r, ev.Payload = .ok r → r.MessageID ≤ d.ReadOffset) :
    c.handleReply ev a ≠ .error (.panic Client.notRequestedYet) := by
  intro h
  unfold Client.handleReply at h
  simp only [he, hn, hd, ne_eq, not_true_eq_false, if_false] at h
  split at h
  · obtain ⟨c₁, -, h⟩ := Client.panic_of_bind (fun _ => Client.fatal_error) h
    cases h
  rename_i r hr
  split at h
  · cases h
  split at h
  · cases h
  split at h
  · cases hx : ({ c with spoolReadDescriptor := some d.IncrementOffset } : Client).decryptMessage a with
    | error x =>
      simp only [hx, error_bind, Except.error.injEq] at h
      exact decryptMessage_ne_notRequestedYet (h ▸ hx)
    | ok res =>
      obtain ⟨b, c₁⟩ := res
      cases b <;> simp [hx, Client.notRequestedYet] at h
  · rename_i hlt hne
    exact hlt (UInt32.lt_def.mpr (BitVec.lt_of_le_ne (UInt32.le_def.mp (hle r hr))
      fun h => hne (UInt32.eq_of_toBitVec_eq h)))

/-- **Read requests stay behind the offset, without a wrap.** A step moves the read
offset on by one or leaves it. Over a run in which it never wraps, every read request in
`sendMap` is under the user's nickname, for a slot at or below the offset; so when the
spool answers a request with the slot it asked for, `handleReply` does not panic with
"not requested yet". -/
theorem readRequests_stay_behind (hr : ReachableNoWrap L s prov c) :
    (∀ c', Step L c c' → c'.spoolReadDescriptor = c.spoolReadDescriptor ∨
      ∃ d, c.spoolReadDescriptor = some d ∧
        c'.spoolReadDescriptor = some { d with ReadOffset := d.ReadOffset + 1 }) ∧
    ReadBehind c ∧
    ∀ (ev : MessageReplyEvent) (a : Answers) (e : SendEntry),
      c.sendMap.lookup (.array ev.MessageID.target) = some e → e.origin = .readInbox →
      (∀ r, ev.Payload = .ok r → r.MessageID = uint32 e.descriptor.MessageID.bytes) →
      c.handleReply ev a ≠ .error (.panic Client.notRequestedYet) := by
  obtain ⟨hb, hreach⟩ := readBehind_of_reachableNoWrap hr
  refine ⟨fun c' hs => (hs.effect hreach.unlocked).2.spoolReadDescriptor, hb,
    fun ev a e he ho hans => ?_⟩
  obtain ⟨hn, d, hd, hle⟩ := hb _ e he ho
  exact handleReply_ne_notRequestedYet he hn hd fun r hr => hans r hr ▸ hle

theorem inboxRequested_stays_behind :
    ReachableNoWrap limits aliceState "provider" inboxRequested ∧
    (∀ c', Step limits inboxRequested c' →
      c'.spoolReadDescriptor = inboxRequested.spoolReadDescriptor ∨
      ∃ d, inboxRequested.spoolReadDescriptor = some d ∧
        c'.spoolReadDescriptor = some { d with ReadOffset := d.ReadOffset + 1 }) ∧
    ReadBehind inboxRequested ∧
    ∀ (ev : MessageReplyEvent) (a : Answers) (e : SendEntry),
      inboxRequested.sendMap.lookup (.array ev.MessageID.target) = some e →
      e.origin = .readInbox →
      (∀ r, ev.Payload = .ok r → r.MessageID = uint32 e.descriptor.MessageID.bytes) →
      inboxRequested.handleReply ev a ≠ .error (.panic Client.notRequestedYet) :=
  have hr : ReachableNoWrap limits aliceState "provider" inboxRequested :=
    ⟨withPanda, _, Start_eq_started (by decide),
      .single ⟨Step.next (by decide), NoWrap.of_eq (by decide)⟩⟩
  ⟨hr, readRequests_stay_behind hr⟩

/-! ### A wrap -/

/-- `alice`'s saved state, reading the last slot of her spool. -/
def lastSlotState : State :=
  { aliceState with SpoolReadDescriptor := some ⟨[], [], "alice", "provider", 0xFFFFFFFF⟩ }

/-- A second transport id, and a session that sends the next message under it. -/
def otherTransportID : TransportID := ⟨List.replicate 16 3, rfl⟩

def acceptingOther : Answers := { (default : Answers) with sendUnreliable := .ok otherTransportID }

/-- A session in which every ratchet decrypts the payload to the frame of "A". -/
def decrypting : Answers := { (default : Answers) with decrypt := fun _ => .ok [0, 0, 0, 1, 65] }

/-- Two requests for the last slot, under `transportID` and `otherTransportID`; the first
is answered and the offset wraps to `0`. -/
def wrapped : Client :=
  (((started limits lastSlotState "provider" withPanda).next limits accepting .readInboxTick).next
    limits acceptingOther .readInboxTick).next limits decrypting
    (.messageReply ⟨⟨0, transportID⟩, .ok ⟨0xFFFFFFFF, "OK", []⟩⟩)

/-- After the wrap the second request asks for a slot past the offset, and the spool's
answer for the slot it asked for makes the loop panic. -/
theorem wrapped_reply_panics :
    Reachable limits lastSlotState "provider" wrapped ∧
      wrapped.spoolReadDescriptor.map (·.ReadOffset) = some 0 ∧
      wrapped.sendMap.lookup (.array otherTransportID) =
        some ⟨⟨"alice", sequenceID 0xFFFFFFFF⟩, .readInbox⟩ ∧
      step limits wrapped default
          (.messageReply ⟨⟨1, otherTransportID⟩, .ok ⟨0xFFFFFFFF, "OK", []⟩⟩) =
        .error (.panic Client.notRequestedYet) :=
  have he : wrapped.sendMap.lookup (.array otherTransportID) =
      some ⟨⟨"alice", sequenceID 0xFFFFFFFF⟩, .readInbox⟩ := by decide
  ⟨(((Reachable.start (by decide)).tail (Step.next (by decide))).tail (Step.next (by decide))).tail
      (Step.next (by decide)), by decide, he,
    @handleReply_notRequestedYet wrapped ⟨⟨1, otherTransportID⟩, .ok ⟨0xFFFFFFFF, "OK", []⟩⟩ default
      ⟨⟨"alice", sequenceID 0xFFFFFFFF⟩, .readInbox⟩ ⟨0xFFFFFFFF, "OK", []⟩
      ⟨[], [], "alice", "provider", 0⟩ he (by decide) rfl (by decide) (by decide) (by decide)⟩

end Catshadow
