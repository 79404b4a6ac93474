import Mathlib.Data.List.AList

/-!
# Bytes, identifiers and words

The values `client.go` handles below the level of its records: byte strings,
the 16-byte identifiers of conversations and of the session's transport, the
big-endian 32-bit words of `encoding/binary`, wall-clock times, the constants
the file takes from packages it imports, and Go's maps.

A Go map is an `AList`: keys are unique, assignment replaces, `delete` of an
absent key changes nothing. Its order of entries is not an order Go promises;
where `client.go` ranges over a map and the order matters, the model takes the
order as an answer of the environment (`Answers` in `Catshadow.Model.Client`).
-/

namespace Catshadow

/-- A Go `[]byte`. `nil` and the empty slice are the same value here: no code in
`client.go` tells them apart for the slices modelled as `Bytes`. -/
abbrev Bytes := List UInt8

/-- Modelled from the spec: `MessageIDLen` is declared outside `client.go`; the spec
fixes it at 16. -/
def MessageIDLen : Nat := 16

/-- `MessageID`, a `[MessageIDLen]byte` array: the local identifier of a message in a
conversation. -/
structure MessageID where
  /-- The bytes of the array. -/
  bytes : Bytes
  /-- An array has its length. -/
  length_bytes : bytes.length = MessageIDLen
  deriving DecidableEq

/-- A session's transport identifier, `[cConstants.MessageIDLength]byte`, 16 bytes as
the client library declares it. -/
structure TransportID where
  /-- The bytes of the array. -/
  bytes : Bytes
  /-- An array has its length. -/
  length_bytes : bytes.length = 16
  deriving DecidableEq

/-- A `*[cConstants.MessageIDLength]byte`, as the session's events carry their
identifier: an address and the array stored there. -/
structure TransportIDPtr where
  /-- The address: Go compares pointers by it. -/
  addr : Nat
  /-- `*p`, the array it points to. -/
  target : TransportID
  deriving DecidableEq

/-! ### Fallible steps

A step of the model that can stop the program is an `Except`; these lemmas run a
`do` block one step at a time. -/

@[simp] theorem pure_eq_ok {ε α : Type} (a : α) : (pure a : Except ε α) = .ok a := rfl

@[simp] theorem throw_eq_error {ε α : Type} (e : ε) : (throw e : Except ε α) = .error e := rfl

@[simp] theorem ok_bind {ε α β : Type} (a : α) (f : α → Except ε β) :
    (Except.ok a >>= f) = f a := rfl

@[simp] theorem error_bind {ε α β : Type} (e : ε) (f : α → Except ε β) :
    (Except.error e >>= f) = Except.error e := rfl

theorem bind_eq_ok {ε α β : Type} {x : Except ε α} {f : α → Except ε β} {b : β} :
    (x >>= f) = .ok b ↔ ∃ a, x = .ok a ∧ f a = .ok b := by
  cases x <;> simp

theorem map_eq_ok {ε α β : Type} {g : α → β} {x : Except ε α} {b : β} :
    g <$> x = .ok b ↔ ∃ a, x = .ok a ∧ g a = b := by
  cases x <;> simp [Functor.map, Except.map]

/-! ### Big-endian words -/

/-- The byte `n % 256`. -/
def byteOf (n : Nat) : UInt8 := UInt8.ofNat (n % 256)

theorem toNat_byteOf (n : Nat) : (byteOf n).toNat = n % 256 :=
  UInt8.toNat_ofNat_of_lt (Nat.mod_lt _ (by decide))

/-- `binary.BigEndian.PutUint32`: `byte(v >> 24)`, `byte(v >> 16)`, `byte(v >> 8)`,
`byte(v)`. -/
def putUint32 (v : UInt32) : Bytes :=
  [byteOf (v.toNat >>> 24), byteOf (v.toNat >>> 16), byteOf (v.toNat >>> 8), byteOf v.toNat]

@[simp] theorem length_putUint32 (v : UInt32) : (putUint32 v).length = 4 := rfl

/-- `binary.BigEndian.Uint32` of the first four bytes of `b` (Go panics on fewer; every
caller in the model has checked the length): `b[0]<<24 | b[1]<<16 | b[2]<<8 | b[3]`, a sum
since the shifted bytes do not overlap. -/
def uint32 (b : Bytes) : UInt32 :=
  UInt32.ofNat (((b.getD 0 0).toNat <<< 24) + ((b.getD 1 0).toNat <<< 16) +
    ((b.getD 2 0).toNat <<< 8) + (b.getD 3 0).toNat)

/-- Reading back a word written with `putUint32` gives the word, whatever follows it. -/
@[simp] theorem uint32_putUint32_append (v : UInt32) (rest : Bytes) :
    uint32 (putUint32 v ++ rest) = v := by
  have h := v.toNat_lt_size
  apply UInt32.eq_of_toBitVec_eq
  apply BitVec.eq_of_toNat_eq
  show (UInt32.ofNat _).toNat = v.toNat
  simp only [putUint32, List.cons_append, List.getD_cons_zero, List.getD_cons_succ, toNat_byteOf,
    Nat.shiftLeft_eq, Nat.shiftRight_eq_div_pow, Nat.reducePow]
  rw [UInt32.toNat_ofNat_of_lt] <;> simp only [UInt32.size] at * <;> omega

/-- The `MessageID` that `sendReadInbox` builds for a spool sequence number: the zero
array with the number written big-endian into its first four bytes. -/
def sequenceID (sequence : UInt32) : MessageID :=
  ⟨putUint32 sequence ++ List.replicate 12 0, by simp [MessageIDLen]⟩

@[simp] theorem uint32_sequenceID (sequence : UInt32) :
    uint32 (sequenceID sequence).bytes = sequence :=
  uint32_putUint32_append _ _

/-! ### Time and constants -/

/-- A `time.Time`, in nanoseconds. -/
abbrev Time := Int

/-- The constants `client.go` reads from packages it imports. The results hold for every
choice of them. -/
structure Limits where
  /-- `ratchet.MaxMissingMessages`. -/
  MaxMissingMessages : Nat
  /-- `DoubleRatchetPayloadLength`, the size of the buffer a message is framed in. -/
  DoubleRatchetPayloadLength : Nat
  /-- `MessageExpirationDuration`, in nanoseconds. -/
  MessageExpirationDuration : Int
  /-- The buffer holds at least the 4-byte length prefix. -/
  four_le_payloadLength : 4 ≤ DoubleRatchetPayloadLength

/-- The capacity of a slice of pointers after `n` one-element `append`s to an empty
one: `growslice` doubles a full slice's capacity, from one. (Past 1024 elements Go grows
by a quarter; the model only asks whether the capacity reaches 4.) -/
def appendCap : Nat → Nat
  | 0 => 0
  | n + 1 => if n + 1 ≤ appendCap n then appendCap n else max 1 (2 * appendCap n)

/-! ### Maps -/

/-- A Go `map[κ]ν`. -/
abbrev GoMap (κ ν : Type) := AList (fun _ : κ => ν)

/-- Keep the entries whose value satisfies `p`, and change each kept value by `f`,
which the keys do not see: the effect of a `range` loop that edits values in place
and `delete`s entries. -/
def GoMap.filterMapVal {κ ν : Type} (p : ν → Bool) (f : ν → ν) (m : GoMap κ ν) : GoMap κ ν :=
  ⟨(m.entries.filter fun e => p e.2).map fun e => ⟨e.1, f e.2⟩, by
    have h : ((m.entries.filter fun e => p e.2).map fun e => (⟨e.1, f e.2⟩ : Σ _ : κ, ν)).keys =
        (m.entries.filter fun e => p e.2).keys := by
      simp only [List.keys, List.map_map]; rfl
    unfold List.NodupKeys
    rw [h]
    exact m.nodupKeys.sublist (List.filter_sublist _)⟩

private theorem dlookup_filter_map {κ ν : Type} [DecidableEq κ] (p : ν → Bool) (f : ν → ν)
    (k : κ) : ∀ l : List (Σ _ : κ, ν), l.NodupKeys →
    ((l.filter fun e => p e.2).map fun e => (⟨e.1, f e.2⟩ : Σ _ : κ, ν)).dlookup k =
      ((l.dlookup k).filter p).map f
  | [], _ => rfl
  | ⟨a, b⟩ :: l, h => by
    rw [List.nodupKeys_cons] at h
    have ih := dlookup_filter_map p f k l h.2
    by_cases hk : k = a
    · subst hk
      have hn : l.dlookup k = none := List.dlookup_eq_none.mpr h.1
      cases hp : p b <;> simp_all [List.filter_cons, Option.filter]
    · cases hp : p b <;> simp [List.filter_cons, hp, List.dlookup_cons_ne _ ⟨a, _⟩ hk, ih, hk]

@[simp] theorem GoMap.lookup_filterMapVal {κ ν : Type} [DecidableEq κ] (p : ν → Bool)
    (f : ν → ν) (m : GoMap κ ν) (k : κ) :
    (m.filterMapVal p f).lookup k = ((m.lookup k).filter p).map f :=
  dlookup_filter_map p f k m.entries m.nodupKeys

/-- Two passes of `filterMapVal` are one. -/
theorem GoMap.filterMapVal_filterMapVal {κ ν : Type} (p₁ p₂ : ν → Bool) (f₁ f₂ : ν → ν)
    (m : GoMap κ ν) :
    (m.filterMapVal p₁ f₁).filterMapVal p₂ f₂ =
      m.filterMapVal (fun v => p₂ (f₁ v) && p₁ v) (fun v => f₂ (f₁ v)) := by
  ext1
  simp only [GoMap.filterMapVal, List.filter_map, List.map_map, List.filter_filter]
  rfl

theorem GoMap.filterMapVal_congr {κ ν : Type} {p q : ν → Bool} {f g : ν → ν} (hp : ∀ v, p v = q v)
    (hf : ∀ v, q v → f v = g v) (m : GoMap κ ν) : m.filterMapVal p f = m.filterMapVal q g := by
  ext1
  simp only [GoMap.filterMapVal]
  rw [List.filter_congr fun e _ => hp e.2]
  exact List.map_congr_left fun e he => by rw [hf e.2 (List.mem_filter.mp he).2]

end Catshadow
