import OpenSDG.Connection

/-!
# The two-phase frame reader

`receive_packet` first pumps bytes into `receiveBuffer`: the 2-byte big-endian length, then the
body, over as many calls as the socket needs.  `readPacket` is a literal transcription of
`receive_packet` up to its `if (ret <= 0) return ret;`; `receivePacket` (`Tunnel.lean`) runs it
and then dispatches the frame.

* `readPacket_bound`, `readPacket_stores_below` — from a state with
  `bytesReceived + bytesLeft ≤ bufferSize` (and `bufferSize ≥ 2`), every `receive_data` call the
  reader makes starts from such a state, so no byte is stored at or past `bufferSize`, and the
  bound holds again afterwards.
* `readPacket_oversize` — a declared length `L` with `L + 2 > bufferSize` makes the call return
  `-1` with `osdg_buffer_exceeded`, having stored nothing but the two length bytes.
* `readPacket_frame` — the step lemma of the framing argument: from a state `Reading` a frame
  at some position, one call either stays inside the same frame, or completes it, leaving the
  whole frame in `receiveBuffer[0 .. L + 2)` and returning `L + 2`.
-/

set_option autoImplicit false

namespace OpenSDG

/-- Modelled from the spec: `receive_data` (socket.c) is absent.  A `recv` of at most
`bytesLeft` bytes into `receiveBuffer[bytesReceived]`, of which the socket delivers `avail`
(fewer if the stream ends); it returns `bytesReceived` once `bytesLeft` reaches 0, and 0 while
bytes are missing. -/
def receiveData (avail : Nat) (c : Connection) : Int × Connection :=
  let chunk := c.rx.take (min avail c.bytesLeft)
  let c := { c with receiveBuffer := c.receiveBuffer.write c.bytesReceived chunk
                    bytesReceived := c.bytesReceived + chunk.length
                    bytesLeft := c.bytesLeft - chunk.length
                    rx := c.rx.drop chunk.length }
  (if c.bytesLeft = 0 then c.bytesReceived else 0, c)

/-- `receive_packet` up to `if (ret <= 0) return ret;`: reset to a 2-byte length read when the
previous frame is complete, read, and on a complete length check it against `bufferSize` and
read the body. -/
def readPacket (e : Env) (c : Connection) : Int × Connection :=
  let c := if c.bytesLeft = 0 then { c with bytesReceived := 0, bytesLeft := 2 } else c
  let r := receiveData e.firstRead c
  if r.1 = 2 then
    let size := be16Value r.2.receiveBuffer 0
    if r.2.bufferSize < size + 2 then (-1, { r.2 with errorKind := .bufferExceeded })
    else receiveData e.secondRead { r.2 with bytesLeft := size }
  else r

/-! ## `receive_data` -/

section ReceiveData

variable (a : Nat) (c : Connection)

/-- The number of bytes one `receive_data` call stores. -/
def chunkLength : Nat := min (min a c.bytesLeft) c.rx.length

theorem chunkLength_le_left : chunkLength a c ≤ c.bytesLeft := by
  simp only [chunkLength]; omega

theorem receiveData_eq : receiveData a c =
    (if c.bytesLeft - chunkLength a c = 0 then ((c.bytesReceived + chunkLength a c : Nat) : Int) else 0,
      { c with receiveBuffer := c.receiveBuffer.write c.bytesReceived (c.rx.take (min a c.bytesLeft))
               bytesReceived := c.bytesReceived + chunkLength a c
               bytesLeft := c.bytesLeft - chunkLength a c
               rx := c.rx.drop (chunkLength a c) }) := by
  simp only [receiveData, chunkLength, List.length_take]

@[simp] theorem receiveData_bufferSize : (receiveData a c).2.bufferSize = c.bufferSize := rfl
@[simp] theorem receiveData_errorKind : (receiveData a c).2.errorKind = c.errorKind := rfl
@[simp] theorem receiveData_trace : (receiveData a c).2.trace = c.trace := rfl
@[simp] theorem receiveData_nonce : (receiveData a c).2.nonce = c.nonce := rfl
@[simp] theorem receiveData_rx : (receiveData a c).2.rx = c.rx.drop (chunkLength a c) := by
  simp [receiveData_eq]

theorem receiveData_counters :
    (receiveData a c).2.bytesReceived = c.bytesReceived + chunkLength a c ∧
      (receiveData a c).2.bytesLeft = c.bytesLeft - chunkLength a c := by
  simp [receiveData_eq]

/-- `receive_data` stores only into `[bytesReceived, bytesReceived + bytesLeft)`. -/
theorem receiveData_stores_within {i : Nat} (h : i < c.bytesReceived ∨ c.bytesReceived + c.bytesLeft ≤ i) :
    (receiveData a c).2.receiveBuffer i = c.receiveBuffer i := by
  have hk : (c.rx.take (min a c.bytesLeft)).length ≤ c.bytesLeft := by
    simp only [List.length_take]; omega
  simp only [receiveData]
  rcases h with h | h
  · exact Mem.write_of_lt _ h
  · exact Mem.write_of_ge (by omega)

/-- A positive return of `receive_data` is the new `bytesReceived`. -/
theorem receiveData_ret_pos (h : 0 < (receiveData a c).1) :
    (receiveData a c).1 = (receiveData a c).2.bytesReceived := by
  rw [receiveData_eq] at h ⊢
  split at h <;> simp_all

/-- A call of `receive_data` that returns the `bytesReceived` it started from had nothing left
to read, and stores nothing. -/
theorem receiveData_empty {a : Nat} {c : Connection} (h : (receiveData a c).1 = c.bytesReceived)
    (hpos : 0 < c.bytesReceived) : c.bytesLeft = 0 ∧ (receiveData a c).2.receiveBuffer = c.receiveBuffer := by
  have hk := chunkLength_le_left a c
  have hleft : c.bytesLeft = 0 := by
    rw [receiveData_eq] at h
    split at h <;> omega
  exact ⟨hleft, funext fun i => receiveData_stores_within a c (by omega)⟩

theorem receiveData_bytesReceived_le : c.bytesReceived ≤ (receiveData a c).2.bytesReceived := by
  rw [(receiveData_counters a c).1]; omega

/-- A call of `receive_data` that returns `0` from a started read leaves bytes to read. -/
theorem receiveData_zero {a : Nat} {c : Connection} (h : (receiveData a c).1 = 0)
    (hpos : 0 < c.bytesReceived + c.bytesLeft) : (receiveData a c).2.bytesLeft ≠ 0 := by
  have hk := chunkLength_le_left a c
  rw [receiveData_eq] at h ⊢
  dsimp only
  split at h <;> omega

/-- `receive_data` stores nothing at or past the new `bytesReceived`. -/
theorem receiveData_stores_past {i : Nat} (h : (receiveData a c).2.bytesReceived ≤ i) :
    (receiveData a c).2.receiveBuffer i = c.receiveBuffer i := by
  rw [(receiveData_counters a c).1] at h
  simp only [receiveData]
  exact Mem.write_of_ge (by simp only [List.length_take, chunkLength] at h ⊢; omega)

end ReceiveData

/-! ## The buffer bound -/

/-- `bytesLeft + bytesReceived ≤ bufferSize` (specification §3). -/
def ReaderBound (c : Connection) : Prop := c.bytesReceived + c.bytesLeft ≤ c.bufferSize

instance : DecidablePred ReaderBound := fun _ => inferInstanceAs (Decidable (_ ≤ _))

theorem receiveData_bound (a : Nat) {c : Connection} (h : ReaderBound c) : ReaderBound (receiveData a c).2 := by
  have := chunkLength_le_left a c
  obtain ⟨h₁, h₂⟩ := receiveData_counters a c
  simp only [ReaderBound, receiveData_bufferSize, h₁, h₂] at h ⊢
  omega

/-- From a state within the bound, `receive_data` stores nothing at or past `bufferSize`. -/
theorem receiveData_stores_below (a : Nat) {c : Connection} (h : ReaderBound c) {i : Nat}
    (hi : c.bufferSize ≤ i) : (receiveData a c).2.receiveBuffer i = c.receiveBuffer i :=
  receiveData_stores_within a c (Or.inr (by unfold ReaderBound at h; omega))

/-- The state the first `receive_data` call of `receive_packet` starts from. -/
def resetReader (c : Connection) : Connection :=
  if c.bytesLeft = 0 then { c with bytesReceived := 0, bytesLeft := 2 } else c

theorem readPacket_eq (e : Env) (c : Connection) : readPacket e c =
    let r := receiveData e.firstRead (resetReader c)
    if r.1 = 2 then
      if r.2.bufferSize < be16Value r.2.receiveBuffer 0 + 2 then (-1, { r.2 with errorKind := .bufferExceeded })
      else receiveData e.secondRead { r.2 with bytesLeft := be16Value r.2.receiveBuffer 0 }
    else r := rfl

/-- The three ways the reader ends: after the first `receive_data` call, on an oversize length,
or after the body read. -/
theorem readPacket_cases (e : Env) (c : Connection) :
    let r := receiveData e.firstRead (resetReader c)
    readPacket e c = r ∨ readPacket e c = (-1, { r.2 with errorKind := .bufferExceeded }) ∨
      (r.1 = 2 ∧ readPacket e c = receiveData e.secondRead { r.2 with bytesLeft := be16Value r.2.receiveBuffer 0 }) := by
  intro r
  have hr : readPacket e c = if r.1 = 2 then
      (if r.2.bufferSize < be16Value r.2.receiveBuffer 0 + 2 then (-1, { r.2 with errorKind := .bufferExceeded })
        else receiveData e.secondRead { r.2 with bytesLeft := be16Value r.2.receiveBuffer 0 })
      else r := readPacket_eq e c
  rw [hr]
  split_ifs with h₂
  · exact .inr (.inl rfl)
  · exact .inr (.inr ⟨h₂, rfl⟩)
  · exact .inl rfl

theorem resetReader_bound {c : Connection} (hs : 2 ≤ c.bufferSize) (h : ReaderBound c) :
    ReaderBound (resetReader c) := by
  unfold resetReader; split <;> simp_all [ReaderBound]

@[simp] theorem resetReader_receiveBuffer (c : Connection) : (resetReader c).receiveBuffer = c.receiveBuffer := by
  unfold resetReader; split <;> rfl

@[simp] theorem resetReader_bufferSize (c : Connection) : (resetReader c).bufferSize = c.bufferSize := by
  unfold resetReader; split <;> rfl

@[simp] theorem resetReader_trace (c : Connection) : (resetReader c).trace = c.trace := by
  unfold resetReader; split <;> rfl

@[simp] theorem resetReader_nonce (c : Connection) : (resetReader c).nonce = c.nonce := by
  unfold resetReader; split <;> rfl

@[simp] theorem resetReader_errorKind (c : Connection) : (resetReader c).errorKind = c.errorKind := by
  unfold resetReader; split <;> rfl

@[simp] theorem resetReader_rx (c : Connection) : (resetReader c).rx = c.rx := by
  unfold resetReader; split <;> rfl

/-- After the reset the current phase has bytes to go: a finished frame starts a 2-byte length
read. -/
theorem resetReader_bytesLeft_pos (c : Connection) : 0 < (resetReader c).bytesLeft := by
  unfold resetReader; split
  · exact Nat.two_pos
  · exact Nat.pos_of_ne_zero ‹_›

/-- After a complete length, the body read starts at `bytesReceived = 2` with `bytesLeft` the
declared size, which passed the check. -/
theorem body_bound {c : Connection} {a : Nat} (h2 : (receiveData a c).1 = 2) {n : Nat} (hn : ¬ c.bufferSize < n + 2) :
    ReaderBound { (receiveData a c).2 with bytesLeft := n } := by
  obtain ⟨h₁, h₂⟩ := receiveData_counters a c
  rw [receiveData_eq] at h2
  have := chunkLength_le_left a c
  split at h2 <;> simp_all [ReaderBound]
  omega

/-- **Every state `receive_packet` leaves is within the bound.** -/
theorem readPacket_bound (e : Env) {c : Connection} (hs : 2 ≤ c.bufferSize) (h : ReaderBound c) :
    ReaderBound (readPacket e c).2 := by
  have h₀ := resetReader_bound hs h
  rw [readPacket_eq]
  dsimp only
  split
  · split
    · exact receiveData_bound _ h₀
    · exact receiveData_bound _ (body_bound ‹_› ‹_›)
  · exact receiveData_bound _ h₀

/-- **No `receive_data` call of `receive_packet` stores at or past `bufferSize`.** -/
theorem readPacket_stores_below (e : Env) {c : Connection} (hs : 2 ≤ c.bufferSize) (h : ReaderBound c)
    {i : Nat} (hi : c.bufferSize ≤ i) : (readPacket e c).2.receiveBuffer i = c.receiveBuffer i := by
  have h₀ := resetReader_bound hs h
  have h₁ := receiveData_stores_below e.firstRead h₀ (i := i) (by simpa using hi)
  rw [resetReader_receiveBuffer] at h₁
  rw [readPacket_eq]
  dsimp only
  split
  · split
    · exact h₁
    · rw [receiveData_stores_below _ (body_bound ‹_› ‹_›) (by simpa using hi)]
      exact h₁
  · exact h₁

/-- **An oversize length stops the reader**: `-1`, `osdg_buffer_exceeded`, and the state of
the completed length read otherwise unchanged — no body byte stored. -/
theorem readPacket_oversize (e : Env) (c : Connection)
    (h2 : (receiveData e.firstRead (resetReader c)).1 = 2)
    (hL : c.bufferSize < be16Value (receiveData e.firstRead (resetReader c)).2.receiveBuffer 0 + 2) :
    readPacket e c = (-1, { (receiveData e.firstRead (resetReader c)).2 with errorKind := .bufferExceeded }) := by
  rw [readPacket_eq]
  simp only [h2, receiveData_bufferSize, resetReader_bufferSize, hL, if_true]

/-- **An empty frame**: a call of the reader that returns `2` has read the declared length `0`,
and has stored nothing at or past byte `2`. -/
theorem readPacket_empty_frame (e : Env) (c : Connection) (h : (readPacket e c).1 = 2) :
    be16Value (readPacket e c).2.receiveBuffer 0 = 0 ∧
      ∀ i, 2 ≤ i → (readPacket e c).2.receiveBuffer i = c.receiveBuffer i := by
  rw [readPacket_eq] at h ⊢
  dsimp only at h ⊢
  by_cases h₁ : (receiveData e.firstRead (resetReader c)).1 = 2
  swap
  · rw [if_neg h₁] at h; exact absurd h h₁
  rw [if_pos h₁] at h ⊢
  generalize hr : receiveData e.firstRead (resetReader c) = r at h h₁ ⊢
  have hb₁ : r.2.bytesReceived = 2 := by
    have := hr ▸ receiveData_ret_pos e.firstRead (resetReader c) (by rw [hr, h₁]; decide); omega
  by_cases hL : r.2.bufferSize < be16Value r.2.receiveBuffer 0 + 2
  · rw [if_pos hL] at h; simp at h
  rw [if_neg hL] at h ⊢
  obtain ⟨hsize, hbuf⟩ := receiveData_empty (h.trans (by dsimp only; omega)) (by dsimp only; omega)
  rw [hbuf]
  exact ⟨hsize, fun i hi => by
    rw [← hr, receiveData_stores_past _ _ (by rw [hr]; omega), resetReader_receiveBuffer]⟩

/-- The reader stores nothing at or past the `bytesReceived` it ends with, which is at least
where the reset put it. -/
theorem readPacket_stores_past (e : Env) (c : Connection) :
    (resetReader c).bytesReceived ≤ (readPacket e c).2.bytesReceived ∧
      ∀ i, (readPacket e c).2.bytesReceived ≤ i → (readPacket e c).2.receiveBuffer i = c.receiveBuffer i := by
  have h₁ : ∀ i, (receiveData e.firstRead (resetReader c)).2.bytesReceived ≤ i →
      (receiveData e.firstRead (resetReader c)).2.receiveBuffer i = c.receiveBuffer i := fun i hi => by
    rw [receiveData_stores_past _ _ hi, resetReader_receiveBuffer]
  have h₀ := receiveData_bytesReceived_le e.firstRead (resetReader c)
  rcases readPacket_cases e c with h | h | ⟨-, h⟩ <;> rw [h]
  · exact ⟨h₀, h₁⟩
  · exact ⟨h₀, h₁⟩
  · have h₂ := receiveData_bytesReceived_le e.secondRead
      { (receiveData e.firstRead (resetReader c)).2 with
        bytesLeft := be16Value (receiveData e.firstRead (resetReader c)).2.receiveBuffer 0 }
    exact ⟨h₀.trans h₂, fun i hi => (receiveData_stores_past _ _ hi).trans (h₁ i (h₂.trans hi))⟩

/-- A non-negative return of the reader leaves the error kind, and a positive one is the
`bytesReceived` it ends with. -/
theorem readPacket_ret_nonneg (e : Env) (c : Connection) (h : 0 ≤ (readPacket e c).1) :
    (readPacket e c).2.errorKind = c.errorKind ∧
      (0 < (readPacket e c).1 → (readPacket e c).1 = (readPacket e c).2.bytesReceived) := by
  rcases readPacket_cases e c with h' | h' | ⟨-, h'⟩ <;> rw [h'] at h ⊢
  · exact ⟨by simp, receiveData_ret_pos _ _⟩
  · simp at h
  · exact ⟨by simp, receiveData_ret_pos _ _⟩

/-- A call of the reader that returns `0` leaves bytes to read. -/
theorem readPacket_zero (e : Env) (c : Connection) (h : (readPacket e c).1 = 0) :
    (readPacket e c).2.bytesLeft ≠ 0 := by
  have h₀ : 0 < (resetReader c).bytesReceived + (resetReader c).bytesLeft := by
    unfold resetReader; split
    · simp
    · omega
  rcases readPacket_cases e c with h' | h' | ⟨h₂, h'⟩ <;> rw [h'] at h ⊢
  · exact receiveData_zero h h₀
  · simp at h
  · have := receiveData_ret_pos _ _ (by rw [h₂]; decide : (0 : Int) < (receiveData e.firstRead (resetReader c)).1)
    exact receiveData_zero h (by dsimp only; omega)

/-- `c'` is `c` with only the reader's fields and the error kind changed. -/
def ReaderOnly (c c' : Connection) : Prop :=
  c' = { c with receiveBuffer := c'.receiveBuffer, bytesReceived := c'.bytesReceived,
                bytesLeft := c'.bytesLeft, rx := c'.rx, errorKind := c'.errorKind }

theorem ReaderOnly.eq {c c' : Connection} (h : ReaderOnly c c') :
    c' = { c with receiveBuffer := c'.receiveBuffer, bytesReceived := c'.bytesReceived,
                  bytesLeft := c'.bytesLeft, rx := c'.rx, errorKind := c'.errorKind } := h

theorem ReaderOnly.trans {c c' c'' : Connection} (h₁ : ReaderOnly c c') (h₂ : ReaderOnly c' c'') :
    ReaderOnly c c'' := by
  unfold ReaderOnly at *; rw [h₂, h₁]

theorem readerOnly_update (c : Connection) (m : Mem) (br bl : Nat) (rx : Bytes) (ek : ErrorKind) :
    ReaderOnly c { c with receiveBuffer := m, bytesReceived := br, bytesLeft := bl, rx := rx, errorKind := ek } :=
  rfl

theorem receiveData_readerOnly (a : Nat) (c : Connection) : ReaderOnly c (receiveData a c).2 := rfl

/-- The reader of `receive_packet` writes nothing but its own fields and, on an oversize length,
the error kind. -/
theorem readPacket_readerOnly (e : Env) (c : Connection) : ReaderOnly c (readPacket e c).2 := by
  have h₀ : ReaderOnly c (resetReader c) := by unfold resetReader; split <;> rfl
  have h₁ := h₀.trans (receiveData_readerOnly e.firstRead _)
  rw [readPacket_eq]; dsimp only
  split
  · split
    · exact h₁.trans (readerOnly_update _ _ _ _ _ _)
    · exact (h₁.trans (readerOnly_update _ _ _ _ _ _)).trans (receiveData_readerOnly _ _)
  · exact h₁

@[simp] theorem readPacket_bufferSize (e : Env) (c : Connection) :
    (readPacket e c).2.bufferSize = c.bufferSize := by
  rw [(readPacket_readerOnly e c).eq]

/-- **The reader makes progress.**  A call whose first `recv` delivers a byte takes at least one
byte off a stream that holds one; no call puts bytes back.  (The body read only takes more, and an
oversize length ends the call after the length bytes were taken.) -/
theorem readPacket_rx_length (e : Env) (c : Connection) (ha : 0 < e.firstRead) :
    (readPacket e c).2.rx.length ≤ c.rx.length - 1 := by
  have h₁ : (receiveData e.firstRead (resetReader c)).2.rx.length ≤ c.rx.length - 1 := by
    have := resetReader_bytesLeft_pos c
    simp only [receiveData_rx, List.length_drop, resetReader_rx, chunkLength]
    omega
  rcases readPacket_cases e c with h | h | ⟨-, h⟩ <;> rw [h]
  · exact h₁
  · exact h₁
  · rw [receiveData_rx, List.length_drop]
    exact (Nat.sub_le _ _).trans h₁

/-! ## Reading a stream of frames -/

/-- A frame of the stream: a 2-byte big-endian length `L`, then `L` bytes, fitting the receive
buffer (`L + 2 ≤ bufferSize`). -/
structure Frame (bufferSize : Nat) where
  body : Bytes
  length_lt : body.length < 65536
  fits : body.length + 2 ≤ bufferSize

/-- The bytes of a frame on the wire. -/
def Frame.bytes {n : Nat} (fr : Frame n) : Bytes := be16 fr.body.length ++ fr.body

@[simp] theorem Frame.bytes_length {n : Nat} (fr : Frame n) : fr.bytes.length = fr.body.length + 2 := by
  simp [Frame.bytes]; omega

/-- A buffer holding the first two bytes of a frame reads back its declared length. -/
theorem Frame.be16Value_of_agree {n : Nat} (fr : Frame n) {m : Mem}
    (h : ∀ i, i < 2 → m i = fr.bytes.getD i 0) : be16Value m 0 = fr.body.length := by
  have hL := fr.length_lt
  simp only [be16Value, h 0 (by omega), h 1 (by omega), Frame.bytes, be16, beBytes]
  simp [toNat_toUInt8]
  omega

/-- The reader is `p` bytes into the frame `f`: those bytes are in the buffer, and either the
previous frame is finished (`bytesLeft = 0`, nothing of `f` read yet) or the current phase —
the 2-byte length, or the body — has `bytesLeft` bytes to go. -/
structure Reading (c : Connection) (f : Bytes) (p : Nat) : Prop where
  lt : p < f.length
  buffer : ∀ i, i < p → c.receiveBuffer i = f.getD i 0
  phase : (p = 0 ∧ c.bytesLeft = 0) ∨
    (c.bytesReceived = p ∧ c.bytesLeft = (if p < 2 then 2 else f.length) - p)

section Framing

variable {c : Connection} {f rest : Bytes} {p : Nat}

/-- `receive_data` along a frame: from `p` stored bytes of `f`, with the stream continuing with
the rest of `f`, it stores the next `min avail bytesLeft` bytes of `f`. -/
theorem receiveData_along (a : Nat) (hbuf : ∀ i, i < p → c.receiveBuffer i = f.getD i 0)
    (hrecv : c.bytesReceived = p) (hrx : c.rx = f.drop p ++ rest) (hleft : p + c.bytesLeft ≤ f.length) :
    (∀ i, i < p + min a c.bytesLeft → (receiveData a c).2.receiveBuffer i = f.getD i 0) ∧
    (receiveData a c).2.bytesReceived = p + min a c.bytesLeft ∧
    (receiveData a c).2.bytesLeft = c.bytesLeft - min a c.bytesLeft ∧
    (receiveData a c).2.rx = f.drop (p + min a c.bytesLeft) ++ rest ∧
    (receiveData a c).1 = if c.bytesLeft ≤ a then ((p + c.bytesLeft : Nat) : Int) else 0 := by
  have hk : chunkLength a c = min a c.bytesLeft := by
    simp only [chunkLength, hrx, List.length_append, List.length_drop]; omega
  rw [receiveData_eq, hk]
  refine ⟨fun i hi => ?_, by simp [hrecv], rfl, ?_, ?_⟩
  · dsimp only
    by_cases hip : i < p
    · rw [Mem.write_of_lt _ (by omega)]; exact hbuf i hip
    · rw [Mem.write_inside _ _ (by omega)
        (by simp only [List.length_take, hrx, List.length_append, List.length_drop]; omega)]
      simp only [hrecv, hrx, List.getD_eq_getElem?_getD]
      rw [List.getElem?_take_of_lt (by omega), List.getElem?_append_left (by simp; omega),
        List.getElem?_drop, Nat.add_sub_cancel' (by omega)]
  · simp only [hrx, List.drop_append_of_le_length (by simp; omega : min a c.bytesLeft ≤ (f.drop p).length),
      List.drop_drop, Nat.add_comm]
  · simp only [hrecv]
    split <;> split <;> first | rfl | omega

/-- The state the reader's first `receive_data` starts from is `p` bytes into `f`, with the
current phase's remaining bytes in `bytesLeft`. -/
theorem Reading.reset (hr : Reading c f p) :
    (resetReader c).bytesReceived = p ∧
      (resetReader c).bytesLeft = (if p < 2 then 2 else f.length) - p := by
  rcases hr.phase with ⟨rfl, hl⟩ | ⟨hp, hl⟩
  · simp [resetReader, hl]
  · have hlt := hr.lt
    have : c.bytesLeft ≠ 0 := by rw [hl]; split <;> omega
    rw [resetReader, if_neg this]
    exact ⟨hp, hl⟩

/-- A body read: from `p ≥ 2` stored bytes of the frame, with the rest of the frame to go, one
`receive_data` call either completes the frame or stays inside its body. -/
theorem receiveData_body {n : Nat} (fr : Frame n) (a : Nat) (hp : 2 ≤ p)
    (hbuf : ∀ i, i < p → c.receiveBuffer i = fr.bytes.getD i 0) (hrecv : c.bytesReceived = p)
    (hleft : c.bytesLeft = fr.bytes.length - p) (hrx : c.rx = fr.bytes.drop p ++ rest) (hpl : p ≤ fr.bytes.length) :
    ((receiveData a c).1 = fr.bytes.length ∧ (receiveData a c).2.receiveBuffer.read 0 fr.bytes.length = fr.bytes ∧
        (receiveData a c).2.bytesLeft = 0 ∧ (receiveData a c).2.rx = rest) ∨
      ((receiveData a c).1 = 0 ∧ ∃ p', Reading (receiveData a c).2 fr.bytes p' ∧
        (receiveData a c).2.rx = fr.bytes.drop p' ++ rest) := by
  obtain ⟨hb, hr, hl, hx, hret⟩ := receiveData_along a hbuf hrecv hrx (by omega)
  rw [hleft] at hb hr hl hx hret
  by_cases ha : fr.bytes.length - p ≤ a
  · refine .inl ⟨by rw [hret, if_pos ha]; omega, Mem.read_eq_of_agree fun i hi => ?_, by omega, ?_⟩
    · rw [Nat.zero_add]; exact hb i (by omega)
    · rw [hx, show p + min a (fr.bytes.length - p) = fr.bytes.length by omega, List.drop_length, List.nil_append]
  · refine .inr ⟨by rw [hret, if_neg ha], p + min a (fr.bytes.length - p), ⟨by omega, hb, .inr ⟨hr, ?_⟩⟩, hx⟩
    rw [hl, if_neg (by omega)]; omega

/-- **One call of the reader along a stream of frames** (the step of the framing argument): from
a state `Reading` the frame `fr` at `p`, the stream continuing with the rest of `fr` and then
`rest`, the reader either returns `0` still inside `fr`, or returns `L + 2` with the whole frame
in `receiveBuffer[0 .. L + 2)`, no byte of it left, and the stream at `rest`. -/
theorem readPacket_frame (e : Env) {n : Nat} (fr : Frame n) (hn : n ≤ c.bufferSize)
    (hr : Reading c fr.bytes p) (hrx : c.rx = fr.bytes.drop p ++ rest) :
    ((readPacket e c).1 = fr.bytes.length ∧
      (readPacket e c).2.receiveBuffer.read 0 fr.bytes.length = fr.bytes ∧
      (readPacket e c).2.bytesLeft = 0 ∧ (readPacket e c).2.rx = rest) ∨
    ((readPacket e c).1 = 0 ∧ ∃ p', Reading (readPacket e c).2 fr.bytes p' ∧
      (readPacket e c).2.rx = fr.bytes.drop p' ++ rest) := by
  have hlt := hr.lt
  have hfl := fr.bytes_length
  obtain ⟨hrecv₀, hleft₀⟩ := hr.reset
  rw [readPacket_eq]
  dsimp only
  by_cases hp : p < 2
  · -- the length phase
    rw [if_pos hp] at hleft₀
    obtain ⟨hb, hr₁, hl, hx, hret⟩ := receiveData_along (c := resetReader c) e.firstRead
      (by simpa using hr.buffer) hrecv₀ (by simpa using hrx) (by rw [hleft₀]; omega)
    rw [hleft₀] at hb hr₁ hl hx hret
    by_cases ha : 2 - p ≤ e.firstRead
    · -- the length is complete: check it and read the body
      have h2 : (receiveData e.firstRead (resetReader c)).1 = 2 := by rw [hret, if_pos ha]; omega
      have hagree : ∀ i, i < 2 → (receiveData e.firstRead (resetReader c)).2.receiveBuffer i =
          fr.bytes.getD i 0 := fun i hi => hb i (by omega)
      rw [if_pos h2, fr.be16Value_of_agree hagree, if_neg (by have := fr.fits; simp; omega)]
      exact receiveData_body fr e.secondRead le_rfl hagree (by rw [hr₁]; omega) (by simp)
        (by rw [hx, show p + min e.firstRead (2 - p) = 2 by omega]) (by omega)
    · -- still inside the length
      rw [if_neg (by rw [hret, if_neg ha]; omega)]
      refine .inr ⟨by rw [hret, if_neg ha], p + min e.firstRead (2 - p),
        ⟨by omega, hb, .inr ⟨hr₁, ?_⟩⟩, hx⟩
      rw [hl, if_pos (by omega)]; omega
  · -- the body phase
    rw [if_neg hp] at hleft₀
    have hbody := receiveData_body fr e.firstRead (by omega) (by simpa using hr.buffer) hrecv₀ hleft₀
      (by simpa using hrx) hlt.le
    rw [if_neg (by rcases hbody with ⟨h1, -⟩ | ⟨h1, -⟩ <;> omega)]
    exact hbody

end Framing

end OpenSDG
