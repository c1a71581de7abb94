import OpenSDG.Tunnel

/-!
# Frames over whole runs of `receive_packet`

A run is a sequence of `receive_packet` calls, each with its own arrival of bytes (`Env`).
`dispatched` observes what the calls hand to the command dispatch: `receiveBuffer[0 .. ret)`
each time the reader returns `ret > 0`.

* `receive_frames` — for every stream that is a concatenation of frames fitting the buffer, and
  every arrival schedule (splits inside the length, between length and body, inside the body,
  empty reads), the dispatched frames are a prefix of the stream's frames, and all of them exactly
  when the stream is consumed: none is lost, duplicated, merged or split.
* `receiveRun_drains` — progress: a schedule with at least as many calls as the stream has bytes, each
  first `recv` delivering a byte, consumes the stream.
* `reader_bound_run` — from a state within `bytesReceived + bytesLeft ≤ bufferSize`, every state
  of every run is within it and no `receive_data` call of any later call stores at or past
  `bufferSize`, whatever the bytes; an oversize declared length ends the call with `-1` and
  `osdg_buffer_exceeded` before the dispatch.
-/

set_option autoImplicit false

namespace OpenSDG

variable (L : Lib)

/-- A run of `receive_packet` calls. -/
def receiveRun : Connection → List Env → Connection
  | c, [] => c
  | c, e :: es => receiveRun (receivePacket L e c).2 es

/-- The frames the calls of a run hand to the command dispatch. -/
def dispatched : Connection → List Env → List Bytes
  | _, [] => []
  | c, e :: es =>
    (if 0 < (readPacket e c).1 then [(readPacket e c).2.receiveBuffer.read 0 (readPacket e c).1.toNat] else []) ++
      dispatched (receivePacket L e c).2 es

/-- The entries of a schedule whose calls hand a frame to the command dispatch, in order. -/
def completing : Connection → List Env → List Env
  | _, [] => []
  | c, e :: es => (if 0 < (readPacket e c).1 then [e] else []) ++ completing (receivePacket L e c).2 es

theorem completing_sublist (sched : List Env) : ∀ c, (completing L c sched).Sublist sched := by
  induction sched with
  | nil => exact fun _ => .slnil
  | cons e es ih =>
    intro c
    simp only [completing]
    split
    · exact (ih _).cons₂ e
    · exact (ih _).cons e

/-- The dispatch leaves the reader where `readPacket` put it. -/
theorem receivePacket_untouched (e : Env) (c : Connection) :
    Untouched (readPacket e c).2 (receivePacket L e c).2 := by
  dsimp only [receivePacket]
  split
  · exact .refl _
  · exact dispatchPacket_untouched L e _ _

theorem receivePacket_of_nonpos {e : Env} {c : Connection} (h : (readPacket e c).1 ≤ 0) :
    receivePacket L e c = readPacket e c := by
  simp [receivePacket, h]

/-! ## Framing -/

/-- The reader is inside the stream of frames `fs`: at some position of the first one, the
stream continuing with its rest and the later frames; or, with no frame left, idle at the
end of the stream. -/
def OnStream {n : Nat} (c : Connection) : List (Frame n) → Prop
  | [] => c.rx = [] ∧ (c.bytesLeft = 0 ∨ (c.bytesReceived = 0 ∧ c.bytesLeft = 2))
  | fr :: rest => ∃ p, Reading c fr.bytes p ∧ c.rx = fr.bytes.drop p ++ (rest.map Frame.bytes).flatten

/-- A reader at a frame boundary (`bytesLeft = 0`) is on the stream of the frames still to come. -/
theorem OnStream.of_boundary {n : Nat} {c : Connection} {fs : List (Frame n)} (hl : c.bytesLeft = 0)
    (hrx : c.rx = (fs.map Frame.bytes).flatten) : OnStream c fs := by
  cases fs with
  | nil => exact ⟨hrx, .inl hl⟩
  | cons fr rest =>
    refine ⟨0, ⟨by simp, fun _ h => absurd h (Nat.not_lt_zero _), .inl ⟨rfl, hl⟩⟩, ?_⟩
    simpa using hrx

/-- Past the end of the stream the reader reads nothing. -/
theorem readPacket_end (e : Env) {c : Connection} (hrx : c.rx = [])
    (hidle : c.bytesLeft = 0 ∨ (c.bytesReceived = 0 ∧ c.bytesLeft = 2)) :
    (readPacket e c).1 = 0 ∧ (readPacket e c).2.rx = [] ∧
      ((readPacket e c).2.bytesLeft = 0 ∨
        ((readPacket e c).2.bytesReceived = 0 ∧ (readPacket e c).2.bytesLeft = 2)) := by
  have h₀ : (resetReader c).bytesReceived = 0 ∧ (resetReader c).bytesLeft = 2 := by
    unfold resetReader; split <;> simp_all
  have hk : chunkLength e.firstRead (resetReader c) = 0 := by simp [chunkLength, hrx]
  have hr := receiveData_eq e.firstRead (resetReader c)
  rw [hk] at hr
  rw [readPacket_eq]
  simp only [hr, h₀, hrx, resetReader_rx]
  simp

theorem receivePacket_bufferSize (e : Env) (c : Connection) :
    (receivePacket L e c).2.bufferSize = c.bufferSize :=
  (receivePacket_untouched L e c).bufferSize.trans (readPacket_bufferSize e c)

/-! ## Progress -/

/-- A call whose first `recv` delivers a byte takes one off the stream, if there is one: the
dispatch reads nothing more from it. -/
theorem receivePacket_rx_length (e : Env) (c : Connection) (ha : 0 < e.firstRead) :
    (receivePacket L e c).2.rx.length ≤ c.rx.length - 1 :=
  (receivePacket_untouched L e c).rx ▸ readPacket_rx_length e c ha

/-- **A long enough schedule drains the stream.**  If the first `recv` of every call delivers a
byte, a run with at least as many calls as the stream holds bytes consumes it. -/
theorem receiveRun_drains (sched : List Env) (hsched : ∀ e ∈ sched, 0 < e.firstRead) :
    ∀ c : Connection, c.rx.length ≤ sched.length → (receiveRun L c sched).rx = [] := by
  induction sched with
  | nil => exact fun c h => List.eq_nil_of_length_eq_zero (Nat.le_zero.mp h)
  | cons e es ih =>
    intro c h
    have hstep := receivePacket_rx_length L e c (hsched e (List.mem_cons_self e es))
    exact ih (fun e' he' => hsched e' (List.mem_cons_of_mem e he')) _
      (by simp only [List.length_cons] at h; omega)

/-- **The step of the framing argument over a whole stream.**  One call either dispatches the
next frame whole, or nothing. -/
theorem receivePacket_onStream (e : Env) {n : Nat} {c : Connection} {fs : List (Frame n)}
    (hn : c.bufferSize = n) (h : OnStream c fs) :
    (dispatched L c [e] = [] ∧ OnStream (receivePacket L e c).2 fs) ∨
      ∃ fr rest, fs = fr :: rest ∧ dispatched L c [e] = [fr.bytes] ∧ OnStream (receivePacket L e c).2 rest := by
  cases fs with
  | nil =>
    obtain ⟨h0, hrx, hidle⟩ := readPacket_end e h.1 h.2
    refine .inl ⟨by simp [dispatched, h0], ?_⟩
    rw [receivePacket_of_nonpos L (by omega)]
    exact ⟨hrx, hidle⟩
  | cons fr rest =>
    obtain ⟨p, hr, hrx⟩ := h
    rcases readPacket_frame e fr hn.ge hr hrx with ⟨hret, hbuf, hl, hrx'⟩ | ⟨hret, p', hr', hrx'⟩
    · have hu := receivePacket_untouched L e c
      refine .inr ⟨fr, rest, rfl, ?_, OnStream.of_boundary (hu.bytesLeft.trans hl) (hu.rx.trans hrx')⟩
      have hpos : (0 : Int) < fr.bytes.length := by have := hr.lt; omega
      simp only [dispatched, hret, if_pos hpos, Int.toNat_natCast, hbuf, List.append_nil]
    · refine .inl ⟨by simp [dispatched, hret], ?_⟩
      rw [receivePacket_of_nonpos L (by omega)]
      exact ⟨p', hr', hrx'⟩

theorem OnStream.rx_ne_nil {n : Nat} {c : Connection} {fr : Frame n} {rest : List (Frame n)}
    (h : OnStream c (fr :: rest)) : c.rx ≠ [] := by
  obtain ⟨p, hr, hrx⟩ := h
  intro h0
  have hlen := congrArg List.length (h0 ▸ hrx)
  simp only [List.length_nil, List.length_append, List.length_drop] at hlen
  have := hr.lt
  omega

/-- A run from a reader on the stream `fs` dispatches the first `k` frames of `fs`, and ends on
the stream of the others. -/
theorem dispatched_run {n : Nat} (sched : List Env) :
    ∀ (c : Connection) (fs : List (Frame n)), c.bufferSize = n → OnStream c fs →
      ∃ k, dispatched L c sched = (fs.take k).map Frame.bytes ∧ OnStream (receiveRun L c sched) (fs.drop k) := by
  induction sched with
  | nil => exact fun c fs _ h => ⟨0, rfl, h⟩
  | cons e es ih =>
    intro c fs hn h
    have hn' := (receivePacket_bufferSize L e c).trans hn
    have hsplit : dispatched L c (e :: es) = dispatched L c [e] ++ dispatched L (receivePacket L e c).2 es := by
      simp [dispatched]
    rcases receivePacket_onStream L e hn h with ⟨h0, h'⟩ | ⟨fr, rest, rfl, h1, h'⟩
    · obtain ⟨k, hk, hrun⟩ := ih _ fs hn' h'
      exact ⟨k, by rw [hsplit, h0, hk]; rfl, hrun⟩
    · obtain ⟨k, hk, hrun⟩ := ih _ rest hn' h'
      exact ⟨k + 1, by rw [hsplit, h1, hk]; rfl, hrun⟩

/-- The frames a run dispatches from a frame boundary: a prefix of the stream's frames, all of
them exactly when the run has consumed the stream. -/
theorem dispatched_frames {n : Nat} (c : Connection) (fs : List (Frame n)) (sched : List Env)
    (hn : c.bufferSize = n) (hidle : c.bytesLeft = 0) (hrx : c.rx = (fs.map Frame.bytes).flatten) :
    dispatched L c sched <+: fs.map Frame.bytes ∧
      (dispatched L c sched = fs.map Frame.bytes ↔ (receiveRun L c sched).rx = []) := by
  obtain ⟨k, hk, hrun⟩ := dispatched_run L sched c fs hn (OnStream.of_boundary hidle hrx)
  refine ⟨hk ▸ (List.take_prefix k fs).map Frame.bytes, ?_⟩
  rw [hk]
  constructor
  · intro hall
    have hlen : fs.length ≤ k := by simpa using congrArg List.length hall
    rw [List.drop_eq_nil_of_le hlen] at hrun
    exact hrun.1
  · intro hend
    cases hd : fs.drop k with
    | nil => rw [List.take_of_length_le (List.drop_eq_nil_iff.mp hd)]
    | cons fr rest => exact absurd hend (hd ▸ hrun).rx_ne_nil

/-- **Frames survive any chunking.**  From a reader at a frame boundary (`bytesLeft = 0`) whose
stream is the concatenation of frames `f₁ … fₙ`, each `L + 2 ≤ bufferSize`, the frames any run
hands to the dispatch — `ret` bytes each, `ret = Lᵢ + 2`, read from `receiveBuffer[0 .. ret)` —
are `f₁ … fₖ` for some `k`; they are all of `f₁ … fₙ` exactly when the run has consumed the
stream, and every schedule of at least as many calls as the stream has bytes, each first `recv`
delivering a byte, consumes it. -/
theorem receive_frames (c : Connection) (fs : List (Frame c.bufferSize)) (sched : List Env)
    (hidle : c.bytesLeft = 0) (hrx : c.rx = (fs.map Frame.bytes).flatten) :
    dispatched L c sched <+: fs.map Frame.bytes ∧
      (dispatched L c sched = fs.map Frame.bytes ↔ (receiveRun L c sched).rx = []) ∧
      ((∀ e ∈ sched, 0 < e.firstRead) → c.rx.length ≤ sched.length →
        dispatched L c sched = fs.map Frame.bytes) := by
  obtain ⟨hpre, hiff⟩ := dispatched_frames L c fs sched rfl hidle hrx
  exact ⟨hpre, hiff, fun hsched hlen => hiff.mpr (receiveRun_drains L sched hsched c hlen)⟩

/-- A stream of one three-byte frame, delivered one byte per call. -/
def oneByteFrame : Frame 1536 := ⟨[0x0F], by decide, by decide⟩

theorem receive_frames_one_byte_arrivals :
    let c := { connectionCreate (fun _ => 0) (fun _ => 0) 1536 with rx := oneByteFrame.bytes }
    let sched := List.replicate 3 ⟨1, 1, fun _ => 0, fun _ => 0, fun _ => 0, .noError⟩
    c.bytesLeft = 0 ∧ c.rx = ([oneByteFrame].map Frame.bytes).flatten ∧
      (dispatched Lib.transparent c sched <+: [oneByteFrame].map Frame.bytes ∧
        (dispatched Lib.transparent c sched = [oneByteFrame].map Frame.bytes ↔
          (receiveRun Lib.transparent c sched).rx = []) ∧
        ((∀ e ∈ sched, 0 < e.firstRead) → c.rx.length ≤ sched.length →
          dispatched Lib.transparent c sched = [oneByteFrame].map Frame.bytes)) :=
  by intro c sched; exact ⟨rfl, rfl, receive_frames Lib.transparent c [oneByteFrame] sched rfl rfl⟩

/-! ## The buffer bound over runs -/

theorem Untouched.readerBound {c c' : Connection} (hu : Untouched c c') (h : ReaderBound c) : ReaderBound c' := by
  unfold ReaderBound at h ⊢; rwa [hu.bytesReceived, hu.bytesLeft, hu.bufferSize]

theorem receiveRun_bufferSize (sched : List Env) : ∀ c, (receiveRun L c sched).bufferSize = c.bufferSize := by
  induction sched with
  | nil => exact fun _ => rfl
  | cons e es ih => exact fun c => (ih _).trans (receivePacket_bufferSize L e c)

theorem receiveRun_bound (sched : List Env) :
    ∀ c, 2 ≤ c.bufferSize → ReaderBound c → ReaderBound (receiveRun L c sched) := by
  induction sched with
  | nil => exact fun _ _ h => h
  | cons e es ih =>
    intro c hs h
    refine ih _ (by rwa [receivePacket_bufferSize]) ?_
    exact (receivePacket_untouched L e c).readerBound (readPacket_bound e hs h)

/-- **The reader stays inside its buffer.**  From a state within the bound, with
`bufferSize ≥ 2`, every state `c'` any run of `receive_packet` reaches is within the bound, and
the next call's `receive_data` calls store nothing at or past `bufferSize`, whatever the stream
and the arrivals.  If that call's length read completes with a declared length `L`,
`L + 2 > bufferSize`, the call returns `-1` with `osdg_buffer_exceeded` and the state the length
read left: no byte past the length field stored, nothing sealed, sent or delivered. -/
theorem reader_bound_run (c : Connection) (sched : List Env) (e : Env) (hs : 2 ≤ c.bufferSize)
    (h : ReaderBound c) :
    let c' := receiveRun L c sched
    let r := receiveData e.firstRead (resetReader c')
    ReaderBound c' ∧
      (∀ i, c'.bufferSize ≤ i → (readPacket e c').2.receiveBuffer i = c'.receiveBuffer i) ∧
      (r.1 = 2 → c'.bufferSize < be16Value r.2.receiveBuffer 0 + 2 →
        receivePacket L e c' = (-1, { r.2 with errorKind := .bufferExceeded }) ∧
          r.2.trace = c'.trace ∧ ∀ i, 2 ≤ i → r.2.receiveBuffer i = c'.receiveBuffer i) := by
  intro c' r
  have hs' : 2 ≤ c'.bufferSize := by rwa [receiveRun_bufferSize]
  have hb := receiveRun_bound L sched c hs h
  refine ⟨hb, fun i hi => readPacket_stores_below e hs' hb hi, fun h2 hL => ⟨?_, by simp [r], fun i hi => ?_⟩⟩
  · have hread := readPacket_oversize e c' h2 hL
    rw [receivePacket_of_nonpos L (by simp [hread]), hread]
  · have hrecv : (r.1 : Int) = r.2.bytesReceived :=
      receiveData_ret_pos e.firstRead (resetReader c') (by change 0 < r.1; omega)
    rw [receiveData_stores_past _ _ (by change r.2.bytesReceived ≤ i; omega), resetReader_receiveBuffer]

/-- The declared length `0xFFFF` against a four-byte buffer, at the first call. -/
theorem reader_bound_run_hostile_length :
    let c := { connectionCreate (fun _ => 0) (fun _ => 0) 4 with rx := [0xFF, 0xFF, 0x0F] }
    let e : Env := ⟨2, 2, fun _ => 0, fun _ => 0, fun _ => 0, .noError⟩
    let r := receiveData e.firstRead (resetReader c)
    2 ≤ c.bufferSize ∧ ReaderBound c ∧
      (ReaderBound c ∧ (∀ i, c.bufferSize ≤ i → (readPacket e c).2.receiveBuffer i = c.receiveBuffer i) ∧
        (r.1 = 2 → c.bufferSize < be16Value r.2.receiveBuffer 0 + 2 →
          receivePacket Lib.transparent e c = (-1, { r.2 with errorKind := .bufferExceeded }) ∧
            r.2.trace = c.trace ∧ ∀ i, 2 ≤ i → r.2.receiveBuffer i = c.receiveBuffer i)) :=
  ⟨by decide, by decide, reader_bound_run Lib.transparent _ [] _ (by decide) (by decide)⟩

end OpenSDG
