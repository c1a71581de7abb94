import OpenSDG.Framing

/-!
# The frame-level engine, and the byte-level runs that refine it

What `receive_packet` is for: the server's stream is a sequence of frames, and the engine
reacts to each frame as a whole.  `frameStep` says so directly — the frame is laid at the start
of the receive buffer over what the buffer held, and dispatched with `ret` its length — and
`frameRun` folds it over a list of frames, each with the inputs (`Env`) of the call that
completes it.

The byte-level engine reads the same stream in whatever pieces the socket delivers.  The two
are related by a stuttering simulation: `Tracks d c fs` says that the byte-level state `c` is
the frame-level state `d` with the first frame of `fs` read up to some position, and
`Progressed d c` that the two differ only in the reader's progress (buffer, counters, stream).

* `receivePacket_tracks` — one `receive_packet` call either stutters (it completes no frame
  and still tracks `d`) or completes the next frame, and then equals `frameStep`;
* `receiveRun_tracks` — so any run tracks the frame-level run over the frames it completed;
* `receive_refines_frames` — from a frame boundary, after any run over any arrival schedule,
  the connection is the frame-level engine's on the frames completed so far, each dispatched
  with the inputs of a call of the schedule, up to the reader's progress; once the stream is
  consumed, all frames have been dispatched and the buffers agree.
* `receiveRun_complete` — with `receiveRun_drains`: a schedule of at least as many calls as the stream
  has bytes, each first `recv` delivering one, completes every frame.
-/

set_option autoImplicit false

namespace OpenSDG

/-- The connection once the reader has taken the whole frame `f` off the stream: `f` at the
start of the buffer over what the buffer held, `bytesReceived = |f|`, nothing left to read. -/
def Connection.takeFrame (c : Connection) (f : Bytes) : Connection :=
  { c with receiveBuffer := c.receiveBuffer.write 0 f, bytesReceived := f.length, bytesLeft := 0,
           rx := c.rx.drop f.length }

section Engine

variable (L : Lib)

/-- One step of the frame-level engine: the frame is taken whole and dispatched with
`ret = |f|`, under the inputs `e` of the call that completes it. -/
def frameStep (c : Connection) (f : Bytes) (e : Env) : Connection :=
  (dispatchPacket L e f.length (c.takeFrame f)).2

/-- A run of the frame-level engine. -/
def frameRun : Connection → List (Bytes × Env) → Connection
  | c, [] => c
  | c, (f, e) :: fes => frameRun (frameStep L c f e) fes

end Engine

/-- A frame step keeps the buffer size. -/
theorem frameStep_bufferSize (L : Lib) (d : Connection) (f : Bytes) (e : Env) :
    (frameStep L d f e).bufferSize = d.bufferSize :=
  (dispatchPacket_untouched L e _ _).bufferSize

/-- `c` is `d` with only the reader's progress changed: the buffer, the counters, the stream. -/
def Progressed (d c : Connection) : Prop :=
  c = { d with receiveBuffer := c.receiveBuffer, bytesReceived := c.bytesReceived,
               bytesLeft := c.bytesLeft, rx := c.rx }

theorem Progressed.of_readerOnly {d c c' : Connection} (hp : Progressed d c) (hc : ReaderOnly c c')
    (hek : c'.errorKind = c.errorKind) : Progressed d c' := by
  unfold Progressed ReaderOnly at *
  conv_lhs => rw [hc, hek, hp]

/-- A progressed state whose reader has taken the whole frame `f`. -/
theorem Progressed.eq_takeFrame {d c : Connection} {f : Bytes} (hp : Progressed d c)
    (hb : c.receiveBuffer = d.receiveBuffer.write 0 f) (hbr : c.bytesReceived = f.length) (hbl : c.bytesLeft = 0)
    (hrx : c.rx = d.rx.drop f.length) : c = d.takeFrame f := by
  rw [hp, hb, hbr, hbl, hrx]; rfl

/-- `c` is `d` with the bytes `pre` read into the start of the buffer. -/
structure Midway (d c : Connection) (pre : Bytes) : Prop where
  progressed : Progressed d c
  buffer : c.receiveBuffer = d.receiveBuffer.write 0 pre

theorem Midway.self (d : Connection) : Midway d d [] := ⟨rfl, (Mem.write_nil _ _).symm⟩

/-- Past what it has stored, the reader leaves the buffer of `d`. -/
theorem Midway.readPacket_past (e : Env) {d c : Connection} {pre : Bytes} (hm : Midway d c pre)
    (hp : pre.length ≤ (resetReader c).bytesReceived) {i : Nat} (hi : (readPacket e c).2.bytesReceived ≤ i) :
    (readPacket e c).2.receiveBuffer i = d.receiveBuffer i := by
  obtain ⟨hge, hpast⟩ := readPacket_stores_past e c
  rw [hpast i hi, hm.buffer, Mem.write_of_ge (by omega)]

/-- The byte-level state `c` tracks the frame-level state `d` on the stream of frames `fs`: `d`
stands at the boundary before `fs`, and `c` is `d` with the first frame read up to some `p`. -/
def Tracks {n : Nat} (d c : Connection) : List (Frame n) → Prop
  | [] => d.rx = [] ∧ c.rx = [] ∧ (c.bytesLeft = 0 ∨ (c.bytesReceived = 0 ∧ c.bytesLeft = 2)) ∧ Midway d c []
  | fr :: rest => d.rx = fr.bytes ++ (rest.map Frame.bytes).flatten ∧ ∃ p, Reading c fr.bytes p ∧
      c.rx = fr.bytes.drop p ++ (rest.map Frame.bytes).flatten ∧ Midway d c (fr.bytes.take p)

/-- A connection at a frame boundary tracks itself. -/
theorem Tracks.boundary {n : Nat} {d : Connection} {fs : List (Frame n)} (hl : d.bytesLeft = 0)
    (hrx : d.rx = (fs.map Frame.bytes).flatten) : Tracks d d fs := by
  cases fs with
  | nil => exact ⟨hrx, hrx, .inl hl, .self d⟩
  | cons fr rest =>
    refine ⟨by simpa using hrx, 0, ⟨by simp, fun _ h => absurd h (Nat.not_lt_zero _), .inl ⟨rfl, hl⟩⟩,
      by simpa using hrx, ?_⟩
    rw [List.take_zero]; exact .self d

theorem Tracks.progressed {n : Nat} {d c : Connection} {fs : List (Frame n)} (h : Tracks d c fs) :
    Progressed d c := by
  cases fs with
  | nil => obtain ⟨-, -, -, hm⟩ := h; exact hm.progressed
  | cons fr rest => exact h.2.choose_spec.2.2.progressed

/-- With the stream consumed, every frame has been taken and the buffers agree. -/
theorem Tracks.consumed {n : Nat} {d c : Connection} {fs : List (Frame n)} (h : Tracks d c fs)
    (hrx : c.rx = []) : fs = [] ∧ c.receiveBuffer = d.receiveBuffer := by
  cases fs with
  | nil => obtain ⟨-, -, -, hm⟩ := h; exact ⟨rfl, by rw [hm.buffer, Mem.write_nil]⟩
  | cons fr rest =>
    obtain ⟨-, p, hr, hrx', -⟩ := h
    have hlen := congrArg List.length (hrx'.symm.trans hrx)
    simp only [List.length_append, List.length_drop, List.length_nil] at hlen
    have := hr.lt
    omega

section Step

variable (L : Lib) (e : Env) {d c : Connection}

theorem frameStep_tracks {n : Nat} {fr : Frame n} {rest : List (Frame n)}
    (hd : d.rx = fr.bytes ++ (rest.map Frame.bytes).flatten) :
    Tracks (frameStep L d fr.bytes e) (frameStep L d fr.bytes e) rest := by
  have hu : Untouched (d.takeFrame fr.bytes) (frameStep L d fr.bytes e) := dispatchPacket_untouched L e _ _
  refine .boundary hu.bytesLeft (hu.rx.trans ?_)
  simp only [Connection.takeFrame, hd, List.drop_left]

/-- The reader's part of a step: one `readPacket` call from a state tracking `d` either
returns `ret ≤ 0` and still tracks `d`, or returns the length of the next frame and leaves the
connection as `d` with that frame taken whole. -/
theorem readPacket_tracks {n : Nat} {fs : List (Frame n)} (hn : n ≤ c.bufferSize) (h : Tracks d c fs) :
    ((readPacket e c).1 ≤ 0 ∧ Tracks d (readPacket e c).2 fs) ∨
      ∃ fr rest, fs = fr :: rest ∧ (readPacket e c).1 = fr.bytes.length ∧ (readPacket e c).2 = d.takeFrame fr.bytes := by
  cases fs with
  | nil =>
    obtain ⟨hd, hrx, hidle, hm⟩ := h
    obtain ⟨h0, hrx', hidle'⟩ := readPacket_end e hrx hidle
    have hbr : (readPacket e c).2.bytesReceived = 0 := by have := readPacket_zero e c h0; omega
    refine .inl ⟨by omega, hd, hrx', hidle', hm.progressed.of_readerOnly (readPacket_readerOnly e c)
      (readPacket_ret_nonneg e c (by omega)).1, ?_⟩
    rw [Mem.write_nil]
    exact funext fun i => hm.readPacket_past e (Nat.zero_le _) (by omega)
  | cons fr rest =>
    obtain ⟨hd, p, hr, hrx, hm⟩ := h
    have hp : (fr.bytes.take p).length ≤ (resetReader c).bytesReceived := by
      rw [hr.reset.1, List.length_take]; omega
    rcases readPacket_frame e fr hn hr hrx with ⟨hret, hbuf, hl, hrx'⟩ | ⟨hret, p', hr', hrx'⟩
    · -- the call completes the frame
      have hpos : 0 < (readPacket e c).1 := by rw [hret, Frame.bytes_length]; omega
      obtain ⟨hek, hbr⟩ := readPacket_ret_nonneg e c hpos.le
      refine .inr ⟨fr, rest, rfl, hret, ?_⟩
      refine (hm.progressed.of_readerOnly (readPacket_readerOnly e c) hek).eq_takeFrame ?_
        (by have := hbr hpos; omega) hl (by rw [hrx', hd, List.drop_left])
      refine Mem.eq_write_zero (fun i hi => ?_) fun i hi => hm.readPacket_past e hp (by have := hbr hpos; omega)
      simpa using Mem.apply_of_read hbuf hi
    · -- the call stutters
      have hl := readPacket_zero e c hret
      have hbr : (readPacket e c).2.bytesReceived = p' := by rcases hr'.phase with h | h <;> omega
      refine .inl ⟨by omega, hd, p', hr', hrx', hm.progressed.of_readerOnly (readPacket_readerOnly e c)
        (readPacket_ret_nonneg e c (by omega)).1, ?_⟩
      have htl : (fr.bytes.take p').length = p' := List.length_take_of_le hr'.lt.le
      refine Mem.eq_write_zero (fun i hi => ?_) fun i hi => hm.readPacket_past e hp (by rw [hbr, ← htl]; exact hi)
      rw [htl] at hi
      rw [hr'.buffer i hi, List.getD_eq_getElem?_getD, List.getD_eq_getElem?_getD, List.getElem?_take_of_lt hi]

/-- **The step of the simulation.**  One `receive_packet` call from a state tracking `d` either
stutters — it completes no frame, and still tracks `d` — or completes the next frame, and its
result is the frame-level engine's step on that frame. -/
theorem receivePacket_tracks {n : Nat} {fs : List (Frame n)} (hn : n ≤ c.bufferSize) (h : Tracks d c fs) :
    ((readPacket e c).1 ≤ 0 ∧ Tracks d (receivePacket L e c).2 fs) ∨
      ∃ fr rest, fs = fr :: rest ∧ 0 < (readPacket e c).1 ∧ (receivePacket L e c).2 = frameStep L d fr.bytes e ∧
        Tracks (frameStep L d fr.bytes e) (frameStep L d fr.bytes e) rest := by
  rcases readPacket_tracks e hn h with ⟨hret, h'⟩ | ⟨fr, rest, rfl, hret, htake⟩
  · exact .inl ⟨hret, by rwa [receivePacket_of_nonpos L hret]⟩
  · have hpos : 0 < (readPacket e c).1 := by rw [hret, Frame.bytes_length]; omega
    have hstep : (receivePacket L e c).2 = frameStep L d fr.bytes e := by
      simp only [receivePacket, hret, Int.toNat_natCast, htake, frameStep]
      rw [if_neg (by rw [Frame.bytes_length]; omega)]
    exact .inr ⟨fr, rest, rfl, hpos, hstep, frameStep_tracks L e h.1⟩

end Step

/-- **The run of the simulation.**  Along any schedule, the byte-level run tracks the
frame-level run over the frames it completed, each with the inputs of the call that completed
it (`completing`). -/
theorem receiveRun_tracks (L : Lib) {n : Nat} (sched : List Env) :
    ∀ (d c : Connection) (fs : List (Frame n)), n ≤ c.bufferSize → Tracks d c fs →
      (completing L c sched).length ≤ fs.length ∧
        Tracks (frameRun L d ((fs.map Frame.bytes).zip (completing L c sched))) (receiveRun L c sched)
          (fs.drop (completing L c sched).length) := by
  induction sched with
  | nil => exact fun d c fs _ h => ⟨Nat.zero_le _, by simpa [frameRun, receiveRun, completing] using h⟩
  | cons e es ih =>
    intro d c fs hn h
    have hn' : n ≤ (receivePacket L e c).2.bufferSize := by rwa [receivePacket_bufferSize]
    rcases receivePacket_tracks L e hn h with ⟨hret, h'⟩ | ⟨fr, rest, rfl, hret, hstep, h'⟩
    · rw [completing, if_neg (by omega), List.nil_append]
      exact ih d _ fs hn' h'
    · rw [completing, if_pos hret, List.singleton_append, receiveRun, hstep]
      rw [hstep] at hn'
      obtain ⟨hlen, hrun⟩ := ih _ _ rest hn' h'
      refine ⟨by simpa using hlen, ?_⟩
      simpa only [List.map_cons, List.zip_cons_cons, frameRun, List.length_cons, List.drop_succ_cons] using hrun

/-- A run that consumes its whole stream has completed every frame, each with an entry of the
schedule, and ends where the frame-level engine ends, up to the reader's progress. -/
theorem receiveRun_consumed (L : Lib) (c : Connection) {n : Nat} (fs : List (Frame n)) (sched : List Env)
    (hn : n ≤ c.bufferSize) (hidle : c.bytesLeft = 0) (hrx : c.rx = (fs.map Frame.bytes).flatten)
    (hend : (receiveRun L c sched).rx = []) :
    (completing L c sched).length = fs.length ∧
      Progressed (frameRun L c ((fs.map Frame.bytes).zip (completing L c sched))) (receiveRun L c sched) := by
  obtain ⟨hlen, hrun⟩ := receiveRun_tracks L sched c c fs hn (.boundary hidle hrx)
  exact ⟨le_antisymm hlen (List.drop_eq_nil_iff.mp (hrun.consumed hend).1), hrun.progressed⟩

/-- A schedule of at least as many calls as the stream has bytes, each first `recv` delivering one,
completes every frame: the run is the frame-level engine's over all of them, up to the reader's
progress. -/
theorem receiveRun_complete (L : Lib) (c : Connection) {n : Nat} (fs : List (Frame n)) (sched : List Env)
    (hn : n ≤ c.bufferSize) (hidle : c.bytesLeft = 0) (hrx : c.rx = (fs.map Frame.bytes).flatten)
    (hsched : ∀ e ∈ sched, 0 < e.firstRead) (hlen : c.rx.length ≤ sched.length) :
    (completing L c sched).length = fs.length ∧
      Progressed (frameRun L c ((fs.map Frame.bytes).zip (completing L c sched))) (receiveRun L c sched) :=
  receiveRun_consumed L c fs sched hn hidle hrx (receiveRun_drains L sched hsched c hlen)

/-- **Byte-level runs refine the frame-level engine.**  From a reader at a frame boundary whose
stream is the concatenation of frames `f₁ … fₙ` fitting the buffer, after any run of
`receive_packet` calls — any arrival schedule — the connection is the frame-level engine's after
it took `f₁ … fₖ` whole and dispatched each with the inputs of the call that completed it
(`e₁ … eₖ`, a subsequence of the schedule), but for the reader's progress: keys, session,
status, error kind, nonce counter, send-buffer pool and trace are the same.  Once the stream is
consumed, `k = n` and the receive buffers agree as well; every schedule of at least as many calls as the
stream has bytes, each first `recv` delivering one, consumes it (`receiveRun_drains`). -/
theorem receive_refines_frames (L : Lib) (c : Connection) (fs : List (Frame c.bufferSize)) (sched : List Env)
    (hidle : c.bytesLeft = 0) (hrx : c.rx = (fs.map Frame.bytes).flatten) :
    ∃ es : List Env, es.Sublist sched ∧ es.length ≤ fs.length ∧
      Progressed (frameRun L c ((fs.map Frame.bytes).zip es)) (receiveRun L c sched) ∧
      ((receiveRun L c sched).rx = [] → es.length = fs.length ∧
        (receiveRun L c sched).receiveBuffer = (frameRun L c ((fs.map Frame.bytes).zip es)).receiveBuffer) := by
  obtain ⟨hlen, hrun⟩ := receiveRun_tracks L sched c c fs le_rfl (.boundary hidle hrx)
  refine ⟨_, completing_sublist L sched c, hlen, hrun.progressed, fun hend => ?_⟩
  obtain ⟨hdrop, hbuf⟩ := hrun.consumed hend
  exact ⟨le_antisymm hlen (List.drop_eq_nil_iff.mp hdrop), hbuf⟩

theorem receive_refines_frames_one_byte_arrivals :
    let c := { connectionCreate (fun _ => 0) (fun _ => 0) 1536 with rx := oneByteFrame.bytes }
    let sched := List.replicate 3 (⟨1, 1, fun _ => 0, fun _ => 0, fun _ => 0, .noError⟩ : Env)
    (c.bytesLeft = 0 ∧ c.rx = ([oneByteFrame].map Frame.bytes).flatten) ∧
      ∃ es : List Env, es.Sublist sched ∧ es.length ≤ [oneByteFrame].length ∧
        Progressed (frameRun Lib.transparent c (([oneByteFrame].map Frame.bytes).zip es))
          (receiveRun Lib.transparent c sched) ∧
        ((receiveRun Lib.transparent c sched).rx = [] → es.length = [oneByteFrame].length ∧
          (receiveRun Lib.transparent c sched).receiveBuffer =
            (frameRun Lib.transparent c (([oneByteFrame].map Frame.bytes).zip es)).receiveBuffer) :=
  by intro c sched; exact ⟨⟨rfl, rfl⟩, receive_refines_frames Lib.transparent c [oneByteFrame] sched rfl rfl⟩

end OpenSDG
