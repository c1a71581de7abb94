import OpenSDG.Framing

/-!
# What a frame can do to the handshake

`receive_packet` keeps no handshake state.  It dispatches every frame on its type byte and its
command alone, in every status and mode: a peer-mode `REDY` before any `WELC` or `COOK` completes
the handshake if its box opens under the session key the connection holds, and a `WELC` after
that replaces the server key and the short-term keypair and sends a new `HELO`
(`redy_before_cook_connects`).

What holds instead is a licence per kind of action.  `Licensed may c c'` says that `c'` differs
from `c` in the handshake only by actions `may` allows, and `Acts L e c` is what a call of
`receive_packet` licenses by the frame it dispatches:

* the server key and the short-term keypair change only on a `WELC`;
* the cookie and `beforenmData` change only on a `COOK` whose cookie box opened under the server
  key and the short-term secret the connection held;
* the status changes only to `failed`, or on a peer-mode `REDY` or a `MESG` whose box opened;
* data reaches `connection_handle_data` only from a `MESG` whose box opened;
* a reply is sent only for a `FORWARD_REPLY`, a `WELC`, a `COOK` whose cookie box opened, or a
  grid-mode `REDY` whose box opened.

`receivePacket_licensed` proves it of one call from every state, and `handshake_effects` of every
run of calls, each action licensed by a call of the run.
-/

set_option autoImplicit false

namespace OpenSDG

/-! ## Licences -/

/-- `c'` keeps the server key and the short-term keypair of `c`. -/
structure KeysKept (c c' : Connection) : Prop where
  serverPubkey : c'.serverPubkey = c.serverPubkey
  clientTempPubkey : c'.clientTempPubkey = c.clientTempPubkey
  clientTempSecret : c'.clientTempSecret = c.clientTempSecret

/-- `c'` keeps the cookie and the session key of `c`. -/
structure SessionKept (c c' : Connection) : Prop where
  serverCookie : c'.serverCookie = c.serverCookie
  beforenmData : c'.beforenmData = c.beforenmData

/-- What a call of `receive_packet` can do to the handshake. -/
inductive Action
  /-- replace the server key and the short-term keypair -/
  | rekey
  /-- replace the cookie and `beforenmData` -/
  | session
  /-- set the status to `connected` -/
  | connect
  /-- hand data to `connection_handle_data` -/
  | handle
  /-- send a reply -/
  | reply
  deriving DecidableEq

/-- `c'` differs from `c` in the handshake only by actions that `may` allows: the status
otherwise stays or becomes `failed`. -/
structure Licensed (may : Action → Prop) (c c' : Connection) : Prop where
  keys : KeysKept c c' ∨ may .rekey
  session : SessionKept c c' ∨ may .session
  status : c'.status = c.status ∨ c'.status = .failed ∨ may .connect ∨ may .handle
  delivered : deliveries c'.trace = deliveries c.trace ∨ may .handle
  sent : sends c'.trace = sends c.trace ∨ may .reply

section Licensed

variable {may may' : Action → Prop} {c c' c'' : Connection}

theorem KeysKept.trans (h₁ : KeysKept c c') (h₂ : KeysKept c' c'') : KeysKept c c'' :=
  ⟨h₂.1.trans h₁.1, h₂.2.trans h₁.2, h₂.3.trans h₁.3⟩

theorem SessionKept.trans (h₁ : SessionKept c c') (h₂ : SessionKept c' c'') : SessionKept c c'' :=
  ⟨h₂.1.trans h₁.1, h₂.2.trans h₁.2⟩

theorem Licensed.refl (c : Connection) : Licensed may c c :=
  ⟨.inl ⟨rfl, rfl, rfl⟩, .inl ⟨rfl, rfl⟩, .inl rfl, .inl rfl, .inl rfl⟩

theorem Licensed.trans (h₁ : Licensed may c c') (h₂ : Licensed may c' c'') : Licensed may c c'' where
  keys := h₁.keys.elim (fun k => h₂.keys.imp k.trans id) .inr
  session := h₁.session.elim (fun s => h₂.session.imp s.trans id) .inr
  status := h₂.status.elim (fun h => h ▸ h₁.status) .inr
  delivered := h₁.delivered.elim (fun d => h₂.delivered.imp (·.trans d) id) .inr
  sent := h₁.sent.elim (fun s => h₂.sent.imp (·.trans s) id) .inr

theorem Licensed.mono (h : Licensed may c c') (hm : ∀ a, may a → may' a) : Licensed may' c c' :=
  ⟨h.keys.imp_right (hm _), h.session.imp_right (hm _), h.status.imp_right (.imp_right (.imp (hm _) (hm _))),
    h.delivered.imp_right (hm _), h.sent.imp_right (hm _)⟩

/-- A step that keeps the handshake's fields and the trace. -/
theorem Licensed.of_eq (hk : KeysKept c c') (hs : SessionKept c c') (hst : c'.status = c.status)
    (ht : c'.trace = c.trace) : Licensed may c c' :=
  ⟨.inl hk, .inl hs, .inl hst, .inl (by rw [ht]), .inl (by rw [ht])⟩

/-- A step that keeps the handshake's fields and hands nothing to the upper layer, under a licence
to reply. -/
theorem Licensed.of_reply (hk : KeysKept c c') (hs : SessionKept c c') (hst : c'.status = c.status)
    (hd : deliveries c'.trace = deliveries c.trace) (hr : may .reply) : Licensed may c c' :=
  ⟨.inl hk, .inl hs, .inl hst, .inl hd, .inr hr⟩

theorem connectionSetResult_licensed (r : ErrorKind) : Licensed may c (connectionSetResult c r).2 := by
  unfold connectionSetResult; split
  · exact .refl c
  · exact ⟨.inl ⟨rfl, rfl, rfl⟩, .inl ⟨rfl, rfl⟩, .inr (.inl rfl), .inl rfl, .inl rfl⟩

theorem Licensed.setResult (h : Licensed may c c') (r : ErrorKind) : Licensed may c (connectionSetResult c' r).2 :=
  h.trans (connectionSetResult_licensed r)

end Licensed

/-! ## The branches -/

/-- The cookie box of the `COOK` frame in the receive buffer opens under the server key and the
short-term secret of `c`. -/
def CookieOpens (L : Lib) (c : Connection) : Prop :=
  ∃ cookie, L.boxOpen ((c.receiveBuffer.write 8 (List.replicate crypto_box_BOXZEROBYTES 0)).read 8 160)
    (buildLongTermNonce "CurveCPK" (c.receiveBuffer.read 8 16)) c.serverPubkey c.clientTempSecret = some cookie

section Engine

variable (L : Lib) (e : Env) (c : Connection) (res : ErrorKind) {may : Action → Prop}

theorem sendTELL_licensed (hr : may .reply) : Licensed may c (sendTELL L res c).2 := by
  unfold sendTELL; refine Licensed.setResult ?_ _
  exact .of_reply ⟨rfl, rfl, rfl⟩ ⟨rfl, rfl⟩ rfl (by simp) hr

theorem onForwardReply_licensed (hr : may .reply) : Licensed may c (onForwardReply L res c).2 := by
  unfold onForwardReply
  split
  · exact .of_eq ⟨rfl, rfl, rfl⟩ ⟨rfl, rfl⟩ rfl rfl
  · split
    · exact sendTELL_licensed L c res hr
    · exact .refl c

theorem onForwardError_licensed : Licensed may c (onForwardError L c).2 := by
  unfold onForwardError; split <;> exact .of_eq ⟨rfl, rfl, rfl⟩ ⟨rfl, rfl⟩ rfl rfl

/-- The `WELC` branch replaces the keys and sends `HELO`, and does nothing else of the handshake. -/
theorem onWELC_licensed (hw : may .rekey) (hr : may .reply) : Licensed may c (onWELC L e c).2 := by
  unfold onWELC; dsimp only
  split
  · exact ⟨.inr hw, .inl ⟨rfl, rfl⟩, .inl rfl, .inl (by simp), .inr hr⟩
  · refine Licensed.setResult ?_ _
    exact ⟨.inr hw, .inl ⟨rfl, rfl⟩, .inl rfl, .inl (by simp), .inr hr⟩

theorem sendVOCH_licensed (voch : Nat) (hr : may .reply) : Licensed may c (sendVOCH L e voch c).2 := by
  unfold sendVOCH; dsimp only
  split
  · refine .of_reply ⟨?_, ?_, ?_⟩ ⟨?_, ?_⟩ ?_ ?_ hr <;> dsimp only [clientPutBuffer, Connection.logSeal]
    simp
  split
  · refine .of_reply ⟨?_, ?_, ?_⟩ ⟨?_, ?_⟩ ?_ ?_ hr <;>
      dsimp only [clientPutBuffer, Connection.logSeal, clientGetNonce]
    simp
  · refine Licensed.setResult ?_ _
    refine .of_reply ⟨?_, ?_, ?_⟩ ⟨?_, ?_⟩ ?_ ?_ hr <;>
      dsimp only [clientPutBuffer, Connection.logSeal, clientGetNonce, sendPacket, sendData]
    simp

theorem decryptMESG_licensed (pfx : String) : Licensed may c (decryptMESG L pfx c).2 := by
  unfold decryptMESG; dsimp only; split <;> exact .of_eq ⟨rfl, rfl, rfl⟩ ⟨rfl, rfl⟩ rfl rfl

theorem sendMESGPacket_licensed (m : MesgPacket) (hr : may .reply) :
    Licensed may c (sendMESGPacket L res c m).2 := by
  unfold sendMESGPacket; dsimp only
  split <;> refine .of_reply ⟨?_, ?_, ?_⟩ ⟨?_, ?_⟩ ?_ ?_ hr <;>
    dsimp only [clientPutBuffer, Connection.logSeal, clientGetNonce, sendPacket, sendData] <;> simp

theorem sendMESG_licensed (t : UInt8) (msg : Bytes) (hr : may .reply) : Licensed may c (sendMESG L res c t msg).2 := by
  rw [sendMESG_eq]; split
  · exact .of_eq ⟨rfl, rfl, rfl⟩ ⟨rfl, rfl⟩ rfl rfl
  · refine Licensed.trans ?_ (sendMESGPacket_licensed L _ _ _ hr)
    exact .of_eq ⟨rfl, rfl, rfl⟩ ⟨rfl, rfl⟩ rfl rfl

/-- The `COOK` branch writes the cookie and the session key and sends `VOCH` only once the cookie
box has opened. -/
theorem onCOOK_licensed (h : CookieOpens L c → may .session ∧ may .reply) : Licensed may c (onCOOK L e c).2 := by
  unfold onCOOK; dsimp only
  split
  · exact .of_eq ⟨rfl, rfl, rfl⟩ ⟨rfl, rfl⟩ rfl rfl
  · rename_i cookie hcookie
    obtain ⟨hs, hr⟩ := h ⟨cookie, hcookie⟩
    split
    · exact ⟨.inl ⟨rfl, rfl, rfl⟩, .inr hs, .inl rfl, .inl rfl, .inl rfl⟩
    · refine Licensed.trans ?_ (sendVOCH_licensed L e _ _ hr)
      exact ⟨.inl ⟨rfl, rfl, rfl⟩, .inr hs, .inl rfl, .inl rfl, .inl rfl⟩

/-- The `REDY` branch, once its box has opened, connects a peer connection, and in grid mode
sends `ProtocolVersion`. -/
theorem onREDY_licensed (hn : (decryptMESG L "CurveCP-server-R" c).1 → c.mode = .peer → may .connect)
    (hr : (decryptMESG L "CurveCP-server-R" c).1 → c.mode = .grid → may .reply) :
    Licensed may c (onREDY L res c).2 := by
  have hd : Licensed may c _ := decryptMESG_licensed L c "CurveCP-server-R"
  have hmode := (decryptMESG_untouched L c "CurveCP-server-R").mode
  unfold onREDY; dsimp only
  split
  · exact hd
  · rename_i hopen
    replace hopen : (decryptMESG L "CurveCP-server-R" c).1 := by simpa using hopen
    split
    · split
      · rename_i hpeer
        refine hd.trans ⟨.inl ⟨rfl, rfl, rfl⟩, .inl ⟨rfl, rfl⟩, .inr (.inr (.inl ?_)), .inl rfl, .inl rfl⟩
        exact hn hopen (hmode.symm.trans hpeer)
      · exact hd
    · rename_i hgrid
      exact (hd.trans (sendMESG_licensed L _ _ _ _ (hr hopen (hmode ▸ Decidable.of_not_not hgrid)))).setResult _

/-- The `MESG` branch hands data to the upper layer, which may set the status, only once its box
has opened. -/
theorem onMESG_licensed (hh : (decryptMESG L "CurveCP-server-M" c).1 → may .handle) : Licensed may c (onMESG L c).2 := by
  have hd : Licensed may c _ := decryptMESG_licensed L c "CurveCP-server-M"
  unfold onMESG; dsimp only
  split
  · exact hd
  · rename_i hopen
    have hh := hh (by simpa using hopen)
    refine (hd.trans ?_).setResult _
    exact ⟨.inl ⟨rfl, rfl, rfl⟩, .inl ⟨rfl, rfl⟩, .inr (.inr (.inr hh)), .inr hh,
      .inl (by simp [connectionHandleData_trace])⟩

/-- What the dispatch of a frame of `n` bytes in `c` licenses. -/
def Licence (n : Nat) : Action → Prop
  | .rekey => Reaches L n c CMD_WELC
  | .session => Reaches L n c CMD_COOK ∧ CookieOpens L c
  | .connect => Reaches L n c CMD_REDY ∧ c.mode = .peer ∧ (decryptMESG L "CurveCP-server-R" c).1
  | .handle => Reaches L n c CMD_MESG ∧ (decryptMESG L "CurveCP-server-M" c).1
  | .reply => c.receiveBuffer 2 = MSG_FORWARD_REPLY ∨ Reaches L n c CMD_WELC ∨
      (Reaches L n c CMD_COOK ∧ CookieOpens L c) ∨
      (Reaches L n c CMD_REDY ∧ c.mode = .grid ∧ (decryptMESG L "CurveCP-server-R" c).1)

theorem dispatchPacket_licensed (n : Nat) : Licensed (Licence L c n) c (dispatchPacket L e n c).2 :=
  dispatchPacket_of_branches L e c (fun r => Licensed (Licence L c n) c r.2) n (.refl c)
    (.of_eq ⟨rfl, rfl, rfl⟩ ⟨rfl, rfl⟩ rfl rfl) (fun h => onForwardReply_licensed L c _ (Or.inl h))
    (onForwardError_licensed L c) (fun h => onWELC_licensed L e c h (Or.inr (Or.inl h)))
    (fun h => onCOOK_licensed L e c fun ho => ⟨⟨h, ho⟩, Or.inr (Or.inr (Or.inl ⟨h, ho⟩))⟩)
    (fun h => onREDY_licensed L c _ (fun ho hp => ⟨h, hp, ho⟩) fun ho hg => Or.inr (Or.inr (Or.inr ⟨h, hg, ho⟩)))
    (fun h => onMESG_licensed L c fun ho => ⟨h, ho⟩)

end Engine

/-! ## Calls and runs -/

section Run

variable (L : Lib)

/-- What a call of `receive_packet` with the arrival `e` on `c` licenses: the reader returns a
frame, and the dispatch of that frame licenses the action. -/
def Acts (e : Env) (c : Connection) (a : Action) : Prop :=
  0 < (readPacket e c).1 ∧ Licence L (readPacket e c).2 (readPacket e c).1.toNat a

/-- The state before each call of a run, with the call's arrival. -/
def calls : Connection → List Env → List (Env × Connection)
  | _, [] => []
  | c, e :: es => (e, c) :: calls (receivePacket L e c).2 es

/-- One call of `receive_packet`, from every state, acts only as the frame it dispatches
licenses. -/
theorem receivePacket_licensed (e : Env) (c : Connection) : Licensed (Acts L e c) c (receivePacket L e c).2 := by
  have hr : Licensed (Acts L e c) c (readPacket e c).2 := by
    rw [(readPacket_readerOnly e c).eq]; exact .of_eq ⟨rfl, rfl, rfl⟩ ⟨rfl, rfl⟩ rfl rfl
  dsimp only [receivePacket]
  split
  · exact hr
  · exact hr.trans ((dispatchPacket_licensed L e _ _).mono fun _ h => And.intro (by omega) h)

/-- **The handshake's guarantees over runs.**  Along every run of `receive_packet` calls, from
every state: the server key and the short-term keypair change only if a call dispatched a `WELC`;
the cookie and `beforenmData` only if a call dispatched a `COOK` whose cookie box opened; the
status changes to anything but `failed` only if a call dispatched a peer-mode `REDY` or a `MESG`
whose box opened; data reaches `connection_handle_data` only from such a `MESG`; and a
reply is sent only if a call dispatched a `FORWARD_REPLY`, a `WELC`, such a `COOK` or a grid-mode
`REDY` whose box opened.  No order between these calls is required. -/
theorem handshake_effects (c : Connection) (sched : List Env) :
    Licensed (fun a => ∃ p ∈ calls L c sched, Acts L p.1 p.2 a) c (receiveRun L c sched) := by
  induction sched generalizing c with
  | nil => exact .refl c
  | cons e es ih =>
    exact ((receivePacket_licensed L e c).mono fun _ h => ⟨(e, c), List.mem_cons_self _ _, h⟩).trans
      ((ih _).mono fun _ ⟨p, hp, h⟩ => ⟨p, List.mem_cons_of_mem _ hp, h⟩)

end Run

/-- A peer connection with a tunnel id is started, then receives a `REDY` frame and a `WELC`
frame.  The `REDY`, dispatched before any `WELC` or `COOK`, connects it with only the forwarding
request sent; the `WELC` that follows replaces the server key of the connected connection and
sends a `HELO`. -/
theorem redy_before_cook_connects :
    let c := { connectionCreate (fun _ => 0) (fun _ => 0) 64 with
      mode := .peer, tunnelId := some [1],
      rx := be16 30 ++ [0x00, 0x01] ++ CMD_REDY ++ List.replicate 24 0 ++
        be16 38 ++ [0x00, 0x01] ++ CMD_WELC ++ List.replicate 32 5 }
    let e₁ : Env := ⟨2, 30, fun _ => 0, fun _ => 0, fun _ => 0, .noError⟩
    let e₂ : Env := ⟨2, 38, fun _ => 1, fun _ => 2, fun _ => 0, .noError⟩
    let s₁ := run Lib.transparent c [.start .noError, .receive e₁]
    let s₂ := run Lib.transparent c [.start .noError, .receive e₁, .receive e₂]
    c.status = .closed ∧ s₁.status = .connected ∧ (sends s₁.trace).length = 1 ∧
      s₂.status = .connected ∧ s₂.serverPubkey.toBytes = List.replicate 32 5 ∧ (sends s₂.trace).length = 2 := by
  decide

end OpenSDG
