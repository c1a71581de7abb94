import OpenSDG.Legacy

/-!
# Results and error kinds

`receive_packet` reports a failure by a negative return, and records its kind in
`client->errorKind`, directly, through `decryptMESG` or through `connection_set_result`.
`ReportsError r` says that the two agree.

* `receivePacket_error_iff` — from a connection with no error recorded, a call of
  `receive_packet` in `tunnel_protocol.c` returns a negative value exactly when it records an
  error kind, or when it dispatched a `FORWARD_REPLY` whose signature does not match: that path
  returns `-1` and records nothing, while its sibling, the reply that does not decode, records
  `osdg_protocol_error`.
* `error_kind_unrecorded` — that path, and the `ProtocolVersion` reply with a wrong magic in the
  older `protocol.c`, which records `osdg_protocol_error` and returns the positive frame
  length, at concrete frames.
-/

set_option autoImplicit false

namespace OpenSDG

/-- A result reports a failure exactly when it records an error kind. -/
def ReportsError (r : Int × Connection) : Prop := r.1 < 0 ↔ r.2.errorKind ≠ .noError

/-- A `FORWARD_REPLY` frame whose reply decodes without the forwarding signature. -/
def ForwardReplyMismatch (L : Lib) (c : Connection) : Prop :=
  c.receiveBuffer 2 = MSG_FORWARD_REPLY ∧
    ∃ reply, L.forwardReplyUnpack (c.receiveBuffer.read 3 (forwardLength c.receiveBuffer)) = some reply ∧
      reply.signature ≠ L.FORWARD_REMOTE_SIGNATURE

section Results

variable {c : Connection}

theorem reportsError_neg (h : c.errorKind ≠ .noError) : ReportsError (-1, c) :=
  iff_of_true (show (-1 : Int) < 0 by decide) h

theorem reportsError_zero (h : c.errorKind = .noError) : ReportsError (0, c) :=
  iff_of_false (show ¬ (0 : Int) < 0 by decide) (not_not_intro h)

theorem connectionSetResult_reportsError {r : ErrorKind} (h : r = .noError → c.errorKind = .noError) :
    ReportsError (connectionSetResult c r) := by
  unfold connectionSetResult
  split
  · exact reportsError_zero (h ‹_›)
  · exact reportsError_neg ‹_›

end Results

section Engine

variable (L : Lib) (e : Env) (c : Connection) (res : ErrorKind)

theorem decryptMESG_errorKind (pfx : String) :
    (decryptMESG L pfx c).2.errorKind = if (decryptMESG L pfx c).1 then c.errorKind else .decryptionError := by
  unfold decryptMESG; dsimp only; split <;> rfl

theorem sendMESGPacket_errorKind (m : MesgPacket) (h : (sendMESGPacket L res c m).1 = .noError) :
    (sendMESGPacket L res c m).2.errorKind = c.errorKind := by
  revert h; unfold sendMESGPacket; dsimp only
  split
  · intro h; cases h
  · intro _; dsimp only [clientPutBuffer, Connection.logSeal, clientGetNonce, sendPacket, sendData]

theorem sendMESG_errorKind (t : UInt8) (msg : Bytes) (h : (sendMESG L res c t msg).1 = .noError) :
    (sendMESG L res c t msg).2.errorKind = c.errorKind := by
  revert h; rw [sendMESG_eq]; split
  · intro h; cases h
  · exact sendMESGPacket_errorKind L _ _ _

variable {c}

theorem sendVOCH_reportsError (voch : Nat) (h : c.errorKind = .noError) : ReportsError (sendVOCH L e voch c) := by
  unfold sendVOCH; dsimp only
  split
  · exact reportsError_neg nofun
  split
  · exact reportsError_neg nofun
  · exact connectionSetResult_reportsError fun _ => by
      dsimp only [clientPutBuffer, Connection.logSeal, clientGetNonce, sendPacket, sendData]; exact h

theorem onCOOK_reportsError (h : c.errorKind = .noError) : ReportsError (onCOOK L e c) := by
  unfold onCOOK; dsimp only
  split
  · exact reportsError_neg nofun
  split
  · exact reportsError_neg nofun
  · exact sendVOCH_reportsError L e _ h

theorem onREDY_reportsError (h : c.errorKind = .noError) : ReportsError (onREDY L res c) := by
  have hd := decryptMESG_errorKind L c "CurveCP-server-R"
  unfold onREDY; dsimp only
  split
  · exact reportsError_neg (by simp_all)
  split
  · have hk : (decryptMESG L "CurveCP-server-R" c).2.errorKind = .noError := by simp_all
    split
    · exact reportsError_zero hk
    · exact reportsError_zero hk
  · exact connectionSetResult_reportsError fun hs => (sendMESG_errorKind L _ _ _ _ hs).trans (by simp_all)

theorem onMESG_reportsError (h : c.errorKind = .noError) : ReportsError (onMESG L c) := by
  have hd := decryptMESG_errorKind L c "CurveCP-server-M"
  unfold onMESG connectionHandleData; dsimp only
  split
  · exact reportsError_neg (by simp_all)
  · exact connectionSetResult_reportsError fun _ => by simp_all

/-- Every branch of the dispatch reports its failures, except a `FORWARD_REPLY` with the wrong
signature, which returns `-1` and leaves the connection as it was. -/
theorem dispatchPacket_reportsError (n : Nat) (h : c.errorKind = .noError) :
    ReportsError (dispatchPacket L e n c) ∨ (dispatchPacket L e n c = (-1, c) ∧ ForwardReplyMismatch L c) := by
  refine dispatchPacket_of_branches L e c (fun r => ReportsError r ∨ (r = (-1, c) ∧ ForwardReplyMismatch L c)) n (.inl (reportsError_zero h)) (.inl (reportsError_neg nofun))
    ?_ ?_ (fun _ => .inl ?_) (fun _ => .inl (onCOOK_reportsError L e h)) (fun _ => .inl (onREDY_reportsError L _ h))
    (fun _ => .inl (onMESG_reportsError L h))
  · intro hty
    unfold onForwardReply
    split
    · exact .inl (reportsError_neg nofun)
    split
    · unfold sendTELL; exact .inl (connectionSetResult_reportsError fun _ => h)
    · exact .inr ⟨rfl, hty, _, ‹_›, ‹_›⟩
  · unfold onForwardError forwardErrorKind
    split
    · exact .inl (reportsError_neg nofun)
    · refine .inl (reportsError_neg ?_)
      dsimp only; split_ifs <;> nofun
  · unfold onWELC; dsimp only
    split
    · exact reportsError_neg nofun
    · exact connectionSetResult_reportsError fun _ => h

theorem dispatchPacket_of_mismatch (n : Nat) (hm : ForwardReplyMismatch L c) : dispatchPacket L e n c = (-1, c) := by
  obtain ⟨hty, reply, hr, hs⟩ := hm
  have hhold : c.receiveBuffer 2 ≠ MSG_FORWARD_HOLD := by rw [hty]; decide
  simp only [dispatchPacket, if_neg hhold, if_pos hty, onForwardReply, hr, if_neg hs]

theorem receiveData_reportsError (a : Nat) (h : c.errorKind = .noError) : ReportsError (receiveData a c) :=
  iff_of_false (by rw [receiveData_eq]; split <;> omega) (by simp [h])

/-- The reader records an error kind exactly when it returns `-1`. -/
theorem readPacket_reportsError (h : c.errorKind = .noError) : ReportsError (readPacket e c) := by
  have h₀ : (resetReader c).errorKind = .noError := by simp [h]
  rw [readPacket_eq]; dsimp only
  split
  · split
    · exact reportsError_neg nofun
    · exact receiveData_reportsError _ (by simpa using h₀)
  · exact receiveData_reportsError _ h₀

/-- **Failures and error kinds in `tunnel_protocol.c`.**  From a connection with no error
recorded, `receive_packet` returns a negative value exactly when it records an error kind —
the oversize length, the forwarding decode failure and error codes, the short frame, the wrong
magic, every sealing and opening failure, and every result `connection_set_result` sees, a
failed send among them — or
when it dispatched a `FORWARD_REPLY` whose reply lacks the forwarding signature, the one path
that returns `-1` without recording one. -/
theorem receivePacket_error_iff (h : c.errorKind = .noError) :
    (receivePacket L e c).1 < 0 ↔ (receivePacket L e c).2.errorKind ≠ .noError ∨
      (0 < (readPacket e c).1 ∧ ForwardReplyMismatch L (readPacket e c).2) := by
  have hr := readPacket_reportsError e h
  dsimp only [receivePacket]
  split
  · rw [or_iff_left fun h' => by omega]; exact hr
  · have hk : (readPacket e c).2.errorKind = .noError := by
      by_contra hne; have := hr.mpr hne; omega
    by_cases hm : ForwardReplyMismatch L (readPacket e c).2
    · rw [dispatchPacket_of_mismatch L e _ hm]
      exact iff_of_true (show (-1 : Int) < 0 by decide) (.inr ⟨by omega, hm⟩)
    · rcases dispatchPacket_reportsError L e _ hk with hd | ⟨_, hm'⟩
      · rw [or_iff_left fun h' => hm h'.2]; exact hd
      · exact absurd hm' hm

end Engine

theorem receivePacket_error_iff_fresh :
    let c := { connectionCreate (fun _ => 0) (fun _ => 0) 64 with rx := [0x00, 0x01, 0x11] }
    let e : Env := ⟨2, 1, fun _ => 0, fun _ => 0, fun _ => 0, .noError⟩
    c.errorKind = .noError ∧
      ((receivePacket Lib.transparent e c).1 < 0 ↔ (receivePacket Lib.transparent e c).2.errorKind ≠ .noError ∨
        (0 < (readPacket e c).1 ∧ ForwardReplyMismatch Lib.transparent (readPacket e c).2)) :=
  ⟨rfl, receivePacket_error_iff Lib.transparent _ rfl⟩

/-- The two paths at concrete frames, on a fresh connection: the `FORWARD_REPLY` frame
`00 01 11`, whose empty reply has no signature, and, in the older `protocol.c`, a `MESG` whose
`ProtocolVersion` carries the magic `0`. -/
theorem error_kind_unrecorded :
    let c : Connection := { connectionCreate (fun _ => 0) (fun _ => 0) 64 with rx := [0x00, 0x01, 0x11] }
    let e : Env := ⟨2, 1, fun _ => 0, fun _ => 0, fun _ => 0, .noError⟩
    let c' := { connectionCreate (fun _ => 0) (fun _ => 0) 64 with
      rx := be16 36 ++ [0x00, 0x01] ++ CMD_MESG ++ List.replicate 24 0 ++ be16 4 ++ [0x01, 0, 1, 0] }
    let e' : Env := ⟨2, 36, fun _ => 0, fun _ => 0, fun _ => 0, .noError⟩
    (receivePacket Lib.transparent e c).1 = -1 ∧ (receivePacket Lib.transparent e c).2.errorKind = .noError ∧
      (Legacy.receivePacket Lib.transparent e' c').1 = 38 ∧
      (Legacy.receivePacket Lib.transparent e' c').2.errorKind = .protocolError := by
  decide

end OpenSDG
