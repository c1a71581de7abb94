import OpenSDG.Wire

/-!
# Connection state and the collaborators of the tunnel protocol

`struct _osdg_connection` as the fields `tunnel_protocol.c` reads and writes, the collaborators
it calls without defining them (`Lib`), the inputs of one call of `receive_packet` (`Env`), and
the small operations every branch uses: `clientGetNonce`, `clientGetBuffer`, `clientPutBuffer`,
`sendData`, `sendPacket`, `connectionSetResult`, `connectionSetStatus`,
`connectionHandleData`.

The connection carries a `trace` of what it did to the outside: every `send_data` call (with the
image of the buffer it sent from and the size passed), every sealing call with its nonce, and every
payload handed to `connection_handle_data`.  Sealing calls are not visible on the wire; they are
recorded so that the nonce discipline can be stated over whole runs.  `sends` and `deliveries`
read back the images sent and the payloads delivered.

`client.c`, `socket.c` and `control_protocol.c` are absent from the sources.  The operations
they provide are modelled from the specification, each under a docstring that says so.
-/

set_option autoImplicit false

namespace OpenSDG

/-- `osdg_result_t`, which is also the connection's `errorKind`. -/
inductive ErrorKind
  | noError
  | socketError
  | cryptoCoreError
  | decryptionError
  | encryptionError
  | protocolError
  | bufferExceeded
  | serverError
  | peerTimeout
  | systemError
  deriving DecidableEq, Repr

/-- Modelled from the spec: the header that numbers `osdg_result_t` is absent.  The kinds are
numbered in the order of the specification's table (§7), `osdg_no_error` being `0`; the older
`protocol.c` returns this number where `send_packet` passes a result on. -/
def ErrorKind.code : ErrorKind → Int
  | .noError => 0
  | .socketError => 1
  | .cryptoCoreError => 2
  | .decryptionError => 3
  | .encryptionError => 4
  | .protocolError => 5
  | .bufferExceeded => 6
  | .serverError => 7
  | .peerTimeout => 8
  | .systemError => 9

@[simp] theorem ErrorKind.code_eq_zero {k : ErrorKind} : k.code = 0 ↔ k = .noError := by
  cases k <;> decide

/-- `mode_grid`, `mode_peer`, or a connection whose mode was never set. -/
inductive Mode
  | grid
  | peer
  | unspecified
  deriving DecidableEq, Repr

/-- Connection status (specification §3). -/
inductive Status
  | closed
  | connecting
  | forwarding
  | handshaking
  | connected
  | failed
  deriving DecidableEq, Repr

/-! ## Protobuf messages -/

/-- `ForwardReply`: the field the core reads. -/
structure ForwardReply where
  signature : String
  deriving DecidableEq, Repr

/-- `ForwardError`: the field the core reads. -/
structure ForwardError where
  code : Int
  deriving DecidableEq, Repr

/-- `ProtocolVersion`. -/
structure ProtocolVersion where
  magic : UInt32
  major : UInt32
  minor : UInt32
  deriving DecidableEq, Repr

/-- `ForwardRemote`, as `sendForward` fills it. -/
structure ForwardRemote where
  magic : UInt32
  protocolmajor : UInt32
  protocolminor : UInt32
  tunnelid : Bytes
  signature : String
  deriving DecidableEq, Repr

/-! ## Collaborators -/

/-- What `tunnel_protocol.c` calls but does not define: NaCl (`none` is a non-zero return), the
protobuf-c codecs (a message is packed to the bytes `*_pack` writes, so its packed size is their
length), the upper layer behind `connection_handle_data`, and the constants of the absent
headers. -/
structure Lib where
  /-- `crypto_box(c, m, mlen, n, pk, sk)`. -/
  box : Bytes → Bytes → Key → Key → Option Bytes
  /-- `crypto_box_open(m, c, clen, n, pk, sk)`. -/
  boxOpen : Bytes → Bytes → Key → Key → Option Bytes
  /-- `crypto_box_beforenm(k, pk, sk)`. -/
  boxBeforenm : Key → Key → Option Key
  /-- `crypto_box_afternm(c, m, mlen, n, k)`. -/
  boxAfternm : Bytes → Bytes → Key → Option Bytes
  /-- `crypto_box_open_afternm(m, c, clen, n, k)`. -/
  boxOpenAfternm : Bytes → Bytes → Key → Option Bytes
  forwardReplyUnpack : Bytes → Option ForwardReply
  forwardErrorUnpack : Bytes → Option ForwardError
  forwardRemotePack : ForwardRemote → Bytes
  protocolVersionPack : ProtocolVersion → Bytes
  protocolVersionUnpack : Bytes → Option ProtocolVersion
  /-- The result of the upper layer on a decrypted payload, and the status it sets, if any. -/
  handleData : Mode → Bytes → ErrorKind × Option Status
  PACKET_MAGIC : UInt8 × UInt8
  FORWARD_REMOTE_SIGNATURE : String
  FORWARD_REMOTE_MAGIC : UInt32
  PROTOCOL_VERSION_MAGIC : UInt32
  FORWARD_SERVER_ERROR : Int
  FORWARD_PEER_TIMEOUT : Int

/-- The inputs of one call of `receive_packet`: how many bytes each of its (at most two)
`recv` calls delivers, the keypair `crypto_box_keypair` draws, the random half of the VOCH
long-term nonce, and what `send_data` returns if the call sends (it sends at most one packet). -/
structure Env where
  firstRead : Nat
  secondRead : Nat
  tempPubkey : Key
  tempSecret : Key
  vouchNonce : Block 16
  sendResult : ErrorKind

/-- What a connection did to the outside. -/
inductive Event
  /-- `send_data(buffer, size)`: the image of the buffer from its start, and the size passed. -/
  | send (image : Bytes) (size : Nat)
  /-- A `crypto_box` or `crypto_box_afternm` call under `nonce`, and whether it succeeded. -/
  | seal (nonce : Bytes) (ok : Bool)
  /-- `connection_handle_data(conn, data, length)`. -/
  | deliver (data : Bytes)
  deriving DecidableEq

/-- `struct _osdg_connection`: the fields the protocol code reads and writes, the bytes of the
TCP stream not yet read (`rx`), and the `trace`. -/
structure Connection where
  clientPubkey : Key
  clientSecret : Key
  serverPubkey : Key
  clientTempPubkey : Key
  clientTempSecret : Key
  serverCookie : Block 96
  beforenmData : Key
  nonce : UInt64
  mode : Mode
  status : Status
  errorKind : ErrorKind
  tunnelId : Option Bytes
  bufferSize : Nat
  receiveBuffer : Mem
  bytesReceived : Nat
  bytesLeft : Nat
  /-- The freelist of send buffers, oldest first. -/
  bufferQueue : List Nat
  /-- Send buffers allocated so far; they are numbered from 0. -/
  buffersAllocated : Nat
  rx : Bytes
  trace : List Event

/-! ## Operations shared by the branches -/

/-- `client_get_nonce`: post-increments the counter and returns the old value as `SWAP_64`
lays it in memory. -/
def clientGetNonce (c : Connection) : Bytes × Connection :=
  (be64 c.nonce, { c with nonce := c.nonce + 1 })

/-- Modelled from the spec: `client_get_buffer` (client.h) is absent.  The freelist is a queue
of send buffers of `bufferSize` bytes: the oldest free one is taken, a new one is allocated when
none is free. -/
def clientGetBuffer (c : Connection) : Nat × Connection :=
  (c.bufferQueue.headD c.buffersAllocated,
    { c with bufferQueue := c.bufferQueue.tail
             buffersAllocated := if c.bufferQueue = [] then c.buffersAllocated + 1 else c.buffersAllocated })

/-- Modelled from the spec: `client_put_buffer` (client.h) is absent; it returns a buffer to the
end of the freelist (`queue_put`). -/
def clientPutBuffer (c : Connection) (b : Nat) : Connection :=
  { c with bufferQueue := c.bufferQueue ++ [b] }

/-- Modelled from the spec: `send_data` (socket.c) is absent; it writes `size` bytes from the
buffer to the TCP stream and returns `res`, what the socket layer reports (`osdg_socket_error`
when the write fails).  The attempt is recorded whatever it returns. -/
def sendData (res : ErrorKind) (image : Bytes) (size : Nat) (c : Connection) : ErrorKind × Connection :=
  (res, { c with trace := c.trace ++ [.send image size] })

/-- `send_packet`: sends `PACKET_SIZE(header)` bytes from the header. -/
def sendPacket (res : ErrorKind) (image : Bytes) (c : Connection) : ErrorKind × Connection :=
  sendData res image (packetSize image) c

/-- Records a sealing call and its outcome. -/
def Connection.logSeal (c : Connection) (nonce : Bytes) (r : Option Bytes) : Connection :=
  { c with trace := c.trace ++ [.seal nonce r.isSome] }

/-- Modelled from the spec: `connection_set_result` (client.c) is absent.  A non-zero result is
recorded as the error kind and fails the connection (§4.4, §7); the return value is `0` or
`-1`. -/
def connectionSetResult (c : Connection) (res : ErrorKind) : Int × Connection :=
  if res = .noError then (0, c) else (-1, { c with errorKind := res, status := .failed })

/-- Modelled from the spec: `connection_set_status` (client.c) is absent; it sets the status and
notifies the status callback. -/
def connectionSetStatus (c : Connection) (s : Status) : Connection := { c with status := s }

section Collaborators

variable (L : Lib)

/-- Modelled from the spec: `connection_handle_data` (control_protocol.c) is absent.  It hands a
decrypted payload to the control protocol (grid) or to the application (peer), which may set the
status (a matching `ProtocolVersion` completes the grid handshake); the core sees its result. -/
def connectionHandleData (c : Connection) (data : Bytes) : ErrorKind × Connection :=
  let (res, st) := L.handleData c.mode data
  (res, { c with trace := c.trace ++ [.deliver data], status := st.getD c.status })

end Collaborators

/-- Modelled from the spec: `osdg_connection_create` (client.c) is absent.  A connection is
created with the long-term keypair and a buffer size (§3, §5); every other field starts zero,
empty, or `closed`. -/
def connectionCreate (clientPubkey clientSecret : Key) (bufferSize : Nat) : Connection where
  clientPubkey := clientPubkey
  clientSecret := clientSecret
  serverPubkey := fun _ => 0
  clientTempPubkey := fun _ => 0
  clientTempSecret := fun _ => 0
  serverCookie := fun _ => 0
  beforenmData := fun _ => 0
  nonce := 0
  mode := .unspecified
  status := .closed
  errorKind := .noError
  tunnelId := none
  bufferSize := bufferSize
  receiveBuffer := fun _ => 0
  bytesReceived := 0
  bytesLeft := 0
  bufferQueue := []
  buffersAllocated := 0
  rx := []
  trace := []

/-- Collaborators that let the model run on concrete bytes: sealing and opening are the
identity, the codecs read their fields straight from the bytes, and the upper layer accepts
every payload without touching the status. -/
def Lib.transparent : Lib where
  box m _ _ _ := some m
  boxOpen c _ _ _ := some c
  boxBeforenm pk _ := some pk
  boxAfternm m _ _ := some m
  boxOpenAfternm c _ _ := some c
  forwardReplyUnpack b := some ⟨String.mk (b.map fun x => Char.ofNat x.toNat)⟩
  forwardErrorUnpack b := some ⟨(b.headD 0).toNat⟩
  forwardRemotePack r := r.tunnelid
  protocolVersionPack v := [v.magic.toUInt8, v.major.toUInt8, v.minor.toUInt8]
  protocolVersionUnpack
    | [m, a, b] => some ⟨m.toUInt32, a.toUInt32, b.toUInt32⟩
    | _ => none
  handleData _ _ := (.noError, none)
  PACKET_MAGIC := (0x00, 0x01)
  FORWARD_REMOTE_SIGNATURE := "OK"
  FORWARD_REMOTE_MAGIC := 7
  PROTOCOL_VERSION_MAGIC := 9
  FORWARD_SERVER_ERROR := 1
  FORWARD_PEER_TIMEOUT := 2

@[simp] theorem clientGetNonce_fst (c : Connection) : (clientGetNonce c).1 = be64 c.nonce := rfl
@[simp] theorem clientGetNonce_snd (c : Connection) :
    (clientGetNonce c).2 = { c with nonce := c.nonce + 1 } := rfl

@[simp] theorem sendData_fst (res : ErrorKind) (image : Bytes) (size : Nat) (c : Connection) :
    (sendData res image size c).1 = res := rfl
@[simp] theorem sendData_snd (res : ErrorKind) (image : Bytes) (size : Nat) (c : Connection) :
    (sendData res image size c).2 = { c with trace := c.trace ++ [.send image size] } := rfl

@[simp] theorem sendPacket_fst (res : ErrorKind) (image : Bytes) (c : Connection) :
    (sendPacket res image c).1 = res := rfl
@[simp] theorem sendPacket_snd (res : ErrorKind) (image : Bytes) (c : Connection) :
    (sendPacket res image c).2 = { c with trace := c.trace ++ [.send image (packetSize image)] } := rfl

@[simp] theorem logSeal_eq (c : Connection) (nonce : Bytes) (r : Option Bytes) :
    c.logSeal nonce r = { c with trace := c.trace ++ [.seal nonce r.isSome] } := rfl

@[simp] theorem clientPutBuffer_eq (c : Connection) (b : Nat) :
    clientPutBuffer c b = { c with bufferQueue := c.bufferQueue ++ [b] } := rfl

@[simp] theorem connectionSetStatus_eq (c : Connection) (s : Status) :
    connectionSetStatus c s = { c with status := s } := rfl

@[simp] theorem connectionHandleData_trace (L : Lib) (c : Connection) (data : Bytes) :
    (connectionHandleData L c data).2.trace = c.trace ++ [.deliver data] := rfl

@[simp] theorem connectionSetResult_trace (c : Connection) (res : ErrorKind) :
    (connectionSetResult c res).2.trace = c.trace := by
  unfold connectionSetResult; split <;> rfl

theorem connectionSetResult_noError (c : Connection) : connectionSetResult c .noError = (0, c) := rfl

theorem connectionSetResult_error (c : Connection) {res : ErrorKind} (h : res ≠ .noError) :
    connectionSetResult c res = (-1, { c with errorKind := res, status := .failed }) := by
  simp [connectionSetResult, h]

/-! ## What a connection hands out -/

/-- The payload of a `connection_handle_data` call. -/
def Event.delivered : Event → Option Bytes
  | .deliver data => some data
  | _ => none

/-- The image of a `send_data` call. -/
def Event.sent : Event → Option Bytes
  | .send image _ => some image
  | _ => none

/-- The payloads a trace handed to `connection_handle_data`, in order. -/
def deliveries (tr : List Event) : List Bytes := tr.filterMap Event.delivered

/-- The images a trace sent, in order. -/
def sends (tr : List Event) : List Bytes := tr.filterMap Event.sent

@[simp] theorem deliveries_append (a b : List Event) : deliveries (a ++ b) = deliveries a ++ deliveries b :=
  List.filterMap_append _ _ _
@[simp] theorem deliveries_nil : deliveries [] = [] := rfl
@[simp] theorem deliveries_send (image : Bytes) (size : Nat) (tr : List Event) :
    deliveries (.send image size :: tr) = deliveries tr := rfl
@[simp] theorem deliveries_seal (nonce : Bytes) (ok : Bool) (tr : List Event) :
    deliveries (.seal nonce ok :: tr) = deliveries tr := rfl
@[simp] theorem deliveries_deliver (data : Bytes) (tr : List Event) :
    deliveries (.deliver data :: tr) = data :: deliveries tr := rfl

@[simp] theorem sends_append (a b : List Event) : sends (a ++ b) = sends a ++ sends b :=
  List.filterMap_append _ _ _
@[simp] theorem sends_nil : sends [] = [] := rfl
@[simp] theorem sends_send (image : Bytes) (size : Nat) (tr : List Event) :
    sends (.send image size :: tr) = image :: sends tr := rfl
@[simp] theorem sends_seal (nonce : Bytes) (ok : Bool) (tr : List Event) :
    sends (.seal nonce ok :: tr) = sends tr := rfl
@[simp] theorem sends_deliver (data : Bytes) (tr : List Event) :
    sends (.deliver data :: tr) = sends tr := rfl

end OpenSDG
