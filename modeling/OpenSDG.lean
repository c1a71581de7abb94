import OpenSDG.Wire
import OpenSDG.Connection
import OpenSDG.Reader
import OpenSDG.Tunnel
import OpenSDG.Framing
import OpenSDG.FrameEngine
import OpenSDG.Outbound
import OpenSDG.Nonces
import OpenSDG.Buffers
import OpenSDG.Legacy
import OpenSDG.Errors
import OpenSDG.Bounds
import OpenSDG.Handshake
import OpenSDG.PeerHandshake
import OpenSDG.Scenarios
import OpenSDG.Delivery
import OpenSDG.LegacyAgreement
import OpenSDG.Queue
import OpenSDG.Console
