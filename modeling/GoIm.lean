import GoIm.Protocol
import GoIm.Json
import GoIm.Store
import GoIm.Decode
import GoIm.Session
import GoIm.Registry
import GoIm.Offline
import GoIm.Connection
import GoIm.Cluster
import GoIm.Sockets
import GoIm.Presence
import GoIm.Mailbox
import GoIm.Auth
import GoIm.Routing
import GoIm.Sequence
import GoIm.MailboxOrder
import GoIm.Ingress
import GoIm.Ledger
import GoIm.Wire
import GoIm.Directory
import GoIm.Confinement
