import OpenDTP.Effects.Monitoring
import OpenDTP.Sha256.Collisions
import OpenDTP.Protocol.Terminators
import OpenDTP.Client.Joining
import OpenDTP.Client.Reporting
import OpenDTP.Client.Isolation
import OpenDTP.Client.Waiting
import OpenDTP.Client.Aftermath
import OpenDTP.Client.Authentication
import OpenDTP.Client.Grammar
import OpenDTP.Client.Resources
import OpenDTP.Client.Delivery
import OpenDTP.Client.Sockets
import OpenDTP.Client.Voice
import OpenDTP.Client.Reasons
import OpenDTP.Client.Servicing
import OpenDTP.Client.Numbering
import OpenDTP.Client.Junk
import OpenDTP.Protocol.Formats
import OpenDTP.Protocol.Lossless
import OpenDTP.Protocol.Malformed
import OpenDTP.Protocol.Surrogates
import OpenDTP.Client.Encoding
import OpenDTP.Sha256.Trace
import OpenDTP.Client.Digests
import OpenDTP.Client.Secrecy
import OpenDTP.Client.Locking
import OpenDTP.Client.Teardown
import OpenDTP.Network.Handshake
import OpenDTP.Network.Connecting
import OpenDTP.Client.Deadlock
import OpenDTP.Client.Recording
import OpenDTP.Client.Destruction
import OpenDTP.Client.Finality
