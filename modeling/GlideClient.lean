import GlideClient.Wire.Varint
import GlideClient.Wire.Frame
import GlideClient.Protocol
import GlideClient.Client.Dispatcher
import GlideClient.Client.Session
import GlideClient.Client.Writer
import GlideClient.Client.BaseClient
import GlideClient.Client.ReadPath
import GlideClient.Client.Lifecycle
import GlideClient.Client.Pointer
import GlideClient.Client.Cluster
import GlideClient.Client.Simulation
import GlideClient.Client.Settlement
import GlideClient.Client.Correlation
