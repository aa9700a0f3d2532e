import OpenPpp2.Mux.ReorderAccounting
import OpenPpp2.Mux.AckSoundness
import OpenPpp2.Mux.Completions
import OpenPpp2.Mux.FecGroups
import OpenPpp2.Mux.FlowControl
import OpenPpp2.Mux.Stream
import OpenPpp2.P2P.KeyAgreement
import OpenPpp2.Net.RouteTable
import OpenPpp2.Server.LeasePool
import OpenPpp2.P2P.Stun
import OpenPpp2.Server.ResumeInterleaving
import OpenPpp2.Server.ResumeTransaction
import OpenPpp2.Policy.UpdateAgreement
import OpenPpp2.Policy.PolicyMeaning
import OpenPpp2.Cryptography.Base94Blocks
import OpenPpp2.Transmission.Base94Header
import OpenPpp2.Protocol.EndPointFrame
import OpenPpp2.Protocol.StaticPacket
import OpenPpp2.Tap.MergeFidelity
import OpenPpp2.Threading.SpscHandoff
import OpenPpp2.Net.Resolver
import OpenPpp2.Client.Socks
import OpenPpp2.Ipv6.RouteTransaction
import OpenPpp2.Server.RouteAnnounce
import OpenPpp2.Numbers.Int128Shift
