/-
One layer of a decoded packet: a recognized header or message, the bytes that
nothing recognized, or the bytes behind an IP datagram.

Every layer has a one-line summary.  The label and the addresses of a packet
come from its layers; payload and trailers have neither.
-/
import PacketWatch.Protocol.Ethernet
import PacketWatch.Protocol.CookedCapture
import PacketWatch.Protocol.Loopback
import PacketWatch.Protocol.Vlan
import PacketWatch.Protocol.Arp
import PacketWatch.Protocol.Ipv4
import PacketWatch.Protocol.Ipv6
import PacketWatch.Protocol.Icmp
import PacketWatch.Protocol.Tcp
import PacketWatch.Protocol.Udp
import PacketWatch.Protocol.Dns
import PacketWatch.Protocol.Http
import PacketWatch.Protocol.Tls
import PacketWatch.Protocol.Ssh
import PacketWatch.Protocol.Ftp
import PacketWatch.Protocol.Dhcp
import PacketWatch.Protocol.Ntp

namespace PacketWatch

/-- A decoded layer. -/
inductive Layer where
  | ethernet (h : Ethernet)
  | cooked (h : CookedCapture)
  | loopback (h : Loopback)
  | vlan (h : Vlan)
  | arp (h : Arp)
  | ipv4 (h : Ipv4)
  | ipv6 (h : Ipv6)
  | icmp (h : Icmp)
  | icmpv6 (h : Icmp)
  | tcp (h : Tcp)
  | udp (h : Udp)
  | dns (h : Dns)
  | http (h : Http)
  | tls (h : Tls)
  | ssh (h : Ssh)
  | ftp (h : Ftp)
  | dhcp (h : Dhcp)
  | ntp (h : Ntp)
  /-- Bytes that nothing recognized. -/
  | payload (length : Nat)
  /-- Bytes behind the end of an IP datagram. -/
  | trailer (length : Nat)
deriving DecidableEq

namespace Layer

/-- The protocol label of a recognized layer. -/
def label? : Layer → Option String
  | ethernet _ => some "Ethernet"
  | cooked _ => some "SLL"
  | loopback _ => some "Loopback"
  | vlan _ => some "VLAN"
  | arp _ => some "ARP"
  | ipv4 _ => some "IPv4"
  | ipv6 _ => some "IPv6"
  | icmp _ => some "ICMP"
  | icmpv6 _ => some "ICMPv6"
  | tcp _ => some "TCP"
  | udp _ => some "UDP"
  | dns _ => some "DNS"
  | http _ => some "HTTP"
  | tls _ => some "TLS"
  | ssh _ => some "SSH"
  | ftp _ => some "FTP"
  | dhcp _ => some "DHCP"
  | ntp _ => some "NTP"
  | payload _ | trailer _ => none

/-- Whether a layer is a specific protocol. -/
def isRecognized (l : Layer) : Bool := l.label?.isSome

/-- Source and destination of a link or IP header.  A cooked capture names the
sender alone, and only if its address is not empty. -/
def addresses? : Layer → Option (String × String)
  | ethernet h => some (macText h.src, macText h.dst)
  | cooked h => if h.linkAddr.isEmpty then none else some (h.linkAddr.colonHex, "")
  | ipv4 h => some (ip4Text h.src, ip4Text h.dst)
  | ipv6 h => some (ip6Text h.src, ip6Text h.dst)
  | _ => none

/-- The one-line summary of a layer. -/
def summary : Layer → String
  | ethernet h => h.summary
  | cooked h => h.summary
  | loopback h => h.summary
  | vlan h => h.summary
  | arp h => h.summary
  | ipv4 h => h.summary
  | ipv6 h => h.summary
  | icmp h => h.summary
  | icmpv6 h => h.summary6
  | tcp h => h.summary
  | udp h => h.summary
  | dns h => h.summary
  | http h => h.summary
  | tls h => h.summary
  | ssh h => h.summary
  | ftp h => h.summary
  | dhcp h => h.summary
  | ntp h => h.summary
  | payload length => "Payload Layer, Data length: " ++ toString length ++ " [Bytes]"
  | trailer length => "Packet Trailer, Length: " ++ toString length ++ " [Bytes]"

end Layer

end PacketWatch
