/-
The numbers that say what a header carries: Ethernet types and IP protocol
numbers.
-/

namespace PacketWatch

namespace EtherType

def ipv4 : UInt16 := 0x0800
def arp : UInt16 := 0x0806
def ipv6 : UInt16 := 0x86dd

/-- The tag types: a customer tag, a service tag and the service tag's older number. -/
def vlanTags : List UInt16 := [0x8100, 0x88a8, 0x9100]

end EtherType

namespace IpProtocol

def icmp : UInt8 := 1
def ipv4 : UInt8 := 4
def tcp : UInt8 := 6
def udp : UInt8 := 17
def ipv6 : UInt8 := 41
def icmpv6 : UInt8 := 58

end IpProtocol

end PacketWatch
