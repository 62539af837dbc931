/-
Which application a transport payload belongs to.

A service is known by its ports and accepts payloads that look like its own.
For a datagram or segment the first service of the transport that is
responsible for it decides alone: if that service does not accept the payload,
no other is asked.  Secure shell is also responsible for a payload that begins
like its identification line, whatever the ports are, and accepts any payload.
-/
import PacketWatch.Layer

namespace PacketWatch

/-- What carries an application payload. -/
inductive Transport where
  | tcp
  | udp
deriving DecidableEq

/-- An application protocol and how to know it. -/
structure Service where
  /-- The ports that the service is known by. -/
  ports : List UInt16
  /-- Whether a payload shows the service on any port. -/
  hasSignature : Bytes → Bool := fun _ => false
  /-- The layer of a payload that the service accepts. -/
  read? : Bytes → Option Layer

namespace Service

/-- Domain names, over datagrams. -/
def dns : Service where
  ports := [53, 5353]
  read? d := (Dns.read? d).map .dns

/-- Domain names, over segments, where a length of two bytes comes first. -/
def dnsOverTcp : Service where
  ports := [53, 5353]
  read? d := (Dns.read? (d.drop 2)).map .dns

def dhcp : Service where
  ports := [67, 68]
  read? d := (Dhcp.read? d).map .dhcp

def ntp : Service where
  ports := [123]
  read? d := (Ntp.read? d).map .ntp

def http : Service where
  ports := [80, 8000, 8008, 8080]
  read? d := (Http.read? d).map .http

def tls : Service where
  ports := [443, 465, 636, 853, 993, 995]
  read? d := (Tls.read? d).map .tls

def ssh : Service where
  ports := [22]
  hasSignature := Ssh.hasBanner
  read? d := some (.ssh (Ssh.read d))

def ftp : Service where
  ports := [21]
  read? d := (Ftp.read? d).map .ftp

/-- Whether one of the service's ports is the source or the destination. -/
def onPort (s : Service) (srcPort dstPort : UInt16) : Bool :=
  s.ports.contains srcPort || s.ports.contains dstPort

/-- Whether the service decides about a payload. -/
def isResponsible (s : Service) (srcPort dstPort : UInt16) (payload : Bytes) : Bool :=
  s.onPort srcPort dstPort || s.hasSignature payload

end Service

/-- The services of a transport, in the order in which they are asked. -/
def Transport.services : Transport → List Service
  | .udp => [.dns, .dhcp, .ntp]
  | .tcp => [.dnsOverTcp, .http, .tls, .ssh, .ftp]

/-- The application layer of a payload, if the responsible service accepts it. -/
def Transport.detect? (t : Transport) (srcPort dstPort : UInt16) (payload : Bytes) :
    Option Layer := do
  let service ← t.services.find? (·.isResponsible srcPort dstPort payload)
  service.read? payload

end PacketWatch
