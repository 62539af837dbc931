/-
The head of a transport layer security record: content type and version.
-/
import PacketWatch.Bytes

namespace PacketWatch

/-- The head of a record. -/
structure Tls where
  contentType : UInt8
  version : UInt16
deriving DecidableEq

namespace Tls

/-- Whether a number is a content type in use. -/
def isContentType (b : UInt8) : Bool := 20 ≤ b && b ≤ 23

/-- Whether a number is a protocol version in use. -/
def isVersion (v : UInt16) : Bool := 0x0300 ≤ v && v ≤ 0x0304

/-- The head of the record at the start of a payload. -/
def read? (d : Bytes) : Option Tls :=
  if 3 ≤ d.length && isContentType (d.byteAt 0) && isVersion (d.word16At 1) then
    some ⟨d.byteAt 0, d.word16At 1⟩
  else none

def contentTypeName (contentType : UInt8) : String :=
  match contentType.toNat with
  | 20 => "Change cipher spec"
  | 21 => "Alert"
  | 22 => "Handshake"
  | 23 => "Application data"
  | _ => "Unknown record"

def versionName (version : UInt16) : String :=
  match version.toNat with
  | 0x0300 => "SSL 3.0"
  | 0x0301 => "TLS 1.0"
  | 0x0302 => "TLS 1.1"
  | 0x0303 => "TLS 1.2"
  | 0x0304 => "TLS 1.3"
  | _ => "unknown"

def summary (h : Tls) : String :=
  "TLS Layer, " ++ contentTypeName h.contentType ++ ", Version: " ++ versionName h.version

end Tls

end PacketWatch
