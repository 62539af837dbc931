/-
# `PacketWatch.Proofs.Dissect.Headers` — what it takes for a header to be read

A header is read only where it is whole: its bytes are there, and its declared length is
at least the fixed one.
-/
import PacketWatch.Proofs.Bytes
import PacketWatch.Layer

namespace PacketWatch

theorem Ethernet.whole {d : Bytes} (passed : (read? d).isSome) : headerLength ≤ d.length := by
  unfold read? at passed
  split at passed
  · cases passed
  · omega

theorem CookedCapture.whole {d : Bytes} (passed : (read? d).isSome) :
    headerLength ≤ d.length := by
  unfold read? at passed
  split at passed
  · cases passed
  · omega

theorem Loopback.whole {d : Bytes} (passed : (read? d).isSome) : headerLength ≤ d.length := by
  unfold read? at passed
  split at passed
  · cases passed
  · omega

theorem Vlan.whole {d : Bytes} (passed : (read? d).isSome) : headerLength ≤ d.length := by
  unfold read? at passed
  split at passed
  · cases passed
  · omega

theorem Arp.whole {d : Bytes} (passed : (read? d).isSome) : messageLength d ≤ d.length := by
  unfold read? at passed
  split at passed
  · cases passed
  · omega

theorem Ipv4.whole {d : Bytes} (passed : (read? d).isSome) :
    20 ≤ headerLength d ∧ headerLength d ≤ d.length := by
  unfold read? at passed
  split at passed
  · rename_i header
    simp only [hasHeader, Bool.and_eq_true, decide_eq_true_eq] at header
    exact ⟨header.1.2, header.2⟩
  · cases passed

theorem Ipv6.whole {d : Bytes} (passed : (read? d).isSome) : headerLength ≤ d.length := by
  unfold read? hasHeader at passed
  split at passed
  · rename_i header
    exact of_decide_eq_true (Bool.and_eq_true_iff.mp header).1
  · cases passed

theorem Tcp.whole {d : Bytes} (passed : (read? d).isSome) : headerLength d ≤ d.length := by
  unfold read? hasHeader at passed
  split at passed
  · rename_i header
    exact of_decide_eq_true (Bool.and_eq_true_iff.mp header).2
  · cases passed

theorem Tcp.fixed {d : Bytes} (passed : (read? d).isSome) : 20 ≤ d.length := by
  unfold read? hasHeader at passed
  split at passed
  · rename_i header
    exact of_decide_eq_true (Bool.and_eq_true_iff.mp (Bool.and_eq_true_iff.mp header).1).1
  · cases passed

theorem Tcp.least {d : Bytes} (passed : (read? d).isSome) : 20 ≤ headerLength d := by
  unfold read? hasHeader at passed
  split at passed
  · rename_i header
    exact of_decide_eq_true (Bool.and_eq_true_iff.mp (Bool.and_eq_true_iff.mp header).1).2
  · cases passed

theorem Udp.whole {d : Bytes} (passed : (read? d).isSome) : headerLength ≤ d.length := by
  unfold read? at passed
  split at passed
  · cases passed
  · omega

theorem Udp.length_of_read? {d : Bytes} {h : Udp} (read : read? d = some h) :
    h.length = d.word16At 4 := by
  unfold read? at read
  split at read
  · cases read
  · exact (Option.some.inj read) ▸ rfl

theorem Ipv4.totalLength_of_read? {d : Bytes} {h : Ipv4} (read : read? d = some h) :
    h.totalLength = d.word16At 2 := by
  unfold read? at read
  split at read
  · exact (Option.some.inj read) ▸ rfl
  · cases read

theorem Ipv6.payloadLength_of_read? {d : Bytes} {h : Ipv6} (read : read? d = some h) :
    h.payloadLength = d.word16At 4 := by
  unfold read? at read
  split at read
  · exact (Option.some.inj read) ▸ rfl
  · cases read

end PacketWatch
