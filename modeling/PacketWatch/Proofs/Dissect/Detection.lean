/-
# `PacketWatch.Proofs.Dissect.Detection` — which payloads no service is found for

The services of a transport are asked in their order, and the first one that is responsible
decides alone.  So nothing is found where no responsible service accepts the payload, and
also where one that does accept it stands behind one that does not (`Transport.Shadowed`).

The latter takes two services that are responsible at once: ports of two protocols, or an
identification line of secure shell on a port of another protocol.
-/
import PacketWatch.Dissect.Service

namespace PacketWatch

namespace Transport

section
variable (t : Transport) (srcPort dstPort : UInt16) (payload : Bytes)

/-- The services that are responsible, in the order in which they are asked. -/
def responsible : List Service := t.services.filter (·.isResponsible srcPort dstPort payload)

/-- A responsible service accepts the payload, but the first one is another and does not. -/
def Shadowed : Prop :=
  ∃ first more, t.responsible srcPort dstPort payload = first :: more ∧
    first.read? payload = none ∧ ∃ s ∈ more, (s.read? payload).isSome

theorem detect?_eq_first :
    t.detect? srcPort dstPort payload =
      (t.responsible srcPort dstPort payload).head?.bind (·.read? payload) := by
  rw [responsible, List.head?_filter]
  rfl

end

variable {t : Transport} {srcPort dstPort : UInt16} {payload : Bytes}

theorem mem_responsible {s : Service} :
    s ∈ t.responsible srcPort dstPort payload ↔
      s ∈ t.services ∧ s.isResponsible srcPort dstPort payload :=
  List.mem_filter

/-- Where at most one service is responsible, none stands in front of it. -/
theorem not_shadowed_of_length_le (few : (t.responsible srcPort dstPort payload).length ≤ 1) :
    ¬ t.Shadowed srcPort dstPort payload := by
  rintro ⟨first, more, listed, -, s, behind, -⟩
  rw [listed] at few
  have some := List.length_pos_of_mem behind
  simp only [List.length_cons] at few
  omega

/-- The first responsible service rejects, and either all others do or one is shadowed. -/
theorem detect?_eq_none_iff :
    t.detect? srcPort dstPort payload = none ↔
      (∀ s ∈ t.responsible srcPort dstPort payload, s.read? payload = none) ∨
        t.Shadowed srcPort dstPort payload := by
  rw [detect?_eq_first, Shadowed]
  cases listed : t.responsible srcPort dstPort payload with
  | nil => exact ⟨fun _ => .inl fun s none => absurd none List.not_mem_nil, fun _ => rfl⟩
  | cons first more =>
      constructor
      · intro rejects
        by_cases others : ∃ s ∈ more, (s.read? payload).isSome
        · exact .inr ⟨first, more, rfl, rejects, others⟩
        · refine .inl (List.forall_mem_cons.mpr ⟨rejects, fun s behind => ?_⟩)
          exact Option.not_isSome_iff_eq_none.mp fun accepts => others ⟨s, behind, accepts⟩
      · rintro (rejects | ⟨_, _, same, rejects, -⟩)
        · exact rejects first List.mem_cons_self
        · cases same
          exact rejects

/-- A service without a signature is responsible by a port. -/
theorem onPort_of_isResponsible {s : Service} (plain : s.hasSignature payload = false)
    (responsible : s.isResponsible srcPort dstPort payload) : s.onPort srcPort dstPort := by
  rw [Service.isResponsible, plain, Bool.or_false] at responsible
  exact responsible

/-- Secure shell accepts all it is asked about, so its identification line is lost only to a
service that is asked before. -/
theorem rejected_of_banner (banner : Ssh.hasBanner payload)
    (lost : tcp.detect? srcPort dstPort payload = none) :
    ∃ s ∈ [Service.dnsOverTcp, .http, .tls], s.onPort srcPort dstPort ∧
      s.read? payload = none := by
  have responsible : Service.ssh.isResponsible srcPort dstPort payload :=
    Bool.or_eq_true_iff.mpr (.inr banner)
  have plain : ∀ s ∈ [Service.dnsOverTcp, .http, .tls], s.hasSignature payload = false := by
    simp [Service.dnsOverTcp, Service.http, Service.tls]
  change (([Service.dnsOverTcp, .http, .tls] ++ [Service.ssh, .ftp]).find? _).bind _ = _ at lost
  have asked : [Service.ssh, .ftp].find? (·.isResponsible srcPort dstPort payload) = some .ssh :=
    List.find?_cons_of_pos responsible
  rw [List.find?_append, asked] at lost
  cases found : [Service.dnsOverTcp, .http, .tls].find?
      (·.isResponsible srcPort dstPort payload) with
  | none =>
      rw [found] at lost
      cases lost
  | some s =>
      rw [found] at lost
      have before := List.mem_of_find?_eq_some found
      have asked : s.isResponsible srcPort dstPort payload := by simpa using List.find?_some found
      exact ⟨s, before, onPort_of_isResponsible (plain s before) asked, lost⟩

/-- **What detection leaves unrecognized.**  Nothing is found exactly where every responsible
service rejects the payload, or where one that accepts it is shadowed.  Nothing is shadowed
where at most one service is responsible; and the identification line of secure shell is
shadowed only on a port of domain names, hypertext or transport security. -/
theorem unrecognized_iff (t : Transport) (srcPort dstPort : UInt16) (payload : Bytes) :
    (t.detect? srcPort dstPort payload = none ↔
      (∀ s ∈ t.services, s.isResponsible srcPort dstPort payload → s.read? payload = none) ∨
        t.Shadowed srcPort dstPort payload) ∧
    ((t.responsible srcPort dstPort payload).length ≤ 1 →
      ¬ t.Shadowed srcPort dstPort payload) ∧
    (t = .tcp → Ssh.hasBanner payload → t.detect? srcPort dstPort payload = none →
      ∃ s ∈ [Service.dnsOverTcp, .http, .tls], s.onPort srcPort dstPort ∧
        s.read? payload = none) := by
  refine ⟨?_, not_shadowed_of_length_le, ?_⟩
  · rw [detect?_eq_none_iff]
    refine or_congr_left ⟨fun rejects s listed responsible => ?_, fun rejects s listed => ?_⟩
    · exact rejects s (mem_responsible.mpr ⟨listed, responsible⟩)
    · obtain ⟨listed, responsible⟩ := mem_responsible.mp listed
      exact rejects s listed responsible
  · rintro rfl banner lost
    exact rejected_of_banner banner lost

/-- An identification line on a port of transport security: secure shell would accept it, and
is not asked. -/
theorem banner_unrecognized :
    let banner := Bytes.ofText "SSH-2.0-OpenSSH_9.6\r\n"
    Ssh.hasBanner banner ∧ Service.ssh ∈ tcp.services ∧
      Service.ssh.isResponsible 50000 443 banner ∧ (Service.ssh.read? banner).isSome ∧
      tcp.detect? 50000 443 banner = none := by
  refine ⟨by decide, ?_, by decide, by decide, by decide⟩
  simp [services]

end Transport

end PacketWatch
