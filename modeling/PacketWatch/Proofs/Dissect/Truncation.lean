/-
# `PacketWatch.Proofs.Dissect.Truncation` — a shorter capture shows no other headers

Cutting a frame short may end its walk earlier, and it may change what is told of the
application.  It adds no link, network or transport layer and changes no field of one: the
layers below the applications are those of the whole frame, as far as they go.

Two walks run side by side, over the captured bytes and over all of them.  Each step of the
first is a step of the second with the same layer (`Next.Step.longer`), so it is an
induction on the first.
-/
import PacketWatch.Proofs.Dissect.Accounting
import PacketWatch.Proofs.Dissect.Longer

namespace PacketWatch

/-- The layers below the applications: link headers, tags, address resolution, IP, control
messages and transports. -/
def Layer.isFraming (l : Layer) : Bool :=
  [.ethernet, .cooked, .loopback, .vlan, .arp, .ip, .icmp, .icmpv6, .tcp, .udp].contains l.kind

namespace Dissection

/-- The recognized layers below the applications. -/
def framing (r : Dissection) : List Layer := r.headers.filter (·.isFraming)

theorem filter_isFraming_layers {r : Dissection} : r.layers.filter (·.isFraming) = r.framing :=
  filter_layers (fun _ => rfl) (fun _ => rfl)

/-- The same layer in front of both. -/
theorem framing_cons {r r' : Dissection} {span span' : Span} (same : span'.layer = span.layer)
    (behind : r.framing <+: r'.framing) :
    (r.cons span).framing <+: (r'.cons span').framing := by
  change (span.layer :: r.headers).filter _ <+: (span'.layer :: r'.headers).filter _
  rw [same]
  by_cases below : span.layer.isFraming
  · rw [List.filter_cons_of_pos below, List.filter_cons_of_pos below]
    exact List.cons_prefix_cons.mpr ⟨rfl, behind⟩
  · rw [List.filter_cons_of_neg below, List.filter_cons_of_neg below]
    exact behind

end Dissection

theorem Walked.framing_of_unread {room : Nat} {rest : Bytes} {r : Dissection}
    (walked : Walked room (.unread rest) r) : r.framing = [] := by
  rw [Dissection.framing, Dissection.headers, walked.nothing_behind]
  rfl

/-- The induction is on the walk over fewer bytes; the other one follows it. -/
theorem Walked.framing_longer {room : Nat} {next next' : Next} {r : Dissection}
    (walked : Walked room next r) (longer : next.Longer next') :
    r.framing <+: (walk room next').framing := by
  induction walked generalizing next' with
  | stop => exact List.nil_prefix
  | step step further ih =>
      rcases step.longer longer with ⟨span', onward', step', same, longer'⟩ | ⟨_, _, _, _, rfl⟩
      · rw [walk_of_step step']
        refine Dissection.framing_cons same ?_
        rcases longer' with longer' | ⟨rest, rfl⟩
        · exact ih longer'
        · rw [further.framing_of_unread]
          exact List.nil_prefix
      · -- An application is no header below itself, and nothing follows it.
        obtain ⟨layer, found, rfl, rfl⟩ := step.of_application
        have none : ¬ layer.isFraming := by
          rw [Layer.isFraming, Transport.kind_of_detect? found]
          decide
        change (layer :: _).filter _ <+: _
        rw [List.filter_cons_of_neg none]
        change Dissection.framing _ <+: _
        rw [further.framing_of_unread]
        exact List.nil_prefix

/-- Bytes that follow take no header away. -/
theorem framing_dissection_longer (link : LinkType) {d e : Bytes} (start : d <+: e) :
    (dissection link d).framing <+: (dissection link e).framing := by
  rcases dissection_cases link d with ⟨span, onward, step⟩ | ⟨rfl, type, -, named⟩ | nothing
  · obtain ⟨onward', step', longer⟩ := step.longer start
    rw [dissection_of_linkStep step, dissection_of_linkStep step']
    exact Dissection.framing_cons rfl ((walked_walk _ _).framing_longer longer)
  · rw [dissection, dissection, named, rawIp_longer start named]
    exact (walked_walk _ _).framing_longer (.etherType start)
  · rw [nothing]
    exact List.nil_prefix

/-- **Truncation only removes layers.**  Below the applications, the layers of the first `k`
bytes of a frame are the first of its layers, with the same fields. -/
theorem truncation_only_removes (link : LinkType) (d : Bytes) (k : Nat) :
    (dissect link (d.take k)).filter (·.isFraming) <+:
        (dissect link d).filter (·.isFraming) ∧
      ∀ l ∈ dissect link (d.take k), l.isFraming → l ∈ dissect link d := by
  have shown : (dissect link (d.take k)).filter (·.isFraming) <+:
      (dissect link d).filter (·.isFraming) := by
    rw [dissect, dissect, Dissection.filter_isFraming_layers, Dissection.filter_isFraming_layers]
    exact framing_dissection_longer link (List.take_prefix k d)
  refine ⟨shown, fun l here below => ?_⟩
  exact (List.mem_filter.mp (shown.subset (List.mem_filter.mpr ⟨here, below⟩))).1

end PacketWatch
