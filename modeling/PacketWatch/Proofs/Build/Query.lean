/-
# `PacketWatch.Proofs.Build.Query` — the name that a query asks for is read back

What stands between the dots of a name are its parts (`PartsOf`).  A query carries those that
are not empty, each cut to 63 bytes, behind its length.  Such a length is neither zero, which
would end the name, nor a compression pointer, so a reader that goes from label to label finds
all of them, the end of the name, and behind it the rest of the question.  The reader follows
the writer, by induction on the labels.

The header of the query is read back as well, on the port of the name service; there is no
service that is asked before this one.
-/
import PacketWatch.Proofs.Build.PlainText
import PacketWatch.Proofs.Build.ReadBack
import PacketWatch.Dissect.Service

namespace PacketWatch

open Bytes

namespace Dns

/-! ## Parts of a name -/

/-- The texts that a name consists of, with dots between them. -/
structure PartsOf (name : String) (parts : List String) : Prop where
  nonempty : parts ≠ []
  joined : String.intercalate "." parts = name
  undotted : ∀ part ∈ parts, '.' ∉ part.toList

theorem not_mem_of_mem_splitOn {c : Char} {cs part : List Char} (among : part ∈ cs.splitOn c) :
    c ∉ part := by
  induction cs generalizing part with
  | nil =>
      rw [List.splitOn_nil, List.mem_singleton] at among
      subst among
      exact List.not_mem_nil
  | cons d cs ih =>
      rw [List.splitOn_cons_eq_if_modifyHead] at among
      split at among
      · rcases List.mem_cons.mp among with rfl | later
        · exact List.not_mem_nil
        · exact ih later
      · rename_i other
        obtain ⟨first, more, split⟩ := List.exists_cons_of_ne_nil (List.splitOn_ne_nil c cs)
        rw [split, List.modifyHead_cons] at among
        rw [split] at ih
        rcases List.mem_cons.mp among with rfl | later
        · rw [List.mem_cons, not_or]
          exact ⟨fun same => other (beq_iff_eq.mpr same.symm), ih List.mem_cons_self⟩
        · exact ih (List.mem_cons_of_mem _ later)

theorem partsOf_splitOn (name : String) :
    PartsOf name ((name.toList.splitOn '.').map String.ofList) where
  nonempty := fun none => List.splitOn_ne_nil _ _ (List.map_eq_nil_iff.mp none)
  joined := by
    have same : String.toList ∘ String.ofList = id := funext fun _ => String.toList_ofList
    rw [← String.toList_inj, String.toList_intercalate, List.map_map, same, List.map_id]
    exact List.intercalate_splitOn '.'
  undotted := by
    intro part among
    obtain ⟨cs, found, rfl⟩ := List.mem_map.mp among
    rw [String.toList_ofList]
    exact not_mem_of_mem_splitOn found

theorem labels_eq (name : String) :
    labels name = (((name.toList.splitOn '.').map String.ofList).filter (· ≠ "")).map
      fun part => (ofText part).take 63 := by
  have empty : (fun cs => !cs.isEmpty) = (fun part => decide (part ≠ "")) ∘ String.ofList := by
    funext cs
    show _ = decide (String.ofList cs ≠ String.ofList [])
    cases cs <;> simp
  rw [labels, empty, List.filter_map, List.map_map]
  rfl

/-! ## Labels -/

theorem writeLabels_eq (labels : List Bytes) :
    writeLabels labels = labels.flatMap (fun label => UInt8.ofNat label.length :: label) ++ [0] := by
  induction labels with
  | nil => rfl
  | cons label labels ih =>
      rw [writeLabels, ih, List.flatMap_cons, List.append_assoc]

/-- Labels that are neither empty nor too long are read back, and what is behind them is left. -/
theorem readLabels?_writeLabels {labels : List Bytes}
    (sized : ∀ label ∈ labels, 1 ≤ label.length ∧ label.length ≤ 63) (behind : Bytes) :
    readLabels? (writeLabels labels ++ behind) = some (labels, behind) := by
  induction labels with
  | nil =>
      show readLabels? (0 :: behind) = _
      rw [readLabels?, if_pos rfl]
  | cons label labels ih =>
      obtain ⟨size, others⟩ := List.forall_mem_cons.mp sized
      -- the length byte is what the reader tells a label by
      have code : (UInt8.ofNat label.length).toNat = label.length :=
        UInt8.toNat_ofNat_of_lt' (Nat.lt_of_le_of_lt size.2 (by decide))
      have nonzero : UInt8.ofNat label.length ≠ 0 := by
        intro zero
        rw [zero] at code
        exact absurd code.symm (Nat.ne_of_gt size.1)
      have inside : ¬ (maxLabel < label.length ∨
          (label ++ (writeLabels labels ++ behind)).length < label.length) := by
        rw [List.length_append, maxLabel]
        omega
      rw [writeLabels, List.cons_append, List.cons_append, List.append_assoc, readLabels?,
        if_neg nonzero, code, if_neg inside, List.drop_left, List.take_left, ih others]
      rfl

theorem length_label {part : String} (some : part ≠ "") :
    1 ≤ ((ofText part).take 63).length ∧ ((ofText part).take 63).length ≤ 63 := by
  have size : part.utf8ByteSize ≠ 0 := fun zero => some (String.utf8ByteSize_eq_zero_iff.mp zero)
  rw [List.length_take, length_ofText_eq_utf8ByteSize]
  omega

theorem drop_query (transactionId : UInt16) (name : String) :
    (query transactionId name).drop headerLength = writeLabels (labels name) ++ [0, 1, 0, 1] := rfl

end Dns

/-- Between its port and any other one, the service that is asked first decides. -/
theorem Transport.detect?_of_first {t : Transport} {s : Service} {others : List Service}
    (first : t.services = s :: others) (own : UInt16) (known : s.ports.contains own)
    (port : UInt16) (payload : Bytes) :
    t.detect? port own payload = s.read? payload ∧
      t.detect? own port payload = s.read? payload := by
  have detect (srcPort dstPort : UInt16) (ours : s.onPort srcPort dstPort) :
      t.detect? srcPort dstPort payload = s.read? payload := by
    have responsible : s.isResponsible srcPort dstPort payload := by
      rw [Service.isResponsible, ours, Bool.true_or]
    have asked : t.services.find? (·.isResponsible srcPort dstPort payload) = some s := by
      rw [first]
      exact List.find?_cons_of_pos responsible
    show Option.bind (t.services.find? _) _ = _
    rw [asked]
    rfl
  constructor
  · exact detect port own (by rw [Service.onPort, known, Bool.or_true])
  · exact detect own port (by rw [Service.onPort, known, Bool.true_or])

namespace Dns

/-- **A query carries the parts of a name**: those that are not empty, cut to 63 bytes, each
behind its length, which is neither zero nor that of a compression pointer.  They are read back,
and behind their end there is the rest of one question.  Between any port and that of the name
service the query is recognized, over datagrams and, behind the two bytes of a length, over
segments. -/
theorem query_readable (transactionId : UInt16) (name : String) :
    ∃ parts, PartsOf name parts ∧
      let labels := (parts.filter (· ≠ "")).map fun part => (ofText part).take 63
      let message := query transactionId name
      (∀ label ∈ labels, 1 ≤ label.length ∧ label.length ≤ 63) ∧
      message.drop 12 =
        labels.flatMap (fun label => UInt8.ofNat label.length :: label) ++ [0, 0, 1, 0, 1] ∧
      readLabels? (message.drop 12) = some (labels, [0, 1, 0, 1]) ∧
      ∀ port,
        Transport.udp.detect? port 53 message = some (.dns ⟨transactionId, false, 1, 0⟩) ∧
        Transport.udp.detect? 53 port message = some (.dns ⟨transactionId, false, 1, 0⟩) ∧
        ∀ a b,
          Transport.tcp.detect? port 53 (a :: b :: message) =
            some (.dns ⟨transactionId, false, 1, 0⟩) ∧
          Transport.tcp.detect? 53 port (a :: b :: message) =
            some (.dns ⟨transactionId, false, 1, 0⟩) := by
  refine ⟨_, partsOf_splitOn name, ?_⟩
  rw [← labels_eq]
  intro names message
  have sized : ∀ label ∈ names, 1 ≤ label.length ∧ label.length ≤ 63 := by
    intro label among
    change label ∈ Dns.labels name at among
    rw [labels_eq] at among
    obtain ⟨part, kept, rfl⟩ := List.mem_map.mp among
    exact length_label (of_decide_eq_true (List.mem_filter.mp kept).2)
  have written : message.drop 12 = writeLabels names ++ [0, 1, 0, 1] := drop_query ..
  have read : Service.dns.read? message = some (.dns ⟨transactionId, false, 1, 0⟩) :=
    congrArg (Option.map Layer.dns) (Dns.read?_query transactionId name)
  refine ⟨sized, ?_, ?_, ?_⟩
  · rw [written, writeLabels_eq, List.append_assoc]
    rfl
  · rw [written]
    exact readLabels?_writeLabels sized _
  · intro port
    have overUdp := Transport.detect?_of_first (t := .udp) (s := .dns) rfl 53
      (by decide) port message
    rw [read] at overUdp
    refine ⟨overUdp.1, overUdp.2, ?_⟩
    intro a b
    have overTcp := Transport.detect?_of_first (t := .tcp) (s := .dnsOverTcp) rfl 53
      (by decide) port (a :: b :: message)
    have behind : Service.dnsOverTcp.read? (a :: b :: message) = Service.dns.read? message := rfl
    rw [behind, read] at overTcp
    exact overTcp

end Dns

end PacketWatch
