/-
# `PacketWatch.Proofs.Dissect.ExtensionChain` — the extension headers of an IPv6 datagram

`Header` is an extension header that leads on: options of any length, or the header of a first
fragment.  What it carries says how long it is, so there is none that is cut short or that
declares another length.  A chain is a list of them in front of an upper protocol, each with
the number of the next in its first byte.

The walk takes a chain off in one direction and finds one in the other:

    skip_chain     in front of any bytes, a chain is passed over
    exists_chain   any bytes are a chain and a rest, where the walk ends

so what the walk answers depends on the rest alone.  It comes to an upper protocol there, or
stands before an extension header that is cut short or of a later fragment.
-/
import PacketWatch.Proofs.Build.ReadBack
import PacketWatch.Proofs.Dissect.Steps

namespace PacketWatch

namespace Ipv6.Extension

/-! ## Headers that lead on -/

/-- The extension headers that share the layout of options. -/
inductive OptionsKind where
  | hopByHop
  | routing
  | destination

def OptionsKind.number : OptionsKind → UInt8
  | hopByHop => Extension.hopByHop
  | routing => Extension.routing
  | destination => Extension.destination

/-- An extension header that leads on to what follows it. -/
inductive Header where
  /-- Options, of as many units of eight bytes behind the first as declared. -/
  | options (kind : OptionsKind) (units : UInt8) (contents : Octets (8 * units.toNat + 6))
  /-- The header of a first fragment: the thirteen bits of its offset are zero. -/
  | fragment (reserved : UInt8) (flags : UInt16) (first : flags.toNat < 8)
      (identification : Octets 4)

namespace Header

/-- The number that names a header. -/
def kind : Header → UInt8
  | options kind _ _ => kind.number
  | fragment _ _ _ _ => Extension.fragment

/-- A header in front of what has the given number. -/
def bytes (next : UInt8) : Header → Bytes
  | options _ units contents => next :: units :: contents.toList
  | fragment reserved flags _ identification =>
      next :: reserved :: (bytes16 flags ++ identification.toList)

theorem isExtension_kind (h : Header) : isExtension h.kind = true := by
  cases h with
  | options kind => cases kind <;> rfl
  | fragment => rfl

theorem byteAt_bytes (next : UInt8) (h : Header) (rest : Bytes) :
    (h.bytes next ++ rest).byteAt 0 = next := by
  cases h with
  | options => rfl
  | fragment => rfl

/-- A whole header has the length that is read off it, whatever follows. -/
theorem length?_bytes (next : UInt8) (h : Header) (rest : Bytes) :
    length? h.kind (h.bytes next ++ rest) = some (h.bytes next).length := by
  cases h with
  | options kind units contents =>
      have length : ((options kind units contents).bytes next).length = 8 * (units.toNat + 1) := by
        simp only [bytes, List.length_cons, contents.length_toList]
        omega
      have other : kind.number ≠ Extension.fragment := by cases kind <;> decide
      have declared : ((options kind units contents).bytes next ++ rest).byteAt 1 = units := rfl
      rw [length?, Header.kind, if_neg other, declared, List.length_append, length, if_neg]
      omega
  | fragment reserved flags first identification =>
      have length : ((fragment reserved flags first identification).bytes next).length = 8 := by
        simp [bytes, identification.length_toList]
      have word : ((fragment reserved flags first identification).bytes next ++ rest).word16At 2
          = flags := word16_bytes16 flags
      rw [length?, Header.kind, if_pos rfl, word, List.length_append, length, if_neg]
      omega

end Header

/-- Options whose length is read are whole. -/
theorem exists_options (kind : OptionsKind) {d : Bytes} {n : Nat}
    (length : length? kind.number d = some n) :
    ∃ h : Header, h.kind = kind.number ∧ d = h.bytes (d.byteAt 0) ++ d.drop n := by
  have bounds := length?_bounds length
  have other : kind.number ≠ fragment := by cases kind <;> decide
  rw [length?, if_neg other] at length
  split at length
  · cases length
  · have size : n = 2 + (8 * (d.byteAt 1).toNat + 6) := by
      have := Option.some.inj length
      omega
    have contents : ((d.drop 2).take (8 * (d.byteAt 1).toNat + 6)).length =
        8 * (d.byteAt 1).toNat + 6 := by
      rw [List.length_take, List.length_drop]
      omega
    refine ⟨.options kind (d.byteAt 1) ⟨_, contents⟩, rfl, ?_⟩
    rw [Header.bytes, List.cons_append, List.cons_append, size, ← List.drop_drop,
      List.take_append_drop, ← Bytes.drop_eq_cons (by omega), ← Bytes.drop_eq_cons (by omega),
      List.drop_zero]

/-- The header of a first fragment whose length is read is whole. -/
theorem exists_fragment {d : Bytes} {n : Nat} (length : length? fragment d = some n) :
    ∃ h : Header, h.kind = fragment ∧ d = h.bytes (d.byteAt 0) ++ d.drop n := by
  rw [length?, if_pos rfl] at length
  split at length
  · cases length
  · rename_i whole
    obtain rfl := Option.some.inj length
    have word : ((d.drop 4).take 4).length = 4 := by
      rw [List.length_take, List.length_drop]
      omega
    refine ⟨.fragment (d.byteAt 1) (d.word16At 2) (by omega) ⟨_, word⟩, rfl, ?_⟩
    rw [Header.bytes, Bytes.word16At, Bytes.bytes16_word16, List.cons_append, List.cons_append,
      List.append_assoc, ← List.drop_drop (i := 4) (j := 4), List.take_append_drop]
    change d = d.byteAt 0 :: d.byteAt 1 :: d.byteAt 2 :: d.byteAt 3 :: d.drop 4
    rw [← Bytes.drop_eq_cons (by omega), ← Bytes.drop_eq_cons (by omega),
      ← Bytes.drop_eq_cons (by omega), ← Bytes.drop_eq_cons (by omega), List.drop_zero]

/-- A header whose length is read is one that leads on. -/
theorem exists_header {kind : UInt8} {d : Bytes} {n : Nat} (extension : isExtension kind = true)
    (length : length? kind d = some n) :
    ∃ h : Header, h.kind = kind ∧ d = h.bytes (d.byteAt 0) ++ d.drop n := by
  simp only [isExtension, Bool.or_eq_true, beq_iff_eq] at extension
  rcases extension with ((rfl | rfl) | rfl) | rfl
  · exact exists_options .hopByHop length
  · exact exists_options .routing length
  · exact exists_fragment length
  · exact exists_options .destination length

/-! ## Chains -/

/-- The number that leads into a chain. -/
def first (upper : UInt8) : List Header → UInt8
  | [] => upper
  | h :: _ => h.kind

/-- The bytes of a chain in front of an upper protocol. -/
def chain (upper : UInt8) : List Header → Bytes
  | [] => []
  | h :: headers => h.bytes (first upper headers) ++ chain upper headers

/-- A chain is passed over, whatever it stands in front of. -/
theorem skip_chain (upper : UInt8) (headers : List Header) (rest : Bytes) :
    skip (first upper headers) (chain upper headers ++ rest) = skip upper rest := by
  induction headers with
  | nil => rfl
  | cons h headers ih =>
      have length := h.length?_bytes (first upper headers) (chain upper headers ++ rest)
      rw [chain, List.append_assoc]
      refine (skip_passed h.isExtension_kind length).trans ?_
      rw [Header.byteAt_bytes, List.drop_left]
      exact ih

/-- The bytes are fewer than the extension header in front of them declares, or than it takes
to declare a length. -/
def IsCutShort (kind : UInt8) (d : Bytes) : Prop :=
  d.length < if kind = fragment then 8 else 8 * ((d.byteAt 1).toNat + 1)

/-- The header in front of the bytes is that of a later fragment: the thirteen bits of its
offset, if they are there, are not all zero. -/
def IsLaterFragment (kind : UInt8) (d : Bytes) : Prop :=
  kind = fragment ∧ 4 ≤ d.length ∧ (d.word16At 2).toNat / 8 ≠ 0

/-- The walk stands before an extension header that it cannot pass. -/
def IsBlocked (kind : UInt8) (d : Bytes) : Prop :=
  isExtension kind = true ∧ (IsCutShort kind d ∨ IsLaterFragment kind d)

theorem length?_eq_none_iff (kind : UInt8) (d : Bytes) :
    length? kind d = none ↔ IsCutShort kind d ∨ IsLaterFragment kind d := by
  unfold length? IsCutShort IsLaterFragment
  by_cases fragment : kind = fragment
  · simp only [fragment, if_true, true_and, ite_eq_left_iff, reduceCtorEq, imp_false, not_not]
    omega
  · simp only [fragment, if_false, false_and, or_false, ite_eq_left_iff, reduceCtorEq, imp_false,
      not_not]
    omega

theorem skip_blocked {kind : UInt8} {d : Bytes} (blocked : IsBlocked kind d) :
    skip kind d = ⟨none, d⟩ :=
  skip_cut blocked.1 ((length?_eq_none_iff kind d).mpr blocked.2)

/-- Any bytes are a chain and a rest that no extension header can be taken from.  The induction
follows the walk. -/
theorem exists_chain (kind : UInt8) (d : Bytes) :
    ∃ headers upper rest, kind = first upper headers ∧ d = chain upper headers ++ rest ∧
      (isExtension upper = false ∨ IsBlocked upper rest) := by
  fun_induction skip kind d with
  | case1 kind d extension cut =>
      have blocked := (length?_eq_none_iff kind d).mp cut
      exact ⟨[], kind, d, rfl, rfl, .inr ⟨extension, blocked⟩⟩
  | case2 kind d extension n length ih =>
      obtain ⟨h, named, split⟩ := exists_header extension length
      obtain ⟨headers, upper, rest, next, behind, ended⟩ := ih
      refine ⟨h :: headers, upper, rest, named.symm, ?_, ended⟩
      rw [chain, List.append_assoc, ← next, ← behind]
      exact split
  | case3 kind d upper =>
      exact ⟨[], kind, d, rfl, rfl, .inl (Bool.eq_false_iff.mpr upper)⟩

end Ipv6.Extension

/-! ## What follows an IPv6 header -/

/-- What is to be looked at where a walk over extension headers ended. -/
def Ipv6.Extension.Walk.next : Ipv6.Extension.Walk → Next
  | ⟨some protocol, rest⟩ => .ipProtocol protocol rest
  | ⟨none, rest⟩ => .unread rest

/-- What follows an IPv6 header is what its extension headers lead to. -/
theorem Stage.ipv6_eq {d : Bytes} {h : Ipv6} (read : Ipv6.read? d = some h) :
    Stage.ipv6 d = .header ⟨.ipv6 h, h.size d, Ipv6.trailer d⟩ (h.upper d).next := by
  rw [Stage.ipv6, read]
  dsimp only [Ipv6.size, Ipv6.upper]
  cases Ipv6.Extension.skip h.nextHeader (Ipv6.payload d) with
  | mk upper? rest => cases upper? <;> rfl

namespace Ipv6.Extension

/-- **The walk over extension headers.**  A chain of headers that lead on, in front of an upper
protocol and any bytes, leads to that protocol and those bytes.  Any bytes at all are such a
chain and a rest: the walk leads to what stands behind the chain, and leaves the rest unread
exactly if it begins with an extension header that is cut short or belongs to a later fragment.
What follows an IPv6 header is what this walk leads to. -/
theorem chain_walked :
    (∀ (headers : List Header) (upper : UInt8) (rest : Bytes), isExtension upper = false →
        (skip (first upper headers) (chain upper headers ++ rest)).next =
          .ipProtocol upper rest) ∧
      (∀ (kind : UInt8) (d : Bytes), ∃ headers upper rest,
        kind = first upper headers ∧ d = chain upper headers ++ rest ∧
          (isExtension upper = false ∧ (skip kind d).next = .ipProtocol upper rest ∨
            IsBlocked upper rest ∧ (skip kind d).next = .unread rest)) ∧
      (∀ (kind : UInt8) (d : Bytes), (∃ rest, (skip kind d).next = .unread rest) ↔
        ∃ headers upper rest, kind = first upper headers ∧ d = chain upper headers ++ rest ∧
          IsBlocked upper rest) ∧
      ∀ (d : Bytes) (h : Ipv6), read? d = some h →
        Stage.ipv6 d = .header ⟨.ipv6 h, h.size d, trailer d⟩ (skip h.nextHeader (payload d)).next := by
  have passed (headers : List Header) (upper : UInt8) (rest : Bytes)
      (ended : isExtension upper = false) :
      (skip (first upper headers) (chain upper headers ++ rest)).next = .ipProtocol upper rest := by
    rw [skip_chain, skip_upper ended]
    rfl
  have blocked (headers : List Header) (upper : UInt8) (rest : Bytes)
      (blocked : IsBlocked upper rest) :
      (skip (first upper headers) (chain upper headers ++ rest)).next = .unread rest := by
    rw [skip_chain, skip_blocked blocked]
    rfl
  refine ⟨passed, ?_, ?_, fun d h read => Stage.ipv6_eq read⟩
  · intro kind d
    obtain ⟨headers, upper, rest, rfl, rfl, ended | stuck⟩ := exists_chain kind d
    · exact ⟨headers, upper, rest, rfl, rfl, .inl ⟨ended, passed headers upper rest ended⟩⟩
    · exact ⟨headers, upper, rest, rfl, rfl, .inr ⟨stuck, blocked headers upper rest stuck⟩⟩
  · intro kind d
    constructor
    · rintro ⟨unread, next⟩
      obtain ⟨headers, upper, rest, rfl, rfl, ended | stuck⟩ := exists_chain kind d
      · cases next.symm.trans (passed headers upper rest ended)
      · exact ⟨headers, upper, rest, rfl, rfl, stuck⟩
    · rintro ⟨headers, upper, rest, rfl, rfl, stuck⟩
      exact ⟨rest, blocked headers upper rest stuck⟩

/-- Options of two units and the header of a first fragment lead to a segment; behind a routing
header, a later fragment is left unread. -/
theorem chain_walked_fragments :
    let later : Bytes := [6, 0, 0, 8, 0, 0, 0, 7, 0x1f, 0x90]
    (skip 0 (44 :: 1 :: List.replicate 14 1 ++ [6, 0, 0, 1, 0, 0, 0, 7, 0x1f, 0x90])).next =
        .ipProtocol 6 [0x1f, 0x90] ∧
      IsBlocked 44 later ∧
      ∃ rest, (skip 43 (44 :: 0 :: List.replicate 6 2 ++ later)).next = .unread rest := by
  intro later
  have blocked : IsBlocked 44 later := ⟨rfl, .inr ⟨rfl, by decide, by decide⟩⟩
  refine ⟨chain_walked.1 [.options .hopByHop 1 ⟨List.replicate 14 1, rfl⟩,
    .fragment 0 1 (by decide) ⟨[0, 0, 0, 7], rfl⟩] 6 [0x1f, 0x90] rfl, blocked, ?_⟩
  exact (chain_walked.2.2.1 _ _).mpr
    ⟨[.options .routing 0 ⟨List.replicate 6 2, rfl⟩], 44, later, rfl, rfl, blocked⟩

end Ipv6.Extension

end PacketWatch
