import P4tcExamples.ArpRespond.Program

/-! # Which frames arp_respond answers

The README promises that packets other than ARP go up the stack and that answers
go to ARP requests. The control has no validity check, so a frame without the ARP
headers is either dropped or, when 0.0.0.0 is an entry, sent back; and of the
format fields of a request only `oper` is looked at.
-/
namespace P4tcExamples.ArpRespond
open BitFields

def Replies (t : ArpTable) (tpa : BitVec 32) (rmac : BitVec 48) : Prop :=
  t tpa = some (.arpReply rmac)

theorem arpTable_eq_arpReply {t : ArpTable} {tpa : BitVec 32} {rmac : BitVec 48} :
    arpTable t tpa = .arpReply rmac ↔ Replies t tpa rmac := by
  unfold arpTable Replies
  cases t tpa with
  | none => simp
  | some a => simp

theorem outcome_redirect {t : ArpTable} {tpa : BitVec 32} {port : Dev} {sent : BitVec 48 → Frame}
    {p : BitVec 32} {g : Frame} : outcome port sent (arpTable t tpa) = .redirect p g ↔
      ∃ rmac, Replies t tpa rmac ∧ p = port.val ∧ g = sent rmac := by
  simp only [← arpTable_eq_arpReply]
  cases arpTable t tpa with
  | drop => simp [outcome]
  | arpReply rmac =>
    constructor
    · intro h
      cases h
      exact ⟨rmac,rfl,rfl,rfl⟩
    · rintro ⟨rmac',hr,rfl,rfl⟩
      cases hr
      rfl

/-- No frame of another ethertype reaches the host, whatever the table holds, and
for every table there is another under which the frame fares differently. -/
theorem other_depends_on_arpTable {f : Frame} (hl : 14 ≤ f.length)
    (he : be 16 f 12 ≠ ETHERTYPE_ARP) (t : ArpTable) (port : Dev) :
    (∀ g, tcIngressFunc t port f ≠ .kernel g) ∧
      ∃ t', tcIngressFunc t' port f ≠ tcIngressFunc t port f := by
  rw [tcIngressFunc_other hl he]
  cases arpTable t 0 with
  | drop =>
    refine ⟨fun g => Verdict.noConfusion,fun _ => some (.arpReply 0),?_⟩
    rw [tcIngressFunc_other hl he]
    exact Verdict.noConfusion
  | arpReply rmac =>
    refine ⟨fun g => Verdict.noConfusion,fun _ => none,?_⟩
    rw [tcIngressFunc_other hl he]
    exact Verdict.noConfusion

def ping : Frame :=
  encode (⟨0x000102030420,0x020304050601,0x0800⟩ : EthernetT) ++
    encode (⟨4,5,0,28,0,2,0,64,1,0x26cd,0x0a000001,0x0a000014⟩ : Ipv4T) ++
    [0x08,0x00,0xf7,0xff,0x00,0x00,0x00,0x00]

def zeroTable : ArpTable := fun a => if a = 0 then some (.arpReply 0x000102030420) else none

theorem other_depends_on_arpTable_ping :
    (∀ g, tcIngressFunc zeroTable dev1 ping ≠ .kernel g) ∧
      ∃ t', tcIngressFunc t' dev1 ping ≠ tcIngressFunc zeroTable dev1 ping :=
  other_depends_on_arpTable (by decide +kernel) (by decide +kernel) zeroTable dev1

theorem ping_not_passed :
    14 ≤ ping.length ∧ be 16 ping 12 ≠ ETHERTYPE_ARP ∧
    tcIngressFunc (fun _ => none) dev1 ping = .shot ∧
    tcIngressFunc zeroTable dev1 ping = .redirect dev1.val
      (encode (⟨0x020304050601,0x000102030420,0x0800⟩ : EthernetT) ++ ping.drop 14) := by
  decide +kernel

/-- The format of an ARP packet that resolves IPv4 addresses over Ethernet. -/
structure EthernetIpv4 (f : Frame) : Prop where
  htype : be 16 f 14 = ARP_HTYPE
  ptype : be 16 f 16 = ARP_PTYPE
  hlen : be 8 f 18 = ARP_HLEN
  plen : be 8 f 19 = ARP_PLEN

structure GenuineRequest (f : Frame) : Prop where
  arpFrame : ArpFrame f
  format : EthernetIpv4 f
  oper : be 16 f 20 = ARP_REQ

def RepliesExactly (t : ArpTable) (port : Dev) (f : Frame) : Prop :=
  ∀ p g, tcIngressFunc t port f = .redirect p g ↔
    GenuineRequest f ∧ ∃ rmac, Replies t (be 32 f 38) rmac ∧ p = port.val ∧ g = reply rmac f

theorem tcIngressFunc_redirect_arpFrame {f : Frame} (h : ArpFrame f) {t : ArpTable} {port : Dev}
    {p : BitVec 32} {g : Frame} : tcIngressFunc t port f = .redirect p g ↔
      be 16 f 20 = ARP_REQ ∧ ∃ rmac, Replies t (be 32 f 38) rmac ∧ p = port.val ∧ g = reply rmac f := by
  have hl := h.length
  have ho : (arpOf f).oper = be 16 f 20 := by rw [arpOf, headerAt_arp (by omega)]
  have ht : (arpIpv4Of f).tpa = be 32 f 38 := by rw [arpIpv4Of, headerAt_arpIpv4 (by omega)]
  rw [tcIngressFunc_arpFrame h, ho, ht]
  by_cases hq : be 16 f 20 = ARP_REQ
  · simp only [hq, ↓reduceIte, outcome_redirect, true_and]
  · simp only [hq, ↓reduceIte, reduceCtorEq, false_and]

theorem repliesExactly_arpFrame {f : Frame} (h : ArpFrame f) {t : ArpTable} {port : Dev} :
    RepliesExactly t port f ↔
      (be 16 f 20 = ARP_REQ → (∃ rmac, Replies t (be 32 f 38) rmac) → EthernetIpv4 f) := by
  constructor
  · rintro hr ho ⟨rmac,hm⟩
    have hs : tcIngressFunc t port f = .redirect port.val (reply rmac f) :=
      (tcIngressFunc_redirect_arpFrame h).mpr ⟨ho,rmac,hm,rfl,rfl⟩
    exact ((hr _ _).mp hs).1.format
  · intro hc p g
    rw [tcIngressFunc_redirect_arpFrame h]
    constructor
    · rintro ⟨ho,rmac,hm,hs⟩
      exact ⟨⟨h,hc ho ⟨rmac,hm⟩,ho⟩,rmac,hm,hs⟩
    · rintro ⟨hg,hm⟩
      exact ⟨hg.oper,hm⟩

theorem repliesExactly_incomplete {f : Frame} (h : ¬ArpFrame f) {t : ArpTable} {port : Dev} :
    RepliesExactly t port f ↔ ∀ rmac, ¬Replies t 0 rmac := by
  obtain ⟨sent,hs⟩ := tcIngressFunc_incomplete h t port
  have hn : ¬GenuineRequest f := fun hg => h hg.arpFrame
  simp only [RepliesExactly, hs, outcome_redirect, hn, false_and, iff_false, not_exists]
  constructor
  · intro hr rmac hm
    exact hr _ _ rmac ⟨hm,rfl,rfl⟩
  · rintro hr p g rmac ⟨hm,_⟩
    exact hr rmac hm

/-- Replies go exactly to the genuine requests unless 0.0.0.0 is answered for and
the frame has no complete ARP part, or the frame asks for an address that is
answered for in another format than Ethernet and IPv4. -/
theorem repliesExactly_iff (t : ArpTable) (port : Dev) (f : Frame) :
    RepliesExactly t port f ↔
      (¬ArpFrame f → ∀ rmac, ¬Replies t 0 rmac) ∧
      (ArpFrame f → be 16 f 20 = ARP_REQ → (∃ rmac, Replies t (be 32 f 38) rmac) →
        EthernetIpv4 f) := by
  by_cases h : ArpFrame f
  · rw [repliesExactly_arpFrame h]
    exact ⟨fun hc => ⟨fun hn => absurd h hn,fun _ => hc⟩,fun hc => hc.2 h⟩
  · rw [repliesExactly_incomplete h]
    exact ⟨fun hc => ⟨fun _ => hc,fun ha => absurd ha h⟩,fun hc => hc.1 h⟩

def readmeTable : ArpTable := fun a => if a = 0x0a000014 then some (.arpReply 0x000102030420) else none

/-- A request for 10.0.0.20 whose `htype` is that of IEEE 802 networks. -/
def ieee802Request : Frame :=
  encode (⟨0xffffffffffff,0x020304050601,0x0806⟩ : EthernetT) ++
    encode (⟨6,0x0800,6,4,1⟩ : ArpT) ++
    encode (⟨0x020304050601,0x0a000001,0,0x0a000014⟩ : ArpIpv4T)

theorem ieee802Request_answered :
    (tcIngressFunc readmeTable dev1 ieee802Request =
        .redirect dev1.val (reply 0x000102030420 ieee802Request) ∧
      ¬RepliesExactly readmeTable dev1 ieee802Request) ∧
    ¬RepliesExactly zeroTable dev1 ping := by
  have ha : ArpFrame ieee802Request := ⟨by decide +kernel,by decide +kernel⟩
  have hp : ¬ArpFrame ping := fun h => absurd h.etherType (by decide +kernel)
  have hm : Replies readmeTable (be 32 ieee802Request 38) 0x000102030420 := by
    unfold Replies
    decide +kernel
  refine ⟨⟨?_,fun hr => ?_⟩,fun hr => ?_⟩
  · exact (tcIngressFunc_redirect_arpFrame ha).mpr ⟨by decide +kernel,_,hm,rfl,rfl⟩
  · have hf := (repliesExactly_arpFrame ha).mp hr (by decide +kernel) ⟨_,hm⟩
    exact absurd hf.htype (by decide +kernel)
  · exact (repliesExactly_incomplete hp).mp hr 0x000102030420 rfl

end P4tcExamples.ArpRespond
