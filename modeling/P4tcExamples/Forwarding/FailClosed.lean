import P4tcExamples.Routing.Program
import P4tcExamples.Ipip.Encapsulation
import P4tcExamples.SimpleL3.Program

/-! # Forwarders that fail closed

A forwarder fails closed on a frame when it either sends it on the port of the
action its tables selected or drops it, and drops it if it is not a packet of the
kind the program parses. Of the three forwarders only routing has a branch that
drops a frame whose headers did not all fit; the other two leave the verdict to
the host stack.
-/
namespace P4tcExamples
open BitFields

structure FailsClosed (Selects : Dev → Prop) (Complete : Prop) (v : Verdict) : Prop where
  closed : v = .shot ∨ ∃ p g, Selects p ∧ v = .redirect p.val g
  incomplete : ¬Complete → v = .shot

theorem FailsClosed.shot (Selects : Dev → Prop) (Complete : Prop) :
    FailsClosed Selects Complete .shot := ⟨Or.inl rfl,fun _ => rfl⟩

theorem FailsClosed.redirect {Selects : Dev → Prop} {Complete : Prop} {p : Dev} (hs : Selects p)
    (hc : Complete) (g : Frame) : FailsClosed Selects Complete (.redirect p.val g) :=
  ⟨Or.inr ⟨p,g,hs,rfl⟩,fun hn => absurd hc hn⟩

theorem not_failsClosed_kernel {Selects : Dev → Prop} {Complete : Prop} {g : Frame} :
    ¬FailsClosed Selects Complete (.kernel g) := by
  rintro ⟨hk | ⟨p,g,_,hk⟩,_⟩
  · cases hk
  · cases hk

namespace Routing

def Selects (t : Tables) (f : Frame) (p : Dev) : Prop :=
  ∃ dmac, nhTable t (fibTable t (ipOf f).dstAddr) = .setNh dmac p

def Closed (t : Tables) (port : Dev) (f : Frame) : Prop :=
  FailsClosed (Selects t f) (Ipv4Frame f) (tcIngressFunc t port f)

theorem closed (t : Tables) (port : Dev) (f : Frame) : Closed t port f := by
  by_cases h : Ipv4Frame f
  · rw [Closed, tcIngressFunc_ipv4 h]
    split
    · cases hn : nhTable t (fibTable t (ipOf f).dstAddr) with
      | drop => exact FailsClosed.shot _ _
      | setNh dmac p => exact FailsClosed.redirect ⟨dmac,hn⟩ h _
    · exact FailsClosed.shot _ _
  · rw [Closed, tcIngressFunc_other h]
    exact FailsClosed.shot _ _

end Routing

namespace SimpleL3

def Selects (t : NhTable) (f : Frame) (p : Dev) : Prop :=
  ∃ srcMac dstMac, nhTable t (ipOf f).dstAddr = .sendNh p srcMac dstMac

def Complete (f : Frame) : Prop := Ipv4Frame f ∧ (ipOf f).protocol = IP_PROTO_TCP

def Closed (t : NhTable) (port : Dev) (f : Frame) : Prop :=
  FailsClosed (Selects t f) (Complete f) (tcIngressFunc t port f)

theorem closed_iff {t : NhTable} {port : Dev} {f : Frame} : Closed t port f ↔ ¬Truncated f := by
  constructor
  · intro hc ht
    rw [Closed, tcIngressFunc_truncated ht] at hc
    exact not_failsClosed_kernel hc
  · intro ht
    by_cases h : Complete f
    · rw [Closed, tcIngressFunc_tcp h.1 h.2]
      cases hn : nhTable t (ipOf f).dstAddr with
      | sendNh p srcMac dstMac => exact FailsClosed.redirect ⟨srcMac,dstMac,hn⟩ h _
      | drop => exact FailsClosed.shot _ _
    · rw [Closed, tcIngressFunc_rejected ht h]
      exact FailsClosed.shot _ _

end SimpleL3

namespace Ipip

def Selects (t : FwdTable) (port p : Dev) : Prop :=
  (∃ src dst, fwdTable t port = .setIpip src dst p) ∨ ∃ dmac, fwdTable t port = .setNh dmac p

/-- A plain IPv4 packet, or an IP-in-IP packet with both headers. -/
def Complete (f : Frame) : Prop := Ipv4Frame f ∧ ((ipOf f).protocol = 4 → 54 ≤ f.length)

def Closed (t : FwdTable) (port : Dev) (f : Frame) : Prop :=
  FailsClosed (Selects t port) (Complete f) (tcIngressFunc t port f)

/-- An IPv4 frame of protocol 4 that ends inside its second header. -/
def HalfTunnel (f : Frame) : Prop := Ipv4Frame f ∧ (ipOf f).protocol = 4 ∧ f.length < 54

theorem complete_of_not_halfTunnel {f : Frame} (h : Ipv4Frame f) (hn : ¬HalfTunnel f) :
    Complete f := by
  refine ⟨h,fun hp => ?_⟩
  by_contra hc
  exact hn ⟨h,hp,Nat.not_le.mp hc⟩

theorem not_carriesInner_of_halfTunnel {f : Frame} (h : HalfTunnel f) : ¬CarriesInner f := by
  intro hi
  have hl := hi.2
  have hs := h.2.2
  omega

theorem not_complete_of_halfTunnel {f : Frame} (h : HalfTunnel f) : ¬Complete f := by
  intro hc
  have hl := hc.2 h.2.1
  have hs := h.2.2
  omega

theorem failsClosed_of_complete {f : Frame} (hc : Complete f) (t : FwdTable) (port : Dev) :
    Closed t port f := by
  by_cases hi : CarriesInner f
  · rw [Closed, tcIngressFunc_inner hc.1 hi]
    cases ha : fwdTable t port with
    | setIpip src dst p => exact FailsClosed.redirect (Or.inl ⟨src,dst,ha⟩) hc _
    | setNh dmac p => exact FailsClosed.redirect (Or.inr ⟨dmac,ha⟩) hc _
    | drop => exact FailsClosed.shot _ _
  · rw [Closed, tcIngressFunc_plain hc.1 hi]
    cases ha : fwdTable t port with
    | setIpip src dst p => exact FailsClosed.redirect (Or.inl ⟨src,dst,ha⟩) hc _
    | setNh dmac p => exact FailsClosed.redirect (Or.inr ⟨dmac,ha⟩) hc _
    | drop => exact FailsClosed.shot _ _

theorem closed_halfTunnel {f : Frame} (h : HalfTunnel f) (t : FwdTable) (port : Dev) :
    Closed t port f ↔ ∀ p, ¬Selects t port p := by
  have hi := not_carriesInner_of_halfTunnel h
  have hv := tcIngressFunc_plain h.1 hi t port
  constructor
  · rintro hc p (⟨src,dst,ha⟩ | ⟨dmac,ha⟩)
    · rw [ha, hc.incomplete (not_complete_of_halfTunnel h)] at hv
      cases hv
    · rw [ha, hc.incomplete (not_complete_of_halfTunnel h)] at hv
      cases hv
  · intro hs
    cases ha : fwdTable t port with
    | setIpip src dst p => exact absurd (Or.inl ⟨src,dst,ha⟩) (hs p)
    | setNh dmac p => exact absurd (Or.inr ⟨dmac,ha⟩) (hs p)
    | drop =>
      rw [Closed, hv, ha]
      exact FailsClosed.shot _ _

theorem closed_iff {t : FwdTable} {port : Dev} {f : Frame} :
    Closed t port f ↔ ¬Truncated f ∧ (HalfTunnel f → ∀ p, ¬Selects t port p) := by
  by_cases ht : Truncated f
  · refine ⟨fun hc => ?_,fun hn => absurd ht hn.1⟩
    rw [Closed, tcIngressFunc_truncated ht] at hc
    exact absurd hc not_failsClosed_kernel
  · by_cases hh : HalfTunnel f
    · rw [closed_halfTunnel hh]
      exact ⟨fun hs => ⟨ht,fun _ => hs⟩,fun hn => hn.2 hh⟩
    · refine ⟨fun _ => ⟨ht,fun hc => absurd hc hh⟩,fun _ => ?_⟩
      by_cases h : Ipv4Frame f
      · exact failsClosed_of_complete (complete_of_not_halfTunnel h hh) t port
      · obtain ⟨hl,he⟩ := (not_ipv4Frame_cases h).resolve_left ht
        rw [Closed, tcIngressFunc_rejected hl he]
        exact FailsClosed.shot _ _

end Ipip

/-- routing always fails closed. simple_l3 does so exactly on the frames that do
not end inside their Ethernet or IPv4 header, and ipip on those of them that are
not cut inside a second header while a forwarding entry is installed. -/
theorem forwarders_failClosed_iff (rt : Routing.Tables) (nt : SimpleL3.NhTable)
    (ft : Ipip.FwdTable) (port : Dev) (f : Frame) :
    Routing.Closed rt port f ∧
    (SimpleL3.Closed nt port f ↔ ¬Truncated f) ∧
    (Ipip.Closed ft port f ↔
      ¬Truncated f ∧ (Ipip.HalfTunnel f → ∀ p, ¬Ipip.Selects ft port p)) :=
  ⟨Routing.closed rt port f,SimpleL3.closed_iff,Ipip.closed_iff⟩

def bareEthernet : Frame := encode (⟨0x0090fb65d6fe,0x020304050601,0x0800⟩ : EthernetT)

theorem bareEthernet_reaches_host :
    (SimpleL3.tcIngressFunc (fun _ => none) Ipip.port0 bareEthernet = .kernel bareEthernet ∧
      ¬SimpleL3.Closed (fun _ => none) Ipip.port0 bareEthernet) ∧
    Ipip.tcIngressFunc Ipip.readmeTable Ipip.port0 bareEthernet = .kernel bareEthernet ∧
      ¬Ipip.Closed Ipip.readmeTable Ipip.port0 bareEthernet := by
  have ht : Truncated bareEthernet := Or.inr ⟨by decide +kernel,by decide +kernel⟩
  refine ⟨⟨SimpleL3.tcIngressFunc_truncated ht _ _,fun hc => ?_⟩,
    Ipip.tcIngressFunc_truncated ht _ _,fun hc => ?_⟩
  · exact SimpleL3.closed_iff.mp hc ht
  · exact (Ipip.closed_iff.mp hc).1 ht

end P4tcExamples
