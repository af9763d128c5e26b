import P4tcExamples.FlowTracker.TrafficHistory

/-! # The key of a packet with IP options

The parser takes the four octets at 34 for the ports, wherever the header says
that the transport header starts. `realKey` is the key with the ports read there.
-/
namespace P4tcExamples.FlowTracker
open BitFields

structure TransportPacket (f : Frame) : Prop extends Ipv4Packet 4 f where
  protocol : (ipOf f).protocol = IP_PROTO_TCP ∨ (ipOf f).protocol = IP_PROTO_UDP

instance (f : Frame) : Decidable (TransportPacket f) :=
  decidable_of_iff (Ipv4Packet 4 f ∧
      ((ipOf f).protocol = IP_PROTO_TCP ∨ (ipOf f).protocol = IP_PROTO_UDP))
    ⟨fun h => ⟨h.1,h.2⟩,fun h => ⟨h.toIpv4Packet,h.protocol⟩⟩

/-- The input port and the packet's own 5-tuple. -/
def realKey (port : Dev) (f : Frame) : Key Ipv4T :=
  { inputPort := port
    srcAddr := be 32 f 26
    dstAddr := be 32 f 30
    protocol := be 8 f 23
    srcPort := be 16 f (payloadAt f)
    dstPort := be 16 f (payloadAt f + 2) }

/-- The octets that are taken for the ports are the ports. -/
def PortsRead (f : Frame) : Prop := slice f 34 4 = slice f (payloadAt f) 4

theorem portsRead_of_ihl {f : Frame} (h : (ipOf f).ihl = 5) : PortsRead f := by
  rw [PortsRead, (payloadAt_eq_iff f).mpr h]

theorem ports_eq_iff {f g : Frame} {i j : ℕ} (hi : i + 4 ≤ f.length) (hj : j + 4 ≤ g.length) :
    be 16 f i = be 16 g j ∧ be 16 f (i + 2) = be 16 g (j + 2) ↔ slice f i 4 = slice g j 4 := by
  rw [be_eq_be_iff (n := 2) rfl (by omega) (by omega), be_eq_be_iff (n := 2) rfl (by omega) (by omega),
    ← slice_append_slice f i 2 2, ← slice_append_slice g j 2 2]
  constructor
  · rintro ⟨hs,hd⟩
    rw [hs, hd]
  · intro h
    refine List.append_inj h ?_
    rw [length_slice (by omega), length_slice (by omega)]

namespace TransportPacket
variable {f g : Frame} (h : TransportPacket f) (port : Dev)
include h

theorem length_ge : 38 ≤ f.length := by
  have hp := h.le_payloadAt
  have hl := h.length
  omega

theorem complete : Complete Ipv4T f := by
  have hl := h.length_ge
  have hp := h.protocol
  rw [protocol_ipOf (by omega)] at hp
  exact ⟨h.etherType,hp,hl⟩

theorem sought_eq : sought port f = some (flowKey Ipv4T port f) := sought_complete h.complete port

theorem sought_realKey : sought port f = some (realKey port f) ↔ PortsRead f := by
  have hl := h.length_ge
  have hp := h.length
  rw [h.sought_eq, PortsRead, ← ports_eq_iff (by omega) (by omega), Option.some.injEq]
  constructor
  · intro hk
    exact ⟨congrArg FlowKey.srcPort hk,congrArg FlowKey.dstPort hk⟩
  · rintro ⟨hs,hd⟩
    exact FlowKey.mk.injEq .. |>.mpr ⟨rfl,rfl,rfl,rfl,hs,hd⟩

theorem sought_eq_sought (hg : TransportPacket g) (hk : realKey port f = realKey port g) :
    sought (α := Ipv4T) port f = sought port g ↔ slice f 34 4 = slice g 34 4 := by
  have hf := h.length_ge
  have hl := hg.length_ge
  rw [h.sought_eq, hg.sought_eq, ← ports_eq_iff (by omega) (by omega), Option.some.injEq]
  constructor
  · intro he
    exact ⟨congrArg FlowKey.srcPort he,congrArg FlowKey.dstPort he⟩
  · rintro ⟨hs,hd⟩
    exact FlowKey.mk.injEq .. |>.mpr ⟨rfl,congrArg FlowKey.srcAddr hk,congrArg FlowKey.dstAddr hk,
      congrArg FlowKey.protocol hk,hs,hd⟩

end TransportPacket

/-- The key is the packet's 5-tuple exactly if the octets in place of the ports are the
ports: the packet has no options, or its option octets repeat them. Packets of one flow
for which this holds share an entry; otherwise they do exactly if those octets agree. -/
theorem key_real_iff {f : Frame} (h : TransportPacket f) (port : Dev) :
    (sought port f = some (realKey port f) ↔ PortsRead f) ∧
    ∀ g, TransportPacket g → realKey port f = realKey port g →
      (sought (α := Ipv4T) port f = sought port g ↔ slice f 34 4 = slice g 34 4) ∧
      (PortsRead f → PortsRead g → sought (α := Ipv4T) port f = sought port g ∧
        ∀ t : FlowTable Ipv4T, hitEntry t port f = hitEntry t port g) := by
  refine ⟨h.sought_realKey port,fun g hg hk => ⟨h.sought_eq_sought port hg hk,fun hf hr => ?_⟩⟩
  have he : sought (α := Ipv4T) port f = sought port g := by
    rw [(h.sought_realKey port).mpr hf, (hg.sought_realKey port).mpr hr, hk]
  refine ⟨he,fun t => ?_⟩
  unfold hitEntry
  rw [he]

theorem transportPacket_tcpSegment : TransportPacket tcpSegment := by decide +kernel

theorem key_real_tcpSegment : sought dev1 tcpSegment = some (realKey dev1 tcpSegment) :=
  (key_real_iff transportPacket_tcpSegment dev1).1.mpr (portsRead_of_ihl (by decide +kernel))

/-- `tcpSegment` sent with a router alert option. -/
def alertedSegment : Frame :=
  encode (ethernet 0x0800) ++
    (encode {plainHeader 28 6 0x0a000001 0x0a630001 with ihl := 6, hdrChecksum := 0xd172} ++
    ([0x94,0x04,0x00,0x00] ++ encode (⟨1235,4321⟩ : TcpT)))

/-- The two segments are of one connection and get two entries. -/
theorem alertedSegment_splits_flow :
    TransportPacket tcpSegment ∧ TransportPacket alertedSegment ∧
    realKey dev1 tcpSegment = realKey dev1 alertedSegment ∧
    sought dev1 alertedSegment ≠ some (realKey dev1 alertedSegment) ∧
    (run [.frame dev1 tcpSegment,.frame dev1 alertedSegment] : FlowTable Ipv4T).length = 2 := by
  decide +kernel

end P4tcExamples.FlowTracker
