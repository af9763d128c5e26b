import P4tcExamples.Calc.Program
import P4tcExamples.Calc.Lines

/-! # Client and server of the calculator

The two sides describe the wire format separately. The client's packet is shown to
be the encoding of a `p4calc_t` value, the server's answer is one again, and the
client's dissection of it finds the result.
-/
namespace P4tcExamples.Calc
open BitFields

/-- The operator on integers, before reduction. -/
def Op.value (a b : ℕ) : Op → ℤ
  | .plus => a + b
  | .minus => a - b
  | .and => (a &&& b : ℕ)
  | .or => (a ||| b : ℕ)
  | .caret => (a ^^^ b : ℕ)

def Op.code (o : Op) : BitVec 8 := BitVec.ofNat 8 o.char.toNat

def Op.header (o : Op) (a b : ℕ) : P4calcT :=
  ⟨P4CALC_P,P4CALC_4,P4CALC_VER,o.code,BitVec.ofNat 32 a,BitVec.ofNat 32 b,0⟩

namespace Client

theorem strFixedLenField_char (o : Op) : strFixedLenField 1 [o.char] = toBytes 1 o.code := by
  cases o <;> decide +kernel

def packet (o : Op) (a b : ℕ) : Frame :=
  encode (⟨0x10000002AABB,0x10000001AABB,0x1234⟩ : EthernetT) ++ (encode (o.header a b) ++ [0x20])

theorem build_eq (o : Op) {a b : ℕ} (ha : a < 2 ^ 32) (hb : b < 2 ^ 32) :
    P4calc.build {op := [o.char], operandA := a, operandB := b} = .ok (encode (o.header a b)) := by
  have hz : (0 : ℕ) < 2 ^ 32 := by decide
  rw [P4calcT.encode_eq]
  simp only [P4calc.build, intField, if_pos ha, if_pos hb, if_pos hz, strFixedLenField_char, bind,
    Except.bind, pure, Except.pure]
  rfl

theorem request_eq (o : Op) {da db : List Char} {a b : ℕ} (hda : Numeral da a) (hdb : Numeral db b)
    (ha : a < 2 ^ 32) (hb : b < 2 ^ 32) :
    request [⟨"num",da⟩,⟨"num",[o.char]⟩,⟨"num",db⟩] = .ok (packet o a b) := by
  rw [packet, EthernetT.encode_eq]
  simp only [request, valueAt, List.getElem?_cons_zero, List.getElem?_cons_succ, bind, Except.bind,
    hda.value, hdb.value, build_eq o ha hb]
  rfl

theorem main_line (w : Spaces) (o : Op) {da db : List Char} {a b : ℕ} (hda : Numeral da a)
    (hdb : Numeral db b) (ha : a < 2 ^ 32) (hb : b < 2 ^ 32) :
    main (line w da o db) = .sent (packet o a b) := by
  obtain ⟨i,hp⟩ := parse_line w o hda hdb
  rw [main, if_neg (line_ne_quit w o hda), hp]
  dsimp only
  rw [request_eq o hda hdb ha hb]

theorem takeField_toBytes {n v : ℕ} (x : BitVec v) (bs : List Byte) :
    takeField n (toBytes n x ++ bs) = some (toBytes n x,bs) := by
  have hl : n ≤ (toBytes n x ++ bs).length := by
    rw [List.length_append, length_toBytes]
    omega
  have hn : (toBytes n x).length = n := length_toBytes n x
  rw [takeField, if_pos hl]
  congr 2
  · rw [List.take_append_of_le_length hn.ge, List.take_of_length_le hn.le]
  · rw [List.drop_append_of_le_length hn.ge, List.drop_of_length_le hn.le, List.nil_append]

theorem result_emitted (e : EthernetT) (c : P4calcT) (rest : Frame) (h : e.etherType = 0x1234) :
    result (encode e ++ (encode c ++ rest)) = some c.res.toNat := by
  have htype : beNat (toBytes 2 e.etherType) = 0x1234 := by
    rw [h]
    rfl
  have hres : beNat (toBytes 4 c.res) = c.res.toNat := by
    rw [beNat_toBytes]
    exact Nat.mod_eq_of_lt c.res.isLt
  rw [EthernetT.encode_eq, P4calcT.encode_eq]
  simp only [result, List.append_assoc, takeField_toBytes, Option.bind_eq_bind, Option.bind_some,
    htype, hres, ↓reduceIte, Option.pure_def]

end Client

theorem calcOf_emitted (e : EthernetT) (c : P4calcT) (rest : Frame) :
    calcOf (encode e ++ (encode c ++ rest)) = c := by
  rw [calcOf, headerAt_append_right (by simp)]
  exact headerAt_encode c rest

theorem request_packet (o : Op) (a b : ℕ) : Request (Client.packet o a b) := by
  have hc : calcOf (Client.packet o a b) = o.header a b := calcOf_emitted _ _ _
  have hl : (Client.packet o a b).length = 31 := by
    simp [Client.packet]
  refine ⟨?_,by omega,by rw [hc]; rfl,by rw [hc]; rfl,by rw [hc]; rfl⟩
  rw [← etherType_ethernetOf (by omega), Client.packet, ethernetOf_emitted]

theorem calculate_code (o : Op) (a b : BitVec 32) : (calculate o.code).compute a b =
    match o with
    | .plus => some (a + b)
    | .minus => some (a - b)
    | .and => some (a &&& b)
    | .or => some (a ||| b)
    | .caret => some (a ^^^ b) := by
  cases o <;> rfl

theorem natCast_emod_of_toNat {r : BitVec 32} {n : ℕ} (h : r.toNat = n) :
    (r.toNat : ℤ) = (n : ℤ) % 2 ^ 32 := by
  have hr := r.isLt
  rw [h] at hr ⊢
  omega

theorem compute_value (o : Op) {a b : ℕ} (ha : a < 2 ^ 32) (hb : b < 2 ^ 32) :
    ∃ r, (calculate o.code).compute (BitVec.ofNat 32 a) (BitVec.ofNat 32 b) = some r ∧
      (r.toNat : ℤ) = o.value a b % 2 ^ 32 := by
  have hna : (BitVec.ofNat 32 a).toNat = a := by
    rw [BitVec.toNat_ofNat, Nat.mod_eq_of_lt ha]
  have hnb : (BitVec.ofNat 32 b).toNat = b := by
    rw [BitVec.toNat_ofNat, Nat.mod_eq_of_lt hb]
  rw [calculate_code]
  cases o with
  | plus =>
    refine ⟨_,rfl,?_⟩
    rw [BitVec.toNat_add, hna, hnb, Op.value]
    omega
  | minus =>
    refine ⟨_,rfl,?_⟩
    rw [BitVec.toNat_sub, hna, hnb, Op.value]
    omega
  | and =>
    refine ⟨_,rfl,natCast_emod_of_toNat ?_⟩
    rw [BitVec.toNat_and, hna, hnb]
  | or =>
    refine ⟨_,rfl,natCast_emod_of_toNat ?_⟩
    rw [BitVec.toNat_or, hna, hnb]
  | caret =>
    refine ⟨_,rfl,natCast_emod_of_toNat ?_⟩
    rw [BitVec.toNat_xor, hna, hnb]

theorem answer_emitted (e : EthernetT) (c : P4calcT) (rest : Frame) (r : BitVec 32) :
    answer r (encode e ++ (encode c ++ rest)) =
      encode {e with dstAddr := e.srcAddr, srcAddr := e.dstAddr} ++
        (encode {c with res := r} ++ rest) := by
  have hd : (encode e ++ (encode c ++ rest)).drop 30 = rest := by
    have hl : (encode e ++ encode c).length = 30 := by simp
    rw [← List.append_assoc, ← hl, List.drop_left]
  rw [answer, ethernetOf_emitted, calcOf_emitted, hd]

/-- Any line `a op b` is sent as a request that the server parses to the same
operator and operands and answers on the port it came from; the client reads the
result modulo 2^32 from the reply. -/
theorem calc_round_trip {a b : ℕ} (ha : a < 2 ^ 32) (hb : b < 2 ^ 32) {da db : List Char}
    (hda : Client.Numeral da a) (hdb : Client.Numeral db b) (o : Op) (w : Spaces) (port : Dev) :
    ∃ pkt reply, Client.main (line w da o db) = .sent pkt ∧
      (parser pkt).map (fun p => p.hdr.p4calc) = some
        ⟨true,⟨0x50,0x34,0x01,BitVec.ofNat 8 o.char.toNat,BitVec.ofNat 32 a,BitVec.ofNat 32 b,0⟩⟩ ∧
      tcIngressFunc port pkt = .redirect port.val reply ∧
      ∃ n, Client.result reply = some n ∧ (n : ℤ) = o.value a b % 2 ^ 32 := by
  have hreq := request_packet o a b
  have hc : calcOf (Client.packet o a b) = o.header a b := calcOf_emitted _ _ _
  obtain ⟨r,hr,hv⟩ := compute_value o ha hb
  refine ⟨Client.packet o a b,answer r (Client.packet o a b),Client.main_line w o hda hdb ha hb,
    ?_,?_,r.toNat,?_,hv⟩
  · rw [parser_request hreq, Option.map_some, hc]
    rfl
  · have hh : (calculate (o.header a b).op).compute (o.header a b).operandA
        (o.header a b).operandB = some r := hr
    rw [tcIngressFunc_request hreq, hc, hh]
  · rw [Client.packet, answer_emitted]
    exact Client.result_emitted _ _ _ rfl

def singleSpaces : Spaces where
  before := []
  left := [' ']
  right := [' ']
  behind := []
  before_space := List.forall_mem_nil _
  left_space := List.forall_mem_singleton.mpr rfl
  right_space := List.forall_mem_singleton.mpr rfl
  behind_space := List.forall_mem_nil _

theorem calc_round_trip_wraps : ∃ pkt reply,
    Client.main ['3',' ','-',' ','4'] = .sent pkt ∧
    tcIngressFunc dev1 pkt = .redirect dev1.val reply ∧
    Client.result reply = some 4294967295 := by
  have h3 : Client.Numeral ['3'] 3 := Client.numeral_toDigits 3
  have h4 : Client.Numeral ['4'] 4 := Client.numeral_toDigits 4
  obtain ⟨pkt,reply,hm,_,hs,n,hn,hv⟩ :=
    calc_round_trip (by decide) (by decide) h3 h4 .minus singleSpaces dev1
  have hw : n = 4294967295 := by
    have he : Op.value 3 4 .minus % 2 ^ 32 = 4294967295 := by decide
    omega
  exact ⟨pkt,reply,hm,hs,hw ▸ hn⟩

end P4tcExamples.Calc
