import P4tcExamples.Calc.Grammar
import P4tcExamples.Generated.Calc

/-! # A session with the generated calculator

The loop of `calc.py` with the compiled program at the other end. `int` and scapy's
`srp1` are not in this repository: here they are any functions that keep what is
written down of them below. `srp1` also packs the packet, so that an operand which
does not fit its field is its business and not that of `main`. The session prints no
number but the value of the expression that its line starts with.
-/
namespace P4tcExamples.Calc.Client
open BitFields Regex Generated

/-- `Ether(...)/P4calc(...)/' '`, which is not packed yet. -/
structure Packet where
  ether : Ether
  p4calc : P4calc
  load : List Char

def Packet.build (pkt : Packet) : Except Error Frame := do
  let p4calc ← pkt.p4calc.build
  return pkt.ether.build ++ (p4calc ++ raw pkt.load)

def compose (op : List Char) (a b : ℕ) : Packet where
  ether := {dst := 0x10000002AABB, src := 0x10000001AABB, type := 0x1234}
  p4calc := {op := op, operandA := a, operandB := b}
  load := [' ']

/-- `E` are the exceptions of `int` and of scapy. -/
inductive Raised (E : Type)
  | client (error : Error)
  | library (error : E)

/-- What a turn prints last. -/
inductive Output (E : Type)
  | result (n : ℕ)
  | noResponse
  | failed (error : Raised E)

section Loop
variable {E : Type} (toInt : List Char → Except E ℕ)

/-- The packet from the tokens of a line. -/
def pktOf (ts : List Token) : Except (Raised E) Packet := do
  let op ← (valueAt ts 1).mapError .client
  let a ← (valueAt ts 0).mapError .client
  let a ← (toInt a).mapError .library
  let b ← (valueAt ts 2).mapError .client
  let b ← (toInt b).mapError .library
  return compose op a b

/-- One turn of the loop, or `none` for the `break`. -/
def turn (srp1 : Packet → Except E (Option Frame)) (s : List Char) : Option (Output E) :=
  if s = ['q','u','i','t'] then none
  else
    match parse s with
    | .error e => some (.failed (.client e))
    | .ok (_,ts) =>
      match pktOf toInt ts with
      | .error e => some (.failed e)
      | .ok pkt =>
        match srp1 pkt with
        | .error e => some (.failed (.library e))
        | .ok none => some .noResponse
        | .ok (some resp) =>
          match result resp with
          | some n => some (.result n)
          | none => some (.failed (.client .indexError))

/-- The lines typed, each with what `srp1` does on it. -/
def session : List (List Char × (Packet → Except E (Option Frame))) → List (Output E)
  | [] => []
  | (s,srp1) :: rest =>
    match turn toInt srp1 s with
    | none => []
    | some output => output :: session rest

end Loop

/-- What comes back on the device when the generated program gets a frame on it. -/
def respond (o : ByteOrder) (adjustRoom : AdjustRoom) (port : Dev) (f : Frame) : Option Frame :=
  match (deliver (generated o) adjustRoom () ⟨f,[],port.val,.zero⟩).2 with
  | .redirect q resp => if q = port.val then some resp else none
  | _ => none

section Libraries
variable {E : Type}

/-- `int` gives the number that is written, if it gives one. It may refuse long strings
only: no limit on digits can be set below 640. -/
structure Converts (toInt : List Char → Except E ℕ) : Prop where
  value : ∀ {d n}, Numeral d (int d) → toInt d = .ok n → n = int d
  short : ∀ {d e}, Numeral d (int d) → toInt d = .error e → 640 < d.length

/-- A response is what comes back for the octets of the packet. `srp1` may time out or
raise whatever the packet is, and does one of the two when it cannot be packed. -/
structure Exchanges (respond : Frame → Option Frame) (srp1 : Packet → Except E (Option Frame)) :
    Prop where
  response : ∀ {pkt resp}, srp1 pkt = .ok (some resp) →
    ∃ f, pkt.build = .ok f ∧ respond f = some resp

/-- The line starts with an expression. What stands behind it is not looked at: for
`10 - 4 - 3` the expression is `10 - 4`. -/
def Leads (s da : List Char) (o : Op) (db : List Char) : Prop :=
  ∃ w rest, Reads s w da o db rest

inductive Answers (toInt : List Char → Except E ℕ) (srp1 : Packet → Except E (Option Frame))
    (s : List Char) : Output E → Prop
  | value {da : List Char} {o : Op} {db : List Char} {resp : Frame} {n : ℕ} (h : Leads s da o db)
      (ha : int da < 2 ^ 32) (hb : int db < 2 ^ 32)
      (hs : srp1 (compose [o.char] (int da) (int db)) = .ok (some resp))
      (hn : (n : ℤ) = o.value (int da) (int db) % 2 ^ 32) : Answers toInt srp1 s (.result n)
  | noResponse {da : List Char} {o : Op} {db : List Char} (h : Leads s da o db)
      (hs : srp1 (compose [o.char] (int da) (int db)) = .ok none) : Answers toInt srp1 s .noResponse
  | raised {da : List Char} {o : Op} {db : List Char} {e : E} (h : Leads s da o db)
      (hs : srp1 (compose [o.char] (int da) (int db)) = .error e) :
      Answers toInt srp1 s (.failed (.library e))
  | tooLong {da : List Char} {o : Op} {db : List Char} {e : E} (h : Leads s da o db)
      (hl : 640 < da.length ∧ toInt da = .error e ∨ 640 < db.length ∧ toInt db = .error e) :
      Answers toInt srp1 s (.failed (.library e))
  | unread {e : Error} (h : ∀ da o db, ¬Leads s da o db) :
      Answers toInt srp1 s (.failed (.client e))

end Libraries

theorem deliver_bare (o : ByteOrder) (adjustRoom : AdjustRoom) (port : Dev) (pkt : Frame) :
    (deliver (generated o) adjustRoom () ⟨pkt,[],port.val,.zero⟩).2 = tcIngressFunc port pkt := by
  have h := (refines o).deliver adjustRoom (s := ()) (t := ()) (arrives_bare pkt port) trivial
  rw [h.2, if_neg (not_runt_bare pkt port), run_source]

theorem respond_packet (o : ByteOrder) (adjustRoom : AdjustRoom) (port : Dev) (op : Op) {a b : ℕ}
    (ha : a < 2 ^ 32) (hb : b < 2 ^ 32) : ∃ resp n,
      respond o adjustRoom port (packet op a b) = some resp ∧ result resp = some n ∧
      (n : ℤ) = op.value a b % 2 ^ 32 := by
  obtain ⟨r,hr,hv⟩ := compute_value op ha hb
  have hc : calcOf (packet op a b) = op.header a b := calcOf_emitted _ _ _
  have hcalc : (calculate (op.header a b).op).compute (op.header a b).operandA
      (op.header a b).operandB = some r := hr
  refine ⟨answer r (packet op a b),r.toNat,?_,?_,hv⟩
  · rw [respond, deliver_bare, tcIngressFunc_request (request_packet op a b), hc, hcalc]
    exact if_pos rfl
  · rw [packet, answer_emitted]
    exact result_emitted _ _ _ rfl

/-- Packing the packet is the last step of `request`. -/
theorem build_compose (o : Op) (da db : List Char) :
    (compose [o.char] (int da) (int db)).build =
      request [⟨"num",da⟩,⟨"num",[o.char]⟩,⟨"num",db⟩] := rfl

theorem build_reads {s da db rest : List Char} {w : Spaces} {o : Op} (h : Reads s w da o db rest)
    {f : Frame} (hf : (compose [o.char] (int da) (int db)).build = .ok f) :
    int da < 2 ^ 32 ∧ int db < 2 ^ 32 ∧ f = packet o (int da) (int db) := by
  rw [build_compose] at hf
  by_cases hv : int da < 2 ^ 32 ∧ int db < 2 ^ 32
  · rw [request_eq o h.left h.right hv.1 hv.2] at hf
    exact ⟨hv.1,hv.2,(Except.ok.inj hf).symm⟩
  · obtain ⟨e,he⟩ := request_error o hv
    rw [he] at hf
    cases hf

theorem not_leads_of_error {s : List Char} {e : Error} (h : parse s = .error e) (da : List Char)
    (o : Op) (db : List Char) : ¬Leads s da o db := by
  rintro ⟨w,rest,hr⟩
  rw [parse_reads hr] at h
  cases h

section Turns
variable {E : Type} {toInt : List Char → Except E ℕ} (hi : Converts toInt)
  {srp1 : Packet → Except E (Option Frame)} {s : List Char}
include hi

theorem pktOf_reads {da db rest : List Char} {w : Spaces} {op : Op}
    (hr : Reads s w da op db rest) :
    pktOf toInt [⟨"num",da⟩,⟨"num",[op.char]⟩,⟨"num",db⟩] =
        .ok (compose [op.char] (int da) (int db)) ∨
      ∃ e, pktOf toInt [⟨"num",da⟩,⟨"num",[op.char]⟩,⟨"num",db⟩] = .error (.library e) ∧
        (640 < da.length ∧ toInt da = .error e ∨ 640 < db.length ∧ toInt db = .error e) := by
  simp only [pktOf, valueAt, List.getElem?_cons_zero, List.getElem?_cons_succ, Except.mapError,
    bind, Except.bind, pure, Except.pure]
  cases ha : toInt da with
  | error e => exact Or.inr ⟨e,rfl,Or.inl ⟨hi.short hr.left ha,rfl⟩⟩
  | ok a =>
    obtain rfl := hi.value hr.left ha
    cases hb : toInt db with
    | error e => exact Or.inr ⟨e,rfl,Or.inr ⟨hi.short hr.right hb,rfl⟩⟩
    | ok b =>
      obtain rfl := hi.value hr.right hb
      exact Or.inl rfl

variable {o : ByteOrder} {adjustRoom : AdjustRoom} {port : Dev}

theorem turn_answers (hx : Exchanges (respond o adjustRoom port) srp1)
    (hq : s ≠ ['q','u','i','t']) :
    ∃ output, turn toInt srp1 s = some output ∧ Answers toInt srp1 s output := by
  rcases parse_cases s with ⟨e,he⟩ | ⟨w,da,op,db,rest,hr⟩
  · refine ⟨.failed (.client e),?_,.unread (not_leads_of_error he)⟩
    rw [turn, if_neg hq, he]
  have hl : Leads s da op db := ⟨w,rest,hr⟩
  rw [turn, if_neg hq, parse_reads hr]
  dsimp only
  rcases pktOf_reads hi hr with hp | ⟨e,hp,he⟩
  · rw [hp]
    dsimp only
    cases hs : srp1 (compose [op.char] (int da) (int db)) with
    | error e => exact ⟨_,rfl,.raised hl hs⟩
    | ok resp =>
      cases resp with
      | none => exact ⟨_,rfl,.noResponse hl hs⟩
      | some resp =>
        obtain ⟨f,hf,hresp⟩ := hx.response hs
        obtain ⟨ha,hb,rfl⟩ := build_reads hr hf
        obtain ⟨resp',n,hresp',hres,hn⟩ := respond_packet o adjustRoom port op ha hb
        obtain rfl : resp' = resp := Option.some.inj (hresp'.symm.trans hresp)
        refine ⟨.result n,?_,.value hl ha hb hs hn⟩
        dsimp only
        rw [hres]
  · rw [hp]
    exact ⟨_,rfl,.tooLong hl he⟩

end Turns

theorem Leads.unique {s da db da' db' : List Char} {o o' : Op} (h : Leads s da o db)
    (h' : Leads s da' o' db') : da = da' ∧ o = o' ∧ db = db' := by
  obtain ⟨_,_,hr⟩ := h
  obtain ⟨_,_,hr'⟩ := h'
  have hp := (parse_reads hr).symm.trans (parse_reads hr')
  simp only [Except.ok.injEq, Prod.mk.injEq, List.cons.injEq, Token.mk.injEq, true_and,
    and_true] at hp
  exact ⟨hp.2.1,Op.char_injective hp.2.2.1,hp.2.2.2⟩

/-- What is printed for an expression of numerals that `int` takes. -/
theorem Answers.leads {E : Type} {toInt : List Char → Except E ℕ}
    {srp1 : Packet → Except E (Option Frame)} {s da db : List Char} {op : Op} {output : Output E}
    (h : Answers toInt srp1 s output) (hl : Leads s da op db) (ha : da.length ≤ 640)
    (hb : db.length ≤ 640) :
    (∃ n resp, output = .result n ∧ srp1 (compose [op.char] (int da) (int db)) = .ok (some resp) ∧
      int da < 2 ^ 32 ∧ int db < 2 ^ 32 ∧ (n : ℤ) = op.value (int da) (int db) % 2 ^ 32) ∨
    output = .noResponse ∧ srp1 (compose [op.char] (int da) (int db)) = .ok none ∨
    ∃ e, output = .failed (.library e) ∧ srp1 (compose [op.char] (int da) (int db)) = .error e := by
  cases h with
  | value h hva hvb hs hn =>
    obtain ⟨rfl,rfl,rfl⟩ := h.unique hl
    exact Or.inl ⟨_,_,rfl,hs,hva,hvb,hn⟩
  | noResponse h hs =>
    obtain ⟨rfl,rfl,rfl⟩ := h.unique hl
    exact Or.inr (Or.inl ⟨rfl,hs⟩)
  | raised h hs =>
    obtain ⟨rfl,rfl,rfl⟩ := h.unique hl
    exact Or.inr (Or.inr ⟨_,rfl,hs⟩)
  | tooLong h hlong =>
    obtain ⟨rfl,rfl,rfl⟩ := h.unique hl
    omega
  | unread h => exact absurd hl (h _ _ _)

/-- `int` with its usual limit. -/
def intLimited (d : List Char) : Except Unit ℕ := if d.length ≤ 4300 then .ok (int d) else .error ()

theorem intLimited_converts : Converts intLimited where
  value _ h := by
    rw [intLimited] at h
    split at h
    · exact (Except.ok.inj h).symm
    · cases h
  short _ h := by
    rw [intLimited] at h
    split at h
    · cases h
    · omega

/-- Nothing is lost, and a packet that cannot be packed is never answered. -/
def exchange (respond : Frame → Option Frame) (pkt : Packet) : Except Unit (Option Frame) :=
  match pkt.build with
  | .ok f => .ok (respond f)
  | .error _ => .ok none

theorem exchange_ne_error (respond : Frame → Option Frame) (pkt : Packet) (e : Unit) :
    exchange respond pkt ≠ .error e := by
  intro h
  rw [exchange] at h
  cases hf : pkt.build with
  | ok f =>
    rw [hf] at h
    cases h
  | error _ =>
    rw [hf] at h
    cases h

theorem exchange_exchanges (respond : Frame → Option Frame) :
    Exchanges respond (exchange respond) where
  response {pkt resp} h := by
    rw [exchange] at h
    cases hf : pkt.build with
    | error e =>
      rw [hf] at h
      cases h
    | ok f =>
      rw [hf] at h
      exact ⟨f,rfl,Except.ok.inj h⟩

def sampleTyped : List (List Char × (Packet → Except Unit (Option Frame))) :=
  [(['3',' ','-',' ','4'],exchange (respond .little (fun _ _ => none) dev1)),
    (['3',' ','-',' ','4'],fun _ => .ok none),
    (['4','2','9','4','9','6','7','2','9','6',' ','-',' ','4'],
      exchange (respond .little (fun _ _ => none) dev1)),
    (['q','u','i','t'],fun _ => .ok none)]

end P4tcExamples.Calc.Client
