import Mathlib.Data.List.Sort
import Mathlib.Logic.Function.Basic

/-!
# Packet filters

The part of nftables a rule set is judged by. A rule is a list of expressions that load parts of a
packet into registers, compare them and end in a verdict or an address translation (`eval`); a chain
is a list of rules with a policy (`evalRules`); a packet passes a hook if every base chain there
accepts it (`passes`), and is translated by the first translation chain that asks for it
(`translation`).

Rules are mostly a list of tests in front of an ending. `Test` names the shapes of tests, and
`eval_guard` says that a list of tests lets exactly the packets through that pass all of them.

A register holds the bytes that were loaded last; a comparison reads as many bytes as it has data.
-/

set_option autoImplicit false

namespace Waycloak.Computation.Nftables

abbrev Bytes := List UInt8

/-! ## Bytes -/

/-- The bytes, cut or filled up with zeros to the length. -/
def padded (length : Nat) (bytes : Bytes) : Bytes :=
  bytes.take length ++ List.replicate (length - bytes.length) 0

@[simp] theorem length_padded (length : Nat) (bytes : Bytes) :
    (padded length bytes).length = length := by
  simp only [padded, List.length_append, List.length_take, List.length_replicate]
  omega

/-- The bytes with `data` written at the offset, if it fits. -/
def splice (offset : Nat) (data bytes : Bytes) : Bytes :=
  if offset + data.length ≤ bytes.length then
    bytes.take offset ++ data ++ bytes.drop (offset + data.length)
  else bytes

@[simp] theorem length_splice (offset : Nat) (data bytes : Bytes) :
    (splice offset data bytes).length = bytes.length := by
  unfold splice
  split
  · simp only [List.length_append, List.length_take, List.length_drop]
    omega
  · rfl

/-- The `length` bytes at the offset. -/
def slice (offset length : Nat) (bytes : Bytes) : Bytes := (bytes.drop offset).take length

theorem slice_splice {offset : Nat} {data bytes : Bytes}
    (hfits : offset + data.length ≤ bytes.length) :
    slice offset data.length (splice offset data bytes) = data := by
  have htake : (bytes.take offset).length = offset := by
    rw [List.length_take]
    omega
  unfold slice splice
  rw [if_pos hfits, List.append_assoc, List.drop_append_of_le_length (by omega),
    List.drop_of_length_le (by omega), List.nil_append, List.take_left]

/-! ## Packets -/

/-- The byte order of a machine. -/
inductive ByteOrder where
  | little | big
  deriving DecidableEq

/-- A 32-bit word in the byte order of the machine. -/
def ByteOrder.word (order : ByteOrder) (value : BitVec 32) : Bytes :=
  let bytes := [value.extractLsb' 0 8, value.extractLsb' 8 8, value.extractLsb' 16 8,
    value.extractLsb' 24 8].map UInt8.ofBitVec
  match order with
  | .little => bytes
  | .big => bytes.reverse

@[simp] theorem ByteOrder.length_word (order : ByteOrder) (value : BitVec 32) :
    (order.word value).length = 4 := by
  cases order <;> rfl

/-- What connection tracking knows of a packet. -/
inductive CtState where
  | invalid | established | related | new | untracked
  deriving DecidableEq

/-- `NF_CT_STATE_BIT` and its two companions. -/
def CtState.bits : CtState → BitVec 32
  | .invalid => 1#32
  | .established => 2#32
  | .related => 4#32
  | .new => 8#32
  | .untracked => 64#32

/-- `NFPROTO_IPV4`, `NFPROTO_IPV6`. -/
def nfprotoIPv4 : UInt8 := 2
def nfprotoIPv6 : UInt8 := 10

/-- `IPPROTO_TCP`, `IPPROTO_UDP`. -/
def ipprotoTCP : UInt8 := 6
def ipprotoUDP : UInt8 := 17

/-- The name of an interface, as the kernel keeps it. -/
abbrev InterfaceName := { name : Bytes // name.length = 16 }

/-- A packet as the expressions of a rule see it. Interface names have 16 bytes; a packet without a
transport header (a later fragment) has an empty one. -/
structure Packet where
  iifname : Bytes
  oifname : Bytes
  nfproto : UInt8
  l4proto : UInt8
  mark : Bytes
  ct : CtState
  network : Bytes
  transport : Bytes
  iifname_length : iifname.length = 16
  oifname_length : oifname.length = 16
  mark_length : mark.length = 4
  ipv4_header : nfproto = nfprotoIPv4 → 20 ≤ network.length
  ipv6_header : nfproto = nfprotoIPv6 → 40 ≤ network.length
  deriving DecidableEq

inductive MetaKey where
  | iifname | oifname | nfproto | l4proto | mark
  deriving DecidableEq

inductive PayloadBase where
  | network | transport
  deriving DecidableEq

namespace Packet

def load (p : Packet) : MetaKey → Bytes
  | .iifname => p.iifname
  | .oifname => p.oifname
  | .nfproto => [p.nfproto]
  | .l4proto => [p.l4proto]
  | .mark => p.mark

def header (p : Packet) : PayloadBase → Bytes
  | .network => p.network
  | .transport => p.transport

/-- The packet with the mark, if it is a word. -/
def setMark (p : Packet) (mark : Bytes) : Packet :=
  if h : mark.length = 4 then { p with mark := mark, mark_length := h } else p

/-- The packet on its way out of an interface. -/
def leaving (p : Packet) (oifname : InterfaceName) : Packet :=
  { p with oifname := oifname.val, oifname_length := oifname.property }

/-- Where the destination address of the packet stands in its network header. -/
def addressOffset (p : Packet) : Nat := if p.nfproto = nfprotoIPv6 then 24 else 16

/-- The packet with another destination. -/
def redirect (p : Packet) (address port : Bytes) : Packet :=
  { p with
    network := splice p.addressOffset address p.network
    transport := splice 2 port p.transport
    ipv4_header := by simpa using p.ipv4_header
    ipv6_header := by simpa using p.ipv6_header }

/-- The IPv4 destination address and the destination port. -/
def destination (p : Packet) : Bytes := slice 16 4 p.network
def destinationPort (p : Packet) : Bytes := slice 2 2 p.transport

@[simp] theorem setMark_eq (p : Packet) (mark : Bytes) (h : mark.length = 4) :
    p.setMark mark = { p with mark := mark, mark_length := h } := by
  simp [setMark, h]

theorem destination_redirect {p : Packet} {address port : Bytes} (hfamily : p.nfproto = nfprotoIPv4)
    (haddress : address.length = 4) : (p.redirect address port).destination = address := by
  have hfits : 16 + address.length ≤ p.network.length := by
    have hheader := p.ipv4_header hfamily
    omega
  have hoffset : p.addressOffset = 16 := by
    rw [addressOffset, hfamily]
    rfl
  have hread := slice_splice hfits
  rw [haddress, ← hoffset] at hread
  rw [destination, ← hoffset]
  exact hread

theorem destinationPort_redirect {p : Packet} {address port : Bytes} (hport : port.length = 2)
    (hfound : p.destinationPort.length = 2) : (p.redirect address port).destinationPort = port := by
  have hfits : 2 + port.length ≤ p.transport.length := by
    simp only [destinationPort, slice, List.length_take, List.length_drop] at hfound
    omega
  have hread := slice_splice hfits
  rw [hport] at hread
  exact hread

end Packet

/-! ## Expressions -/

inductive CmpOp where
  | eq | neq
  deriving DecidableEq

inductive Verdict where
  | accept | drop
  deriving DecidableEq

/-- The expressions, each with the registers it reads and writes. -/
inductive Expr where
  | metaLoad (key : MetaKey) (register : Nat)
  | metaMark (register : Nat)
  | payload (base : PayloadBase) (offset length register : Nat)
  | ctState (register : Nat)
  | bitwise (source target : Nat) (mask xor : Bytes)
  | cmp (op : CmpOp) (register : Nat) (data : Bytes)
  | immediate (register : Nat) (data : Bytes)
  | destNAT (address port : Nat)
  | masquerade (port : Option Nat)
  | verdict (kind : Verdict)
  deriving DecidableEq

/-- An address translation a rule asks for. -/
inductive Translation where
  | destination (address port : Bytes)
  | masquerade (port : Option Bytes)
  deriving DecidableEq

/-- How the evaluation of a rule ends: at the next rule, with a verdict, or with a translation. -/
inductive Ending where
  | next
  | verdict (kind : Verdict)
  | translate (translation : Translation)
  deriving DecidableEq

def CmpOp.holds (op : CmpOp) (a b : Bytes) : Bool :=
  match op with
  | .eq => a == b
  | .neq => a != b

/-- `source & mask ^ xor`, byte by byte. -/
def masked (mask xor bytes : Bytes) : Bytes :=
  List.zipWith (· ^^^ ·) (List.zipWith (· &&& ·) bytes mask) xor

/-- The evaluation of the expressions of a rule. A payload beyond the end of its header ends the
rule, as a comparison that fails does. -/
def eval (order : ByteOrder) : List Expr → (Nat → Bytes) → Packet → Ending × Packet
  | [], _, p => (.next, p)
  | .metaLoad key r :: rest, regs, p => eval order rest (Function.update regs r (p.load key)) p
  | .metaMark r :: rest, regs, p => eval order rest regs (p.setMark ((regs r).take 4))
  | .payload base offset length r :: rest, regs, p =>
    if offset + length ≤ (p.header base).length then
      eval order rest (Function.update regs r (slice offset length (p.header base))) p
    else (.next, p)
  | .ctState r :: rest, regs, p => eval order rest (Function.update regs r (order.word p.ct.bits)) p
  | .bitwise s t mask xor :: rest, regs, p =>
    eval order rest (Function.update regs t (masked mask xor (regs s))) p
  | .cmp op r data :: rest, regs, p =>
    if op.holds ((regs r).take data.length) data then eval order rest regs p else (.next, p)
  | .immediate r data :: rest, regs, p => eval order rest (Function.update regs r data) p
  | .destNAT a q :: _, regs, p => (.translate (.destination (regs a) (regs q)), p)
  | .masquerade port :: _, regs, p => (.translate (.masquerade (port.map regs)), p)
  | .verdict kind :: _, _, p => (.verdict kind, p)

/-- A test of a packet, through register 1. -/
inductive Test where
  /-- a property of the packet has the value -/
  | metaIs (key : MetaKey) (data : Bytes)
  /-- the bytes at the offset of a header are the data -/
  | payloadIs (base : PayloadBase) (offset : Nat) (data : Bytes)
  /-- the masked bytes at the offset of a header are the data -/
  | payloadIn (base : PayloadBase) (offset : Nat) (mask data : Bytes)
  /-- the state of the connection is one of the mask's -/
  | ctIn (mask : Bytes)

namespace Test

def exprs : Test → List Expr
  | metaIs key data => [.metaLoad key 1, .cmp .eq 1 data]
  | payloadIs base offset data => [.payload base offset data.length 1, .cmp .eq 1 data]
  | payloadIn base offset mask data =>
    [.payload base offset mask.length 1, .bitwise 1 1 mask (List.replicate mask.length 0),
      .cmp .eq 1 data]
  | ctIn mask => [.ctState 1, .bitwise 1 1 mask [0, 0, 0, 0], .cmp .neq 1 [0, 0, 0, 0]]

def holds (order : ByteOrder) (p : Packet) : Test → Bool
  | metaIs key data => (p.load key).take data.length == data
  | payloadIs base offset data =>
    decide (offset + data.length ≤ (p.header base).length) &&
      slice offset data.length (p.header base) == data
  | payloadIn base offset mask data =>
    decide (offset + mask.length ≤ (p.header base).length) &&
      (masked mask (List.replicate mask.length 0)
        (slice offset mask.length (p.header base))).take data.length == data
  | ctIn mask => (masked mask [0, 0, 0, 0] (order.word p.ct.bits)).take 4 != [0, 0, 0, 0]

end Test

/-- The expressions of a list of tests. -/
def guard (tests : List Test) : List Expr := tests.flatMap Test.exprs

theorem eval_test (order : ByteOrder) (test : Test) (rest : List Expr) (regs : Nat → Bytes)
    (p : Packet) :
    ∃ regs', eval order (test.exprs ++ rest) regs p =
      if test.holds order p then eval order rest regs' p else (.next, p) := by
  cases test with
  | metaIs key =>
    refine ⟨Function.update regs 1 (p.load key), ?_⟩
    simp [Test.exprs, Test.holds, eval, CmpOp.holds]
  | payloadIs base offset data =>
    refine ⟨Function.update regs 1 (slice offset data.length (p.header base)), ?_⟩
    by_cases hfits : offset + data.length ≤ (p.header base).length
    · simp [Test.exprs, Test.holds, eval, CmpOp.holds, hfits, slice, List.take_take]
    · simp [Test.exprs, Test.holds, eval, hfits]
  | payloadIn base offset mask =>
    refine ⟨Function.update (Function.update regs 1
      (slice offset mask.length (p.header base))) 1
        (masked mask (List.replicate mask.length 0)
          (slice offset mask.length (p.header base))), ?_⟩
    by_cases hfits : offset + mask.length ≤ (p.header base).length
    · simp [Test.exprs, Test.holds, eval, CmpOp.holds, hfits]
    · simp [Test.exprs, Test.holds, eval, hfits]
  | ctIn mask =>
    refine ⟨Function.update (Function.update regs 1 (order.word p.ct.bits)) 1
      (masked mask [0, 0, 0, 0] (order.word p.ct.bits)), ?_⟩
    simp [Test.exprs, Test.holds, eval, CmpOp.holds]

/-- INTERNAL: **a guard lets exactly the packets through that pass all its tests.** -/
theorem eval_guard (order : ByteOrder) (tests : List Test) (rest : List Expr) (regs : Nat → Bytes)
    (p : Packet) :
    ∃ regs', eval order (guard tests ++ rest) regs p =
      if ∀ test ∈ tests, test.holds order p then eval order rest regs' p else (.next, p) := by
  induction tests generalizing regs with
  | nil => exact ⟨regs, by simp [guard]⟩
  | cons test tests ih =>
    obtain ⟨regs₁, hfirst⟩ := eval_test order test (guard tests ++ rest) regs p
    obtain ⟨regs₂, hothers⟩ := ih regs₁
    refine ⟨regs₂, ?_⟩
    have hsplit : guard (test :: tests) ++ rest = test.exprs ++ (guard tests ++ rest) := by
      simp [guard]
    rw [hsplit, hfirst, hothers]
    by_cases htest : test.holds order p = true
    · simp [htest]
    · simp [htest]

theorem Test.holds_metaIs {order : ByteOrder} {p : Packet} {key : MetaKey} {data : Bytes}
    (h : (p.load key).length = data.length) :
    (Test.metaIs key data).holds order p = true ↔ p.load key = data := by
  simp [Test.holds, ← h]

theorem Test.holds_payloadIs {order : ByteOrder} {p : Packet} {base : PayloadBase} {offset : Nat}
    {data : Bytes} (h : 0 < data.length) :
    (Test.payloadIs base offset data).holds order p = true ↔
      slice offset data.length (p.header base) = data := by
  simp only [Test.holds, Bool.and_eq_true, decide_eq_true_eq, beq_iff_eq, and_iff_right_iff_imp]
  intro hslice
  have hlength := congrArg List.length hslice
  simp only [slice, List.length_take, List.length_drop] at hlength
  omega

/-! ## Rules and chains -/

structure Rule where
  userData : String
  exprs : List Expr
  deriving DecidableEq

inductive ChainType where
  | filter | nat
  deriving DecidableEq

inductive Hook where
  | prerouting | input | forward | output | postrouting
  deriving DecidableEq

/-- A base chain. A chain without a policy accepts what its rules do not decide. -/
structure Chain where
  type : ChainType
  hook : Hook
  priority : Int
  policy : Option Verdict
  rules : List Rule
  deriving DecidableEq

def Rule.eval (rule : Rule) (order : ByteOrder) (p : Packet) : Ending × Packet :=
  Nftables.eval order rule.exprs (fun _ => []) p

/-- The rules of a chain, up to the first one that ends. -/
def evalRules (order : ByteOrder) : List Rule → Packet → Ending × Packet
  | [], p => (.next, p)
  | rule :: rest, p =>
    match rule.eval order p with
    | (.next, p') => evalRules order rest p'
    | ended => ended

/-- The verdict of a filter chain. -/
def Chain.judge (chain : Chain) (order : ByteOrder) (p : Packet) : Verdict × Packet :=
  match evalRules order chain.rules p with
  | (.verdict kind, p') => (kind, p')
  | (_, p') => (chain.policy.getD .accept, p')

/-- A packet passes the filter chains of a hook if every one accepts it. -/
def passes (order : ByteOrder) : List Chain → Packet → Option Packet
  | [], p => some p
  | chain :: rest, p =>
    match chain.judge order p with
    | (.accept, p') => passes order rest p'
    | (.drop, _) => none

/-- The translation chains of a hook, up to the first one that asks for a translation. -/
def translation (order : ByteOrder) : List Chain → Packet → Option (Option Translation × Packet)
  | [], p => some (none, p)
  | chain :: rest, p =>
    match evalRules order chain.rules p with
    | (.translate t, p') => some (some t, p')
    | (.verdict .drop, _) => none
    | (_, p') => translation order rest p'

/-- What the rest of the kernel does to a forwarded packet: where it routes it, how it translates
the packets of a connection it tracks, and how it masquerades. -/
structure Kernel where
  order : ByteOrder
  route : Packet → Option InterfaceName
  restore : Packet → Packet
  masquerade : Packet → Option Bytes → Packet
  restore_iifname : ∀ p, (restore p).iifname = p.iifname
  restore_ct : ∀ p, (restore p).ct = p.ct

/-- The chains of a type at a hook, by priority. -/
def atHook (chains : List Chain) (hook : Hook) (type : ChainType) : List Chain :=
  (chains.filter fun chain =>
    decide (chain.hook = hook) && decide (chain.type = type)).insertionSort
      fun a b => a.priority ≤ b.priority

/-- What a translation does to the first packet of a connection. -/
def Kernel.translate (k : Kernel) (p : Packet) : Option Translation → Packet
  | none => p
  | some (.destination address port) => p.redirect address port
  | some (.masquerade port) => k.masquerade p port

/-- The translation of a hook. Only the first packet of a connection sees its chains; a tracked
packet is translated as its connection is. -/
def Kernel.natHook (k : Kernel) (chains : List Chain) (hook : Hook) (p : Packet) : Option Packet :=
  if p.ct = .new then
    (translation k.order (atHook chains hook .nat) p).map fun answer =>
      k.translate answer.2 answer.1
  else some p

/-- The way of a packet through the host: the packet that leaves it, if it is forwarded. A packet
without a route is delivered locally or not at all. -/
def Kernel.forward (k : Kernel) (chains : List Chain) (p : Packet) : Option Packet := do
  let arrived ← k.natHook chains .prerouting (if p.ct = .new then p else k.restore p)
  let oifname ← k.route arrived
  let passed ← passes k.order (atHook chains .forward .filter) (arrived.leaving oifname)
  k.natHook chains .postrouting passed

section Chains

variable {order : ByteOrder} {rules : List Rule} {p : Packet} {kind : Verdict} {chain : Chain}
  {chains : List Chain} {exprs : List Expr} {regs : Nat → Bytes}

theorem evalRules_next (h : ∀ rule ∈ rules, rule.eval order p = (.next, p)) :
    evalRules order rules p = (.next, p) := by
  induction rules with
  | nil => rfl
  | cons rule rest ih =>
    rw [evalRules, h rule List.mem_cons_self]
    exact ih fun r hr => h r (List.mem_cons_of_mem _ hr)

/-- INTERNAL: **if all rules that end agree, and one does, the chain ends as it does.** -/
theorem evalRules_of_agree {e : Ending × Packet} (hended : e.1 ≠ .next)
    (hsome : ∃ rule ∈ rules, rule.eval order p = e)
    (hall : ∀ rule ∈ rules, rule.eval order p = (.next, p) ∨ rule.eval order p = e) :
    evalRules order rules p = e := by
  induction rules with
  | nil => simp at hsome
  | cons rule rest ih =>
    rw [evalRules]
    rcases hall rule List.mem_cons_self with hnext | hends
    · rw [hnext]
      refine ih ?_ fun r hr => hall r (List.mem_cons_of_mem _ hr)
      obtain ⟨found, hmem, hfound⟩ := hsome
      rcases List.mem_cons.mp hmem with rfl | hrest
      · rw [hnext] at hfound
        exact absurd (congrArg Prod.fst hfound).symm hended
      · exact ⟨found, hrest, hfound⟩
    · rw [hends]
      obtain ⟨ending, p'⟩ := e
      cases ending with
      | next => exact absurd rfl hended
      | verdict => rfl
      | translate t => rfl

theorem evalRules_append_ended {before : List Rule} (h : (evalRules order before p).1 ≠ .next) :
    evalRules order (before ++ rules) p = evalRules order before p := by
  induction before generalizing p with
  | nil => exact absurd rfl h
  | cons _ _ ih =>
    rw [List.cons_append, evalRules, evalRules] at *
    split
    · next p' heval =>
      simp only [heval] at h
      exact ih h
    · rfl

theorem eval_guard_verdict {rule : Rule} {tests : List Test}
    (hexprs : rule.exprs = guard tests ++ [.verdict kind]) :
    rule.eval order p =
      if ∀ test ∈ tests, test.holds order p then (.verdict kind, p) else (.next, p) := by
  obtain ⟨regs, heval⟩ := eval_guard order tests [.verdict kind] (fun _ => []) p
  unfold Rule.eval
  rw [hexprs, heval]
  rfl

/-- INTERNAL: **rules of tests in front of one verdict end with it if the tests of one pass.** -/
theorem evalRules_guards (guards : List (String × List Test)) (kind : Verdict) :
    evalRules order (guards.map fun g => ⟨g.1, guard g.2 ++ [.verdict kind]⟩) p =
      if ∃ g ∈ guards, ∀ test ∈ g.2, test.holds order p then (.verdict kind, p)
      else (.next, p) := by
  induction guards with
  | nil => simp [evalRules]
  | cons g guards ih =>
    rw [List.map_cons, evalRules, eval_guard_verdict rfl]
    by_cases hfirst : ∀ test ∈ g.2, test.holds order p = true
    · have hsome : ∃ g' ∈ g :: guards, ∀ test ∈ g'.2, test.holds order p = true :=
        ⟨g, List.mem_cons_self, hfirst⟩
      rw [if_pos hfirst, if_pos hsome]
    · rw [if_neg hfirst]
      simp only [ih, List.mem_cons, exists_eq_or_imp, hfirst, false_or]

/-- A rule that does not write to the packet. -/
def Rule.reading (rule : Rule) : Bool :=
  rule.exprs.all fun
    | .metaMark _ => false
    | _ => true

theorem eval_reading (h : (Rule.mk "" exprs).reading = true) : (eval order exprs regs p).2 = p := by
  induction exprs generalizing regs with
  | nil => rfl
  | cons first rest ih =>
    simp only [Rule.reading, List.all_cons, Bool.and_eq_true] at h
    cases first with
    | metaMark r => simp at h
    | payload | cmp =>
      unfold eval
      split
      · exact ih h.2
      · rfl
    | metaLoad | ctState r | bitwise | immediate => exact ih h.2
    | destNAT => rfl
    | masquerade => rfl
    | verdict => rfl

theorem evalRules_reading (h : ∀ rule ∈ rules, rule.reading = true) :
    (evalRules order rules p).2 = p := by
  induction rules with
  | nil => rfl
  | cons rule rest ih =>
    have hpacket : (rule.eval order p).2 = p := eval_reading (h rule List.mem_cons_self)
    unfold evalRules
    split
    · next p' heval =>
      rw [heval] at hpacket
      rw [show p' = p from hpacket]
      exact ih fun r hr => h r (List.mem_cons_of_mem _ hr)
    · exact hpacket

theorem judge_reading (h : ∀ rule ∈ chain.rules, rule.reading = true) :
    (chain.judge order p).2 = p := by
  have hpacket := @evalRules_reading order chain.rules p h
  unfold Chain.judge
  split
  · next heval =>
    rw [heval] at hpacket
    exact hpacket
  · next heval =>
    rw [heval] at hpacket
    exact hpacket

/-- INTERNAL: **chains that only read pass a packet if all of them accept it, in any order.** -/
theorem passes_reading (h : ∀ chain ∈ chains, ∀ rule ∈ chain.rules, rule.reading = true) :
    passes order chains p =
      if ∀ chain ∈ chains, (chain.judge order p).1 = .accept then some p else none := by
  induction chains with
  | nil => simp [passes]
  | cons chain rest ih =>
    have hpacket := @judge_reading order p chain (h chain List.mem_cons_self)
    have hrest := ih fun c hc => h c (List.mem_cons_of_mem _ hc)
    unfold passes
    split
    · next p' hjudge =>
      rw [hjudge] at hpacket
      rw [show p' = p from hpacket, hrest]
      simp [hjudge]
    · next p' hjudge => simp [hjudge]

theorem translation_none
    (h : ∀ chain ∈ chains, ∀ rule ∈ chain.rules, rule.eval order p = (.next, p)) :
    translation order chains p = some (none, p) := by
  induction chains with
  | nil => rfl
  | cons chain rest ih =>
    rw [translation, evalRules_next (h chain List.mem_cons_self)]
    exact ih fun c hc => h c (List.mem_cons_of_mem _ hc)

theorem mem_atHook {hook : Hook} {type : ChainType} :
    chain ∈ atHook chains hook type ↔ chain ∈ chains ∧ chain.hook = hook ∧ chain.type = type := by
  simp [atHook]

theorem eval_verdict_mem (h : (eval order exprs regs p).1 = .verdict kind) :
    Expr.verdict kind ∈ exprs := by
  induction exprs generalizing regs p with
  | nil => simp [eval] at h
  | cons first rest ih =>
    cases first with
    | metaLoad | metaMark r => exact List.mem_cons_of_mem _ (ih h)
    | payload =>
      unfold eval at h
      split at h
      · exact List.mem_cons_of_mem _ (ih h)
      · cases h
    | ctState r | bitwise => exact List.mem_cons_of_mem _ (ih h)
    | cmp =>
      unfold eval at h
      split at h
      · exact List.mem_cons_of_mem _ (ih h)
      · cases h
    | immediate => exact List.mem_cons_of_mem _ (ih h)
    | destNAT | masquerade => simp [eval] at h
    | verdict =>
      simp only [eval, Ending.verdict.injEq] at h
      rw [h]
      exact List.mem_cons_self

theorem evalRules_verdict_mem (h : (evalRules order rules p).1 = .verdict kind) :
    ∃ rule ∈ rules, Expr.verdict kind ∈ rule.exprs := by
  induction rules generalizing p with
  | nil => simp [evalRules] at h
  | cons rule rest ih =>
    unfold evalRules at h
    split at h
    · obtain ⟨found, hmem, hfound⟩ := ih h
      exact ⟨found, List.mem_cons_of_mem _ hmem, hfound⟩
    · exact ⟨rule, List.mem_cons_self, eval_verdict_mem h⟩

/-- INTERNAL: **a chain that drops by default and has no accepting rule drops every packet.** -/
theorem judge_drop (hpolicy : chain.policy = some .drop)
    (hrules : ∀ rule ∈ chain.rules, Expr.verdict .accept ∉ rule.exprs) :
    (chain.judge order p).1 = .drop := by
  unfold Chain.judge
  split
  · next kind p' heval =>
    cases kind with
    | drop => rfl
    | accept =>
      obtain ⟨rule, hmem, haccept⟩ := evalRules_verdict_mem (congrArg Prod.fst heval)
      exact absurd haccept (hrules rule hmem)
  · rw [hpolicy]
    rfl

end Chains

/-! ## Rule sets -/

/-- The tables of one family, by name. -/
abbrev Table := String → Option Chain
abbrev Ruleset := String → Option Table

/-- The chain of a table. -/
def Ruleset.chain (s : Ruleset) (table chain : String) : Option Chain := (s table).bind (· chain)

/-- The messages of a batch. -/
inductive Op where
  | delTable (table : String)
  | addTable (table : String)
  | addChain (table name : String) (chain : Chain)
  | addRule (table chain : String) (rule : Rule)
  | delRule (table chain : String) (rule : Rule)
  deriving DecidableEq

/-- The table a message is about. -/
def Op.table : Op → String
  | .delTable table | .addTable table | .addChain table _ _ | .addRule table _ _
  | .delRule table _ _ => table

/-- What a table becomes: a new table is empty, a new chain is as it is asked for, and an existing
chain keeps its rules. -/
def Op.edit : Op → Option Table → Option Table
  | .delTable _, _ => none
  | .addTable _, table => some (table.getD fun _ => none)
  | .addChain _ name chain, table =>
    table.map fun chains => Function.update chains name
      (some (((chains name).map fun old => { chain with rules := old.rules }).getD chain))
  | .addRule _ name rule, table =>
    table.map fun chains => Function.update chains name
      ((chains name).map fun old => { old with rules := old.rules ++ [rule] })
  | .delRule _ name rule, table =>
    table.map fun chains => Function.update chains name
      ((chains name).map fun old => { old with rules := old.rules.erase rule })

@[simp] theorem Op.edit_delTable (name : String) (table : Option Table) :
    (Op.delTable name).edit table = none := rfl

@[simp] theorem Op.edit_addTable (name : String) (table : Option Table) :
    (Op.addTable name).edit table = some (table.getD fun _ => none) := rfl

@[simp] theorem Op.edit_addChain (table name : String) (chain : Chain) (chains : Table) :
    (Op.addChain table name chain).edit (some chains) = some (Function.update chains name
      (some (((chains name).map fun old => { chain with rules := old.rules }).getD chain))) := rfl

@[simp] theorem Op.edit_addRule (table name : String) (rule : Rule) (chains : Table) :
    (Op.addRule table name rule).edit (some chains) = some (Function.update chains name
      ((chains name).map fun old => { old with rules := old.rules ++ [rule] })) := rfl

def Op.apply (s : Ruleset) (op : Op) : Ruleset := Function.update s op.table (op.edit (s op.table))

/-- A batch takes effect as a whole. -/
def flush (s : Ruleset) (batch : List Op) : Ruleset := batch.foldl Op.apply s

section Batches

variable {s : Ruleset} {batch : List Op} {table name : String}

@[simp] theorem flush_nil : flush s [] = s := rfl

@[simp] theorem flush_cons (op : Op) : flush s (op :: batch) = flush (op.apply s) batch := rfl

theorem flush_append (first second : List Op) :
    flush s (first ++ second) = flush (flush s first) second := by
  simp [flush]

theorem flush_other (h : ∀ op ∈ batch, op.table ≠ table) : flush s batch table = s table := by
  induction batch generalizing s with
  | nil => rfl
  | cons op rest ih =>
    rw [flush_cons, ih fun o ho => h o (List.mem_cons_of_mem _ ho), Op.apply,
      Function.update_of_ne (h op List.mem_cons_self).symm]

theorem flush_own (h : ∀ op ∈ batch, op.table = table) :
    flush s batch table = batch.foldl (fun t op => op.edit t) (s table) := by
  induction batch generalizing s with
  | nil => rfl
  | cons op rest ih =>
    have hop := h op List.mem_cons_self
    rw [flush_cons, ih fun o ho => h o (List.mem_cons_of_mem _ ho), List.foldl_cons, Op.apply,
      hop, Function.update_self]

/-- What a message about rules does to the rules of the chain. -/
def Op.editRules (name : String) (rules : List Rule) : Op → List Rule
  | .addRule _ chain rule => if chain = name then rules ++ [rule] else rules
  | .delRule _ chain rule => if chain = name then rules.erase rule else rules
  | _ => rules

/-- The messages that only add rules to a table or delete some. -/
def Op.aboutRules (table : String) : Op → Bool
  | .addRule t _ _ => t == table
  | .delRule t _ _ => t == table
  | _ => false

theorem chain_apply_of_aboutRules {op : Op} (h : op.aboutRules table = true) :
    (op.apply s).chain table name =
      (s.chain table name).map fun c => { c with rules := op.editRules name c.rules } := by
  have hedit : ∀ (chain : String) (f : List Rule → List Rule),
      ((s table).map fun chains => Function.update chains chain
          ((chains chain).map fun old => { old with rules := f old.rules })).bind (· name) =
        (s.chain table name).map fun c =>
          { c with rules := if chain = name then f c.rules else c.rules } := by
    intro chain f
    unfold Ruleset.chain
    cases s table with
    | none => rfl
    | some chains =>
      by_cases heq : chain = name
      · simp [heq]
      have hupdate : Function.update chains chain
          ((chains chain).map fun old => { old with rules := f old.rules }) name =
            chains name := Function.update_of_ne (Ne.symm heq) _ _
      simp [heq, hupdate]
  cases op with
  | addRule t chain rule =>
    obtain rfl : t = table := by simpa [Op.aboutRules] using h
    simpa [Ruleset.chain, Op.apply, Op.table, Op.edit, Op.editRules] using
      hedit chain (· ++ [rule])
  | delRule t chain rule =>
    obtain rfl : t = table := by simpa [Op.aboutRules] using h
    simpa [Ruleset.chain, Op.apply, Op.table, Op.edit, Op.editRules] using
      hedit chain (List.erase · rule)
  | delTable t | addTable t | addChain => simp [Op.aboutRules] at h

/-- INTERNAL: **a batch about rules edits the rules of each chain, message by message.** -/
theorem chain_flush_of_aboutRules (h : ∀ op ∈ batch, op.aboutRules table = true) :
    (flush s batch).chain table name =
      (s.chain table name).map fun c =>
        { c with rules := batch.foldl (Op.editRules name) c.rules } := by
  induction batch generalizing s with
  | nil => simp
  | cons op rest ih =>
    rw [flush_cons, ih fun o ho => h o (List.mem_cons_of_mem _ ho),
      chain_apply_of_aboutRules (h op List.mem_cons_self), Option.map_map]
    rfl

theorem foldl_edit_replaced (rest : List Op) :
    ((if (s table).isSome = true then [Op.delTable table] else []) ++ rest).foldl
        (fun t op => op.edit t) (s table) = rest.foldl (fun t op => op.edit t) none := by
  cases hfound : s table with
  | none => simp
  | some => simp

theorem foldl_edit_addRules (chains : Table) (added : List Rule) :
    (added.map (Op.addRule table name)).foldl (fun t op => op.edit t) (some chains) =
      some (Function.update chains name
        ((chains name).map fun c => { c with rules := c.rules ++ added })) := by
  induction added generalizing chains with
  | nil => simp
  | cons _ _ ih =>
    rw [List.map_cons, List.foldl_cons, Op.edit_addRule, ih]
    simp [Function.comp_def, List.append_assoc]

theorem foldl_edit_addEach (chains : Table) (added : List (String × Rule)) :
    (added.map fun entry => Op.addRule table entry.1 entry.2).foldl (fun t op => op.edit t)
        (some chains) =
      some fun n => (chains n).map fun c =>
        { c with rules := c.rules ++ (added.filter (·.1 = n)).map (·.2) } := by
  induction added generalizing chains with
  | nil => simp
  | cons entry rest ih =>
    rw [List.map_cons, List.foldl_cons, Op.edit_addRule, ih]
    congr 1
    funext n
    by_cases heq : entry.1 = n
    · subst heq
      simp [Function.comp_def, List.append_assoc]
    · rw [Function.update_of_ne (Ne.symm heq), List.filter_cons_of_neg (by simpa using heq)]

theorem foldl_editRules_add (chain : String) (added rules : List Rule) :
    (added.map (Op.addRule table chain)).foldl (Op.editRules name) rules =
      if chain = name then rules ++ added else rules := by
  induction added generalizing rules with
  | nil => simp
  | cons _ _ ih =>
    rw [List.map_cons, List.foldl_cons, ih]
    by_cases heq : chain = name <;> simp [Op.editRules, heq]

theorem foldl_editRules_del (chain : String) (deleted rules : List Rule) :
    (deleted.map (Op.delRule table chain)).foldl (Op.editRules name) rules =
      if chain = name then deleted.foldl List.erase rules else rules := by
  induction deleted generalizing rules with
  | nil => simp
  | cons _ _ ih =>
    rw [List.map_cons, List.foldl_cons, ih]
    by_cases heq : chain = name <;> simp [Op.editRules, heq]

theorem foldl_editRules_flatMap {b : String → List Op}
    (hother : ∀ chain rules, chain ≠ name → (b chain).foldl (Op.editRules name) rules = rules)
    {names : List String} (hnodup : names.Nodup) (rules : List Rule) :
    (names.flatMap b).foldl (Op.editRules name) rules =
      if name ∈ names then (b name).foldl (Op.editRules name) rules else rules := by
  induction names generalizing rules with
  | nil => rfl
  | cons first rest ih =>
    obtain ⟨hfirst, hrest⟩ := List.nodup_cons.mp hnodup
    rw [List.flatMap_cons, List.foldl_append, ih hrest]
    by_cases heq : first = name
    · subst heq
      simp [hfirst]
    · simp [hother first _ heq, Ne.symm heq]

theorem foldl_erase_cons {rule : Rule} {deleted : List Rule} (h : rule ∉ deleted)
    (rules : List Rule) :
    deleted.foldl List.erase (rule :: rules) = rule :: deleted.foldl List.erase rules := by
  induction deleted generalizing rules with
  | nil => rfl
  | cons first rest ih =>
    have hne : rule ≠ first := by
      rintro rfl
      exact h List.mem_cons_self
    rw [List.foldl_cons, List.foldl_cons, List.erase_cons_tail (by simpa using hne)]
    exact ih (fun hmem => h (List.mem_cons_of_mem _ hmem)) _

theorem foldl_erase_filter (kind : Rule → Bool) (rules : List Rule) :
    (rules.filter kind).foldl List.erase rules = rules.filter fun rule => !kind rule := by
  induction rules with
  | nil => rfl
  | cons rule rest ih =>
    by_cases hkind : kind rule = true
    · rw [List.filter_cons_of_pos hkind, List.foldl_cons, List.erase_cons_head, ih,
        List.filter_cons_of_neg (by simp [hkind])]
    have hnot : rule ∉ rest.filter kind := by
      intro hmem
      exact hkind (List.mem_filter.mp hmem).2
    rw [List.filter_cons_of_neg hkind, foldl_erase_cons hnot, ih,
      List.filter_cons_of_pos (by simpa using hkind)]

end Batches

end Waycloak.Computation.Nftables
