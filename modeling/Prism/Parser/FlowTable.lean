import Mathlib.Data.List.AList
import Mathlib.Data.Sym.Sym2
import Prism.Foundation.Threads
import Prism.Types

/-! # The flow table

`FlowTable::classify`, which tells the client of a flow from its server, and what
it makes of any sequence of packets: the first packet of a flow is its client's.
-/

namespace Prism.Parser

open Threads

structure FlowKey where
  src : String
  dst : String
  sport : UInt16
  dport : UInt16
  deriving DecidableEq, Repr

structure FlowState where
  clientIsSrc : Bool := false
  lastSeen : Timestamp := 0
  deriving DecidableEq, Repr

/-- The hash map of the table. Nothing depends on the order of its entries. -/
structure FlowTable where
  table : AList fun _ : FlowKey => FlowState := ∅

namespace FlowTable

def classify (flowTable : FlowTable) (pkt : RawPacket) : FlowTable × FlowState :=
  let k : FlowKey := ⟨pkt.srcIp, pkt.dstIp, pkt.srcPort, pkt.dstPort⟩
  let r : FlowKey := ⟨pkt.dstIp, pkt.srcIp, pkt.dstPort, pkt.srcPort⟩
  let now := pkt.timestamp
  match flowTable.table.lookup k with
  | some known =>
      let known := { known with lastSeen := now }
      (⟨flowTable.table.insert k known⟩, known)
  | none =>
      match flowTable.table.lookup r with
      | some known =>
          let known := { known with lastSeen := now }
          (⟨flowTable.table.insert r known⟩,
            { known with clientIsSrc := !known.clientIsSrc })
      | none =>
          let fs : FlowState := { clientIsSrc := true, lastSeen := now }
          (⟨flowTable.table.insert k fs⟩, fs)

def machine : Machine FlowTable RawPacket FlowState where
  step := classify

end FlowTable

/-! ## Flows -/

abbrev Endpoint := String × UInt16

namespace FlowKey

/-- The key under which a packet is looked up first. -/
def ofPacket (pkt : RawPacket) : FlowKey :=
  ⟨pkt.srcIp, pkt.dstIp, pkt.srcPort, pkt.dstPort⟩

def reverse (key : FlowKey) : FlowKey := ⟨key.dst, key.src, key.dport, key.sport⟩

/-- The two endpoints, in either direction. -/
def flow (key : FlowKey) : Sym2 Endpoint :=
  s((key.src, key.sport), (key.dst, key.dport))

theorem flow_eq_iff (key key' : FlowKey) :
    key.flow = key'.flow ↔ key = key' ∨ key = key'.reverse := by
  rcases key with ⟨src, dst, sport, dport⟩
  rcases key' with ⟨src', dst', sport', dport'⟩
  simp only [flow, reverse, Sym2.eq_iff, Prod.mk.injEq, mk.injEq]
  constructor
  · intro sameEnds
    rcases sameEnds with ⟨⟨src, sport⟩, dst, dport⟩ | ⟨⟨src, sport⟩, dst, dport⟩
    · exact .inl ⟨src, dst, sport, dport⟩
    · exact .inr ⟨src, dst, sport, dport⟩
  · intro equal
    rcases equal with ⟨src, dst, sport, dport⟩ | ⟨src, dst, sport, dport⟩
    · exact .inl ⟨⟨src, sport⟩, dst, dport⟩
    · exact .inr ⟨⟨src, sport⟩, dst, dport⟩

@[simp] theorem flow_reverse (key : FlowKey) : key.reverse.flow = key.flow :=
  (flow_eq_iff _ _).mpr (.inr rfl)

end FlowKey

def flowOf (pkt : RawPacket) : Sym2 Endpoint :=
  s((pkt.srcIp, pkt.srcPort), (pkt.dstIp, pkt.dstPort))

theorem flow_ofPacket (pkt : RawPacket) : (FlowKey.ofPacket pkt).flow = flowOf pkt :=
  rfl

/-! ## The three lookups -/

section Lookups

variable {flowTable : FlowTable} {pkt : RawPacket} {known : FlowState}

theorem classify_of_forward
    (forward : flowTable.table.lookup (.ofPacket pkt) = some known) :
    flowTable.classify pkt =
      (⟨flowTable.table.insert (.ofPacket pkt) ⟨known.clientIsSrc, pkt.timestamp⟩⟩,
        ⟨known.clientIsSrc, pkt.timestamp⟩) := by
  rw [FlowKey.ofPacket] at forward ⊢
  simp only [FlowTable.classify, forward]

theorem classify_of_backward
    (notForward : flowTable.table.lookup (.ofPacket pkt) = none)
    (backward : flowTable.table.lookup (FlowKey.ofPacket pkt).reverse = some known) :
    flowTable.classify pkt =
      (⟨flowTable.table.insert (FlowKey.ofPacket pkt).reverse
          ⟨known.clientIsSrc, pkt.timestamp⟩⟩,
        ⟨!known.clientIsSrc, pkt.timestamp⟩) := by
  rw [FlowKey.ofPacket] at notForward
  simp only [FlowKey.ofPacket, FlowKey.reverse] at backward ⊢
  simp only [FlowTable.classify, notForward, backward]

theorem classify_of_new
    (notForward : flowTable.table.lookup (.ofPacket pkt) = none)
    (notBackward : flowTable.table.lookup (FlowKey.ofPacket pkt).reverse = none) :
    flowTable.classify pkt =
      (⟨flowTable.table.insert (.ofPacket pkt) ⟨true, pkt.timestamp⟩⟩,
        ⟨true, pkt.timestamp⟩) := by
  rw [FlowKey.ofPacket] at notForward
  simp only [FlowKey.ofPacket, FlowKey.reverse] at notBackward ⊢
  simp only [FlowTable.classify, notForward, notBackward]

end Lookups

/-! ## The table as a function of the packets so far -/

/-- The key under which the flow of a packet is kept: the one of its first packet. -/
def keptKey (history : List RawPacket) (pkt : RawPacket) : FlowKey :=
  .ofPacket ((opener flowOf (flowOf pkt) history).getD pkt)

/-- What is kept under a key: the flow of which it is the first packet's key, with the
time of its latest packet. -/
def entry (history : List RawPacket) (key : FlowKey) : Option FlowState :=
  if (opener flowOf key.flow history).map FlowKey.ofPacket = some key then
    (latest flowOf key.flow history).map fun last =>
      { clientIsSrc := true, lastSeen := last.timestamp }
  else
    none

def Tracks (flowTable : FlowTable) (history : List RawPacket) : Prop :=
  ∀ key, flowTable.table.lookup key = entry history key

theorem flow_keptKey (history : List RawPacket) (pkt : RawPacket) :
    (keptKey history pkt).flow = flowOf pkt := by
  rw [keptKey, flow_ofPacket]
  cases opened : opener flowOf (flowOf pkt) history with
  | none => rfl
  | some first => exact threadOf_opener opened

theorem entry_of_not_opened {history : List RawPacket} {key : FlowKey}
    (notOpened : opener flowOf key.flow history = none) : entry history key = none := by
  rw [entry, notOpened, Option.map_none, if_neg (by simp)]

theorem entry_of_opened {history : List RawPacket} {key : FlowKey} {first : RawPacket}
    (opened : opener flowOf key.flow history = some first)
    (isKey : FlowKey.ofPacket first = key) :
    ∃ lastSeen, entry history key = some ⟨true, lastSeen⟩ := by
  have someLatest : (latest flowOf key.flow history).isSome = true := by
    rw [isSome_latest, opened]
    rfl
  rcases Option.isSome_iff_exists.mp someLatest with ⟨last, isLast⟩
  refine ⟨last.timestamp, ?_⟩
  rw [entry, opened, Option.map_some, isKey, if_pos rfl, isLast, Option.map_some]

theorem entry_of_other_opened {history : List RawPacket} {key : FlowKey}
    {first : RawPacket} (opened : opener flowOf key.flow history = some first)
    (isOther : FlowKey.ofPacket first ≠ key) : entry history key = none := by
  rw [entry, opened, Option.map_some, if_neg (by simpa using isOther)]

theorem entry_congr {history history' : List RawPacket} {key : FlowKey}
    (sameThread : thread flowOf key.flow history = thread flowOf key.flow history') :
    entry history key = entry history' key := by
  rw [entry, entry, opener, opener, latest, latest, sameThread]

theorem entry_concat (history : List RawPacket) (pkt : RawPacket) (key : FlowKey) :
    entry (history ++ [pkt]) key =
      if key = keptKey history pkt then some ⟨true, pkt.timestamp⟩
      else entry history key := by
  by_cases sameFlow : flowOf pkt = key.flow
  · rw [entry, ← sameFlow, opener_concat_self, latest_concat_self, Option.map_some,
      Option.map_some]
    change (if some (keptKey history pkt) = some key then _ else _) = _
    by_cases isKept : key = keptKey history pkt
    · rw [if_pos (congrArg some isKept.symm), if_pos isKept]
    · have notKept : some (keptKey history pkt) ≠ some key := by
        rw [ne_eq, Option.some.injEq]
        exact Ne.symm isKept
      rw [if_neg notKept, if_neg isKept]
      cases opened : opener flowOf key.flow history with
      | none => rw [entry_of_not_opened opened]
      | some first =>
          rw [keptKey, sameFlow, opened, Option.getD_some] at isKept
          rw [entry_of_other_opened opened (Ne.symm isKept)]
  · have notKept : key ≠ keptKey history pkt := by
      intro isKept
      rw [isKept] at sameFlow
      exact sameFlow (flow_keptKey history pkt).symm
    rw [if_neg notKept, entry, entry, opener_concat_of_ne sameFlow,
      latest_concat_of_ne sameFlow]

theorem Tracks.classify_eq {flowTable : FlowTable} {history : List RawPacket}
    (tracks : Tracks flowTable history) (pkt : RawPacket) :
    flowTable.classify pkt =
      (⟨flowTable.table.insert (keptKey history pkt) ⟨true, pkt.timestamp⟩⟩,
        ⟨decide (keptKey history pkt = .ofPacket pkt), pkt.timestamp⟩) := by
  have forward := tracks (.ofPacket pkt)
  have backward := tracks (FlowKey.ofPacket pkt).reverse
  cases opened : opener flowOf (flowOf pkt) history with
  | none =>
      have isKept : keptKey history pkt = .ofPacket pkt := by
        rw [keptKey, opened, Option.getD_none]
      rw [← flow_ofPacket] at opened
      rw [entry_of_not_opened opened] at forward
      rw [← FlowKey.flow_reverse] at opened
      rw [entry_of_not_opened opened] at backward
      rw [classify_of_new forward backward, isKept, decide_eq_true rfl]
  | some first =>
      have isKept : keptKey history pkt = .ofPacket first := by
        rw [keptKey, opened, Option.getD_some]
      have sameFlow : flowOf first = flowOf pkt := threadOf_opener opened
      rw [← flow_ofPacket] at opened
      by_cases isForward : FlowKey.ofPacket first = .ofPacket pkt
      · rcases entry_of_opened opened isForward with ⟨lastSeen, isEntry⟩
        rw [isEntry] at forward
        rw [classify_of_forward forward, isKept, isForward, decide_eq_true rfl]
      · have isBackward : FlowKey.ofPacket first = (FlowKey.ofPacket pkt).reverse :=
          ((FlowKey.flow_eq_iff (.ofPacket first) (.ofPacket pkt)).mp
            sameFlow).resolve_left isForward
        rw [entry_of_other_opened opened isForward] at forward
        rw [← FlowKey.flow_reverse] at opened
        rcases entry_of_opened opened isBackward with ⟨lastSeen, isEntry⟩
        rw [isEntry] at backward
        rw [classify_of_backward forward backward, isKept, decide_eq_false isForward,
          isBackward]
        rfl

theorem Tracks.classify {flowTable : FlowTable} {history : List RawPacket}
    (tracks : Tracks flowTable history) (pkt : RawPacket) :
    Tracks (flowTable.classify pkt).1 (history ++ [pkt]) := by
  intro key
  rw [tracks.classify_eq, entry_concat]
  by_cases isKept : key = keptKey history pkt
  · rw [if_pos isKept, isKept, AList.lookup_insert]
  · rw [if_neg isKept, AList.lookup_insert_ne isKept, tracks]

theorem tracks_finalState (packets : List RawPacket) :
    Tracks (FlowTable.machine.finalState {} packets) packets := by
  induction packets using List.reverseRecOn with
  | nil =>
      intro key
      rw [entry_of_not_opened rfl]
      exact AList.lookup_empty key
  | append_singleton packets pkt induction =>
      rw [Machine.finalState_append]
      exact induction.classify pkt

/-! ## One entry a flow -/

theorem Tracks.mem_iff {flowTable : FlowTable} {history : List RawPacket}
    (tracks : Tracks flowTable history) (key : FlowKey) :
    key ∈ flowTable.table ↔
      (opener flowOf key.flow history).map FlowKey.ofPacket = some key := by
  rw [← AList.lookup_isSome, tracks]
  cases opened : opener flowOf key.flow history with
  | none => simp [entry_of_not_opened opened]
  | some first =>
      by_cases isKey : FlowKey.ofPacket first = key
      · rcases entry_of_opened opened isKey with ⟨lastSeen, isEntry⟩
        simp [isEntry, isKey]
      · simp [entry_of_other_opened opened isKey, isKey]

theorem Tracks.flows_perm {flowTable : FlowTable} {history : List RawPacket}
    (tracks : Tracks flowTable history) :
    (flowTable.table.keys.map FlowKey.flow).Perm (history.map flowOf).dedup := by
  have distinct : (flowTable.table.keys.map FlowKey.flow).Nodup := by
    refine List.Nodup.map_on ?_ flowTable.table.keys_nodup
    intro key inTable key' inTable' sameFlow
    have isKey := (tracks.mem_iff key).mp (AList.mem_keys.mpr inTable)
    have isKey' := (tracks.mem_iff key').mp (AList.mem_keys.mpr inTable')
    rw [sameFlow] at isKey
    exact Option.some.inj (isKey.symm.trans isKey')
  refine (List.perm_ext_iff_of_nodup distinct (List.nodup_dedup _)).mpr ?_
  intro flow
  rw [List.mem_dedup, List.mem_map, List.mem_map]
  constructor
  · intro inKeys
    rcases inKeys with ⟨key, inTable, rfl⟩
    have isKey := (tracks.mem_iff key).mp (AList.mem_keys.mpr inTable)
    rcases Option.map_eq_some_iff.mp isKey with ⟨first, opened, _⟩
    exact isSome_opener_iff.mp (Option.isSome_iff_exists.mpr ⟨first, opened⟩)
  · intro inFlows
    rcases inFlows with ⟨pkt, inHistory, rfl⟩
    have someOpener : (opener flowOf (flowOf pkt) history).isSome = true :=
      isSome_opener_iff.mpr ⟨pkt, inHistory, rfl⟩
    rcases Option.isSome_iff_exists.mp someOpener with ⟨first, opened⟩
    have sameFlow : flowOf first = flowOf pkt := threadOf_opener opened
    rw [← flow_ofPacket] at sameFlow
    refine ⟨.ofPacket first, ?_, sameFlow⟩
    apply AList.mem_keys.mp
    rw [tracks.mem_iff, sameFlow, opened, Option.map_some]

theorem Tracks.lastSeen_eq {flowTable : FlowTable} {history : List RawPacket}
    (tracks : Tracks flowTable history) {key : FlowKey} {state : FlowState}
    (kept : flowTable.table.lookup key = some state) :
    ∃ last ∈ latest flowOf key.flow history, state = ⟨true, last.timestamp⟩ := by
  rw [tracks, entry] at kept
  split at kept
  · rcases Option.map_eq_some_iff.mp kept with ⟨last, isLast, rfl⟩
    exact ⟨last, isLast, rfl⟩
  · cases kept

/-! ## Directions -/

/-- A packet is answered from the packets of its own flow. -/
theorem answersByThread_machine :
    AnswersByThread flowOf FlowTable.machine {} fun flowHistory pkt =>
      { clientIsSrc :=
          decide (FlowKey.ofPacket (flowHistory.head?.getD pkt) = .ofPacket pkt)
        lastSeen := pkt.timestamp } := by
  intro history pkt
  exact congrArg Prod.snd ((tracks_finalState history).classify_eq pkt)

theorem result_eq {packets : List RawPacket} {index : Nat} {pkt : RawPacket}
    {result : FlowState} (isPacket : packets[index]? = some pkt)
    (isResult : (FlowTable.machine.outputs {} packets)[index]? = some result) :
    result =
      ⟨decide (keptKey (packets.take index) pkt = .ofPacket pkt), pkt.timestamp⟩ := by
  rw [Machine.getElem?_outputs, isPacket, Option.map_some,
    Option.some.injEq] at isResult
  rw [← isResult]
  exact congrArg Prod.snd ((tracks_finalState (packets.take index)).classify_eq pkt)

/-- For every sequence of packets on a fresh table. A packet is its client's exactly
if it goes the way of the first packet of its flow, which one between an endpoint and
itself always does, and the result carries its own time. The table keeps one entry
for each flow that has occurred, with the time of the flow's latest packet. Packets of
other flows, inserted anywhere, change neither the results of a flow nor its entry. -/
theorem direction_decided_by_first_packet (packets : List RawPacket) :
    let results := FlowTable.machine.outputs {} packets
    let table := (FlowTable.machine.finalState {} packets).table
    results.length = packets.length ∧
    (∀ (index : Nat) (pkt : RawPacket) (result : FlowState),
      packets[index]? = some pkt → results[index]? = some result →
        (result.clientIsSrc = true ↔
          ∃ first ∈ packets.find? fun other => flowOf other = flowOf pkt,
            FlowKey.ofPacket first = .ofPacket pkt) ∧
        ((FlowKey.ofPacket pkt).reverse = .ofPacket pkt → result.clientIsSrc = true) ∧
        result.lastSeen = pkt.timestamp) ∧
    (table.keys.map FlowKey.flow).Perm (packets.map flowOf).dedup ∧
    (∀ (key : FlowKey) (state : FlowState), table.lookup key = some state →
      ∃ last ∈ latest flowOf key.flow packets, state.lastSeen = last.timestamp) ∧
    (∀ (flow : Sym2 Endpoint) (packets' : List RawPacket),
      thread flowOf flow packets = thread flowOf flow packets' →
        answersTo flowOf flow packets results =
            answersTo flowOf flow packets' (FlowTable.machine.outputs {} packets') ∧
          ∀ key : FlowKey, key.flow = flow →
            table.lookup key =
              (FlowTable.machine.finalState {} packets').table.lookup key) := by
  intro results table
  have tracks := tracks_finalState packets
  refine ⟨FlowTable.machine.length_outputs {} packets, ?_, tracks.flows_perm, ?_, ?_⟩
  · intro index pkt result isPacket isResult
    have opened : opener flowOf (flowOf pkt) packets =
        some ((opener flowOf (flowOf pkt) (packets.take index)).getD pkt) :=
      opener_of_getElem? isPacket
    rw [opener_eq_find?] at opened
    rw [result_eq isPacket isResult, opened]
    refine ⟨?_, ?_, rfl⟩
    · rw [decide_eq_true_iff, keptKey]
      simp
    · intro symmetric
      have sameFlow := flow_keptKey (packets.take index) pkt
      rw [← flow_ofPacket, FlowKey.flow_eq_iff, symmetric, or_self] at sameFlow
      exact decide_eq_true sameFlow
  · intro key state kept
    rcases tracks.lastSeen_eq kept with ⟨last, isLast, rfl⟩
    exact ⟨last, isLast, rfl⟩
  · intro flow packets' sameThread
    refine ⟨answersTo_congr answersByThread_machine sameThread, ?_⟩
    intro key isFlow
    rw [← isFlow] at sameThread
    exact (tracks key).trans ((entry_congr sameThread).trans
      (tracks_finalState packets' key).symm)

/-- A request, a packet of another flow and the reply to the request. -/
theorem direction_decided_by_first_packet_of_reply :
    let request : RawPacket :=
      { srcIp := "hmi", dstIp := "plc", srcPort := 40000, dstPort := 502 }
    let other : RawPacket :=
      { srcIp := "hmi", dstIp := "rtu", srcPort := 40001, dstPort := 20000 }
    let reply : RawPacket :=
      { timestamp := 7, srcIp := "plc", dstIp := "hmi", srcPort := 502
        dstPort := 40000 }
    ∀ result ∈ (FlowTable.machine.outputs {} [request, other, reply])[2]?,
      result.lastSeen = 7 := by
  intro request other reply result isResult
  rcases direction_decided_by_first_packet [request, other, reply] with
    ⟨_, directions, _⟩
  exact (directions 2 reply result rfl isResult).2.2

end Prism.Parser
