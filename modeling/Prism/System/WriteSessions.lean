import Prism.System.Defence
import Prism.System.Visibility

/-! # Sessions of writes

PRISM, the simulator's clients and servers, and the wire between them: from requests
that are no reads to the frame that engages the safety coil, which travels on the same
wire.
-/

namespace Prism.System

open Prism.Capture Prism.Enforcement Prism.Main Prism.Simulator Prism.Windowing

/-! ## The site -/

structure Site where
  components : Components := {}
  plc : Modbus.Server := {}
  /-- The requests that no server has read yet. -/
  waiting : List Message := []
  /-- All messages that have been sent. -/
  wire : List Message := []

inductive SiteEvent
  /-- Some client sends a request. -/
  | ask (message : Message)
  /-- A segment without data. -/
  | segment (srcPort dstPort : UInt16)
  /-- The request at this position among those that wait is read and answered. -/
  | serve (index : Nat)
  /-- A call of `nextPacket` returns. An attempt that comes of it is made from the
  port. -/
  | capture (outcome : CaptureOutcome) (port : UInt16)

def SiteEvent.outcome : SiteEvent → Option CaptureOutcome
  | .capture outcome _ => some outcome
  | _ => none

/-- The server at the port of a message, and what it writes back. -/
def serveMessage (server : Modbus.Server) (message : Message) :
    Modbus.Server × Option (List UInt8) :=
  if message.dstPort = 502 then server.serve message.data
  else if message.dstPort = 20000 then (server, some (DNP3.serve message.data).reply)
  else if message.dstPort = 2404 then (server, some (IEC104.serve message.data).reply)
  else (server, none)

namespace Site

def attemptsOf {Double : Type} (port : UInt16) (evaluation : Option (Evaluation Double)) :
    List Message :=
  (evaluation.map fun evaluated => (evaluated.sends.filter fun send =>
    !send.wire.isEmpty).map fun send => ⟨port, 502, send.wire⟩).getD []

variable {Double : Type} [DoubleArithmetic Double]

variable (Double) in
def step (environment : Environment) (site : Site) :
    SiteEvent → Site × Option (Evaluation Double)
  | .ask message =>
      ({ site with
          waiting := site.waiting ++ [message]
          wire := site.wire ++ [message] }, none)
  | .segment srcPort dstPort =>
      ({ site with wire := site.wire ++ [⟨srcPort, dstPort, []⟩] }, none)
  | .serve index =>
      match site.waiting[index]? with
      | none => (site, none)
      | some message =>
          let served := serveMessage site.plc message
          let replies := served.2.map fun reply => ⟨message.dstPort, message.srcPort, reply⟩
          ({ site with
              plc := served.1
              waiting := site.waiting.eraseIdx index
              wire := site.wire ++ replies.toList }, none)
  | .capture outcome port =>
      let next := (pipeline Double environment).passing.step site.components outcome.kept
      let attempts := attemptsOf port next.2
      ({ site with
          components := next.1
          waiting := site.waiting ++ attempts
          wire := site.wire ++ attempts }, next.2)

variable (Double) in
def machine (environment : Environment) :
    Machine Site SiteEvent (Option (Evaluation Double)) where
  step := step Double environment

/-! ## What PRISM makes of the captured messages -/

def captured (events : List SiteEvent) : List CaptureOutcome :=
  events.filterMap SiteEvent.outcome

variable (Double) in
def followsPipeline (environment : Environment) :
    Machine.Simulation (machine Double environment) (pipeline Double environment).passing
      (fun event => event.outcome.bind CaptureOutcome.kept) id where
  Related site components := site.components = components
  next := by
    intro site components related event
    rw [← related]
    cases event with
    | ask message => rfl
    | segment srcPort dstPort => rfl
    | serve index =>
        simp only [machine, step]
        split <;> rfl
    | capture outcome port => rfl
  output := by
    intro site components related event
    rw [← related]
    cases event with
    | ask message => rfl
    | segment srcPort dstPort => rfl
    | serve index =>
        simp only [machine, step]
        split <;> rfl
    | capture outcome port => rfl

theorem reduceOption_kept (events : List SiteEvent) :
    (events.map fun event => event.outcome.bind CaptureOutcome.kept).reduceOption =
      (captured events).filterMap CaptureOutcome.kept := by
  rw [captured, List.filterMap_filterMap]
  exact List.filterMap_map

/-- PRISM evaluates what `main` evaluates on the captured messages. -/
theorem evaluations_eq_pollLoop (environment : Environment) (server : Modbus.Server)
    (events : List SiteEvent) :
    ((machine Double environment).outputs { plc := server } events).reduceOption =
      pollLoop Double environment {} (captured events) := by
  have sameOutputs := (followsPipeline Double environment).outputs
    (rfl : ({ plc := server } : Site).components = {}) events
  rw [List.map_id] at sameOutputs
  rw [sameOutputs, Machine.outputs_passing, reduceOption_kept,
    pollLoop_eq_evaluations environment, evaluations]

theorem components_finalState (environment : Environment) (server : Modbus.Server)
    (events : List SiteEvent) :
    ((machine Double environment).finalState { plc := server } events).components =
      (pipeline Double environment).finalState {}
        ((captured events).filterMap CaptureOutcome.kept) := by
  have sameState := (followsPipeline Double environment).finalState
    (rfl : ({ plc := server } : Site).components = {}) events
  rw [Machine.finalState_passing, reduceOption_kept] at sameState
  exact sameState

end Site

/-! ## Messages without reads -/

/-- PRISM would count the request as a read. -/
def Exchange.isRead (exchange : Exchange) : Bool :=
  (recorded 0 false exchange.request).any fun record => !record.isWrite

/-- PRISM keeps nothing of the message, or a write. -/
def LeavesWrites (message : Message) : Prop :=
  ∀ record ∈ keptRecord message.packet, record.isWrite = true

/-- A request that PRISM does not count as a read. -/
inductive AsksNoRead : Message → Prop
  | exchange (exchange : Exchange) (notRead : exchange.isRead = false) :
      AsksNoRead ⟨exchange.clientPort, exchange.request.port, exchange.request.frame⟩

theorem Exchange.isWrite_of_mem_recorded {exchange : Exchange}
    (notRead : exchange.isRead = false) {isReply : Bool} {record : ParsedRecord}
    (isRecorded : record ∈ recorded 0 isReply exchange.request) :
    record.isWrite = true := by
  rcases exchange with ⟨request, clientPort, ephemeral⟩
  cases request with
  | modbus fn addr val =>
      cases isRecorded
      simpa [isRead, recorded] using notRead
  | dnp3 func => cases isRecorded
  | iec104 typeId ioa =>
      rw [recorded] at isRecorded
      split at isRecorded
      · cases isRecorded
      · rename_i typed
        cases isRecorded
        simpa [isRead, recorded, typed] using notRead

theorem serveMessage_exchange (server : Modbus.Server) (exchange : Exchange) :
    serveMessage server
        ⟨exchange.clientPort, exchange.request.port, exchange.request.frame⟩ =
      ((answer server exchange.request).1, some (answer server exchange.request).2) := by
  cases exchange.request with
  | modbus fn addr val =>
      have nonempty : Modbus.Client.requestFrame fn addr val ≠ [] := List.cons_ne_nil _ _
      change server.serve (Modbus.Client.requestFrame fn addr val) =
        ((server.serve (Modbus.Client.requestFrame fn addr val)).1,
          some ((server.serve (Modbus.Client.requestFrame fn addr val)).2.getD []))
      rw [server.serve_of_nonempty nonempty]
      rfl
  | dnp3 func => rfl
  | iec104 typeId ioa => rfl

namespace AsksNoRead

variable {message : Message}

theorem leavesWrites (asksNoRead : AsksNoRead message) : LeavesWrites message := by
  rcases asksNoRead with ⟨exchange, notRead⟩
  intro record isKept
  rw [exchange.keptRecord_asked] at isKept
  exact exchange.isWrite_of_mem_recorded notRead isKept

theorem leavesWrites_reply (asksNoRead : AsksNoRead message) {server : Modbus.Server}
    {reply : List UInt8} (isReply : reply ∈ (serveMessage server message).2) :
    LeavesWrites ⟨message.dstPort, message.srcPort, reply⟩ := by
  rcases asksNoRead with ⟨exchange, notRead⟩
  rw [serveMessage_exchange] at isReply
  cases isReply
  intro record isKept
  rw [exchange.keptRecord_answered] at isKept
  split at isKept
  · cases isKept
  · exact exchange.isWrite_of_mem_recorded notRead isKept

theorem engage {port : UInt16} (ephemeral : IsEphemeral port) :
    AsksNoRead ⟨port, 502, safetyCoilFrame 0xFF00⟩ :=
  .exchange ⟨.modbus 5 0xFFFF 0xFF00, port, ephemeral⟩ rfl

end AsksNoRead

/-! ## Runs without reads -/

/-- Every attempt puts the whole frame on the wire, or nothing. -/
def AllOrNothing (environment : Environment) : Prop :=
  ∀ attempt, let send := sendSafetyCoil (environment.answers attempt) 0xFF00
    send.sent = true ∨ send.wire = []

namespace Site

/-- Nobody asks for a read, and what PRISM captures has been sent before: late, early,
more than once or never. -/
inductive Allowed (capture : PcapCapture) (site : Site) : SiteEvent → Prop
  | ask {message : Message} (asksNoRead : AsksNoRead message) :
      Allowed capture site (.ask message)
  | segment (srcPort dstPort : UInt16) : Allowed capture site (.segment srcPort dstPort)
  | serve (index : Nat) : Allowed capture site (.serve index)
  | capture {outcome : CaptureOutcome} {port : UInt16} {yielded : Option Message}
      (yields : Yields capture outcome yielded)
      (sent : ∀ message ∈ yielded, message ∈ site.wire) (ephemeral : IsEphemeral port) :
      Allowed capture site (.capture outcome port)

structure WritesOnly (site : Site) : Prop where
  waiting : ∀ message ∈ site.waiting, AsksNoRead message
  wire : ∀ message ∈ site.wire, LeavesWrites message

variable {Double : Type} [DoubleArithmetic Double] {environment : Environment}

theorem eq_of_mem_attemptsOf (whole : AllOrNothing environment) {components : Components}
    {kept : Option ParsedRecord} {port : UInt16} {message : Message}
    (member : message ∈ attemptsOf port
      ((pipeline Double environment).passing.step components kept).2) :
    message = ⟨port, 502, safetyCoilFrame 0xFF00⟩ := by
  cases kept with
  | none => cases member
  | some record =>
      simp only [Machine.passing] at member
      rcases Plant.pipeline_cases Double environment components record with
        ⟨silent, _⟩ | ⟨evaluation, evaluated, _, sends, _⟩
      · rw [silent] at member
        cases member
      · rw [evaluated, attemptsOf, Option.map_some, Option.getD_some, List.mem_map]
          at member
        rcases member with ⟨send, inSends, rfl⟩
        rcases List.mem_filter.mp inSends with ⟨isSend, notEmpty⟩
        rw [sends] at isSend
        have isAttempt : send =
            sendSafetyCoil (environment.answers components.attempts) 0xFF00 := by
          rcases components.enforcer.apply_cases evaluation.decision
              (environment.answers components.attempts) with
            ⟨noSends, _⟩ | ⟨_, _, applied⟩ | ⟨_, _, applied⟩
          · rw [noSends] at isSend
            cases isSend
          · rw [applied] at isSend
            exact List.mem_singleton.mp isSend
          · rw [applied] at isSend
            exact List.mem_singleton.mp isSend
        rcases whole components.attempts with sent | nothing
        · rw [isAttempt, wire_of_sent sent]
        · rw [isAttempt, nothing] at notEmpty
          cases notEmpty

theorem writesOnly_step (whole : AllOrNothing environment) {capture : PcapCapture}
    (site : Site) (event : SiteEvent) (writesOnly : WritesOnly site)
    (allowed : Allowed capture site event) :
    WritesOnly ((machine Double environment).step site event).1 := by
  rcases writesOnly with ⟨waiting, wire⟩
  cases allowed with
  | @ask message asksNoRead =>
      constructor
      · exact List.forall_mem_append.mpr ⟨waiting, by simpa using asksNoRead⟩
      · exact List.forall_mem_append.mpr ⟨wire, by simpa using asksNoRead.leavesWrites⟩
  | segment srcPort dstPort =>
      have bare : LeavesWrites ⟨srcPort, dstPort, []⟩ := by
        intro record isKept
        rw [keptRecord_bare rfl] at isKept
        cases isKept
      exact ⟨waiting, List.forall_mem_append.mpr ⟨wire, by simpa using bare⟩⟩
  | serve index =>
      simp only [machine, step]
      cases isWaiting : site.waiting[index]? with
      | none => exact ⟨waiting, wire⟩
      | some message =>
          have asksNoRead := waiting message (List.mem_of_getElem? isWaiting)
          constructor
          · intro other member
            exact waiting other (List.mem_of_mem_eraseIdx member)
          · refine List.forall_mem_append.mpr ⟨wire, ?_⟩
            intro other member
            rw [Option.mem_toList, Option.map_eq_some_iff] at member
            rcases member with ⟨reply, isReply, rfl⟩
            exact asksNoRead.leavesWrites_reply isReply
  | @capture outcome port yielded yields sent ephemeral =>
      have attempts : ∀ message ∈ attemptsOf port ((pipeline Double
          environment).passing.step site.components outcome.kept).2,
          AsksNoRead message := by
        intro message member
        rw [eq_of_mem_attemptsOf whole member]
        exact .engage ephemeral
      constructor
      · exact List.forall_mem_append.mpr ⟨waiting, attempts⟩
      · exact List.forall_mem_append.mpr
          ⟨wire, fun message member => (attempts message member).leavesWrites⟩

theorem isWrite_of_mem_kept (whole : AllOrNothing environment) {capture : PcapCapture}
    {site : Site} (writesOnly : WritesOnly site) {events : List SiteEvent}
    (allowed : (machine Double environment).Along (Allowed capture) site events)
    {record : ParsedRecord}
    (member : record ∈ (captured events).filterMap CaptureOutcome.kept) :
    record.isWrite = true := by
  rcases List.mem_filterMap.mp member with ⟨outcome, isCaptured, isKept⟩
  rcases List.mem_filterMap.mp isCaptured with ⟨event, isEvent, isOutcome⟩
  rcases List.append_of_mem isEvent with ⟨before, after, split⟩
  have reached : WritesOnly ((machine Double environment).finalState site before) :=
    (machine Double environment).always_of_along (writesOnly_step whole) writesOnly
      allowed before ⟨event :: after, split.symm⟩
  cases event with
  | ask message => cases isOutcome
  | segment srcPort dstPort => cases isOutcome
  | serve index => cases isOutcome
  | capture outcome' port =>
      cases isOutcome
      cases allowed before _ after split with
      | @capture _ _ yielded yields sent _ =>
          have kept := yields.kept
          rw [isKept, Option.map_some] at kept
          rcases Option.bind_eq_some_iff.mp kept.symm with ⟨message, isYielded, isRecord⟩
          exact reached.wire message (sent message isYielded) (untimed record) isRecord

end Site

/-! ## What they lead to -/

theorem isWriteFlood_of_forall {window : Window}
    (writes : ∀ record ∈ window.records, record.isWrite = true) :
    IsWriteFlood window := by
  rw [IsWriteFlood, List.countP_eq_length.mpr writes]
  omega

theorem restricts_of_writes (environment : Environment) {records : List ParsedRecord}
    (writes : ∀ record ∈ records, record.isWrite = true)
    {evaluation : Evaluation ℝ}
    (member : evaluation ∈ evaluations ℝ environment {} records) :
    Attempting.restricts evaluation.decision = true := by
  have staged := (evaluations_staged ℝ environment {} records).2.1
  have isDecision : evaluation.decision ∈
      decisionsOn ℝ environment {} (evaluatedWindows {} records) := by
    rw [← staged]
    exact List.mem_map_of_mem member
  rcases List.mem_iff_getElem?.mp isDecision with ⟨index, atIndex⟩
  rw [decisionsOn, Machine.getElem?_outputs, List.getElem?_map,
    Option.map_map, Option.map_eq_some_iff] at atIndex
  rcases atIndex with ⟨window, isWindow, decided⟩
  rcases List.mem_filter.mp (List.mem_of_getElem? isWindow) with ⟨emitted, notEmpty⟩
  have flood : IsWriteFlood window := isWriteFlood_of_forall fun record inWindow =>
    writes record (WindowManager.mem_stream_of_mem_window (by decide) emitted inWindow)
  rw [← decided]
  exact evaluate_restricts_of_flood environment.orders (by simpa using notEmpty) flood _

theorem sends_of_flood {environment : Environment} (reachable : Reachable environment)
    {records : List ParsedRecord} {window : Window}
    (emitted : window ∈ WindowManager.emittedWindows (milliseconds 5000)
      (milliseconds 1000) records)
    (nonempty : window.records ≠ []) (flood : IsWriteFlood window) :
    (evaluations ℝ environment {} records).flatMap Evaluation.sends =
      [⟨true, safetyCoilFrame 0xFF00⟩] := by
  have evaluated : window ∈ evaluatedWindows {} records :=
    List.mem_filter.mpr ⟨emitted, by simpa using nonempty⟩
  have some := countP_restricts_pos environment {} evaluated nonempty flood
  rcases Nat.exists_eq_succ_of_ne_zero some.ne' with ⟨more, count⟩
  have sends := (sends_evaluations ℝ environment {} records rfl).1
  have attempt : sendSafetyCoil (environment.answers 0) 0xFF00 =
      ⟨true, safetyCoilFrame 0xFF00⟩ :=
    congrArg₂ Send.mk reachable (wire_of_sent reachable)
  rw [count, Attempting.attemptsFrom_succ, attempt, upToFirst, if_pos rfl] at sends
  exact sends

theorem flood_of_writes {records : List ParsedRecord}
    (writes : ∀ record ∈ records, record.isWrite = true) {first record : ParsedRecord}
    (isFirst : first ∈ records.head?) (member : record ∈ records)
    (late : first.timestamp + milliseconds 5000 ≤ record.timestamp) :
    ∃ window ∈ WindowManager.emittedWindows (milliseconds 5000) (milliseconds 1000)
      records, window.records ≠ [] ∧ IsWriteFlood window := by
  have windowPositive : 0 < milliseconds 5000 := by decide
  have stepNonneg : 0 ≤ milliseconds 1000 := by decide
  rcases WindowManager.first_window_emitted windowPositive stepNonneg isFirst member late
    with ⟨window, emitted, firstInWindow⟩
  refine ⟨window, emitted, List.ne_nil_of_mem firstInWindow, ?_⟩
  apply isWriteFlood_of_forall
  intro record inWindow
  exact writes record
    (WindowManager.mem_stream_of_mem_window stepNonneg emitted inWindow)

/-- Sessions of the clients with the servers in which nobody asks for a read, seen by
PRISM from the wire, on which its own frame to the PLC travels too. Clients, servers,
segments and captures come in any order, the PLC starts in any state, and what it
refuses follows from the commands it gets, PRISM's among them. All of PRISM's decisions
restrict writes. Once a kept record comes five seconds after the first one, and if the
first attempt reaches the PLC, the engine is locked whatever follows, and exactly one
frame is sent in the whole run, the one that engages the coil. -/
theorem write_session_engages_lock (environment : Environment)
    (whole : AllOrNothing environment) (capture : PcapCapture) (server : Modbus.Server)
    (events : List SiteEvent)
    (noReads : (Site.machine ℝ environment).Along (Site.Allowed capture)
      { plc := server } events) :
    let run := ((Site.machine ℝ environment).outputs { plc := server }
      events).reduceOption
    (∀ evaluation ∈ run, Attempting.restricts evaluation.decision = true) ∧
      ∀ (before after : List SiteEvent) (outcome : CaptureOutcome) (port : UInt16)
        (first record : ParsedRecord), Reachable environment →
        events = before ++ .capture outcome port :: after →
        first ∈ ((Site.captured before ++ [outcome]).filterMap
          CaptureOutcome.kept).head? →
        record ∈ outcome.kept →
        first.timestamp + milliseconds 5000 ≤ record.timestamp →
        run.flatMap Evaluation.sends = [⟨true, safetyCoilFrame 0xFF00⟩] ∧
          ∀ later, ((Site.machine ℝ environment).finalState { plc := server }
            (before ++ .capture outcome port :: later)).components.enforcer.locked =
              true := by
  intro run
  have initially : Site.WritesOnly { plc := server } := by
    constructor
    · intro message member
      cases member
    · intro message member
      cases member
  have writes : ∀ record ∈ (Site.captured events).filterMap CaptureOutcome.kept,
      record.isWrite = true :=
    fun record member => Site.isWrite_of_mem_kept whole initially noReads member
  have isRun : run = evaluations ℝ environment {}
      ((Site.captured events).filterMap CaptureOutcome.kept) :=
    (Site.evaluations_eq_pollLoop environment server events).trans
      (pollLoop_eq_evaluations environment _)
  rw [isRun]
  refine ⟨fun evaluation member => restricts_of_writes environment writes member, ?_⟩
  intro before after outcome port first record reachable split isFirst isKept late
  let start := (Site.captured before ++ [outcome]).filterMap CaptureOutcome.kept
  have goesOn : ∀ later, (Site.captured
      (before ++ .capture outcome port :: later)).filterMap CaptureOutcome.kept =
        start ++ (Site.captured later).filterMap CaptureOutcome.kept := by
    intro later
    have isCaptured : Site.captured (before ++ .capture outcome port :: later) =
        Site.captured before ++ [outcome] ++ Site.captured later := by
      rw [Site.captured, List.filterMap_append, List.append_assoc]
      rfl
    rw [isCaptured, List.filterMap_append]
  have isLate : record ∈ start := by
    apply List.mem_filterMap.mpr
    exact ⟨outcome, List.mem_append_right _ (List.mem_singleton_self _), isKept⟩
  rw [split, goesOn] at writes ⊢
  constructor
  · have firstOfAll : first ∈
        (start ++ (Site.captured after).filterMap CaptureOutcome.kept).head? :=
      List.mem_head?_append_of_mem_head? isFirst
    rcases flood_of_writes writes firstOfAll (List.mem_append_left _ isLate) late with
      ⟨window, emitted, nonempty, flood⟩
    exact sends_of_flood reachable emitted nonempty flood
  · intro later
    have writesSoFar : ∀ record ∈ start, record.isWrite = true :=
      fun record member => writes record (List.mem_append_left _ member)
    rcases flood_of_writes writesSoFar isFirst isLate late with
      ⟨window, emitted, nonempty, flood⟩
    rw [Site.components_finalState, goesOn]
    exact locked_append (locked_of_flood reachable emitted nonempty flood).1 _

/-- Two writes five seconds apart. The second one is captured before the PLC reads it,
which reads the frame that PRISM sends thereupon first, and refuses the write. -/
theorem refused_writes_engage_lock :
    let environment : Environment := ⟨.byInsertion, fun _ => .reachable⟩
    let asked : Message := ⟨40000, 502, oneWrite.request.frame⟩
    let segment := segmentTo 502 oneWrite.request.frame
    let events : List SiteEvent :=
      [.ask asked, .capture (captureAt 0 segment) 50000, .serve 0, .ask asked,
        .capture (captureAt (milliseconds 5000) segment) 50000, .serve 1, .serve 0]
    (((Site.machine ℝ environment).outputs {} events).reduceOption).flatMap
      Evaluation.sends = [⟨true, safetyCoilFrame 0xFF00⟩] := by
  intro environment asked segment events
  have reachable : Reachable environment := by simp [Reachable, environment]
  have whole : AllOrNothing environment := fun attempt => .inl (by simp [environment])
  have asks : AsksNoRead asked := .exchange oneWrite rfl
  have noReads : (Site.machine ℝ environment).Along (Site.Allowed {})
      { plc := {} } events := by
    simp only [events, Machine.along_cons]
    refine ⟨.ask asks, .capture (yields_captureAt 0 (by decide)) ?_ (by decide),
      .serve 0, .ask asks, .capture (yields_captureAt _ (by decide)) ?_ (by decide),
      .serve 1, .serve 0, Machine.along_nil _ _ _⟩
    · intro message member
      cases member
      exact List.mem_singleton_self _
    · intro message member
      cases member
      exact List.mem_append_right _ (List.mem_singleton_self _)
  let record (now : Timestamp) : ParsedRecord :=
    { timestamp := now, protocol := "Modbus", isRequest := true, isWrite := true
      functionCode := 6, address := 16 }
  exact ((write_session_engages_lock environment whole {} {} events noReads).2
    [.ask asked, .capture (captureAt 0 segment) 50000, .serve 0, .ask asked]
    [.serve 1, .serve 0] (captureAt (milliseconds 5000) segment) 50000 (record 0)
    (record (milliseconds 5000)) reachable rfl (by decide +kernel) (by decide +kernel)
    (by decide)).1

end Prism.System
