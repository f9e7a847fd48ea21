import Prism.Detection.ExactScores
import Prism.Foundation.SteadyStreams
import Prism.Main.QuietRuns
import Prism.Risk.Hysteresis
import Prism.Windowing.Coverage

/-! # Regular polling

A client polls one device at a steady pace and every reply follows its request. No
record is a write, so it is left to the burst detector whether an alert is raised:
the gaps before and after the replies alternate, and their variance grows with the
difference between them.
-/

namespace Prism.System

open Prism.Detection Prism.Features Prism.Main Prism.Risk Prism.SlidingWindow
  Prism.Windowing

/-! ## The stream -/

/-- The period of a client that reads, the latency of the replies, and the request
and the reply as they are recorded, apart from their times. -/
structure Poll where
  period : Duration
  latency : Duration
  request : ParsedRecord
  reply : ParsedRecord
  latencyPositive : 0 < latency
  latencyShort : latency < period
  requestReads : request.isWrite = false
  replyReads : reply.isWrite = false

namespace Poll

/-- The records of the first polls, the first of which is sent at time zero. -/
def records (poll : Poll) (polls : Nat) : List ParsedRecord :=
  (List.range polls).flatMap fun (k : Nat) =>
    [{ poll.request with timestamp := k * poll.period },
      { poll.reply with timestamp := k * poll.period + poll.latency }]

/-- The time of the record at an index; requests have even indexes. -/
def timeAt (poll : Poll) (index : Nat) : Timestamp :=
  (index / 2 : Nat) * poll.period + if index % 2 = 0 then 0 else poll.latency

def recordAt (poll : Poll) (index : Nat) : ParsedRecord :=
  if index % 2 = 0 then { poll.request with timestamp := poll.timeAt index }
  else { poll.reply with timestamp := poll.timeAt index }

def gapAt (poll : Poll) (index : Nat) : Duration :=
  if index % 2 = 0 then poll.latency else poll.period - poll.latency

variable (poll : Poll)

@[simp] theorem timestamp_recordAt (index : Nat) :
    (poll.recordAt index).timestamp = poll.timeAt index := by
  unfold recordAt
  split <;> rfl

theorem isWrite_recordAt (index : Nat) : (poll.recordAt index).isWrite = false := by
  unfold recordAt
  split
  · exact poll.requestReads
  · exact poll.replyReads

theorem records_eq (polls : Nat) :
    poll.records polls = (List.range (2 * polls)).map poll.recordAt := by
  induction polls with
  | zero => rfl
  | succ polls induction =>
      have doubled : 2 * (polls + 1) = 2 * polls + 1 + 1 := by ring
      have isEven : 2 * polls % 2 = 0 := by omega
      have half : 2 * polls / 2 = polls := by omega
      have halfNext : (2 * polls + 1) / 2 = polls := by omega
      rw [doubled, List.range_succ, List.range_succ, List.map_append, List.map_append,
        ← induction, records, List.range_succ, List.flatMap_append]
      simp [records, recordAt, timeAt, isEven, half, halfNext]

theorem timeAt_succ (index : Nat) :
    poll.timeAt (index + 1) = poll.timeAt index + poll.gapAt index := by
  rcases Nat.mod_two_eq_zero_or_one index with isEven | isOdd
  · have next : (index + 1) % 2 = 1 := by omega
    have half : (index + 1) / 2 = index / 2 := by omega
    simp [timeAt, gapAt, isEven, next, half]
  · have next : (index + 1) % 2 = 0 := by omega
    have half : (index + 1) / 2 = index / 2 + 1 := by omega
    simp only [timeAt, gapAt, isOdd, next, half]
    push_cast
    ring

theorem gapAt_pos (index : Nat) : 0 < poll.gapAt index := by
  unfold gapAt
  split
  · exact poll.latencyPositive
  · exact Int.sub_pos.mpr poll.latencyShort

theorem timeAt_strictMono : StrictMono poll.timeAt := by
  apply strictMono_nat_of_lt_succ
  intro index
  rw [timeAt_succ]
  exact lt_add_of_pos_right _ (poll.gapAt_pos index)

/-! ## The gaps of a window -/

theorem gaps_recordAt (first count : Nat) :
    FeatureExtractor.gaps ((List.range' first count).map poll.recordAt) =
      (List.range' first (count - 1)).map poll.gapAt := by
  induction count generalizing first with
  | zero => rfl
  | succ count induction =>
      cases count with
      | zero => rfl
      | succ count =>
          have next := induction (first + 1)
          simp only [List.range'_succ, List.map_cons, Nat.add_sub_cancel] at next ⊢
          rw [FeatureExtractor.gaps_cons_cons, next, timestamp_recordAt,
            timestamp_recordAt, timeAt_succ, add_sub_cancel_left]

/-- The variance of the gaps between this many consecutive records, in square
seconds: they alternate between the latency and the rest of the period. -/
noncomputable def gapVariance (count : Nat) : ℝ :=
  (((count - 1 : Nat) : ℝ) ^ 2 - ((count - 1) % 2 : Nat)) *
      ((poll.period - 2 * poll.latency : Int) : ℝ) ^ 2 /
    (4 * (1000000000 ^ 2 * ((count - 1 : Nat) : ℝ) ^ 2))

theorem currentVariance_recordAt (first count : Nat) :
    BurstDetector.currentVariance ((List.range' first count).map poll.recordAt) =
      poll.gapVariance count := by
  have alternating : 4 * Statistics.spread ((List.range' first (count - 1)).map
      poll.gapAt) = _ :=
    Statistics.four_mul_spread_alternating poll.latency
      (poll.period - poll.latency) first (count - 1)
  rw [BurstDetector.currentVariance_eq, gaps_recordAt, gapVariance, List.length_map,
    List.length_range', ← mul_div_mul_left _ _ (four_ne_zero' ℝ)]
  generalize (count - 1) % 2 = parity at alternating ⊢
  have cast := congrArg (Int.cast : Int → ℝ) alternating
  push_cast at cast ⊢
  rw [cast]
  ring

/-! ## The windows of the stream -/

def schedule : Schedule Timestamp where
  origin := 0
  size := milliseconds 5000
  step := milliseconds 1000

def heldCount (polls index : Nat) : Nat :=
  (List.range (2 * polls)).countP fun record =>
    decide (index * milliseconds 1000 ≤ poll.timeAt record) &&
      decide (poll.timeAt record ≤ milliseconds 5000 + index * milliseconds 1000)

/-- The window is emitted in the course of these polls: for every window up to it
there are enough records at or after its end to trigger those that follow. -/
def IsDue (polls index : Nat) : Prop :=
  ∀ earlier ≤ index,
    index - earlier < (List.range (2 * polls)).countP fun record =>
      decide (milliseconds 5000 + earlier * milliseconds 1000 ≤ poll.timeAt record)

instance (polls index : Nat) : Decidable (poll.IsDue polls index) :=
  Nat.decidableBallLE _ _

theorem timestamp_eq_timeAt (index : Nat) :
    timestamp (poll.recordAt index) = poll.timeAt index :=
  poll.timestamp_recordAt index

theorem startsAt_records (polls : Nat) :
    StartsAt timestamp schedule.origin (poll.records polls) := by
  intro first isFirst
  cases polls with
  | zero => cases isFirst
  | succ polls =>
      rw [records_eq, Nat.mul_succ, List.range_succ_eq_map, List.map_cons,
        List.head?_cons, Option.mem_some_iff] at isFirst
      rw [← isFirst, timestamp_eq_timeAt]
      simp [timeAt, schedule]

theorem strict_records (polls : Nat) :
    (poll.records polls).Pairwise fun earlier later =>
      timestamp earlier < timestamp later := by
  rw [records_eq, List.pairwise_map]
  refine List.pairwise_lt_range.imp ?_
  intro earlier later lt
  rw [timestamp_eq_timeAt, timestamp_eq_timeAt]
  exact poll.timeAt_strictMono lt

theorem filter_range_of_convex {holds : Nat → Bool}
    (convex : ∀ first middle last, first ≤ middle → middle ≤ last →
      holds first = true → holds last = true → holds middle = true) (bound : Nat) :
    ∃ first, (List.range bound).filter holds =
      List.range' first ((List.range bound).countP holds) := by
  induction bound with
  | zero => exact ⟨0, rfl⟩
  | succ bound induction =>
      rcases induction with ⟨first, isRange⟩
      rw [List.range_succ, List.filter_append, List.countP_append, isRange]
      cases last : holds bound with
      | false => exact ⟨first, by simp [last]⟩
      | true =>
          have added : [bound].filter holds = [bound] := by simp [last]
          have counted : [bound].countP holds = 1 := by simp [last]
          have memberIff : ∀ index, index ∈ (List.range bound).filter holds ↔ _ :=
            fun index => List.mem_filter
          rw [isRange] at memberIff
          rw [added, counted]
          cases total : (List.range bound).countP holds with
          | zero => exact ⟨bound, rfl⟩
          | succ count =>
              -- the last index so far and the new one close the gap between them
              simp only [total, List.mem_range'_1, List.mem_range] at memberIff
              have newest := (memberIff (first + count)).mp (by omega)
              have between := convex (first + count) (bound - 1) bound (by omega)
                (by omega) newest.2 last
              have inRange := (memberIff (bound - 1)).mpr ⟨by omega, between⟩
              have next : bound = first + (count + 1) := by omega
              exact ⟨first, by rw [next, ← List.range'_1_concat]⟩

theorem exists_snapshot_eq (polls index : Nat) :
    ∃ first, schedule.snapshot timestamp (poll.records polls) index =
      (List.range' first (poll.heldCount polls index)).map poll.recordAt := by
  let holds := fun record : Nat =>
    decide (schedule.Covers index (timestamp (poll.recordAt record)))
  have sameHolds : holds = fun record =>
      decide (index * milliseconds 1000 ≤ poll.timeAt record) &&
        decide (poll.timeAt record ≤ milliseconds 5000 + index * milliseconds 1000) := by
    funext record
    simp only [holds, Schedule.decide_covers, timestamp_eq_timeAt, Schedule.start,
      Schedule.finish, schedule, zero_add, nsmul_eq_mul]
  have convex : ∀ first middle last, first ≤ middle → middle ≤ last →
      holds first = true → holds last = true → holds middle = true := by
    intro first middle last firstLe leLast inFirst inLast
    simp only [holds, timestamp_eq_timeAt, decide_eq_true_eq] at inFirst inLast ⊢
    exact ⟨inFirst.1.trans (poll.timeAt_strictMono.monotone firstLe),
      (poll.timeAt_strictMono.monotone leLast).trans inLast.2⟩
  rcases filter_range_of_convex convex (2 * polls) with ⟨first, isRange⟩
  refine ⟨first, ?_⟩
  rw [heldCount, ← sameHolds, ← isRange, records_eq, Schedule.snapshot, List.filter_map]
  rfl

theorem isTriggered_records_iff (polls index : Nat) :
    IsTriggered timestamp schedule (poll.records polls) index ↔
      poll.IsDue polls index := by
  refine forall₂_congr ?_
  intro earlier _
  simp only [reaching, records_eq, List.countP_map, Function.comp_def,
    timestamp_eq_timeAt, Schedule.finish, schedule, zero_add, nsmul_eq_mul]

end Poll

/-! ## Windows without writes -/

/-- The variance of the gaps, in square seconds, from which on the burst detector
alone raises an alert. -/
noncomputable def alarmVariance : ℝ := 0.0025 + 0.51 * (1 + 0.5 * Real.log (0.7 / 0.3))

theorem alarmVariance_eq :
    alarmVariance = 1 / 400 + 51 / 1000 * (10 * (1 + Real.log (7 / 3) / 2)) := by
  have odds : (0.7 / 0.3 : ℝ) = 7 / 3 := by norm_num
  rw [alarmVariance, odds]
  ring

theorem alarmVariance_pos : 0 < alarmVariance := by
  have log := Real.log_nonneg (show (1 : ℝ) ≤ 7 / 3 by norm_num)
  rw [alarmVariance_eq]
  linarith

theorem sigmoid_hstScore_lt (orders : VisitOrders) {window : Window}
    (reads : ∀ record ∈ window.records, record.isWrite = false) :
    RiskModel.sigmoid ((detect orders window : DetectionResult ℝ).hstScore / 10) <
      RiskModel.tauOn := by
  have noWrite : HalfSpaceTrees.writeRatio window.records = 0 := by
    have none : window.records.countP ParsedRecord.isWrite = 0 := by
      rw [List.countP_eq_zero]
      intro record member
      simp [reads record member]
    rw [HalfSpaceTrees.writeRatio, none]
    simp
  have funcRisk := HalfSpaceTrees.funcConc_le_one orders window.records
  have low : (detect orders window : DetectionResult ℝ).hstScore / 10 ≤ 1 := by
    change HalfSpaceTrees.score _ / 10 ≤ 1
    rw [HalfSpaceTrees.score_compute, noWrite]
    linarith
  refine ((RiskModel.sigmoid_le_tauOff_iff _).mpr low).trans_lt ?_
  exact RiskModel.thresholds.lower_lt_upper

theorem not_isAlarming_iff (environment : Environment) {window : Window}
    (reads : ∀ record ∈ window.records, record.isWrite = false) :
    ¬IsAlarming ℝ environment window ↔
      BurstDetector.currentVariance window.records < alarmVariance := by
  by_cases empty : window.records = []
  · refine iff_of_true (fun alarming => alarming.1 empty) ?_
    rw [empty, BurstDetector.currentVariance_eq]
    simpa using alarmVariance_pos
  · have log := Real.log_nonneg (show (1 : ℝ) ≤ 7 / 3 by norm_num)
    have hst := sigmoid_hstScore_lt environment.orders reads
    have burst := BurstDetector.le_score_compute_iff environment.orders window
      (show 10 ≤ 10 * (1 + Real.log (7 / 3) / 2) by linarith)
    rw [IsAlarming, and_iff_right empty, RiskModel.pMax_real, le_max_iff,
      or_iff_right (not_le.mpr hst), RiskModel.tauOn_le_sigmoid_iff,
      le_div_iff₀ (by norm_num), mul_comm]
    change ¬10 * _ ≤ BurstDetector.score _ ↔ _
    rw [burst, not_le, alarmVariance_eq]

namespace Poll

variable (poll : Poll)

def windowsOf (polls : Nat) : List Window :=
  WindowManager.emittedWindows (milliseconds 5000) (milliseconds 1000)
    (poll.records polls)

theorem lt_length_windowsOf_iff (polls index : Nat) :
    index < (poll.windowsOf polls).length ↔ poll.IsDue polls index := by
  have emitted := lt_length_windows_iff (poll.startsAt_records polls)
    (by decide : 0 ≤ schedule.step) index
  rw [accepted_of_inOrder (inOrder_of_strict (poll.strict_records polls)),
    isTriggered_records_iff] at emitted
  rw [← emitted]
  change _ ↔ index < (emissions timestamp _ _ _).length
  rw [← WindowManager.map_emittedWindows _ (by decide), List.length_map]
  rfl

theorem alarming_window_iff {polls index : Nat} {window : Window}
    (isWindow : (poll.windowsOf polls)[index]? = some window)
    (environment : Environment) :
    ¬IsAlarming ℝ environment window ↔
      poll.gapVariance (poll.heldCount polls index) < alarmVariance := by
  have records := records_of_strict (poll.startsAt_records polls)
    (by decide : 0 ≤ schedule.size) (poll.strict_records polls)
    (WindowManager.getElem?_windows (by decide) isWindow)
  rcases poll.exists_snapshot_eq polls index with ⟨first, isRange⟩
  have consecutive : window.records =
      (List.range' first (poll.heldCount polls index)).map poll.recordAt :=
    records.trans isRange
  have reads : ∀ record ∈ window.records, record.isWrite = false := by
    rw [consecutive, List.forall_mem_map]
    intro index _
    exact poll.isWrite_recordAt index
  rw [not_isAlarming_iff environment reads, consecutive, currentVariance_recordAt]

theorem staysQuiet_records_iff (polls : Nat) (environment : Environment) :
    StaysQuiet ℝ environment {} (poll.records polls) ↔
      ∀ window ∈ poll.windowsOf polls, ¬IsAlarming ℝ environment window :=
  staysQuiet_iff environment rfl (poll.records polls)

theorem gapVariance_lt_of_staysQuiet {polls : Nat} {environment : Environment}
    (quiet : StaysQuiet ℝ environment {} (poll.records polls)) {index : Nat}
    (due : poll.IsDue polls index) :
    poll.gapVariance (poll.heldCount polls index) < alarmVariance := by
  have inRange := (poll.lt_length_windowsOf_iff polls index).mpr due
  have isWindow := List.getElem?_eq_getElem inRange
  have notAlarming := (poll.staysQuiet_records_iff polls environment).mp quiet _
    (List.mem_of_getElem? isWindow)
  exact (poll.alarming_window_iff isWindow environment).mp notAlarming

theorem staysQuiet_of_gapVariance_lt {polls : Nat} (environment : Environment)
    (small : ∀ index, poll.IsDue polls index →
      poll.gapVariance (poll.heldCount polls index) < alarmVariance) :
    StaysQuiet ℝ environment {} (poll.records polls) := by
  refine (poll.staysQuiet_records_iff polls environment).mpr ?_
  intro window member
  rcases List.mem_iff_getElem?.mp member with ⟨index, isWindow⟩
  have inRange := (List.getElem?_eq_some_iff.mp isWindow).1
  have due := (poll.lt_length_windowsOf_iff polls index).mp inRange
  exact (poll.alarming_window_iff isWindow environment).mpr (small index due)

/-- The pipeline evaluates no window of the polls to a High decision, and requests
no write-lock, if and only if the gaps in each window that is emitted vary less
than it takes to alarm the burst detector. -/
theorem stays_quiet_iff (polls : Nat) (environment : Environment) :
    StaysQuiet ℝ environment {} (poll.records polls) ↔
      ∀ index, poll.IsDue polls index →
        poll.gapVariance (poll.heldCount polls index) < alarmVariance := by
  constructor
  · intro quiet index due
    exact poll.gapVariance_lt_of_staysQuiet quiet due
  · exact poll.staysQuiet_of_gapVariance_lt environment

theorem gapVariance_le (count : Nat) :
    poll.gapVariance count ≤
      ((poll.period - 2 * poll.latency : Int) : ℝ) ^ 2 / (4 * 1000000000 ^ 2) := by
  rw [gapVariance]
  generalize ((poll.period - 2 * poll.latency : Int) : ℝ) = difference
  rcases Nat.eq_zero_or_pos (count - 1) with none | some
  · rw [none]
    simp only [Nat.cast_zero, ne_eq, OfNat.ofNat_ne_zero, not_false_eq_true, zero_pow,
      mul_zero, div_zero]
    positivity
  · have positive : 0 < ((count - 1 : Nat) : ℝ) := Nat.cast_pos.mpr some
    have leftOver : (0 : ℝ) ≤ ((count - 1) % 2 : Nat) := Nat.cast_nonneg _
    rw [div_le_div_iff₀ (by positivity) (by norm_num)]
    have share := mul_nonneg leftOver (sq_nonneg difference)
    linarith

/-- Polling whose gaps are alike is quiet, however long it goes on. -/
theorem staysQuiet_of_balanced (polls : Nat) (environment : Environment)
    (balanced : ((poll.period - 2 * poll.latency : Int) : ℝ) ^ 2 <
      4 * 1000000000 ^ 2 * alarmVariance) :
    StaysQuiet ℝ environment {} (poll.records polls) := by
  apply poll.staysQuiet_of_gapVariance_lt environment
  intro index _
  refine (poll.gapVariance_le _).trans_lt ?_
  rw [div_lt_iff₀ (by norm_num)]
  linarith

/-- Reads every two seconds that are answered within a millisecond. -/
def everyTwoSeconds : Poll where
  period := milliseconds 2000
  latency := milliseconds 1
  request := { protocol := "Modbus", functionCode := 3, address := 10 }
  reply := { protocol := "Modbus", functionCode := 3, isRequest := false }
  latencyPositive := by decide
  latencyShort := by decide
  requestReads := rfl
  replyReads := rfl

theorem alarmVariance_lt : alarmVariance < 9 / 10 := by
  have log := Real.log_le_sub_one_of_pos (show (0 : ℝ) < 7 / 3 by norm_num)
  rw [alarmVariance_eq]
  linarith

/-- The first window of such a client raises an alert. -/
theorem slow_polling_raises_alert :
    ¬∀ (poll : Poll) (polls : Nat) (environment : Environment),
      milliseconds 1000 ≤ poll.period →
        StaysQuiet ℝ environment {} (poll.records polls) := by
  intro everywhere
  let environment : Environment := ⟨.byInsertion, fun _ => .reachable⟩
  have quiet := everywhere everyTwoSeconds 4 environment (by decide)
  have due : everyTwoSeconds.IsDue 4 0 := by decide
  have held : everyTwoSeconds.heldCount 4 0 = 6 := by decide
  have small := everyTwoSeconds.gapVariance_lt_of_staysQuiet quiet due
  rw [held] at small
  have large : 9 / 10 < everyTwoSeconds.gapVariance 6 := by
    norm_num [gapVariance, everyTwoSeconds, milliseconds]
  linarith [alarmVariance_lt]

end Poll

end Prism.System
