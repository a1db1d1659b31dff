import NetSrvMgr.LastWrite
import NetSrvMgr.MocaReport
import NetSrvMgr.Transition

namespace NetSrvMgr.Moca
open CString LastWrite Transition
set_option autoImplicit true

/-- What the handler of the bus is called with. -/
inductive MocaEvent
  | telemetryLog (param : Bool)
  | telemetryLogDuration (param : BitVec 32)
  | other

/-- What the RMH library calls `eventCallback` with. -/
inductive RmhEvent
  | linkStatusChanged (status : BitVec 32)
  | mocaVersionChanged (version : CStr)
  | other

def eventCallback : RmhEvent → List LogLine
  | .linkStatusChanged status =>
    [.info ("MoCA Link status changed to ".toList ++ printD status),
      .info ("TELEMETRY_MOCA_LINK_STATUS_CHANGED:".toList ++ printD status)]
  | .mocaVersionChanged version =>
    [.info ("MoCA version changed to ".toList ++ version),
      .info ("TELEMETRY_MOCA_VERSION_CHANGED:".toList ++ version)]
  | .other => [.err "MoCA Event Not Supported".toList]

/-- What the telemetry thread does next: the report before its loop; then in the loop the look at
`mocaLogEnable`, the report, and the call of `sleep`, which goes on for some seconds. -/
inductive Phase
  | start
  | check
  | print
  | sleep
  | asleep (seconds : Nat)

/-- What has happened, with the lines that were written. -/
inductive Entry
  | enable (mocaLogEnable : Bool)
  | duration (mocaLogDuration : BitVec 32)
  | report (r : Rmh) (lines : List LogLine)
  | pause (seconds : BitVec 32)
  | second
  | other (lines : List LogLine)

structure Telemetry where
  mocaLogEnable : Bool
  mocaLogDuration : BitVec 32
  bFirst : Bool
  phase : Phase
  history : List Entry

def Telemetry.init : Telemetry where
  mocaLogEnable := true
  mocaLogDuration := 3600#32
  bFirst := true
  phase := .start
  history := []

def Telemetry.mocaEventHandler (s : Telemetry) (owner : CStr) (event : MocaEvent) : Telemetry :=
  if owner = "NET_SRV_MGR".toList then
    match event with
    | .telemetryLog param =>
      { s with mocaLogEnable := param, history := s.history ++ [.enable param] }
    | .telemetryLogDuration param =>
      { s with mocaLogDuration := param, history := s.history ++ [.duration param] }
    | .other => s
  else s

def Telemetry.mocaTelemetryLogEnable (s : Telemetry) : Bool × Telemetry :=
  (s.mocaLogEnable,
    { s with history := s.history ++
        [.other [.info ("get event to get status of telemetry log enable ".toList ++
          printD (if s.mocaLogEnable then 1#32 else 0#32))]] })

def Telemetry.mocaTelemetryLogDuration (s : Telemetry) : BitVec 32 × Telemetry :=
  (s.mocaLogDuration,
    { s with history := s.history ++
        [.other [.info ("get venent to get the moca log duration set ".toList ++
          printD s.mocaLogDuration)]] })

def Telemetry.report (abi : Abi) (s : Telemetry) (r : Rmh) (phase : Phase) : Telemetry :=
  let q := printMocaTelemetry abi s.bFirst r
  { s with bFirst := q.1, phase, history := s.history ++ [.report r q.2] }

def Telemetry.pause (s : Telemetry) (seconds : BitVec 32) : Telemetry :=
  { s with phase := .asleep seconds.toNat, history := s.history ++ [.pause seconds] }

/-- One step of the thread, unless it sleeps. -/
def Telemetry.mocaTelemetryThrd (abi : Abi) (s : Telemetry) (r : Rmh) : Option Telemetry :=
  match s.phase with
  | .start => some (s.report abi r .check)
  | .check => some (if s.mocaLogEnable then { s with phase := .print } else s.pause 300#32)
  | .print => some (s.report abi r .sleep)
  | .sleep => some (s.pause s.mocaLogDuration)
  | .asleep 0 => some { s with phase := .check }
  | .asleep (_ + 1) => none

def Phase.second : Phase → Phase
  | .asleep (seconds + 1) => .asleep seconds
  | phase => phase

/-- What can happen, in any order. -/
inductive Happening
  | event (owner : CStr) (event : MocaEvent)
  | getTelemetryLogStatus
  | getTelemetryLogDuration
  | rmh (event : RmhEvent)
  | second
  | thread (r : Rmh)

def Telemetry.step (abi : Abi) (s : Telemetry) : Happening → Option Telemetry
  | .event owner event => some (s.mocaEventHandler owner event)
  | .getTelemetryLogStatus => some s.mocaTelemetryLogEnable.2
  | .getTelemetryLogDuration => some s.mocaTelemetryLogDuration.2
  | .rmh event => some { s with history := s.history ++ [.other (eventCallback event)] }
  | .second => some { s with phase := s.phase.second, history := s.history ++ [.second] }
  | .thread r => s.mocaTelemetryThrd abi r

/-- The lines in the log. -/
def Entry.lines : Entry → List LogLine
  | .enable mocaLogEnable =>
    [.info ("got event IARM_BUS_NETWORK_MANAGER_MOCA_TELEMETRY_LOG ".toList ++
      printD (if mocaLogEnable then 1#32 else 0#32))]
  | .duration mocaLogDuration =>
    [.info ("got event IARM_BUS_NETWORK_MANAGER_MOCA_TELEMETRY_LOG_DURATION ".toList ++
      printD mocaLogDuration)]
  | .report _ lines => lines
  | .pause _ => []
  | .second => []
  | .other lines => lines

def Entry.isReport : Entry → Bool
  | .report _ _ => true
  | _ => false

/-- A report while the link was up. -/
def Entry.linkUp (abi : Abi) : Entry → Bool
  | .report r _ => r.linkStatus == some abi.linkStatusUp
  | _ => false

def Entry.answered (abi : Abi) (m : Measure) : Entry → List (List CStr)
  | .report r _ => Moca.answered abi r m
  | _ => []

def Entry.setsEnable : Entry → Option Bool
  | .enable mocaLogEnable => some mocaLogEnable
  | _ => none

def Entry.setsDuration : Entry → Option (BitVec 32)
  | .duration mocaLogDuration => some mocaLogDuration
  | _ => none

def Entry.isSecond : Entry → Bool
  | .second => true
  | _ => false

def enableIn (history : List Entry) : Bool := lastWrite Entry.setsEnable history true

def durationIn (history : List Entry) : BitVec 32 :=
  lastWrite Entry.setsDuration history 3600#32

/-- The seconds that have passed. -/
def seconds (history : List Entry) : Nat := history.countP Entry.isSecond

/-- After `before`, the thread has begun to sleep for the duration in force, and but for some
seconds that time is over. -/
def Slept (before : List Entry) (after : List Entry) (left : Nat) : Prop :=
  ∃ awake asleep, after = awake ++ .pause (durationIn (before ++ awake)) :: asleep ∧
    (durationIn (before ++ awake)).toNat ≤ seconds asleep + left

/-- The thread has slept, and then logging was enabled at some moment. -/
def Rested (before : List Entry) (after : List Entry) : Prop :=
  ∃ slept rest, after = slept ++ rest ∧ Slept before slept 0 ∧ enableIn (before ++ slept) = true

/-- What is true of the thread when its last report came after `before`. -/
def Phase.Due (before after : List Entry) : Phase → Prop
  | .start => False
  | .check => Slept before after 0
  | .print => Rested before after
  | .sleep => True
  | .asleep left => Slept before after left

/-- A report gives the status of the link and the version in the first report while the link is
up, and from the second report on, each comes when the pause after the one before is over; and
nothing else looks like a summary. -/
def Allowed (abi : Abi) (before : List Entry) : Entry → Prop
  | .report r lines =>
    lines = (printMocaTelemetry abi (!before.any (Entry.linkUp abi)) r).2 ∧
      ∀ earlier r' lines' later, before = earlier ++ .report r' lines' :: later →
        earlier.any Entry.isReport = true → Rested (earlier ++ [.report r' lines']) later
  | .other lines => ∀ m ∈ measures, lines.filterMap (readSummary m) = []
  | _ => True

structure Paced (abi : Abi) (s : Telemetry) : Prop where
  enable : s.mocaLogEnable = enableIn s.history
  duration : s.mocaLogDuration = durationIn s.history
  bFirst : s.bFirst = !s.history.any (Entry.linkUp abi)
  start : s.phase = .start → s.history.any Entry.isReport = false
  due : ∀ earlier r lines later, s.history = earlier ++ .report r lines :: later →
    earlier.any Entry.isReport = true → s.phase.Due (earlier ++ [.report r lines]) later
  allowed : Justified (Allowed abi) s.history

theorem Slept.concat (h : Slept before after left) (entry : Entry) :
    Slept before (after ++ [entry]) left := by
  obtain ⟨awake, asleep, rfl, hle⟩ := h
  refine ⟨awake, asleep ++ [entry], by rw [List.append_assoc, List.cons_append], ?_⟩
  rw [seconds, List.countP_append]
  exact hle.trans (Nat.add_le_add_right (Nat.le_add_right _ _) left)

theorem Slept.second (h : Slept before after (left + 1)) :
    Slept before (after ++ [.second]) left := by
  obtain ⟨awake, asleep, rfl, hle⟩ := h
  refine ⟨awake, asleep ++ [.second], by rw [List.append_assoc, List.cons_append], ?_⟩
  have hcount : seconds (asleep ++ [.second]) = seconds asleep + 1 := List.countP_append
  rw [hcount]
  omega

theorem Slept.mono (h : Slept before after left) (hle : left ≤ left') :
    Slept before after left' := by
  obtain ⟨awake, asleep, rfl, hsleep⟩ := h
  exact ⟨awake, asleep, rfl, hsleep.trans (Nat.add_le_add_left hle _)⟩

theorem Slept.start (before after : List Entry) :
    Slept before (after ++ [.pause (durationIn (before ++ after))])
      (durationIn (before ++ after)).toNat :=
  ⟨after, [], rfl, Nat.le_add_left _ _⟩

theorem Rested.concat (h : Rested before after) (entry : Entry) :
    Rested before (after ++ [entry]) := by
  obtain ⟨slept, rest, rfl, hslept, henable⟩ := h
  exact ⟨slept, rest ++ [entry], List.append_assoc _ _ _, hslept, henable⟩

theorem Rested.slept (h : Rested before after) : Slept before after 0 := by
  obtain ⟨slept, rest, rfl, hslept, _⟩ := h
  induction rest using List.reverseRecOn with
  | nil =>
    rw [List.append_nil]
    exact hslept
  | append_singleton rest entry ih =>
    rw [← List.append_assoc]
    exact ih.concat entry

theorem Phase.Due.concat {phase : Phase} (h : phase.Due before after) (entry : Entry) :
    phase.Due before (after ++ [entry]) := by
  cases phase with
  | start => exact h.elim
  | check => exact Slept.concat h entry
  | print => exact Rested.concat h entry
  | sleep => trivial
  | asleep left => exact Slept.concat h entry

theorem Phase.Due.second {phase : Phase} (h : phase.Due before after) :
    phase.second.Due before (after ++ [.second]) := by
  cases phase with
  | asleep left =>
    cases left with
    | zero => exact Slept.concat h .second
    | succ left => exact Slept.second h
  | _ => exact Phase.Due.concat h .second

theorem enableIn_concat (history : List Entry) (entry : Entry) :
    enableIn (history ++ [entry]) = entry.setsEnable.getD (enableIn history) := by
  rw [enableIn, lastWrite_append, lastWrite_cons]
  rfl

theorem durationIn_concat (history : List Entry) (entry : Entry) :
    durationIn (history ++ [entry]) = entry.setsDuration.getD (durationIn history) := by
  rw [durationIn, lastWrite_append, lastWrite_cons]
  rfl

/-- The titles of the lines that are in no report. -/
def notices : List String :=
  ["MoCA Link status changed to ", "TELEMETRY_MOCA_LINK_STATUS_CHANGED:",
    "MoCA version changed to ", "TELEMETRY_MOCA_VERSION_CHANGED:",
    "got event IARM_BUS_NETWORK_MANAGER_MOCA_TELEMETRY_LOG ",
    "got event IARM_BUS_NETWORK_MANAGER_MOCA_TELEMETRY_LOG_DURATION ",
    "get event to get status of telemetry log enable ",
    "get venent to get the moca log duration set "]

theorem notices_apart : ∀ m ∈ measures, ∀ t ∈ notices, apart m.summary t = true := by
  decide +kernel

theorem readSummary_notice (hm : m ∈ measures) (ht : title ∈ notices) (text : CStr) :
    readSummary m (.info (title.toList ++ text)) = none :=
  readSummary_apart (notices_apart m hm title ht) text

theorem readSummary_eventCallback (hm : m ∈ measures) (event : RmhEvent) :
    (eventCallback event).filterMap (readSummary m) = [] := by
  cases event with
  | linkStatusChanged status =>
    exact (List.filterMap_cons_none (readSummary_notice hm (by decide) _)).trans
      (List.filterMap_cons_none (readSummary_notice hm (by decide) _))
  | mocaVersionChanged version =>
    exact (List.filterMap_cons_none (readSummary_notice hm (by decide) _)).trans
      (List.filterMap_cons_none (readSummary_notice hm (by decide) _))
  | other => rfl

theorem printMocaTelemetry_bFirst (abi : Abi) (bFirst : Bool) (r : Rmh) :
    (printMocaTelemetry abi bFirst r).1 = (bFirst && !r.linkStatus == some abi.linkStatusUp) := by
  rw [printMocaTelemetry]
  cases r.linkStatus with
  | none => exact (Bool.and_true bFirst).symm
  | some status =>
    by_cases hstatus : status = abi.linkStatusUp
    · simp [hstatus]
    · simp [hstatus]

theorem Paced.concat (h : Paced abi s) (entry : Entry) (hentry : entry.isReport = false)
    (hallowed : Allowed abi s.history entry) {t : Telemetry}
    (hhistory : t.history = s.history ++ [entry])
    (henable : t.mocaLogEnable = entry.setsEnable.getD s.mocaLogEnable)
    (hduration : t.mocaLogDuration = entry.setsDuration.getD s.mocaLogDuration)
    (hbFirst : t.bFirst = s.bFirst)
    (hstart : t.phase = .start → s.phase = .start)
    (hdue : ∀ before after, s.history = before ++ after → s.phase.Due before after →
      t.phase.Due before (after ++ [entry])) : Paced abi t := by
  have hlinkUp : entry.linkUp abi = false := by
    cases entry with
    | report r lines => cases hentry
    | _ => rfl
  refine ⟨?_, ?_, ?_, ?_, ?_, ?_⟩
  · rw [henable, h.enable, hhistory, enableIn_concat]
  · rw [hduration, h.duration, hhistory, durationIn_concat]
  · rw [hbFirst, h.bFirst, hhistory, List.any_append, List.any_cons, hlinkUp, List.any_nil,
      Bool.or_false, Bool.or_false]
  · intro hphase
    rw [hhistory, List.any_append, h.start (hstart hphase), List.any_cons, hentry]
    rfl
  · intro earlier r lines later hsplit hearlier
    rcases split_concat (hhistory.symm.trans hsplit) with ⟨_, rfl, _⟩ | ⟨later', rfl, hs⟩
    · cases hentry
    · apply hdue
      · rw [hs, List.append_assoc, List.singleton_append]
      · exact h.due earlier r lines later' hs hearlier
  · rw [hhistory]
    exact h.allowed.concat hallowed

/-- A report, where the one before, if it is not the first, was followed by a pause. -/
theorem Paced.report (h : Paced abi s) (r : Rmh) {phase : Phase}
    (hphase : phase ≠ .start)
    (hrested : ∀ earlier r' lines later, s.history = earlier ++ .report r' lines :: later →
      earlier.any Entry.isReport = true → Rested (earlier ++ [.report r' lines]) later)
    (hdue : phase = .sleep ∨ s.history.any Entry.isReport = false ∧ phase = .check) :
    Paced abi (s.report abi r phase) := by
  refine ⟨?_, ?_, ?_, fun hstart => absurd hstart hphase, ?_, ?_⟩
  · exact h.enable.trans (enableIn_concat s.history (.report r _)).symm
  · exact h.duration.trans (durationIn_concat s.history (.report r _)).symm
  · change (printMocaTelemetry abi s.bFirst r).1 = !(s.history ++ _).any _
    rw [printMocaTelemetry_bFirst, h.bFirst, List.any_append, List.any_cons, List.any_nil,
      Bool.or_false, Bool.not_or]
    rfl
  · intro earlier r' lines later hsplit hearlier
    rcases split_concat hsplit with ⟨rfl, _, rfl⟩ | ⟨later', rfl, hs⟩
    · rcases hdue with rfl | ⟨hnone, _⟩
      · trivial
      · exact absurd (hearlier.symm.trans hnone) (by decide)
    · rcases hdue with rfl | ⟨hnone, _⟩
      · trivial
      · rw [hs, List.any_append, hearlier] at hnone
        cases hnone
  · apply h.allowed.concat
    refine ⟨?_, hrested⟩
    rw [h.bFirst]

theorem Paced.step (h : Paced abi s) (hstep : s.step abi e = some t) : Paced abi t := by
  cases e with
  | event owner event =>
    cases hstep
    unfold Telemetry.mocaEventHandler
    split
    · cases event with
      | telemetryLog param =>
        exact h.concat (.enable param) rfl trivial rfl rfl rfl rfl id
          (fun _ _ _ hdue => hdue.concat _)
      | telemetryLogDuration param =>
        exact h.concat (.duration param) rfl trivial rfl rfl rfl rfl id
          (fun _ _ _ hdue => hdue.concat _)
      | other => exact h
    · exact h
  | getTelemetryLogStatus =>
    cases hstep
    refine h.concat (.other _) rfl ?_ rfl rfl rfl rfl id (fun _ _ _ hdue => hdue.concat _)
    exact fun m hm => List.filterMap_cons_none (readSummary_notice hm (by decide) _)
  | getTelemetryLogDuration =>
    cases hstep
    refine h.concat (.other _) rfl ?_ rfl rfl rfl rfl id (fun _ _ _ hdue => hdue.concat _)
    exact fun m hm => List.filterMap_cons_none (readSummary_notice hm (by decide) _)
  | rmh event =>
    cases hstep
    exact h.concat (.other _) rfl (fun m hm => readSummary_eventCallback hm event) rfl rfl rfl rfl
      id (fun _ _ _ hdue => hdue.concat _)
  | second =>
    cases hstep
    refine h.concat .second rfl trivial rfl rfl rfl rfl ?_ (fun _ _ _ hdue => hdue.second)
    cases s.phase with
    | asleep left =>
      cases left with
      | zero => exact id
      | succ left =>
        intro hstart
        cases hstart
    | _ => exact id
  | thread r =>
    rw [Telemetry.step, Telemetry.mocaTelemetryThrd] at hstep
    have hpause : ∀ seconds, s.phase ≠ .start →
        (∀ before after, s.history = before ++ after → s.phase.Due before after →
          Slept before (after ++ [.pause seconds]) seconds.toNat) →
        Paced abi (s.pause seconds) := fun seconds hstart hslept =>
      h.concat (.pause seconds) rfl trivial rfl rfl rfl rfl (fun hphase => by cases hphase) hslept
    have hmove : ∀ phase, phase ≠ .start →
        (∀ before after, s.history = before ++ after → s.phase.Due before after →
          phase.Due before after) → Paced abi { s with phase } := fun phase hstart hdue =>
      { h with
        start := fun hphase => absurd hphase hstart
        due := fun earlier r lines later hsplit hearlier =>
          hdue _ _ (by rw [hsplit, List.append_assoc, List.singleton_append])
            (h.due earlier r lines later hsplit hearlier) }
    split at hstep
    case h_1 hphase =>
      cases hstep
      have hnone := h.start hphase
      refine h.report r (fun h => by cases h) ?_ (Or.inr ⟨hnone, rfl⟩)
      intro earlier r' lines later hsplit hearlier
      rw [hsplit, List.any_append, hearlier] at hnone
      cases hnone
    case h_2 hphase =>
      cases hstep
      rw [hphase] at hpause hmove
      split
      case isTrue henable =>
        refine hmove .print (fun h => by cases h) fun before after hsplit hdue => ?_
        refine ⟨after, [], (List.append_nil after).symm, hdue, ?_⟩
        rw [← hsplit, ← h.enable, henable]
      case isFalse =>
        refine hpause 300#32 (fun h => by cases h) fun before after _ hdue => ?_
        exact (Slept.concat hdue _).mono (Nat.zero_le _)
    case h_3 hphase =>
      cases hstep
      refine h.report r (fun h => by cases h) ?_ (Or.inl rfl)
      intro earlier r' lines later hsplit hearlier
      have hdue := h.due earlier r' lines later hsplit hearlier
      rw [hphase] at hdue
      exact hdue
    case h_4 hphase =>
      cases hstep
      rw [hphase] at hpause
      refine hpause s.mocaLogDuration (fun h => by cases h) fun before after hsplit _ => ?_
      rw [h.duration, hsplit]
      exact Slept.start before after
    case h_5 hphase =>
      cases hstep
      rw [hphase] at hmove
      exact hmove .check (fun h => by cases h) fun _ _ _ hdue => hdue
    case h_6 => cases hstep

theorem paced_init (abi : Abi) : Paced abi .init where
  enable := rfl
  duration := rfl
  bFirst := rfl
  start _ := rfl
  due earlier r lines later hsplit _ := by
    cases earlier with
    | nil => cases hsplit
    | cons => cases hsplit
  allowed := Justified.nil

theorem paced_run (h : run (Telemetry.step abi) .init happenings = some t) : Paced abi t :=
  run_invariant (fun _ _ _ _ hs hstep => Paced.step hs hstep) h (paced_init abi)

theorem Allowed.lines (h : Allowed abi before entry) (hm : m ∈ measures) :
    entry.lines.filterMap (readSummary m) = entry.answered abi m := by
  cases entry with
  | enable mocaLogEnable =>
    exact List.filterMap_cons_none (readSummary_notice hm (by decide) _)
  | duration mocaLogDuration =>
    exact List.filterMap_cons_none (readSummary_notice hm (by decide) _)
  | report r lines =>
    obtain ⟨rfl, _⟩ := h
    exact readSummary_printMocaTelemetry hm abi _ r
  | other lines => exact h m hm
  | _ => rfl

/-- What a reader of the whole log finds as the summaries of a measure is what the nodes answered
to each report, in that order. -/
theorem summaries_read (abi : Abi) (happenings : List Happening) (t : Telemetry)
    (hm : m ∈ measures) (h : run (Telemetry.step abi) .init happenings = some t) :
    (t.history.flatMap Entry.lines).filterMap (readSummary m) =
      t.history.flatMap (Entry.answered abi m) := by
  rw [List.filterMap_flatMap]
  apply List.flatMap_congr
  intro entry hentry
  obtain ⟨before, hallowed⟩ := (paced_run h).allowed.mem hentry
  exact hallowed.lines hm

/-- Two nodes besides this one, one of which has no reception power to tell. -/
def threeNodes : Rmh where
  linkStatus := some 1#32
  mocaVersion := some "2.0".toList
  ncNodeId := some 0#32
  ncMac := none
  numNodes := some 3#32
  nodeId := some 0#32
  associatedIds := some fun i => i == 1 || i == 2
  rxUnicastPhyRate i := some (if i = 1 then 600#32 else 610#32)
  txUnicastPhyRate _ := some 620#32
  rxUnicastPower i := if i = 1 then some "-25.10".toList else none
  txPowerReduction _ := some 0#32
  powerPlain i text h := by
    split at h
    · cases h
      decide
    · cases h
  unset := (0#32, 0#32)

def threeNodesRun : List Happening :=
  [.thread threeNodes, .rmh (.linkStatusChanged 1#32), .thread threeNodes,
    .event "NET_SRV_MGR".toList (.telemetryLogDuration 60#32), .thread threeNodes]

theorem summaries_read_threeNodes : ∃ t,
    run (Telemetry.step ⟨1#32, 16⟩) .init threeNodesRun = some t ∧
    (t.history.flatMap Entry.lines).filterMap (readSummary rxPower) =
      t.history.flatMap (Entry.answered ⟨1#32, 16⟩ rxPower) :=
  ⟨_, rfl, summaries_read ⟨1#32, 16⟩ threeNodesRun _ (by simp [measures]) rfl⟩

/-- A report names the status of the link and the version if the link was up in none before it.
Of two reports, the first not the very first of all, the thread has slept between them for the
duration in force after the first of them, and then logging was enabled. -/
theorem reports_paced (abi : Abi) (happenings : List Happening) (t : Telemetry)
    (h : run (Telemetry.step abi) .init happenings = some t)
    (hsplit : t.history = earlier ++ .report r lines :: later) :
    lines = (printMocaTelemetry abi (!earlier.any (Entry.linkUp abi)) r).2 ∧
      ∀ first r' lines' between, earlier = first ++ .report r' lines' :: between →
        first.any Entry.isReport = true → ∃ awake asleep rest,
          between = awake ++ .pause (durationIn (first ++ .report r' lines' :: awake)) ::
            asleep ++ rest ∧
          (durationIn (first ++ .report r' lines' :: awake)).toNat ≤ seconds asleep ∧
          enableIn (first ++ .report r' lines' ::
            (awake ++ .pause (durationIn (first ++ .report r' lines' :: awake)) :: asleep)) =
              true := by
  obtain ⟨hlines, hrested⟩ := (paced_run h).allowed earlier (.report r lines) later hsplit
  refine ⟨hlines, ?_⟩
  intro first r' lines' between hearlier hfirst
  obtain ⟨slept, rest, rfl, ⟨awake, asleep, rfl, hle⟩, henable⟩ :=
    hrested first r' lines' between hearlier hfirst
  simp only [List.append_assoc, List.singleton_append] at hle henable ⊢
  exact ⟨awake, asleep, rest, rfl, hle, henable⟩

/-- Nothing is known of the network. -/
def silent : Rmh where
  linkStatus := none
  mocaVersion := none
  ncNodeId := none
  ncMac := none
  numNodes := none
  nodeId := none
  associatedIds := none
  rxUnicastPhyRate _ := none
  txUnicastPhyRate _ := none
  rxUnicastPower _ := none
  txPowerReduction _ := none
  powerPlain _ _ h := by cases h
  unset := (0#32, 0#32)

def silentReport : Entry := .report silent (printMocaTelemetry ⟨1#32, 16⟩ true silent).2

def silentRun : List Happening :=
  [.thread silent, .thread silent, .thread silent,
    .event "NET_SRV_MGR".toList (.telemetryLogDuration 1#32), .thread silent, .second,
    .thread silent, .thread silent, .thread silent]

theorem reports_paced_silent : ∃ awake asleep rest,
    [.duration 1#32, .pause 1#32, .second] =
      awake ++ .pause (durationIn (silentReport :: silentReport :: awake)) :: asleep ++ rest ∧
    (durationIn (silentReport :: silentReport :: awake)).toNat ≤ seconds asleep ∧
    enableIn (silentReport :: silentReport ::
      (awake ++ .pause (durationIn (silentReport :: silentReport :: awake)) :: asleep)) = true :=
  have hsplit : [silentReport, silentReport, .duration 1#32, .pause 1#32, .second, silentReport] =
      [silentReport, silentReport, .duration 1#32, .pause 1#32, .second] ++ silentReport :: [] :=
    rfl
  (reports_paced ⟨1#32, 16⟩ silentRun _ rfl hsplit).2 [silentReport] silent _ _ rfl rfl

end NetSrvMgr.Moca
