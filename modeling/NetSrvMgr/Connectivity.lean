import Mathlib.Data.List.Dedup
import Mathlib.Data.List.Flatten
import Mathlib.Data.Fintype.Basic

namespace NetSrvMgr.Connectivity
set_option autoImplicit true

def curlmOk : Int := 0
def curleOk : Int := 0

/-- What the calls of the set-up return, for `n` endpoints. -/
structure CurlSetup (n : Nat) where
  multiInit : Bool
  easyInit : Fin n → Bool
  addHandle : Fin n → Int

/-- The endpoints that are not dropped during set-up. -/
def CurlSetup.easyHandles (c : CurlSetup n) : List (Fin n) :=
  (List.finRange n).filter fun i => c.easyInit i && decide (c.addHandle i = curlmOk)

structure CurlMsg (n : Nat) where
  done : Bool
  endpoint : Fin n
  result : Int

/-- One pass of the loop: the codes that perform and poll return, the messages queued after
perform, the handles that still run and the time. -/
structure Round (n : Nat) where
  perform : Int
  messages : List (CurlMsg n)
  handles : Int
  timeNow : Int
  poll : Int

def CurlMsg.isOk (m : CurlMsg n) : Bool := m.done && decide (m.result = curleOk)

def doneEndpoints (rounds : List (Round n)) : List (Fin n) :=
  ((rounds.flatMap Round.messages).filter CurlMsg.done).map CurlMsg.endpoint

/-- What the library and the clock do during one call: a transfer is reported done once, and only
one that was added, and the clock reaches the deadline. -/
structure CurlRun (n : Nat) (timeoutMs : Int) extends CurlSetup n where
  startTime : Int
  rounds : List (Round n)
  once : (doneEndpoints rounds).Nodup
  added : ∀ i ∈ doneEndpoints rounds, i ∈ toCurlSetup.easyHandles
  ends : ∃ r ∈ rounds, startTime + timeoutMs ≤ r.timeNow

/-- The loop over the queued messages. -/
def infoRead (messages : List (CurlMsg n)) (connectivity : Int) : Int :=
  messages.foldl (fun connectivity m =>
    if m.done = false then connectivity
    else if m.result = curleOk then connectivity + 1
    else connectivity) connectivity

/-- The count when the loop is left; `none` if it were not left in these rounds. -/
def curlLoop (deadline : Int) : List (Round n) → Int → Option Int
  | [], _ => none
  | r :: rounds, connectivity =>
    -- what this call of perform queued is not read
    if r.perform ≠ curlmOk then some connectivity
    else
      let connectivity := infoRead r.messages connectivity
      if r.handles = 0 ∨ deadline ≤ r.timeNow then some connectivity
      else if r.poll ≠ curlmOk then some connectivity
      else curlLoop deadline rounds connectivity

def testConnectivity (run : CurlRun n timeoutMs) : Option Bool :=
  if run.multiInit = false then some ((-1 : Int) ≠ 0)
  else
    (curlLoop (run.startTime + timeoutMs) run.rounds 0).map fun connectivity =>
      decide ((n : Int) - 1 ≤ connectivity)

def Round.leaves (deadline : Int) (r : Round n) : Bool :=
  r.perform ≠ curlmOk || r.handles = 0 || deadline ≤ r.timeNow || r.poll ≠ curlmOk

/-- The rounds up to the one in which the loop is left. -/
def executed (deadline : Int) : List (Round n) → List (Round n)
  | [] => []
  | r :: rounds => if r.leaves deadline then [r] else r :: executed deadline rounds

/-- The endpoints that rounds report as completed with `CURLE_OK`. -/
def okEndpoints (rounds : List (Round n)) : List (Fin n) :=
  ((rounds.flatMap Round.messages).filter CurlMsg.isOk).map CurlMsg.endpoint

def Round.performed (r : Round n) : Bool := r.perform = curlmOk

/-- The rounds of a call; there are none without a multi handle. -/
def CurlRun.executed (run : CurlRun n timeoutMs) : List (Round n) :=
  if run.multiInit = false then []
  else Connectivity.executed (run.startTime + timeoutMs) run.rounds

/-- How many endpoints completed with `CURLE_OK`. -/
def CurlRun.completed (run : CurlRun n timeoutMs) : Nat := (okEndpoints run.executed).dedup.length

/-- How many of them completed before a call of perform failed. -/
def CurlRun.completedBefore (run : CurlRun n timeoutMs) : Nat :=
  (okEndpoints (run.executed.filter Round.performed)).dedup.length

/-- The call returns whether all endpoints but at most one completed. -/
def TellsConnectivity (run : CurlRun n timeoutMs) : Prop :=
  testConnectivity run = some (decide ((n : Int) - 1 ≤ run.completed))

/-- Without a multi handle at most one endpoint is configured; with one, the completions that a
failing call of perform leaves unread make no difference. -/
def NothingUnread (run : CurlRun n timeoutMs) : Prop :=
  if run.multiInit = false then n ≤ 1
  else (n : Int) - 1 ≤ run.completedBefore ∨ (run.completed : Int) < n - 1

theorem infoRead_eq (messages : List (CurlMsg n)) (c : Int) :
    infoRead messages c = c + (messages.filter CurlMsg.isOk).length := by
  induction messages generalizing c with
  | nil => exact (Int.add_zero c).symm
  | cons m messages ih =>
    have hcons : infoRead (m :: messages) c =
        infoRead messages (if m.isOk then c + 1 else c) := by
      rw [infoRead, List.foldl_cons, CurlMsg.isOk]
      cases m.done with
      | false => rfl
      | true =>
        by_cases hok : m.result = curleOk
        · simp only [hok, infoRead, if_true, Bool.true_and, decide_true, Bool.true_eq_false,
            if_false]
        · simp only [hok, infoRead, if_false, Bool.true_and, decide_false, Bool.true_eq_false,
            Bool.false_eq_true]
    rw [hcons, ih]
    cases hok : m.isOk with
    | false =>
      rw [List.filter_cons_of_neg (by rw [hok]; exact Bool.false_ne_true)]
      rfl
    | true =>
      rw [List.filter_cons_of_pos hok, List.length_cons, if_pos rfl]
      omega

theorem okEndpoints_cons (r : Round n) (rounds : List (Round n)) :
    okEndpoints (r :: rounds) =
      (r.messages.filter CurlMsg.isOk).map CurlMsg.endpoint ++ okEndpoints rounds := by
  rw [okEndpoints, List.flatMap_cons, List.filter_append, List.map_append, okEndpoints]

/-- The loop counts the completions of the rounds whose perform does not fail. -/
theorem curlLoop_eq (deadline : Int) (rounds : List (Round n))
    (h : ∃ r ∈ rounds, deadline ≤ r.timeNow) (c : Int) :
    curlLoop deadline rounds c = some (c + (okEndpoints ((executed deadline rounds).filter
      Round.performed)).length) := by
  induction rounds generalizing c with
  | nil =>
    obtain ⟨r, hr, _⟩ := h
    cases hr
  | cons r rounds ih =>
    rw [curlLoop, executed, Round.leaves]
    by_cases hperform : r.perform = curlmOk
    · have hperformed : r.performed = true := decide_eq_true hperform
      have hkeep : [r].filter Round.performed = [r] :=
        List.filter_cons_of_pos hperformed
      have hone : okEndpoints [r] = (r.messages.filter CurlMsg.isOk).map CurlMsg.endpoint := by
        rw [okEndpoints_cons]
        exact List.append_nil _
      have hcount : infoRead r.messages c = c + (okEndpoints [r]).length := by
        rw [infoRead_eq, hone, List.length_map]
      rw [if_neg (not_not.2 hperform), decide_eq_false (not_not.2 hperform), Bool.false_or]
      dsimp only
      by_cases hleft : r.handles = 0 ∨ deadline ≤ r.timeNow
      · have htrue : (decide (r.handles = 0) || decide (deadline ≤ r.timeNow)) = true := by
          rw [Bool.or_eq_true, decide_eq_true_eq, decide_eq_true_eq]
          exact hleft
        rw [if_pos hleft, htrue, Bool.true_or, if_pos rfl, hkeep, hcount]
      · have hfalse : (decide (r.handles = 0) || decide (deadline ≤ r.timeNow)) = false := by
          rw [Bool.or_eq_false_iff, decide_eq_false_iff_not, decide_eq_false_iff_not]
          exact not_or.1 hleft
        rw [if_neg hleft, hfalse, Bool.false_or]
        by_cases hpoll : r.poll ≠ curlmOk
        · rw [if_pos hpoll, decide_eq_true hpoll, if_pos rfl, hkeep, hcount]
        · -- the deadline is not reached in this round, so it is in a later one
          have hrest : ∃ r ∈ rounds, deadline ≤ r.timeNow := by
            obtain ⟨r', hr', htime⟩ := h
            rcases List.mem_cons.1 hr' with rfl | hr'
            · exact absurd (Or.inr htime) hleft
            · exact ⟨r', hr', htime⟩
          rw [if_neg hpoll, decide_eq_false hpoll, if_neg Bool.false_ne_true, ih hrest, hcount,
            List.filter_cons_of_pos hperformed, hone, okEndpoints_cons, List.length_append,
            Int.natCast_add, Int.add_assoc]
    · have hperformed : ¬ r.performed = true := mt of_decide_eq_true hperform
      rw [if_pos hperform, decide_eq_true hperform, Bool.true_or, Bool.true_or, Bool.true_or,
        if_pos rfl, List.filter_cons_of_neg hperformed]
      exact congrArg some (Int.add_zero c).symm

theorem okEndpoints_sublist {rounds rounds' : List (Round n)} (h : rounds.Sublist rounds') :
    (okEndpoints rounds).Sublist (okEndpoints rounds') := by
  rw [okEndpoints, okEndpoints]
  exact ((h.flatMap _).filter _).map _

theorem executed_sublist (deadline : Int) (rounds : List (Round n)) :
    (executed deadline rounds).Sublist rounds := by
  induction rounds with
  | nil => exact List.Sublist.refl _
  | cons r rounds ih =>
    rw [executed]
    split
    · exact (List.nil_sublist rounds).cons_cons r
    · exact ih.cons_cons r

theorem okEndpoints_nodup (run : CurlRun n timeoutMs) {rounds : List (Round n)}
    (h : rounds.Sublist run.rounds) : (okEndpoints rounds).Nodup := by
  have hok : (okEndpoints run.rounds).Sublist (doneEndpoints run.rounds) := by
    rw [okEndpoints, doneEndpoints]
    apply List.Sublist.map
    apply List.monotone_filter_right
    intro m hm
    exact (Bool.and_eq_true_iff.1 hm).1
  exact run.once.sublist ((okEndpoints_sublist h).trans hok)

theorem CurlRun.executed_sublist (run : CurlRun n timeoutMs) :
    run.executed.Sublist run.rounds := by
  rw [CurlRun.executed]
  split
  · exact List.nil_sublist _
  · exact Connectivity.executed_sublist _ _

theorem testConnectivity_eq (run : CurlRun n timeoutMs) (hinit : run.multiInit = true) :
    testConnectivity run = some (decide ((n : Int) - 1 ≤ run.completedBefore)) := by
  have hinit' : ¬ run.multiInit = false := by
    rw [hinit]
    exact Bool.noConfusion
  have hexecuted : run.executed = executed (run.startTime + timeoutMs) run.rounds :=
    if_neg hinit'
  have hnodup : (okEndpoints (run.executed.filter Round.performed)).Nodup :=
    okEndpoints_nodup run (List.filter_sublist.trans run.executed_sublist)
  rw [testConnectivity, if_neg hinit', curlLoop_eq _ _ run.ends, CurlRun.completedBefore,
    hnodup.dedup, hexecuted, Option.map_some, Int.zero_add]

theorem completedBefore_le (run : CurlRun n timeoutMs) :
    run.completedBefore ≤ run.completed := by
  have hsub : (run.executed.filter Round.performed).Sublist run.executed := List.filter_sublist
  have hall := okEndpoints_nodup run run.executed_sublist
  have hbefore := okEndpoints_nodup run (hsub.trans run.executed_sublist)
  rw [CurlRun.completedBefore, CurlRun.completed, hall.dedup, hbefore.dedup]
  exact (okEndpoints_sublist hsub).length_le

/-- The result tells the connectivity exactly where no completion that counts is left unread. -/
theorem testConnectivity_tells_iff (run : CurlRun n timeoutMs) :
    TellsConnectivity run ↔ NothingUnread run := by
  rw [TellsConnectivity, NothingUnread]
  cases hinit : run.multiInit with
  | false =>
    have hnone : run.completed = 0 := by
      rw [CurlRun.completed, CurlRun.executed, if_pos hinit]
      rfl
    rw [testConnectivity, if_pos hinit, if_pos rfl, hnone, Option.some.injEq, decide_eq_decide]
    omega
  | true =>
    have hle := completedBefore_le run
    rw [testConnectivity_eq run hinit, if_neg Bool.noConfusion, Option.some.injEq,
      decide_eq_decide]
    omega

/-- Two endpoints, no multi handle. -/
def noMultiHandle : CurlRun 2 2000 where
  multiInit := false
  easyInit := fun _ => true
  addHandle := fun _ => 0
  startTime := 0
  rounds := [⟨0, [], 0, 2000, 0⟩]
  once := List.nodup_nil
  added := fun _ h => by cases h
  ends := ⟨_, List.mem_singleton_self _, Int.le_refl _⟩

/-- Without a multi handle -1 is returned, which is true. -/
theorem testConnectivity_noMultiHandle :
    ¬ ∀ (n : Nat) (timeoutMs : Int) (run : CurlRun n timeoutMs), TellsConnectivity run := by
  intro h
  have htells := h 2 2000 noMultiHandle
  have htrue : testConnectivity noMultiHandle = some true := rfl
  rw [TellsConnectivity, htrue, Option.some.injEq] at htells
  exact absurd htells (by decide)

end NetSrvMgr.Connectivity
