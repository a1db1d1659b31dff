import NetSrvMgr.CString
import Mathlib.Data.List.Chain

namespace NetSrvMgr.Telemetry
open CString
set_option autoImplicit true

/-- `wifiParams_Tele_Period2`: the list is null unless it has been configured. -/
structure TeleParams where
  paramlist : Option (List CStr)
  timePeriod : Int

/-- The readings of the clock at the start of a call, and at its end. -/
structure LogCall where
  start : Int
  stop : Int

/-- The static variables, and the starts of the calls that have printed the list. -/
structure Period2State where
  printFlag : Bool
  lastExec : Int
  printed : List Int

def Period2State.init : Period2State where
  printFlag := true
  lastExec := 0
  printed := []

section
variable (tele : TeleParams)

def logsPeriod2Params (s : Period2State) (call : LogCall) : Period2State :=
  let s :=
    if s.printFlag && tele.paramlist.isSome then { s with printed := s.printed ++ [call.start] }
    else s
  let diff := call.start - s.lastExec
  if diff ≥ tele.timePeriod then { s with lastExec := call.stop, printFlag := true }
  else { s with printFlag := false }

def runCalls (calls : List LogCall) : Period2State :=
  calls.foldl (logsPeriod2Params tele) Period2State.init

/-- Any two calls that print are a period apart. -/
def Spaced (calls : List LogCall) : Prop :=
  (runCalls tele calls).printed.Pairwise fun s t => s + tele.timePeriod ≤ t

instance (calls : List LogCall) : Decidable (Spaced tele calls) :=
  inferInstanceAs (Decidable (List.Pairwise _ _))

/-- The call is due: the period is over since the last due call, or since the epoch. -/
def Due (lastExec : Int) (call : LogCall) : Prop := tele.timePeriod ≤ call.start - lastExec

instance (lastExec : Int) (call : LogCall) : Decidable (Due tele lastExec call) :=
  inferInstanceAs (Decidable (_ ≤ _))

/-- A call that is due, and the start of the call after it. -/
structure DueCall where
  call : LogCall
  next : Int

/-- The calls that are due, as far as another call comes after them. -/
def dueCalls : Int → List LogCall → List DueCall
  | _, [] => []
  | lastExec, call :: rest =>
    if Due tele lastExec call then
      (rest.head?.map fun next => ⟨call, next.start⟩).toList ++ dueCalls call.stop rest
    else dueCalls lastExec rest

/-- The waits of the due calls for the call after them. The first print comes without a wait: if
its call is due, the second call is a period later. -/
structure WaitsGrow (calls : List LogCall) : Prop where
  first : ∀ call ∈ calls.head?, ∀ d ∈ (dueCalls tele 0 calls).head?,
    if Due tele 0 call then tele.timePeriod ≤ d.next - d.call.start
    else call.start ≤ d.next - d.call.start
  grow : (dueCalls tele 0 calls).IsChain fun d e => d.next - d.call.stop ≤ e.next - e.call.start

/-- Each due call comes exactly when the period is over. -/
structure Punctual (calls : List LogCall) : Prop where
  first : ∀ call ∈ calls.head?, ∀ d ∈ (dueCalls tele 0 calls).head?,
    Due tele 0 call ∨ d.call.start = tele.timePeriod
  apart : (dueCalls tele 0 calls).IsChain fun d e => e.call.start - d.call.stop = tele.timePeriod

/-- What is printed from a state of the static variables on. -/
def printTimes : Bool → Int → List LogCall → List Int
  | _, _, [] => []
  | printFlag, lastExec, call :: rest =>
    let later :=
      if Due tele lastExec call then printTimes true call.stop rest
      else printTimes false lastExec rest
    if printFlag then call.start :: later else later

end

variable {tele : TeleParams}

theorem logsPeriod2Params_eq (s : Period2State) (call : LogCall) :
    logsPeriod2Params tele s call =
      { printFlag := decide (Due tele s.lastExec call)
        lastExec := if Due tele s.lastExec call then call.stop else s.lastExec
        printed := if s.printFlag && tele.paramlist.isSome then s.printed ++ [call.start]
          else s.printed } := by
  rw [logsPeriod2Params]
  by_cases hdue : Due tele s.lastExec call
  · rw [if_pos hdue, decide_eq_true hdue]
    split
    · exact if_pos hdue
    · exact if_pos hdue
  · rw [if_neg hdue, decide_eq_false hdue]
    split
    · exact if_neg hdue
    · exact if_neg hdue

theorem printed_foldl (hlist : tele.paramlist.isSome = true) (calls : List LogCall)
    (s : Period2State) :
    (calls.foldl (logsPeriod2Params tele) s).printed =
      s.printed ++ printTimes tele s.printFlag s.lastExec calls := by
  induction calls generalizing s with
  | nil => exact (List.append_nil _).symm
  | cons call rest ih =>
    rw [List.foldl_cons, ih, logsPeriod2Params_eq, printTimes]
    dsimp only
    rw [hlist, Bool.and_true]
    by_cases hdue : Due tele s.lastExec call
    · rw [if_pos hdue, if_pos hdue, decide_eq_true hdue]
      cases s.printFlag with
      | true => exact List.append_assoc _ _ _
      | false => rfl
    · rw [if_neg hdue, if_neg hdue, decide_eq_false hdue]
      cases s.printFlag with
      | true => exact List.append_assoc _ _ _
      | false => rfl

theorem printed_of_null (hlist : tele.paramlist = none) (calls : List LogCall)
    (s : Period2State) : (calls.foldl (logsPeriod2Params tele) s).printed = s.printed := by
  induction calls generalizing s with
  | nil => rfl
  | cons call rest ih =>
    rw [List.foldl_cons, ih, logsPeriod2Params_eq, hlist, Option.isSome_none, Bool.and_false]
    rfl

theorem isChain_combine {R S T : α → α → Prop} (himp : ∀ a b, R a b → S a b → T a b)
    {l : List α} (hR : l.IsChain R) (hS : l.IsChain S) : l.IsChain T := by
  induction hR with
  | nil => exact List.IsChain.nil
  | singleton a => exact List.IsChain.singleton a
  | cons_cons hab _ ih =>
    obtain ⟨hab', htail⟩ := List.isChain_cons_cons.mp hS
    exact List.IsChain.cons_cons (himp _ _ hab hab') (ih htail)

theorem printTimes_true (lastExec : Int) (calls : List LogCall) :
    printTimes tele true lastExec calls =
      calls.head?.toList.map LogCall.start ++ printTimes tele false lastExec calls := by
  cases calls with
  | nil => rfl
  | cons call rest => rfl

theorem printTimes_false (tele : TeleParams) (lastExec : Int) (calls : List LogCall) :
    printTimes tele false lastExec calls = (dueCalls tele lastExec calls).map DueCall.next := by
  induction calls generalizing lastExec with
  | nil => rfl
  | cons call rest ih =>
    rw [printTimes, dueCalls, if_neg Bool.false_ne_true]
    by_cases hdue : Due tele lastExec call
    · rw [if_pos hdue, if_pos hdue, printTimes_true, List.map_append, ih]
      cases rest with
      | nil => rfl
      | cons next rest => rfl
    · rw [if_neg hdue, if_neg hdue]
      exact ih lastExec

theorem dueCalls_due (lastExec : Int) (calls : List LogCall) :
    ∀ d ∈ (dueCalls tele lastExec calls).head?, Due tele lastExec d.call := by
  induction calls with
  | nil =>
    intro d hd
    cases hd
  | cons call rest ih =>
    intro d hd
    rw [dueCalls] at hd
    by_cases hdue : Due tele lastExec call
    · rw [if_pos hdue] at hd
      cases rest with
      | nil => cases hd
      | cons next rest =>
        obtain rfl := Option.some_inj.mp hd
        exact hdue
    · rw [if_neg hdue] at hd
      exact ih d hd

theorem dueCalls_apart (tele : TeleParams) (lastExec : Int) (calls : List LogCall) :
    (dueCalls tele lastExec calls).IsChain fun d e =>
      tele.timePeriod ≤ e.call.start - d.call.stop := by
  induction calls generalizing lastExec with
  | nil => exact List.IsChain.nil
  | cons call rest ih =>
    rw [dueCalls]
    split
    · cases rest with
      | nil => exact List.IsChain.nil
      | cons next rest =>
        apply List.isChain_cons.mpr
        constructor
        · intro e he
          exact dueCalls_due call.stop _ e he
        · exact ih call.stop
    · exact ih lastExec

theorem head_of_due {first : LogCall} {rest : List LogCall} (hdue : Due tele 0 first) :
    ∀ d ∈ (dueCalls tele 0 (first :: rest)).head?, d.call = first := by
  intro d hd
  rw [dueCalls, if_pos hdue] at hd
  cases rest with
  | nil => cases hd
  | cons next rest =>
    obtain rfl := Option.some_inj.mp hd
    rfl

theorem spaced_iff_chain (hperiod : 0 < tele.timePeriod)
    (hlist : tele.paramlist.isSome = true) (first : LogCall) (rest : List LogCall) :
    Spaced tele (first :: rest) ↔
      (∀ d ∈ (dueCalls tele 0 (first :: rest)).head?, first.start + tele.timePeriod ≤ d.next) ∧
        (dueCalls tele 0 (first :: rest)).IsChain fun d e =>
          d.next + tele.timePeriod ≤ e.next := by
  have htrans : Trans (fun s t => s + tele.timePeriod ≤ t)
      (fun s t => s + tele.timePeriod ≤ t) fun s t : Int => s + tele.timePeriod ≤ t := by
    constructor
    intro a b c hab hbc
    omega
  have hprinted : (runCalls tele (first :: rest)).printed =
      first.start :: (dueCalls tele 0 (first :: rest)).map DueCall.next := by
    rw [runCalls, printed_foldl hlist, ← printTimes_false]
    rfl
  rw [Spaced, hprinted, ← List.isChain_iff_pairwise, List.isChain_cons, List.isChain_map]
  apply and_congr_left
  intro _
  rw [List.head?_map]
  constructor
  · intro h d hd
    exact h d.next (Option.mem_map_of_mem _ hd)
  · intro h t ht
    obtain ⟨d, hd, rfl⟩ := Option.map_eq_some_iff.mp ht
    exact h d hd

theorem WaitsGrow.spaced (hperiod : 0 < tele.timePeriod)
    (hlist : tele.paramlist.isSome = true) {first : LogCall} {rest : List LogCall}
    (h : WaitsGrow tele (first :: rest)) : Spaced tele (first :: rest) := by
  apply (spaced_iff_chain hperiod hlist first rest).mpr
  constructor
  · intro d hd
    have hfirst := h.first first rfl d hd
    by_cases hdue : Due tele 0 first
    · rw [if_pos hdue, head_of_due hdue d hd] at hfirst
      omega
    · rw [if_neg hdue] at hfirst
      have hlate := dueCalls_due 0 (first :: rest) d hd
      rw [Due] at hlate
      omega
  · have happart := dueCalls_apart tele 0 (first :: rest)
    apply isChain_combine _ h.grow happart
    intro d e hgrow hlate
    omega

/-- When every due call is on time, nothing makes up for a wait that is longer than the next. -/
theorem Punctual.waitsGrow {first : LogCall} {rest : List LogCall}
    (hpunctual : Punctual tele (first :: rest)) (hperiod : 0 < tele.timePeriod)
    (hlist : tele.paramlist.isSome = true) (h : Spaced tele (first :: rest)) :
    WaitsGrow tele (first :: rest) := by
  obtain ⟨hfirst, hchain⟩ := (spaced_iff_chain hperiod hlist first rest).mp h
  constructor
  · intro call hcall d hd
    obtain rfl := Option.some_inj.mp hcall
    have hnext := hfirst d hd
    by_cases hdue : Due tele 0 first
    · rw [if_pos hdue, head_of_due hdue d hd]
      omega
    · rw [if_neg hdue]
      have hstart := (hpunctual.first first rfl d hd).resolve_left hdue
      omega
  · apply isChain_combine _ hchain hpunctual.apart
    intro d e hnext hstart
    omega

/-- The calls that print are a period apart if none do, or if the first two calls are and no due
call waits longer than the next one does. Where the due calls are on time, only then. -/
theorem logsPeriod2Params_spaced_of_waits (hperiod : 0 < tele.timePeriod)
    (calls : List LogCall) :
    (tele.paramlist = none ∨ WaitsGrow tele calls → Spaced tele calls) ∧
      (Punctual tele calls → Spaced tele calls →
        tele.paramlist = none ∨ WaitsGrow tele calls) := by
  cases hlist : tele.paramlist with
  | none =>
    constructor
    · intro _
      rw [Spaced, runCalls, printed_of_null hlist]
      exact List.Pairwise.nil
    · intro _ _
      exact Or.inl rfl
  | some params =>
    have hsome : tele.paramlist.isSome = true := by rw [hlist, Option.isSome_some]
    rw [or_iff_right (Option.some_ne_none params)]
    cases calls with
    | nil =>
      constructor
      · intro _
        exact List.Pairwise.nil
      · intro _ _
        exact ⟨fun _ hcall => absurd hcall (by simp), List.IsChain.nil⟩
    | cons first rest =>
      constructor
      · intro h
        exact h.spaced hperiod hsome
      · intro hpunctual h
        exact hpunctual.waitsGrow hperiod hsome h

/-- An hourly list: the calls at 7200, 10810 and 14415 are due, and those after them print. -/
theorem logsPeriod2Params_hourly :
    Spaced ⟨some [], 3600⟩ [⟨7200, 7205⟩, ⟨10800, 10800⟩, ⟨10810, 10811⟩, ⟨14410, 14410⟩,
      ⟨14415, 14416⟩, ⟨18020, 18020⟩] := by
  apply (logsPeriod2Params_spaced_of_waits (by decide) _).1
  right
  constructor
  · decide
  · decide

/-- The first two calls print, however close they are. -/
theorem logsPeriod2Params_prints_twice :
    ¬∀ tele calls, 0 < tele.timePeriod →
      (calls.Pairwise fun c d : LogCall => c.start ≤ c.stop ∧ c.stop ≤ d.start) →
      Spaced tele calls := by
  intro h
  have hspaced := h ⟨some [], 3600⟩ [⟨1700000000, 1700000000⟩, ⟨1700000010, 1700000010⟩]
    (by decide) (by decide)
  exact absurd hspaced (by decide)

end NetSrvMgr.Telemetry
