import NetSrvMgr.CString
import Mathlib.Data.List.Induction

namespace NetSrvMgr.Wifi
open CString
set_option autoImplicit true

/-- An attempt that gets as far as `laf_start`: whether the switch to private networks is
automatic then, and the time, the LNF client's error code and the result of `triggerLostFound`. -/
structure LnfAttempt where
  bAutoSwitchToPrivateEnabled : Bool
  currTime : CStr
  err : Int
  bRet : Bool
  deriving DecidableEq

structure WiFiLnfSwitchPrivateResults where
  currTime : CStr
  lnfError : BitVec 8
  deriving DecidableEq

/-- `lstLnfPvtResults` and the static `bLastLnfSuccess` of `triggerLostFound`. -/
structure LnfResults where
  lstLnfPvtResults : List WiFiLnfSwitchPrivateResults
  bLastLnfSuccess : Bool
  deriving DecidableEq

def LnfResults.init : LnfResults where
  lstLnfPvtResults := []
  bLastLnfSuccess := false

/-- The error code is narrowed to an `unsigned char`. -/
def addSwitchToPrivateResults (lnfError : Int) (currTime : CStr) (s : LnfResults) : LnfResults :=
  { s with lstLnfPvtResults := s.lstLnfPvtResults ++ [⟨currTime, BitVec.ofInt 8 lnfError⟩] }

def clearSwitchToPrivateResults (s : LnfResults) : LnfResults :=
  { s with lstLnfPvtResults := [] }

/-- The recording of a result, where the switch is not automatic. -/
def recordSwitchResult (s : LnfResults) (a : LnfAttempt) : LnfResults :=
  let s := if !a.bRet && s.bLastLnfSuccess then
    { clearSwitchToPrivateResults s with bLastLnfSuccess := false } else s
  let s := if a.bRet then { s with bLastLnfSuccess := true } else s
  addSwitchToPrivateResults a.err a.currTime s

def recordLnfResult (s : LnfResults) (a : LnfAttempt) : LnfResults :=
  if !a.bAutoSwitchToPrivateEnabled then recordSwitchResult s a else s

/-- An object of the JSON array "results". -/
structure ResultItem where
  timestamp : CStr
  result : Int
  deriving DecidableEq

def WiFiLnfSwitchPrivateResults.item (e : WiFiLnfSwitchPrivateResults) : ResultItem :=
  ⟨e.currTime, e.lnfError.toNat⟩

/-- A length kept in a `char`, which the platform has signed or unsigned. -/
def toChar (charSigned : Bool) (length : Nat) : Int :=
  if charSigned then (length : Int).bmod 256 else length % 256

def resultsLoop : List WiFiLnfSwitchPrivateResults → Int → List ResultItem
  | [], _ => []
  | e :: element, privateResultsLength =>
    if privateResultsLength > 0 then e.item :: resultsLoop element (privateResultsLength - 1)
    else []

/-- The array that `getSwitchToPrivateResults` reports. -/
def convertSwitchToPrivateResultsToJson (charSigned : Bool) (s : LnfResults) : List ResultItem :=
  resultsLoop s.lstLnfPvtResults (toChar charSigned s.lstLnfPvtResults.length)

def lnfResults (attempts : List LnfAttempt) : LnfResults := attempts.foldl recordLnfResult .init

/-- Back from the newest attempt to a failure that directly followed a success. -/
def sinceLoss : List LnfAttempt → List LnfAttempt
  | [] => []
  | [a] => [a]
  | b :: a :: attempts => if !b.bRet && a.bRet then [b] else b :: sinceLoss (a :: attempts)

/-- The attempts made while the switch is not automatic. -/
def manualAttempts (attempts : List LnfAttempt) : List LnfAttempt :=
  attempts.filter fun a => !a.bAutoSwitchToPrivateEnabled

/-- From the last failure that directly followed a success onwards. -/
def currentAttempts (attempts : List LnfAttempt) : List LnfAttempt :=
  (sinceLoss attempts.reverse).reverse

def LnfAttempt.item (a : LnfAttempt) : ResultItem := ⟨a.currTime, a.err⟩

def maxChar (charSigned : Bool) : Nat := if charSigned then 127 else 255

def LnfAttempt.record (a : LnfAttempt) : WiFiLnfSwitchPrivateResults :=
  ⟨a.currTime, BitVec.ofInt 8 a.err⟩

theorem currentAttempts_snoc (attempts : List LnfAttempt) (b : LnfAttempt) :
    currentAttempts (attempts ++ [b]) =
      if !b.bRet && attempts.getLast?.any LnfAttempt.bRet then [b]
      else currentAttempts attempts ++ [b] := by
  rw [currentAttempts, currentAttempts, List.reverse_append, List.getLast?_eq_head?_reverse]
  cases attempts.reverse with
  | nil =>
    rw [List.head?_nil, Option.any_none, Bool.and_false, if_neg Bool.false_ne_true]
    rfl
  | cons a attempts =>
    rw [List.head?_cons, Option.any_some, List.reverse_singleton, List.singleton_append, sinceLoss]
    split
    · rfl
    · rw [List.reverse_cons]

theorem foldl_recordSwitchResult (attempts : List LnfAttempt) :
    attempts.foldl recordSwitchResult .init =
      ⟨(currentAttempts attempts).map LnfAttempt.record,
        attempts.getLast?.any LnfAttempt.bRet⟩ := by
  induction attempts using List.reverseRecOn with
  | nil => rfl
  | append_singleton attempts b ih =>
    rw [List.foldl_append, ih, List.foldl_cons, List.foldl_nil, currentAttempts_snoc,
      List.getLast?_concat, Option.any_some, recordSwitchResult]
    cases hb : b.bRet with
    | true =>
      rw [Bool.not_true, Bool.false_and, if_neg Bool.false_ne_true, if_neg Bool.false_ne_true,
        if_pos rfl, List.map_append]
      rfl
    | false =>
      cases hlast : attempts.getLast?.any LnfAttempt.bRet with
      | true => rfl
      | false =>
        rw [Bool.and_false, if_neg Bool.false_ne_true, if_neg Bool.false_ne_true,
          if_neg Bool.false_ne_true, List.map_append]
        rfl

theorem lnfResults_list (attempts : List LnfAttempt) :
    (lnfResults attempts).lstLnfPvtResults =
      (currentAttempts (manualAttempts attempts)).map LnfAttempt.record := by
  have hfold : lnfResults attempts = (manualAttempts attempts).foldl recordSwitchResult .init :=
    List.foldl_filter.symm
  rw [hfold, foldl_recordSwitchResult]

theorem resultsLoop_eq (l : List WiFiLnfSwitchPrivateResults) (n : Int) :
    resultsLoop l n = (l.take n.toNat).map WiFiLnfSwitchPrivateResults.item := by
  induction l generalizing n with
  | nil =>
    rw [List.take_nil]
    rfl
  | cons e l ih =>
    rw [resultsLoop]
    split
    · next hn =>
      have htoNat : n.toNat = (n - 1).toNat + 1 := by omega
      rw [ih, htoNat, List.take_succ_cons, List.map_cons]
    · next hn =>
      rw [Int.toNat_of_nonpos (Int.not_lt.1 hn)]
      rfl

/-- The length that is kept reaches the whole list exactly when it fits the `char`. -/
theorem le_toChar_iff (charSigned : Bool) (n : Nat) :
    n ≤ (toChar charSigned n).toNat ↔ n ≤ maxChar charSigned := by
  rw [toChar, maxChar]
  cases charSigned with
  | true =>
    have hbmod : (n : Int).bmod 256 = if (n : Int) % 256 < 128 then (n : Int) % 256
        else (n : Int) % 256 - 256 := Int.bmod_def _ _
    rw [if_pos rfl, if_pos rfl, hbmod]
    split
    · omega
    · omega
  | false =>
    rw [if_neg Bool.false_ne_true, if_neg Bool.false_ne_true]
    omega

theorem LnfAttempt.record_item_iff (a : LnfAttempt) :
    a.record.item = a.item ↔ 0 ≤ a.err ∧ a.err < 256 := by
  have hnat : ((BitVec.ofInt 8 a.err).toNat : Int) = a.err % 256 := by
    rw [BitVec.toNat_ofInt]
    omega
  rw [WiFiLnfSwitchPrivateResults.item, LnfAttempt.item, LnfAttempt.record, ResultItem.mk.injEq,
    hnat]
  simp only [true_and]
  omega

/-- The report lists the current attempts, each with its time and code, exactly when their number
fits the `char` that counts them and every code fits the `unsigned char` it is kept in. -/
theorem switchToPrivateResults_complete_iff (charSigned : Bool) (attempts : List LnfAttempt) :
    convertSwitchToPrivateResultsToJson charSigned (lnfResults attempts) =
        (currentAttempts (manualAttempts attempts)).map LnfAttempt.item ↔
      (currentAttempts (manualAttempts attempts)).length ≤ maxChar charSigned ∧
        ∀ a ∈ currentAttempts (manualAttempts attempts), 0 ≤ a.err ∧ a.err < 256 := by
  rw [convertSwitchToPrivateResultsToJson, resultsLoop_eq, lnfResults_list, List.length_map,
    ← le_toChar_iff]
  generalize currentAttempts (manualAttempts attempts) = current
  apply Iff.intro
  · intro h
    have hlen : current.length ≤ (toChar charSigned current.length).toNat := by
      have hlen := congrArg List.length h
      rw [List.length_map, List.length_take, List.length_map, List.length_map] at hlen
      omega
    apply And.intro hlen
    rw [List.take_of_length_le (by rw [List.length_map]; exact hlen), List.map_map,
      List.map_inj_left] at h
    intro a ha
    exact a.record_item_iff.1 (h a ha)
  · intro h
    obtain ⟨hlen, hcodes⟩ := h
    rw [List.take_of_length_le (by rw [List.length_map]; exact hlen), List.map_map,
      List.map_inj_left]
    intro a ha
    exact a.record_item_iff.2 (hcodes a ha)

def failedAttempt : LnfAttempt where
  bAutoSwitchToPrivateEnabled := false
  currTime := "2016-05-04 10:00:00".toList
  err := 7
  bRet := false

theorem currentAttempts_of_failures (n : Nat) :
    currentAttempts (List.replicate n failedAttempt) = List.replicate n failedAttempt := by
  have hsince : ∀ n, sinceLoss (List.replicate n failedAttempt) =
      List.replicate n failedAttempt := by
    intro n
    induction n with
    | zero => rfl
    | succ n ih =>
      cases n with
      | zero => rfl
      | succ n => exact congrArg (failedAttempt :: ·) ih
  rw [currentAttempts, List.reverse_replicate, hsince, List.reverse_replicate]

theorem convertSwitchToPrivateResultsToJson_full (charSigned : Bool) :
    convertSwitchToPrivateResultsToJson charSigned
        (lnfResults (List.replicate 256 failedAttempt)) ≠
      (currentAttempts (manualAttempts (List.replicate 256 failedAttempt))).map
        LnfAttempt.item := by
  intro hfull
  have hmanual : manualAttempts (List.replicate 256 failedAttempt) =
      List.replicate 256 failedAttempt := List.filter_replicate_of_pos rfl
  rw [convertSwitchToPrivateResultsToJson, resultsLoop_eq, lnfResults_list, hmanual,
    currentAttempts_of_failures] at hfull
  have hlen := congrArg List.length hfull
  rw [List.length_map, List.length_take, List.length_map, List.length_map,
    List.length_replicate] at hlen
  cases charSigned with
  | true => exact absurd hlen (by decide)
  | false => exact absurd hlen (by decide)

/-- After 256 failures in a row the report is empty, whether `char` is signed or not. -/
theorem switchToPrivateResults_lost :
    (¬∀ attempts, convertSwitchToPrivateResultsToJson true (lnfResults attempts) =
      (currentAttempts (manualAttempts attempts)).map LnfAttempt.item) ∧
    ¬∀ attempts, convertSwitchToPrivateResultsToJson false (lnfResults attempts) =
      (currentAttempts (manualAttempts attempts)).map LnfAttempt.item := by
  apply And.intro
  · intro h
    exact convertSwitchToPrivateResultsToJson_full true (h _)
  · intro h
    exact convertSwitchToPrivateResultsToJson_full false (h _)

end NetSrvMgr.Wifi
