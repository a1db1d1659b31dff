import NetSrvMgr.CString
import NetSrvMgr.InputStream

namespace NetSrvMgr.Connectivity
open CString InputStream
set_option autoImplicit true

def maxConnectivityTestEndpoints : Nat := 5

/-- How writing the file goes; where a call reports a failure, only so many characters land. -/
structure WriteOutcome where
  fopen : Bool
  fprintf : Bool
  fclose : Bool
  landed : Nat
  deriving DecidableEq

def WriteOutcome.chars (o : WriteOutcome) (text : CStr) : Nat :=
  if o.fprintf && o.fclose then text.length else o.landed

/-- At most so many endpoints, as the stream extracts them. -/
def readEndpoints : Nat → List Char → List (List Char)
  | 0, _ => []
  | k + 1, ifs =>
    match extract ifs with
    | none => []
    | some (endpoint, ifs) => endpoint :: readEndpoints k ifs

def defaultEndpoints (xreReceiver : Bool) : List (List Char) :=
  if xreReceiver then
    ["xre.ccp.xcal.tv:10601".toList, "google.com".toList, "espn.com".toList]
  else ["google.com".toList, "espn.com".toList, "speedtest.net".toList]

def endpointsString (endpoints : List (List Char)) : CStr :=
  (endpoints.flatMap fun endpoint => cstr endpoint ++ [' ']).map fun c =>
    if c = ' ' then '\n' else c

/-- The file after the call, and its result. -/
def setConnectivityTestEndpoints (o : WriteOutcome) (endpoints : List (List Char))
    (file : Option (List Char)) : Option (List Char) × Bool :=
  if o.fopen = false then (file, false)
  else
    let text := cstr (endpointsString endpoints)
    (some (text.take (o.chars text)), o.fclose)

/-- The endpoints, the file after the call and the result. -/
def getConnectivityTestEndpoints (xreReceiver : Bool) (o : WriteOutcome)
    (endpoints : List (List Char)) (file : Option (List Char)) :
    List (List Char) × Option (List Char) × Nat :=
  let endpoints := endpoints ++
    readEndpoints (maxConnectivityTestEndpoints - endpoints.length) (file.getD [])
  if endpoints.length < 2 then
    let endpoints := endpoints ++ defaultEndpoints xreReceiver
    -- whether they could be written is not looked at
    (endpoints, (setConnectivityTestEndpoints o endpoints file).1, endpoints.length)
  else (endpoints, file, endpoints.length)

/-- Between two and five endpoints, and the same ones at a second call. -/
def GetsSame (xreReceiver : Bool) (o : WriteOutcome) (file : Option (List Char)) : Prop :=
  let r := getConnectivityTestEndpoints xreReceiver o [] file
  2 ≤ r.1.length ∧ r.1.length ≤ maxConnectivityTestEndpoints ∧ r.2.2 = r.1.length ∧
    ∀ o', (getConnectivityTestEndpoints xreReceiver o' [] r.2.1).1 = r.1

structure EndpointList where
  endpoints : List (List Char)
  atLeast : 2 ≤ endpoints.length
  atMost : endpoints.length ≤ maxConnectivityTestEndpoints
  words : ∀ endpoint ∈ endpoints, IsWord endpoint

/-- A call of set that succeeds is followed by a call of get that returns its list. -/
def GetsSet (xreReceiver : Bool) (o : WriteOutcome) (l : EndpointList)
    (file : Option (List Char)) : Prop :=
  (setConnectivityTestEndpoints o l.endpoints file).2 = true →
    ∀ o', (getConnectivityTestEndpoints xreReceiver o' []
      (setConnectivityTestEndpoints o l.endpoints file).1).1 = l.endpoints

/-- The list is read back from the first `n` characters of its text: no endpoint is cut by a NUL,
and the text is complete up to its last newline, or what is missing is added as defaults. -/
def ReadBack (xreReceiver : Bool) (endpoints : List (List Char)) (n : Nat) : Prop :=
  (∀ endpoint ∈ endpoints, '\x00' ∉ endpoint) ∧
    ((endpointsString endpoints).length ≤ n + 1 ∨
      endpoints = defaultEndpoints xreReceiver ∧ n = 0 ∨
      ∃ endpoint, endpoints = endpoint :: defaultEndpoints xreReceiver ∧
        (n = endpoint.length ∨ n = endpoint.length + 1))

/-- Where defaults are added and the file can be opened, the list is read back. -/
def DefaultsKept (xreReceiver : Bool) (o : WriteOutcome) (file : Option (List Char)) : Prop :=
  let read := readEndpoints maxConnectivityTestEndpoints (file.getD [])
  let endpoints := read ++ defaultEndpoints xreReceiver
  read.length < 2 → o.fopen = true →
    ReadBack xreReceiver endpoints (o.chars (cstr (endpointsString endpoints)))

def SetKept (xreReceiver : Bool) (o : WriteOutcome) (l : EndpointList) : Prop :=
  o.fopen = true → o.fclose = true →
    ReadBack xreReceiver l.endpoints (o.chars (cstr (endpointsString l.endpoints)))

/-- What is extracted of words of which the first `n` characters landed. -/
def landedWords : List (List Char) → Nat → List (List Char)
  | [], _ => []
  | endpoint :: endpoints, n =>
    if n = 0 then []
    else if n ≤ endpoint.length then [endpoint.take n]
    else endpoint :: landedWords endpoints (n - (endpoint.length + 1))

def filled (xreReceiver : Bool) (endpoints : List (List Char)) : List (List Char) :=
  if endpoints.length < 2 then endpoints ++ defaultEndpoints xreReceiver else endpoints

def linesOf (endpoints : List (List Char)) : CStr := endpoints.flatMap (· ++ ['\n'])

theorem getConnectivityTestEndpoints_fst (xreReceiver : Bool) (o : WriteOutcome)
    (file : Option (List Char)) :
    (getConnectivityTestEndpoints xreReceiver o [] file).1 =
      filled xreReceiver (readEndpoints maxConnectivityTestEndpoints (file.getD [])) := by
  rw [getConnectivityTestEndpoints, filled]
  dsimp only [List.nil_append, List.length_nil, Nat.sub_zero]
  split
  · rfl
  · rfl

theorem endpointsString_eq (h : ∀ endpoint ∈ endpoints, IsWord endpoint) :
    endpointsString endpoints = linesOf (endpoints.map cstr) := by
  induction endpoints with
  | nil => rfl
  | cons endpoint endpoints ih =>
    have hspace : (cstr endpoint).map (fun c => if c = ' ' then '\n' else c) = cstr endpoint := by
      have hsame : ∀ c ∈ cstr endpoint, (if c = ' ' then '\n' else c) = c := by
        intro c hc
        have hword := (h endpoint List.mem_cons_self).2 c
          ((List.takeWhile_sublist _).subset hc)
        apply if_neg
        rintro rfl
        exact absurd hword (by decide)
      exact (List.map_congr_left hsame).trans (List.map_id' _)
    have ih := ih fun e he => h e (List.mem_cons_of_mem _ he)
    rw [endpointsString] at ih ⊢
    rw [List.flatMap_cons, List.map_append, ih, List.map_append, hspace]
    rfl

theorem nul_not_mem_linesOf (h : ∀ endpoint ∈ endpoints, '\x00' ∉ endpoint) :
    '\x00' ∉ linesOf endpoints := by
  intro hm
  obtain ⟨endpoint, hmem, hm⟩ := List.mem_flatMap.1 hm
  rcases List.mem_append.1 hm with hm | hm
  · exact h endpoint hmem hm
  · exact absurd (List.mem_singleton.1 hm) (by decide)

theorem readEndpoints_isspace (h : isspace c = true) (k : Nat) (s : List Char) :
    readEndpoints k (c :: s) = readEndpoints k s := by
  cases k with
  | zero => rfl
  | succ k => rw [readEndpoints, extract_isspace h, readEndpoints]

theorem readEndpoints_mem (h : endpoint ∈ readEndpoints k s) :
    IsWord endpoint ∧ ∀ c ∈ endpoint, c ∈ s := by
  induction k generalizing s with
  | zero => cases h
  | succ k ih =>
    rw [readEndpoints] at h
    cases hs : extract s with
    | none =>
      rw [hs] at h
      cases h
    | some r =>
      obtain ⟨hword, hsub, hrest⟩ := extract_isWord hs
      rw [hs] at h
      rcases List.mem_cons.1 h with rfl | h
      · exact ⟨hword, fun c hc => hsub.subset hc⟩
      · obtain ⟨hw, hmem⟩ := ih h
        exact ⟨hw, fun c hc => hrest.subset (hmem c hc)⟩

theorem readEndpoints_length (k : Nat) (s : List Char) : (readEndpoints k s).length ≤ k := by
  induction k generalizing s with
  | zero => exact Nat.le_refl 0
  | succ k ih =>
    rw [readEndpoints]
    split
    · exact Nat.zero_le _
    · exact Nat.succ_le_succ (ih _)

theorem isWord_take (h : IsWord w) (hn : n ≠ 0) : IsWord (w.take n) := by
  refine ⟨?_, fun c hc => h.2 c (List.mem_of_mem_take hc)⟩
  intro hnil
  rcases List.take_eq_nil_iff.1 hnil with h' | h'
  · exact hn h'
  · exact h.1 h'

theorem readEndpoints_take (h : ∀ endpoint ∈ endpoints, IsWord endpoint)
    (hk : endpoints.length ≤ k) (n : Nat) :
    readEndpoints k ((linesOf endpoints).take n) = landedWords endpoints n := by
  induction endpoints generalizing k n with
  | nil =>
    have hnil : (linesOf []).take n = [] := List.take_nil
    rw [hnil]
    cases k with
    | zero => rfl
    | succ k => rfl
  | cons endpoint endpoints ih =>
    have hword := h endpoint List.mem_cons_self
    have hnl : isspace '\n' = true := rfl
    obtain ⟨k, rfl⟩ := Nat.exists_eq_succ_of_ne_zero (n := k) (by
      intro hzero
      rw [hzero] at hk
      cases hk)
    have hlines : linesOf (endpoint :: endpoints) = endpoint ++ '\n' :: linesOf endpoints := by
      rw [linesOf, List.flatMap_cons, List.append_assoc, List.singleton_append, linesOf]
    rw [hlines, landedWords]
    by_cases hzero : n = 0
    · rw [if_pos hzero, hzero]
      rfl
    rw [if_neg hzero]
    by_cases hn : n ≤ endpoint.length
    · rw [if_pos hn, List.take_append_of_le_length hn, readEndpoints,
        (isWord_take hword hzero).extract_eq]
      dsimp only
      cases k with
      | zero => rfl
      | succ k => rfl
    · rw [if_neg hn, take_append_cons (Nat.not_le.1 hn), readEndpoints, hword.extract_append hnl]
      dsimp only
      rw [readEndpoints_isspace hnl,
        ih (fun e he => h e (List.mem_cons_of_mem _ he)) (Nat.le_of_succ_le_succ hk)]

theorem linesOf_cons_length (endpoint : List Char) (endpoints : List (List Char)) :
    (linesOf (endpoint :: endpoints)).length =
      endpoint.length + 1 + (linesOf endpoints).length := by
  rw [linesOf, List.flatMap_cons, List.length_append, List.length_append, linesOf]
  rfl

theorem take_eq_self_iff_of_le {s : List α} (hn : n ≤ s.length) : s.take n = s ↔ n = s.length := by
  rw [List.take_eq_self_iff]
  omega

/-- The words are complete once all characters but the last newline landed. -/
theorem landedWords_eq_iff (h : ∀ endpoint ∈ endpoints, IsWord endpoint) (hne : endpoints ≠ [])
    (n : Nat) : landedWords endpoints n = endpoints ↔ (linesOf endpoints).length ≤ n + 1 := by
  induction endpoints generalizing n with
  | nil => exact absurd rfl hne
  | cons endpoint endpoints ih =>
    have hlen : 0 < endpoint.length := List.length_pos_iff.2 (h endpoint List.mem_cons_self).1
    have hh := fun e he => h e (List.mem_cons_of_mem endpoint he)
    rw [landedWords, linesOf_cons_length]
    by_cases hzero : n = 0
    · rw [if_pos hzero]
      apply iff_of_false
      · exact fun hnil => by cases hnil
      · omega
    rw [if_neg hzero]
    by_cases hn : n ≤ endpoint.length
    · rw [if_pos hn, List.cons.injEq, take_eq_self_iff_of_le hn]
      cases endpoints with
      | nil =>
        have hnil : (linesOf []).length = 0 := rfl
        rw [hnil, and_iff_left rfl]
        omega
      | cons endpoint' endpoints =>
        have hlen' : 0 < endpoint'.length :=
          List.length_pos_iff.2 (hh endpoint' List.mem_cons_self).1
        rw [linesOf_cons_length]
        apply iff_of_false
        · intro hand
          cases hand.2
        · omega
    · rw [if_neg hn, List.cons.injEq, and_iff_right rfl]
      cases endpoints with
      | nil =>
        have hnil : (linesOf []).length = 0 := rfl
        rw [hnil]
        apply iff_of_true rfl
        omega
      | cons endpoint' endpoints =>
        rw [ih hh (List.cons_ne_nil _ _)]
        have hlen' : 0 < endpoint'.length :=
          List.length_pos_iff.2 (hh endpoint' List.mem_cons_self).1
        rw [linesOf_cons_length]
        omega

theorem landedWords_ne_nil (hn : n ≠ 0) (endpoint : List Char) (endpoints : List (List Char)) :
    landedWords (endpoint :: endpoints) n ≠ [] := by
  rw [landedWords, if_neg hn]
  split
  · exact List.cons_ne_nil _ _
  · exact List.cons_ne_nil _ _

theorem filled_landed_iff (xreReceiver : Bool) (h : ∀ endpoint ∈ endpoints, IsWord endpoint)
    (hlen : 2 ≤ endpoints.length) (n : Nat) :
    filled xreReceiver (landedWords endpoints n) = endpoints ↔
      (linesOf endpoints).length ≤ n + 1 ∨
        endpoints = defaultEndpoints xreReceiver ∧ n = 0 ∨
        ∃ endpoint, endpoints = endpoint :: defaultEndpoints xreReceiver ∧
          (n = endpoint.length ∨ n = endpoint.length + 1) := by
  match endpoints, h, hlen with
  | endpoint :: endpoint' :: endpoints, h, _ =>
    have hpos : 0 < endpoint.length := List.length_pos_iff.2 (h endpoint List.mem_cons_self).1
    have hpos' : 0 < endpoint'.length :=
      List.length_pos_iff.2 (h endpoint' (List.mem_cons_of_mem _ List.mem_cons_self)).1
    have hlines := linesOf_cons_length endpoint (endpoint' :: endpoints)
    have hlines' := linesOf_cons_length endpoint' endpoints
    have hone (w : List Char) : filled xreReceiver [w] = endpoint :: endpoint' :: endpoints ↔
        w = endpoint ∧ defaultEndpoints xreReceiver = endpoint' :: endpoints := by
      rw [← List.cons.injEq]
      rfl
    have hthird : (∃ e, endpoint :: endpoint' :: endpoints = e :: defaultEndpoints xreReceiver ∧
        (n = e.length ∨ n = e.length + 1)) ↔
        defaultEndpoints xreReceiver = endpoint' :: endpoints ∧
          (n = endpoint.length ∨ n = endpoint.length + 1) := by
      apply Iff.intro
      · intro hex
        obtain ⟨e, heq, hn⟩ := hex
        obtain ⟨rfl, hrest⟩ := List.cons.inj heq
        exact ⟨hrest.symm, hn⟩
      · intro hand
        exact ⟨endpoint, congrArg (endpoint :: ·) hand.1.symm, hand.2⟩
    rw [hthird]
    by_cases hzero : n = 0
    · subst hzero
      have hshort : ¬ (linesOf (endpoint :: endpoint' :: endpoints)).length ≤ 0 + 1 := by omega
      have hno : ¬ (0 = endpoint.length ∨ 0 = endpoint.length + 1) := by omega
      rw [or_iff_right hshort, and_iff_left rfl, or_iff_left (fun hand => hno hand.2), eq_comm]
      rfl
    by_cases hfew : n ≤ endpoint.length + 1
    · have hshort : ¬ (linesOf (endpoint :: endpoint' :: endpoints)).length ≤ n + 1 := by omega
      rw [or_iff_right hshort, or_iff_right (fun hand => hzero hand.2), landedWords,
        if_neg hzero]
      by_cases hn : n ≤ endpoint.length
      · rw [if_pos hn, hone, take_eq_self_iff_of_le hn, and_comm]
        apply and_congr_right
        intro _
        omega
      · have hm : n - (endpoint.length + 1) = 0 := by omega
        rw [if_neg hn, hm, landedWords, if_pos rfl, hone, and_iff_right rfl]
        exact (and_iff_left (Or.inr (by omega))).symm
    · have hm : n - (endpoint.length + 1) ≠ 0 := by omega
      have hno : ¬ (n = endpoint.length ∨ n = endpoint.length + 1) := by omega
      have htwo : ¬ (landedWords (endpoint :: endpoint' :: endpoints) n).length < 2 := by
        have hrest := List.length_pos_iff.2 (landedWords_ne_nil hm endpoint' endpoints)
        rw [landedWords, if_neg hzero, if_neg (by omega), List.length_cons]
        omega
      rw [filled, if_neg htwo, landedWords_eq_iff h (List.cons_ne_nil _ _),
        or_iff_left (fun hor => hor.elim (fun hand => hzero hand.2) (fun hand => hno hand.2))]

theorem defaultEndpoints_plain (xreReceiver : Bool) (h : e ∈ defaultEndpoints xreReceiver) :
    IsWord e ∧ '\x00' ∉ e := by
  have hall : ∀ b, ((defaultEndpoints b).all fun e =>
      !e.isEmpty && e.all fun c => !isspace c && decide (c ≠ '\x00')) = true := by
    decide
  have hplain := List.all_eq_true.1 (hall xreReceiver) e h
  rw [Bool.and_eq_true, List.all_eq_true] at hplain
  obtain ⟨hne, hchars⟩ := hplain
  refine ⟨⟨?_, ?_⟩, ?_⟩
  · rintro rfl
    cases hne
  · intro c hc
    have hand := Bool.and_eq_true_iff.1 (hchars c hc)
    rw [Bool.not_eq_true'] at hand
    exact hand.1
  · intro hc
    exact of_decide_eq_true (Bool.and_eq_true_iff.1 (hchars _ hc)).2 rfl

theorem defaultEndpoints_length (xreReceiver : Bool) :
    (defaultEndpoints xreReceiver).length = 3 := by
  cases xreReceiver with
  | true => rfl
  | false => rfl

theorem mem_filled (h : e ∈ filled xreReceiver endpoints) :
    e ∈ endpoints ∨ e ∈ defaultEndpoints xreReceiver := by
  rw [filled] at h
  split at h
  · exact List.mem_append.1 h
  · exact Or.inl h

theorem readBack_iff (xreReceiver : Bool) (o : WriteOutcome)
    (h : ∀ endpoint ∈ endpoints, IsWord endpoint) (hmin : 2 ≤ endpoints.length)
    (hmax : endpoints.length ≤ maxConnectivityTestEndpoints) (n : Nat) :
    (getConnectivityTestEndpoints xreReceiver o []
      (some ((cstr (endpointsString endpoints)).take n))).1 = endpoints ↔
      ReadBack xreReceiver endpoints n := by
  have hnul : '\x00' ∉ endpointsString endpoints := by
    rw [endpointsString_eq h]
    apply nul_not_mem_linesOf
    intro e he
    obtain ⟨e', _, rfl⟩ := List.mem_map.1 he
    exact nul_not_mem_cstr e'
  rw [getConnectivityTestEndpoints_fst, Option.getD_some, cstr_eq_self hnul, ReadBack]
  by_cases hall : ∀ endpoint ∈ endpoints, '\x00' ∉ endpoint
  · have hsame : endpoints.map cstr = endpoints :=
      (List.map_congr_left fun e he => cstr_eq_self (hall e he)).trans (List.map_id' _)
    rw [and_iff_right hall, endpointsString_eq h, hsame, readEndpoints_take h hmax]
    exact filled_landed_iff xreReceiver h hmin n
  · apply iff_of_false
    · intro heq
      apply hall
      intro e he hm
      rw [← heq] at he
      rcases mem_filled he with he | he
      · exact hnul (List.mem_of_mem_take ((readEndpoints_mem he).2 _ hm))
      · exact (defaultEndpoints_plain xreReceiver he).2 hm
    · exact fun hand => hall hand.1

theorem setConnectivityTestEndpoints_opened (h : o.fopen = true)
    (endpoints : List (List Char)) (file : Option (List Char)) :
    setConnectivityTestEndpoints o endpoints file =
      (some ((cstr (endpointsString endpoints)).take
        (o.chars (cstr (endpointsString endpoints)))), o.fclose) := by
  rw [setConnectivityTestEndpoints, h]
  exact if_neg Bool.noConfusion

theorem setConnectivityTestEndpoints_closed (h : o.fopen = false)
    (endpoints : List (List Char)) (file : Option (List Char)) :
    setConnectivityTestEndpoints o endpoints file = (file, false) := by
  rw [setConnectivityTestEndpoints]
  exact if_pos h

theorem getsSame_iff (xreReceiver : Bool) (o : WriteOutcome) (file : Option (List Char)) :
    GetsSame xreReceiver o file ↔ DefaultsKept xreReceiver o file := by
  rw [GetsSame, DefaultsKept]
  have hread : ∀ e ∈ readEndpoints maxConnectivityTestEndpoints (file.getD []), IsWord e :=
    fun e he => (readEndpoints_mem he).1
  have hmax := readEndpoints_length maxConnectivityTestEndpoints (file.getD [])
  have hagain (o' : WriteOutcome) := getConnectivityTestEndpoints_fst xreReceiver o' file
  have hget : getConnectivityTestEndpoints xreReceiver o [] file =
      let read := readEndpoints maxConnectivityTestEndpoints (file.getD [])
      let endpoints := read ++ defaultEndpoints xreReceiver
      if read.length < 2 then
        (endpoints, (setConnectivityTestEndpoints o endpoints file).1, endpoints.length)
      else (read, file, read.length) := rfl
  rw [hget]
  generalize readEndpoints maxConnectivityTestEndpoints (file.getD []) = read at *
  dsimp only
  by_cases hfew : read.length < 2
  · have hlen : (read ++ defaultEndpoints xreReceiver).length = read.length + 3 := by
      rw [List.length_append, defaultEndpoints_length]
    have hwords : ∀ e ∈ read ++ defaultEndpoints xreReceiver, IsWord e := by
      intro e he
      rcases List.mem_append.1 he with he | he
      · exact hread e he
      · exact (defaultEndpoints_plain xreReceiver he).1
    have hmin : 2 ≤ (read ++ defaultEndpoints xreReceiver).length := by omega
    have hmax' : (read ++ defaultEndpoints xreReceiver).length ≤ maxConnectivityTestEndpoints := by
      rw [hlen, maxConnectivityTestEndpoints]
      omega
    rw [if_pos hfew, forall_prop_of_true hfew]
    dsimp only
    rw [and_iff_right hmin, and_iff_right hmax', and_iff_right rfl]
    cases hopen : o.fopen with
    | false =>
      rw [setConnectivityTestEndpoints_closed hopen]
      apply iff_of_true
      · intro o'
        rw [hagain, filled, if_pos hfew]
      · exact fun hfalse => by cases hfalse
    | true =>
      rw [setConnectivityTestEndpoints_opened hopen, forall_prop_of_true rfl]
      apply Iff.intro
      · intro hsame
        exact (readBack_iff xreReceiver o hwords hmin hmax' _).1 (hsame o)
      · intro hback o'
        exact (readBack_iff xreReceiver o' hwords hmin hmax' _).2 hback
  · rw [if_neg hfew]
    apply iff_of_true
    · refine ⟨Nat.le_of_not_lt hfew, hmax, rfl, fun o' => ?_⟩
      rw [hagain, filled, if_neg hfew]
    · exact fun hlt => absurd hlt hfew

theorem getsSet_iff (xreReceiver : Bool) (o : WriteOutcome) (l : EndpointList)
    (file : Option (List Char)) :
    GetsSet xreReceiver o l file ↔ SetKept xreReceiver o l := by
  rw [GetsSet, SetKept]
  cases hopen : o.fopen with
  | false =>
    rw [setConnectivityTestEndpoints_closed hopen]
    exact iff_of_true (fun hfalse => by cases hfalse) (fun hfalse => by cases hfalse)
  | true =>
    rw [setConnectivityTestEndpoints_opened hopen, forall_prop_of_true rfl]
    apply imp_congr_right
    intro _
    apply Iff.intro
    · intro hsame
      exact (readBack_iff xreReceiver o l.words l.atLeast l.atMost _).1 (hsame o)
    · intro hback o'
      exact (readBack_iff xreReceiver o' l.words l.atLeast l.atMost _).2 hback

/-- Both round trips, each exactly where what is written can be read back. -/
theorem connectivityTestEndpoints_roundTrips_iff (xreReceiver : Bool) (o : WriteOutcome)
    (file : Option (List Char)) :
    (GetsSame xreReceiver o file ↔ DefaultsKept xreReceiver o file) ∧
      ∀ l, GetsSet xreReceiver o l file ↔ SetKept xreReceiver o l :=
  ⟨getsSame_iff xreReceiver o file, fun l => getsSet_iff xreReceiver o l file⟩

/-- The disk fills up after eight characters. -/
def fullAfterEight : WriteOutcome where
  fopen := true
  fprintf := true
  fclose := false
  landed := 8

/-- Of the defaults for an empty file, a part of the first one lands and is an endpoint then. -/
theorem connectivityTestEndpoints_partialDefaults :
    ¬ ∀ (xreReceiver : Bool) (o : WriteOutcome) (file : Option (List Char)),
      GetsSame xreReceiver o file ∧ ∀ l, GetsSet xreReceiver o l file := by
  intro h
  obtain ⟨_, _, _, hsame⟩ := (h false fullAfterEight none).1
  have hagain := hsame fullAfterEight
  exact absurd hagain (by decide)

end NetSrvMgr.Connectivity
