import NetSrvMgr.CString

namespace NetSrvMgr.Moca
open CString
set_option autoImplicit true

/-- A line of the log, by the macro that writes it. -/
inductive LogLine
  | info (text : CStr)
  | err (text : CStr)
  deriving DecidableEq

/-- What `%d` prints of a word. -/
def printD (v : BitVec 32) : CStr :=
  if v.msb then '-' :: Nat.toDigits 10 (-v).toNat else Nat.toDigits 10 v.toNat

/-- `RMH_LINK_STATUS_UP` and `RMH_MAX_MOCA_NODES`. -/
structure Abi where
  linkStatusUp : BitVec 32
  maxMocaNodes : Nat

/-- What the functions of the RMH library answer to one report, and what `ncNodeID` and
`selfNodeId` hold before they are set. A power is given as `%2.02f` prints it. -/
structure Rmh where
  linkStatus : Option (BitVec 32)
  mocaVersion : Option CStr
  ncNodeId : Option (BitVec 32)
  ncMac : Option CStr
  numNodes : Option (BitVec 32)
  nodeId : Option (BitVec 32)
  associatedIds : Option (Nat → Bool)
  rxUnicastPhyRate : Nat → Option (BitVec 32)
  txUnicastPhyRate : Nat → Option (BitVec 32)
  rxUnicastPower : Nat → Option CStr
  txPowerReduction : Nat → Option (BitVec 32)
  powerPlain : ∀ i text, rxUnicastPower i = some text → ',' ∉ text
  unset : BitVec 32 × BitVec 32

/-- One of the four loops over the nodes: its texts, and what it asks about a node. -/
structure Measure where
  line : String
  failed : String
  summary : String
  text : Rmh → Nat → Option CStr

def phyRxRate : Measure where
  line := "TELEMETRY_MOCA_PHYRXRATE_"
  failed := "Failed calling RemoteNode_GetRxUnicastPhyRate!"
  summary := "TELEMETRY_MOCA_PHY_RX_RATE:"
  text r i := (r.rxUnicastPhyRate i).map printD

def phyTxRate : Measure where
  line := "TELEMETRY_MOCA_PHYTXRATE_"
  failed := "Failed calling RMH_RemoteNode_GetTxUnicastPhyRate!"
  summary := "TELEMETRY_MOCA_PHY_TX_RATE:"
  text r i := (r.txUnicastPhyRate i).map printD

def rxPower : Measure where
  line := "TELEMETRY_MOCA_RXPOWER_"
  failed := "Failed calling RemoteNode_GetRxUnicastPower!"
  summary := "TELEMETRY_MOCA_RX_POWER:"
  text r i := r.rxUnicastPower i

def txPowerReduction : Measure where
  line := "TELEMETRY_MOCA_TXPOWERREDUCTION_"
  failed := "Failed calling RMH_RemoteNode_GetTxPowerReduction!"
  summary := "TELEMETRY_MOCA_TX_POWER_REDUCTION:"
  text r i := (r.txPowerReduction i).map printD

def measures : List Measure := [phyRxRate, phyTxRate, rxPower, txPowerReduction]

/-- The loop over the nodes: the lines, and `resString` after it. -/
def nodeLoop (m : Measure) (r : Rmh) (nodePresent : Nat → Bool) (selfNodeId : BitVec 32) :
    List Nat → CStr → List LogLine × CStr
  | [], resString => ([], resString)
  | i :: nodes, resString =>
    if nodePresent i then
      match m.text r i with
      | none =>
        let q := nodeLoop m r nodePresent selfNodeId nodes resString
        (.err m.failed.toList :: q.1, q.2)
      | some text =>
        let q := nodeLoop m r nodePresent selfNodeId nodes (resString ++ text ++ [','])
        (.info (m.line.toList ++ printD selfNodeId ++ '_' :: Nat.toDigits 10 i ++ ':' :: text) ::
          q.1, q.2)
    else nodeLoop m r nodePresent selfNodeId nodes resString

/-- A loop, and the summary without the last comma. -/
def printNodes (abi : Abi) (r : Rmh) (nodePresent : Nat → Bool) (selfNodeId : BitVec 32)
    (m : Measure) : List LogLine :=
  let q := nodeLoop m r nodePresent selfNodeId (List.range abi.maxMocaNodes) []
  q.1 ++ if 0 < q.2.length then [.info (m.summary.toList ++ q.2.dropLast)] else []

/-- A line with a value of the library, or the message that it could not be had. -/
def printValue (title failed : String) (value : Option CStr) : LogLine :=
  match value with
  | none => .err failed.toList
  | some text => .info (title.toList ++ text)

/-- `bFirst` after the call, and the lines. -/
def printMocaTelemetry (abi : Abi) (bFirst : Bool) (r : Rmh) : Bool × List LogLine :=
  match r.linkStatus with
  | none => (bFirst, [.err "Failed calling RMH_Self_GetLinkStatus!".toList])
  | some status =>
    if status = abi.linkStatusUp then
      let selfNodeId := r.nodeId.getD r.unset.2
      let ncNodeID := r.ncNodeId.getD r.unset.1
      let isNc := if selfNodeId = ncNodeID then "1" else "0"
      let nodes :=
        match r.nodeId with
        | none => [.err "Failed calling RMH_Network_GetNodeId!".toList]
        | some selfNodeId =>
          match r.associatedIds with
          | none => [.err "Failed calling RMH_Network_GetAssociatedIds!".toList]
          | some nodePresent => measures.flatMap (printNodes abi r nodePresent selfNodeId)
      (false,
        [.info "TELEMETRY_MOCA_STATUS:UP".toList] ++
          (if bFirst then
            [.info ("TELEMETRY_MOCA_LINK_STATUS_CHANGED:".toList ++ printD status),
              printValue "TELEMETRY_MOCA_VERSION_CHANGED:"
                "Failed calling RMH_Network_GetMoCAVersion!" r.mocaVersion]
          else []) ++
          [printValue "TELEMETRY_MOCA_NC_NODEID:" "Failed calling RMH_Network_GetNCNodeId!"
              (r.ncNodeId.map printD),
            printValue "TELEMETRY_MOCA_NC_MAC:" "Failed calling RMH_Network_GetNCMacString!"
              r.ncMac,
            printValue "TELEMETRY_MOCA_TOTAL_NODE:" "Failed calling RMH_Network_GetNumNodes!"
              (r.numNodes.map printD)] ++
          nodes ++ [.info ("TELEMETRY_MOCA_IS_CURRENT_NODE_NC:".toList ++ isNc.toList)])
    else (bFirst, [.info "TELEMETRY_MOCA_STATUS:DOWN".toList])

/-- What the nodes in the network answer, in the order of their numbers. -/
def values (abi : Abi) (r : Rmh) (nodePresent : Nat → Bool) (m : Measure) : List CStr :=
  (List.range abi.maxMocaNodes).filterMap fun i => if nodePresent i then m.text r i else none

/-- The values that a line of the log gives as the summary of a measure. -/
def readSummary (m : Measure) : LogLine → Option (List CStr)
  | .info text =>
    if m.summary.toList <+: text then some ((text.drop m.summary.toList.length).splitOn ',')
    else none
  | .err _ => none

theorem nodeLoop_resString (m : Measure) (r : Rmh) (nodePresent : Nat → Bool)
    (selfNodeId : BitVec 32) (nodes : List Nat) (resString : CStr) :
    (nodeLoop m r nodePresent selfNodeId nodes resString).2 = resString ++
      (nodes.filterMap fun i => if nodePresent i then m.text r i else none).flatMap
        (· ++ [',']) := by
  induction nodes generalizing resString with
  | nil => exact (List.append_nil _).symm
  | cons i nodes ih =>
    rw [nodeLoop]
    cases hpresent : nodePresent i with
    | false =>
      rw [if_neg Bool.false_ne_true, ih, List.filterMap_cons_none (by rw [hpresent]; rfl)]
    | true =>
      rw [if_pos rfl]
      cases htext : m.text r i with
      | none =>
        rw [List.filterMap_cons_none (by rw [hpresent]; exact htext)]
        exact ih resString
      | some text =>
        rw [List.filterMap_cons_some (by rw [hpresent]; exact htext), List.flatMap_cons]
        dsimp only
        rw [ih, List.append_assoc, List.append_assoc, List.append_assoc]

/-- Each value written with a comma behind it, and the last comma taken off again. -/
theorem dropLast_flatMap_comma (h : texts ≠ ([] : List CStr)) :
    (texts.flatMap (· ++ [','])).dropLast = [','].intercalate texts := by
  induction texts with
  | nil => exact absurd rfl h
  | cons text texts ih =>
    cases texts with
    | nil =>
      rw [List.flatMap_cons, List.flatMap_nil, List.append_nil, List.dropLast_concat,
        List.intercalate_singleton]
    | cons next texts =>
      have hne : (next :: texts).flatMap (· ++ [',']) ≠ [] := by
        rw [List.flatMap_cons]
        exact List.append_ne_nil_of_left_ne_nil
          (List.append_ne_nil_of_right_ne_nil _ (List.cons_ne_nil _ _)) _
      rw [List.flatMap_cons, List.dropLast_append_of_ne_nil hne, ih (List.cons_ne_nil _ _),
        List.intercalate_cons_cons]

theorem toDigits_plain (n : Nat) : ',' ∉ Nat.toDigits 10 n := by
  intro h
  exact absurd (Nat.isDigit_of_mem_toDigits (by decide) (by decide) h) (by decide)

theorem printD_plain (v : BitVec 32) : ',' ∉ printD v := by
  rw [printD]
  split
  · intro h
    rcases List.mem_cons.1 h with h | h
    · exact absurd h (by decide)
    · exact toDigits_plain _ h
  · exact toDigits_plain _

theorem text_plain (hm : m ∈ measures) (r : Rmh) (i : Nat) (text : CStr)
    (h : m.text r i = some text) : ',' ∉ text := by
  have hmap : ∀ o : Option (BitVec 32), o.map printD = some text → ',' ∉ text := by
    intro o ho
    obtain ⟨v, _, rfl⟩ := Option.map_eq_some_iff.1 ho
    exact printD_plain v
  simp only [measures, List.mem_cons, List.not_mem_nil, or_false] at hm
  rcases hm with rfl | rfl | rfl | rfl
  · exact hmap _ h
  · exact hmap _ h
  · exact r.powerPlain i text h
  · exact hmap _ h

theorem values_plain (hm : m ∈ measures) (h : text ∈ values abi r nodePresent m) :
    ',' ∉ text := by
  obtain ⟨i, _, hi⟩ := List.mem_filterMap.1 h
  cases hpresent : nodePresent i with
  | false =>
    rw [hpresent] at hi
    cases hi
  | true =>
    rw [hpresent] at hi
    exact text_plain hm r i text hi

/-- Neither text begins with the other. -/
def apart (s t : String) : Bool :=
  !s.toList.isPrefixOf t.toList && !t.toList.isPrefixOf s.toList

/-- The titles of the lines that are not about single nodes. -/
def titles : List String :=
  ["TELEMETRY_MOCA_STATUS:UP", "TELEMETRY_MOCA_LINK_STATUS_CHANGED:",
    "TELEMETRY_MOCA_VERSION_CHANGED:", "TELEMETRY_MOCA_NC_NODEID:", "TELEMETRY_MOCA_NC_MAC:",
    "TELEMETRY_MOCA_TOTAL_NODE:", "TELEMETRY_MOCA_IS_CURRENT_NODE_NC:"]

theorem titles_apart : ∀ m ∈ measures, ∀ t ∈ titles, apart m.summary t = true := by
  decide +kernel

theorem measures_apart : ∀ m ∈ measures, ∀ m' ∈ measures,
    apart m.summary m'.line = true ∧
      (m.summary = m'.summary ∨ apart m.summary m'.summary = true) := by
  decide +kernel

theorem readSummary_apart (h : apart m.summary title = true) (text : CStr) :
    readSummary m (.info (title.toList ++ text)) = none := by
  rw [apart, Bool.and_eq_true, Bool.not_eq_true', Bool.not_eq_true'] at h
  refine if_neg fun hp => ?_
  rcases List.prefix_or_prefix_of_prefix hp (List.prefix_append title.toList text) with hp | hp
  · exact Bool.false_ne_true (h.1.symm.trans (List.isPrefixOf_iff_prefix.2 hp))
  · exact Bool.false_ne_true (h.2.symm.trans (List.isPrefixOf_iff_prefix.2 hp))

theorem readSummary_printValue (h : apart m.summary title = true) (failed : String)
    (value : Option CStr) : readSummary m (printValue title failed value) = none := by
  cases value with
  | none => rfl
  | some text => exact readSummary_apart h text

theorem readSummary_own (m : Measure) (text : CStr) :
    readSummary m (.info (m.summary.toList ++ text)) = some (text.splitOn ',') := by
  rw [readSummary, if_pos (List.prefix_append _ _), List.drop_left]

theorem readSummary_nodeLoop (h : apart m.summary m'.line = true) (r : Rmh)
    (nodePresent : Nat → Bool) (selfNodeId : BitVec 32) (nodes : List Nat) (resString : CStr) :
    (nodeLoop m' r nodePresent selfNodeId nodes resString).1.filterMap (readSummary m) = [] := by
  induction nodes generalizing resString with
  | nil => rfl
  | cons i nodes ih =>
    rw [nodeLoop]
    cases nodePresent i with
    | false => exact ih resString
    | true =>
      rw [if_pos rfl]
      cases m'.text r i with
      | none => exact (List.filterMap_cons_none rfl).trans (ih resString)
      | some text =>
        have hline := readSummary_apart h
          (printD selfNodeId ++ '_' :: Nat.toDigits 10 i ++ ':' :: text)
        rw [← List.append_assoc, ← List.append_assoc] at hline
        exact (List.filterMap_cons_none hline).trans (ih _)

theorem printNodes_eq (abi : Abi) (r : Rmh) (nodePresent : Nat → Bool) (selfNodeId : BitVec 32)
    (m : Measure) : printNodes abi r nodePresent selfNodeId m =
      (nodeLoop m r nodePresent selfNodeId (List.range abi.maxMocaNodes) []).1 ++
        if values abi r nodePresent m = [] then []
        else [.info (m.summary.toList ++ [','].intercalate (values abi r nodePresent m))] := by
  rw [printNodes, nodeLoop_resString, List.nil_append]
  change _ ++ (if 0 < ((values abi r nodePresent m).flatMap (· ++ [','])).length then
    [LogLine.info (m.summary.toList ++
      ((values abi r nodePresent m).flatMap (· ++ [','])).dropLast)] else []) = _
  congr 1
  cases hv : values abi r nodePresent m with
  | nil => rfl
  | cons text texts =>
    have hpos : 0 < ((text :: texts).flatMap (· ++ [','])).length := by
      rw [List.flatMap_cons, List.append_assoc, List.length_append, List.length_append,
        List.length_singleton]
      omega
    rw [if_pos hpos, if_neg (List.cons_ne_nil _ _), dropLast_flatMap_comma (List.cons_ne_nil _ _)]

theorem readSummary_printNodes_own (hm : m ∈ measures) (abi : Abi) (r : Rmh)
    (nodePresent : Nat → Bool) (selfNodeId : BitVec 32) :
    (printNodes abi r nodePresent selfNodeId m).filterMap (readSummary m) =
      if values abi r nodePresent m = [] then [] else [values abi r nodePresent m] := by
  rw [printNodes_eq, List.filterMap_append,
    readSummary_nodeLoop (measures_apart m hm m hm).1, List.nil_append]
  split
  case isTrue hnone => rfl
  case isFalse hsome =>
    have hsplit : ([','].intercalate (values abi r nodePresent m)).splitOn ',' =
        values abi r nodePresent m :=
      List.splitOn_intercalate ',' (fun text htext => values_plain hm htext) hsome
    rw [List.filterMap_cons_some (readSummary_own m _), List.filterMap_nil, hsplit]

theorem readSummary_printNodes_other (hm : m ∈ measures) (hm' : m' ∈ measures)
    (hne : m.summary ≠ m'.summary) (abi : Abi) (r : Rmh) (nodePresent : Nat → Bool)
    (selfNodeId : BitVec 32) :
    (printNodes abi r nodePresent selfNodeId m').filterMap (readSummary m) = [] := by
  obtain ⟨hline, hsummary⟩ := measures_apart m hm m' hm'
  rw [printNodes_eq, List.filterMap_append, readSummary_nodeLoop hline, List.nil_append]
  split
  · rfl
  · exact List.filterMap_cons_none (readSummary_apart (hsummary.resolve_left hne) _)

theorem readSummary_measures (hm : m ∈ measures) (abi : Abi) (r : Rmh)
    (nodePresent : Nat → Bool) (selfNodeId : BitVec 32) :
    (measures.flatMap (printNodes abi r nodePresent selfNodeId)).filterMap (readSummary m) =
      if values abi r nodePresent m = [] then [] else [values abi r nodePresent m] := by
  have hown := readSummary_printNodes_own hm abi r nodePresent selfNodeId
  have hother : ∀ m' ∈ measures, m.summary ≠ m'.summary →
      (printNodes abi r nodePresent selfNodeId m').filterMap (readSummary m) = [] :=
    fun m' hm' hne => readSummary_printNodes_other hm hm' hne abi r nodePresent selfNodeId
  simp only [measures, List.mem_cons, List.not_mem_nil, or_false, forall_eq_or_imp,
    forall_eq] at hm hother
  obtain ⟨hrx, htx, hpower, hreduction⟩ := hother
  simp only [measures, List.flatMap_cons, List.flatMap_nil, List.append_nil,
    List.filterMap_append]
  rcases hm with rfl | rfl | rfl | rfl
  · simp only [hown, htx (by decide), hpower (by decide), hreduction (by decide), List.append_nil]
  · simp only [hown, hrx (by decide), hpower (by decide), hreduction (by decide), List.append_nil,
      List.nil_append]
  · simp only [hown, hrx (by decide), htx (by decide), hreduction (by decide), List.append_nil,
      List.nil_append]
  · simp only [hown, hrx (by decide), htx (by decide), hpower (by decide), List.nil_append]

/-- What a report has to say about a measure. -/
def answered (abi : Abi) (r : Rmh) (m : Measure) : List (List CStr) :=
  match r.linkStatus, r.nodeId, r.associatedIds with
  | some status, some _, some nodePresent =>
    if status = abi.linkStatusUp ∧ values abi r nodePresent m ≠ [] then
      [values abi r nodePresent m]
    else []
  | _, _, _ => []

theorem readSummary_printMocaTelemetry (hm : m ∈ measures) (abi : Abi) (bFirst : Bool) (r : Rmh) :
    (printMocaTelemetry abi bFirst r).2.filterMap (readSummary m) = answered abi r m := by
  have htitle : ∀ t ∈ titles, apart m.summary t = true := titles_apart m hm
  simp only [titles, List.mem_cons, List.not_mem_nil, or_false, forall_eq_or_imp,
    forall_eq] at htitle
  obtain ⟨hup, hlink, hversion, hid, hmac, htotal, hnc⟩ := htitle
  have hupline : readSummary m (.info "TELEMETRY_MOCA_STATUS:UP".toList) = none := by
    rw [← List.append_nil "TELEMETRY_MOCA_STATUS:UP".toList]
    exact readSummary_apart hup []
  have hdown : readSummary m (.info "TELEMETRY_MOCA_STATUS:DOWN".toList) = none := by
    revert m
    decide +kernel
  rw [printMocaTelemetry, answered]
  cases r.linkStatus with
  | none => rfl
  | some status =>
    by_cases hstatus : status = abi.linkStatusUp
    · have hbFirst : (if bFirst then
          [.info ("TELEMETRY_MOCA_LINK_STATUS_CHANGED:".toList ++ printD status),
            printValue "TELEMETRY_MOCA_VERSION_CHANGED:"
              "Failed calling RMH_Network_GetMoCAVersion!" r.mocaVersion]
        else []).filterMap (readSummary m) = [] := by
        cases bFirst with
        | false => rfl
        | true =>
          exact (List.filterMap_cons_none (readSummary_apart hlink _)).trans
            (List.filterMap_cons_none (readSummary_printValue hversion _ _))
      simp only [if_pos hstatus, List.filterMap_append, hbFirst, List.filterMap_cons,
        List.filterMap_nil, hupline, readSummary_printValue hid, readSummary_printValue hmac,
        readSummary_printValue htotal, readSummary_apart hnc, List.nil_append, List.append_nil]
      cases r.nodeId with
      | none => cases r.associatedIds <;> rfl
      | some selfNodeId =>
        cases r.associatedIds with
        | none => rfl
        | some nodePresent =>
          dsimp only
          rw [readSummary_measures hm]
          by_cases hnone : values abi r nodePresent m = []
          · rw [if_pos hnone, if_neg fun h => h.2 hnone]
          · rw [if_neg hnone, if_pos ⟨hstatus, hnone⟩]
    · simp only [if_neg hstatus, List.filterMap_cons, hdown, List.filterMap_nil]
      cases r.nodeId with
      | none => rfl
      | some selfNodeId =>
        cases r.associatedIds with
        | none => rfl
        | some nodePresent => exact (if_neg fun h => hstatus h.1).symm

end NetSrvMgr.Moca
