import NetSrvMgr.DeviceProperties

namespace NetSrvMgr.DevFile
open CString
set_option autoImplicit true

theorem firstNaming_of_mem {pairs : List (Iface × CStr)} (h : (i, v) ∈ pairs) :
    firstNaming v pairs ≠ none := by
  intro hnone
  have hfind := List.find?_eq_none.1 (Option.map_eq_none_iff.1 hnone) _ h
  exact hfind (decide_eq_true rfl)

theorem hit_of_named (tokens : List CStr) (htoken : token ∈ tokens)
    (hname : i.propertyName <:+: token) (next : CStr) (rest : List CStr) :
    ∃ value, (i, value) ∈ hitsOf (tokens ++ next :: rest) := by
  have hnamed : i ∈ ifaces.filter (named token) := by
    apply List.mem_filter.2 ⟨_, (named_iff token i).2 hname⟩
    cases i <;> decide
  induction tokens with
  | nil => cases htoken
  | cons first tokens ih =>
    cases hrest : tokens ++ next :: rest with
    | nil => cases (List.append_eq_nil_iff.1 hrest).2
    | cons second others =>
      rw [List.cons_append, hrest, hitsOf]
      rcases List.mem_cons.1 htoken with rfl | htoken
      · exact ⟨gStrstrip second, List.mem_append_left _
          (List.mem_map.2 ⟨i, hnamed, rfl⟩)⟩
      · obtain ⟨value, hvalue⟩ := ih htoken
        rw [hrest] at hvalue
        exact ⟨value, List.mem_append_right _ hvalue⟩

theorem firstNaming_singleton (deviceName : CStr) (i : Iface) (v : CStr) :
    firstNaming deviceName [(i, v)] = if v = deviceName then some i else none := by
  rw [firstNaming, List.find?_cons]
  by_cases hv : v = deviceName
  · rw [decide_eq_true hv, if_pos hv]
    rfl
  · rw [decide_eq_false hv, if_neg hv]
    rfl

theorem space_of_gStrstrip_nil (h : gStrstrip s = []) : ∀ c ∈ s, isSpace c = true := by
  obtain ⟨a, b, hs, ha, hb⟩ := gStrstrip_spaces s
  rw [h, List.nil_append] at hs
  rw [hs]
  intro c hc
  rcases List.mem_append.1 hc with hc | hc
  · exact ha c hc
  · exact hb c hc

theorem gStrstrip_end (h : gStrstrip s = t ++ b) (hb : ∀ c ∈ b, isSpace c = true) : b = [] := by
  have hlast := (gStrstrip_eq_self_iff.1 (gStrstrip_idem s)).2
  rw [h] at hlast
  cases hc : b.getLast? with
  | none => exact List.getLast?_eq_none_iff.1 hc
  | some c =>
    have hspace := hb c (List.mem_of_getLast? hc)
    rw [hlast c (by rw [List.getLast?_append, hc]; rfl)] at hspace
    cases hspace

theorem unquote_cases (value : CStr) :
    unquote value = value ∨
      ∃ rest, value = '\'' :: rest ∧ rest.getLast? = some '\'' ∧
        unquote value = gStrstrip rest.dropLast := by
  rw [unquote.eq_def]
  split
  · next rest =>
    by_cases hlast : rest.getLast? = some '\''
    · exact Or.inr ⟨rest, rfl, hlast, if_pos hlast⟩
    · exact Or.inl (if_neg hlast)
  · exact Or.inl rfl

theorem piecesOf_head (value : CStr) :
    ∃ first others, piecesOf value = first :: others ∧ (∀ c ∈ first, c ∉ separators) ∧
      ((∀ c ∈ value, c ∉ separators) → first = value ∧ others = []) := by
  cases hpieces : piecesOf value with
  | nil => exact absurd hpieces (List.splitOnP_ne_nil _ value)
  | cons first others =>
    refine ⟨first, others, rfl, ?_, ?_⟩
    · intro c hc
      have hmem : first ∈ piecesOf value := by
        rw [hpieces]
        exact List.mem_cons_self
      exact of_decide_eq_false ((mem_splitOnP hmem).2 c hc)
    · intro hfree
      have hone : piecesOf value = [value] :=
        List.splitOnP_eq_singleton fun c hc => decide_eq_false (hfree c hc)
      rw [hone] at hpieces
      obtain ⟨rfl, rfl⟩ := List.cons.inj hpieces
      exact ⟨rfl, rfl⟩

/-- An assignment whose value is what its first token is taken for is good, if nothing else in it
is taken for a name. -/
theorem goodLine_of_first {i : Iface} (hnl : '\n' ∉ value ++ b)
    (assigns : gStrstrip line = i.propertyName ++ '=' :: value)
    (hb : ∀ c ∈ b, isSpace c = true) (hpieces : piecesOf (value ++ b) = first :: others)
    (hmapped : unquote (gStrstrip value) = gStrstrip first)
    (hlacks : (∀ c ∈ value ++ b, c ∉ separators) → Lacks names value) : GoodLine names line := by
  by_cases hsep : ∀ c ∈ value ++ b, c ∉ separators
  · exact .plain i value assigns (fun c hc => hsep c (List.mem_append_left b hc)) (hlacks hsep)
  obtain ⟨before, after, hsplit, hbefore, hafter⟩ := gStrstrip_spaces value
  have hspace : ∀ c ∈ value ++ b, isSpace c = true → c ∉ separators :=
    fun c hc hspace => space_free hnl hc hspace
  rcases unquote_cases (gStrstrip value) with hself | ⟨rest, hrest, hlast, hunquote⟩
  · -- without quotes, no separator is left in the value
    apply absurd _ hsep
    intro c hc
    rcases List.mem_append.1 hc with hc' | hc'
    · rw [hsplit, List.mem_append, List.mem_append] at hc'
      rcases hc' with hc' | hc' | hc'
      · exact hspace c hc (hbefore c hc')
      · rw [← hself, hmapped] at hc'
        have hmem : first ∈ piecesOf (value ++ b) := by
          rw [hpieces]
          exact List.mem_cons_self
        exact of_decide_eq_false ((mem_splitOnP hmem).2 c ((gStrstrip_sublist first).subset hc'))
      · exact hspace c hc (hafter c hc')
    · exact hspace c hc (hb c hc')
  · -- with quotes, the first token is empty
    have hbeforeFree : ∀ c ∈ before, decide (c ∈ separators) = false := by
      intro c hc
      apply decide_eq_false
      apply hspace c _ (hbefore c hc)
      rw [hsplit]
      exact List.mem_append_left b (List.mem_append_left _ hc)
    have hhead : first = before := by
      rw [hsplit, hrest, List.append_assoc, List.cons_append, List.cons_append, piecesOf,
        List.splitOnP_append_cons_of_forall_mem hbeforeFree '\'' (by decide)] at hpieces
      exact (List.cons.inj hpieces).1.symm
    obtain ⟨inside, rfl⟩ := List.getLast?_eq_some_iff.1 hlast
    have hblank : gStrstrip inside = [] := by
      rw [List.dropLast_concat] at hunquote
      rw [← hunquote, hmapped, hhead]
      exact gStrstrip_eq_nil hbefore
    have hassigns : gStrstrip line =
        (i.propertyName ++ '=' :: (before ++ '\'' :: (inside ++ ['\'']))) ++ after := by
      rw [assigns, hsplit, hrest]
      simp only [List.append_assoc, List.cons_append]
    obtain rfl := gStrstrip_end hassigns hafter
    rw [List.append_nil] at hassigns
    exact .blank i before inside hassigns hbefore (space_of_gStrstrip_nil hblank)

theorem goodLine_of_no_hits (next : CStr)
    (h : ∀ j ∈ names, ∀ value, (j, value) ∉ hitsOf (piecesOf line ++ [next])) :
    GoodLine names line := by
  apply GoodLine.other
  intro j hj hpart
  obtain ⟨token, htoken, hname⟩ := infix_piece
    (fun c hc => decide_eq_false ((propertyName_free j).2 c hc).1) hpart
  obtain ⟨value, hvalue⟩ := hit_of_named _ htoken hname next []
  exact h j hj value hvalue

theorem assignments_cons (hnl : '\n' ∉ line) (rest : CStr) :
    assignments (line ++ '\n' :: rest) = assignedOf line ++ assignments rest := by
  rw [assignments, List.splitOn_append_cons_self, List.splitOn_eq_singleton hnl,
    List.flatMap_append, List.flatMap_singleton]
  rfl

theorem tokensOf_cons (line rest : CStr) :
    tokensOf (line ++ '\n' :: rest) = piecesOf line ++ piecesOf rest := by
  have hne : (line ++ '\n' :: rest).isEmpty = false := by
    cases line <;> rfl
  rw [tokensOf, gStrsplitSet, hne]
  exact List.splitOnP_append_cons line rest (by decide)

theorem goodLine_of_maps (hnl : '\n' ∉ line) (h : ∀ d, MapsName (line ++ ['\n']) d) :
    GoodLine ifaces line := by
  have hassignments : assignments (line ++ ['\n']) = assignedOf line :=
    (assignments_cons hnl []).trans (List.append_nil _)
  have htokens : tokensOf (line ++ ['\n']) = piecesOf line ++ [[]] := tokensOf_cons line []
  simp only [mapsName_iff, hassignments, htokens] at h
  by_cases hassign : ∃ i v, assignedValue i line = some v
  · obtain ⟨i, v, hv⟩ := hassign
    obtain ⟨value, assigns⟩ := assignedValue_isSome hv
    obtain ⟨a, b, ha, hb, hpieces, hfree⟩ := piecesOf_assign hnl assigns
    obtain ⟨first, others, hvalue, hfirst, hone⟩ := piecesOf_head (value ++ b)
    rw [hpieces, hvalue] at h
    simp only [assignedOf_assign assigns, firstNaming_singleton, List.cons_append, hitsOf,
      named_propertyName ha] at h
    have hmapped : unquote (gStrstrip value) = gStrstrip first := by
      have hfirst := h (gStrstrip first)
      by_contra hne
      rw [if_neg hne] at hfirst
      exact firstNaming_of_mem List.mem_cons_self hfirst
    apply goodLine_of_first hfree assigns hb hvalue hmapped
    intro hsep j _ hpart
    obtain ⟨rfl, rfl⟩ := hone hsep
    have hname : j.propertyName <:+: value ++ b :=
      hpart.trans (List.prefix_append value b).isInfix
    -- the name is a hit whose value is the empty token after the newline
    have hhit : (j, []) ∈ hitsOf [value ++ b, []] := by
      apply List.mem_append_left
      apply List.mem_map.2 ⟨j, List.mem_filter.2 ⟨_, (named_iff _ j).2 hname⟩, rfl⟩
      cases j <;> decide
    have hempty : unquote (gStrstrip value) = [] := by
      have hnone := h []
      by_contra hne
      rw [if_neg hne] at hnone
      exact firstNaming_of_mem (List.mem_append_right _ hhit) hnone
    obtain ⟨hne, hchars⟩ := propertyName_free j
    have hstrip := infix_gStrstrip hne (fun c hc => (hchars c hc).2) hname
    rw [← hmapped, hempty] at hstrip
    exact hne (List.eq_nil_of_infix_nil hstrip)
  · have hnone : assignedOf line = [] := by
      apply List.eq_nil_iff_forall_not_mem.2
      intro p hp
      exact hassign ⟨p.1, p.2, mem_assignedOf.1 hp⟩
    rw [hnone] at h
    apply goodLine_of_no_hits []
    intro j _ x hx
    exact firstNaming_of_mem hx (h x)

def RouteIfaces.field (s : RouteIfaces) : Iface → CStr
  | .ethernet => []
  | .moca => s.mocaIface.str
  | .wifi => s.wifiIface.str

theorem store_field {s t : RouteIfaces} (h : s.store (i, v) = some t) (hj : j ∈ routeNames) :
    t.field j = if i = j then v else s.field j := by
  have hcopy : ∀ {name : CharArray 10}, gStpcpy v = some name → name.str = v := by
    intro name hname
    rw [gStpcpy] at hname
    split at hname
    · obtain rfl := Option.some_inj.1 hname
      rfl
    · cases hname
  cases i with
  | ethernet =>
    obtain rfl := Option.some_inj.1 h
    rw [if_neg]
    rintro rfl
    exact absurd hj (by decide)
  | moca =>
    obtain ⟨name, hname, rfl⟩ := Option.map_eq_some_iff.1 h
    cases j with
    | ethernet => exact absurd hj (by decide)
    | moca => exact hcopy hname
    | wifi => rfl
  | wifi =>
    obtain ⟨name, hname, rfl⟩ := Option.map_eq_some_iff.1 h
    cases j with
    | ethernet => exact absurd hj (by decide)
    | moca => rfl
    | wifi => exact hcopy hname

theorem storeHits_field {s t : RouteIfaces} (h : storeHits hits s = some t)
    (hj : j ∈ routeNames) : t.field j = ((valuesOf j hits).getLast?).getD (s.field j) := by
  induction hits generalizing s with
  | nil =>
    obtain rfl := Option.some_inj.1 h
    rfl
  | cons hit hits ih =>
    obtain ⟨i, v⟩ := hit
    obtain ⟨u, hu, hrest⟩ := Option.bind_eq_some_iff.1 h
    rw [ih hrest, store_field hu hj, valuesOf_cons]
    by_cases hij : i = j
    · rw [if_pos hij, if_pos hij, List.getLast?_cons]
      rfl
    · rw [if_neg hij, if_neg hij]

theorem length_valuesOf (hits : List (Iface × CStr)) :
    (valuesOf .moca hits).length + (valuesOf .wifi hits).length ≤ hits.length := by
  induction hits with
  | nil => exact Nat.le_refl 0
  | cons hit hits ih =>
    obtain ⟨i, v⟩ := hit
    rw [valuesOf_cons, valuesOf_cons]
    cases i with
    | ethernet => exact Nat.le_succ_of_le ih
    | moca =>
      have hstep : (v :: valuesOf .moca hits).length + (valuesOf .wifi hits).length ≤
          ((Iface.moca, v) :: hits).length := by
        rw [List.length_cons, List.length_cons]
        omega
      exact hstep
    | wifi =>
      have hstep : (valuesOf .moca hits).length + (v :: valuesOf .wifi hits).length ≤
          ((Iface.wifi, v) :: hits).length := by
        rw [List.length_cons, List.length_cons]
        omega
      exact hstep

theorem routeHits_route (tokens : List CStr) :
    pairsFor routeNames ((routeHits tokens).take 2) = (routeHits tokens).take 2 := by
  apply List.filter_eq_self.2
  intro p hp
  exact (List.mem_filter.1 (List.mem_of_mem_take hp)).2

theorem length_pos_of_last {values : List CStr} (h : values.getLast? = some x) :
    0 < values.length :=
  List.length_pos_of_mem (List.mem_of_getLast? h)

theorem eq_singleton_of_last {values : List CStr} (h : values.getLast? = some x)
    (hle : values.length ≤ 1) : values = [x] := by
  cases values with
  | nil => cases h
  | cons y ys =>
    rw [List.length_cons] at hle
    obtain rfl := List.length_eq_zero_iff.1 (Nat.le_zero.1 (Nat.le_of_succ_le_succ hle))
    rw [List.getLast?_singleton] at h
    rw [Option.some_inj.1 h]

theorem RouteReads.hits (h : RouteReads contents)
    (hmoca : valuesOf .moca (assignments contents) = [v])
    (hwifi : valuesOf .wifi (assignments contents) = [w]) :
    ((routeHits (tokensOf contents)).take 2 = [(.moca, v), (.wifi, w)] ∨
      (routeHits (tokensOf contents)).take 2 = [(.wifi, w), (.moca, v)]) ∧
      v.length < 10 ∧ w.length < 10 := by
  have hstored : ∀ s : RouteIfaces, ∃ t, storeHits ((routeHits (tokensOf contents)).take 2) s =
      some t ∧ t.mocaIface.str = v ∧ t.wifiIface.str = w := by
    intro s
    obtain ⟨t, hread, hv, hw⟩ := h v w hmoca hwifi s
    rw [routeReadDevFile, routeLoop_eq _ Nat.two_pos] at hread
    obtain ⟨u, hu, heq⟩ := Option.map_eq_some_iff.1 hread
    cases heq
    exact ⟨t, hu, hv, hw⟩
  generalize hhits : (routeHits (tokensOf contents)).take 2 = hits at hstored ⊢
  -- stored whatever the arrays hold before, each variable has a hit
  have hvalues : ∀ j ∈ routeNames, ∀ x, (∀ s : RouteIfaces, ∃ t, storeHits hits s = some t ∧
      t.field j = x) → (valuesOf j hits).getLast? = some x := by
    intro j hj x hx
    obtain ⟨t, ht, htx⟩ := hx ⟨⟨[], by decide⟩, ⟨[], by decide⟩⟩
    obtain ⟨u, hu, hux⟩ := hx ⟨⟨['x'], by decide⟩, ⟨['x'], by decide⟩⟩
    have hfirst := (storeHits_field ht hj).symm.trans htx
    have hsecond := (storeHits_field hu hj).symm.trans hux
    cases hlast : (valuesOf j hits).getLast? with
    | none =>
      rw [hlast] at hfirst hsecond
      cases j with
      | ethernet => exact absurd hj (by decide)
      | moca => cases hfirst.trans hsecond.symm
      | wifi => cases hfirst.trans hsecond.symm
    | some y =>
      rw [hlast] at hfirst
      exact congrArg some hfirst
  have hlastMoca := hvalues .moca (by decide) v fun s => by
    obtain ⟨t, ht, htv, _⟩ := hstored s
    exact ⟨t, ht, htv⟩
  have hlastWifi := hvalues .wifi (by decide) w fun s => by
    obtain ⟨t, ht, _, htw⟩ := hstored s
    exact ⟨t, ht, htw⟩
  have hlength : hits.length ≤ 2 := by
    rw [← hhits]
    exact List.length_take_le 2 _
  have hsum := length_valuesOf hits
  have hposMoca := length_pos_of_last hlastMoca
  have hposWifi := length_pos_of_last hlastWifi
  have hpairs := routePairs hits (eq_singleton_of_last hlastMoca (by omega))
    (eq_singleton_of_last hlastWifi (by omega))
  have hroute : pairsFor routeNames hits = hits := by
    rw [← hhits]
    exact routeHits_route _
  rw [hroute] at hpairs
  obtain ⟨t, _, htv, htw⟩ := hstored ⟨⟨[], by decide⟩, ⟨[], by decide⟩⟩
  refine ⟨hpairs, ?_, ?_⟩
  · rw [← htv]
    exact t.mocaIface.fits
  · rw [← htw]
    exact t.wifiIface.fits

/-- The line can stand before any good lines. -/
def RouteGoodLine (line : CStr) : Prop :=
  ∀ rest, (∀ l ∈ rest.splitOn '\n', GoodLine routeNames l ∧ FittingLine l) →
    RouteReads (line ++ '\n' :: rest)

/-- An assignment of one character. -/
def shortLine (i : Iface) (c : Char) : CStr := i.propertyName ++ ['=', c]

theorem shortLine_good (hi : i ∈ routeNames) (hc : c ∈ ['a', 'b']) :
    '\n' ∉ shortLine i c ∧ GoodLine routeNames (shortLine i c) ∧ FittingLine (shortLine i c) ∧
      assignedOf (shortLine i c) = [(i, [c])] ∧
      piecesOf (shortLine i c) = [i.propertyName, [c]] := by
  have hall : (['a', 'b'].all fun c => decide ([c].all (· ∉ separators) = true ∧
      Lacks routeNames [c] ∧ ∀ i ∈ routeNames, '\n' ∉ shortLine i c ∧
        gStrstrip (shortLine i c) = i.propertyName ++ '=' :: [c] ∧
        assignedOf (shortLine i c) = [(i, [c])] ∧
        piecesOf (shortLine i c) = [i.propertyName, [c]])) = true := by decide
  obtain ⟨htoken, hlacks, hnames⟩ := of_decide_eq_true (List.all_eq_true.1 hall c hc)
  obtain ⟨hnl, hstrip, hassigned, hpieces⟩ := hnames i hi
  refine ⟨hnl, .plain i [c] hstrip (not_mem_of_all htoken) hlacks, ?_, hassigned, hpieces⟩
  intro j _ value hvalue
  have hmem := mem_assignedOf.2 hvalue
  rw [hassigned, List.mem_singleton] at hmem
  cases hmem
  exact Nat.lt_of_sub_eq_succ rfl

/-- The hits in a line depend on what follows it through the next token only. -/
theorem hitsOf_append_next (tokens : List CStr) (next : CStr) (rest : List CStr) :
    hitsOf (tokens ++ next :: rest) = hitsOf (tokens ++ [next]) ++ hitsOf (next :: rest) := by
  induction tokens with
  | nil => rfl
  | cons token tokens ih =>
    cases tokens with
    | nil =>
      rw [List.cons_append, List.nil_append, hitsOf, List.cons_append, List.nil_append, hitsOf,
        List.append_assoc]
      rfl
    | cons second tokens =>
      rw [List.cons_append, List.cons_append, hitsOf, List.cons_append, List.cons_append, hitsOf,
        List.append_assoc]
      rw [List.cons_append, List.cons_append] at ih
      rw [ih]

/-- The route hits of a line before others that begin with the name. -/
def lineHits (line : CStr) (i : Iface) : List (Iface × CStr) :=
  routeHits (piecesOf line ++ [i.propertyName])

theorem routeHits_line (line : CStr) (i : Iface) (rest : List CStr) :
    routeHits (piecesOf line ++ i.propertyName :: rest) =
      lineHits line i ++ routeHits (i.propertyName :: rest) := by
  rw [routeHits, hitsOf_append_next, pairsFor_append]
  rfl

theorem RouteReads.pair (h : RouteReads contents) (hi : i ∈ routeNames) (hj : j ∈ routeNames)
    (hij : i ≠ j) (hvi : valuesOf i (assignments contents) = [v])
    (hvj : valuesOf j (assignments contents) = [w]) :
    ((routeHits (tokensOf contents)).take 2 = [(i, v), (j, w)] ∨
      (routeHits (tokensOf contents)).take 2 = [(j, w), (i, v)]) ∧ v.length < 10 := by
  cases i with
  | ethernet => exact absurd hi (by decide)
  | moca =>
    cases j with
    | ethernet => exact absurd hj (by decide)
    | moca => exact absurd rfl hij
    | wifi =>
      obtain ⟨hhits, hv, _⟩ := h.hits hvi hvj
      exact ⟨hhits, hv⟩
  | wifi =>
    cases j with
    | ethernet => exact absurd hj (by decide)
    | moca =>
      obtain ⟨hhits, _, hv⟩ := h.hits hvj hvi
      exact ⟨hhits.symm, hv⟩
    | wifi => exact absurd rfl hij

theorem valuesOf_append (i : Iface) (xs ys : List (Iface × CStr)) :
    valuesOf i (xs ++ ys) = valuesOf i xs ++ valuesOf i ys := by
  rw [valuesOf, List.filter_append, List.map_append]
  rfl

theorem valuesOf_not_assigned (h : ∀ v, assignedValue i line ≠ some v) :
    valuesOf i (assignedOf line) = [] := by
  rw [valuesOf, List.map_eq_nil_iff, List.filter_eq_nil_iff]
  intro p hp heq
  obtain ⟨k, v⟩ := p
  obtain rfl : k = i := of_decide_eq_true heq
  exact h v (mem_assignedOf.1 hp)

/-- A line that assigns neither variable, before two that assign them. -/
theorem RouteGoodLine.lineHits_nil (h : RouteGoodLine line) (hnl : '\n' ∉ line)
    (hnone : ∀ i ∈ routeNames, valuesOf i (assignedOf line) = []) : lineHits line .moca = [] := by
  have hhead : ∀ c ∈ ['a', 'b'], ∀ hit ∈ (lineHits line .moca).head?, hit.2 = [c] := by
    intro c hc hit hhit
    obtain ⟨hnlm, hgoodm, hfitm, hassignm, hpiecem⟩ := shortLine_good (i := .moca) (by decide) hc
    obtain ⟨hnlw, hgoodw, hfitw, hassignw, hpiecew⟩ := shortLine_good (i := .wifi) (by decide) hc
    have hread := h (shortLine .moca c ++ '\n' :: shortLine .wifi c) (by
      intro l hl
      rw [List.splitOn_append_cons_self, List.splitOn_eq_singleton hnlm,
        List.splitOn_eq_singleton hnlw, List.singleton_append, List.mem_cons,
        List.mem_singleton] at hl
      rcases hl with rfl | rfl
      · exact ⟨hgoodm, hfitm⟩
      · exact ⟨hgoodw, hfitw⟩)
    have hwifi : assignments (shortLine .wifi c) = [(.wifi, [c])] := by
      rw [assignments, List.splitOn_eq_singleton hnlw, List.flatMap_singleton, hassignw]
    have hassigned : ∀ i ∈ routeNames, valuesOf i (assignments
        (line ++ '\n' :: (shortLine .moca c ++ '\n' :: shortLine .wifi c))) = [[c]] := by
      intro i hi
      rw [assignments_cons hnl, assignments_cons hnlm, hassignm, hwifi, valuesOf_append,
        hnone i hi]
      cases i with
      | ethernet => exact absurd hi (by decide)
      | moca => rfl
      | wifi => rfl
    have htokens : routeHits (tokensOf
        (line ++ '\n' :: (shortLine .moca c ++ '\n' :: shortLine .wifi c))) =
          lineHits line .moca ++ routeHits [Iface.moca.propertyName, [c],
            Iface.wifi.propertyName, [c]] := by
      have hrest : piecesOf (shortLine .moca c ++ '\n' :: shortLine .wifi c) =
          piecesOf (shortLine .moca c) ++ piecesOf (shortLine .wifi c) :=
        List.splitOnP_append_cons _ _ (by decide)
      rw [tokensOf_cons, hrest, hpiecem, hpiecew]
      exact routeHits_line line .moca _
    obtain ⟨hpair, _⟩ := hread.pair (i := .moca) (j := .wifi) (by decide) (by decide) (by decide)
      (hassigned .moca (by decide)) (hassigned .wifi (by decide))
    cases hits : lineHits line .moca with
    | nil =>
      rw [hits] at hhit
      cases hhit
    | cons first others =>
      rw [hits] at hhit
      obtain rfl := Option.some_inj.1 hhit
      rw [htokens, hits] at hpair
      rcases hpair with hpair | hpair
      · rw [(List.cons.inj hpair).1]
      · rw [(List.cons.inj hpair).1]
  cases hits : lineHits line .moca with
  | nil => rfl
  | cons first others =>
    rw [hits] at hhead
    have ha := hhead 'a' (by decide) first rfl
    have hb := hhead 'b' (by decide) first rfl
    cases ha.symm.trans hb

theorem RouteGoodLine.assigned (h : RouteGoodLine line) (hnl : '\n' ∉ line)
    (hi : i ∈ routeNames) (hj : j ∈ routeNames) (hij : i ≠ j)
    (hassigned : assignedOf line = [(i, v)]) (hhits : lineHits line j = (i, w) :: more) :
    w = v ∧ more = [] ∧ v.length < 10 := by
  have hnext : ∀ c ∈ ['a', 'b'], w = v ∧ v.length < 10 ∧ ∀ hit ∈ more.head?, hit.2 = [c] := by
    intro c hc
    obtain ⟨hnlj, hgood, hfit, hassignj, hpiece⟩ := shortLine_good hj hc
    have hread := h (shortLine j c) (by
      intro l hl
      rw [List.splitOn_eq_singleton hnlj, List.mem_singleton] at hl
      rw [hl]
      exact ⟨hgood, hfit⟩)
    have hfile : assignments (line ++ '\n' :: shortLine j c) = [(i, v), (j, [c])] := by
      rw [assignments_cons hnl, hassigned, assignments, List.splitOn_eq_singleton hnlj,
        List.flatMap_singleton, hassignj]
      rfl
    have hvi : valuesOf i (assignments (line ++ '\n' :: shortLine j c)) = [v] := by
      rw [hfile, valuesOf_cons, if_pos rfl, valuesOf_cons, if_neg (Ne.symm hij)]
      rfl
    have hvj : valuesOf j (assignments (line ++ '\n' :: shortLine j c)) = [[c]] := by
      rw [hfile, valuesOf_cons, if_neg hij, valuesOf_cons, if_pos rfl]
      rfl
    obtain ⟨hpair, hlen⟩ := hread.pair hi hj hij hvi hvj
    have htokens : routeHits (tokensOf (line ++ '\n' :: shortLine j c)) =
        (i, w) :: (more ++ routeHits [j.propertyName, [c]]) := by
      have hline : _ = _ ++ routeHits [j.propertyName, [c]] := routeHits_line line j [[c]]
      rw [tokensOf_cons, hpiece, hline, hhits]
      rfl
    rw [htokens, List.take_succ_cons] at hpair
    rcases hpair with hpair | hpair
    · obtain ⟨hhead, htail⟩ := List.cons.inj hpair
      cases hhead
      refine ⟨rfl, hlen, ?_⟩
      intro hit hhit
      cases more with
      | nil => cases hhit
      | cons x more =>
        obtain rfl := Option.some_inj.1 hhit
        rw [(List.cons.inj htail).1]
    · obtain ⟨hhead, _⟩ := List.cons.inj hpair
      cases hhead
      exact absurd rfl hij
  obtain ⟨hvalue, hlen, ha⟩ := hnext 'a' (by decide)
  obtain ⟨_, _, hb⟩ := hnext 'b' (by decide)
  refine ⟨hvalue, ?_, hlen⟩
  cases more with
  | nil => rfl
  | cons x more => cases (ha x rfl).symm.trans (hb x rfl)

theorem exists_other (hi : i ∈ routeNames) : ∃ j ∈ routeNames, i ≠ j := by
  cases i with
  | ethernet => exact absurd hi (by decide)
  | moca => exact ⟨.wifi, by decide, by decide⟩
  | wifi => exact ⟨.moca, by decide, by decide⟩

theorem RouteGoodLine.fitting (h : RouteGoodLine line) (hnl : '\n' ∉ line) :
    GoodLine routeNames line ∧ FittingLine line := by
  by_cases hassign : ∃ i ∈ routeNames, ∃ v, assignedValue i line = some v
  · obtain ⟨i, hi, v, hv⟩ := hassign
    obtain ⟨j, hj, hij⟩ := exists_other hi
    obtain ⟨value, assigns⟩ := assignedValue_isSome hv
    obtain ⟨a, b, ha, hb, hpieces, hfree⟩ := piecesOf_assign hnl assigns
    obtain ⟨first, others, hvalue, _, hone⟩ := piecesOf_head (value ++ b)
    have hassigned := assignedOf_assign assigns
    have hhits : lineHits line j = (i, gStrstrip first) ::
        routeHits (first :: (others ++ [j.propertyName])) := by
      rw [lineHits, routeHits, hpieces, hvalue, List.cons_append, List.cons_append, hitsOf,
        named_propertyName ha, pairsFor_append, List.map_singleton, pairsFor_cons, if_pos hi]
      rfl
    obtain ⟨hmapped, hmore, hlen⟩ := h.assigned hnl hi hj hij hassigned hhits
    constructor
    · apply goodLine_of_first hfree assigns hb hvalue hmapped.symm
      intro hsep k hk hpart
      obtain ⟨rfl, rfl⟩ := hone hsep
      have hname : k.propertyName <:+: value ++ b :=
        hpart.trans (List.prefix_append value b).isInfix
      obtain ⟨x, hx⟩ := hit_of_named [value ++ b] List.mem_cons_self hname
        j.propertyName []
      have hhit : (k, x) ∈ routeHits [value ++ b, j.propertyName] := mem_pairsFor hk hx
      have hnil : routeHits [value ++ b, j.propertyName] = [] := hmore
      rw [hnil] at hhit
      cases hhit
    · intro k _ x hx
      have hmem := mem_assignedOf.2 hx
      rw [hassigned, List.mem_singleton] at hmem
      cases hmem
      exact hlen
  · have hnone : ∀ i ∈ routeNames, ∀ v, assignedValue i line ≠ some v :=
      fun i hi v hv => hassign ⟨i, hi, v, hv⟩
    have hhits := h.lineHits_nil hnl fun i hi => valuesOf_not_assigned (hnone i hi)
    constructor
    · apply goodLine_of_no_hits Iface.moca.propertyName
      intro j hj x hx
      have hmem : (j, x) ∈ lineHits line .moca := mem_pairsFor hj hx
      rw [hhits] at hmem
      cases hmem
    · intro i hi x hx
      exact absurd hx (hnone i hi x)

theorem exists_assigning (h : valuesOf i (assignments contents) = [v]) :
    ∃ line ∈ contents.splitOn '\n', (assignedValue i line).isSome = true := by
  have hmem : v ∈ valuesOf i (assignments contents) := by
    rw [h]
    exact List.mem_cons_self
  obtain ⟨p, hp, rfl⟩ := List.mem_map.1 hmem
  obtain ⟨hassigned, hi⟩ := List.mem_filter.1 hp
  obtain ⟨line, hline, hvalue⟩ := List.mem_flatMap.1 hassigned
  obtain rfl : p.1 = i := of_decide_eq_true hi
  have hsome := mem_assignedOf.1 hvalue
  exact ⟨line, hline, by rw [hsome]; rfl⟩

theorem routeGoodLine_iff (hnl : '\n' ∉ line) :
    RouteGoodLine line ↔ GoodLine routeNames line ∧ FittingLine line := by
  constructor
  · intro h
    exact h.fitting hnl
  · intro hline rest hrest v w hmoca hwifi
    refine RouteLines.reads ⟨_, [], (List.append_nil _).symm, ?_, ?_⟩ v w hmoca hwifi
    · intro l hl
      rw [List.splitOn_append_cons_self, List.splitOn_eq_singleton hnl, List.singleton_append,
        List.mem_cons] at hl
      rcases hl with rfl | hl
      · exact hline
      · exact hrest l hl
    · intro i hi
      cases i with
      | ethernet => exact absurd hi (by decide)
      | moca => exact exists_assigning hmoca
      | wifi => exact exists_assigning hwifi

theorem mapsLine_iff (hnl : '\n' ∉ line) :
    (∀ deviceName, MapsName (line ++ ['\n']) deviceName) ↔ GoodLine ifaces line := by
  constructor
  · exact goodLine_of_maps hnl
  · intro h
    apply mapsName_lines
    intro l hl
    rw [List.splitOn_append_cons_self, List.splitOn_eq_singleton hnl, List.singleton_append,
      List.mem_cons] at hl
    rcases hl with rfl | hl
    · exact h
    · obtain rfl : l = [] := List.mem_singleton.1 hl
      have hnone : ∀ j ∈ ifaces, ¬ j.propertyName <:+: [] := by decide
      exact .other hnone

/-- The route reader reads a file whose lines up to the two assignments are good, with names that
fit; the other one a file whose lines all are. No weaker condition on the single lines is enough. -/
theorem readDevFile_lines (contents line : CStr) :
    (RouteLines contents → RouteReads contents) ∧
    ((∀ l ∈ contents.splitOn '\n', GoodLine ifaces l) →
      ∀ deviceName, MapsName contents deviceName) ∧
    ('\n' ∉ line →
      (RouteGoodLine line ↔ GoodLine routeNames line ∧ FittingLine line) ∧
      ((∀ deviceName, MapsName (line ++ ['\n']) deviceName) ↔ GoodLine ifaces line)) := by
  refine ⟨?_, ?_, ?_⟩
  · intro h
    exact h.reads
  · intro h deviceName
    exact mapsName_lines h deviceName
  · intro hnl
    exact ⟨routeGoodLine_iff hnl, mapsLine_iff hnl⟩

def quotedFile : CStr :=
  "ETHERNET_INTERFACE=eth0\nMOCA_INTERFACE='eth1'\nWIFI_INTERFACE=wlan0\n".toList

def lookalikeFile : CStr :=
  ("ETHERNET_INTERFACE=eth0\nMOCA_INTERFACE=eth1\n" ++
    "OLD_MOCA_INTERFACE=eth7\nWIFI_INTERFACE=wlan0\n").toList

/-- What the route reader leaves in arrays that are empty before. -/
def routeNamesRead (contents : CStr) : Option (CStr × CStr) :=
  (routeReadDevFile (some contents) ⟨⟨[], by decide⟩, ⟨[], by decide⟩⟩).map fun r =>
    (r.2.mocaIface.str, r.2.wifiIface.str)

/-- A quote gives an empty token, which is taken for the value; a variable with the name in its own
is taken for the interface, and its value for the second of two. -/
theorem readDevFile_misreads :
    ((∀ i ∈ ifaces, (valuesOf i (assignments quotedFile)).length = 1) ∧
      valuesOf .moca (assignments quotedFile) = ["eth1".toList] ∧
      valuesOf .wifi (assignments quotedFile) = ["wlan0".toList] ∧
      routeNamesRead quotedFile = some ([], "wlan0".toList) ∧
      utilsReadDevFile (some quotedFile) "eth1".toList = (false, "eth1".toList)) ∧
    ((∀ i ∈ ifaces, (valuesOf i (assignments lookalikeFile)).length = 1) ∧
      valuesOf .moca (assignments lookalikeFile) = ["eth1".toList] ∧
      valuesOf .wifi (assignments lookalikeFile) = ["wlan0".toList] ∧
      routeNamesRead lookalikeFile = some ("eth7".toList, []) ∧
      utilsReadDevFile (some lookalikeFile) "eth7".toList = (true, "MOCA".toList)) := by
  decide +kernel

end NetSrvMgr.DevFile
