import NetSrvMgr.CString

namespace NetSrvMgr.DevFile
open CString
set_option autoImplicit true

inductive Iface where
  | ethernet | moca | wifi
  deriving DecidableEq

namespace Iface

/-- The name of the variable in `device.properties`. -/
def propertyName : Iface → CStr
  | ethernet => "ETHERNET_INTERFACE".toList
  | moca => "MOCA_INTERFACE".toList
  | wifi => "WIFI_INTERFACE".toList

def networkName : Iface → CStr
  | ethernet => "ETHERNET".toList
  | moca => "MOCA".toList
  | wifi => "WIFI".toList

end Iface

def separators : CStr := ",='\n'".toList

def tokensOf (devfilebuffer : CStr) : List CStr := gStrsplitSet devfilebuffer separators

/-- The token has the name of the variable in it. -/
def named (token : CStr) (i : Iface) : Bool := gStrrstr (gStrstrip token) i.propertyName

/-- The two arrays that `getRouteInterface` passes. -/
structure RouteIfaces where
  mocaIface : CharArray 10
  wifiIface : CharArray 10

/-- `g_stpcpy` of the next token into the array of an interface. -/
def RouteIfaces.store (s : RouteIfaces) (hit : Iface × CStr) : Option RouteIfaces :=
  match hit.1 with
  | .ethernet => some s
  | .moca => (gStpcpy hit.2).map fun name => { s with mocaIface := name }
  | .wifi => (gStpcpy hit.2).map fun name => { s with wifiIface := name }

/-- The loop of `RouteNetworkMgr::readDevFile`, from a token on. -/
def routeLoop : List CStr → Nat → RouteIfaces → Option RouteIfaces
  | [], _, ifaces => some ifaces
  | token :: rest, counter, ifaces =>
    let afterMoca :=
      match named token .moca, rest with
      | true, next :: _ =>
        (ifaces.store (.moca, gStrstrip next)).map fun ifaces => (counter + 1, ifaces)
      | _, _ => some (counter, ifaces)
    afterMoca.bind fun (counter, ifaces) =>
      if named token .moca && counter = 2 then some ifaces
      else
        let afterWifi :=
          match named token .wifi, rest with
          | true, next :: _ =>
            (ifaces.store (.wifi, gStrstrip next)).map fun ifaces => (counter + 1, ifaces)
          | _, _ => some (counter, ifaces)
        afterWifi.bind fun (counter, ifaces) =>
          if named token .wifi && counter = 2 then some ifaces else routeLoop rest counter ifaces

/-- `RouteNetworkMgr::readDevFile`, for a file that may not be readable: the result only tells
whether there are arrays. `none` where a name is written past the end of one. -/
def routeReadDevFile (contents : Option CStr) (ifaces : RouteIfaces) :
    Option (Bool × RouteIfaces) :=
  match contents with
  | none => some (true, ifaces)
  | some devfilebuffer =>
    (routeLoop (tokensOf devfilebuffer) 0 ifaces).map fun ifaces => (true, ifaces)

/-- The loop of `netSrvMgrUtiles::readDevFile`. Behind the last token there is a null pointer,
which is no device name. -/
def utilsLoop (deviceName : CStr) : List CStr → Option Iface
  | [] => none
  | token :: rest =>
    let found := rest.head?.map gStrstrip = some deviceName
    if named token .ethernet && found then some .ethernet
    else if named token .moca && found then some .moca
    else if named token .wifi && found then some .wifi
    else utilsLoop deviceName rest

def utilsReadDevFile (contents : Option CStr) (deviceName : CStr) : Bool × CStr :=
  match contents with
  | none => (false, deviceName)
  | some devfilebuffer =>
    match utilsLoop deviceName (tokensOf devfilebuffer) with
    | none => (false, deviceName)
    | some i => (true, i.networkName)

/-- The value of an assignment, without the quotes around it. -/
def unquote (value : CStr) : CStr :=
  match value with
  | '\'' :: rest => if rest.getLast? = some '\'' then gStrstrip rest.dropLast else value
  | _ => value

def assignedValue (i : Iface) (line : CStr) : Option CStr :=
  let line := gStrstrip line
  if (i.propertyName ++ ['=']).isPrefixOf line then
    some (unquote (gStrstrip (line.drop (i.propertyName.length + 1))))
  else none

def ifaces : List Iface := [.ethernet, .moca, .wifi]

/-- What a line assigns. -/
def assignedOf (line : CStr) : List (Iface × CStr) :=
  ifaces.filterMap fun i => (assignedValue i line).map fun value => (i, value)

/-- The assignments that the lines of the file make, in their order. -/
def assignments (contents : CStr) : List (Iface × CStr) :=
  (contents.splitOn '\n').flatMap assignedOf

/-- What the readers take for assignments: a token with the name in it and the token after it. -/
def hitsOf : List CStr → List (Iface × CStr)
  | [] => []
  | [_] => []
  | token :: next :: rest =>
    (ifaces.filter (named token)).map (fun i => (i, gStrstrip next)) ++ hitsOf (next :: rest)

def valuesOf (i : Iface) (pairs : List (Iface × CStr)) : List CStr :=
  (pairs.filter fun p => p.1 = i).map Prod.snd

def firstNaming (deviceName : CStr) (pairs : List (Iface × CStr)) : Option Iface :=
  (pairs.find? fun p => p.2 = deviceName).map Prod.fst

/-- The values of the two variables, each assigned once, are returned. -/
def RouteReads (contents : CStr) : Prop :=
  ∀ v w, valuesOf .moca (assignments contents) = [v] →
    valuesOf .wifi (assignments contents) = [w] →
      ∀ before, ∃ ifaces, routeReadDevFile (some contents) before = some (true, ifaces) ∧
        ifaces.mocaIface.str = v ∧ ifaces.wifiIface.str = w

/-- The name is mapped to the interface that the first line naming it assigns, or kept. -/
def MapsName (contents deviceName : CStr) : Prop :=
  utilsReadDevFile (some contents) deviceName =
    match firstNaming deviceName (assignments contents) with
    | none => (false, deviceName)
    | some i => (true, i.networkName)

/-- The variables that the route reader looks for. -/
def routeNames : List Iface := [.moca, .wifi]

def pairsFor (names : List Iface) (pairs : List (Iface × CStr)) : List (Iface × CStr) :=
  pairs.filter fun p => p.1 ∈ names

def Lacks (names : List Iface) (text : CStr) : Prop :=
  ∀ j ∈ names, ¬ j.propertyName <:+: text

instance (names : List Iface) (text : CStr) : Decidable (Lacks names text) :=
  inferInstanceAs (Decidable (∀ j ∈ names, ¬ j.propertyName <:+: text))

/-- A line that a reader looking for the variables takes as it stands: it has none of their names
in it, or it assigns a value that is one token without them, or one of spaces in quotes. -/
inductive GoodLine (names : List Iface) (line : CStr) : Prop
  | other (lacks : Lacks names line)
  | plain (i : Iface) (value : CStr) (assigns : gStrstrip line = i.propertyName ++ '=' :: value)
      (token : ∀ c ∈ value, c ∉ separators) (lacks : Lacks names value)
  | blank (i : Iface) (before inside : CStr)
      (assigns : gStrstrip line = i.propertyName ++ '=' :: (before ++ '\'' :: (inside ++ ['\''])))
      (beforeSpace : ∀ c ∈ before, isSpace c = true) (insideSpace : ∀ c ∈ inside, isSpace c = true)

/-- The value that the line gives to a variable fits into the caller's array. -/
def FittingLine (line : CStr) : Prop :=
  ∀ i ∈ routeNames, ∀ value ∈ assignedValue i line, value.length < 10

/-- Some first lines assign both variables, and are all good and fitting. -/
def RouteLines (contents : CStr) : Prop :=
  ∃ before after, contents.splitOn '\n' = before ++ after ∧
    (∀ line ∈ before, GoodLine routeNames line ∧ FittingLine line) ∧
    ∀ i ∈ routeNames, ∃ line ∈ before, (assignedValue i line).isSome = true

def routeHits (tokens : List CStr) : List (Iface × CStr) := pairsFor routeNames (hitsOf tokens)

theorem routeHits_cons (token next : CStr) (rest : List CStr) :
    routeHits (token :: next :: rest) =
      (if named token .moca then [(.moca, gStrstrip next)] else []) ++
        ((if named token .wifi then [(.wifi, gStrstrip next)] else []) ++
          routeHits (next :: rest)) := by
  have hfilter : pairsFor routeNames
      ((ifaces.filter (named token)).map fun i => (i, gStrstrip next)) =
        (if named token .moca then [(.moca, gStrstrip next)] else []) ++
          (if named token .wifi then [(.wifi, gStrstrip next)] else []) := by
    simp only [ifaces, List.filter_cons, List.filter_nil]
    cases named token .ethernet <;> cases named token .moca <;> cases named token .wifi <;> rfl
  rw [routeHits, hitsOf, pairsFor, List.filter_append, ← pairsFor, hfilter, List.append_assoc]
  rfl

def storeHits : List (Iface × CStr) → RouteIfaces → Option RouteIfaces
  | [], s => some s
  | hit :: hits, s => (s.store hit).bind (storeHits hits)

/-- The loop stores the first two hits, or what the counter leaves of them. -/
theorem routeLoop_eq (tokens : List CStr) (hcounter : counter < 2) (s : RouteIfaces) :
    routeLoop tokens counter s = storeHits ((routeHits tokens).take (2 - counter)) s := by
  induction tokens generalizing counter s with
  | nil => exact (congrArg (fun hits => storeHits hits s) List.take_nil).symm
  | cons token rest ih =>
    have hne : decide (counter = 2) = false := decide_eq_false (Nat.ne_of_lt hcounter)
    cases rest with
    | nil =>
      have hlast : routeLoop [token] counter s = some s := by
        rw [routeLoop.eq_def]
        dsimp only
        cases named token .moca <;> cases named token .wifi <;>
          simp only [hne, Bool.and_false, Bool.false_eq_true, if_false, routeLoop,
            Option.bind_some]
      rw [hlast]
      exact (congrArg (fun hits => storeHits hits s) List.take_nil).symm
    | cons next rest =>
      have hcounter : counter = 0 ∨ counter = 1 := by omega
      rw [routeHits_cons, routeLoop.eq_def]
      dsimp only
      cases named token .moca with
      | false =>
        cases named token .wifi with
        | false => rcases hcounter with rfl | rfl <;> exact ih (by omega) s
        | true =>
          cases hstore : s.store (.wifi, gStrstrip next) with
          | none => rcases hcounter with rfl | rfl <;> simp [hstore, storeHits]
          | some t =>
            rcases hcounter with rfl | rfl
            · simpa [hstore, storeHits] using ih Nat.one_lt_two t
            · simp [hstore, storeHits]
      | true =>
        cases hstore : s.store (.moca, gStrstrip next) with
        | none => rcases hcounter with rfl | rfl <;> simp [hstore, storeHits]
        | some t =>
          rcases hcounter with rfl | rfl
          · cases named token .wifi with
            | false => simpa [hstore, storeHits] using ih Nat.one_lt_two t
            | true =>
              cases hsecond : t.store (.wifi, gStrstrip next) with
              | none => simp [hstore, hsecond, storeHits]
              | some u => simp [hstore, hsecond, storeHits]
          · simp [hstore, storeHits]

theorem firstNaming_append (deviceName : CStr) (xs ys : List (Iface × CStr)) :
    firstNaming deviceName (xs ++ ys) =
      (firstNaming deviceName xs).or (firstNaming deviceName ys) := by
  rw [firstNaming, List.find?_append, Option.map_or]
  rfl

/-- The loop stops at the first hit with the name; for one token, the interfaces are looked at in
their order. -/
theorem utilsLoop_eq (deviceName : CStr) (tokens : List CStr) :
    utilsLoop deviceName tokens = firstNaming deviceName (hitsOf tokens) := by
  induction tokens with
  | nil => rfl
  | cons token rest ih =>
    cases rest with
    | nil => simp [utilsLoop, hitsOf, firstNaming]
    | cons next rest =>
      rw [hitsOf, firstNaming_append, ← ih, utilsLoop]
      simp only [ifaces, List.filter_cons, List.filter_nil, firstNaming]
      by_cases hname : gStrstrip next = deviceName
      · cases named token .ethernet <;> cases named token .moca <;> cases named token .wifi <;>
          simp [hname]
      · cases named token .ethernet <;> cases named token .moca <;> cases named token .wifi <;>
          simp [hname]

theorem networkName_ne {i j : Iface} (h : i ≠ j) : i.networkName ≠ j.networkName := by
  revert h
  cases i <;> cases j <;> decide

theorem mapsName_iff (contents deviceName : CStr) :
    MapsName contents deviceName ↔
      firstNaming deviceName (hitsOf (tokensOf contents)) =
        firstNaming deviceName (assignments contents) := by
  have hread : utilsReadDevFile (some contents) deviceName =
      match firstNaming deviceName (hitsOf (tokensOf contents)) with
      | none => (false, deviceName)
      | some i => (true, i.networkName) := by
    rw [utilsReadDevFile, utilsLoop_eq]
  rw [MapsName, hread]
  cases firstNaming deviceName (hitsOf (tokensOf contents)) with
  | none =>
    cases firstNaming deviceName (assignments contents) with
    | none => exact iff_of_true rfl rfl
    | some j => simp
  | some i =>
    cases firstNaming deviceName (assignments contents) with
    | none => simp
    | some j =>
      by_cases hij : i = j
      · exact iff_of_true (by rw [hij]) (by rw [hij])
      · simp [hij, networkName_ne hij]

theorem propertyName_free (i : Iface) :
    i.propertyName ≠ [] ∧ ∀ c ∈ i.propertyName, c ∉ separators ∧ isSpace c = false := by
  have hall : i.propertyName ≠ [] ∧
      (i.propertyName.all fun c => decide (c ∉ separators) && !isSpace c) = true := by
    cases i <;> decide
  apply And.intro hall.1
  intro c hc
  have hchar := List.all_eq_true.1 hall.2 c hc
  rw [Bool.and_eq_true, decide_eq_true_eq, Bool.not_eq_true'] at hchar
  exact hchar

theorem named_iff (token : CStr) (i : Iface) :
    named token i = true ↔ i.propertyName <:+: token := by
  have hpart : named token i = true ↔ i.propertyName <:+: gStrstrip token := decide_eq_true_iff
  obtain ⟨hne, hfree⟩ := propertyName_free i
  rw [hpart]
  constructor
  · intro h
    exact h.trans (gStrstrip_part token)
  · intro h
    exact infix_gStrstrip hne (fun c hc => (hfree c hc).2) h

def hitsFor (names : List Iface) (tokens : List CStr) : List (Iface × CStr) :=
  pairsFor names (hitsOf tokens)

theorem pairsFor_append (names : List Iface) (xs ys : List (Iface × CStr)) :
    pairsFor names (xs ++ ys) = pairsFor names xs ++ pairsFor names ys :=
  List.filter_append xs ys

theorem pairsFor_cons (names : List Iface) (i : Iface) (value : CStr)
    (pairs : List (Iface × CStr)) :
    pairsFor names ((i, value) :: pairs) =
      if i ∈ names then (i, value) :: pairsFor names pairs else pairsFor names pairs := by
  rw [pairsFor, List.filter_cons]
  by_cases hi : i ∈ names
  · rw [if_pos (decide_eq_true hi), if_pos hi]
    rfl
  · rw [if_neg (by simpa using hi), if_neg hi]
    rfl

theorem hitsFor_cons (h : Lacks names token) (rest : List CStr) :
    hitsFor names (token :: rest) = hitsFor names rest := by
  cases rest with
  | nil => rfl
  | cons next rest =>
    have hnone : pairsFor names ((ifaces.filter (named token)).map fun i => (i, gStrstrip next)) =
        [] := by
      apply List.filter_eq_nil_iff.2
      intro p hp hname
      obtain ⟨i, hi, rfl⟩ := List.mem_map.1 hp
      have hin : i ∈ names := of_decide_eq_true hname
      exact h i hin ((named_iff token i).1 (List.mem_filter.1 hi).2)
    rw [hitsFor, hitsOf, pairsFor_append, hnone]
    rfl

theorem hitsFor_append {tokens : List CStr} (h : ∀ token ∈ tokens, Lacks names token)
    (rest : List CStr) : hitsFor names (tokens ++ rest) = hitsFor names rest := by
  induction tokens with
  | nil => rfl
  | cons token tokens ih =>
    rw [List.cons_append, hitsFor_cons (h token List.mem_cons_self)]
    exact ih fun t ht => h t (List.mem_cons_of_mem token ht)

def piecesOf (text : CStr) : List CStr := text.splitOnP (· ∈ separators)

theorem hitsFor_tokensOf (names : List Iface) (contents : CStr) :
    hitsFor names (tokensOf contents) = hitsFor names (piecesOf contents) := by
  rw [tokensOf, gStrsplitSet]
  split
  · next hempty =>
    rw [List.isEmpty_iff.1 hempty]
    rfl
  · rfl

theorem piecesOf_lines (contents : CStr) :
    piecesOf contents = (contents.splitOn '\n').flatMap piecesOf := by
  induction contents using splitOnP_induction (· == '\n') with
  | piece xs hxs =>
    have hnl : '\n' ∉ xs := by
      intro hm
      have hne := hxs _ hm
      rw [beq_self_eq_true] at hne
      cases hne
    rw [List.splitOn_eq_singleton hnl, List.flatMap_singleton]
  | step xs c rest hxs hc ih =>
    obtain rfl := eq_of_beq hc
    have hnl : '\n' ∉ xs := by
      intro hm
      have hne := hxs _ hm
      rw [beq_self_eq_true] at hne
      cases hne
    have hsep : decide ('\n' ∈ separators) = true := by decide
    have hsplit : piecesOf (xs ++ '\n' :: rest) = piecesOf xs ++ piecesOf rest :=
      List.splitOnP_append_cons xs rest hsep
    rw [hsplit, List.splitOn_append_cons_self, List.splitOn_eq_singleton hnl,
      List.singleton_append, List.flatMap_cons, ih]

theorem named_propertyName (h : ∀ c ∈ a, isSpace c = true) (i : Iface) :
    ifaces.filter (named (a ++ i.propertyName)) = [i] := by
  have hname : ∀ j, named (a ++ i.propertyName) j = named i.propertyName j := by
    intro j
    rw [named, named, gStrstrip_space_append h]
  rw [List.filter_congr fun j _ => hname j]
  cases i <;> decide

theorem space_free {s : CStr} (hnl : '\n' ∉ s) (hc : c ∈ s) (hspace : isSpace c = true) :
    c ∉ separators := by
  intro hsep
  have hseps : separators = [',', '=', '\'', '\n', '\''] := by decide
  rw [hseps] at hsep
  simp only [List.mem_cons, List.not_mem_nil, or_false] at hsep
  rcases hsep with rfl | rfl | rfl | rfl | rfl
  · exact absurd hspace (by decide)
  · exact absurd hspace (by decide)
  · exact absurd hspace (by decide)
  · exact hnl hc
  · exact absurd hspace (by decide)

theorem piecesOf_assign {i : Iface} (hnl : '\n' ∉ line)
    (h : gStrstrip line = i.propertyName ++ '=' :: value) :
    ∃ a b, (∀ c ∈ a, isSpace c = true) ∧ (∀ c ∈ b, isSpace c = true) ∧
      piecesOf line = (a ++ i.propertyName) :: piecesOf (value ++ b) ∧
      '\n' ∉ value ++ b := by
  obtain ⟨a, b, hline, ha, hb⟩ := gStrstrip_spaces line
  have hshape : line = (a ++ i.propertyName) ++ '=' :: (value ++ b) := by
    rw [h] at hline
    rw [hline, List.append_assoc, List.append_assoc, List.cons_append]
  refine ⟨a, b, ha, hb, ?_, ?_⟩
  · have htoken : ∀ c ∈ a ++ i.propertyName, decide (c ∈ separators) = false := by
      intro c hc
      apply decide_eq_false
      rcases List.mem_append.1 hc with hc | hc
      · apply space_free hnl _ (ha c hc)
        rw [hline]
        exact List.mem_append_left _ hc
      · exact ((propertyName_free i).2 c hc).1
    rw [hshape]
    exact List.splitOnP_append_cons_of_forall_mem htoken '=' (by decide) _
  · intro hm
    rw [hshape] at hnl
    exact hnl (List.mem_append_right _ (List.mem_cons_of_mem '=' hm))

theorem assignedValue_assign {i : Iface} (h : gStrstrip line = i.propertyName ++ '=' :: value)
    (j : Iface) :
    assignedValue j line = if i = j then some (unquote (gStrstrip value)) else none := by
  rw [assignedValue, h]
  by_cases hij : i = j
  · subst hij
    have hpre : (i.propertyName ++ ['=']).isPrefixOf (i.propertyName ++ '=' :: value) = true := by
      cases i <;> rfl
    have hdrop : (i.propertyName ++ '=' :: value).drop (i.propertyName.length + 1) = value := by
      cases i <;> rfl
    rw [if_pos hpre, hdrop, if_pos rfl]
  · rw [if_neg hij]
    apply if_neg
    cases i <;> cases j <;> first | exact absurd rfl hij | exact Bool.false_ne_true

theorem assignedOf_assign {i : Iface} (h : gStrstrip line = i.propertyName ++ '=' :: value) :
    assignedOf line = [(i, unquote (gStrstrip value))] := by
  simp only [assignedOf, ifaces, assignedValue_assign h]
  cases i <;> rfl

theorem assignedValue_isSome (h : assignedValue i line = some v) :
    ∃ value, gStrstrip line = i.propertyName ++ '=' :: value := by
  rw [assignedValue] at h
  split at h
  · next hpre =>
    obtain ⟨value, hvalue⟩ := List.isPrefixOf_iff_prefix.1 hpre
    refine ⟨value, ?_⟩
    rw [← hvalue, List.append_assoc]
    rfl
  · cases h

theorem mem_assignedOf : (i, v) ∈ assignedOf line ↔ assignedValue i line = some v := by
  rw [assignedOf, List.mem_filterMap]
  constructor
  · intro h
    obtain ⟨j, _, hj⟩ := h
    obtain ⟨w, hw, heq⟩ := Option.map_eq_some_iff.1 hj
    cases heq
    exact hw
  · intro h
    refine ⟨i, ?_, ?_⟩
    · cases i <;> decide
    · rw [h]
      rfl

/-- The hits in a good line are what it assigns, whatever comes after it. -/
theorem GoodLine.hits (h : GoodLine names line) (hnl : '\n' ∉ line) (rest : List CStr) :
    hitsFor names (piecesOf line ++ rest) =
      pairsFor names (assignedOf line) ++ hitsFor names rest := by
  cases h with
  | other lacks =>
    have hassigned : pairsFor names (assignedOf line) = [] := by
      apply List.filter_eq_nil_iff.2
      intro p hp hname
      obtain ⟨i, v⟩ := p
      obtain ⟨value, hvalue⟩ := assignedValue_isSome (mem_assignedOf.1 hp)
      apply lacks i (of_decide_eq_true hname)
      have hpart : i.propertyName <:+: gStrstrip line := by
        rw [hvalue]
        exact (List.prefix_append _ _).isInfix
      exact hpart.trans (gStrstrip_part line)
    rw [hassigned, List.nil_append]
    apply hitsFor_append
    intro token htoken j hj hpart
    exact lacks j hj (hpart.trans (mem_splitOnP htoken).1)
  | plain i value assigns token lacks =>
    obtain ⟨a, b, ha, hb, hpieces, hfree⟩ := piecesOf_assign hnl assigns
    have hvalue : piecesOf (value ++ b) = [value ++ b] := by
      apply List.splitOnP_eq_singleton
      intro c hc
      apply decide_eq_false
      rcases List.mem_append.1 hc with hc | hc
      · exact token c hc
      · exact space_free hfree (List.mem_append_right value hc) (hb c hc)
    have hlacks : Lacks names (value ++ b) := by
      intro j hj hpart
      obtain ⟨hne, hfree⟩ := propertyName_free j
      have hstrip := infix_gStrstrip hne (fun c hc => (hfree c hc).2) hpart
      rw [gStrstrip_append_space hb] at hstrip
      exact lacks j hj (hstrip.trans (gStrstrip_part value))
    have hquote : unquote (gStrstrip value) = gStrstrip value := by
      rw [unquote.eq_def]
      split
      · next rest hrest =>
        have hmem : '\'' ∈ gStrstrip value := by
          rw [hrest]
          exact List.mem_cons_self
        exact absurd (by decide) (token '\'' ((gStrstrip_sublist value).subset hmem))
      · rfl
    rw [hpieces, hvalue, assignedOf_assign assigns, hquote, List.cons_append,
      List.singleton_append, hitsFor, hitsOf, named_propertyName ha, pairsFor_append,
      ← hitsFor, hitsFor_cons hlacks, gStrstrip_append_space hb]
    rfl
  | blank i before inside assigns beforeSpace insideSpace =>
    obtain ⟨a, b, ha, hb, hpieces, hfree⟩ := piecesOf_assign hnl assigns
    have hvalue : gStrstrip (before ++ '\'' :: (inside ++ ['\''])) =
        '\'' :: (inside ++ ['\'']) := by
      rw [gStrstrip_space_append beforeSpace]
      apply gStrstrip_eq_self_iff.2
      constructor
      · intro c hc
        obtain rfl := Option.some_inj.1 hc
        rfl
      · intro c hc
        rw [← List.cons_append, List.getLast?_concat] at hc
        obtain rfl := Option.some_inj.1 hc
        rfl
    have hquote : unquote ('\'' :: (inside ++ ['\''])) = [] := by
      rw [unquote, List.getLast?_concat, if_pos rfl, List.dropLast_concat]
      exact gStrstrip_eq_nil insideSpace
    have hbefore : ∀ c ∈ before, decide (c ∈ separators) = false := fun c hc =>
      decide_eq_false (space_free hfree (List.mem_append_left b
        (List.mem_append_left _ hc)) (beforeSpace c hc))
    have hinside : ∀ c ∈ inside, decide (c ∈ separators) = false := fun c hc =>
      decide_eq_false (space_free hfree (List.mem_append_left b (List.mem_append_right before
        (List.mem_cons_of_mem _ (List.mem_append_left _ hc)))) (insideSpace c hc))
    have hafter : ∀ c ∈ b, decide (c ∈ separators) = false := fun c hc =>
      decide_eq_false (space_free hfree (List.mem_append_right _ hc) (hb c hc))
    have hrest : piecesOf (before ++ '\'' :: (inside ++ ['\'']) ++ b) = [before, inside, b] := by
      rw [piecesOf, List.append_assoc, List.cons_append, List.append_assoc, List.singleton_append,
        List.splitOnP_append_cons_of_forall_mem hbefore '\'' (by decide),
        List.splitOnP_append_cons_of_forall_mem hinside '\'' (by decide),
        List.splitOnP_eq_singleton hafter]
    have hlacks : ∀ token ∈ [before, inside, b], Lacks names token := by
      have hnames : ∀ text : CStr, (∀ c ∈ text, isSpace c = true) → Lacks names text := by
        intro text htext j _
        obtain ⟨hne, hfree⟩ := propertyName_free j
        exact not_infix_spaces hne (fun c hc => (hfree c hc).2) htext
      intro token htoken
      simp only [List.mem_cons, List.not_mem_nil, or_false] at htoken
      rcases htoken with rfl | rfl | rfl
      · exact hnames _ beforeSpace
      · exact hnames _ insideSpace
      · exact hnames _ hb
    have hskip := hitsFor_append hlacks rest
    rw [hpieces, hrest, assignedOf_assign assigns, hvalue, hquote, ← hskip]
    rw [List.cons_append, hitsFor, List.cons_append, hitsOf, named_propertyName ha,
      pairsFor_append, gStrstrip_eq_nil beforeSpace]
    rfl

theorem hitsFor_lines (lines : List CStr)
    (h : ∀ line ∈ lines, '\n' ∉ line ∧ GoodLine names line) (rest : List CStr) :
    hitsFor names (lines.flatMap piecesOf ++ rest) =
      pairsFor names (lines.flatMap assignedOf) ++ hitsFor names rest := by
  induction lines with
  | nil => rfl
  | cons line lines ih =>
    obtain ⟨hnl, hgood⟩ := h line List.mem_cons_self
    rw [List.flatMap_cons, List.append_assoc, hgood.hits hnl,
      ih fun l hl => h l (List.mem_cons_of_mem line hl), List.flatMap_cons, pairsFor_append,
      List.append_assoc]

theorem splitOn_free (contents : CStr) (hline : line ∈ contents.splitOn '\n') : '\n' ∉ line := by
  intro hm
  rw [List.splitOn_eq_splitOnP] at hline
  have hne := (mem_splitOnP hline).2 _ hm
  rw [beq_self_eq_true] at hne
  cases hne

theorem mapsName_lines (h : ∀ line ∈ contents.splitOn '\n', GoodLine ifaces line)
    (deviceName : CStr) : MapsName contents deviceName := by
  have hall : ∀ pairs, pairsFor ifaces pairs = pairs := by
    intro pairs
    apply List.filter_eq_self.2
    intro p _
    have hifaces : ∀ i, i ∈ ifaces := by
      intro i
      cases i <;> decide
    exact decide_eq_true (hifaces p.1)
  have hhits : hitsFor ifaces (tokensOf contents) = assignments contents := by
    have hlines := hitsFor_lines (contents.splitOn '\n')
      (fun line hline => ⟨splitOn_free _ hline, h line hline⟩) []
    have hnil : hitsFor ifaces [] = [] := rfl
    rw [hall, hnil, List.append_nil, List.append_nil] at hlines
    rw [hitsFor_tokensOf, piecesOf_lines, hlines]
    rfl
  rw [mapsName_iff, ← hhits, hitsFor, hall]

theorem valuesOf_cons (i j : Iface) (value : CStr) (pairs : List (Iface × CStr)) :
    valuesOf i ((j, value) :: pairs) =
      if j = i then value :: valuesOf i pairs else valuesOf i pairs := by
  rw [valuesOf, List.filter_cons]
  by_cases hij : j = i
  · rw [if_pos (decide_eq_true hij), if_pos hij]
    rfl
  · rw [if_neg (by simpa using hij), if_neg hij]
    rfl

theorem routePairs_one {i j : Iface} (hi : i ∈ routeNames)
    (hcover : ∀ k ∈ routeNames, k = i ∨ k = j) (pairs : List (Iface × CStr))
    (hnone : valuesOf j pairs = []) :
    pairsFor routeNames pairs = (valuesOf i pairs).map fun value => (i, value) := by
  induction pairs with
  | nil => rfl
  | cons p pairs ih =>
    obtain ⟨k, value⟩ := p
    rw [valuesOf_cons] at hnone ⊢
    have hkj : k ≠ j := by
      rintro rfl
      rw [if_pos rfl] at hnone
      cases hnone
    rw [if_neg hkj] at hnone
    by_cases hk : k ∈ routeNames
    · obtain rfl := (hcover k hk).resolve_right hkj
      rw [pairsFor_cons, if_pos hk, if_pos rfl, List.map_cons, ih hnone]
    · have hne : k ≠ i := by
        rintro rfl
        exact hk hi
      rw [pairsFor_cons, if_neg hk, if_neg hne]
      exact ih hnone

theorem routePairs (pairs : List (Iface × CStr)) (hmoca : valuesOf .moca pairs = [v])
    (hwifi : valuesOf .wifi pairs = [w]) :
    pairsFor routeNames pairs = [(.moca, v), (.wifi, w)] ∨
      pairsFor routeNames pairs = [(.wifi, w), (.moca, v)] := by
  induction pairs with
  | nil => cases hmoca
  | cons p pairs ih =>
    obtain ⟨k, value⟩ := p
    rw [valuesOf_cons] at hmoca hwifi
    cases k with
    | ethernet => exact ih hmoca hwifi
    | moca =>
      obtain ⟨rfl, hnone⟩ := List.cons.inj hmoca
      have hrest := routePairs_one (i := .wifi) (by decide) (by decide) pairs hnone
      have hvalues : valuesOf .wifi pairs = [w] := hwifi
      rw [hvalues] at hrest
      rw [pairsFor_cons, hrest]
      exact Or.inl rfl
    | wifi =>
      obtain ⟨rfl, hnone⟩ := List.cons.inj hwifi
      have hrest := routePairs_one (i := .moca) (by decide) (by decide) pairs hnone
      have hvalues : valuesOf .moca pairs = [v] := hmoca
      rw [hvalues] at hrest
      rw [pairsFor_cons, hrest]
      exact Or.inr rfl

theorem storeHits_pair (hv : v.length < 10) (hw : w.length < 10)
    (h : hits = [(Iface.moca, v), (Iface.wifi, w)] ∨ hits = [(Iface.wifi, w), (Iface.moca, v)])
    (s : RouteIfaces) : storeHits hits s = some ⟨⟨v, hv⟩, ⟨w, hw⟩⟩ := by
  have hmoca : ∀ s : RouteIfaces, s.store (.moca, v) = some { s with mocaIface := ⟨v, hv⟩ } :=
    fun s => congrArg (Option.map _) (gStpcpy_of_fits hv)
  have hwifi : ∀ s : RouteIfaces, s.store (.wifi, w) = some { s with wifiIface := ⟨w, hw⟩ } :=
    fun s => congrArg (Option.map _) (gStpcpy_of_fits hw)
  rcases h with rfl | rfl
  · rw [storeHits, hmoca, Option.bind_some, storeHits, hwifi]
    rfl
  · rw [storeHits, hwifi, Option.bind_some, storeHits, hmoca]
    rfl

theorem mem_pairsFor (hi : i ∈ names) (h : (i, v) ∈ pairs) : (i, v) ∈ pairsFor names pairs :=
  List.mem_filter.2 ⟨h, decide_eq_true hi⟩

/-- Two elements of a list of two, one of each kind: the list is no longer than these. -/
theorem append_of_pair {xs ys : List (Iface × CStr)} (h : xs ++ ys = [p, q])
    (hmoca : (Iface.moca, v) ∈ xs) (hwifi : (Iface.wifi, w) ∈ xs) : xs = [p, q] := by
  cases xs with
  | nil => cases hmoca
  | cons x xs =>
    cases xs with
    | nil =>
      have hx := List.mem_singleton.1 hmoca
      have hx' := List.mem_singleton.1 hwifi
      rw [← hx] at hx'
      cases hx'
    | cons y xs =>
      simp only [List.cons_append, List.cons.injEq] at h
      obtain ⟨rfl, rfl, hrest⟩ := h
      rw [(List.append_eq_nil_iff.1 hrest).1]

theorem RouteLines.reads (h : RouteLines contents) : RouteReads contents := by
  obtain ⟨before, after, hlines, hgood, hboth⟩ := h
  intro v w hmoca hwifi start
  have hfree : ∀ line ∈ before, '\n' ∉ line := by
    intro line hline
    apply splitOn_free contents
    rw [hlines]
    exact List.mem_append_left after hline
  have hassigned : assignments contents =
      before.flatMap assignedOf ++ after.flatMap assignedOf := by
    rw [assignments, hlines, List.flatMap_append]
  have hpairs := routePairs (assignments contents) hmoca hwifi
  have hvalue : ∀ i ∈ routeNames, ∃ u, (i, u) ∈ before.flatMap assignedOf ∧ u.length < 10 := by
    intro i hi
    obtain ⟨line, hline, hsome⟩ := hboth i hi
    obtain ⟨u, hu⟩ := Option.isSome_iff_exists.1 hsome
    exact ⟨u, List.mem_flatMap.2 ⟨line, hline, mem_assignedOf.2 hu⟩,
      (hgood line hline).2 i hi u hu⟩
  obtain ⟨v', hv', hvlen⟩ := hvalue .moca (by decide)
  obtain ⟨w', hw', hwlen⟩ := hvalue .wifi (by decide)
  have hmocaName : Iface.moca ∈ routeNames := by decide
  have hwifiName : Iface.wifi ∈ routeNames := by decide
  have hv := mem_pairsFor hmocaName hv'
  have hw := mem_pairsFor hwifiName hw'
  have hbefore : pairsFor routeNames (before.flatMap assignedOf) = [(.moca, v), (.wifi, w)] ∨
      pairsFor routeNames (before.flatMap assignedOf) = [(.wifi, w), (.moca, v)] := by
    rw [hassigned, pairsFor_append] at hpairs
    rcases hpairs with hpairs | hpairs
    · exact Or.inl (append_of_pair hpairs hv hw)
    · exact Or.inr (append_of_pair hpairs hv hw)
  have hsame : v' = v ∧ w' = w := by
    rcases hbefore with heq | heq
    · rw [heq] at hv hw
      simp only [List.mem_cons, Prod.mk.injEq, List.not_mem_nil, or_false, true_and,
        reduceCtorEq, false_and, false_or] at hv hw
      exact ⟨hv, hw⟩
    · rw [heq] at hv hw
      simp only [List.mem_cons, Prod.mk.injEq, List.not_mem_nil, or_false, true_and,
        reduceCtorEq, false_and, false_or] at hv hw
      exact ⟨hv, hw⟩
  obtain ⟨rfl, rfl⟩ := hsame
  have hhits : (routeHits (tokensOf contents)).take 2 =
      pairsFor routeNames (before.flatMap assignedOf) := by
    have hfile : routeHits (tokensOf contents) = pairsFor routeNames (before.flatMap assignedOf) ++
        hitsFor routeNames (after.flatMap piecesOf) := by
      have htokens : routeHits (tokensOf contents) = _ := hitsFor_tokensOf routeNames contents
      rw [htokens, piecesOf_lines, hlines, List.flatMap_append]
      exact hitsFor_lines before (fun line hline => ⟨hfree line hline, (hgood line hline).1⟩) _
    rw [hfile]
    rcases hbefore with heq | heq
    · rw [heq]
      rfl
    · rw [heq]
      rfl
  refine ⟨⟨⟨v', hvlen⟩, ⟨w', hwlen⟩⟩, ?_, rfl, rfl⟩
  rw [routeReadDevFile, routeLoop_eq _ Nat.two_pos, Nat.sub_zero, hhits,
    storeHits_pair hvlen hwlen hbefore]
  rfl

end NetSrvMgr.DevFile
