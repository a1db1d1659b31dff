import NetSrvMgr.DefaultInterface
import NetSrvMgr.InputStream

namespace NetSrvMgr.Ip
open CString InputStream
set_option autoImplicit true

/-- What `inet_pton` accepts: texts of addresses, which are not empty and fit the buffers. -/
structure InetPton where
  accepts : Family → CStr → Bool
  fits : ∀ family s, accepts family s = true → s.length < inet6Addrstrlen
  notEmpty : ∀ family, accepts family [] = false

def strcpyS (source : CStr) : AddrArray :=
  if h : source.length < inet6Addrstrlen then ⟨source, h⟩ else .snprintf []

/-- The variables of the loop; `i` is the next of the two buffers. -/
structure DnsLoop where
  keyword : List Char
  value : List Char
  i : Nat
  primaryDNS : AddrArray
  secondaryDNS : AddrArray
  deriving DecidableEq

def nameserver : List Char := "nameserver".toList

def DnsLoop.store (s : DnsLoop) (value : CStr) : DnsLoop :=
  if s.i = 0 then { s with i := s.i + 1, primaryDNS := strcpyS value }
  else { s with i := s.i + 1, secondaryDNS := strcpyS value }

section
variable (accepts : CStr → Bool)

/-- One line of the file. Both strings keep what they hold where nothing is left to extract. -/
def dnsLine (line : List Char) (s : DnsLoop) : DnsLoop :=
  let ss := (extract line).getD (s.keyword, [])
  let s := { s with keyword := ss.1 }
  if s.keyword = nameserver then
    let s := { s with value := ((extract ss.2).map Prod.fst).getD s.value }
    if accepts (cstr s.value) then s.store (cstr s.value) else s
  else s

def dnsLoop : List (List Char) → DnsLoop → DnsLoop
  | [], s => s
  | line :: f, s => if s.i < 2 then dnsLoop f (dnsLine accepts line s) else s

/-- The entry that a line is by itself. -/
def lineEntry (line : List Char) : Option CStr :=
  (extract line).bind fun r =>
    if r.1 = nameserver then
      ((extract r.2).map fun v => cstr v.1).filter accepts
    else none

/-- Whether a line repeats an entry, read after the entry's own line and before the next one that
gives `nameserver` a value: one that gives it none, or a blank one after a `nameserver` line. -/
def repeatsEntry : Bool → List (List Char) → Bool
  | _, [] => false
  | afterNameserver, line :: f =>
    match extract line with
    | none => afterNameserver || repeatsEntry afterNameserver f
    | some (keyword, ss) =>
      if keyword = nameserver then (extract ss).isNone else repeatsEntry false f

end

/-- The buffers and the result; without the file the buffers are left as they are. -/
def getDNSip (net : InetPton) (family : Family) (file : Option (List Char))
    (primaryDNS secondaryDNS : AddrArray) : AddrArray × AddrArray × Bool :=
  match file with
  | none => (primaryDNS, secondaryDNS, false)
  | some f =>
    let s := dnsLoop (net.accepts family) (getlineTokens '\n' f)
      ⟨[], [], 0, primaryDNS, secondaryDNS⟩
    (s.primaryDNS, s.secondaryDNS, true)

def emptyAddr : AddrArray := .snprintf []

/-- The buffers, empty before the call, hold the first two entries of the file. -/
def HoldsFirstEntries (net : InetPton) (family : Family) (f : List Char) : Prop :=
  let entries := (getlineTokens '\n' f).filterMap (lineEntry (net.accepts family))
  let r := getDNSip net family (some f) emptyAddr emptyAddr
  r.1.str = (entries[0]?).getD [] ∧ r.2.1.str = (entries[1]?).getD [] ∧ r.2.2 = true

/-- No line repeats the first entry, or the second entry is the same anyway. -/
def FirstEntryOnce (net : InetPton) (family : Family) (f : List Char) : Prop :=
  match (getlineTokens '\n' f).dropWhile fun line =>
    (lineEntry (net.accepts family) line).isNone with
  | [] => True
  | first :: rest =>
    repeatsEntry true rest = false ∨
      (rest.filterMap (lineEntry (net.accepts family))).head? =
        lineEntry (net.accepts family) first

variable {accepts : CStr → Bool}

theorem store_second {s : DnsLoop} (hi : s.i = 1) (v : CStr) :
    (s.store v).i = 2 ∧ (s.store v).primaryDNS = s.primaryDNS ∧
      (s.store v).secondaryDNS = strcpyS v := by
  rw [DnsLoop.store, if_neg (by rw [hi]; exact Nat.one_ne_zero), hi]
  exact ⟨rfl, rfl, rfl⟩

/-- The loop with the words of a `nameserver` line in its variables, and the value stored if it is
valid. -/
def DnsLoop.taken (accepts : CStr → Bool) (value : List Char) (s : DnsLoop) : DnsLoop :=
  let s := { s with keyword := nameserver, value := value }
  if accepts (cstr value) then s.store (cstr value) else s

theorem dnsLine_blank (h : extract line = none) (s : DnsLoop) :
    dnsLine accepts line s = if s.keyword = nameserver then s.taken accepts s.value else s := by
  rw [dnsLine, h]
  by_cases hk : s.keyword = nameserver
  · rw [if_pos hk]
    refine (if_pos hk).trans ?_
    obtain ⟨keyword, value, i, primaryDNS, secondaryDNS⟩ := s
    subst hk
    rfl
  · rw [if_neg hk]
    exact if_neg hk

theorem dnsLine_other (h : extract line = some (keyword, ss)) (hk : keyword ≠ nameserver)
    (s : DnsLoop) : dnsLine accepts line s = { s with keyword := keyword } := by
  rw [dnsLine, h]
  exact if_neg hk

theorem dnsLine_nameserver (h : extract line = some (nameserver, ss)) (s : DnsLoop) :
    dnsLine accepts line s = s.taken accepts (((extract ss).map Prod.fst).getD s.value) := by
  rw [dnsLine, h]
  exact if_pos rfl

theorem lineEntry_blank (h : extract line = none) : lineEntry accepts line = none := by
  rw [lineEntry, h]
  rfl

theorem lineEntry_other (h : extract line = some (keyword, ss)) (hk : keyword ≠ nameserver) :
    lineEntry accepts line = none := by
  rw [lineEntry, h]
  exact if_neg hk

theorem lineEntry_nameserver (h : extract line = some (nameserver, ss)) :
    lineEntry accepts line = ((extract ss).map fun v => cstr v.1).filter accepts := by
  rw [lineEntry, h, Option.bind_some]
  exact if_pos rfl

theorem taken_valid (h : accepts (cstr value) = true) (s : DnsLoop) :
    s.taken accepts value =
      { s with keyword := nameserver, value := value }.store (cstr value) := by
  rw [DnsLoop.taken]
  exact if_pos h

theorem taken_invalid (h : accepts (cstr value) = false) (s : DnsLoop) :
    s.taken accepts value = { s with keyword := nameserver, value := value } := by
  rw [DnsLoop.taken]
  exact if_neg (by rw [h]; exact Bool.false_ne_true)

theorem repeatsEntry_blank (h : extract line = none) (b : Bool) (f : List (List Char)) :
    repeatsEntry b (line :: f) = (b || repeatsEntry b f) := by
  rw [repeatsEntry, h]

theorem repeatsEntry_other (h : extract line = some (keyword, ss)) (hk : keyword ≠ nameserver)
    (b : Bool) (f : List (List Char)) : repeatsEntry b (line :: f) = repeatsEntry false f := by
  rw [repeatsEntry, h]
  exact if_neg hk

theorem repeatsEntry_nameserver (h : extract line = some (nameserver, ss)) (b : Bool)
    (f : List (List Char)) : repeatsEntry b (line :: f) = (extract ss).isNone := by
  rw [repeatsEntry, h]
  exact if_pos rfl

/-- The cases of a line: it leaves the value, or it is a `nameserver` line with one. -/
theorem line_cases (accepts : CStr → Bool) (line : List Char) :
    (lineEntry accepts line = none ∧ ∀ s : DnsLoop, ∃ keyword,
      dnsLine accepts line s = { s with keyword := keyword } ∨
        dnsLine accepts line s = s.taken accepts s.value) ∨
    ∃ value, lineEntry accepts line = (some (cstr value)).filter accepts ∧
      ∀ s : DnsLoop, dnsLine accepts line s = s.taken accepts value := by
  cases hline : extract line with
  | none =>
    refine Or.inl ⟨lineEntry_blank hline, fun s => ⟨s.keyword, ?_⟩⟩
    rw [dnsLine_blank hline]
    by_cases hk : s.keyword = nameserver
    · rw [if_pos hk]
      exact Or.inr rfl
    · rw [if_neg hk]
      exact Or.inl rfl
  | some r =>
    obtain ⟨keyword, ss⟩ := r
    by_cases hk : keyword = nameserver
    · subst hk
      cases hss : extract ss with
      | none =>
        refine Or.inl ⟨?_, fun s => ⟨s.keyword, Or.inr ?_⟩⟩
        · rw [lineEntry_nameserver hline, hss]
          rfl
        · rw [dnsLine_nameserver hline, hss]
          rfl
      | some v =>
        refine Or.inr ⟨v.1, ?_, fun s => ?_⟩
        · rw [lineEntry_nameserver hline, hss]
          rfl
        · rw [dnsLine_nameserver hline, hss]
          rfl
    · exact Or.inl ⟨lineEntry_other hline hk, fun s =>
        ⟨keyword, Or.inl (dnsLine_other hline hk s)⟩⟩

theorem dnsLine_entry (h : lineEntry accepts line = some v) (s : DnsLoop) :
    ∃ value, cstr value = v ∧ accepts v = true ∧
      dnsLine accepts line s = { s with keyword := nameserver, value := value }.store v := by
  rcases line_cases accepts line with ⟨hnone, _⟩ | ⟨value, hentry, hline⟩
  · rw [hnone] at h
    cases h
  · rw [hentry, Option.filter_eq_some_iff] at h
    obtain ⟨hvalue, hv⟩ := h
    cases hvalue
    exact ⟨value, rfl, hv, (hline s).trans (taken_valid hv s)⟩

/-- A line that is no entry stores nothing while no valid value is held. -/
theorem dnsLine_idle (h : lineEntry accepts line = none) (hs : accepts (cstr s.value) = false) :
    ∃ keyword value, accepts (cstr value) = false ∧
      dnsLine accepts line s = { s with keyword := keyword, value := value } := by
  rcases line_cases accepts line with ⟨_, hline⟩ | ⟨value, hentry, hline⟩
  · obtain ⟨keyword, hline | hline⟩ := hline s
    · exact ⟨keyword, s.value, hs, hline⟩
    · exact ⟨nameserver, s.value, hs, hline.trans (taken_invalid hs s)⟩
  · rw [hentry, Option.filter_eq_none_iff] at h
    have hvalue : accepts (cstr value) = false := Bool.eq_false_iff.2 (h _ rfl)
    exact ⟨nameserver, value, hvalue, (hline s).trans (taken_invalid hvalue s)⟩

theorem dnsLoop_full (hi : s.i = 2) (f : List (List Char)) : dnsLoop accepts f s = s := by
  cases f with
  | nil => rfl
  | cons line f =>
    rw [dnsLoop, hi]
    exact if_neg (Nat.lt_irrefl 2)

/-- The text that the second buffer gets. -/
def secondText (entry : Option CStr) (s : DnsLoop) : AddrArray :=
  (entry.map strcpyS).getD s.secondaryDNS

theorem dnsLoop_second (hi : s.i = 1) (hs : accepts (cstr s.value) = false)
    (f : List (List Char)) :
    (dnsLoop accepts f s).primaryDNS = s.primaryDNS ∧
      (dnsLoop accepts f s).secondaryDNS =
        secondText (f.filterMap (lineEntry accepts)).head? s := by
  induction f generalizing s with
  | nil => exact ⟨rfl, rfl⟩
  | cons line f ih =>
    have hlt : s.i < 2 := by
      rw [hi]
      exact Nat.one_lt_two
    rw [dnsLoop, if_pos hlt, List.filterMap_cons]
    cases hentry : lineEntry accepts line with
    | none =>
      obtain ⟨keyword, value, hvalue, hline⟩ := dnsLine_idle hentry hs
      rw [hline]
      exact ih hi hvalue
    | some v =>
      obtain ⟨value, _, _, hline⟩ := dnsLine_entry hentry s
      obtain ⟨hfull, hprimary, hsecondary⟩ :=
        store_second (s := { s with keyword := nameserver, value := value }) hi v
      rw [hline, dnsLoop_full hfull]
      exact ⟨hprimary, hsecondary⟩

theorem dnsLoop_given (hi : s.i = 1) (hline : extract line = some (nameserver, ss))
    (hss : extract ss = some v) (f : List (List Char)) :
    (dnsLoop accepts (line :: f) s).primaryDNS = s.primaryDNS ∧
      (dnsLoop accepts (line :: f) s).secondaryDNS =
        secondText ((line :: f).filterMap (lineEntry accepts)).head? s := by
  have hlt : s.i < 2 := by
    rw [hi]
    exact Nat.one_lt_two
  have hentry : lineEntry accepts line = _ := lineEntry_nameserver hline
  have htaken : dnsLine accepts line s = _ := dnsLine_nameserver hline s
  rw [hss, Option.map_some] at hentry htaken
  rw [Option.getD_some] at htaken
  rw [dnsLoop, if_pos hlt, htaken, List.filterMap_cons, hentry]
  cases hv : accepts (cstr v.1) with
  | true =>
    obtain ⟨hfull, hprimary, hsecondary⟩ :=
      store_second (s := { s with keyword := nameserver, value := v.1 }) hi (cstr v.1)
    rw [taken_valid hv, dnsLoop_full hfull, Option.filter_some, if_pos hv]
    exact ⟨hprimary, hsecondary⟩
  | false =>
    have hnot : ¬ accepts (cstr v.1) = true := by
      rw [hv]
      exact Bool.false_ne_true
    rw [taken_invalid hv, Option.filter_some, if_neg hnot]
    exact dnsLoop_second (s := { s with keyword := nameserver, value := v.1 }) hi hv f

theorem dnsLoop_stores (hi : s.i = 1) (hs : accepts (cstr s.value) = true)
    (hline : dnsLine accepts line s = s.taken accepts s.value) (f : List (List Char)) :
    (dnsLoop accepts (line :: f) s).primaryDNS = s.primaryDNS ∧
      (dnsLoop accepts (line :: f) s).secondaryDNS = strcpyS (cstr s.value) := by
  have hlt : s.i < 2 := by
    rw [hi]
    exact Nat.one_lt_two
  obtain ⟨hfull, hprimary, hsecondary⟩ :=
    store_second (s := { s with keyword := nameserver, value := s.value }) hi (cstr s.value)
  rw [dnsLoop, if_pos hlt, hline, taken_valid hs, dnsLoop_full hfull]
  exact ⟨hprimary, hsecondary⟩

/-- After the first entry, whose value is still held, a line may repeat it. -/
theorem dnsLoop_held (hi : s.i = 1) (hs : accepts (cstr s.value) = true)
    (f : List (List Char)) :
    (dnsLoop accepts f s).primaryDNS = s.primaryDNS ∧
      (dnsLoop accepts f s).secondaryDNS =
        if repeatsEntry (decide (s.keyword = nameserver)) f then strcpyS (cstr s.value)
        else secondText (f.filterMap (lineEntry accepts)).head? s := by
  induction f generalizing s with
  | nil => exact ⟨rfl, rfl⟩
  | cons line f ih =>
    have hlt : s.i < 2 := by
      rw [hi]
      exact Nat.one_lt_two
    cases hline : extract line with
    | none =>
      have hblank : dnsLine accepts line s = _ := dnsLine_blank hline s
      rw [repeatsEntry_blank hline]
      by_cases hk : s.keyword = nameserver
      · rw [if_pos hk] at hblank
        rw [decide_eq_true hk]
        exact dnsLoop_stores hi hs hblank f
      · -- the keyword stays another one, so that the next blank line is as harmless
        rw [if_neg hk] at hblank
        rw [List.filterMap_cons, lineEntry_blank hline, dnsLoop, if_pos hlt, hblank,
          decide_eq_false hk, Bool.false_or, ← decide_eq_false hk]
        exact ih hi hs
    | some r =>
      obtain ⟨keyword, ss⟩ := r
      by_cases hk : keyword = nameserver
      · subst hk
        have htaken : dnsLine accepts line s = _ := dnsLine_nameserver hline s
        rw [repeatsEntry_nameserver hline]
        cases hss : extract ss with
        | none =>
          rw [hss] at htaken
          exact dnsLoop_stores hi hs htaken f
        | some v =>
          exact dnsLoop_given hi hline hss f
      · rw [repeatsEntry_other hline hk, List.filterMap_cons, lineEntry_other hline hk, dnsLoop,
          if_pos hlt, dnsLine_other hline hk, ← decide_eq_false hk]
        exact ih (s := { s with keyword := keyword }) hi hs

theorem dnsLoop_first (hi : s.i = 0) (hs : accepts (cstr s.value) = false)
    (f : List (List Char)) :
    match f.dropWhile fun line => (lineEntry accepts line).isNone with
    | [] => (dnsLoop accepts f s).primaryDNS = s.primaryDNS ∧
        (dnsLoop accepts f s).secondaryDNS = s.secondaryDNS
    | first :: rest => ∃ v, lineEntry accepts first = some v ∧ accepts v = true ∧
        (dnsLoop accepts f s).primaryDNS = strcpyS v ∧
        (dnsLoop accepts f s).secondaryDNS =
          if repeatsEntry true rest then strcpyS v
          else secondText (rest.filterMap (lineEntry accepts)).head? s := by
  induction f generalizing s with
  | nil => exact ⟨rfl, rfl⟩
  | cons line f ih =>
    have hlt : s.i < 2 := by
      rw [hi]
      exact Nat.zero_lt_two
    rw [dnsLoop, if_pos hlt]
    cases hentry : lineEntry accepts line with
    | none =>
      obtain ⟨keyword, value, hvalue, hline⟩ := dnsLine_idle hentry hs
      rw [List.dropWhile_cons_of_pos (by rw [hentry]; rfl), hline]
      exact ih (s := { s with keyword := keyword, value := value }) hi hvalue
    | some v =>
      obtain ⟨value, rfl, hv, hline⟩ := dnsLine_entry hentry s
      have hstore : { s with keyword := nameserver, value := value }.store (cstr value) =
          { s with keyword := nameserver, value := value, i := 1,
                   primaryDNS := strcpyS (cstr value) } := by
        rw [DnsLoop.store, if_pos hi, hi]
      have hheld := dnsLoop_held (s := { s with
        keyword := nameserver, value := value, i := 1, primaryDNS := strcpyS (cstr value) })
        rfl hv f
      rw [List.dropWhile_cons_of_neg (by rw [hentry]; exact Bool.false_ne_true), hline, hstore]
      exact ⟨cstr value, hentry, hv, hheld⟩

theorem filterMap_dropWhile_isNone (g : α → Option β) (l : List α) :
    (l.dropWhile fun a => (g a).isNone).filterMap g = l.filterMap g := by
  induction l with
  | nil => rfl
  | cons a l ih =>
    cases ha : g a with
    | none => rw [List.dropWhile_cons_of_pos (by rw [ha]; rfl), ih, List.filterMap_cons, ha]
    | some b => rw [List.dropWhile_cons_of_neg (by rw [ha]; exact Bool.false_ne_true)]

theorem lineEntry_accepted (h : lineEntry accepts line = some v) : accepts v = true := by
  obtain ⟨_, _, hv, _⟩ := dnsLine_entry h ⟨[], [], 0, emptyAddr, emptyAddr⟩
  exact hv

theorem strcpyS_str (h : v.length < inet6Addrstrlen) : (strcpyS v).str = v := by
  rw [strcpyS, dif_pos h]

/-- The buffers hold the first two entries exactly where the first is not repeated by a line that
is none. -/
theorem getDNSip_firstEntries_iff (net : InetPton) (family : Family) (f : List Char) :
    HoldsFirstEntries net family f ↔ FirstEntryOnce net family f := by
  have hfirst := dnsLoop_first (s := ⟨[], [], 0, emptyAddr, emptyAddr⟩) rfl
    (net.notEmpty family) (getlineTokens '\n' f)
  have hentries := filterMap_dropWhile_isNone (lineEntry (net.accepts family))
    (getlineTokens '\n' f)
  rw [HoldsFirstEntries, FirstEntryOnce, ← hentries, getDNSip]
  cases hdrop : (getlineTokens '\n' f).dropWhile
      fun line => (lineEntry (net.accepts family) line).isNone with
  | nil =>
    rw [hdrop] at hfirst
    obtain ⟨hprimary, hsecondary⟩ := hfirst
    apply iff_of_true _ trivial
    dsimp only
    rw [hprimary, hsecondary]
    exact ⟨rfl, rfl, rfl⟩
  | cons first rest =>
    rw [hdrop] at hfirst
    obtain ⟨v, hentry, hv, hprimary, hsecondary⟩ := hfirst
    have hstr : (strcpyS v).str = v := strcpyS_str (net.fits family v hv)
    dsimp only
    rw [List.filterMap_cons, hentry, hprimary, hsecondary]
    dsimp only
    rw [List.getElem?_cons_zero, List.getElem?_cons_succ, ← List.head?_eq_getElem?,
      Option.getD_some, and_iff_right hstr, and_iff_left rfl]
    have hsecond : (secondText (rest.filterMap (lineEntry (net.accepts family))).head?
        ⟨[], [], 0, emptyAddr, emptyAddr⟩).str =
          ((rest.filterMap (lineEntry (net.accepts family))).head?).getD [] := by
      cases hhead : (rest.filterMap (lineEntry (net.accepts family))).head? with
      | none => rfl
      | some w =>
        obtain ⟨line, _, hw⟩ := List.mem_filterMap.1 (List.mem_of_head? hhead)
        exact strcpyS_str (net.fits family w (lineEntry_accepted hw))
    cases hrep : repeatsEntry true rest with
    | false =>
      apply iff_of_true _ (Or.inl rfl)
      rw [if_neg Bool.false_ne_true]
      exact hsecond
    | true =>
      have hnot : ¬ true = false := Bool.noConfusion
      rw [if_pos rfl, hstr, or_iff_right hnot]
      cases (rest.filterMap (lineEntry (net.accepts family))).head? with
      | none =>
        apply iff_of_false
        · intro hnil
          have hempty := net.notEmpty family
          rw [hnil] at hv
          exact Bool.false_ne_true (hempty.symm.trans hv)
        · intro h
          cases h
      | some w =>
        rw [Option.getD_some, Option.some.injEq]
        exact eq_comm

def inetPton : InetPton where
  accepts := fun family s => decide (s.length < inet6Addrstrlen) && family.accepts s
  fits := fun _ _ h => of_decide_eq_true (Bool.and_eq_true_iff.1 h).1
  notEmpty := fun family => by cases family <;> rfl

/-- A blank line after the only entry stores it once more. -/
theorem getDNSip_blankLine : ¬ ∀ net family f, HoldsFirstEntries net family f := by
  intro h
  obtain ⟨_, hsecondary, _⟩ := h inetPton .inet "nameserver 10.0.0.1\n\n".toList
  have hstale : (getDNSip inetPton .inet (some "nameserver 10.0.0.1\n\n".toList) emptyAddr
      emptyAddr).2.1.str = "10.0.0.1".toList := by
    decide
  rw [hstale] at hsecondary
  have hentries : (((getlineTokens '\n' "nameserver 10.0.0.1\n\n".toList).filterMap
      (lineEntry (inetPton.accepts .inet)))[1]?).getD [] = [] := by
    decide
  rw [hentries] at hsecondary
  cases hsecondary

end NetSrvMgr.Ip
