import Settle.Task.StatusTable

/-!
# What a table is built from

A status table is built from three lists of codes, one for each outcome. What counts is which codes
stand in which list, up to equality of worth: a code may stand in a list several times and in
several forms, but not in two lists. `Filled` is the invariant of the building: so far, what is
looked up is found with an outcome iff it equals a code that was entered for that outcome. Entering
one more list keeps it, or meets a code that equals one of another list (`Filled.enterAll?_cases`),
and so it is along all three (`Filled.enterLists?_cases`).

Equality of worth is an equivalence on the codes that can be looked up, not-a-number apart, which
equals nothing; so equal codes are looked up alike (`find?_congr`).

Main statement: `build?_tabulates`.
-/

namespace Settle

/-! ### Equality of worth -/

namespace Value

/-- Some code of a list equals the value. -/
def isAmong (v : Value) (codes : List Value) : Bool := codes.any fun c => c.same v

theorem isAmong_iff {v : Value} {codes : List Value} :
    v.isAmong codes = true ↔ ∃ c ∈ codes, c.same v = true := List.any_eq_true

@[simp] theorem isAmong_nil (v : Value) : v.isAmong [] = false := rfl

theorem isScalar_of_key {v : Value} {k : Key} (h : v.key? = some k) : v.isScalar = true := by
  cases v with
  | list | record => cases h
  | _ => rfl

/-- Equality is equality of worth where the second value is a scalar. -/
theorem same_iff_key_right {a b : Value} (hb : b.isScalar = true) :
    a.same b = true ↔ ∃ k, a.key? = some k ∧ b.key? = some k := by
  cases ha : a.isScalar with
  | true => exact same_iff_key ha
  | false =>
    -- a list or a record has no worth, and equals no scalar
    cases a with
    | list | record => cases b <;> simp_all [isScalar, same, key?]
    | _ => cases ha

/-- What equals one of two equal values equals the other. -/
theorem same_congr_right {a b : Value} (ha : a.isScalar = true) (h : a.same b = true) (c : Value) :
    c.same a = c.same b := by
  obtain ⟨k, hak, hbk⟩ := (same_iff_key ha).mp h
  rw [Bool.eq_iff_iff, same_iff_key_right ha, same_iff_key_right (isScalar_of_key hbk), hak, hbk]

theorem isAmong_congr {a b : Value} (ha : a.isScalar = true) (h : a.same b = true)
    (codes : List Value) : a.isAmong codes = b.isAmong codes := by
  simp only [isAmong, same_congr_right ha h]

/-- A code that occurs in one list equals itself, and so it occurs in each where it stands. -/
theorem isAmong_of_mem {v : Value} {codes others : List Value} (hv : v.isScalar = true)
    (h : v.isAmong others = true) (hmem : v ∈ codes) : v.isAmong codes = true := by
  obtain ⟨c, -, hsame⟩ := isAmong_iff.mp h
  obtain ⟨k, -, hk⟩ := (same_iff_key_right hv).mp hsame
  exact isAmong_iff.mpr ⟨v, hmem, (same_iff_key hv).mpr ⟨k, hk, hk⟩⟩

end Value

namespace StatusTable

variable {τ : Type} {entries entries' : List (Value × Outcome)} {code : Value} {o : Outcome}

/-! ### Entering codes -/

/-- Equal codes are looked up alike. -/
theorem find?_congr {c c' : Value} (hc : c.isScalar = true) (h : c.same c' = true)
    (entries : List (Value × Outcome)) : find? entries c = find? entries c' := by
  simp only [find?, Value.same_congr_right hc h]

theorem enter?_cases (entries : List (Value × Outcome)) (code : Value) (o : Outcome) :
    ((∃ entries', enter? entries code o = .ok entries') ∧
      ∀ old, find? entries code = some old → old = o) ∨
    ∃ old, find? entries code = some old ∧ old ≠ o ∧ enter? entries code o = .error old := by
  rw [enter?]
  cases find? entries code with
  | none =>
    refine .inl ⟨⟨_, rfl⟩, fun old hold => ?_⟩
    cases hold
  | some old =>
    by_cases h : old = o
    · exact .inl ⟨⟨entries, if_pos h⟩, fun _ hold => Option.some.inj hold ▸ h⟩
    · exact .inr ⟨old, rfl, h, if_neg h⟩

/-- A code that was entered is found, in whatever form, and nothing else is found that was not. -/
theorem find?_entered (hcode : code.isScalar = true) (h : enter? entries code o = .ok entries')
    (c : Value) : find? entries' c = if code.same c then some o else find? entries c := by
  rw [find?_enter h]
  by_cases hc : code.same c = true
  · rw [← find?_congr hcode hc entries, if_pos hc]
    rcases enter?_cases entries code o with ⟨-, hold⟩ | ⟨old, -, -, herror⟩
    · cases hfound : find? entries code with
      | none => simp [hc]
      | some old => simp [hold old hfound]
    · cases h.symm.trans herror
  · simp [hc]

/-- To enter a list of codes either succeeds, or fails at a code that has another outcome. -/
theorem enterAll?_cases (τ : Type) (o : Outcome) {codes : List Value}
    (h : ∀ c ∈ codes, c.isScalar = true) (entries : List (Value × Outcome)) :
    (∃ entries', enterAll? (τ := τ) o codes entries = .ok entries' ∧
      (∀ c ∈ codes, ∀ old, find? entries c = some old → old = o) ∧
      ∀ c, find? entries' c = if c.isAmong codes then some o else find? entries c) ∨
    ∃ code ∈ codes, ∃ old, find? entries code = some old ∧ old ≠ o ∧
      enterAll? (τ := τ) o codes entries = .error (conflict code old o) := by
  induction codes generalizing entries with
  | nil => exact .inl ⟨entries, rfl, nofun, fun _ => rfl⟩
  | cons code codes ih =>
    obtain ⟨hcode, hcodes⟩ := List.forall_mem_cons.mp h
    rw [enterAll?, if_pos hcode]
    rcases enter?_cases entries code o with
      ⟨⟨entries₁, hentered⟩, hold⟩ | ⟨old, hfound, hne, herror⟩
    · have hfind := find?_entered hcode hentered
      rw [hentered]
      rcases ih hcodes entries₁ with
        ⟨entries', hall, hclear, hfind'⟩ | ⟨c, hc, old, hfound, hne, hall⟩
      · refine .inl ⟨entries', hall, List.forall_mem_cons.mpr ⟨hold, fun c hc old hfound => ?_⟩,
          fun c => ?_⟩
        · by_cases hsame : code.same c = true
          · exact hold old ((find?_congr hcode hsame entries).trans hfound)
          · exact hclear c hc old (by rw [hfind, if_neg hsame, hfound])
        · rw [hfind', hfind, Value.isAmong, Value.isAmong, List.any_cons]
          cases code.same c <;> cases codes.any fun x => x.same c <;> rfl
      · refine .inr ⟨c, .tail _ hc, old, ?_, hne, hall⟩
        -- the code that was entered first has the outcome of the list
        rw [hfind] at hfound
        split at hfound
        · exact absurd (Option.some.inj hfound).symm hne
        · exact hfound
    · exact .inr ⟨code, .head _, old, hfound, hne, by rw [herror]⟩

/-! ### Entering lists of codes -/

/-- A code that is looked up is found with an outcome iff it equals one entered for it. -/
def Filled (entries : List (Value × Outcome)) (codes : Outcome → List Value) : Prop :=
  ∀ c o, find? entries c = some o ↔ c.isAmong (codes o) = true

/-- The codes of the outcomes whose lists are entered. -/
def upTo (codes : Outcome → List Value) (done : List Outcome) (o : Outcome) : List Value :=
  if o ∈ done then codes o else []

/-- Enter the codes of one outcome after the other. -/
def enterLists? (τ : Type) (codes : Outcome → List Value) (outcomes : List Outcome)
    (entries : List (Value × Outcome)) : Except (Fault τ) (List (Value × Outcome)) :=
  outcomes.foldlM (fun entries o => enterAll? o (codes o) entries) entries

namespace Filled

variable {codes : Outcome → List Value} {done : List Outcome}

theorem start (codes : Outcome → List Value) : Filled [] (upTo codes []) :=
  fun _ _ => ⟨nofun, nofun⟩

/-- No code stands in two lists. -/
theorem unique (h : Filled entries codes) {c : Value} {o o' : Outcome}
    (ho : c.isAmong (codes o) = true) (ho' : c.isAmong (codes o') = true) : o = o' :=
  Option.some.inj (((h c o).mpr ho).symm.trans ((h c o').mpr ho'))

/-- **One more list** is entered, unless one of its codes equals one of another list. -/
theorem enterAll?_cases (τ : Type) (h : Filled entries (upTo codes done)) (hnew : o ∉ done)
    (hcodes : ∀ c ∈ codes o, c.isScalar = true) :
    (∃ entries', enterAll? (τ := τ) o (codes o) entries = .ok entries' ∧
      Filled entries' (upTo codes (o :: done))) ∨
    ∃ code ∈ codes o, ∃ old, old ≠ o ∧ code.isAmong (codes old) = true ∧
      enterAll? (τ := τ) o (codes o) entries = .error (conflict code old o) := by
  rcases StatusTable.enterAll?_cases τ o hcodes entries with
    ⟨entries', hall, hclear, hfind⟩ | ⟨code, hcode, old, hfound, hne, hall⟩
  · refine .inl ⟨entries', hall, fun c o' => ?_⟩
    by_cases hc : c.isAmong (codes o) = true
    · -- what equals a code of this list was not found before
      have hnone (old : Outcome) : ¬ find? entries c = some old := by
        obtain ⟨x, hx, hsame⟩ := Value.isAmong_iff.mp hc
        have halike := find?_congr (hcodes x hx) hsame entries
        intro hold
        obtain rfl : old = o := hclear x hx old (halike.trans hold)
        have hmem := (h c old).mp hold
        rw [upTo, if_neg hnew] at hmem
        cases hmem
      rw [hfind, if_pos hc]
      by_cases ho : o' = o
      · simp [ho, upTo, hc]
      · have hother : upTo codes (o :: done) o' = upTo codes done o' := by simp [upTo, ho]
        rw [hother, ← h]
        simp [hnone, Ne.symm ho]
    · rw [hfind, if_neg hc, h]
      by_cases ho : o' = o
      · simp [ho, upTo, hc, hnew]
      · simp [upTo, ho]
  · refine .inr ⟨code, hcode, old, hne, ?_, hall⟩
    have hmem := (h code old).mp hfound
    rw [upTo] at hmem
    split at hmem
    · exact hmem
    · cases hmem

/-- **Several lists** are entered, unless a code equals one of another list. -/
theorem enterLists?_cases (τ : Type) {outcomes : List Outcome}
    (h : Filled entries (upTo codes done)) (hnew : outcomes.Nodup)
    (hdone : ∀ o ∈ outcomes, o ∉ done) (hcodes : ∀ o, ∀ c ∈ codes o, c.isScalar = true) :
    (∃ entries', enterLists? τ codes outcomes entries = .ok entries' ∧
      Filled entries' (upTo codes (outcomes.reverse ++ done))) ∨
    ∃ code old new, old ≠ new ∧ code ∈ codes new ∧ code.isAmong (codes old) = true ∧
      enterLists? τ codes outcomes entries = .error (conflict code old new) := by
  induction outcomes generalizing entries done with
  | nil => exact .inl ⟨entries, rfl, h⟩
  | cons o outcomes ih =>
    obtain ⟨ho, hdone⟩ := List.forall_mem_cons.mp hdone
    obtain ⟨hfirst, hrest⟩ := List.nodup_cons.mp hnew
    have hstep : enterLists? τ codes (o :: outcomes) entries =
        enterAll? o (codes o) entries >>= enterLists? τ codes outcomes := List.foldlM_cons
    rw [hstep, List.reverse_cons, List.append_assoc]
    rcases h.enterAll?_cases τ ho (hcodes o) with
      ⟨entries₁, hall, hfilled⟩ | ⟨code, hcode, old, hne, hold, hall⟩
    · rw [hall]
      exact ih hfilled hrest fun o' ho' hmem => by
        rcases List.mem_cons.mp hmem with rfl | hmem
        · exact hfirst ho'
        · exact hdone o' ho' hmem
    · exact .inr ⟨code, old, o, hne, hcode, hold, by rw [hall]; rfl⟩

end Filled

/-! ### Building -/

/-- The codes that a table is built from, by outcome. -/
def codesOf (succeeded failed pending : List Value) : Outcome → List Value
  | .pending => pending
  | .succeeded => succeeded
  | .failed => failed

/-- A code occurs in the lists of two outcomes. -/
def Clash (codes : Outcome → List Value) : Prop :=
  ∃ (c : Value) (o o' : Outcome), o ≠ o' ∧ c.isAmong (codes o) = true ∧ c.isAmong (codes o') = true

/-- Whether there is a clash can be read off the lists. -/
theorem clash_iff_mem {codes : Outcome → List Value}
    (h : ∀ o, ∀ c ∈ codes o, c.isScalar = true) :
    Clash codes ↔ ∃ o o', o ≠ o' ∧ ∃ c ∈ codes o, c.isAmong (codes o') = true := by
  constructor
  · rintro ⟨c, o, o', hne, ho, ho'⟩
    obtain ⟨x, hx, hsame⟩ := Value.isAmong_iff.mp ho
    exact ⟨o, o', hne, x, hx, (Value.isAmong_congr (h o x hx) hsame _).trans ho'⟩
  · rintro ⟨o, o', hne, c, hc, ho'⟩
    exact ⟨c, o, o', hne, Value.isAmong_of_mem (h o c hc) ho' hc, ho'⟩

theorem forall_mem_codesOf {succeeded failed pending : List Value} {P : Value → Prop}
    (h : ∀ c ∈ succeeded ++ failed ++ pending, P c) (o : Outcome) :
    ∀ c ∈ codesOf succeeded failed pending o, P c := by
  simp only [List.forall_mem_append] at h
  cases o with
  | pending => exact h.2
  | succeeded => exact h.1.1
  | failed => exact h.1.2

theorem build?_eq (τ : Type) (name : Value) (succeeded failed pending : List Value)
    (default : Outcome) :
    build? (τ := τ) name succeeded failed pending default =
      enterLists? τ (codesOf succeeded failed pending) [.pending, .succeeded, .failed] [] >>=
        fun entries => pure ⟨name, entries, default⟩ := by
  simp only [build?, enterLists?, codesOf, List.foldlM_cons, List.foldlM_nil, bind_assoc, pure_bind]

/-- **To build a table** either fills it, or fails at a code that equals one of another list. -/
theorem build?_cases (τ : Type) (name : Value) {succeeded failed pending : List Value}
    (default : Outcome) (h : ∀ c ∈ succeeded ++ failed ++ pending, c.isScalar = true) :
    (∃ entries, build? (τ := τ) name succeeded failed pending default =
        .ok ⟨name, entries, default⟩ ∧ Filled entries (codesOf succeeded failed pending)) ∨
    ∃ code old new, old ≠ new ∧ code ∈ codesOf succeeded failed pending new ∧
      code.isAmong (codesOf succeeded failed pending old) = true ∧
      build? (τ := τ) name succeeded failed pending default = .error (conflict code old new) := by
  have hall (o : Outcome) : o ∈ [Outcome.pending, .succeeded, .failed].reverse ++ [] := by
    cases o <;> decide
  rw [build?_eq]
  have hnew : [Outcome.pending, .succeeded, .failed].Nodup := by decide
  rcases (Filled.start _).enterLists?_cases τ hnew (fun _ _ => List.not_mem_nil)
      (forall_mem_codesOf h) with
    ⟨entries, hok, hfilled⟩ | ⟨code, old, new, hne, hcode, hold, herror⟩
  · refine .inl ⟨entries, by rw [hok]; rfl, fun c o => ?_⟩
    rw [hfilled, upTo, if_pos (hall o)]
  · exact .inr ⟨code, old, new, hne, hcode, hold, by rw [herror]; rfl⟩

/-! ### Looking codes up -/

/-- The table gives every code that can be looked up the outcome of the list in which it occurs,
and the default where it occurs in none. -/
structure Tabulates (τ : Type) (t : StatusTable) (codes : Outcome → List Value)
    (default : Outcome) : Prop where
  listed {c : Value} {o : Outcome} (hc : c.isScalar = true) (h : c.isAmong (codes o) = true) :
    t.outcome? (τ := τ) c = .ok o
  unlisted {c : Value} (hc : c.isScalar = true) (h : ∀ o, c.isAmong (codes o) = false) :
    t.outcome? (τ := τ) c = .ok default

theorem Filled.tabulates (τ : Type) {codes : Outcome → List Value} (h : Filled entries codes)
    (name : Value) (default : Outcome) : Tabulates τ ⟨name, entries, default⟩ codes default where
  listed {c o} hc ho := by
    rw [outcome?, if_pos hc, outcome, (h c o).mpr ho]
    rfl
  unlisted {c} hc hnone := by
    have hfind : find? entries c = none := by
      refine Option.eq_none_iff_forall_ne_some.mpr fun o ho => ?_
      cases (hnone o).symm.trans ((h c o).mp ho)
    rw [outcome?, if_pos hc, outcome, hfind]
    rfl

namespace Tabulates

variable {t t' : StatusTable} {codes codes' : Outcome → List Value} {default : Outcome}

/-- Codes that occur in the same lists have the same outcome. -/
theorem outcome?_congr (h : Tabulates τ t codes default) (h' : Tabulates τ t' codes' default)
    {c c' : Value} (hc : c.isScalar = true) (hc' : c'.isScalar = true)
    (hsame : ∀ o, c.isAmong (codes o) = c'.isAmong (codes' o)) :
    t.outcome? (τ := τ) c = t'.outcome? c' := by
  by_cases hlisted : ∃ o, c.isAmong (codes o) = true
  · obtain ⟨o, ho⟩ := hlisted
    rw [h.listed hc ho, h'.listed hc' ((hsame o).symm.trans ho)]
  · have hnone (o : Outcome) : c.isAmong (codes o) = false :=
      Bool.eq_false_iff.mpr fun ho => hlisted ⟨o, ho⟩
    rw [h.unlisted hc hnone, h'.unlisted hc' fun o => (hsame o).symm.trans (hnone o)]

end Tabulates

/-- **A table tabulates its lists.** To build a table of codes that can be looked up fails, as a
wrong value, iff a code occurs in two of the lists. Otherwise every code has the outcome of the one
list in which it occurs, in whatever form, or else the default. Equal codes have the same outcome,
and so has every code in a table of other lists in which the same codes occur, in another order or
form and however often. -/
theorem build?_tabulates (τ : Type) (name : Value) {succeeded failed pending : List Value}
    (default : Outcome) (h : ∀ c ∈ succeeded ++ failed ++ pending, c.isScalar = true) :
    let codes := codesOf succeeded failed pending
    ((∃ message, build? (τ := τ) name succeeded failed pending default =
      .error (.ofText .value message)) ↔ Clash codes) ∧
    (¬ Clash codes → ∃ t, build? (τ := τ) name succeeded failed pending default = .ok t ∧
      Tabulates τ t codes default ∧
      (∀ c c' : Value, c.isScalar = true → c.same c' = true →
        t.outcome? (τ := τ) c = t.outcome? c') ∧
      ∀ succeeded' failed' pending' : List Value,
        (∀ c ∈ succeeded' ++ failed' ++ pending', c.isScalar = true) →
        (∀ (c : Value) (o : Outcome),
          c.isAmong (codesOf succeeded' failed' pending' o) = c.isAmong (codes o)) →
        ∃ t', build? (τ := τ) name succeeded' failed' pending' default = .ok t' ∧
          ∀ c : Value, t'.outcome? (τ := τ) c = t.outcome? c) := by
  intro codes
  rcases build?_cases τ name default h with
    ⟨entries, hok, hfilled⟩ | ⟨code, old, new, hne, hcode, hold, herror⟩
  · have hclear : ¬ Clash codes := fun ⟨c, o, o', hne, ho, ho'⟩ => hne (hfilled.unique ho ho')
    have htabulates := hfilled.tabulates τ name default
    refine ⟨⟨fun ⟨message, herror⟩ => ?_, fun hclash => absurd hclash hclear⟩,
      fun _ => ⟨_, hok, htabulates, ?_, ?_⟩⟩
    · cases hok.symm.trans herror
    · intro c c' hc hsame
      obtain ⟨k, -, hk⟩ := (Value.same_iff_key hc).mp hsame
      exact htabulates.outcome?_congr htabulates hc (Value.isScalar_of_key hk)
        fun o => Value.isAmong_congr hc hsame _
    · intro succeeded' failed' pending' h' hsame
      rcases build?_cases τ name default h' with
        ⟨entries', hok', hfilled'⟩ | ⟨code, old, new, hne, hcode, hold, -⟩
      · refine ⟨_, hok', fun c => ?_⟩
        cases hc : c.isScalar with
        | true =>
          exact (hfilled'.tabulates τ name default).outcome?_congr htabulates hc hc (hsame c)
        | false => simp only [outcome?, hc, Bool.false_eq_true, if_false]
      · have hnew := Value.isAmong_of_mem (forall_mem_codesOf h' new code hcode) hold hcode
        exact absurd ⟨code, new, old, Ne.symm hne, (hsame code new).symm.trans hnew,
          (hsame code old).symm.trans hold⟩ hclear
  · have hclash : Clash codes :=
      (clash_iff_mem (forall_mem_codesOf h)).mpr ⟨new, old, Ne.symm hne, code, hcode, hold⟩
    exact ⟨⟨fun _ => hclash, fun _ => ⟨_, herror⟩⟩, fun hclear => absurd hclash hclear⟩

/-- True and one are one code: in one list they make a table, in two they clash. -/
theorem build?_tabulates_truth :
    (∃ t, build? (τ := Rat) (.text "task") [.bool true, .int 1] [.int 2] [.text "running"] .failed =
        .ok t ∧
      t.outcome? (τ := Rat) (.int 1) = .ok .succeeded ∧
      t.outcome? (τ := Rat) .null = .ok .failed ∧
      ∃ t', build? (τ := Rat) (.text "task") [.int 1] [.int 2, .int 2] [.text "running"] .failed =
        .ok t' ∧ ∀ c : Value, t'.outcome? (τ := Rat) c = t.outcome? c) ∧
    ∃ message, build? (τ := Rat) (.text "task") [.bool true] [.int 1] [] .pending =
      .error (.ofText .value message) := by
  constructor
  · have hscalar : ∀ c ∈ [Value.bool true, .int 1] ++ [.int 2] ++ [.text "running"],
        c.isScalar = true := by decide
    have hclear : ¬ Clash (codesOf [.bool true, .int 1] [.int 2] [.text "running"]) := by
      have hall : ∀ o ∈ Outcome.all, ∀ o' ∈ Outcome.all, o ≠ o' →
          ∀ c ∈ codesOf [.bool true, .int 1] [.int 2] [.text "running"] o,
            c.isAmong (codesOf [.bool true, .int 1] [.int 2] [.text "running"] o') = false := by
        decide +kernel
      rw [clash_iff_mem (forall_mem_codesOf hscalar)]
      rintro ⟨o, o', hne, c, hc, hmem⟩
      cases hmem.symm.trans (hall o (by cases o <;> decide) o' (by cases o' <;> decide) hne c hc)
    obtain ⟨t, hok, htabulates, -, hsame⟩ :=
      (build?_tabulates Rat (.text "task") .failed hscalar).2 hclear
    refine ⟨t, hok, htabulates.listed rfl (by decide +kernel),
      htabulates.unlisted rfl fun o => by cases o <;> decide +kernel, hsame _ _ _ ?_ ?_⟩
    · decide
    · intro c o
      have htruth : (Value.bool true).same c = (Value.int 1).same c := by
        simp only [Value.same, Value.key?, if_true]
      cases o with
      | succeeded => simp [codesOf, Value.isAmong, htruth]
      | failed => simp [codesOf, Value.isAmong]
      | pending => rfl
  · have hscalar : ∀ c ∈ [Value.bool true] ++ [.int 1] ++ [], c.isScalar = true := by decide
    refine (build?_tabulates Rat (.text "task") .pending hscalar).1.mpr ?_
    exact ⟨.int 1, .succeeded, .failed, by decide, by decide +kernel, by decide +kernel⟩

end StatusTable

end Settle
