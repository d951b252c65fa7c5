/-!
# The codes of a text

A text from outside is a row of codes below `0x110000`. Nearly all of them are characters, but
one half of a surrogate pair can come without the other, and it is none. So that a `String` can
hold every such text, a half is written as two characters, a lead and a trail, taken from an area
that is set aside right behind the halves. The codes of that area are written the same way, so
that no two texts are written alike.

A lead only ever begins, and a trail only ever ends, what is written for a code, and the area
keeps the order of the codes. So texts can be put together, searched, split and put in order as
they are written. Whoever counts or cuts a text by places, or looks at one code of it, asks for
its `codes`.

Main statements: `codes_ofCodes` says that every text is found again, `ofCode_append_lt` that the
order is kept, `codes_of_plain` that a string without leads has the codes of its characters, and
`count_eq` that `count` counts codes.
-/

namespace Settle.Text

-- zero, in the sums below, is that of core, whatever else is in scope
attribute [local instance (high)] Zero.ofOfNat0

/-- Is the code one half of a surrogate pair? -/
def isSurrogate (n : Nat) : Bool := decide (0xD800 ≤ n ∧ n < 0xE000)

/-- Is the code written as a lead and a trail? It is if it is a half, or in the area of the
leads and trails itself. -/
def isPaired (n : Nat) : Bool := decide (0xD800 ≤ n ∧ n < 0xE080)

/-- Is the character a lead? -/
def isLead (c : Char) : Bool := decide (0xE000 ≤ c.toNat ∧ c.toNat < 0xE040)

/-- Is the character a trail? -/
def isTrail (c : Char) : Bool := decide (0xE040 ≤ c.toNat ∧ c.toNat < 0xE080)

/-- The lead of a code. -/
def leadOf (n : Nat) : Char := Char.ofNat (0xE000 + (n - 0xD800) / 64)

/-- The trail of a code. -/
def trailOf (n : Nat) : Char := Char.ofNat (0xE040 + (n - 0xD800) % 64)

/-- The code of a lead and a trail. -/
def codeOfPair (c d : Char) : Nat := 0xD800 + (c.toNat - 0xE000) * 64 + (d.toNat - 0xE040)

/-- What is written for a code. -/
def ofCode (n : Nat) : List Char :=
  if isPaired n then [leadOf n, trailOf n] else [Char.ofNat n]

/-- The text of codes. -/
def ofCodes (ns : List Nat) : String := String.ofList (ns.flatMap ofCode)

/-- The first code of what is written, and the rest. -/
def next? : List Char → Option (Nat × List Char)
  | [] => none
  | [c] => some (c.toNat, [])
  | c :: d :: cs =>
    if isLead c && isTrail d then some (codeOfPair c d, cs) else some (c.toNat, d :: cs)

/-- The codes of what is written. -/
def codesIn : List Char → List Nat
  | [] => []
  | [c] => [c.toNat]
  | c :: d :: cs =>
    if isLead c && isTrail d then codeOfPair c d :: codesIn cs else c.toNat :: codesIn (d :: cs)

/-- The codes of a text. -/
def codes (s : String) : List Nat := codesIn s.toList

/-- How many codes a text has. In a text of single bytes each character is one. -/
def count (s : String) : Nat :=
  if s.utf8ByteSize = s.length then s.length else (codes s).length

/-- The text that a string stands for as it was received, each of its characters being one
code. -/
def ofPlain (s : String) : String :=
  if s.contains fun c => isLead c || isTrail c then ofCodes (s.toList.map Char.toNat) else s

/-- The codes of a text, each as a text of its own. -/
def letters (s : String) : List String := (codes s).map fun n => ofCodes [n]

/-! ### Laws -/

/-- The character of a number that has one is worth that number. -/
theorem toNat_ofNat_of_valid {k : Nat} (h : k.isValidChar) : (Char.ofNat k).toNat = k := by
  rw [Char.ofNat, dif_pos h]
  rfl

/-- Where the lead and the trail of a code are. -/
theorem toNat_of_isPaired {n : Nat} (h : isPaired n = true) :
    (leadOf n).toNat = 0xE000 + (n - 0xD800) / 64
      ∧ (trailOf n).toNat = 0xE040 + (n - 0xD800) % 64 := by
  rw [isPaired, decide_eq_true_eq] at h
  have valid {k : Nat} (hk : 0xE000 ≤ k ∧ k < 0xE080) : k.isValidChar := by
    unfold Nat.isValidChar
    omega
  exact ⟨toNat_ofNat_of_valid (valid (by omega)), toNat_ofNat_of_valid (valid (by omega))⟩

/-- The lead and the trail of a code are a lead and a trail, and give the code again. -/
theorem codeOfPair_of_isPaired {n : Nat} (h : isPaired n = true) :
    isLead (leadOf n) = true ∧ isTrail (trailOf n) = true
      ∧ codeOfPair (leadOf n) (trailOf n) = n := by
  obtain ⟨hl, ht⟩ := toNat_of_isPaired h
  rw [isPaired, decide_eq_true_eq] at h
  refine ⟨?_, ?_, ?_⟩
  · rw [isLead, hl, decide_eq_true_eq]
    omega
  · rw [isTrail, ht, decide_eq_true_eq]
    omega
  · unfold codeOfPair
    omega

/-- Where the character of any other code is. -/
theorem toNat_of_not_isPaired {n : Nat} (hn : n < 0x110000) (h : isPaired n = false) :
    ¬ (0xD800 ≤ n ∧ n < 0xE080) ∧ (Char.ofNat n).toNat = n := by
  rw [isPaired, decide_eq_false_iff_not] at h
  refine ⟨h, toNat_ofNat_of_valid ?_⟩
  unfold Nat.isValidChar
  omega

/-- A character that is no lead is the first code of what it begins. -/
theorem codesIn_cons_of_plain {c : Char} (h : isLead c = false) (cs : List Char) :
    codesIn (c :: cs) = c.toNat :: codesIn cs := by
  cases cs with
  | nil => rfl
  | cons d cs => simp [codesIn, h]

/-- What is written for a code is read as that code, whatever comes behind it. -/
theorem codesIn_ofCode_append {n : Nat} (hn : n < 0x110000) (cs : List Char) :
    codesIn (ofCode n ++ cs) = n :: codesIn cs := by
  cases hp : isPaired n with
  | true =>
    obtain ⟨hl, ht, hc⟩ := codeOfPair_of_isPaired hp
    simp [ofCode, hp, codesIn, hl, ht, hc]
  | false =>
    obtain ⟨hn, hc⟩ := toNat_of_not_isPaired hn hp
    have hl : isLead (Char.ofNat n) = false := by
      rw [isLead, hc, decide_eq_false_iff_not]
      omega
    rw [ofCode, hp, if_neg Bool.false_ne_true, List.singleton_append,
      codesIn_cons_of_plain hl, hc]

/-- What is written for codes is in the order of the codes, whatever comes behind it. -/
theorem ofCode_append_lt {m n : Nat} (hn : n < 0x110000) (h : m < n) (cs ds : List Char) :
    ofCode m ++ cs < ofCode n ++ ds := by
  have first {a b : Char} {as bs : List Char} (hab : a.toNat < b.toNat) : a :: as < b :: bs :=
    List.cons_lt_cons_iff.2 (.inl hab)
  cases hpm : isPaired m <;> cases hpn : isPaired n
  · obtain ⟨hm, hcm⟩ := toNat_of_not_isPaired (by omega) hpm
    obtain ⟨hn, hcn⟩ := toNat_of_not_isPaired hn hpn
    simp only [ofCode, hpm, hpn, Bool.false_eq_true, if_false, List.singleton_append]
    exact first (by omega)
  · obtain ⟨hm, hcm⟩ := toNat_of_not_isPaired (by omega) hpm
    obtain ⟨hl, _⟩ := toNat_of_isPaired hpn
    rw [isPaired, decide_eq_true_eq] at hpn
    rw [ofCode, if_neg (by simp [isPaired, hm]), ofCode, if_pos (by simp [isPaired, hpn])]
    exact first (by omega)
  · obtain ⟨hl, _⟩ := toNat_of_isPaired hpm
    obtain ⟨hn, hcn⟩ := toNat_of_not_isPaired hn hpn
    rw [isPaired, decide_eq_true_eq] at hpm
    rw [ofCode, if_pos (by simp [isPaired, hpm]), ofCode, if_neg (by simp [isPaired, hn])]
    exact first (by omega)
  · obtain ⟨hlm, htm⟩ := toNat_of_isPaired hpm
    obtain ⟨hln, htn⟩ := toNat_of_isPaired hpn
    rw [ofCode, if_pos hpm, ofCode, if_pos hpn]
    rw [isPaired, decide_eq_true_eq] at hpm hpn
    by_cases hq : (m - 0xD800) / 64 = (n - 0xD800) / 64
    · have hlead : leadOf m = leadOf n := by rw [leadOf, leadOf, hq]
      exact List.cons_lt_cons_iff.2 (.inr ⟨hlead, first (by omega)⟩)
    · exact first (by omega)

/-- The codes of a text are found again. -/
theorem codes_ofCodes {ns : List Nat} (h : ∀ n ∈ ns, n < 0x110000) :
    codes (ofCodes ns) = ns := by
  rw [codes, ofCodes, String.toList_ofList]
  induction ns with
  | nil => rfl
  | cons n ns ih =>
    rw [List.flatMap_cons, codesIn_ofCode_append (h n List.mem_cons_self),
      ih fun m hm => h m (List.mem_cons_of_mem n hm)]

/-- In a string without leads, the codes are those of the characters. -/
theorem codes_of_plain {s : String} (h : ∀ c ∈ s.toList, isLead c = false) :
    codes s = s.toList.map Char.toNat := by
  rw [codes]
  generalize s.toList = cs at h
  induction cs with
  | nil => rfl
  | cons c cs ih =>
    rw [codesIn_cons_of_plain (h c List.mem_cons_self),
      ih fun d hd => h d (List.mem_cons_of_mem c hd), List.map_cons]

/-- As it is received, a string has the codes of its characters. -/
theorem codes_ofPlain (s : String) : codes (ofPlain s) = s.toList.map Char.toNat := by
  unfold ofPlain
  split
  · refine codes_ofCodes fun n hn => ?_
    obtain ⟨c, _, rfl⟩ := List.mem_map.1 hn
    have h := c.valid
    change c.toNat < 0xD800 ∨ 0xDFFF < c.toNat ∧ c.toNat < 0x110000 at h
    omega
  · next h =>
    refine codes_of_plain fun c hc => ?_
    cases hl : isLead c with
    | false => rfl
    | true =>
      refine absurd ?_ h
      rw [String.contains_bool_eq, List.any_eq_true]
      exact ⟨c, hc, by simp [hl]⟩

/-- No text has fewer bytes than characters, and only characters of single bytes come to as
many. -/
theorem utf8Size_of_sum_eq_length {cs : List Char}
    (h : (cs.map Char.utf8Size).sum ≤ cs.length) : ∀ c ∈ cs, c.utf8Size = 1 := by
  have atLeast (ds : List Char) : ds.length ≤ (ds.map Char.utf8Size).sum := by
    induction ds with
    | nil => exact Nat.le_refl 0
    | cons d ds ih =>
      have := d.utf8Size_pos
      simp only [List.map_cons, List.sum_cons, List.length_cons]
      omega
  induction cs with
  | nil => simp
  | cons c cs ih =>
    simp only [List.map_cons, List.sum_cons, List.length_cons] at h
    have hpos := c.utf8Size_pos
    have hrest := atLeast cs
    simp only [List.mem_cons, forall_eq_or_imp]
    exact ⟨by omega, ih (by omega)⟩

/-- The bytes of a string are those of its characters. -/
theorem utf8ByteSize_eq_sum (s : String) :
    s.utf8ByteSize = (s.toList.map Char.utf8Size).sum := by
  have h : s.utf8ByteSize = (s.toList.utf8Encode).size := by
    rw [← String.size_toByteArray, String.utf8Encode_toList]
  rw [h]
  generalize s.toList = cs
  induction cs with
  | nil => rfl
  | cons c cs ih =>
    rw [List.utf8Encode_cons, ByteArray.size_append, ih, List.map_cons, List.sum_cons,
      List.utf8Encode_singleton]
    simp

/-- What is counted are codes. -/
theorem count_eq (s : String) : count s = (codes s).length := by
  unfold count
  split
  · next h =>
    have ascii := utf8Size_of_sum_eq_length
      (Nat.le_of_eq (by rw [← utf8ByteSize_eq_sum, h, String.length_toList]))
    rw [codes_of_plain, List.length_map, String.length_toList]
    intro c hc
    have hle : c.toNat ≤ 127 := Char.utf8Size_eq_one_iff.1 (ascii c hc)
    rw [isLead, decide_eq_false_iff_not]
    omega
  · rfl

end Settle.Text
