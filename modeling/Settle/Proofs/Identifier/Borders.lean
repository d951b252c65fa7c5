import Settle.Proofs.Identifier.RoundTrip

/-!
# Delimiters that are never found too early

Whether a part keeps clear of a delimiter is a matter of the part. There are delimiters of which
every part keeps clear that does not hold them: those without a border. For a delimiter that is
found too early begins inside a part and ends outside it, and the stretch of it that is outside is
an ending of the delimiter with which the delimiter at its place begins. Conversely, cut a border
off the end of a delimiter, and what is left is a part that does not hold the delimiter, and yet
lets it begin early.

Main statements: `forall_keepsClear_iff` says so of a single part, and `findsAgain_iff_no_border` of
whole lists of parts and the tokens that they are joined to.
-/

namespace Settle

namespace Delimited

variable {α : Type} {d : List α}

theorem IsBorder.length_lt {b : List α} (h : IsBorder b d) : b.length < d.length := by
  obtain ⟨-, hne, hbegin, -⟩ := h
  have hle : b.length ≤ d.length := hbegin.length_le
  have hlen : b.length ≠ d.length := fun hlen => hne (hbegin.eq_of_length hlen)
  omega

/-- A single item has no border. -/
theorem not_isBorder_of_length_one (hd : d.length = 1) (b : List α) : ¬ IsBorder b d := by
  intro h
  have hlt : b.length < d.length := h.length_lt
  have hpos : 0 < b.length := List.length_pos_iff.mpr h.1
  omega

/-- Without a border, a delimiter that a part does not hold begins neither in the part nor across
its end. -/
theorem keepsClear_of_no_border (hd : ∀ b, ¬ IsBorder b d) {a : List α} (ha : ¬ d <:+: a) :
    KeepsClear d a := by
  have hpos : 0 < d.length := by
    rw [List.length_pos_iff]
    rintro rfl
    exact ha (List.nil_infix)
  rintro ⟨u, v, huv⟩
  rw [List.append_assoc] at huv
  rcases List.append_eq_append_iff.mp huv with ⟨t, rfl, ht⟩ | ⟨t, -, ht⟩
  · rcases List.append_eq_append_iff.mp ht with ⟨s, rfl, -⟩ | ⟨b, hb, hrest⟩
    · -- all of it would be in the part
      exact ha ⟨u, s, List.append_assoc ..⟩
    · -- what of it is outside is a border
      have hbegin : b <+: d.dropLast := ⟨v, hrest.symm⟩
      refine hd b ⟨?_, ?_, hbegin.trans (List.dropLast_prefix d), t, hb.symm⟩
      · rintro rfl
        rw [List.append_nil] at hb
        exact ha ⟨u, [], by rw [hb, List.append_nil]⟩
      · rintro rfl
        have hle := hbegin.length_le
        rw [List.length_dropLast] at hle
        omega
  · -- it would begin behind the part, where there is no room for it
    have hlen := congrArg List.length ht
    simp only [List.length_append, List.length_dropLast] at hlen
    omega

/-- A delimiter with a border is found too early behind what is left of it without the border. -/
theorem IsBorder.exists_not_keepsClear {b : List α} (h : IsBorder b d) :
    ∃ a, ¬ d <:+: a ∧ ¬ KeepsClear d a := by
  have hlt : b.length < d.length := h.length_lt
  obtain ⟨hb, -, hbegin, a, ha⟩ := h
  refine ⟨a, fun hi => ?_, fun hclear => hclear ?_⟩
  · have hle : d.length ≤ a.length := hi.length_le
    have hpos : 0 < b.length := List.length_pos_iff.mpr hb
    rw [← ha, List.length_append] at hle
    omega
  · have hdrop : b <+: d.dropLast :=
      List.prefix_of_prefix_length_le hbegin (List.dropLast_prefix d) <| by
        rw [List.length_dropLast]
        omega
    have hearly : a ++ b <+: a ++ d.dropLast := (List.prefix_append_right_inj a).mpr hdrop
    rw [ha] at hearly
    exact hearly.isInfix

/-- **Early occurrences.** Every part that does not hold the delimiter keeps clear of it iff the
delimiter has no border. -/
theorem forall_keepsClear_iff :
    (∀ a, ¬ d <:+: a → KeepsClear d a) ↔ ∀ b, ¬ IsBorder b d := by
  constructor
  · intro h b hb
    obtain ⟨a, ha, hclear⟩ := hb.exists_not_keepsClear
    exact hclear (h a ha)
  · intro h a ha
    exact keepsClear_of_no_border h ha

end Delimited

/-! ### Tokens -/

namespace Codec

variable {c : Codec}

theorem reserves_eq_false_iff (part : String) :
    c.reserves part = false ↔ ¬ c.delimiter.toList <:+: part.toList := by
  rw [reserves, ← Delimited.holds_iff, Bool.not_eq_true]

/-- Parts that do not hold the delimiter are joined to a token, and found again in it. -/
def FindsAgain (c : Codec) : Prop :=
  ∀ parts : List String, parts ≠ [] → (∀ p ∈ parts, ¬ c.delimiter.toList <:+: p.toList) →
    ∃ token, c.encode parts = .ok token ∧ c.decode token parts.length = .ok parts

/-- Parts are found again iff every text without the delimiter keeps clear of it. -/
theorem findsAgain_iff_keepsClear :
    c.FindsAgain ↔
      ∀ a, ¬ c.delimiter.toList <:+: a → Delimited.KeepsClear c.delimiter.toList a := by
  constructor
  · intro h a ha
    -- a text is put to the test by an empty part behind it
    have hempty : ¬ c.delimiter.toList <:+: "".toList := fun hi =>
      c.nonempty (List.infix_nil.mp hi)
    obtain ⟨token, htoken, hagain⟩ := h [String.ofList a, ""] (List.cons_ne_nil _ _) <| by
      rw [List.forall_mem_cons, List.forall_mem_singleton, String.toList_ofList]
      exact ⟨ha, hempty⟩
    have hclear := (decode_encode_iff htoken).mp hagain (String.ofList a) (.head _)
    rwa [String.toList_ofList] at hclear
  · intro h parts hne hclean
    have htoken : c.encode parts = .ok (c.join parts) :=
      (c.encode_eq_ok_iff parts _).mpr
        ⟨hne, fun p hp => (reserves_eq_false_iff p).mpr (hclean p hp), rfl⟩
    refine ⟨_, htoken, (decode_encode_iff htoken).mpr fun p hp => ?_⟩
    exact h p.toList (hclean p (List.dropLast_subset parts hp))

/-- **Which delimiters are safe.** Whatever parts there are, as long as none of them holds the
delimiter, they are found again in the token that they are joined to: this is so iff no beginning of
the delimiter that is neither empty nor all of it is also an ending of it. So it is for every
delimiter of a single character. -/
theorem findsAgain_iff_no_border (c : Codec) :
    (c.FindsAgain ↔ ∀ b, ¬ Delimited.IsBorder b c.delimiter.toList) ∧
      (c.delimiter.length = 1 → c.FindsAgain) := by
  have hiff : c.FindsAgain ↔ ∀ b, ¬ Delimited.IsBorder b c.delimiter.toList :=
    findsAgain_iff_keepsClear.trans Delimited.forall_keepsClear_iff
  refine ⟨hiff, fun hlen => hiff.mpr ?_⟩
  exact Delimited.not_isBorder_of_length_one (String.length_toList.trans hlen)

/-- A number sign is safe. -/
theorem findsAgain_field : field.delimiter.length = 1 ∧ field.FindsAgain :=
  ⟨by decide, (findsAgain_iff_no_border field).2 (by decide)⟩

end Codec

end Settle
