import Settle.Identifier.Codec
import Settle.Settings.Basic

/-!
# What joined parts are taken apart into

A token is searched for its delimiter from left to right. Where the delimiter begins like it
ends, it may be found before its place: the end of a part and the beginning of the delimiter
that follows can make it up between them. `Delimited.KeepsClear` says that a part does no such
thing, and it is just what the search needs: `cut?_append_iff` says so of one delimiter, and
`split_join_iff` of a whole list of parts.

Main statements: `decode_encode_iff`, by which a token is taken apart into the parts it was made
of iff every part but the last keeps clear of the delimiter, and `decode_encode_overlap`, which
shows parts that do not.
-/

namespace Settle

namespace Delimited

variable {α : Type} {d : List α}

/-- A part keeps clear of the delimiter that follows it: the delimiter begins neither in the part
nor across its end. -/
def KeepsClear (d a : List α) : Prop := ¬ d <:+: a ++ d.dropLast

theorem KeepsClear.tail {x : α} {a : List α} (h : KeepsClear d (x :: a)) : KeepsClear d a :=
  fun hi => h (hi.trans (List.suffix_cons x _).isInfix)

/-- A part followed by the delimiter does not begin with it, if the part keeps clear of it. -/
theorem KeepsClear.not_prefix {x : α} {a : List α} (h : KeepsClear d (x :: a)) (b : List α) :
    ¬ d <+: x :: a ++ d ++ b := by
  intro hp
  -- what is left of the delimiter ends before its last item
  have hshort : x :: a ++ d.dropLast <+: x :: a ++ d ++ b := by
    rw [List.append_assoc]
    exact (List.prefix_append_right_inj _).mpr
      ((List.dropLast_prefix d).trans (List.prefix_append d b))
  have hlen : d.length ≤ (x :: a ++ d.dropLast).length := by
    rw [List.length_append, List.length_dropLast, List.length_cons]
    omega
  exact h (List.prefix_of_prefix_length_le hp hshort hlen).isInfix

variable [DecidableEq α]

instance (d a : List α) : Decidable (KeepsClear d a) :=
  decidable_of_iff (holds d (a ++ d.dropLast) = false) <| by
    rw [KeepsClear, ← holds_iff, Bool.not_eq_true]

/-- The search stops at the delimiter that follows a part which keeps clear of it. -/
theorem cut?_append_of_keepsClear (hd : d ≠ []) {a : List α} (h : KeepsClear d a) (b : List α) :
    cut? d (a ++ d ++ b) = some (a, b) := by
  induction a with
  | nil =>
    obtain ⟨x, d', rfl⟩ := List.exists_cons_of_ne_nil hd
    rw [List.nil_append, List.cons_append, cut?, if_pos, ← List.cons_append, List.drop_left]
    exact List.isPrefixOf_iff_prefix.mpr (List.prefix_append (x :: d') b)
  | cons x a ih =>
    have hp : ¬ d.isPrefixOf (x :: (a ++ d ++ b)) = true := fun hp =>
      h.not_prefix b (List.isPrefixOf_iff_prefix.mp hp)
    rw [List.cons_append, List.cons_append, cut?, if_neg hp, ih h.tail]
    rfl

/-- The search stops at the first occurrence of the delimiter. -/
theorem exists_cut?_append (hd : d ≠ []) (u v : List α) :
    ∃ a b, cut? d (u ++ d ++ v) = some (a, b) ∧ a.length ≤ u.length := by
  induction u with
  | nil =>
    obtain ⟨x, d', rfl⟩ := List.exists_cons_of_ne_nil hd
    have hp : (x :: d').isPrefixOf (x :: (d' ++ v)) = true :=
      List.isPrefixOf_iff_prefix.mpr (List.prefix_append (x :: d') v)
    exact ⟨[], _, if_pos hp, Nat.zero_le _⟩
  | cons x u ih =>
    obtain ⟨a, b, hc, hle⟩ := ih
    rw [List.cons_append, List.cons_append, cut?]
    by_cases hp : d.isPrefixOf (x :: (u ++ d ++ v)) = true
    · rw [if_pos hp]
      exact ⟨[], _, rfl, Nat.zero_le _⟩
    · rw [if_neg hp, hc]
      exact ⟨x :: a, b, rfl, Nat.succ_le_succ hle⟩

/-- **One delimiter.** It is found at its place iff the part before keeps clear of it. -/
theorem cut?_append_iff (hd : d ≠ []) (a b : List α) :
    cut? d (a ++ d ++ b) = some (a, b) ↔ KeepsClear d a := by
  constructor
  · rintro h ⟨u, v, huv⟩
    -- an occurrence that ends before the last item of the delimiter begins inside the part
    have hlen := congrArg List.length huv
    have hpos := List.length_pos_iff.mpr hd
    simp only [List.length_append, List.length_dropLast] at hlen
    have hwhole : a ++ d ++ b = u ++ d ++ (v ++ [d.getLast hd] ++ b) := by
      calc a ++ d ++ b = a ++ (d.dropLast ++ [d.getLast hd]) ++ b := by
            rw [List.dropLast_concat_getLast hd]
        _ = u ++ d ++ v ++ [d.getLast hd] ++ b := by rw [huv, ← List.append_assoc a]
        _ = u ++ d ++ (v ++ [d.getLast hd] ++ b) := by simp only [List.append_assoc]
    obtain ⟨a', b', hcut, hle⟩ := exists_cut?_append hd u (v ++ [d.getLast hd] ++ b)
    rw [← hwhole, h] at hcut
    cases hcut
    omega
  · intro h
    exact cut?_append_of_keepsClear hd h b

/-- The first part is found iff the search stops at the delimiter that follows it, and the others
are found in the rest. -/
theorem split_append_eq_cons_iff (hd : d ≠ []) (a s : List α) (rest : List (List α)) :
    split d (a ++ d ++ s) = a :: rest ↔ KeepsClear d a ∧ split d s = rest := by
  rw [← cut?_append_iff hd a s]
  obtain ⟨a', b', hcut, -⟩ := exists_cut?_append hd a s
  rw [split_of_cut?_some hd hcut, hcut, List.cons.injEq]
  constructor
  · rintro ⟨rfl, hrest⟩
    -- nothing is lost by the search, so it left just what follows the delimiter
    obtain rfl : b' = s := List.append_cancel_left (append_of_cut? hcut)
    exact ⟨rfl, hrest⟩
  · rintro ⟨hsome, hrest⟩
    cases hsome
    exact ⟨rfl, hrest⟩

/-- **All delimiters.** Parts that do not hold the delimiter are found again iff every part but
the last keeps clear of it. -/
theorem split_join_iff (hd : d ≠ []) {parts : List (List α)} (hne : parts ≠ [])
    (hclean : ∀ p ∈ parts, holds d p = false) :
    split d (join d parts) = parts ↔ ∀ p ∈ parts.dropLast, KeepsClear d p := by
  induction parts with
  | nil => exact absurd rfl hne
  | cons a rest ih =>
    cases rest with
    | nil =>
      have ha : cut? d a = none := by
        have h := hclean a (.head _)
        rwa [holds, Option.isSome_eq_false_iff, Option.isNone_iff_eq_none] at h
      exact iff_of_true (split_of_cut?_none ha) fun p hp => absurd hp List.not_mem_nil
    | cons b rest =>
      rw [join, split_append_eq_cons_iff hd, List.dropLast_cons_cons, List.forall_mem_cons,
        ih (List.cons_ne_nil b rest) fun p hp => hclean p (.tail a hp)]

end Delimited

/-! ### Tokens -/

namespace Codec

theorem map_toList_split (c : Codec) (token : String) :
    (c.split token).map String.toList = Delimited.split c.delimiter.toList token.toList := by
  rw [split, List.map_map]
  exact (List.map_congr_left fun s _ => String.toList_ofList).trans (List.map_id _)

/-- **Tokens and their parts.** Take the token that parts were joined to apart into as many parts.
This gives the parts back iff each of them but the last keeps clear of the delimiter that
follows it. -/
theorem decode_encode_iff {c : Codec} {parts : List String} {token : String}
    (h : c.encode parts = .ok token) :
    c.decode token parts.length = .ok parts ↔
      ∀ p ∈ parts.dropLast, Delimited.KeepsClear c.delimiter.toList p.toList := by
  obtain ⟨hne, hclean, rfl⟩ := (c.encode_eq_ok_iff parts token).mp h
  have hpos : 1 ≤ (parts.length : Int) := by
    have := List.length_pos_iff.mpr hne
    omega
  have hsplit : parts = c.split (c.join parts) ↔
      Delimited.split c.delimiter.toList (Delimited.join c.delimiter.toList
        (parts.map String.toList)) = parts.map String.toList := by
    rw [← List.map_inj_right fun _ _ => String.toList_inj.mp, map_toList_split, join,
      String.toList_ofList, eq_comm]
  rw [decode_eq_ok_iff, and_iff_right hpos, and_iff_left rfl, hsplit,
    Delimited.split_join_iff c.nonempty (mt List.map_eq_nil_iff.mp hne)
      (List.forall_mem_map.mpr hclean),
    ← List.map_dropLast, List.forall_mem_map]

/-- A part may hold a piece of the delimiter, even at its beginning. -/
theorem decode_encode_colons :
    (⟨"::", by decide⟩ : Codec).encode ["arn:aws", ":db"] = .ok "arn:aws:::db" ∧
      (⟨"::", by decide⟩ : Codec).decode "arn:aws:::db" 2 = .ok ["arn:aws", ":db"] := by
  have h : (⟨"::", by decide⟩ : Codec).encode ["arn:aws", ":db"] = .ok "arn:aws:::db" :=
    (encode_eq_ok_iff _ _ _).mpr ⟨by decide, by decide, by decide⟩
  exact ⟨h, (decode_encode_iff h).mpr (by decide)⟩

/-- A delimiter that ends as it begins may be found too early: settings may name it and parts may
be joined with it, and yet others come back. -/
theorem decode_encode_overlap :
    ({ Settings.standard with idDelimiter := "aa" } : Settings Rat).IsValid ∧
      ∃ c, ofDelimiter? "aa" = .ok c ∧ c.encode ["a", "b"] = .ok "aaab" ∧
        c.decode "aaab" 2 = .ok ["", "ab"] := by
  have hsplit : Delimited.split "aa".toList "aaab".toList = ["".toList, "ab".toList] := by
    rw [Delimited.split_of_cut?_some (a := []) (b := "ab".toList) (by decide) (by decide),
      Delimited.split_of_cut?_none (s := "ab".toList) (by decide)]
    rfl
  refine ⟨?_, ⟨"aa", by decide⟩, rfl,
    (encode_eq_ok_iff _ _ _).mpr ⟨by decide, by decide, by decide⟩,
    (decode_eq_ok_iff _ _ _ _).mpr ⟨by decide, ?_, rfl⟩⟩
  · rfl
  · rw [split, hsplit]
    decide

end Codec

end Settle
