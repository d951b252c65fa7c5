import Settle.Identifier.FromValues
import Settle.Proofs.Identifier.Borders

/-!
# Occurrences of a delimiter

A delimiter may occur in a token at places that overlap. `Delimited.IsScan` says which of them count
when the token is searched from left to right: chosen places do not overlap, and no occurrence is
passed over unless it overlaps one that was chosen before it. There is exactly one such choice
(`exists_forall_isScan_iff`), and it is what the search finds: the parts of a token are what stands
between the chosen places, so there is one part more, and none of them holds the delimiter
(`not_infix_of_mem_split`).

Main statement: `decodeValue_iff_scan`. A token can be taken apart into as many parts as its chosen
places make, and the parts can be joined to that token again, whatever the delimiter.
-/

namespace Settle

namespace Delimited

variable {α : Type}

/-- The places at which the delimiter is found from left to right without overlap: it occurs at each
of them, each is behind all of the one before, and where else it occurs it overlaps an earlier
one. -/
structure IsScan (d s : List α) (places : List Nat) : Prop where
  occurs : ∀ i ∈ places, d <+: s.drop i
  apart : places.Pairwise fun i j => i + d.length ≤ j
  leftmost : ∀ j, d <+: s.drop j → ∃ i ∈ places, i ≤ j ∧ j < i + d.length

variable [DecidableEq α] {d s a b : List α} {places : List Nat}

/-! ### The first occurrence -/

theorem not_prefix_drop_of_cut?_none (h : cut? d s = none) (j : Nat) : ¬ d <+: s.drop j := by
  intro hj
  have hholds : holds d s = true :=
    holds_iff.mpr (hj.isInfix.trans (List.drop_suffix j s).isInfix)
  rw [holds, h] at hholds
  cases hholds

/-- The delimiter does not occur before the place at which the search stops. -/
theorem length_le_of_cut?_some (hd : d ≠ []) (h : cut? d s = some (a, b)) {j : Nat}
    (hj : d <+: s.drop j) : a.length ≤ j := by
  obtain ⟨v, hv⟩ := hj
  have hs : s = s.take j ++ d ++ v := by
    rw [List.append_assoc, hv, List.take_append_drop]
  obtain ⟨a', b', hcut, hle⟩ := exists_cut?_append hd (s.take j) v
  rw [← hs, h] at hcut
  cases hcut
  exact Nat.le_trans hle (List.length_take_le j s)

theorem prefix_drop_of_cut?_some (h : cut? d s = some (a, b)) : d <+: s.drop a.length := by
  rw [← append_of_cut? h, List.append_assoc, List.drop_left]
  exact List.prefix_append d b

/-- Behind the place at which the search stops stands the rest. -/
theorem drop_of_cut?_some (h : cut? d s = some (a, b)) (j : Nat) :
    s.drop (a.length + d.length + j) = b.drop j := by
  rw [← append_of_cut? h, ← List.length_append, List.drop_length_add_append]

/-- What stands before the first occurrence does not hold the delimiter. -/
theorem not_infix_of_cut?_some (hd : d ≠ []) (h : cut? d s = some (a, b)) : ¬ d <:+: a := by
  rintro ⟨u, v, huv⟩
  have hdrop : d <+: s.drop u.length := by
    rw [← append_of_cut? h, ← huv]
    simp only [List.append_assoc, List.drop_left, List.prefix_append]
  have hle : a.length ≤ u.length := length_le_of_cut?_some hd h hdrop
  have hlen := congrArg List.length huv
  have hpos := List.length_pos_iff.mpr hd
  simp only [List.length_append] at hlen
  omega

/-! ### Scans -/

theorem isScan_iff_of_cut?_none (h : cut? d s = none) : IsScan d s places ↔ places = [] := by
  constructor
  · intro hs
    rw [List.eq_nil_iff_forall_not_mem]
    exact fun i hi => not_prefix_drop_of_cut?_none h i (hs.occurs i hi)
  · rintro rfl
    exact ⟨fun i hi => absurd hi List.not_mem_nil, .nil,
      fun j hj => absurd hj (not_prefix_drop_of_cut?_none h j)⟩

omit [DecidableEq α] in
/-- Places from some place on, counted from there. -/
theorem exists_eq_map_add {k : Nat} (h : ∀ i ∈ places, k ≤ i) :
    ∃ rest : List Nat, places = rest.map fun i => k + i := by
  refine ⟨places.map fun i => i - k, ?_⟩
  have hback (i : Nat) (hi : i ∈ places) : k + (i - k) = i := Nat.add_sub_cancel' (h i hi)
  rw [List.map_map]
  exact ((List.map_congr_left hback).trans (List.map_id places)).symm

/-- The first occurrence is the first place of a scan. -/
theorem IsScan.exists_eq_cons (hd : d ≠ []) (h : cut? d s = some (a, b)) (hs : IsScan d s places) :
    ∃ rest : List Nat, places = a.length :: rest.map fun i => a.length + d.length + i := by
  obtain ⟨first, hfirst, hle, -⟩ := hs.leftmost a.length (prefix_drop_of_cut?_some h)
  obtain rfl : first = a.length :=
    Nat.le_antisymm hle (length_le_of_cut?_some hd h (hs.occurs first hfirst))
  cases places with
  | nil => cases hfirst
  | cons i places =>
    have hapart := List.pairwise_cons.mp hs.apart
    have hi : a.length ≤ i := length_le_of_cut?_some hd h (hs.occurs i (.head _))
    obtain rfl : i = a.length := by
      rcases List.mem_cons.mp hfirst with hhead | hmem
      · exact hhead.symm
      · have hbehind : i + d.length ≤ a.length := hapart.1 _ hmem
        omega
    obtain ⟨rest, rfl⟩ := exists_eq_map_add hapart.1
    exact ⟨rest, rfl⟩

/-- A scan finds the first occurrence, and then what a scan of the rest finds. -/
theorem isScan_iff_of_cut?_some (hd : d ≠ []) (h : cut? d s = some (a, b)) :
    IsScan d s places ↔
      ∃ rest, IsScan d b rest ∧
        places = a.length :: rest.map fun i => a.length + d.length + i := by
  constructor
  · intro hs
    obtain ⟨rest, rfl⟩ := hs.exists_eq_cons hd h
    refine ⟨rest, ⟨fun i hi => ?_, ?_, fun j hj => ?_⟩, rfl⟩
    · rw [← drop_of_cut?_some h]
      exact hs.occurs _ (.tail _ (List.mem_map_of_mem hi))
    · exact (List.pairwise_map.mp (List.pairwise_cons.mp hs.apart).2).imp fun hij => by omega
    · rw [← drop_of_cut?_some h] at hj
      obtain ⟨i, hi, hij, hji⟩ := hs.leftmost _ hj
      rcases List.mem_cons.mp hi with rfl | hmem
      · omega
      · obtain ⟨k, hk, rfl⟩ := List.mem_map.mp hmem
        exact ⟨k, hk, by omega, by omega⟩
  · rintro ⟨rest, hrest, rfl⟩
    refine ⟨?_, ?_, ?_⟩
    · rw [List.forall_mem_cons, List.forall_mem_map]
      refine ⟨prefix_drop_of_cut?_some h, fun i hi => ?_⟩
      rw [drop_of_cut?_some h]
      exact hrest.occurs i hi
    · rw [List.pairwise_cons, List.forall_mem_map, List.pairwise_map]
      exact ⟨fun i _ => Nat.le_add_right .., hrest.apart.imp fun hij => by omega⟩
    · intro j hj
      have hle : a.length ≤ j := length_le_of_cut?_some hd h hj
      by_cases hover : j < a.length + d.length
      · exact ⟨a.length, .head _, hle, hover⟩
      · obtain ⟨k, rfl⟩ := Nat.exists_eq_add_of_le (Nat.not_lt.mp hover)
        rw [drop_of_cut?_some h] at hj
        obtain ⟨i, hi, hik, hki⟩ := hrest.leftmost k hj
        exact ⟨_, .tail _ (List.mem_map_of_mem hi), by omega, by omega⟩

/-- **The scan.** A list has exactly one scan, and the occurrences that are counted from left to
right are its places. -/
theorem exists_forall_isScan_iff (hd : d ≠ []) (s : List α) :
    ∃ places, places.length = occurrences d s ∧ ∀ found, IsScan d s found ↔ found = places := by
  induction hn : s.length using Nat.strongRecOn generalizing s with
  | _ n ih =>
    cases hc : cut? d s with
    | none =>
      exact ⟨[], (occurrences_of_cut?_none hc).symm, fun _ => isScan_iff_of_cut?_none hc⟩
    | some r =>
      obtain ⟨a, b⟩ := r
      obtain ⟨rest, hlen, hrest⟩ := ih b.length (hn ▸ length_of_cut? hd hc) b rfl
      refine ⟨a.length :: rest.map fun i => a.length + d.length + i, ?_, fun found => ?_⟩
      · rw [List.length_cons, List.length_map, hlen, occurrences_of_cut?_some hd hc]
      · simp only [isScan_iff_of_cut?_some hd hc, hrest, exists_eq_left]

/-- The parts of a list do not hold the delimiter. -/
theorem not_infix_of_mem_split (hd : d ≠ []) {p : List α} (hp : p ∈ split d s) : ¬ d <:+: p := by
  induction hn : s.length using Nat.strongRecOn generalizing s with
  | _ n ih =>
    cases hc : cut? d s with
    | none =>
      rw [split_of_cut?_none hc, List.mem_singleton] at hp
      rw [hp, ← holds_iff, holds, hc]
      exact Bool.false_ne_true
    | some r =>
      obtain ⟨a, b⟩ := r
      rw [split_of_cut?_some hd hc, List.mem_cons] at hp
      rcases hp with rfl | hp
      · exact not_infix_of_cut?_some hd hc
      · exact ih b.length (hn ▸ length_of_cut? hd hc) hp rfl

end Delimited

/-! ### Tokens -/

namespace Codec

theorem length_split (c : Codec) (token : String) :
    (c.split token).length =
      Delimited.occurrences c.delimiter.toList token.toList + 1 := by
  rw [split, List.length_map, Delimited.length_split c.nonempty]

/-- The parts of a token do not hold the delimiter. -/
theorem not_infix_of_mem_split {c : Codec} {token p : String} (hp : p ∈ c.split token) :
    ¬ c.delimiter.toList <:+: p.toList := by
  have hmem : p.toList ∈ Delimited.split c.delimiter.toList token.toList := by
    rw [← map_toList_split]
    exact List.mem_map_of_mem hp
  exact Delimited.not_infix_of_mem_split c.nonempty hmem

theorem join_split (c : Codec) (token : String) : c.join (c.split token) = token := by
  rw [join, map_toList_split, Delimited.join_split c.nonempty, String.ofList_toList]

/-- **Joining the parts of a token** gives the token back. -/
theorem encode_split (c : Codec) (token : String) : c.encode (c.split token) = .ok token := by
  refine (c.encode_eq_ok_iff _ _).mpr ⟨?_, fun p hp => ?_, (c.join_split token).symm⟩
  · rw [← List.length_pos_iff, length_split]
    exact Nat.succ_pos _
  · exact (reserves_eq_false_iff p).mpr (not_infix_of_mem_split hp)

/-- What a token is taken apart into is joined to that token again. -/
theorem encode_of_decode {c : Codec} {token : String} {arity : Int} {parts : List String}
    (h : c.decode token arity = .ok parts) : c.encode parts = .ok token := by
  obtain ⟨-, rfl, -⟩ := (c.decode_eq_ok_iff token arity parts).mp h
  exact c.encode_split token

/-- A token of another number of parts is refused, and named. -/
theorem decode_of_length_ne {c : Codec} {token : String} {arity : Int} (h : 1 ≤ arity)
    (hlen : ((c.split token).length : Int) ≠ arity) :
    c.decode token arity = .error (.wrongCount token (c.split token).length arity) := by
  rw [decode, if_neg (by omega)]
  exact if_neg hlen

/-! ### Tokens as values -/

variable {τ : Type} {c : Codec}

theorem decodeValue_text_eq_ok_iff {token : String} {arity : Int} {parts : List String} :
    c.decodeValue (τ := τ) (.text token) (.int arity) = .ok parts ↔
      c.decode token arity = .ok parts := by
  rw [decodeValue_text]
  cases c.decode token arity with
  | ok parts' => constructor <;> rintro ⟨⟩ <;> rfl
  | error e => constructor <;> rintro ⟨⟩

theorem encodeItems_text_of_encode {token : String} {parts : List String}
    (h : c.encode parts = .ok token) : c.encodeItems (τ := τ) (parts.map .text) = .ok token := by
  rw [encodeItems_text, h]
  rfl

/-- **Taking a token apart.** Let the delimiter be found in a token at some places, from left to
right and without overlap. Then the token can be taken apart into one part more than there are
places, and is refused and named if any other number of parts is asked for. None of the parts holds
the delimiter, and they are joined to that token again; so no other token has the same parts. -/
theorem decodeValue_iff_scan (c : Codec) (token : String) {arity : Int} (h : 1 ≤ arity) :
    ∃ places,
      (∀ found, Delimited.IsScan c.delimiter.toList token.toList found ↔ found = places) ∧
      ((∃ parts, c.decodeValue (τ := τ) (.text token) (.int arity) = .ok parts) ↔
        (places.length : Int) = arity - 1) ∧
      ((places.length : Int) ≠ arity - 1 →
        c.decodeValue (τ := τ) (.text token) (.int arity) =
          .error (.malformedIdentifier
            (Malformed.countMessage token (places.length + 1) (toString arity))
            (.text token))) ∧
      ∀ parts, c.decodeValue (τ := τ) (.text token) (.int arity) = .ok parts →
        (∀ p ∈ parts, ¬ c.delimiter.toList <:+: p.toList) ∧
        c.encodeItems (τ := τ) (parts.map .text) = .ok token ∧
        ∀ token' arity',
          c.decodeValue (τ := τ) (.text token') (.int arity') = .ok parts → token' = token := by
  obtain ⟨places, hlen, hplaces⟩ :=
    Delimited.exists_forall_isScan_iff c.nonempty token.toList
  have hcount : (c.split token).length = places.length + 1 := by rw [length_split, hlen]
  refine ⟨places, hplaces, ?_, fun hne => ?_, fun parts hparts => ⟨?_, ?_, ?_⟩⟩
  · simp only [decodeValue_text_eq_ok_iff, decode_eq_ok_iff]
    constructor
    · rintro ⟨_, -, rfl, hlength⟩
      omega
    · intro hlength
      exact ⟨_, h, rfl, by omega⟩
  · rw [decodeValue_text, decode_of_length_ne h (by omega), hcount]
    rfl
  · obtain ⟨-, rfl, -⟩ := (c.decode_eq_ok_iff _ _ _).mp (decodeValue_text_eq_ok_iff.mp hparts)
    exact fun p => not_infix_of_mem_split
  · exact encodeItems_text_of_encode (encode_of_decode (decodeValue_text_eq_ok_iff.mp hparts))
  · intro token' arity' hparts'
    have htoken := encode_of_decode (decodeValue_text_eq_ok_iff.mp hparts)
    have htoken' := encode_of_decode (decodeValue_text_eq_ok_iff.mp hparts')
    rw [htoken] at htoken'
    exact (Except.ok.inj htoken').symm

/-- Of two occurrences that overlap the first one counts. -/
theorem decodeValue_iff_scan_overlap :
    Delimited.IsScan "##".toList "###".toList [0] ∧ 1 ≤ (2 : Int) ∧
      ∃ parts,
        (⟨"##", by decide⟩ : Codec).decodeValue (τ := Rat) (.text "###") (.int 2) = .ok parts ∧
        (⟨"##", by decide⟩ : Codec).encodeItems (τ := Rat) (parts.map .text) = .ok "###" := by
  have hscan : Delimited.IsScan "##".toList "###".toList [0] :=
    (Delimited.isScan_iff_of_cut?_some (a := []) (b := ['#']) (by decide) (by decide)).mpr
      ⟨[], (Delimited.isScan_iff_of_cut?_none (by decide)).mpr rfl, rfl⟩
  obtain ⟨places, hplaces, hiff, -, hparts⟩ :=
    decodeValue_iff_scan (τ := Rat) ⟨"##", by decide⟩ "###" (by decide : (1 : Int) ≤ 2)
  obtain rfl := (hplaces [0]).mp hscan
  obtain ⟨parts, hdecode⟩ := hiff.mpr (by decide)
  exact ⟨hscan, by decide, parts, hdecode, (hparts parts hdecode).2.1⟩

end Codec

end Settle
