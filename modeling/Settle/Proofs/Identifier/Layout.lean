import Settle.Proofs.Identifier.Occurrences

/-!
# Identifiers by the names of their parts

A layout takes the parts of an identifier by name. It puts them in its own order, so the order in
which they are given does not matter (`encode_of_perm`), and it wants a value for each of its fields
and for no other name (`encode_eq_ok_iff`). What it takes a token apart into are just such values
(`encode_zip`).

One name can never be given: the one that stands for the layout itself. A layout with such a field
could not be used, so `IdLayout.IsSound` rules it out; and values of which one has this name are not
refused as malformed but before the layout looks at them (`encodeValues_self`).

Main statement: `encodeValues_iff_suits`.
-/

namespace Settle

/-- The fault is that of a malformed identifier, and names a token, or null where there is none. -/
def Fault.Blames {τ : Type} (e : Fault τ) (identifier : Value) : Prop :=
  e.kind? = some (.malformedIdentifier identifier)

/-- Refused parts are malformed, and no token is named. -/
theorem Codec.blames_of_encode {τ : Type} {c : Codec} {parts : List String} {e : Malformed}
    (h : c.encode parts = .error e) : (e.toFault : Fault τ).Blames .null := by
  unfold encode at h
  split at h
  · cases h
    rfl
  · split at h
    · cases h
      rfl
    · cases h

namespace IdLayout

variable {l : IdLayout} {values values' : Ledger String String}

/-- There are fields, all of different names, and none has the name of the layout itself. -/
structure IsSound (l : IdLayout) : Prop where
  nonempty : l.fields ≠ []
  nodup : l.fields.Nodup
  noSelf : "self" ∉ l.fields

/-- The values suit the layout: their names are its fields, and none of them holds the delimiter. -/
structure Suits (l : IdLayout) (values : Ledger String String) : Prop where
  names : ∀ name, name ∈ values.keys ↔ name ∈ l.fields
  clean : ∀ entry ∈ values, ¬ l.codec.delimiter.toList <:+: entry.2.toList

/-! ### Putting parts together -/

/-- The values of the fields, in the order of the layout. -/
def partsOf (l : IdLayout) (values : Ledger String String) : List String :=
  l.fields.map fun f => (values.get? f).getD ""

theorem mem_missing_iff {f : String} : f ∈ l.missing values ↔ f ∈ l.fields ∧ f ∉ values.keys := by
  rw [missing, List.mem_filter, ← Ledger.has_iff_mem_keys]
  simp

theorem mem_unknown_iff {k : String} : k ∈ l.unknown values ↔ k ∈ values.keys ∧ k ∉ l.fields := by
  rw [unknown, List.mem_mergeSort, List.mem_filter]
  simp

/-- No name is missing and none is unknown iff the names are those of the fields. -/
theorem names_iff :
    l.missing values = [] ∧ l.unknown values = [] ↔
      ∀ name, name ∈ values.keys ↔ name ∈ l.fields := by
  simp only [List.eq_nil_iff_forall_not_mem, mem_missing_iff, mem_unknown_iff, not_and,
    Classical.not_not]
  exact ⟨fun h name => ⟨h.2 name, h.1 name⟩, fun h => ⟨fun f => (h f).mpr, fun k => (h k).mp⟩⟩

/-- Values make a token iff their names are those of the fields, and the codec takes them in the
order of the layout. -/
theorem encode_eq_ok_iff {token : String} :
    l.encode values = .ok token ↔
      (∀ name, name ∈ values.keys ↔ name ∈ l.fields) ∧
        l.codec.encode (l.partsOf values) = .ok token := by
  rw [← names_iff, encode]
  cases l.missing values with
  | cons f fs => simp
  | nil =>
    cases l.unknown values with
    | cons k ks => simp
    | nil => exact ⟨fun h => ⟨⟨rfl, rfl⟩, h⟩, fun h => h.2⟩

/-- Values that make no token are malformed. -/
theorem blames_of_encode {τ : Type} {e : Malformed} (h : l.encode values = .error e) :
    (e.toFault : Fault τ).Blames .null := by
  unfold encode at h
  split at h
  · split at h
    · exact Codec.blames_of_encode h
    · cases h
      rfl
  · cases h
    rfl

/-- What holds of the values holds of the parts, if the names are those of the fields. -/
theorem forall_mem_partsOf_iff (hkeys : values.keys.Nodup)
    (hnames : ∀ name, name ∈ values.keys ↔ name ∈ l.fields) {P : String → Prop} :
    (∀ p ∈ l.partsOf values, P p) ↔ ∀ entry ∈ values, P entry.2 := by
  rw [partsOf, List.forall_mem_map]
  constructor
  · rintro h ⟨name, v⟩ hmem
    have hfound : values.get? name = some v := (Ledger.get?_eq_some_iff hkeys name v).mpr hmem
    have hp := h name ((hnames name).mp (List.mem_map_of_mem hmem))
    rwa [hfound] at hp
  · intro h f hf
    obtain ⟨⟨name, v⟩, hmem, rfl⟩ := List.mem_map.mp ((hnames f).mpr hf)
    have hfound : values.get? name = some v := (Ledger.get?_eq_some_iff hkeys name v).mpr hmem
    rw [hfound]
    exact h _ hmem

/-- **Which values make a token**: those that suit the layout. -/
theorem exists_encode_iff (hl : l.IsSound) (hkeys : values.keys.Nodup) :
    (∃ token, l.encode values = .ok token) ↔ l.Suits values := by
  constructor
  · rintro ⟨token, h⟩
    obtain ⟨hnames, hencode⟩ := encode_eq_ok_iff.mp h
    obtain ⟨-, hfree, -⟩ := (l.codec.encode_eq_ok_iff _ _).mp hencode
    have hclean : ∀ p ∈ l.partsOf values, ¬ l.codec.delimiter.toList <:+: p.toList :=
      fun p hp => (Codec.reserves_eq_false_iff p).mp (hfree p hp)
    exact ⟨hnames, (forall_mem_partsOf_iff hkeys hnames).mp hclean⟩
  · rintro ⟨hnames, hclean⟩
    have hparts : ∀ p ∈ l.partsOf values, ¬ l.codec.delimiter.toList <:+: p.toList :=
      (forall_mem_partsOf_iff hkeys hnames (P := fun p => ¬ _ <:+: p.toList)).mpr hclean
    have hfree : ∀ p ∈ l.partsOf values, l.codec.reserves p = false :=
      fun p hp => (Codec.reserves_eq_false_iff p).mpr (hparts p hp)
    have hne : l.partsOf values ≠ [] := mt List.map_eq_nil_iff.mp hl.nonempty
    exact ⟨_, encode_eq_ok_iff.mpr
      ⟨hnames, (l.codec.encode_eq_ok_iff _ _).mpr ⟨hne, hfree, rfl⟩⟩⟩

/-- The names that are no fields are sorted, so that their order does not show. -/
theorem unknown_of_perm (hp : values.keys.Perm values'.keys) :
    l.unknown values = l.unknown values' := by
  have hsorted (names : List String) :
      (names.mergeSort fun a b => decide (a ≤ b)).Pairwise (· ≤ ·) := by
    have htrans (a b c : String) (hab : decide (a ≤ b) = true) (hbc : decide (b ≤ c) = true) :
        decide (a ≤ c) = true :=
      decide_eq_true (String.le_trans (of_decide_eq_true hab) (of_decide_eq_true hbc))
    have htotal (a b : String) : (decide (a ≤ b) || decide (b ≤ a)) = true := by
      rw [Bool.or_eq_true, decide_eq_true_iff, decide_eq_true_iff]
      exact String.le_total a b
    exact (List.pairwise_mergeSort htrans htotal names).imp of_decide_eq_true
  have hperm : (l.unknown values).Perm (l.unknown values') :=
    (List.mergeSort_perm _ _).trans ((hp.filter _).trans (List.mergeSort_perm _ _).symm)
  exact hperm.eq_of_pairwise (fun _ _ _ _ => String.le_antisymm) (hsorted _) (hsorted _)

/-- The order in which values are given does not matter, not even to a refusal. -/
theorem encode_of_perm (hkeys : values.keys.Nodup) (hp : values.Perm values') :
    l.encode values = l.encode values' := by
  have hget (f : String) : values.get? f = values'.get? f := Ledger.get?_of_perm hkeys hp f
  have hmissing : l.missing values = l.missing values' := by
    simp only [missing, Ledger.has, hget]
  have hunknown : l.unknown values = l.unknown values' := unknown_of_perm (hp.map Prod.fst)
  simp only [encode, hmissing, hunknown, hget]

/-! ### Taking tokens apart -/

variable {token : String}

theorem IsSound.one_le_arity (hl : l.IsSound) : 1 ≤ (l.arity : Int) := by
  have hpos : 0 < l.fields.length := List.length_pos_iff.mpr hl.nonempty
  rw [arity]
  omega

theorem keys_zip {parts : List String} (hlen : parts.length = l.fields.length) :
    Ledger.keys (l.fields.zip parts) = l.fields := List.map_fst_zip (Nat.le_of_eq hlen.symm)

/-- A token of as many parts as there are fields is taken apart, and each field gets the part at its
place. -/
theorem decode_of_length_eq (hl : l.IsSound)
    (hlen : (l.codec.split token).length = l.fields.length) :
    l.decode token = .ok (l.fields.zip (l.codec.split token)) := by
  have hparts : l.codec.decode token l.arity = .ok (l.codec.split token) :=
    (l.codec.decode_eq_ok_iff _ _ _).mpr ⟨hl.one_le_arity, rfl, congrArg Nat.cast hlen⟩
  have hkeys : (Ledger.keys ([] ++ l.fields.zip (l.codec.split token))).Nodup := by
    rw [List.nil_append, keys_zip hlen]
    exact hl.nodup
  rw [decode, hparts]
  exact congrArg Except.ok (Ledger.putAll_of_nodup hkeys)

/-- A token of another number of parts is refused, and named. -/
theorem decode_of_length_ne (hl : l.IsSound)
    (hlen : (l.codec.split token).length ≠ l.fields.length) :
    l.decode token = .error (.wrongToken l.kind token
      (.wrongCount token (l.codec.split token).length l.arity)) := by
  have hrefused := Codec.decode_of_length_ne (c := l.codec) hl.one_le_arity
    fun h => hlen (Int.ofNat.inj h)
  rw [decode, hrefused]

/-- Parts that were given names by their places are put back in their places. -/
theorem partsOf_zip (hl : l.fields.Nodup) {parts : List String}
    (hlen : parts.length = l.fields.length) : l.partsOf (l.fields.zip parts) = parts := by
  refine List.ext_getElem ?_ fun i hi hi' => ?_
  · rw [partsOf, List.length_map, hlen]
  · have hif : i < l.fields.length := hlen ▸ hi'
    have hkeys : (Ledger.keys (l.fields.zip parts)).Nodup := by
      rw [keys_zip hlen]
      exact hl
    have hzip : i < (l.fields.zip parts).length := by
      rw [List.length_zip]
      omega
    have hmem : (l.fields[i], parts[i]) ∈ l.fields.zip parts := by
      rw [← List.getElem_zip (h := hzip)]
      exact List.getElem_mem hzip
    have hfound := (Ledger.get?_eq_some_iff hkeys _ _).mpr hmem
    simp only [partsOf, List.getElem_map, hfound, Option.getD_some]

/-- What a token is taken apart into makes that token again. -/
theorem encode_zip (hl : l.IsSound) (hlen : (l.codec.split token).length = l.fields.length) :
    l.encode (l.fields.zip (l.codec.split token)) = .ok token := by
  refine encode_eq_ok_iff.mpr ⟨fun name => ?_, ?_⟩
  · rw [keys_zip hlen]
  · rw [partsOf_zip hl.nodup hlen]
    exact l.codec.encode_split token

/-! ### Texts as values -/

variable {τ : Type}

/-- Texts that are given by name, as values. -/
def texts (values : Ledger String String) : Ledger String Value :=
  values.map fun entry => (entry.1, .text entry.2)

theorem get?_texts (values : Ledger String String) (name : String) :
    (texts values).get? name = (values.get? name).map .text := by
  induction values with
  | nil => rfl
  | cons entry rest ih =>
    rw [texts, List.map_cons, Ledger.get?_cons, Ledger.get?_cons]
    split
    · rfl
    · exact ih

theorem keys_texts (values : Ledger String String) : (texts values).keys = values.keys := by
  rw [texts, Ledger.keys, List.map_map]
  rfl

theorem has_texts (values : Ledger String String) (name : String) :
    (texts values).has name = values.has name := by
  rw [Ledger.has, get?_texts, Option.isSome_map]
  rfl

/-- The parts that a layout joins are texts if the values are. -/
theorem map_getD_texts (hnames : l.missing values = []) :
    (l.fields.map fun f => ((texts values).get? f).getD .null) =
      (l.partsOf values).map .text := by
  rw [partsOf, List.map_map]
  refine List.map_congr_left fun f hf => ?_
  have hfound : (values.get? f).isSome = true := by
    have hf' : f ∉ l.missing values := hnames ▸ List.not_mem_nil
    rw [mem_missing_iff, not_and, Classical.not_not] at hf'
    exact (Ledger.has_iff_mem_keys ..).mpr (hf' hf)
  obtain ⟨v, hv⟩ := Option.isSome_iff_exists.mp hfound
  rw [get?_texts, Function.comp_apply, hv]
  rfl

/-- Texts are put together as texts are, unless one has the name of the layout itself. -/
theorem encodeValues_texts (hself : "self" ∉ values.keys) :
    l.encodeValues (τ := τ) (texts values) = (l.encode values).mapError Malformed.toFault := by
  have hhas : ¬ (texts values).has "self" = true := by
    rwa [has_texts, Ledger.has_iff_mem_keys]
  have hmissing : l.missing (texts values) = l.missing values := by
    simp only [missing, has_texts]
  have hunknown : l.unknown (texts values) = l.unknown values := by
    simp only [unknown, keys_texts]
  rw [encodeValues, if_neg hhas, encode, hmissing, hunknown]
  cases hm : l.missing values with
  | cons f fs => rfl
  | nil =>
    cases l.unknown values with
    | cons k ks => rfl
    | nil =>
      change l.codec.encodeItems _ = (l.codec.encode (l.partsOf values)).mapError _
      rw [map_getD_texts hm, Codec.encodeItems_text]

/-- The name of the layout itself is taken, whatever else is given. -/
theorem encodeValues_of_self (hself : "self" ∈ values.keys) :
    l.encodeValues (τ := τ) (texts values) =
      .error (Misuse.takenArgument "IdLayout.encode" "self").toFault := by
  have hhas : (texts values).has "self" = true := by
    rwa [has_texts, Ledger.has_iff_mem_keys]
  rw [encodeValues, if_pos hhas]

/-- Values make a token iff they suit the layout. -/
theorem exists_encodeValues_iff (hl : l.IsSound) (hkeys : values.keys.Nodup) :
    (∃ token, l.encodeValues (τ := τ) (texts values) = .ok token) ↔ l.Suits values := by
  by_cases hself : "self" ∈ values.keys
  · rw [encodeValues_of_self hself]
    constructor
    · rintro ⟨_, ⟨⟩⟩
    · intro h
      exact absurd ((h.names "self").mp hself) hl.noSelf
  · rw [encodeValues_texts hself, ← exists_encode_iff hl hkeys]
    cases l.encode values with
    | ok token => exact iff_of_true ⟨token, rfl⟩ ⟨token, rfl⟩
    | error e => constructor <;> rintro ⟨_, ⟨⟩⟩

/-- Refused values are malformed, and no token is named. -/
theorem blames_of_encodeValues (hself : "self" ∉ values.keys) {e : Fault τ}
    (h : l.encodeValues (texts values) = .error e) : e.Blames .null := by
  rw [encodeValues_texts hself] at h
  cases hr : l.encode values with
  | ok token =>
    rw [hr] at h
    cases h
  | error m =>
    rw [hr] at h
    cases h
    exact blames_of_encode hr

/-- The order in which values are given does not matter. -/
theorem encodeValues_of_perm (hkeys : values.keys.Nodup) (hp : values.Perm values') :
    l.encodeValues (τ := τ) (texts values) = l.encodeValues (texts values') := by
  have hkeysPerm : values.keys.Perm values'.keys := hp.map Prod.fst
  by_cases hself : "self" ∈ values.keys
  · rw [encodeValues_of_self hself, encodeValues_of_self (hkeysPerm.mem_iff.mp hself)]
  · rw [encodeValues_texts hself, encodeValues_texts (mt hkeysPerm.mem_iff.mpr hself),
      encode_of_perm hkeys hp]

/-- A token of as many parts as there are fields is taken apart by name, and put together again. -/
theorem exists_decodeValue (hl : l.IsSound)
    (hlen : (l.codec.split token).length = l.fields.length) :
    ∃ values, l.decodeValue (τ := τ) (.text token) = .ok values ∧ values.keys = l.fields ∧
      l.encodeValues (τ := τ) (texts values) = .ok token := by
  have hself : "self" ∉ Ledger.keys (l.fields.zip (l.codec.split token)) := by
    rw [keys_zip hlen]
    exact hl.noSelf
  refine ⟨l.fields.zip (l.codec.split token), ?_, keys_zip hlen, ?_⟩
  · rw [decodeValue, decode_of_length_eq hl hlen]
    rfl
  · rw [encodeValues_texts hself, encode_zip hl hlen]
    rfl

/-- A token of another number of parts is malformed, and named. -/
theorem blames_of_decodeValue (hl : l.IsSound)
    (hlen : (l.codec.split token).length ≠ l.fields.length) :
    ∃ e : Fault τ, l.decodeValue (.text token) = .error e ∧ e.Blames (.text token) := by
  let refusal : Malformed := .wrongToken l.kind token
    (.wrongCount token (l.codec.split token).length l.arity)
  refine ⟨refusal.toFault, ?_, rfl⟩
  rw [decodeValue, decode_of_length_ne hl hlen]
  rfl

/-- **Parts by name.** A layout makes a token of the values that suit it, and of no others. It does
so in whatever order they are given, and what it refuses is malformed, unless a name is taken by the
layout itself. A token in which the delimiter is found, from left to right and without overlap, one
time less than there are fields is taken apart into one value for each field, in their order, and
these values make that token again; any other token is refused and named. -/
theorem encodeValues_iff_suits (hl : l.IsSound) :
    (∀ values : Ledger String String, values.keys.Nodup →
      ((∃ token, l.encodeValues (τ := τ) (texts values) = .ok token) ↔ l.Suits values) ∧
      ("self" ∉ values.keys → ∀ e : Fault τ, l.encodeValues (texts values) = .error e →
        e.Blames .null) ∧
      ("self" ∈ values.keys → l.encodeValues (τ := τ) (texts values) =
        .error (Misuse.takenArgument "IdLayout.encode" "self").toFault) ∧
      ∀ values', values.Perm values' →
        l.encodeValues (τ := τ) (texts values) = l.encodeValues (texts values')) ∧
    ∀ token, ∃ places,
      (∀ found, Delimited.IsScan l.codec.delimiter.toList token.toList found ↔ found = places) ∧
      (places.length + 1 = l.fields.length →
        ∃ values, l.decodeValue (τ := τ) (.text token) = .ok values ∧ values.keys = l.fields ∧
          l.encodeValues (τ := τ) (texts values) = .ok token) ∧
      (places.length + 1 ≠ l.fields.length →
        ∃ e : Fault τ, l.decodeValue (.text token) = .error e ∧ e.Blames (.text token)) := by
  refine ⟨fun values hkeys => ⟨exists_encodeValues_iff hl hkeys, ?_, encodeValues_of_self, ?_⟩,
    fun token => ?_⟩
  · exact fun hself e => blames_of_encodeValues hself
  · exact fun values' => encodeValues_of_perm hkeys
  · obtain ⟨places, hlen, hplaces⟩ :=
      Delimited.exists_forall_isScan_iff l.codec.nonempty token.toList
    have hcount : (l.codec.split token).length = places.length + 1 := by
      rw [Codec.length_split, hlen]
    refine ⟨places, hplaces, fun h => ?_, fun h => ?_⟩
    · exact exists_decodeValue hl (hcount.trans h)
    · exact blames_of_decodeValue hl (hcount ▸ h)

/-- A database is named by its instance and its own name. -/
theorem encodeValues_iff_suits_pair :
    (⟨"db", ["instance", "name"], .field⟩ : IdLayout).IsSound ∧
      Ledger.keys [("name", "orders"), ("instance", "m1")] = ["name", "instance"] ∧
      (∃ token, (⟨"db", ["instance", "name"], .field⟩ : IdLayout).encodeValues (τ := Rat)
        (texts [("name", "orders"), ("instance", "m1")]) = .ok token) ∧
      ∃ values : Ledger String String,
        (⟨"db", ["instance", "name"], .field⟩ : IdLayout).decodeValue (τ := Rat)
          (.text "m1#orders") = .ok values ∧ values.keys = ["instance", "name"] := by
  have hl : (⟨"db", ["instance", "name"], .field⟩ : IdLayout).IsSound :=
    ⟨by decide, by decide, by decide⟩
  have hscan : Delimited.IsScan "#".toList "m1#orders".toList [2] :=
    (Delimited.isScan_iff_of_cut?_some (a := "m1".toList) (b := "orders".toList)
      (by decide) (by decide)).mpr
      ⟨[], (Delimited.isScan_iff_of_cut?_none (by decide)).mpr rfl, rfl⟩
  obtain ⟨hencode, hdecode⟩ := encodeValues_iff_suits (τ := Rat) hl
  refine ⟨hl, rfl, (hencode _ (by decide)).1.mpr ⟨fun name => ?_, by decide⟩, ?_⟩
  · exact (List.Perm.swap "instance" "name" []).mem_iff
  · obtain ⟨places, hplaces, htaken, -⟩ := hdecode "m1#orders"
    obtain rfl := (hplaces [2]).mp hscan
    obtain ⟨values, hvalues, hkeys, -⟩ := htaken rfl
    exact ⟨values, hvalues, hkeys⟩

/-- A value by the name of the layout itself is not refused as malformed. -/
theorem encodeValues_self :
    (⟨"k", ["a"], .field⟩ : IdLayout).IsSound ∧
      (Ledger.keys [("a", "1"), ("self", "x")]).Nodup ∧
      ∃ e : Fault Rat, (⟨"k", ["a"], .field⟩ : IdLayout).encodeValues
          (texts [("a", "1"), ("self", "x")]) = .error e ∧
        ∀ identifier, ¬ e.Blames identifier := by
  refine ⟨⟨by decide, by decide, by decide⟩, by decide, _, encodeValues_of_self (by decide), ?_⟩
  rintro identifier ⟨⟩

end IdLayout

end Settle
