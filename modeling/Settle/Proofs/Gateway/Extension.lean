import Settle.Gateway.CodeClassifier

/-!
# Classifiers with further transient codes

A call site may extend the code classifier that it shares with others, once or several times. What
counts is the code of a fault: where an extension names it the fault is transient, whatever the
classifier makes of it otherwise, and where none does the extended classifier answers as the one
that was extended, down the whole chain of its fallbacks. So extensions may be made in any order,
all at once, or twice.

A fault that is not remote has no code, and neither has a remote one whose code is no text
(`Fault.HasCode`). Extensions one after the other are one extension by all their codes
(`extended_eq_withTransient`), and so the account of one of them is that of all.

Main statement: `extended_classifies`.
-/

namespace Settle

variable {τ : Type}

/-- The fault is a remote one with this code. -/
def Fault.HasCode (e : Fault τ) (code : String) : Prop :=
  ∃ serial message requestId, e = .remote serial (.text code) message requestId

@[simp] theorem Fault.hasCode_remote_iff {serial : Option Nat} {own code : String}
    {message requestId : Value} :
    (Fault.remote serial (.text own) message requestId : Fault τ).HasCode code ↔ own = code := by
  constructor
  · rintro ⟨_, _, _, hsame⟩
    cases hsame
    rfl
  · rintro rfl
    exact ⟨serial, message, requestId, rfl⟩

namespace CodeClassifier

variable {b : CodeClassifier τ} {collections others : List (List String)} {codes : List String}
  {code : String} {e : Fault τ}

/-! ### One extension -/

theorem classify_withTransient_of_mem (h : code ∈ codes) (he : e.HasCode code) :
    (b.withTransient codes).toClassifier e = .ok (some .transient) := by
  obtain ⟨serial, message, requestId, rfl⟩ := he
  rw [toClassifier_withTransient]
  exact if_pos (List.contains_iff_mem.mpr h)

theorem classify_withTransient_of_not_mem (h : ∀ code ∈ codes, ¬ e.HasCode code) :
    (b.withTransient codes).toClassifier e = b.toClassifier e := by
  rw [toClassifier_withTransient]
  split
  · next serial code message requestId =>
    have hmem : code ∉ codes := fun hmem => h code hmem (Fault.hasCode_remote_iff.mpr rfl)
    exact if_neg (mt List.contains_iff_mem.mp hmem)
  · rfl

/-- A code that is not transient by itself but begins with a prefix that is known means absence. -/
theorem classify_of_isPrefix (hcode : code ∉ b.transientCodes)
    (hknown : ∃ p ∈ b.notFoundPrefixes, p.toList <+: code.toList) (he : e.HasCode code) :
    b.toClassifier e = .ok (some .notFound) := by
  obtain ⟨serial, message, requestId, rfl⟩ := he
  have hany : (b.notFoundPrefixes.any fun p => p.toList.isPrefixOf code.toList) = true := by
    simpa only [List.any_eq_true, List.isPrefixOf_iff_prefix] using hknown
  simp only [toClassifier, classOfValue, classOfCode, List.contains_iff_mem, hcode, hany, if_true,
    if_false]

/-! ### Several extensions -/

/-- The classifier after it was extended by one collection of codes after the other. -/
def extended (b : CodeClassifier τ) (collections : List (List String)) : CodeClassifier τ :=
  collections.foldl withTransient b

theorem withTransient_nil (b : CodeClassifier τ) : b.withTransient [] = b := by
  rw [withTransient, List.append_nil]

theorem withTransient_append (b : CodeClassifier τ) (xs ys : List String) :
    b.withTransient (xs ++ ys) = (b.withTransient xs).withTransient ys := by
  rw [withTransient, withTransient, withTransient, List.append_assoc]

/-- Several extensions come to one by all their codes. -/
theorem extended_eq_withTransient (b : CodeClassifier τ) (collections : List (List String)) :
    b.extended collections = b.withTransient collections.flatten := by
  induction collections generalizing b with
  | nil => exact b.withTransient_nil.symm
  | cons codes rest ih =>
    calc b.extended (codes :: rest)
      _ = (b.withTransient codes).extended rest := rfl
      _ = (b.withTransient codes).withTransient rest.flatten := ih _
      _ = b.withTransient (codes ++ rest.flatten) := (b.withTransient_append _ _).symm

theorem classify_extended_of_mem (h : ∃ codes ∈ collections, code ∈ codes) (he : e.HasCode code) :
    (b.extended collections).toClassifier e = .ok (some .transient) := by
  rw [extended_eq_withTransient]
  exact classify_withTransient_of_mem (List.mem_flatten.mpr h) he

theorem classify_extended_of_not_mem (h : ∀ codes ∈ collections, ∀ code ∈ codes, ¬ e.HasCode code) :
    (b.extended collections).toClassifier e = b.toClassifier e := by
  rw [extended_eq_withTransient]
  refine classify_withTransient_of_not_mem fun code hcode => ?_
  obtain ⟨codes, hcodes, hmem⟩ := List.mem_flatten.mp hcode
  exact h codes hcodes code hmem

/-- Extensions that name the same codes classify alike. -/
theorem classify_extended_congr
    (h : ∀ code, (∃ codes ∈ collections, code ∈ codes) ↔ ∃ codes ∈ others, code ∈ codes) :
    (b.extended collections).toClassifier = (b.extended others).toClassifier := by
  funext e
  by_cases hnamed : ∃ code, (∃ codes ∈ collections, code ∈ codes) ∧ e.HasCode code
  · obtain ⟨code, hmem, he⟩ := hnamed
    rw [classify_extended_of_mem hmem he, classify_extended_of_mem ((h code).mp hmem) he]
  · have hnone : ∀ code, e.HasCode code → ¬ ∃ codes ∈ collections, code ∈ codes :=
      fun code he hmem => hnamed ⟨code, hmem, he⟩
    rw [classify_extended_of_not_mem fun codes hcodes code hcode he =>
      hnone code he ⟨codes, hcodes, hcode⟩]
    rw [classify_extended_of_not_mem fun codes hcodes code hcode he =>
      hnone code he ((h code).mpr ⟨codes, hcodes, hcode⟩)]

/-- **An extended classifier** answers transient on every fault whose code one of the extensions
names, also where the classifier that was extended sees absence in it by a prefix, and on every
other fault as that one does. Extensions that name the same codes, in whatever order, in however
many collections and however often, make classifiers that answer alike. -/
theorem extended_classifies (b : CodeClassifier τ) (collections : List (List String)) :
    (∀ (e : Fault τ) (code : String), e.HasCode code → (∃ codes ∈ collections, code ∈ codes) →
      (b.extended collections).toClassifier e = .ok (some .transient)) ∧
    (∀ e : Fault τ, (∀ codes ∈ collections, ∀ code ∈ codes, ¬ e.HasCode code) →
      (b.extended collections).toClassifier e = b.toClassifier e) ∧
    (∀ others : List (List String),
      (∀ code, (∃ codes ∈ collections, code ∈ codes) ↔ ∃ codes ∈ others, code ∈ codes) →
      (b.extended collections).toClassifier = (b.extended others).toClassifier) ∧
    (∀ (e : Fault τ) (code : String), e.HasCode code → code ∉ b.transientCodes →
      (∃ p ∈ b.notFoundPrefixes, p.toList <+: code.toList) →
      (∃ codes ∈ collections, code ∈ codes) →
      b.toClassifier e = .ok (some .notFound) ∧
        (b.extended collections).toClassifier e = .ok (some .transient)) := by
  refine ⟨fun e code he hmem => classify_extended_of_mem hmem he,
    fun e hnone => classify_extended_of_not_mem hnone,
    fun others hsame => classify_extended_congr hsame, ?_⟩
  intro e code he hcode hknown hmem
  exact ⟨classify_of_isPrefix hcode hknown he, classify_extended_of_mem hmem he⟩

/-- The standard classifier with another for its fallback, to which every code that is not
transient means absence. -/
def chained : CodeClassifier Rat :=
  { (standard : CodeClassifier Rat) with
    fallback := toClassifier ⟨["Busy"], [""], Classifier.allFatal⟩ }

/-- A code that means absence to the first of two classifiers is made transient, and the second is
still asked about the codes that it alone knows. -/
theorem extended_classifies_chained :
    let absent : Fault Rat := .remote none (.text "ResourceNotFound.Flow") .null .null
    let busy : Fault Rat := .remote none (.text "Busy") .null .null
    let collections := [["Throttled"], ["ResourceNotFound.Flow", "Throttled"]]
    chained.toClassifier absent = .ok (some .notFound) ∧
      (chained.extended collections).toClassifier absent = .ok (some .transient) ∧
      (chained.extended collections).toClassifier busy = chained.toClassifier busy ∧
      (chained.extended collections).toClassifier =
        (chained.extended [["ResourceNotFound.Flow", "Throttled"]]).toClassifier := by
  intro absent busy collections
  obtain ⟨-, hother, hsame, hknown⟩ := extended_classifies chained collections
  obtain ⟨habsent, htransient⟩ := hknown absent "ResourceNotFound.Flow"
    (Fault.hasCode_remote_iff.mpr rfl)
    (by simp [chained, standard, defaultTransientCodes])
    ⟨"ResourceNotFound", by simp [chained, standard, defaultNotFoundPrefixes], by decide⟩
    ⟨_, .tail _ (.head _), .head _⟩
  refine ⟨habsent, htransient, hother busy ?_, hsame _ ?_⟩
  · simp only [busy, Fault.hasCode_remote_iff]
    decide
  · intro code
    grind

end CodeClassifier

end Settle
