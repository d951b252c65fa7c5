import Settle.Poll.Poller

/-!
# Classifying remote faults by code

A code classifier knows some codes as transient and some code prefixes as meaning absence;
an exact code goes before a prefix. Whatever it does not know, and every fault that is not
remote, goes to its fallback, which may be a code classifier again.

Main statement: `toClassifier_withTransient` says that an extended classifier answers
transient on the new codes and as before on everything else.
-/

namespace Settle

/-- A classifier of remote faults by their codes. -/
structure CodeClassifier (τ : Type) where
  transientCodes : List String
  notFoundPrefixes : List String
  fallback : Classifier τ

namespace CodeClassifier

variable {τ : Type}

/-- The codes that are transient unless settings say otherwise. -/
def defaultTransientCodes : List String :=
  ["ClientError.NetworkError", "ClientError.HttpStatusCodeError", "InternalError",
   "RequestLimitExceeded", "FailedOperation.UnknownError", "ResourceInUse",
   "ResourceUnavailable"]

/-- The code prefixes that mean absence unless settings say otherwise. -/
def defaultNotFoundPrefixes : List String :=
  ["ResourceNotFound", "InvalidParameter.InstanceNotFound"]

/-- The classifier that was given nothing. -/
def standard : CodeClassifier τ :=
  ⟨defaultTransientCodes, defaultNotFoundPrefixes, Classifier.allFatal⟩

/-- What a code means by itself, if it is known. -/
def classOfCode (c : CodeClassifier τ) (code : String) : Option ErrorClass :=
  if c.transientCodes.contains code then some .transient
  else if c.notFoundPrefixes.any fun p => p.toList.isPrefixOf code.toList then
    some .notFound
  else none

/-- What a code that comes as a value means by itself. Only a text can be compared with the
known prefixes. -/
def classOfValue (c : CodeClassifier τ) (code : Value) : Except Misuse (Option ErrorClass) :=
  match code with
  | .text s => .ok (c.classOfCode s)
  | v =>
    .error (if v.isScalar then .noMember v.kindName "startswith" else .unhashable v.kindName)

/-- The classification of a fault. -/
def toClassifier (c : CodeClassifier τ) : Classifier τ := fun e =>
  match e with
  | .remote _ code _ _ =>
    match c.classOfValue code with
    | .error trouble => .error trouble.toFault
    | .ok (some known) => .ok (some known)
    | .ok none => c.fallback e
  | e => c.fallback e

/-- The same classifier with further transient codes. -/
def withTransient (c : CodeClassifier τ) (codes : List String) : CodeClassifier τ :=
  { c with transientCodes := c.transientCodes ++ codes }

/-- An extended classifier answers transient on the new codes and as before on every other
fault. -/
theorem toClassifier_withTransient (c : CodeClassifier τ) (codes : List String)
    (e : Fault τ) :
    (c.withTransient codes).toClassifier e =
      match e with
      | .remote _ (.text code) _ _ =>
        if codes.contains code then .ok (some .transient) else c.toClassifier e
      | _ => c.toClassifier e := by
  cases e with
  | plain => rfl
  | structured => rfl
  | remote s code m r =>
    cases code with
    | text code =>
      simp only [toClassifier, classOfValue, classOfCode, withTransient, List.contains_append]
      by_cases h1 : c.transientCodes.contains code = true <;>
        by_cases h2 : codes.contains code = true <;> simp only [h1, h2] <;> simp
    | _ => rfl

end CodeClassifier

end Settle
