import Settle.Assembly.Container
import Settle.Report.Components

/-!
# A container as a whole

All components of a container at once, and how they are wired: which of them use the limiter,
the poller and the classifier of the container.

Components are compared by their numbers, so `Whole.sharing` says of each user whether it
uses the very component that the container hands out.
-/

namespace Settle

open Assembly

/-- All components of a container. -/
structure Whole (τ : Type) where
  limiter : Limiter τ
  classifier : Numbered (CodeClassifier τ)
  poller : Numbered (PollerPart τ)
  profiles : Numbered (Profiles τ)
  reader : Numbered (ReaderPart τ)
  workflow : Numbered (WorkflowPart τ)
  codec : Numbered Codec
  invoker : Numbered (InvokerPart τ)

/-- Ask a container for all its components and a new invoker. -/
def Container.assemble {τ ω : Type} [Quantity τ] (s : Settings τ) (c : Container τ) :
    Run τ ω (Whole τ × Container τ) := do
  let (limiter, c) ← c.getLimiter s
  let (classifier, c) ← c.getClassifier s
  let (poller, c) ← c.getPoller s
  let (profiles, c) ← c.getProfiles s
  let (reader, c) ← c.getReader s
  let (workflow, c) ← c.getWorkflow s
  let (codec, c) ← c.getCodec s
  let (invoker, c) ← c.getInvoker s
  pure (⟨limiter, classifier, poller, profiles, reader, workflow, codec, invoker⟩, c)

namespace Whole

/-- Who uses the shared components: the reader, the workflow and the invoker the limiter;
the poller the classifier; the reader, the workflow and the invoker the poller. -/
def sharing {τ : Type} (w : Whole τ) : List Bool :=
  [decide (w.reader.value.limiter.number = w.limiter.number),
   decide (w.workflow.value.limiter.number = w.limiter.number),
   decide (w.invoker.value.limiter.number = w.limiter.number),
   decide (w.poller.value.classifier.number = w.classifier.number),
   decide (w.reader.value.poller.number = w.poller.number),
   decide (w.workflow.value.poller.number = w.poller.number),
   decide (w.invoker.value.poller.number = w.poller.number)]

/-- The transient codes of the classifier, sorted and each once. -/
def transientCodes {τ : Type} (w : Whole τ) : List String :=
  (w.classifier.value.transientCodes.mergeSort fun a b => decide (a ≤ b)).eraseDups

/-- The record of the wiring. `client` says whether the invoker uses the client it was asked
for with. -/
def toValue (w : Whole Float) (client : Bool) : Value :=
  let l := w.limiter
  let short := w.profiles.value.short.value.toValue
  let long := w.profiles.value.long.value.toValue
  .record
    [("limiter", .list [.float l.defaultRate, .float l.defaultBurst, .ofRates l.rates,
        .float l.maxWait]),
     ("transient", .ofTexts w.transientCodes),
     ("prefixes", .ofTexts w.classifier.value.notFoundPrefixes),
     ("profiles", .record [("short_read", short), ("long_converge", long)]),
     ("short_read", short), ("long_converge", long),
     ("delimiter", .text w.codec.value.delimiter),
     ("workflow", .list [w.workflow.value.read.value.toValue,
        w.workflow.value.converge.value.toValue]),
     ("invoker_profile", w.invoker.value.profile.value.toValue),
     ("shared", .list ((w.sharing ++ [client]).map .bool))]

end Whole

end Settle
