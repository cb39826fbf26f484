import ExhaustionGuard.Heap.ClassTags
import ExhaustionGuard.Heap.Histogram
import ExhaustionGuard.Heap.Mark
import ExhaustionGuard.Host

/-!
# Capturing a histogram

A capture tags every loaded class, then walks the heap and counts each object once. An object
that carries the stamp of the capture has been counted already; any other gets the stamp, and its
class tag is kept, since the object may be the class object whose slot is the class's own.
-/

namespace ExhaustionGuard.Heap

variable {σ : Type}

/-- Tags classes in order, with the signatures of those tagged before. -/
def tagClasses (host : HeapHost σ) : ClassTags → List ClassId → HostM σ ClassTags
  | tags, [] => pure tags
  | tags, cls :: rest => do
      let signature ← host.classSignature cls
      match tags.assign signature with
      | (.error error, _) => HostM.fail error
      | (.ok tag, tags) =>
          host.setClassTag cls tag
          tagClasses host tags rest

/-- Tags all loaded classes from one on. -/
def tagLoadedClasses (host : HeapHost σ) : HostM σ ClassTags := do
  let classes ← host.loadedClasses
  tagClasses host (ClassTags.empty classTagLimit) classes

/-- The histogram with one more object, if the class of the object has a tag. -/
def countObject (tags : ClassTags) (object : Reached) (histogram : Histogram) : Histogram :=
  match tags.signature? (classBits object.classTag) with
  | some signature => histogram.record signature object.size
  | none => histogram

/-- The visitor of a capture counts each object that does not carry the stamp yet. -/
def countingVisitor (tags : ClassTags) (stamp : Int) : Visitor Histogram :=
  fun object histogram =>
    if isStamped stamp object.slot then (⟨.prune, object.slot⟩, histogram)
    else (⟨.descend, restamp stamp object.slot⟩, countObject tags object histogram)

/-- Walks the heap with the visitor of a capture. -/
def countObjects (host : HeapHost σ) (tags : ClassTags) (stamp : Int) : HostM σ Histogram :=
  HostM.ofFunction fun state =>
    let finished := (host.followReferences state).run (countingVisitor tags stamp) .empty
    (finished.result.map fun _ => finished.memory, finished.host)

/-- Captures the histogram of the objects that are live in an epoch. -/
def capture (host : HeapHost σ) (epoch : Nat) : HostM σ Histogram := do
  let tags ← tagLoadedClasses host
  countObjects host tags (stampOf epoch)

end ExhaustionGuard.Heap
