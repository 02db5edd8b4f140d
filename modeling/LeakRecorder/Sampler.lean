/-
# LeakRecorder.Sampler — the samples, newest first

The sampler keeps its samples in a list from the newest to the oldest. A
boundary marks a sample: it and everything older has been resolved, everything
newer has not. A walk starts at a sample, goes towards older ones and stops
before another; the unresolved part, the resolved part and the whole list are
walks. The sampler counts the samples as it links them in, apart from the list.

The boundary may also mark a sample that is linked into no list. The resolved
part is then that sample alone, and nothing of the list counts as resolved.
-/
import LeakRecorder.Sample

set_option autoImplicit false

namespace LeakRecorder

structure Sampler where
  /-- The linked samples, newest first. -/
  samples : List Sample
  /-- How many samples have been linked in. -/
  size : Nat
  /-- Samples that were taken but never linked. -/
  strays : List Sample
  /-- This sample and everything older has been resolved. -/
  boundary : Option SampleId
  /-- When the collector last swept. -/
  lastSweep : Int64
  /-- The next sample's number. -/
  births : Nat

namespace Sampler

def empty : Sampler :=
  { samples := [], size := 0, strays := [], boundary := none, lastSweep := 0, births := 0 }

instance : Inhabited Sampler := ⟨empty⟩

def isEmpty (sampler : Sampler) : Bool := sampler.size == 0

/-- The counter is the length of the list. -/
def Counted (sampler : Sampler) : Prop := sampler.size = sampler.samples.length

/-- The newest sample. -/
def newest? (sampler : Sampler) : Option SampleId := sampler.samples.head?.map (·.id)

/-- Takes a sample and links it in as the newest. -/
def push (sampler : Sampler) (draft : Sample.Draft) : SampleId × Sampler :=
  let id : SampleId := ⟨sampler.births⟩
  (id, { sampler with
    samples := Sample.ofDraft id draft :: sampler.samples
    size := sampler.size + 1
    births := sampler.births + 1 })

/-- Takes a sample without linking it in. -/
def pushStray (sampler : Sampler) (draft : Sample.Draft) : SampleId × Sampler :=
  let id : SampleId := ⟨sampler.births⟩
  (id, { sampler with
    strays := Sample.ofDraft id draft :: sampler.strays
    births := sampler.births + 1 })

def find? (sampler : Sampler) (id : SampleId) : Option Sample :=
  sampler.samples.find? (·.id == id) <|> sampler.strays.find? (·.id == id)

/-- Changes one sample. -/
def modify (sampler : Sampler) (id : SampleId) (change : Sample → Sample) : Sampler :=
  let touch (sample : Sample) : Sample := if sample.id = id then change sample else sample
  { sampler with samples := sampler.samples.map touch, strays := sampler.strays.map touch }

/-- A sample and everything older; a stray has nothing older. -/
def olderFrom (sampler : Sampler) (id : SampleId) : List Sample :=
  match sampler.strays.find? (·.id == id) with
  | some stray => [stray]
  | none => sampler.samples.dropWhile (·.id != id)

/-- The samples from `start` towards older ones, up to but without `stop`. -/
def walk (sampler : Sampler) (start stop : Option SampleId) : List Sample :=
  match start with
  | none => []
  | some first =>
      match stop with
      | none => sampler.olderFrom first
      | some last => (sampler.olderFrom first).takeWhile (·.id != last)

/-- The samples newer than the boundary. -/
def unresolved (sampler : Sampler) : List Sample := sampler.walk sampler.newest? sampler.boundary

/-- The samples at the boundary and older. -/
def resolved (sampler : Sampler) : List Sample := sampler.walk sampler.boundary none

/-- Every linked sample. -/
def all (sampler : Sampler) : List Sample := sampler.walk sampler.newest? none

def hasUnresolved (sampler : Sampler) : Bool :=
  match sampler.newest?, sampler.boundary with
  | none, _ => false
  | some _, none => true
  | some last, some resolved => last != resolved

def setBoundary (sampler : Sampler) (boundary : Option SampleId) : Sampler :=
  { sampler with boundary }

def setLastSweep (sampler : Sampler) (lastSweep : Int64) : Sampler := { sampler with lastSweep }

/-- The linked samples with the newest ones, as far as `front` reaches, replaced by `front`. -/
def replaceFront (sampler : Sampler) (front : List Sample) : Sampler :=
  { sampler with samples := front ++ sampler.samples.drop front.length }

/-- Until when an allocation falls into the emission window: before the last sweep, or any time. -/
def horizon (sampler : Sampler) (emitAll : Bool) : Int64 :=
  if emitAll then Int64.maxValue else sampler.lastSweep

/-- The emission window: the live samples that were allocated before the horizon, newest first. -/
def window (sampler : Sampler) (emitAll : Bool) : List Sample :=
  sampler.all.filter (·.isAliveAndOlderThan (sampler.horizon emitAll))

end Sampler

end LeakRecorder
