import Mathlib.Algebra.Group.Nat.Defs
import ScoreIntegration.Concurrency.Transitions
import ScoreIntegration.Memory.KnownRegions

/-!
# The map of known regions

A reader counts itself on the version that it takes for the latest one.  The writer marks
a version that nobody counts on as invalid, overwrites it, sets its count to zero and
declares it the latest.  `published` and `answers` are history variables.
-/

namespace ScoreIntegration.Memory

open Concurrency Function

abbrev versionCount : Nat := 10

abbrev Version := Fin versionCount

def invalidRefCountIntervalEnd : Nat := 2 ^ 32 - 1

def invalidRefCountIntervalStart : Nat := invalidRefCountIntervalEnd / 2

def initialRefCountValue : Nat := invalidRefCountIntervalStart

inductive RegionUpdate where
  | updateKnownRegion (region : MemoryRegion)
  | removeKnownRegion (startAddress : Nat)
  | clearKnownRegions
  deriving DecidableEq, Repr

/-- Where the writer is: it looks for a version, exchanges its count, copies the latest
version, changes the copy, sets the count to zero and publishes the version. -/
inductive WriterPhase where
  | idle
  | scanning (update : RegionUpdate) (retryCount loopIdx : Nat)
  | exchanging (update : RegionUpdate) (retryCount loopIdx : Nat) (version : Version)
  | copying (update : RegionUpdate) (version : Version)
  | changing (update : RegionUpdate) (version : Version)
  | releasing (version : Version)
  | publishing (version : Version)
  | terminated
  deriving DecidableEq, Repr

/-- Where a reader is; `since` counts the versions that had been published before the one
that was the latest when the lookup was called. -/
inductive ReaderPhase where
  | idle
  | loading (address since retryCount : Nat)
  | incrementing (address since retryCount : Nat) (version : Version)
  | checking (address since retryCount : Nat) (version : Version) (previousRefcount : Nat)
  | holding (address since : Nat) (version : Version)
  | leaving (address since : Nat) (version : Version) (answer : Option MemoryRegion)
  | terminated
  deriving DecidableEq, Repr

/-- The answer of a lookup, with the versions published before its call and before its
return. -/
structure LookupAnswer where
  address : Nat
  since : Nat
  ended : Nat
  answer : Option MemoryRegion

structure MemoryRegionMap (readerCount : Nat) where
  knownRegionsVersions : Version → List MemoryRegion
  refcounts : Version → Nat
  latest : Version
  writer : WriterPhase
  readers : Fin readerCount → ReaderPhase
  published : List (List MemoryRegion)
  answers : List LookupAnswer

inductive RegionMapStep (readerCount : Nat) where
  | call (update : RegionUpdate)
  /-- The next step of the writer; a weak compare-exchange may fail without reason. -/
  | write (failsSpuriously : Bool)
  | getBoundsFromAddress (reader : Fin readerCount) (address : Nat)
  | read (reader : Fin readerCount)

namespace MemoryRegionMap

variable {readerCount : Nat}

def start (readerCount : Nat) : MemoryRegionMap readerCount where
  knownRegionsVersions := fun _ => []
  refcounts := fun version => if version = 0 then 0 else initialRefCountValue
  latest := 0
  writer := .idle
  readers := fun _ => .idle
  published := [[]]
  answers := []

/-! ## The writer -/

def maxWriterRetries : Nat := 10

/-- The version that is checked, beginning behind the latest one. -/
def versionIdx (latest : Version) (loopIdx : Nat) : Version :=
  Fin.ofNat versionCount (loopIdx + latest)

/-- The round after a version that could not be acquired. -/
def nextRound (update : RegionUpdate) (retryCount loopIdx : Nat) : WriterPhase :=
  if loopIdx + 1 < versionCount then .scanning update retryCount (loopIdx + 1)
  else if retryCount + 1 < maxWriterRetries then .scanning update (retryCount + 1) 1
  else .terminated

/-- The latest version is not copied where it would be cleared. -/
def acquired (update : RegionUpdate) (version : Version) : WriterPhase :=
  match update with
  | .clearKnownRegions => .changing update version
  | _ => .copying update version

section

variable (map : MemoryRegionMap readerCount)

section

variable (version : Version) (regions : List MemoryRegion) (writer : WriterPhase)

def setRegions : MemoryRegionMap readerCount :=
  { map with
    knownRegionsVersions := Function.update map.knownRegionsVersions version regions
    writer }

theorem knownRegionsVersions_setRegions_self :
    (map.setRegions version regions writer).knownRegionsVersions version = regions :=
  update_self _ _ _

end

/-- An update that overlaps with a known region leaves the version marked as invalid. -/
def change (version : Version) : RegionUpdate → MemoryRegionMap readerCount
  | .updateKnownRegion region =>
    match insertRegion (map.knownRegionsVersions version) region with
    | none => { map with writer := .terminated }
    | some iterator =>
      map.setRegions version iterator.map
        (if doesRegionIteratorOverlap iterator then .idle else .releasing version)
  | .removeKnownRegion startAddress =>
    match eraseRegion (map.knownRegionsVersions version) startAddress with
    | none => { map with writer := .terminated }
    | some remaining => map.setRegions version remaining (.releasing version)
  | .clearKnownRegions => map.setRegions version [] (.releasing version)

/-- Only the writer stores the index of the latest version, so that its loads of it can
be part of the step that follows them. -/
def write (failsSpuriously : Bool) : Option (MemoryRegionMap readerCount) :=
  match map.writer with
  | .idle => none
  | .terminated => none
  | .scanning update retryCount loopIdx =>
    let version := versionIdx map.latest loopIdx
    if map.refcounts version = 0 then
      some { map with writer := .exchanging update retryCount loopIdx version }
    else if map.refcounts version = initialRefCountValue then
      some { map with writer := acquired update version }
    else some { map with writer := nextRound update retryCount loopIdx }
  | .exchanging update retryCount loopIdx version =>
    if map.refcounts version = 0 ∧ failsSpuriously = false then
      some { map with
          refcounts := Function.update map.refcounts version invalidRefCountIntervalStart
          writer := acquired update version }
    else some { map with writer := nextRound update retryCount loopIdx }
  | .copying update version =>
    some (map.setRegions version (map.knownRegionsVersions map.latest) (.changing update version))
  | .changing update version => some (map.change version update)
  | .releasing version =>
    some { map with
        refcounts := Function.update map.refcounts version 0
        writer := .publishing version }
  | .publishing version =>
    some { map with
        latest := version
        writer := .idle
        published := map.published ++ [map.knownRegionsVersions version] }

/-! ## The readers -/

def maxReaderRetries : Nat := 255

def setReader (reader : Fin readerCount) (phase : ReaderPhase) : MemoryRegionMap readerCount :=
  { map with readers := Function.update map.readers reader phase }

/-- What a reader does with the count that it has incremented. -/
def checkRefcount (address since retryCount : Nat) (version : Version)
    (previousRefcount : Nat) : ReaderPhase :=
  if previousRefcount = invalidRefCountIntervalStart - 1 ∨
      previousRefcount = invalidRefCountIntervalEnd then .terminated
  else if previousRefcount < invalidRefCountIntervalStart - 1 then
    .holding address since version
  else if retryCount + 1 < maxReaderRetries then .loading address since (retryCount + 1)
  else .terminated

def read (reader : Fin readerCount) : Option (MemoryRegionMap readerCount) :=
  match map.readers reader with
  | .idle => none
  | .terminated => none
  | .loading address since retryCount =>
    some (map.setReader reader (.incrementing address since retryCount map.latest))
  | .incrementing address since retryCount version =>
    some { map.setReader reader
          (.checking address since retryCount version (map.refcounts version)) with
        refcounts := Function.update map.refcounts version ((map.refcounts version + 1) % 2 ^ 32) }
  | .checking address since retryCount version previousRefcount =>
    some (map.setReader reader (checkRefcount address since retryCount version previousRefcount))
  | .holding address since version =>
    match boundsFromAddress (map.knownRegionsVersions version) address with
    | none => some (map.setReader reader .terminated)
    | some answer => some (map.setReader reader (.leaving address since version answer))
  | .leaving address since version answer =>
    some { map.setReader reader .idle with
        refcounts := Function.update map.refcounts version
          ((map.refcounts version + (2 ^ 32 - 1)) % 2 ^ 32)
        answers := ⟨address, since, map.published.length, answer⟩ :: map.answers }

def step : RegionMapStep readerCount → Option (MemoryRegionMap readerCount)
  | .call update =>
    match map.writer with
    | .idle => some { map with writer := .scanning update 0 1 }
    | _ => none
  | .write failsSpuriously => map.write failsSpuriously
  | .getBoundsFromAddress reader address =>
    match map.readers reader with
    | .idle => some (map.setReader reader (.loading address (map.published.length - 1) 0))
    | _ => none
  | .read reader => map.read reader

end

def system (readerCount : Nat) :
    TransitionSystem (MemoryRegionMap readerCount) (RegionMapStep readerCount) :=
  .ofStep (start readerCount) step

end MemoryRegionMap

end ScoreIntegration.Memory
