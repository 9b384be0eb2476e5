import Mathlib.Data.Finset.Basic
import ScoreIntegration.Concurrency.Transitions

/-!
# Registration of server connectors

The runtime refuses a second server connector of one interface with the same versions and
instance.  Its database keeps one record, of one server and one client, for all minor
versions.
-/

namespace ScoreIntegration.Socom

open Concurrency Function Finset TransitionSystem

abbrev ServiceInstance := String

structure ServiceInterfaceIdentifier where
  id : String
  major : Nat
  minor : Nat
  deriving DecidableEq, Repr

/-- Interfaces are compared with `Minor_version_ignoring_key_equal`. -/
structure RecordKey where
  id : String
  major : Nat
  instanceId : ServiceInstance
  deriving DecidableEq, Repr

/-- A connector is known by its interface and instance, `Service_instance_identifier`. -/
abbrev Connector := ServiceInterfaceIdentifier × ServiceInstance

def Connector.key (connector : Connector) : RecordKey :=
  ⟨connector.1.id, connector.1.major, connector.2⟩

def isMinorVersionCompatible (server client : Connector) : Bool := client.1.minor ≤ server.1.minor

def isInterfaceCompatible (server client : Connector) : Bool :=
  server.1.id = client.1.id && server.1.major = client.1.major &&
    isMinorVersionCompatible server client

structure ServiceRecord where
  server : Option Connector
  client : Option Connector
  connected : Bool

inductive AssertionFailure where
  | duplicateServer
  | incompatibleInterface
  deriving DecidableEq, Repr

/-- The indication of the server to the client. -/
def ServiceRecord.indicate (record : ServiceRecord) : Except AssertionFailure ServiceRecord :=
  match record.server, record.client with
  | some server, some client =>
    if !isMinorVersionCompatible server client then .ok record
    else if !isInterfaceCompatible server client then .error .incompatibleInterface
    else .ok { record with connected := true }
  | _, _ => .ok record

/-- `serviceIdentifiers` has the server connectors that exist. -/
structure Runtime where
  serviceIdentifiers : Finset Connector
  records : RecordKey → ServiceRecord

namespace Runtime

def start : Runtime where
  serviceIdentifiers := ∅
  records _ := ⟨none, none, false⟩

variable (runtime : Runtime)

def setRecord (key : RecordKey) (record : ServiceRecord) : Runtime :=
  { runtime with records := Function.update runtime.records key record }

/-- A connector of a known identifier is not created. -/
def makeServerConnector (server : Connector) : Runtime :=
  { runtime with serviceIdentifiers := insert server runtime.serviceIdentifiers }

/-- Nothing happens if the connector does not exist or is enabled. -/
def enable (server : Connector) : Except AssertionFailure Runtime :=
  if server ∉ runtime.serviceIdentifiers ∨
      (runtime.records server.key).server = some server then .ok runtime
  else if (runtime.records server.key).server.isSome then .error .duplicateServer
  else (ServiceRecord.indicate { runtime.records server.key with
    server := some server }).map (runtime.setRecord server.key)

def disable (server : Connector) : Runtime :=
  if (runtime.records server.key).server = some server then
    runtime.setRecord server.key { runtime.records server.key with
      server := none, connected := false }
  else runtime

def destroyServer (server : Connector) : Runtime :=
  { runtime.disable server with
    serviceIdentifiers := runtime.serviceIdentifiers.erase server }

/-- A second client of a record is refused. -/
def makeClientConnector (client : Connector) : Except AssertionFailure Runtime :=
  if (runtime.records client.key).client.isSome then .ok runtime
  else (ServiceRecord.indicate { runtime.records client.key with
    client := some client }).map (runtime.setRecord client.key)

def destroyClient (client : Connector) : Runtime :=
  if (runtime.records client.key).client = some client then
    runtime.setRecord client.key { runtime.records client.key with
      client := none, connected := false }
  else runtime

inductive Call where
  | makeServerConnector (server : Connector)
  | enable (server : Connector)
  | disable (server : Connector)
  | destroyServer (server : Connector)
  | makeClientConnector (client : Connector)
  | destroyClient (client : Connector)

def step : Call → Option Runtime
  | .makeServerConnector server => some (runtime.makeServerConnector server)
  | .enable server => (runtime.enable server).toOption
  | .disable server => some (runtime.disable server)
  | .destroyServer server => some (runtime.destroyServer server)
  | .makeClientConnector client => (runtime.makeClientConnector client).toOption
  | .destroyClient client => some (runtime.destroyClient client)

/-- A server connector is created only if no other one has its record. -/
def RecordUnused : Call → Prop
  | .makeServerConnector server => ∀ other ∈ runtime.serviceIdentifiers,
      other.key = server.key → other = server
  | _ => True

end Runtime

/-- The connectors of a record belong to it, and a connected client fits. -/
structure ServiceRecord.Fits (record : ServiceRecord) (key : RecordKey) : Prop where
  server : ∀ server, record.server = some server → server.key = key
  client : ∀ client, record.client = some client → client.key = key
  connected : record.connected = true → ∃ server client,
    record.server = some server ∧ record.client = some client ∧
      isInterfaceCompatible server client = true

theorem ServiceRecord.Fits.indicate {record : ServiceRecord} {k : RecordKey}
    (fits : record.Fits k) :
    ∃ s', record.indicate = .ok s' ∧ s'.Fits k ∧ s'.server = record.server := by
  unfold ServiceRecord.indicate
  split
  next server c isServer isClient =>
    have sameKey := (fits.server server isServer).trans (fits.client c isClient).symm
    obtain ⟨sameId, sameMajor, -⟩ := RecordKey.mk.inj sameKey
    by_cases minor : isMinorVersionCompatible server c = true
    · have compatible : isInterfaceCompatible server c = true := by
        simp [isInterfaceCompatible, sameId, sameMajor, minor]
      simp only [minor, compatible, Bool.not_true, Bool.false_eq_true, if_false]
      exact ⟨_, rfl, ⟨fits.server, fits.client, fun _ =>
        ⟨server, c, isServer, isClient, compatible⟩⟩, rfl⟩
    · simp only [minor, Bool.not_false, if_true]
      exact ⟨record, rfl, fits, rfl⟩
  next => exact ⟨record, rfl, fits, rfl⟩

namespace Runtime

structure Invariant (runtime : Runtime) : Prop where
  fits : ∀ key, (runtime.records key).Fits key
  exists_server : ∀ key server, (runtime.records key).server = some server →
    server ∈ runtime.serviceIdentifiers
  separate : ∀ one ∈ runtime.serviceIdentifiers,
    ∀ other ∈ runtime.serviceIdentifiers, one.key = other.key → one = other

variable {runtime : Runtime}

section

variable (inv : runtime.Invariant)
include inv

theorem Invariant.setRecord {k record} (fits : record.Fits k)
    (existing : ∀ server, record.server = some server → server ∈ runtime.serviceIdentifiers) :
    (runtime.setRecord k record).Invariant where
  fits := (forall_update_iff _ fun k (record : ServiceRecord) => record.Fits k).mpr
    ⟨fits, fun o _ => inv.fits o⟩
  exists_server := (forall_update_iff _ fun _ (record : ServiceRecord) =>
    ∀ server, record.server = some server → server ∈ runtime.serviceIdentifiers).mpr
    ⟨existing, fun o _ => inv.exists_server o⟩
  separate := inv.separate

theorem Invariant.enable (server : Connector) :
    ∃ s', runtime.enable server = .ok s' ∧ s'.Invariant := by
  unfold Runtime.enable
  by_cases skip : server ∉ runtime.serviceIdentifiers ∨
      (runtime.records server.key).server = some server
  · exact ⟨runtime, if_pos skip, inv⟩
  · rw [not_or, not_not] at skip
    obtain ⟨fits, existing⟩ := skip
    have unregistered : (runtime.records server.key).server = none := by
      -- A registered server has the record of this one.
      cases st : (runtime.records server.key).server with
      | none => rfl
      | some o =>
        have same := inv.separate o (inv.exists_server _ _ st)
          server fits ((inv.fits _).server o st)
        exact absurd (same ▸ st) existing
    have reg : ServiceRecord.Fits
        { runtime.records server.key with server := some server } server.key := by
      refine ⟨by rintro _ ⟨⟩; rfl, (inv.fits _).client, fun connected => ?_⟩
      obtain ⟨o, _, st, -⟩ := (inv.fits _).connected connected
      cases unregistered.symm.trans st
    obtain ⟨record, ok, recordFits, sameServer⟩ := reg.indicate
    rw [if_neg (not_or.mpr ⟨not_not_intro fits, existing⟩), unregistered]
    simp only [Option.isSome_none, Bool.false_eq_true, if_false, ok, Except.map]
    refine ⟨_, rfl, inv.setRecord recordFits ?_⟩
    rw [sameServer]
    rintro _ ⟨⟩
    exact fits

theorem Invariant.disable (server : Connector) : (runtime.disable server).Invariant := by
  unfold Runtime.disable
  split
  · exact inv.setRecord ⟨nofun, (inv.fits _).client, nofun⟩ nofun
  · exact inv

theorem Invariant.destroyServer (server : Connector) :
    (runtime.destroyServer server).Invariant := by
  have disabled := inv.disable server
  have sameIdentifiers : (runtime.disable server).serviceIdentifiers =
      runtime.serviceIdentifiers := by
    unfold Runtime.disable
    split <;> rfl
  refine ⟨disabled.fits, fun k o st => ?_, fun one isOne o isOther =>
    inv.separate one (mem_of_mem_erase isOne) o (mem_of_mem_erase isOther)⟩
  have isKey := (disabled.fits k).server o st
  refine mem_erase.mpr ⟨?_, sameIdentifiers ▸ disabled.exists_server k o st⟩
  rintro rfl
  subst isKey
  change ((runtime.disable o).records o.key).server = some o at st
  unfold Runtime.disable at st
  split at st
  · simp [Runtime.setRecord] at st
  next notEnabled => exact notEnabled st

theorem Invariant.makeClientConnector (c : Connector) :
    ∃ s', runtime.makeClientConnector c = .ok s' ∧ s'.Invariant := by
  unfold Runtime.makeClientConnector
  cases reg : (runtime.records c.key).client with
  | some o => exact ⟨runtime, rfl, inv⟩
  | none =>
    have added : ServiceRecord.Fits { runtime.records c.key with client := some c } c.key := by
      refine ⟨(inv.fits _).server, by rintro _ ⟨⟩; rfl, fun connected => ?_⟩
      obtain ⟨_, o, -, st, -⟩ := (inv.fits _).connected connected
      cases reg.symm.trans st
    obtain ⟨record, ok, recordFits, sameServer⟩ := added.indicate
    simp only [Option.isSome_none, Bool.false_eq_true, if_false, ok, Except.map]
    refine ⟨_, rfl, inv.setRecord recordFits ?_⟩
    rw [sameServer]
    exact inv.exists_server _

theorem Invariant.step {call s'}
    (unused : runtime.RecordUnused call) (taken : runtime.step call = some s') :
    s'.Invariant := by
  cases call with
  | makeServerConnector server =>
    cases taken
    refine ⟨inv.fits, fun k o st => mem_insert_of_mem (inv.exists_server k o st), ?_⟩
    intro one isOne o isOther sameKey
    rcases mem_insert.mp isOne with isNew | oneBefore <;>
      rcases mem_insert.mp isOther with isNewer | otherBefore
    · exact isNew.trans isNewer.symm
    · subst isNew
      exact (unused o otherBefore sameKey.symm).symm
    · subst isNewer
      exact unused one oneBefore sameKey
    · exact inv.separate one oneBefore o otherBefore sameKey
  | enable server =>
    obtain ⟨res, ok, kept⟩ := inv.enable server
    rw [Runtime.step, ok] at taken
    cases taken
    exact kept
  | disable server =>
    cases taken
    exact inv.disable server
  | destroyServer server =>
    cases taken
    exact inv.destroyServer server
  | makeClientConnector c =>
    obtain ⟨res, ok, kept⟩ := inv.makeClientConnector c
    rw [Runtime.step, ok] at taken
    cases taken
    exact kept
  | destroyClient c =>
    cases taken
    unfold Runtime.destroyClient
    split
    · exact inv.setRecord ⟨(inv.fits _).server, nofun, nofun⟩ (inv.exists_server _)
    · exact inv

end

/-- While servers of one record are not created side by side, every server can be
enabled, and clients are connected to compatible servers only. -/
theorem reachable_enable_isOk (reachable : ((ofStep start step).restrict
      RecordUnused).Reachable runtime) :
    (∀ server, (runtime.enable server).isOk = true) ∧
      ∀ key, (runtime.records key).connected = true → ∃ server client,
        (runtime.records key).server = some server ∧
        (runtime.records key).client = some client ∧ server.1.id = client.1.id ∧
        server.1.major = client.1.major ∧ client.1.minor ≤ server.1.minor := by
  have invariant : runtime.Invariant :=
    reachable.preserves ⟨fun _ => ⟨nofun, nofun, nofun⟩, nofun, nofun⟩ fun kept => kept.step
  refine ⟨fun server => ?_, fun key connected => ?_⟩
  · obtain ⟨after, ok, -⟩ := invariant.enable server
    rw [ok]
    rfl
  · obtain ⟨server, client, isServer, isClient, compatible⟩ :=
      (invariant.fits key).connected connected
    refine ⟨server, client, isServer, isClient, ?_⟩
    simpa [isInterfaceCompatible, isMinorVersionCompatible, and_assoc] using compatible

theorem client_connected_to_newer_server :
    ∃ runtime : Runtime, (∀ server, (runtime.enable server).isOk = true) ∧
      (runtime.records ⟨"radar", 1, "front"⟩).connected = true := by
  have made := (TransitionSystem.Reachable.initial rfl :
    ((ofStep start step).restrict RecordUnused).Reachable
      start).allowedStep (.makeServerConnector (⟨"radar", 1, 2⟩, "front")) nofun rfl
  have enabled := made.allowedStep (.enable (⟨"radar", 1, 2⟩, "front")) trivial rfl
  have reachable := enabled.allowedStep
    (.makeClientConnector (⟨"radar", 1, 1⟩, "front")) trivial rfl
  exact ⟨_, (reachable_enable_isOk reachable).1, rfl⟩

theorem minor_versions_collide :
    ∃ runtime, (ofStep start step).Reachable runtime ∧
      runtime.enable (⟨"radar", 1, 1⟩, "front") = .error .duplicateServer := by
  exact exists_reachable [.makeServerConnector (⟨"radar", 1, 0⟩, "front"),
    .makeServerConnector (⟨"radar", 1, 1⟩, "front"), .enable (⟨"radar", 1, 0⟩, "front")]
    ⟨_, rfl, rfl⟩

end Runtime

end ScoreIntegration.Socom
