import Vicinity.EventStream
import Vicinity.Policy

/-! The settings of a node. Each may be left out. -/
namespace Vicinity

structure WorkerConfig where
  /-- Left out, it depends on the machine. -/
  maxWorkers : Option Nat
  /-- In milliseconds. -/
  idleTimeout : Nat
  deriving DecidableEq

structure Config where
  workers : WorkerConfig
  /-- How long a departure may be unconfirmed, in milliseconds. -/
  checkoutGrace : Nat
  /-- How many geofences may be watched at a time. -/
  geofenceLimit : Nat
  /-- Every so many scans a beacon report is published. -/
  reportInterval : UInt32
  /-- The capacity of the event stream. -/
  queueCapacity : Nat
  /-- The policy at the start. -/
  advertise : Policy
  deriving DecidableEq

def WorkerConfig.standard : WorkerConfig := ⟨none, 10000⟩

def Config.standard : Config := ⟨.standard, 30000, 5, 6, EventStream.defaultCapacity, .shown⟩

/-- How many values a word has. -/
def Config.word : Nat := 0x10000000000000000

def Config.halfWord : Nat := 0x100000000

open Json (Decoder Fields)

def WorkerConfig.decoder : Decoder WorkerConfig :=
  (Fields.none.and "max_workers" (.natural Config.word)
    |>.and "idle_timeout_ms" (.natural Config.word)).decoder
  fun (((), maxWorkers), idleTimeout) =>
    .ok ⟨maxWorkers, idleTimeout.getD standard.idleTimeout⟩

def WorkerConfig.toJson (c : WorkerConfig) : Json :=
  .obj [("idle_timeout_ms", .int c.idleTimeout),
    ("max_workers", (c.maxWorkers.map fun n => .int n).getD (.str "default"))]

namespace Config

def decoder : Decoder Config :=
  (Fields.none.and "scheduler" WorkerConfig.decoder
    |>.and "checkout_grace_ms" (.natural word)
    |>.and "geofence_subscription_limit" (.natural word)
    |>.and "beacon_report_interval" (.natural halfWord)
    |>.and "event_queue_capacity" (.natural word)
    |>.and "advertise" Policy.decoder).decoder
  fun (((((((), workers), grace), limit), interval), capacity), advertise) => .ok {
    workers := workers.getD standard.workers
    checkoutGrace := grace.getD standard.checkoutGrace
    geofenceLimit := limit.getD standard.geofenceLimit
    reportInterval := (interval.map .ofNat).getD standard.reportInterval
    queueCapacity := capacity.getD standard.queueCapacity
    advertise := advertise.getD standard.advertise }

def toJson (c : Config) : Json :=
  .obj [("advertise", c.advertise.toJson), ("beacon_report_interval", .int c.reportInterval.toNat),
    ("checkout_grace_ms", .int c.checkoutGrace), ("event_queue_capacity", .int c.queueCapacity),
    ("geofence_subscription_limit", .int c.geofenceLimit), ("scheduler", c.workers.toJson)]

end Config

end Vicinity
