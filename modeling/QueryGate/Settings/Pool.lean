import QueryGate.Json.Printer
import QueryGate.Json.Shape
/-!
Settings of the pool of connections.
-/
set_option autoImplicit false

namespace QueryGate.Settings

open Json

/-- Settings of a pool of connections. All times are in seconds; a missing one means no limit. -/
structure PoolSettings where
  maxConnections : UInt32
  /-- How long to wait for a connection. -/
  poolTimeout : UInt64
  /-- How long a connection may stay idle. -/
  idleTimeout : Option UInt64
  /-- How long a connection may live. -/
  connectionLifetime : Option UInt64
deriving DecidableEq, Repr

namespace PoolSettings

/-- The settings of a pool for which nothing is said. -/
def standard : PoolSettings := ⟨10, 5, some 10, some 600⟩

/-- Whether a connection can be used again after a request. One that may not stay idle or live at all cannot. -/
def keepsConnections (s : PoolSettings) : Bool := s.idleTimeout ≠ some 0 && s.connectionLifetime ≠ some 0

/-- Settings as far as they have been read. -/
structure Draft where
  maxConnections : Option UInt32
  poolTimeout : Option UInt64
  idleTimeout : Option (Option UInt64)
  connectionLifetime : Option (Option UInt64)

/-- The settings that a draft makes: what it does not say is standard. -/
def Draft.finish (d : Draft) : PoolSettings where
  maxConnections := d.maxConnections.getD standard.maxConnections
  poolTimeout := d.poolTimeout.getD standard.poolTimeout
  idleTimeout := d.idleTimeout.getD standard.idleTimeout
  connectionLifetime := d.connectionLifetime.getD standard.connectionLifetime

/-- The shape of the settings. -/
def shape : Shape PoolSettings :=
  Shape.record ⟨"struct PoolSettings",
    [Shape.field "maxConnections" Draft.maxConnections (fun d x => { d with maxConnections := some x }) .word32,
      Shape.field "poolTimeout" Draft.poolTimeout (fun d x => { d with poolTimeout := some x }) .word64,
      Shape.field "idleTimeout" Draft.idleTimeout (fun d x => { d with idleTimeout := some x })
        (.optional .word64),
      Shape.field "connectionLifetime" Draft.connectionLifetime (fun d x => { d with connectionLifetime := some x })
        (.optional .word64)],
    ⟨none, none, none, none⟩,
    fun d => .ok d.finish⟩

/-- Reads the settings from their text. -/
def ofText (text : String) : Except Fault PoolSettings := shape.readText text

/-- The document of a number of seconds. -/
def seconds : Option UInt64 → Tree
  | some n => .number (.natural n.toNat)
  | none => .null

/-- The document of the settings. -/
def toTree (s : PoolSettings) : Tree :=
  .object [("maxConnections", .number (.natural s.maxConnections.toNat)),
    ("poolTimeout", .number (.natural s.poolTimeout.toNat)),
    ("idleTimeout", seconds s.idleTimeout),
    ("connectionLifetime", seconds s.connectionLifetime)]

end PoolSettings

end QueryGate.Settings
