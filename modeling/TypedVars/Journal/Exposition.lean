import TypedVars.Journal

/-!
# The counters as text

Monitoring reads the counters as lines of text, a family of lines for each.  A family appears once
something has been counted in it, and the families stand in the order of their names.  The waits for
locks are a histogram; how long each wait was depends on the clock, so this library leaves measured
numbers open and writes `*` for them.
-/

namespace TypedVars

/-- A family of lines: its name, what it counts, and the kind of number it is. -/
structure Family where
  name : String
  help : String
  kind : String

namespace Family

/-- The two lines that introduce a family. -/
def header (f : Family) : List String :=
  ["# HELP " ++ f.name ++ " " ++ f.help, "# TYPE " ++ f.name ++ " " ++ f.kind]

/-- The lines of a counter. -/
def counterLines (f : Family) (n : Nat) : List String :=
  if n = 0 then [] else f.header ++ [f.name ++ " " ++ toString n]

/-- The line of the waits up to a bound. -/
def bucketLine (f : Family) (bound count : String) : String :=
  f.name ++ "_bucket\x7ble=\"" ++ bound ++ "\"\x7d " ++ count

/-- The lines of a histogram. -/
def histogramLines (f : Family) (bounds : List String) (n : Nat) : List String :=
  if n = 0 then []
  else
    f.header ++ bounds.map (f.bucketLine · "*") ++
      [f.bucketLine "+Inf" (toString n), f.name ++ "_sum *", f.name ++ "_count " ++ toString n]

end Family

namespace Counters

/-- The upper bounds of the waits, in seconds. -/
def waitBounds : List String :=
  ["0.0001", "0.0005", "0.001", "0.005", "0.01", "0.05", "0.1", "0.5", "1", "5"]

/-- The lines of all families that have counted something. -/
def exposition (c : Counters) : List String :=
  Family.counterLines ⟨"typed_store_decode_errors_total",
      "Stored values that could not be decoded", "counter"⟩ c.decodeErrors ++
    Family.counterLines ⟨"typed_store_increment_resets_total",
      "Increments that replaced a non-numeric value with the delta", "counter"⟩ c.resets ++
    Family.counterLines ⟨"typed_store_increments_total",
      "Total increments applied", "counter"⟩ c.increments ++
    Family.counterLines ⟨"typed_store_lock_timeouts_total",
      "Lock acquisitions that gave up after the configured timeout", "counter"⟩ c.lockTimeouts ++
    Family.histogramLines ⟨"typed_store_lock_wait_seconds",
      "Time spent waiting for a per-key lock", "histogram"⟩ waitBounds c.lockWaits

end Counters

end TypedVars
