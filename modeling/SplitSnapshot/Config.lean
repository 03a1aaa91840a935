import SplitSnapshot.Duration
import SplitSnapshot.ReadError

namespace SplitSnapshot

structure Config where
  fetchSize : Nat
  progressInterval : Duration
  deriving DecidableEq, Repr

namespace Config

def standard : Config :=
  ⟨1024, Duration.ofSeconds 10⟩

def highThroughput : Config :=
  ⟨8192, Duration.ofSeconds 30⟩

def lowMemory : Config :=
  ⟨256, Duration.ofSeconds 5⟩

def withFetchSize (c : Config) (n : Nat) : Config :=
  { c with fetchSize := max n 1 }

def withInterval (c : Config) (d : Duration) : Config :=
  { c with progressInterval := d }

def validate (c : Config) : Except ConfigFault Unit :=
  if c.fetchSize = 0 then .error .zeroFetchSize
  else if c.progressInterval.nanos = 0 then .error .zeroInterval
  else .ok ()

def toJson (c : Config) : Json :=
  .ofFields [
    ("fetch_size", .int c.fetchSize),
    ("progress_interval", .text (String.ofList c.progressInterval.text))]

def ofJson? (v : Json) : Option Config := do
  let v ← v.record? ["fetch_size", "progress_interval"]
  let fetchSize ← v.default? "fetch_size" standard.fetchSize Json.natural?
  let interval ← v.default? "progress_interval" standard.progressInterval fun d =>
    d.text?.bind fun s => Duration.read? s.toList
  pure ⟨fetchSize, interval⟩

end Config

end SplitSnapshot
