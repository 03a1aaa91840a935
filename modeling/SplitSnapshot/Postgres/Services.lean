import SplitSnapshot.Postgres.CursorScan
import SplitSnapshot.Postgres.Lookup

namespace SplitSnapshot

namespace Client

variable {ρ τ : Type}

def send (env : Surroundings τ) (event : SplitEvent) (c : Client ρ τ) : Answer (Client ρ τ) Unit :=
  let (answer, around) := env.send event c.around
  ⟨answer, [], { c with around := around }⟩

def services (sv : Server ρ) (env : Surroundings τ) : Services (Client ρ τ) where
  schema := tableSchema sv env
  position := position sv env
  openScan := openScan sv env
  nextRow := nextRow sv env
  closeScan := closeScan sv env
  send := send env
  cancelled c := env.cancelled c.around
  clock c := env.clock c.around
  wallMillis c := env.wallMillis c.around

end Client

end SplitSnapshot
