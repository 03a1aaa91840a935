import SplitSnapshot.Postgres.Statement
import SplitSnapshot.Read.Exchange
import SplitSnapshot.Split

namespace SplitSnapshot

/-- A server as a function from statements to answers, on a state of any type. -/
structure Server (ρ : Type) where
  respond : (s : Statement) → ρ → Except ClientError s.Reply × ρ

structure CursorTag where
  chars : List Char
  alphanumeric : chars.all Char.isAlphanum = true

def CursorTag.name (tag : CursorTag) : String :=
  "rivven_split_" ++ String.ofList tag.chars

structure Surroundings (τ : Type) where
  send : SplitEvent → τ → Except ReadError Unit × τ
  cancelled : τ → Bool
  clock : τ → Nat
  wallMillis : τ → Int
  afterTrip : τ → τ
  cursorTag : τ → CursorTag × τ

inductive ScanState where
  | open
  | exhausted
  | failed (message : String)
  | closed
  deriving DecidableEq, Repr

structure CursorScan where
  cursor : String
  batch : Nat
  schema : TableSchema
  mapping : Option ColumnMapping
  buffer : List Row
  state : ScanState
  deriving Repr

structure Trip where
  statement : Statement
  answer : Except ClientError statement.Reply

structure Client (ρ τ : Type) where
  server : ρ
  trips : List Trip
  scan : Option CursorScan
  around : τ

namespace Client

variable {ρ τ : Type}

def start (server : ρ) (around : τ) : Client ρ τ :=
  ⟨server, [], none, around⟩

def issue (sv : Server ρ) (env : Surroundings τ) (s : Statement) (wrap : ClientError → ReadError) :
    Exchange (Client ρ τ) s.Reply :=
  fun c =>
    if s.isEncodable then
      let (answer, server) := sv.respond s c.server
      ⟨answer.mapError wrap, [],
        { c with
          server := server
          trips := c.trips ++ [⟨s, answer⟩]
          around := env.afterTrip c.around }⟩
    else ⟨.error (wrap .encoding), [], c⟩

def setScan (scan : CursorScan) : Exchange (Client ρ τ) Unit :=
  .change fun c => { c with scan := some scan }

def freshCursor (env : Surroundings τ) : Exchange (Client ρ τ) String :=
  fun c =>
    let (tag, around) := env.cursorTag c.around
    ⟨.ok tag.name, [], { c with around := around }⟩

end Client

end SplitSnapshot
