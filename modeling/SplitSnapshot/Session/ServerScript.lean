import SplitSnapshot.Postgres.Client

namespace SplitSnapshot

structure Refusal where
  number : Nat
  code : String
  message : String
  deriving DecidableEq, Repr

structure ServerScript where
  columns : List ColumnRow
  result : ResultSet
  positions : List (Option String)
  refusals : List Refusal
  deriving Repr

structure Receipt where
  statement : Statement
  carriedOut : Bool
  deriving DecidableEq, Repr

structure ScriptedServer where
  script : ServerScript
  received : List Receipt
  connected : Bool
  positions : List (Option String)
  pending : List (List (Option Bytes))
  deriving Repr

namespace ScriptedServer

def start (script : ServerScript) : ScriptedServer :=
  ⟨script, [], true, script.positions, script.result.rows⟩

def receive (s : ScriptedServer) (statement : Statement) (carriedOut : Bool) : ScriptedServer :=
  { s with received := s.received ++ [⟨statement, carriedOut⟩] }

def rewind (s : ScriptedServer) : ScriptedServer :=
  { s with pending := s.script.result.rows }

def declaresCursor (sql : String) : Bool :=
  (Text.dropStart? "DECLARE".toList sql.toList).isSome

def carryOut (s : ScriptedServer) : (statement : Statement) → statement.Reply × ScriptedServer
  | .columns _ => (s.script.columns, s)
  | .position =>
      (s.positions.head?.toList,
        if s.positions.length ≤ 1 then s else { s with positions := s.positions.tail })
  | .declare _ _ => ((), s.rewind)
  | .fetch _ rows =>
      (⟨s.script.result.columns, s.pending.take rows⟩, { s with pending := s.pending.drop rows })
  | .raw sql => ((), if declaresCursor sql then s.rewind else s)
  | .begin | .finish _ | .rollback => ((), s)

def respond (statement : Statement) (s : ScriptedServer) :
    Except ClientError statement.Reply × ScriptedServer :=
  if !s.connected then (.error .closed, s)
  else
    match s.script.refusals.find? fun r => r.number = s.received.length + 1 with
    | some r =>
        let s := s.receive statement false
        if r.code.isEmpty then (.error .closed, { s with connected := false })
        else (.error (.server r.code r.message), s)
    | none =>
        let (reply, s) := (s.receive statement true).carryOut statement
        (.ok reply, s)

def server : Server ScriptedServer := ⟨respond⟩

end ScriptedServer

end SplitSnapshot
