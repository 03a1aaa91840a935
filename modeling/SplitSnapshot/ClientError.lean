namespace SplitSnapshot

inductive ClientError where
  | server (code : String) (message : String)
  | closed
  | rowCount
  | column (index : Nat)
  | encoding
  | configuration
  deriving DecidableEq, Repr

namespace ClientError

def message : ClientError → String
  | server _ _ => "db error"
  | closed => "connection closed"
  | rowCount => "query returned an unexpected number of rows"
  | column index => "error deserializing column " ++ toString index
  | encoding => "error encoding message to server"
  | configuration => "invalid connection string"

def startsWith (start code : String) : Bool :=
  start.toList.isPrefixOf code.toList

/-- A code of a lost connection, a rolled back transaction, exhausted resources or an operator's
intervention, but not of a cancelled query; or a closed connection. -/
def isTransient : ClientError → Bool
  | server code _ =>
      startsWith "08" code || startsWith "40" code || startsWith "53" code ||
        (startsWith "57" code && code != "57014")
  | closed => true
  | _ => false

end ClientError

end SplitSnapshot
