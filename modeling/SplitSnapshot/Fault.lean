import SplitSnapshot.ClientError
import SplitSnapshot.Json.Printing
import SplitSnapshot.Key.Type
import SplitSnapshot.Key.Value
import SplitSnapshot.Lsn
import SplitSnapshot.Table.Identifier

namespace SplitSnapshot

inductive QueryFault where
  | invalidKey (value : Json) (type : KeyType)
  | unusableType (type : KeyType)
  | emptySplitId
  | noKeyColumn (splitId : String)
  | incomparableKey (column : String) (type : KeyType)
  | boundsReversed (splitId : String) (lower upper : Key)
  | nulInQuery
  | unknownKeyColumn (column : String) (table : TableId)
  | stated (message : String)
  deriving Repr

def QueryFault.message : QueryFault → String
  | invalidKey value type => "Value " ++ value.print ++ " is not a valid " ++ type.sqlName ++ " key"
  | unusableType type => "Type " ++ type.sqlName ++ " cannot be used as a split key"
  | emptySplitId => "Split id must not be empty"
  | noKeyColumn splitId => "Split " ++ splitId ++ " has no split key column"
  | incomparableKey column type =>
      "Split key " ++ column ++ " of type " ++ type.sqlName ++ " is not comparable"
  | boundsReversed splitId lower upper =>
      "Split " ++ splitId ++ " has lower bound " ++ lower.display ++ " above upper bound " ++
        upper.display
  | nulInQuery => "Split scan query contains a NUL byte"
  | unknownKeyColumn column table =>
      "Split key " ++ column ++ " is not a column of " ++ table.text
  | stated message => message

def QueryFault.sentence (fault : QueryFault) : String :=
  "Query construction error: " ++ fault.message

inductive SourceFault where
  | unavailableOnCall (call : Nat)
  | noPosition
  | positionsReversed (high low : Lsn)
  | queryFailed
  | unreadable
  | unparseable
  | connectionFailed
  | stated (message : String)
  deriving DecidableEq, Repr

def SourceFault.message : SourceFault → String
  | unavailableOnCall call => "position unavailable on call " ++ toString call
  | noPosition => "no position recorded"
  | positionsReversed high low =>
      "high watermark " ++ high.text ++ " precedes low watermark " ++ low.text
  | queryFailed => "Failed to get WAL LSN"
  | unreadable => "Failed to read WAL LSN"
  | unparseable => "Unparseable WAL LSN"
  | connectionFailed => "PostgreSQL connection failed"
  | stated message => message

inductive ScanFault where
  | unknownTable (table : TableId)
  | invalidRowKey (fault : QueryFault)
  | beginFailed
  | declareFailed
  | fetchFailed
  | finishFailed
  | rollbackFailed
  | undecodable (column : String)
  | alreadyFailed (message : String)
  | stated (message : String)
  deriving Repr

def ScanFault.message : ScanFault → String
  | unknownTable table => "Table " ++ table.text ++ " not found"
  | invalidRowKey fault => fault.sentence
  | beginFailed => "Failed to begin split scan"
  | declareFailed => "Failed to declare split cursor"
  | fetchFailed => "Failed to fetch split rows"
  | finishFailed => "Failed to close split cursor"
  | rollbackFailed => "Failed to roll back split scan"
  | undecodable column => "Failed to decode column " ++ column
  | alreadyFailed message => "Split scan already failed: " ++ message
  | stated message => message

inductive SchemaFault where
  | unknownTable (table : TableId)
  | columnsUnavailable (table : TableId) (cause : ClientError)
  | noDecoding (column : String) (type : String) (cause : ClientError)
  | stated (message : String)
  deriving DecidableEq, Repr

def SchemaFault.message : SchemaFault → String
  | unknownTable table => "Unknown table " ++ table.text
  | columnsUnavailable table cause =>
      "Failed to get columns of " ++ table.text ++ ": " ++ cause.message
  | noDecoding column type cause =>
      "Column " ++ column ++ " of type " ++ type ++ " has no decoding: " ++ cause.message
  | stated message => message

inductive ConfigFault where
  | zeroFetchSize
  | zeroInterval
  | invalidTable (text : String)
  | stated (message : String)
  deriving DecidableEq, Repr

def ConfigFault.message : ConfigFault → String
  | zeroFetchSize => "fetch_size must be greater than 0"
  | zeroInterval => "progress_interval must be greater than 0"
  | invalidTable text => "Invalid table identifier: " ++ text
  | stated message => message

inductive SinkFault where
  | receiverDropped
  | stated (message : String)
  deriving DecidableEq, Repr

def SinkFault.message : SinkFault → String
  | receiverDropped => "split event receiver dropped"
  | stated message => message

end SplitSnapshot
