import SplitSnapshot.Fault
import SplitSnapshot.Watermark

namespace SplitSnapshot

inductive Cause where
  | client (e : ClientError)
  | position (text : String)
  | stated (message : String)
  deriving DecidableEq, Repr

def Cause.message : Cause → String
  | client e => e.message
  | position text => "invalid LSN: " ++ text
  | stated message => message

inductive ReadError where
  | client (e : ClientError)
  | sourceUnavailable (fault : SourceFault) (cause : Option Cause)
  | queryConstruction (fault : QueryFault)
  | scanFailed (fault : ScanFault) (cause : Option Cause)
  | snapshottingFailed (table : TableId) (source : ReadError)
  | interrupted
  | watermarkFailed (kind : WatermarkKind) (source : ReadError)
  | schema (fault : SchemaFault)
  | config (fault : ConfigFault)
  | sinkClosed (fault : SinkFault)
  deriving Repr

inductive ErrorCategory where
  | database
  | replication
  | schema
  | configuration
  | sink
  | cancellation
  deriving DecidableEq, Repr

def ErrorCategory.name : ErrorCategory → String
  | database => "database"
  | replication => "replication"
  | schema => "schema"
  | configuration => "configuration"
  | sink => "sink"
  | cancellation => "cancellation"

namespace ReadError

def message : ReadError → String
  | client e => "PostgreSQL error: " ++ e.message
  | sourceUnavailable fault _ => "Source unavailable: " ++ fault.message
  | queryConstruction fault => fault.sentence
  | scanFailed fault _ => "Scan failed: " ++ fault.message
  | snapshottingFailed table source =>
      "Snapshotting of table " ++ table.text ++ " failed: " ++ source.message
  | interrupted => "Snapshot split read interrupted"
  | watermarkFailed kind source =>
      "Failed to acquire " ++ kind.name ++ " watermark: " ++ source.message
  | schema fault => "Schema error: " ++ fault.message
  | config fault => "Configuration error: " ++ fault.message
  | sinkClosed fault => "Event sink closed: " ++ fault.message

def code : ReadError → String
  | client _ => "postgres_error"
  | sourceUnavailable _ _ => "source_unavailable"
  | queryConstruction _ => "query_construction"
  | scanFailed _ _ => "scan_failed"
  | snapshottingFailed _ _ => "snapshotting_failed"
  | interrupted => "interrupted"
  | watermarkFailed _ _ => "watermark_acquisition_failed"
  | schema _ => "schema_error"
  | config _ => "config_error"
  | sinkClosed _ => "sink_closed"

def category : ReadError → ErrorCategory
  | client _ | scanFailed _ _ | snapshottingFailed _ _ => .database
  | sourceUnavailable _ _ | watermarkFailed _ _ => .replication
  | queryConstruction _ | config _ => .configuration
  | schema _ => .schema
  | sinkClosed _ => .sink
  | interrupted => .cancellation

def isRetriable : ReadError → Bool
  | sourceUnavailable _ _ | scanFailed _ _ | interrupted => true
  | snapshottingFailed _ source | watermarkFailed _ source => source.isRetriable
  | client e => e.isTransient
  | queryConstruction _ | schema _ | config _ | sinkClosed _ => false

def isInterrupted : ReadError → Bool
  | interrupted => true
  | _ => false

def table? : ReadError → Option TableId
  | snapshottingFailed table _ => some table
  | _ => none

def ofTable (table : TableId) : ReadError → ReadError
  | snapshottingFailed t source => snapshottingFailed t source
  | interrupted => interrupted
  | source => snapshottingFailed table source

def chain : ReadError → List String
  | client e => [e.message]
  | sourceUnavailable _ cause | scanFailed _ cause => (cause.map Cause.message).toList
  | snapshottingFailed _ source | watermarkFailed _ source => source.message :: source.chain
  | _ => []

theorem isRetriable_ofTable (table : TableId) (e : ReadError) :
    (ofTable table e).isRetriable = e.isRetriable := by
  cases e <;> rfl

theorem ofTable_ofTable (t u : TableId) (e : ReadError) :
    ofTable u (ofTable t e) = ofTable t e := by
  cases e <;> rfl

end ReadError

end SplitSnapshot
