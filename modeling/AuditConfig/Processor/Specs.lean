import AuditConfig.Field.Spec

/-!
# The fields of the processors

Every processor declares its fields: the name of each, the key under which a raw
map holds it, and the default it falls back to, whose kind is the type of the
field.
-/

namespace AuditConfig
namespace Processor

/-- A field that holds a text. -/
def textSpec (name key default : String) : FieldSpec := ⟨name, key, .string, .text default⟩

/-- A field that holds a whole number. -/
def wholeSpec (name key : String) (default : Int) : FieldSpec := ⟨name, key, .integer, .int default⟩

/-- A field that holds a truth value. -/
def truthSpec (name key : String) (default : Bool) : FieldSpec :=
  ⟨name, key, .boolean, .bool default⟩

/-- The audit pipeline itself: its streams and formats, the processors it runs, and the names of
the event fields that carry the standard audit attributes. -/
def commonSpecs : List FieldSpec := [
  textSpec "audit_class_name" "audit.auditClassName" "SyncAudit",
  textSpec "default_audit_stream"
    "audit.defaultAuditStreamName" "Default audit stream - CONFIGURE ME!",
  textSpec "encoding" "audit.encoding" "UTF-8",
  textSpec "date_format" "audit.dateFormat" "%Y-%m-%dT%H:%M:%S.%f%z",
  textSpec "processors" "audit.processors" "",
  truthSpec "fail_on_missing_processors" "audit.failOnMissingProcessors" true,
  textSpec "field_name_event_type" "audit.fieldName.eventType" "eventType",
  textSpec "field_name_event_group_type" "audit.fieldName.eventGroupType" "eventGroupType",
  textSpec "field_name_subject" "audit.fieldName.subject" "subject",
  textSpec "field_name_subject_location" "audit.fieldName.subjectLocation" "subjectLocation",
  textSpec "field_name_actor" "audit.fieldName.actor" "actor",
  textSpec "field_name_object" "audit.fieldName.object" "object",
  textSpec "field_name_object_location" "audit.fieldName.objectLocation" "objectLocation",
  textSpec "field_name_content_before_operation"
    "audit.fieldName.contentBeforeOperation" "contentBeforeOperation",
  textSpec "field_name_content_after_operation"
    "audit.fieldName.contentAfterOperation" "contentAfterOperation",
  textSpec "field_name_result" "audit.fieldName.result" "result",
  textSpec "field_name_result_summary" "audit.fieldName.resultSummary" "resultSummary",
  textSpec "field_name_event_summary" "audit.fieldName.eventSummary" "eventSummary"]

/-- The processor that stores events in Cassandra: the statement that inserts an event, and the
event field that holds the row key. -/
def cassandraSpecs : List FieldSpec := [
  textSpec "insert_event_sql_stmt"
    "audit.processor.cassandra.insertEventSqlStmt" "TODO - CONFIGURE ME!",
  textSpec "string_encoding" "audit.processor.cassandra.stringEncoding" "UTF-8",
  textSpec "event_id_field_name"
    "audit.processor.cassandra.eventIdFieldName" "TODO - CONFIGURE ME!"]

/-- The processors that store events through an SQL database, with a table of indexed event
fields beside the events. -/
def jdbcSpecs : List FieldSpec := [
  textSpec "insert_event_sql_stmt"
    "audit.processor.jdbc.insertEventSqlStmt" "TODO - CONFIGURE ME!",
  textSpec "string_encoding" "audit.processor.jdbc.stringEncoding" "UTF-8",
  textSpec "event_id_field_name" "audit.processor.jdbc.eventIdFieldName" "TODO - CONFIGURE ME!",
  textSpec "indexed_fields" "audit.processor.jdbc.indexedFields" "",
  wholeSpec "indexed_fields_max_length" "audit.processor.jdbc.indexedFieldsMaxLength" 255,
  truthSpec "indexed_fields_to_lower" "audit.processor.jdbc.indexedFieldsToLower" false,
  textSpec "insert_indexed_field_sql_stmt"
    "audit.processor.jdbc.insertIndexedFieldSqlStmt" "TODO - CONFIGURE ME!",
  textSpec "indexed_field_separator" "audit.processor.jdbc.indexedFieldSeparator" ",",
  textSpec "indexed_field_name_separator" "audit.processor.jdbc.indexedFieldNameSeparator" ":",
  textSpec "jndi_connection_name"
    "audit.processor.jdbc.jndi.connectionName" "TODO - CONFIGURE ME!",
  textSpec "data_source_name" "audit.processor.jdbc.dataSource.Name" "TODO - CONFIGURE ME!"]

/-- The processor that writes events to the application log, with event fields copied into the
logging context. -/
def logSpecs : List FieldSpec := [
  textSpec "marker" "audit.processor.log.marker" "[AUDIT] ",
  textSpec "string_encoding" "audit.processor.log.stringEncoding" "UTF-8",
  textSpec "audit_stream_field_name" "audit.processor.log.auditStreamFieldName" "auditStreamName",
  textSpec "serialized_event_field_name"
    "audit.processor.log.serializedEventFieldName" "serializedEvent",
  textSpec "mdc_fields" "audit.processor.log.mdcFields" "",
  textSpec "mdc_field_separator" "audit.processor.log.mdcFieldSeparator" ",",
  textSpec "mdc_field_name_separator" "audit.processor.log.mdcFieldNameSeparator" ":"]

/-- The processor that stamps the time onto an event. -/
def timestampSpecs : List FieldSpec := [
  textSpec "timezone" "audit.processor.timestamp.timezone" "America/Denver",
  textSpec "format" "audit.processor.timestamp.format" "%Y-%m-%dT%H:%M:%S.%f%z",
  textSpec "event_field_name"
    "audit.processor.timestamp.eventFieldName" "auditkit.processors.timestamp"]

/-- The processor that stamps the emitting machine onto an event: a given name, else one from an
environment variable, else the name of the host. -/
def machineIdSpecs : List FieldSpec := [
  textSpec "machine_id" "audit.processor.machineId.machineId" "",
  textSpec "event_field_name"
    "audit.processor.machineId.eventFieldName" "auditkit.processors.machineid",
  truthSpec "machine_id_from_env" "audit.processor.machineId.fromEnv" false,
  textSpec "machine_id_env_name" "audit.processor.machineId.envName" "MACHINE_ID",
  truthSpec "machine_id_from_hostname" "audit.processor.machineId.fromHostname" false]

/-- The processor that stamps a random identifier onto an event. -/
def eventIdSpecs : List FieldSpec := [
  wholeSpec "length" "audit.processor.eventId.length" 32,
  textSpec "event_field_name"
    "audit.processor.eventId.eventFieldName" "auditkit.processors.eventid"]

end Processor
end AuditConfig
