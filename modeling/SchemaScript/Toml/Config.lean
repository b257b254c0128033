import SchemaScript.Config
import SchemaScript.Toml.Reader

/-! Configurations in TOML.

The keys of a configuration may be missing and keep their defaults then; other keys are passed
over, as long as the document is well-formed. -/
namespace SchemaScript

namespace Toml.Entries

/-- The value of a key that stands for a boolean. -/
def flagOr (fallback : Bool) (es : Entries) (key : String) : Option Bool :=
  match es.lookup key with
  | none => some fallback
  | some (.flag b) => some b
  | some _ => none

/-- A dialect is named by a text, or by the only key of a table with nothing under it. -/
def dialectOr (fallback : Dialect) (es : Entries) (key : String) : Option Dialect :=
  match es.lookup key with
  | none => some fallback
  | some (.text name) => Dialect.ofLabel? name
  | some (.table _ [(name, .table _ [])]) => Dialect.ofLabel? name
  | some (.table _ [(name, .array [])]) => Dialect.ofLabel? name
  | some _ => none

def source? (es : Entries) (key : String) : Option (Option Source) :=
  match es.lookup key with
  | none => some none
  | some (.text name) => (Source.ofLabel? name).map some
  | some _ => none

end Toml.Entries

namespace Config

def ofEntries? (es : Toml.Entries) : Option Config := do
  let base : Config := {}
  let comments ← es.flagOr base.comments "comments"
  let protectNames ← es.flagOr base.protectNames "protect_ids"
  let tables ← es.flagOr base.tables "tables"
  let foreignKeys ← es.flagOr base.foreignKeys "foreign_keys"
  let dialect ← es.dialectOr base.dialect "dialect"
  let source ← es.source? "source"
  pure { comments, protectNames, tables, foreignKeys, dialect, source }

/-- Why a configuration cannot be had. -/
inductive LoadFault where
  /-- There is no such file, or it holds no text. -/
  | unreadable
  /-- The text is no configuration. -/
  | malformed
  deriving DecidableEq

def LoadFault.title : LoadFault → String
  | unreadable => "IO error"
  | malformed => "Parse error"

def ofToml (text : String) : Except LoadFault Config :=
  match (Toml.Document.read? text).bind fun d => ofEntries? d.root with
  | some c => .ok c
  | none => .error .malformed

/-- The configuration in a file with these contents, if there is a file. -/
def ofFile (contents : Option ByteArray) : Except LoadFault Config :=
  match contents.bind String.fromUTF8? with
  | some text => ofToml text
  | none => .error .unreadable

end Config

end SchemaScript
